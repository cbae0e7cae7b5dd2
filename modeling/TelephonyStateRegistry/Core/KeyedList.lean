import Mathlib.Data.List.Nodup

/-!
# Lists whose entries have pairwise different keys

A list in which no two entries share their key is a finite map that remembers
the order of insertion. Appending an entry under an absent key and erasing the
first entry with a key both keep the keys different; because of that invariant,
erasing the first match is the same as filtering the key out. Two lists with the
same keys are compared key by key.
-/

namespace Reactive

variable {α κ : Type*} (key : α → κ)

/-- No two entries share their key. -/
def UniqueKeys (xs : List α) : Prop := (xs.map key).Nodup

variable {key}

theorem UniqueKeys.append {xs : List α} (hu : UniqueKeys key xs) {x : α}
    (hx : key x ∉ xs.map key) : UniqueKeys key (xs ++ [x]) := by
  unfold UniqueKeys
  rw [List.map_append, List.map_singleton, List.nodup_append]
  refine ⟨hu, List.nodup_singleton _, ?_⟩
  rintro k hk j hj rfl
  exact hx (List.mem_singleton.mp hj ▸ hk)

theorem UniqueKeys.filter {xs : List α} (hu : UniqueKeys key xs) (p : α → Bool) :
    UniqueKeys key (xs.filter p) :=
  List.Sublist.nodup (List.filter_sublist.map key) hu

/-- With different keys, at most one entry passes a test exactly if all entries
that pass have the same key. -/
theorem UniqueKeys.countP_le_one_iff {xs : List α} (hu : UniqueKeys key xs) (p : α → Bool) :
    xs.countP p ≤ 1 ↔ ∀ x ∈ xs, ∀ y ∈ xs, p x = true → p y = true → key x = key y := by
  have hfilter : ∀ ys : List α, UniqueKeys key ys →
      (ys.length ≤ 1 ↔ ∀ x ∈ ys, ∀ y ∈ ys, key x = key y) := by
    intro ys hys
    match ys with
    | [] => exact iff_of_true (Nat.zero_le 1) fun x hx => absurd hx List.not_mem_nil
    | [a] =>
      refine iff_of_true (Nat.le_refl 1) ?_
      intro x hx y hy
      rw [List.mem_singleton.mp hx, List.mem_singleton.mp hy]
    | a :: b :: rest =>
      refine iff_of_false (by simp only [List.length_cons]; omega) ?_
      intro h
      have hab := h a List.mem_cons_self b (List.mem_cons_of_mem _ List.mem_cons_self)
      have hnot := (List.nodup_cons.mp hys).1
      rw [hab] at hnot
      exact hnot List.mem_cons_self
  rw [List.countP_eq_length_filter, hfilter _ (hu.filter p)]
  simp only [List.mem_filter, and_imp]
  constructor
  · intro h x hx y hy hpx hpy
    exact h x hx hpx y hy hpy
  · intro h x hx hpx y hy hpy
    exact h x hx y hy hpx hpy

/-- What is made from pairwise different entries: if all that passes a test comes
from one entry, it is counted there. -/
theorem countP_filterMap_of_unique {β : Type*} [DecidableEq α] {f : α → Option β} {p : β → Bool}
    {x : α} (hp : ∀ y b, f y = some b → p b = true → y = x) {xs : List α} (hnodup : xs.Nodup)
    (hx : x ∈ xs) : (xs.filterMap f).countP p = if (f x).any p then 1 else 0 := by
  have hone : ∀ y, ((f y).map p).getD false = (y == x && (f x).any p) := by
    intro y
    by_cases hy : y = x
    · subst hy
      cases hf : f y <;> simp
    · rw [beq_false_of_ne hy, Bool.false_and]
      cases hf : f y with
      | none => rfl
      | some b => exact Bool.eq_false_iff.mpr fun hb => hy (hp y b hf hb)
  rw [List.countP_filterMap]
  simp only [hone]
  cases (f x).any p with
  | false =>
    simp only [Bool.and_false, List.countP_false, Bool.false_eq_true, if_false]
    rfl
  | true =>
    simp only [Bool.and_true, if_true]
    exact List.count_eq_one_of_mem hnodup hx

/-- What is made from a list in which one entry alone makes anything. -/
theorem filterMap_of_unique {β : Type*} {f : α → Option β} {x : α} {xs : List α}
    (hf : ∀ y ∈ xs, y ≠ x → f y = none) (hnodup : xs.Nodup) (hx : x ∈ xs) :
    xs.filterMap f = (f x).toList := by
  induction xs with
  | nil => exact absurd hx List.not_mem_nil
  | cons y xs ih =>
    obtain ⟨hy, hxs⟩ := List.nodup_cons.mp hnodup
    obtain ⟨hhead, htail⟩ := List.forall_mem_cons.mp hf
    by_cases heq : y = x
    · subst heq
      have hnone : xs.filterMap f = [] :=
        List.filterMap_eq_nil_iff.mpr fun z hz => htail z hz fun h => hy (h ▸ hz)
      rw [List.filterMap_cons, hnone]
      cases f y <;> rfl
    · rw [List.filterMap_cons, hhead heq]
      exact ih htail hxs ((List.mem_cons.mp hx).resolve_left (Ne.symm heq))

/-- What entries with the same key have in common is a property of the keys. -/
theorem forall_matched_iff {β : Type*} {key' : β → κ} {xs : List α} {ys : List β}
    (hkeys : ∀ k, k ∈ xs.map key ↔ k ∈ ys.map key') {p : α → β → Prop} {q : κ → Prop}
    (hpq : ∀ x ∈ xs, ∀ y ∈ ys, key' y = key x → (p x y ↔ q (key x))) :
    (∀ x ∈ xs, ∀ y ∈ ys, key' y = key x → p x y) ↔ ∀ k ∈ xs.map key, q k := by
  constructor
  · intro h k hk
    obtain ⟨x, hx, rfl⟩ := List.mem_map.mp hk
    obtain ⟨y, hy, hsame⟩ := List.mem_map.mp ((hkeys _).mp hk)
    exact (hpq x hx y hy hsame).mp (h x hx y hy hsame)
  · intro h x hx y hy hsame
    exact (hpq x hx y hy hsame).mpr (h _ (List.mem_map_of_mem hx))

section Lookup

variable [DecidableEq κ]

variable (key) in
/-- The entry under a key. -/
def lookup (xs : List α) (k : κ) : Option α := xs.find? fun x => key x = k

theorem lookup_eq_none {xs : List α} {k : κ} : lookup key xs k = none ↔ k ∉ xs.map key := by
  simp only [lookup, List.find?_eq_none, decide_eq_true_eq, List.mem_map, not_exists, not_and]

theorem mem_of_lookup {xs : List α} {k : κ} {x : α} (h : lookup key xs k = some x) :
    x ∈ xs ∧ key x = k := by
  have hk := List.find?_some h
  exact ⟨List.mem_of_find?_eq_some h, by simpa only [decide_eq_true_eq] using hk⟩

/-- With different keys, erasing the first entry with a key filters that key out. -/
theorem UniqueKeys.eraseP_eq_filter {xs : List α} (hu : UniqueKeys key xs) (k : κ) :
    xs.eraseP (fun x => key x = k) = xs.filter fun x => key x ≠ k := by
  induction xs with
  | nil => rfl
  | cons x xs ih =>
    obtain ⟨hx, hxs⟩ := List.nodup_cons.mp hu
    by_cases hk : key x = k
    · rw [List.eraseP_cons_of_pos (by simp only [hk, decide_true]),
        List.filter_cons_of_neg (by simp only [hk, ne_eq, not_true_eq_false, decide_false,
          Bool.false_eq_true, not_false_eq_true])]
      symm
      apply List.filter_eq_self.mpr
      intro y hy
      have hne : key y ≠ k := by
        rintro rfl
        exact hx (hk ▸ List.mem_map_of_mem hy)
      simp only [hne, ne_eq, not_false_eq_true, decide_true]
    · rw [List.eraseP_cons_of_neg (by simp only [hk, decide_false, Bool.false_eq_true,
        not_false_eq_true]), List.filter_cons_of_pos (by simp only [hk, ne_eq, not_false_eq_true,
          decide_true]), ih hxs]

/-- Lookup after filtering one key out. -/
theorem lookup_filter_ne (xs : List α) (k j : κ) :
    lookup key (xs.filter fun x => key x ≠ k) j = if j = k then none else lookup key xs j := by
  unfold lookup
  rw [List.find?_filter]
  by_cases hj : j = k
  · subst hj
    rw [if_pos rfl]
    exact List.find?_eq_none.mpr fun x _ => by simp
  · rw [if_neg hj]
    congr 1
    funext x
    by_cases hx : key x = j <;> simp [hx, hj]

/-- Erasing the first entry with a key leaves every other key alone. -/
theorem lookup_eraseP_ne (xs : List α) {k j : κ} (hj : j ≠ k) :
    lookup key (xs.eraseP fun x => key x = k) j = lookup key xs j := by
  induction xs with
  | nil => rfl
  | cons x xs ih =>
    unfold lookup at ih ⊢
    by_cases hk : key x = k
    · have hx : key x ≠ j := fun hx => hj (hx.symm.trans hk)
      simp only [List.eraseP_cons, List.find?_cons, hk, decide_true, cond_true, Ne.symm hj,
        decide_false]
    · simp only [List.eraseP_cons, hk, decide_false, cond_false, List.find?_cons, ih]

/-- Lookup after appending under an absent key. -/
theorem lookup_append_singleton {xs : List α} {x : α} (hx : key x ∉ xs.map key) (j : κ) :
    lookup key (xs ++ [x]) j = if j = key x then some x else lookup key xs j := by
  unfold lookup
  rw [List.find?_append]
  by_cases hj : j = key x
  · subst hj
    have hn : xs.find? (fun y => decide (key y = key x)) = none := lookup_eq_none.mpr hx
    rw [if_pos rfl, hn]
    simp
  · rw [if_neg hj]
    have hx' : [x].find? (fun y => decide (key y = j)) = none := by
      simp only [List.find?_singleton, Ne.symm hj, decide_false, Bool.false_eq_true, if_false]
    rw [hx', Option.or_none]

end Lookup

end Reactive
