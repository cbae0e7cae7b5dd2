import TelephonyStateRegistry.Core.SharedTable

/-!
# What a removal asks a provider for

A removal asks for the withdrawal of the orphaned keys, each once and in order.
One that goes on after a failure asks for all of them and reports the last
failure; one that ends at a failure asks for no more, and reports that failure.
-/

namespace Reactive

/-- The last of some codes that is a failure, or success. -/
def lastFailure {ρ : Type*} [DecidableEq ρ] (success : ρ) (codes : List ρ) : ρ :=
  (codes.filter fun code => code ≠ success).getLast?.getD success

/-- The keys up to the first one that fails, and that one. -/
def throughFailure {κ ρ : Type*} [DecidableEq ρ] (success : ρ) (removed : κ → ρ) :
    List κ → List κ
  | [] => []
  | k :: ks => k :: if removed k = success then throughFailure success removed ks else []

section Codes

variable {κ ρ : Type*} [DecidableEq ρ] {success : ρ} {removed : κ → ρ}

theorem lastFailure_eq_success_iff {codes : List ρ} :
    lastFailure success codes = success ↔ ∀ code ∈ codes, code = success := by
  rw [lastFailure]
  cases hlast : (codes.filter fun code => code ≠ success).getLast? with
  | none =>
    refine iff_of_true rfl ?_
    intro code hcode
    have hnil := List.getLast?_eq_none_iff.mp hlast
    simpa using List.filter_eq_nil_iff.mp hnil code hcode
  | some failure =>
    obtain ⟨hmem, hne⟩ := List.mem_filter.mp (List.mem_of_getLast? hlast)
    have hne : failure ≠ success := of_decide_eq_true hne
    exact iff_of_false hne fun h => hne (h failure hmem)

/-- Every key is reached exactly if none but the last fails. -/
theorem throughFailure_eq_self_iff {ks : List κ} :
    throughFailure success removed ks = ks ↔
      ks.Pairwise fun j _ => removed j = success := by
  induction ks with
  | nil => exact iff_of_true rfl List.Pairwise.nil
  | cons k ks ih =>
    rw [throughFailure, List.cons.injEq, List.pairwise_cons]
    simp only [true_and]
    split_ifs with hk
    · rw [ih]
      exact (and_iff_right fun _ _ => hk).symm
    · cases ks with
      | nil => exact iff_of_true rfl ⟨fun _ h => absurd h List.not_mem_nil, List.Pairwise.nil⟩
      | cons j js =>
        refine iff_of_false (List.cons_ne_nil j js).symm ?_
        exact fun h => hk (h.1 j List.mem_cons_self)

theorem throughFailure_sublist (ks : List κ) :
    (throughFailure success removed ks).Sublist ks := by
  induction ks with
  | nil => exact List.Sublist.slnil
  | cons k ks ih =>
    rw [throughFailure]
    split_ifs
    · exact ih.cons_cons k
    · exact (List.nil_sublist ks).cons_cons k

end Codes

/-- In a list that is strictly in order, what holds of each entry and those after it
is what holds of the entries before others in that order. -/
theorem pairwise_iff_of_ordered {α : Type*} {before p : α → α → Prop}
    (hasymm : ∀ x y, before x y → ¬before y x) {xs : List α} (h : xs.Pairwise before) :
    xs.Pairwise p ↔ ∀ x ∈ xs, ∀ y ∈ xs, before x y → p x y := by
  constructor
  · intro hp
    induction xs with
    | nil => exact fun _ hx => absurd hx List.not_mem_nil
    | cons z zs ih =>
      obtain ⟨hz, hzs⟩ := List.pairwise_cons.mp h
      obtain ⟨hpz, hpzs⟩ := List.pairwise_cons.mp hp
      intro x hx y hy hbefore
      rcases List.mem_cons.mp hx with rfl | hxs <;> rcases List.mem_cons.mp hy with rfl | hys
      · exact absurd hbefore (hasymm _ _ hbefore)
      · exact hpz y hys
      · exact absurd hbefore (hasymm _ _ (hz x hxs))
      · exact ih hzs hpzs x hxs y hys hbefore
  · intro hp
    exact h.imp_of_mem fun hx hy hbefore => hp _ hx _ hy hbefore

namespace Sharing

variable {ε κ ρ : Type*} [DecidableEq κ] [DecidableEq ρ] (T : Sharing ε κ ρ)
  (added removed : κ → ρ) {drop : ε → Bool} {table : List ε}

/-- The orphaned keys, each once and in order. -/
def orphans (drop : ε → Bool) (table : List ε) : List κ :=
  (T.affected (table.filter drop)).filter fun k =>
    !(table.filter fun e => !drop e).any fun e => T.key e = k

omit [DecidableEq ρ] in
theorem mem_orphans_iff {k : κ} : k ∈ T.orphans drop table ↔
    (∃ e ∈ table.filter drop, T.key e = k) ∧
      ∀ e ∈ table.filter (fun e => !drop e), T.key e ≠ k := by
  rw [orphans, List.mem_filter, T.mem_affected, Bool.not_eq_true', List.any_eq_false]
  simp only [decide_eq_true_eq]

omit [DecidableEq ρ] in
theorem mem_orphans {k : κ} : k ∈ T.orphans drop table ↔ T.Orphaned drop table k := by
  have horphaned : T.Orphaned drop (table, ()).1 k ↔ _ := T.orphaned_iff
  rw [T.mem_orphans_iff, ← T.mem_affected]
  exact horphaned.symm

omit [DecidableEq ρ] in
theorem nodup_orphans (drop : ε → Bool) (table : List ε) : (T.orphans drop table).Nodup := by
  refine List.Nodup.filter _ ?_
  exact ((List.perm_insertionSort _ _).nodup_iff).mpr (List.nodup_dedup _)

omit [DecidableEq ρ] in
/-- The keys come in the order of the table's rules, if that is one. -/
theorem pairwise_orphans (htotal : ∀ j k, T.before j k = true ∨ T.before k j = true)
    (htrans : ∀ i j k, T.before i j = true → T.before j k = true → T.before i k = true)
    (drop : ε → Bool) (table : List ε) :
    (T.orphans drop table).Pairwise fun j k => T.before j k = true := by
  have : Std.Total fun j k => T.before j k = true := ⟨htotal⟩
  have : IsTrans κ fun j k => T.before j k = true := ⟨htrans⟩
  exact (List.pairwise_insertionSort _ _).filter _

/-- The keys that a removal asks for, out of those that no kept entry has. -/
def asked (ks : List κ) : List κ :=
  if T.stops then throughFailure T.success removed ks else ks

omit [DecidableEq κ] in
private theorem asked_cons (k : κ) (ks : List κ) :
    T.asked removed (k :: ks) =
      k :: if removed k = T.success ∨ T.stops = false then T.asked removed ks else [] := by
  rw [asked, asked, throughFailure]
  cases T.stops with
  | false => simp only [Bool.false_eq_true, if_false, or_true, if_true]
  | true => simp only [if_true, Bool.true_eq_false, or_false]

private theorem withdraw_recording (kept : List ε) (ks : List κ) (result : ρ) (log : List κ) :
    let js := T.asked removed (ks.filter fun k => !kept.any fun e => T.key e = k)
    T.withdraw (.recording added removed) kept ks result log =
      (((js.map removed).filter fun code => code ≠ T.success).getLast?.getD result,
        log ++ js) := by
  induction ks generalizing result log with
  | nil =>
    have hasked : T.asked removed [] = [] := by
      rw [asked, throughFailure, ite_self]
    simp only [List.filter_nil, hasked, List.map_nil, List.append_nil]
    rfl
  | cons k ks ih =>
    cases hkept : kept.any fun e => T.key e = k with
    | true =>
      rw [withdraw, if_pos hkept, ih, List.filter_cons_of_neg (by rw [hkept]; decide)]
    | false =>
      have hremove : (Provider.recording added removed).remove k log =
          (removed k, log ++ [k]) := rfl
      rw [withdraw, if_neg (by rw [hkept]; decide), List.filter_cons_of_pos (by rw [hkept]; rfl),
        asked_cons, hremove]
      dsimp only
      by_cases hk : removed k = T.success
      · have hcode : ¬decide (removed k ≠ T.success) = true := by
          rw [decide_eq_true_iff]
          exact not_not.mpr hk
        rw [if_pos hk, if_pos (Or.inl hk), ih, List.map_cons,
          List.filter_cons_of_neg (p := fun code => decide (code ≠ T.success)) hcode,
          List.append_assoc, List.singleton_append]
      · have hcode : decide (removed k ≠ T.success) = true := decide_eq_true hk
        rw [if_neg hk]
        cases hstops : T.stops with
        | true =>
          rw [if_pos rfl, if_neg (not_or.mpr ⟨hk, Bool.true_eq_false.mp⟩), List.map_cons,
            List.filter_cons_of_pos (p := fun code => decide (code ≠ T.success)) hcode]
          rfl
        | false =>
          rw [if_neg Bool.false_ne_true, if_pos (Or.inr rfl), ih, List.map_cons,
            List.filter_cons_of_pos (p := fun code => decide (code ≠ T.success)) hcode,
            List.getLast?_cons, Option.getD_some, List.append_assoc, List.singleton_append]

/-- **What a removal does to a record of its requests.** The kept entries stay, the
keys that it asks for are added in order, and it returns the last failure. -/
theorem release_recording (drop : ε → Bool) (table : List ε) (log : List κ) :
    let ks := T.asked removed (T.orphans drop table)
    T.release (.recording added removed) drop (table, log) =
      ((table.filter fun e => !drop e, log ++ ks), lastFailure T.success (ks.map removed)) := by
  cases table with
  | nil =>
    have hasked : T.asked removed (T.orphans drop []) = [] := by
      have horphans : T.orphans drop [] = [] := rfl
      rw [horphans, asked, throughFailure, ite_self]
    simp only [hasked, List.map_nil, List.append_nil]
    rfl
  | cons e es =>
    have hrun := T.withdraw_recording added removed ((e :: es).filter fun e => !drop e)
      (T.affected ((e :: es).filter drop)) T.success log
    simp only [release, List.isEmpty_cons, Bool.false_eq_true, if_false, hrun]
    rfl

omit [DecidableEq κ] in
/-- A removal asks for orphaned keys only. -/
theorem asked_sublist (ks : List κ) : (T.asked removed ks).Sublist ks := by
  rw [asked]
  split_ifs
  · exact throughFailure_sublist ks
  · exact List.Sublist.refl ks

omit [DecidableEq κ] in
/-- All of the keys are asked for exactly if the request is complete. -/
theorem asked_eq_iff {ks : List κ} (hnodup : ks.Nodup) :
    T.asked removed ks = ks ↔ ∀ k ∈ ks, k ∈ T.asked removed ks := by
  constructor
  · intro h k hk
    rw [h]
    exact hk
  · intro h
    exact (T.asked_sublist removed ks).eq_of_length_le (hnodup.subperm h).length_le

omit [DecidableEq κ] in
/-- A removal that ends at a failure asks for all keys, which are in order, exactly if
none that comes before another fails. -/
theorem asked_eq_iff_of_stops (hstops : T.stops = true) {before : κ → κ → Prop}
    (hasymm : ∀ j k, before j k → ¬before k j) {ks : List κ} (hks : ks.Pairwise before) :
    T.asked removed ks = ks ↔
      ∀ j ∈ ks, ∀ k ∈ ks, before j k → removed j = T.success := by
  rw [asked, if_pos hstops, throughFailure_eq_self_iff, pairwise_iff_of_ordered hasymm hks]

end Sharing

end Reactive
