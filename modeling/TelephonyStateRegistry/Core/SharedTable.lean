import Mathlib.Data.Finset.Erase
import Mathlib.Data.Finset.Insert
import Mathlib.Data.List.Sort
import TelephonyStateRegistry.Core.Mealy

/-!
# Tables of entries that share registrations

A client keeps a table of entries, and a provider holds one registration for
each key. The first entry of a key asks the provider for a registration, and
the removal of the last one withdraws it; calls on the provider may fail. Two
rules say what a removal does to the provider, whatever it is: what withdrawals
of other keys preserve is preserved, and what a withdrawal that succeeds
establishes holds afterwards. Against a provider that is a set of keys, every
entry of the table stays registered, and nothing else stays registered exactly
as long as no withdrawal fails.
-/

namespace Reactive

/-- A provider of registrations, as its clients call it. -/
structure Provider (σ κ ρ : Type*) where
  add : κ → σ → ρ × σ
  remove : κ → σ → ρ × σ

/-- Registrations as a set: a call that succeeds has its effect, a call that
fails changes nothing, and the answers are arbitrary. -/
def Provider.answering {κ ρ : Type*} [DecidableEq κ] [DecidableEq ρ] (success : ρ)
    (added removed : κ → ρ) : Provider (Finset κ) κ ρ where
  add k s := (added k, if added k = success then insert k s else s)
  remove k s := (removed k, if removed k = success then s.erase k else s)

/-- A record of the keys that were withdrawn, in order. -/
def Provider.recording {κ ρ : Type*} (added removed : κ → ρ) : Provider (List κ) κ ρ where
  add k log := (added k, log)
  remove k log := (removed k, log ++ [k])

/-- How a new entry stands to the entries that are there. -/
inductive Standing
  | diff
  | same
  | keySame
  deriving DecidableEq, Repr

/-- How a table shares the registrations of a provider. -/
structure Sharing (ε κ ρ : Type*) where
  /-- The key under which an entry is registered. -/
  key : ε → κ
  /-- The order in which keys are withdrawn. -/
  before : κ → κ → Bool
  /-- The answer of a call that succeeds. -/
  success : ρ
  /-- The answer to an entry that is there already. -/
  already : ρ
  /-- Whether a removal ends at the first withdrawal that fails. -/
  stops : Bool

/-- A call on a table: which entries are the same as a new one, or which are dropped. -/
inductive TableCall (ε : Type*)
  | subscribe (same : ε → Bool) (e : ε)
  | release (drop : ε → Bool)

/-- The entries that a call drops. -/
def TableCall.drops {ε : Type*} : TableCall ε → ε → Bool
  | subscribe _ _ => fun _ => false
  | release drop => drop

namespace Sharing

variable {ε κ ρ σ : Type*} [DecidableEq κ] [DecidableEq ρ] (T : Sharing ε κ ρ)

/-- The scan for a new entry. It ends at an entry that is the same, and remembers
one of the same key. -/
def standing (same : ε → Bool) (k : κ) : Standing → List ε → Standing
  | flag, [] => flag
  | flag, e :: es =>
    if same e then .same else standing same k (if T.key e = k then .keySame else flag) es

/-- Add an entry; only the first one of its key calls the provider. -/
def subscribe (p : Provider σ κ ρ) (same : ε → Bool) (e : ε) (s : List ε × σ) :
    (List ε × σ) × ρ :=
  match T.standing same (T.key e) .diff s.1 with
  | .same => (s, T.already)
  | .keySame => ((s.1 ++ [e], s.2), T.success)
  | .diff =>
    let (result, provider) := p.add (T.key e) s.2
    if result = T.success then ((s.1 ++ [e], provider), T.success)
    else ((s.1, provider), result)

/-- The keys of the dropped entries, each once and in order. -/
def affected (removed : List ε) : List κ :=
  (removed.map T.key).dedup.insertionSort fun j k => T.before j k

/-- Withdraw the keys that no kept entry has. -/
def withdraw (p : Provider σ κ ρ) (kept : List ε) : List κ → ρ → σ → ρ × σ
  | [], result, s => (result, s)
  | k :: ks, result, s =>
    if kept.any fun e => T.key e = k then withdraw p kept ks result s
    else
      let (r, s) := p.remove k s
      if r = T.success then withdraw p kept ks result s
      else if T.stops then (r, s)
      else withdraw p kept ks r s

/-- Drop entries, and withdraw what is no longer needed. -/
def release (p : Provider σ κ ρ) (drop : ε → Bool) (s : List ε × σ) : (List ε × σ) × ρ :=
  if s.1.isEmpty then (s, T.success)
  else
    let kept := s.1.filter fun e => !drop e
    let (result, provider) :=
      T.withdraw p kept (T.affected (s.1.filter drop)) T.success s.2
    ((kept, provider), result)

/-- A table as a machine over its calls; the provider may be another one at each call. -/
def machine : Mealy (List ε × σ) (Provider σ κ ρ × TableCall ε) ρ where
  step s input := match input.2 with
    | .subscribe same e => T.subscribe input.1 same e s
    | .release drop => T.release input.1 drop s

/-- A key that loses its last entry when entries are dropped. -/
def Orphaned (drop : ε → Bool) (table : List ε) (k : κ) : Prop :=
  (∃ e ∈ table, T.key e = k) ∧ ∀ e ∈ table, T.key e = k → drop e = true

/-! ## Adding an entry -/

section Standing

variable {same : ε → Bool} {k : κ} {es : List ε}

omit [DecidableEq ρ] in
theorem standing_cases (same : ε → Bool) (k : κ) (flag : Standing) (es : List ε)
    (hflag : flag ≠ .same) :
    (T.standing same k flag es = .same ∧ ∃ e ∈ es, same e = true) ∨
    ((∀ e ∈ es, same e = false) ∧
      ((T.standing same k flag es = .keySame ∧ ∃ e ∈ es, T.key e = k) ∨
        (T.standing same k flag es = flag ∧ ∀ e ∈ es, T.key e ≠ k))) := by
  induction es generalizing flag with
  | nil =>
    right
    exact ⟨fun _ h => absurd h List.not_mem_nil, Or.inr ⟨rfl, fun _ h => absurd h List.not_mem_nil⟩⟩
  | cons e es ih =>
    rw [standing]
    by_cases hsame : same e = true
    · rw [if_pos hsame]
      exact Or.inl ⟨rfl, e, List.mem_cons_self, hsame⟩
    · rw [if_neg hsame]
      have hnot : same e = false := by simpa only [Bool.not_eq_true] using hsame
      by_cases hkey : T.key e = k
      · rw [if_pos hkey]
        rcases ih .keySame (by decide) with ⟨hs, d, hd, hsame⟩ | ⟨hall, hs | ⟨hs, -⟩⟩
        · exact Or.inl ⟨hs, d, List.mem_cons_of_mem _ hd, hsame⟩
        · exact Or.inr ⟨List.forall_mem_cons.mpr ⟨hnot, hall⟩,
            Or.inl ⟨hs.1, e, List.mem_cons_self, hkey⟩⟩
        · exact Or.inr ⟨List.forall_mem_cons.mpr ⟨hnot, hall⟩,
            Or.inl ⟨hs, e, List.mem_cons_self, hkey⟩⟩
      · rw [if_neg hkey]
        rcases ih flag hflag with ⟨hs, d, hd, hsame⟩ | ⟨hall, ⟨hs, d, hd, hdk⟩ | ⟨hs, hne⟩⟩
        · exact Or.inl ⟨hs, d, List.mem_cons_of_mem _ hd, hsame⟩
        · exact Or.inr ⟨List.forall_mem_cons.mpr ⟨hnot, hall⟩,
            Or.inl ⟨hs, d, List.mem_cons_of_mem _ hd, hdk⟩⟩
        · exact Or.inr ⟨List.forall_mem_cons.mpr ⟨hnot, hall⟩,
            Or.inr ⟨hs, List.forall_mem_cons.mpr ⟨hkey, hne⟩⟩⟩

end Standing

variable (p : Provider σ κ ρ)

/-- What adding an entry can do. -/
theorem subscribe_cases (same : ε → Bool) (e : ε) (s : List ε × σ) :
    (T.subscribe p same e s = (s, T.already) ∧ ∃ d ∈ s.1, same d = true) ∨
    ((∀ d ∈ s.1, same d = false) ∧
      ((T.subscribe p same e s = ((s.1 ++ [e], s.2), T.success) ∧
          ∃ d ∈ s.1, T.key d = T.key e) ∨
        ((∀ d ∈ s.1, T.key d ≠ T.key e) ∧
          (((p.add (T.key e) s.2).1 = T.success ∧
              T.subscribe p same e s = ((s.1 ++ [e], (p.add (T.key e) s.2).2), T.success)) ∨
            ((p.add (T.key e) s.2).1 ≠ T.success ∧
              T.subscribe p same e s =
                ((s.1, (p.add (T.key e) s.2).2), (p.add (T.key e) s.2).1)))))) := by
  rcases T.standing_cases same (T.key e) .diff s.1 (by decide) with
    ⟨hs, hsame⟩ | ⟨hall, ⟨hs, hkey⟩ | ⟨hs, hne⟩⟩
  · exact Or.inl ⟨by simp only [subscribe, hs], hsame⟩
  · exact Or.inr ⟨hall, Or.inl ⟨by simp only [subscribe, hs], hkey⟩⟩
  · refine Or.inr ⟨hall, Or.inr ⟨hne, ?_⟩⟩
    by_cases hadd : (p.add (T.key e) s.2).1 = T.success
    · exact Or.inl ⟨hadd, by simp only [subscribe, hs, hadd, if_true]⟩
    · exact Or.inr ⟨hadd, by simp only [subscribe, hs, hadd, if_false]⟩

/-! ## Withdrawing keys -/

omit [DecidableEq ρ] in
theorem mem_affected {removed : List ε} {k : κ} :
    k ∈ T.affected removed ↔ ∃ e ∈ removed, T.key e = k := by
  rw [affected, List.mem_insertionSort, List.mem_dedup, List.mem_map]

omit [DecidableEq ρ] in
/-- A key that is withdrawn is no key of a kept entry. -/
theorem free_of_not_kept {kept : List ε} {k : κ}
    (h : ¬(kept.any fun e => T.key e = k) = true) : ∀ e ∈ kept, T.key e ≠ k := by
  intro e he hkey
  exact h (List.any_eq_true.mpr ⟨e, he, decide_eq_true hkey⟩)

private theorem withdraw_cases (kept : List ε) (k : κ) (ks : List κ) (result : ρ) (s : σ) :
    ((∃ e ∈ kept, T.key e = k) ∧
      T.withdraw p kept (k :: ks) result s = T.withdraw p kept ks result s) ∨
    ((∀ e ∈ kept, T.key e ≠ k) ∧
      (((p.remove k s).1 = T.success ∧
          T.withdraw p kept (k :: ks) result s =
            T.withdraw p kept ks result (p.remove k s).2) ∨
        ((p.remove k s).1 ≠ T.success ∧
          (T.withdraw p kept (k :: ks) result s = p.remove k s ∨
            T.withdraw p kept (k :: ks) result s =
              T.withdraw p kept ks (p.remove k s).1 (p.remove k s).2)))) := by
  rw [withdraw]
  by_cases hkept : (kept.any fun e => T.key e = k) = true
  · obtain ⟨e, he, hkey⟩ := List.any_eq_true.mp hkept
    exact Or.inl ⟨⟨e, he, of_decide_eq_true hkey⟩, if_pos hkept⟩
  · rw [if_neg hkept]
    refine Or.inr ⟨T.free_of_not_kept hkept, ?_⟩
    by_cases hremove : (p.remove k s).1 = T.success
    · exact Or.inl ⟨hremove, if_pos hremove⟩
    · refine Or.inr ⟨hremove, ?_⟩
      dsimp only
      rw [if_neg hremove]
      split
      · exact Or.inl rfl
      · exact Or.inr rfl

/-- What the withdrawals of other keys preserve is preserved. -/
theorem withdraw_invariant {kept : List ε} {I : σ → Prop} {ks : List κ}
    (h : ∀ k ∈ ks, (∀ e ∈ kept, T.key e ≠ k) → ∀ s, I s → I (p.remove k s).2) (result : ρ) {s : σ}
    (hs : I s) : I (T.withdraw p kept ks result s).2 := by
  induction ks generalizing result s with
  | nil => exact hs
  | cons k ks ih =>
    have htail := fun j hj => h j (List.mem_cons_of_mem _ hj)
    rcases T.withdraw_cases p kept k ks result s with
      ⟨-, hw⟩ | ⟨hfree, ⟨-, hw⟩ | ⟨-, hw | hw⟩⟩ <;> rw [hw]
    · exact ih htail result hs
    · exact ih htail result (h k List.mem_cons_self hfree s hs)
    · exact h k List.mem_cons_self hfree s hs
    · exact ih htail _ (h k List.mem_cons_self hfree s hs)

private theorem withdraw_result {kept : List ε} {ks : List κ} {result : ρ} {s : σ}
    (h : (T.withdraw p kept ks result s).1 = T.success) : result = T.success := by
  induction ks generalizing result s with
  | nil => exact h
  | cons k ks ih =>
    rcases T.withdraw_cases p kept k ks result s with
      ⟨-, hw⟩ | ⟨-, ⟨-, hw⟩ | ⟨hfail, hw | hw⟩⟩ <;> rw [hw] at h
    · exact ih h
    · exact ih h
    · exact absurd h hfail
    · exact absurd (ih h) hfail

/-- What a withdrawal that succeeds establishes holds for every key that was
withdrawn, if the removal reports no failure. -/
theorem withdraw_removes {R : κ → σ → Prop} {kept : List ε} {ks : List κ}
    (hset : ∀ k s, (p.remove k s).1 = T.success → R k (p.remove k s).2)
    (hkeep : ∀ j k s, R j s → R j (p.remove k s).2) {result : ρ} {s : σ}
    (h : (T.withdraw p kept ks result s).1 = T.success) {k : κ} (hk : k ∈ ks)
    (hfree : ∀ e ∈ kept, T.key e ≠ k) : R k (T.withdraw p kept ks result s).2 := by
  induction ks generalizing result s with
  | nil => exact absurd hk List.not_mem_nil
  | cons j ks ih =>
    rcases T.withdraw_cases p kept j ks result s with
      ⟨⟨e, he, hkey⟩, hw⟩ | ⟨-, ⟨hsuccess, hw⟩ | ⟨hfail, hw | hw⟩⟩ <;> rw [hw] at h ⊢
    · rcases List.mem_cons.mp hk with rfl | hk
      · exact absurd hkey (hfree e he)
      · exact ih h hk
    · rcases List.mem_cons.mp hk with rfl | hk
      · exact T.withdraw_invariant p (fun j _ _ s => hkeep k j s) result (hset k s hsuccess)
      · exact ih h hk
    · exact absurd h hfail
    · exact absurd (T.withdraw_result p h) hfail

private theorem withdraw_of_success {kept : List ε} {ks : List κ}
    (h : ∀ k ∈ ks, (∀ e ∈ kept, T.key e ≠ k) → ∀ s, (p.remove k s).1 = T.success) {s : σ} :
    (T.withdraw p kept ks T.success s).1 = T.success := by
  induction ks generalizing s with
  | nil => rfl
  | cons k ks ih =>
    have htail := fun j hj => h j (List.mem_cons_of_mem _ hj)
    rcases T.withdraw_cases p kept k ks T.success s with
      ⟨-, hw⟩ | ⟨hfree, ⟨-, hw⟩ | ⟨hfail, -⟩⟩
    · rw [hw]
      exact ih htail
    · rw [hw]
      exact ih htail
    · exact absurd (h k List.mem_cons_self hfree s) hfail

/-! ## Dropping entries -/

variable {drop : ε → Bool} {s : List ε × σ}

theorem release_table : (T.release p drop s).1.1 = s.1.filter fun e => !drop e := by
  rw [release]
  split
  · rename_i h
    rw [List.isEmpty_iff.mp h, List.filter_nil]
  · rfl

omit [DecidableEq ρ] in
/-- The keys that a removal withdraws are the orphaned ones. -/
theorem orphaned_iff {k : κ} :
    T.Orphaned drop s.1 k ↔ k ∈ T.affected (s.1.filter drop) ∧
      ∀ e ∈ s.1.filter (fun e => !drop e), T.key e ≠ k := by
  simp only [mem_affected, List.mem_filter, Bool.not_eq_true', and_imp]
  constructor
  · rintro ⟨⟨e, he, hkey⟩, hall⟩
    refine ⟨⟨e, ⟨he, hall e he hkey⟩, hkey⟩, ?_⟩
    intro d hd hnot hdk
    rw [hall d hd hdk] at hnot
    cases hnot
  · rintro ⟨⟨e, ⟨he, -⟩, hkey⟩, hkept⟩
    refine ⟨⟨e, he, hkey⟩, ?_⟩
    intro d hd hdk
    by_contra hnot
    exact hkept d hd (by simpa only [Bool.not_eq_true] using hnot) hdk

omit [DecidableEq κ] [DecidableEq ρ] in
/-- A call that drops nothing orphans nothing. -/
theorem not_orphaned_of_keeps {table : List ε} {k : κ} :
    ¬T.Orphaned (fun _ => false) table k := by
  rintro ⟨⟨e, he, hkey⟩, hall⟩
  exact Bool.false_ne_true (hall e he hkey)

private theorem release_state (h : s.1.isEmpty = false) :
    T.release p drop s =
      ((s.1.filter (fun e => !drop e), (T.withdraw p (s.1.filter fun e => !drop e)
        (T.affected (s.1.filter drop)) T.success s.2).2),
        (T.withdraw p (s.1.filter fun e => !drop e) (T.affected (s.1.filter drop)) T.success
          s.2).1) := by
  simp only [release, h, Bool.false_eq_true, if_false]

/-- A removal withdraws orphaned keys only. -/
theorem release_invariant {I : σ → Prop}
    (h : ∀ k, T.Orphaned drop s.1 k → ∀ t, I t → I (p.remove k t).2) (hs : I s.2) :
    I (T.release p drop s).1.2 := by
  cases hempty : s.1.isEmpty with
  | true =>
    simp only [release, hempty, if_true]
    exact hs
  | false =>
    rw [T.release_state p hempty]
    apply T.withdraw_invariant p _ _ hs
    intro k hk hfree
    exact h k (T.orphaned_iff.mpr ⟨hk, hfree⟩)

/-- A removal that reports success has withdrawn every orphaned key. -/
theorem release_removes {R : κ → σ → Prop}
    (hset : ∀ k s, (p.remove k s).1 = T.success → R k (p.remove k s).2)
    (hkeep : ∀ j k s, R j s → R j (p.remove k s).2)
    (h : (T.release p drop s).2 = T.success) {k : κ} (hk : T.Orphaned drop s.1 k) :
    R k (T.release p drop s).1.2 := by
  obtain ⟨e, he, -⟩ := hk.1
  have hempty : s.1.isEmpty = false := by
    cases hs : s.1 with
    | nil => exact absurd (hs ▸ he) List.not_mem_nil
    | cons _ _ => rfl
  obtain ⟨hmem, hfree⟩ := T.orphaned_iff.mp hk
  rw [T.release_state p hempty] at h ⊢
  exact T.withdraw_removes p hset hkeep h hmem hfree

theorem release_of_success
    (h : ∀ k, T.Orphaned drop s.1 k → ∀ t, (p.remove k t).1 = T.success) :
    (T.release p drop s).2 = T.success := by
  cases hempty : s.1.isEmpty with
  | true => simp only [release, hempty, if_true]
  | false =>
    rw [T.release_state p hempty]
    apply T.withdraw_of_success p
    intro k hk hfree
    exact h k (T.orphaned_iff.mpr ⟨hk, hfree⟩)

/-- If the answers depend on the keys only, a removal reports success exactly if no
withdrawal of an orphaned key fails. -/
theorem release_success_iff {removed : κ → ρ} (hp : ∀ k t, (p.remove k t).1 = removed k) :
    (T.release p drop s).2 = T.success ↔
      ∀ k, T.Orphaned drop s.1 k → removed k = T.success := by
  constructor
  · intro h k hk
    refine T.release_removes p (R := fun k _ => removed k = T.success) ?_ (fun _ _ _ h => h) h hk
    exact fun k t ht => (hp k t).symm.trans ht
  · intro h
    exact T.release_of_success p fun k hk t => (hp k t).trans (h k hk)

/-- What additions and withdrawals preserve, every call preserves. -/
theorem next_invariant {I : σ → Prop} (hadd : ∀ k t, I t → I (p.add k t).2)
    (hremove : ∀ k t, I t → I (p.remove k t).2) (hs : I s.2) (call : TableCall ε) :
    I (T.machine.next s (p, call)).2 := by
  cases call with
  | subscribe same e =>
    change I (T.subscribe p same e s).1.2
    rcases T.subscribe_cases p same e s with
      ⟨hs', -⟩ | ⟨-, ⟨hs', -⟩ | ⟨-, ⟨-, hs'⟩ | ⟨-, hs'⟩⟩⟩ <;> rw [hs']
    · exact hs
    · exact hs
    · exact hadd _ _ hs
    · exact hadd _ _ hs
  | release drop => exact T.release_invariant p (fun k _ => hremove k) hs

/-- So does what additions of keys that the table lacks, and withdrawals of orphaned keys,
preserve. -/
theorem next_invariant_of_needed {I : σ → Prop} {call : TableCall ε}
    (hadd : ∀ k, (∀ e ∈ s.1, T.key e ≠ k) → ∀ t, I t → I (p.add k t).2)
    (hremove : ∀ k, T.Orphaned call.drops s.1 k → ∀ t, I t → I (p.remove k t).2) (hs : I s.2) :
    I (T.machine.next s (p, call)).2 := by
  cases call with
  | subscribe same e =>
    change I (T.subscribe p same e s).1.2
    rcases T.subscribe_cases p same e s with
      ⟨hs', -⟩ | ⟨-, ⟨hs', -⟩ | ⟨hnew, ⟨-, hs'⟩ | ⟨-, hs'⟩⟩⟩ <;> rw [hs']
    · exact hs
    · exact hs
    · exact hadd _ hnew _ hs
    · exact hadd _ hnew _ hs
  | release drop => exact T.release_invariant p hremove hs

/-- Every call keeps the entries that it does not drop. -/
theorem mem_next_of_not_dropped {call : TableCall ε} {e : ε} (he : e ∈ s.1)
    (h : call.drops e = false) : e ∈ (T.machine.next s (p, call)).1 := by
  cases call with
  | subscribe same d =>
    change e ∈ (T.subscribe p same d s).1.1
    rcases T.subscribe_cases p same d s with
      ⟨hs, -⟩ | ⟨-, ⟨hs, -⟩ | ⟨-, ⟨-, hs⟩ | ⟨-, hs⟩⟩⟩ <;> rw [hs]
    · exact he
    · exact List.mem_append_left _ he
    · exact List.mem_append_left _ he
    · exact he
  | release drop =>
    change e ∈ (T.release p drop s).1.1
    rw [T.release_table]
    have hdrop : drop e = false := h
    exact List.mem_filter.mpr ⟨he, by rw [hdrop, Bool.not_false]⟩

/-- An entry that is there already changes neither the table nor the provider. -/
theorem subscribe_of_same {same : ε → Bool} (h : ∃ d ∈ s.1, same d = true) (e : ε) :
    (T.subscribe p same e s).1 = s := by
  obtain ⟨d, hd, hsame⟩ := h
  rcases T.subscribe_cases p same e s with ⟨hs, -⟩ | ⟨hnone, -⟩
  · rw [hs]
  · rw [hnone d hd] at hsame
    cases hsame

/-- No two entries become the same, if a new entry is compared with all of the table. -/
theorem pairwise_next {apart : ε → ε → Prop} {call : TableCall ε}
    (hcall : ∀ same e, call = .subscribe same e → ∀ d, same d = false → apart d e)
    (h : s.1.Pairwise apart) : (T.machine.next s (p, call)).1.Pairwise apart := by
  cases call with
  | subscribe same e =>
    have hmore (hnone : ∀ d ∈ s.1, same d = false) : (s.1 ++ [e]).Pairwise apart := by
      refine List.pairwise_append.mpr ⟨h, List.pairwise_singleton _ _, ?_⟩
      intro d hd c hc
      rw [List.mem_singleton.mp hc]
      exact hcall same e rfl d (hnone d hd)
    change (T.subscribe p same e s).1.1.Pairwise apart
    rcases T.subscribe_cases p same e s with
      ⟨hs, -⟩ | ⟨hnone, ⟨hs, -⟩ | ⟨-, ⟨-, hs⟩ | ⟨-, hs⟩⟩⟩ <;> rw [hs]
    · exact h
    · exact hmore hnone
    · exact hmore hnone
    · exact h
  | release drop =>
    change (T.release p drop s).1.1.Pairwise apart
    rw [T.release_table]
    exact h.filter _

/-! ## A provider that keeps a record -/

/-- Only orphaned keys are withdrawn. -/
theorem orphaned_of_recorded {added removed : κ → ρ} {table : List ε} {call : TableCall ε} {k : κ}
    (h : k ∈ (T.machine.next (table, []) (.recording added removed, call)).2) :
    T.Orphaned call.drops table k := by
  cases call with
  | subscribe same e =>
    refine absurd h ?_
    change k ∉ (T.subscribe (.recording added removed) same e (table, [])).1.2
    rcases T.subscribe_cases (.recording added removed) same e (table, []) with
      ⟨hs, -⟩ | ⟨-, ⟨hs, -⟩ | ⟨-, ⟨-, hs⟩ | ⟨-, hs⟩⟩⟩ <;> rw [hs] <;> exact List.not_mem_nil
  | release drop =>
    have hall : ∀ j ∈ (T.release (.recording added removed) drop (table, [])).1.2,
        T.Orphaned drop table j := by
      apply T.release_invariant (Provider.recording added removed)
        (I := fun log => ∀ j ∈ log, T.Orphaned drop table j)
      · intro i hi log hlog j hj
        rcases List.mem_append.mp hj with hj | hj
        · exact hlog j hj
        · rw [List.mem_singleton.mp hj]
          exact hi
      · intro j hj
        exact absurd hj List.not_mem_nil
    exact hall k h

/-! ## A provider that is a set of keys -/

/-- Every entry is registered. -/
def Backed (s : List ε × Finset κ) : Prop := ∀ e ∈ s.1, T.key e ∈ s.2

/-- Every registration has an entry. -/
def Covered (s : List ε × Finset κ) : Prop := ∀ k ∈ s.2, ∃ e ∈ s.1, T.key e = k

/-- No withdrawal that a call makes fails. -/
def Withdrawn (removed : κ → ρ) (s : List ε × Finset κ) (call : TableCall ε) : Prop :=
  ∀ k, T.Orphaned call.drops s.1 k → removed k = T.success

section Set

variable {s : List ε × Finset κ} (added removed : κ → ρ)

private theorem release_keeps {drop : ε → Bool} {k : κ} (hk : k ∈ s.2)
    (h : T.Orphaned drop s.1 k → removed k ≠ T.success) :
    k ∈ (T.release (.answering T.success added removed) drop s).1.2 := by
  apply T.release_invariant (Provider.answering T.success added removed) (I := fun t => k ∈ t) _ hk
  intro j hj t ht
  simp only [Provider.answering]
  split
  · rename_i hanswer
    refine Finset.mem_erase.mpr ⟨?_, ht⟩
    rintro rfl
    exact h hj hanswer
  · exact ht

private theorem release_subset {drop : ε → Bool} :
    (T.release (.answering T.success added removed) drop s).1.2 ⊆ s.2 := by
  apply T.release_invariant (Provider.answering T.success added removed) (I := fun t => t ⊆ s.2) _
    subset_rfl
  intro j _ t ht
  simp only [Provider.answering]
  split
  · exact (Finset.erase_subset j t).trans ht
  · exact ht

/-- Every call keeps the entries registered, whatever the answers are. -/
theorem Backed.step (h : T.Backed s) (call : TableCall ε) :
    T.Backed (T.machine.next s (.answering T.success added removed, call)) := by
  cases call with
  | subscribe same e =>
    change T.Backed (T.subscribe _ same e s).1
    rcases T.subscribe_cases (.answering T.success added removed) same e s with
      ⟨hs, -⟩ | ⟨-, ⟨hs, d, hd, hkey⟩ | ⟨-, ⟨hadd, hs⟩ | ⟨hadd, hs⟩⟩⟩ <;> rw [hs]
    · exact h
    · intro c hc
      rcases List.mem_append.mp hc with hc | hc
      · exact h c hc
      · rw [List.mem_singleton.mp hc, ← hkey]
        exact h d hd
    · intro c hc
      simp only [Provider.answering, show added (T.key e) = T.success from hadd, if_true]
      rcases List.mem_append.mp hc with hc | hc
      · exact Finset.mem_insert_of_mem (h c hc)
      · rw [List.mem_singleton.mp hc]
        exact Finset.mem_insert_self _ _
    · intro c hc
      simp only [Provider.answering, show added (T.key e) ≠ T.success from hadd, if_false]
      exact h c hc
  | release drop =>
    intro e he
    change e ∈ (T.release _ drop s).1.1 at he
    rw [T.release_table] at he
    obtain ⟨he, hkept⟩ := List.mem_filter.mp he
    apply T.release_keeps added removed (h e he)
    intro horphaned
    rw [horphaned.2 e he rfl] at hkept
    cases hkept

/-- Nothing else stays registered after a call exactly if no withdrawal of it fails. -/
theorem covered_step_iff (hb : T.Backed s) (hc : T.Covered s) (call : TableCall ε) :
    T.Covered (T.machine.next s (.answering T.success added removed, call)) ↔
      T.Withdrawn removed s call := by
  cases call with
  | subscribe same e =>
    refine iff_of_true ?_ fun k hk => absurd hk T.not_orphaned_of_keeps
    change T.Covered (T.subscribe _ same e s).1
    have hmore : ∀ k ∈ s.2, ∃ d ∈ s.1 ++ [e], T.key d = k := by
      intro k hk
      obtain ⟨d, hd, hkey⟩ := hc k hk
      exact ⟨d, List.mem_append_left _ hd, hkey⟩
    rcases T.subscribe_cases (.answering T.success added removed) same e s with
      ⟨hs, -⟩ | ⟨-, ⟨hs, -⟩ | ⟨-, ⟨hadd, hs⟩ | ⟨hadd, hs⟩⟩⟩ <;> rw [hs]
    · exact hc
    · exact hmore
    · intro k hk
      simp only [Provider.answering, show added (T.key e) = T.success from hadd, if_true] at hk
      rcases Finset.mem_insert.mp hk with rfl | hk
      · exact ⟨e, List.mem_append_right _ (List.mem_singleton.mpr rfl), rfl⟩
      · exact hmore k hk
    · intro k hk
      simp only [Provider.answering, show added (T.key e) ≠ T.success from hadd, if_false] at hk
      exact hc k hk
  | release drop =>
    change T.Covered (T.release _ drop s).1 ↔ ∀ k, T.Orphaned drop s.1 k → _
    constructor
    · intro h k hk
      by_contra hanswer
      obtain ⟨⟨e, he, hkey⟩, hall⟩ := hk
      have hstays : k ∈ (T.release (.answering T.success added removed) drop s).1.2 :=
        T.release_keeps added removed (hkey ▸ hb e he) fun _ => hanswer
      obtain ⟨d, hd, hdk⟩ := h k hstays
      rw [T.release_table] at hd
      obtain ⟨hd, hkept⟩ := List.mem_filter.mp hd
      rw [hall d hd hdk] at hkept
      cases hkept
    · intro h k hk
      obtain ⟨e, he, hkey⟩ := hc k (T.release_subset added removed hk)
      rw [T.release_table]
      by_contra hnone
      have horphaned : T.Orphaned drop s.1 k := by
        refine ⟨⟨e, he, hkey⟩, ?_⟩
        intro d hd hdk
        by_contra hnot
        refine hnone ⟨d, List.mem_filter.mpr ⟨hd, ?_⟩, hdk⟩
        simpa only [Bool.not_eq_true, Bool.not_eq_true'] using hnot
      have hsuccess : (T.release (.answering T.success added removed) drop s).2 = T.success :=
        T.release_of_success _ fun j hj _ => h j hj
      refine T.release_removes (.answering T.success added removed) (R := fun j t => j ∉ t) ?_ ?_
        hsuccess horphaned hk
      · intro j t hj
        simp only [Provider.answering, show removed j = T.success from hj, if_true]
        exact Finset.notMem_erase j t
      · intro i j t hi
        simp only [Provider.answering]
        split
        · exact fun hmem => hi (Finset.mem_of_mem_erase hmem)
        · exact hi

end Set

end Sharing

end Reactive
