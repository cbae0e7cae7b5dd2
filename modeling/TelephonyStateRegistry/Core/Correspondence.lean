import TelephonyStateRegistry.Core.SharedTable

/-!
# Tables whose entries correspond

Two clients keep tables of different entries under the same rules. If the entries
correspond one by one, and so do their keys and the tests of a call, then the call
makes the same requests on both sides, with the same result, and leaves tables
that correspond.
-/

namespace Reactive

variable {ε δ κ ρ σ : Type*}

/-- Two tables follow the same rules, up to the keys of their entries. -/
structure Sharing.SameRules (T : Sharing ε κ ρ) (U : Sharing δ κ ρ) : Prop where
  before : T.before = U.before
  success : T.success = U.success
  already : T.already = U.already
  stops : T.stops = U.stops

/-- Two calls whose entries and tests correspond. -/
inductive TableCall.Corresponds (R : ε → δ → Prop) : TableCall ε → TableCall δ → Prop
  | subscribe {same : ε → Bool} {same' : δ → Bool} {e : ε} {d : δ}
      (htest : ∀ e d, R e d → same e = same' d) (h : R e d) :
      Corresponds R (.subscribe same e) (.subscribe same' d)
  | release {drop : ε → Bool} {drop' : δ → Bool} (htest : ∀ e d, R e d → drop e = drop' d) :
      Corresponds R (.release drop) (.release drop')

/-- Two lists that correspond are cut down alike. -/
theorem forall₂_filter {R : ε → δ → Prop} {f : ε → Bool} {g : δ → Bool}
    (hfilter : ∀ e d, R e d → f e = g d) {es : List ε} {ds : List δ}
    (h : List.Forall₂ R es ds) : List.Forall₂ R (es.filter f) (ds.filter g) := by
  induction h with
  | nil => exact .nil
  | cons hhead _ ih =>
    rw [List.filter_cons, List.filter_cons, hfilter _ _ hhead]
    split_ifs
    · exact .cons hhead ih
    · exact ih

namespace Sharing

variable [DecidableEq κ] [DecidableEq ρ] {T : Sharing ε κ ρ} {U : Sharing δ κ ρ}
  {R : ε → δ → Prop} {es : List ε} {ds : List δ}

section Codes

variable {ν : Type*} {T : Sharing ε κ ρ} {U : Sharing δ κ ν}

omit [DecidableEq ρ] in
theorem standing_eq (hkey : ∀ e d, R e d → T.key e = U.key d) {same : ε → Bool}
    {same' : δ → Bool} (htest : ∀ e d, R e d → same e = same' d) (k : κ) (flag : Standing)
    (h : List.Forall₂ R es ds) : T.standing same k flag es = U.standing same' k flag ds := by
  induction h generalizing flag with
  | nil => rfl
  | cons hhead _ ih => rw [standing, standing, htest _ _ hhead, hkey _ _ hhead, ih]

omit [DecidableEq ρ] in
/-- Entries that correspond have the same keys to withdraw. -/
theorem affected_eq (hbefore : T.before = U.before) (hkey : ∀ e d, R e d → T.key e = U.key d)
    (h : List.Forall₂ R es ds) : T.affected es = U.affected ds := by
  have hmap : es.map T.key = ds.map U.key := by
    induction h with
    | nil => rfl
    | cons hhead _ ih => rw [List.map_cons, List.map_cons, hkey _ _ hhead, ih]
  rw [affected, affected, hmap, hbefore]

omit [DecidableEq ρ] in
/-- Entries that correspond keep the same keys. -/
theorem kept_eq (hkey : ∀ e d, R e d → T.key e = U.key d) (h : List.Forall₂ R es ds) (k : κ) :
    (es.any fun e => T.key e = k) = ds.any fun d => U.key d = k := by
  induction h with
  | nil => rfl
  | cons hhead _ ih => rw [List.any_cons, List.any_cons, hkey _ _ hhead, ih]

end Codes

private theorem subscribe_corresponds (hrules : T.SameRules U)
    (hkey : ∀ e d, R e d → T.key e = U.key d) {same : ε → Bool} {same' : δ → Bool}
    (htest : ∀ e d, R e d → same e = same' d) {e : ε} {d : δ} (hnew : R e d)
    (p : Provider σ κ ρ) (h : List.Forall₂ R es ds) (s : σ) :
    List.Forall₂ R (T.subscribe p same e (es, s)).1.1 (U.subscribe p same' d (ds, s)).1.1 ∧
      (T.subscribe p same e (es, s)).1.2 = (U.subscribe p same' d (ds, s)).1.2 ∧
      (T.subscribe p same e (es, s)).2 = (U.subscribe p same' d (ds, s)).2 := by
  have happend : List.Forall₂ R (es ++ [e]) (ds ++ [d]) :=
    List.rel_append h (List.Forall₂.cons hnew .nil)
  rw [subscribe, subscribe, hkey e d hnew, standing_eq hkey htest (U.key d) .diff h,
    hrules.success, hrules.already]
  cases U.standing same' (U.key d) .diff ds with
  | same => exact ⟨h, rfl, rfl⟩
  | keySame => exact ⟨happend, rfl, rfl⟩
  | diff =>
    dsimp only
    split_ifs
    · exact ⟨happend, rfl, rfl⟩
    · exact ⟨h, rfl, rfl⟩

private theorem withdraw_eq (hrules : T.SameRules U) (hkey : ∀ e d, R e d → T.key e = U.key d)
    (p : Provider σ κ ρ) (h : List.Forall₂ R es ds) (ks : List κ) (result : ρ) (s : σ) :
    T.withdraw p es ks result s = U.withdraw p ds ks result s := by
  induction ks generalizing result s with
  | nil => rfl
  | cons k ks ih => simp only [withdraw, kept_eq hkey h, hrules.success, hrules.stops, ih]

private theorem release_corresponds (hrules : T.SameRules U)
    (hkey : ∀ e d, R e d → T.key e = U.key d) {drop : ε → Bool} {drop' : δ → Bool}
    (htest : ∀ e d, R e d → drop e = drop' d) (p : Provider σ κ ρ) (h : List.Forall₂ R es ds)
    (s : σ) :
    List.Forall₂ R (T.release p drop (es, s)).1.1 (U.release p drop' (ds, s)).1.1 ∧
      (T.release p drop (es, s)).1.2 = (U.release p drop' (ds, s)).1.2 ∧
      (T.release p drop (es, s)).2 = (U.release p drop' (ds, s)).2 := by
  have hkept : List.Forall₂ R (es.filter fun e => !drop e) (ds.filter fun d => !drop' d) :=
    forall₂_filter (fun e d hed => congrArg Bool.not (htest e d hed)) h
  have haffected : T.affected (es.filter drop) = U.affected (ds.filter drop') :=
    affected_eq hrules.before hkey (forall₂_filter htest h)
  have hempty : es.isEmpty = ds.isEmpty := by
    cases h <;> rfl
  rw [release, release, hempty]
  split_ifs
  · exact ⟨h, rfl, hrules.success⟩
  · dsimp only
    rw [haffected, withdraw_eq hrules hkey p hkept, hrules.success]
    exact ⟨hkept, rfl, rfl⟩

/-- Calls that correspond keep the tables corresponding, make the same requests
and return the same. -/
theorem machine_corresponds (hrules : T.SameRules U) (hkey : ∀ e d, R e d → T.key e = U.key d)
    (p : Provider σ κ ρ) {call : TableCall ε} {call' : TableCall δ}
    (hcall : call.Corresponds R call') (h : List.Forall₂ R es ds) (s : σ) :
    List.Forall₂ R (T.machine.next (es, s) (p, call)).1 (U.machine.next (ds, s) (p, call')).1 ∧
      (T.machine.next (es, s) (p, call)).2 = (U.machine.next (ds, s) (p, call')).2 ∧
      T.machine.out (es, s) (p, call) = U.machine.out (ds, s) (p, call') := by
  cases hcall with
  | subscribe htest hnew => exact subscribe_corresponds hrules hkey htest hnew p h s
  | release htest => exact release_corresponds hrules hkey htest p h s

end Sharing

end Reactive
