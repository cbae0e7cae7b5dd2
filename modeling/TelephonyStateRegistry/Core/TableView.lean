import TelephonyStateRegistry.Core.SharedTable

/-!
# A table and a view of its entries

Entries may carry more than a table needs for its registrations. A table of the entries and
the table of what is seen of them take the same steps, as long as the calls on both compare
and drop the same entries.
-/

namespace Reactive

variable {ε δ κ ρ σ : Type*}

/-- The rules of a table, for entries of which `view` is seen. -/
def Sharing.comap (T : Sharing δ κ ρ) (view : ε → δ) : Sharing ε κ ρ where
  key e := T.key (view e)
  before := T.before
  success := T.success
  already := T.already
  stops := T.stops

/-- The state of a table of which the entries are seen. -/
def tableView (view : ε → δ) (s : List ε × σ) : List δ × σ := (s.1.map view, s.2)

/-- A call on a table is seen as another one. -/
inductive TableCall.SeenAs (view : ε → δ) (table : List ε) : TableCall ε → TableCall δ → Prop
  | subscribe {same : ε → Bool} {same' : δ → Bool} (e : ε)
      (h : ∀ d ∈ table, same d = same' (view d)) :
      SeenAs view table (.subscribe same e) (.subscribe same' (view e))
  | release {drop : ε → Bool} {drop' : δ → Bool} (h : ∀ d ∈ table, drop d = drop' (view d)) :
      SeenAs view table (.release drop) (.release drop')

namespace Sharing

variable [DecidableEq κ] (T : Sharing δ κ ρ) (view : ε → δ)

private theorem standing_view {same : ε → Bool} {same' : δ → Bool} (k : κ) (flag : Standing)
    {es : List ε} (h : ∀ e ∈ es, same e = same' (view e)) :
    (T.comap view).standing same k flag es = T.standing same' k flag (es.map view) := by
  induction es generalizing flag with
  | nil => rfl
  | cons e es ih =>
    obtain ⟨he, hes⟩ := List.forall_mem_cons.mp h
    rw [List.map_cons, standing, standing, he, ih _ hes]
    rfl

private theorem affected_view (removed : List ε) :
    (T.comap view).affected removed = T.affected (removed.map view) := by
  rw [affected, affected, List.map_map]
  rfl

variable [DecidableEq ρ]

private theorem withdraw_view (p : Provider σ κ ρ) (kept : List ε) (ks : List κ) (result : ρ)
    (s : σ) :
    (T.comap view).withdraw p kept ks result s = T.withdraw p (kept.map view) ks result s := by
  have hkept (k : κ) : (kept.any fun e => (T.comap view).key e = k) =
      (kept.map view).any fun d => T.key d = k := by
    rw [List.any_map]
    rfl
  induction ks generalizing result s with
  | nil => rfl
  | cons k ks ih =>
    rw [withdraw, withdraw, hkept]
    simp only [ih]
    rfl

private theorem map_filter_view {p : ε → Bool} {q : δ → Bool} {es : List ε}
    (h : ∀ e ∈ es, p e = q (view e)) : (es.filter p).map view = (es.map view).filter q := by
  rw [List.filter_map]
  exact congrArg (List.map view) (List.filter_congr h)

variable (p : Provider σ κ ρ)

private theorem subscribe_view {same : ε → Bool} {same' : δ → Bool} (e : ε) {s : List ε × σ}
    (h : ∀ d ∈ s.1, same d = same' (view d)) :
    T.subscribe p same' (view e) (tableView view s) =
      (tableView view ((T.comap view).subscribe p same e s).1,
        ((T.comap view).subscribe p same e s).2) := by
  have hstanding : T.standing same' (T.key (view e)) .diff (tableView view s).1 =
      (T.comap view).standing same ((T.comap view).key e) .diff s.1 :=
    (T.standing_view view _ _ h).symm
  simp only [subscribe, hstanding]
  cases (T.comap view).standing same ((T.comap view).key e) .diff s.1 with
  | same => rfl
  | keySame => simp only [tableView, List.map_append, List.map_cons, List.map_nil]; rfl
  | diff =>
    by_cases hadd : (p.add (T.key (view e)) s.2).1 = T.success
    · simp only [comap, tableView, hadd, if_true, List.map_append, List.map_cons, List.map_nil]
    · simp only [comap, tableView, hadd, if_false]

private theorem release_view {drop : ε → Bool} {drop' : δ → Bool} {s : List ε × σ}
    (h : ∀ d ∈ s.1, drop d = drop' (view d)) :
    T.release p drop' (tableView view s) =
      (tableView view ((T.comap view).release p drop s).1,
        ((T.comap view).release p drop s).2) := by
  have hdropped : (s.1.filter drop).map view = (s.1.map view).filter drop' := map_filter_view view h
  have hkept : (s.1.filter fun e => !drop e).map view = (s.1.map view).filter fun d => !drop' d :=
    map_filter_view view fun e he => congrArg not (h e he)
  simp only [release, tableView, List.isEmpty_map, affected_view, withdraw_view, ← hdropped,
    ← hkept]
  cases s.1.isEmpty <;> rfl

/-- **A table and its view take the same steps**, if the call is seen as one that compares
and drops the same entries. -/
theorem step_view {s : List ε × σ} {call : TableCall ε} {call' : TableCall δ}
    (h : call.SeenAs view s.1 call') :
    T.machine.step (tableView view s) (p, call') =
      (tableView view ((T.comap view).machine.step s (p, call)).1,
        ((T.comap view).machine.step s (p, call)).2) := by
  cases h with
  | subscribe e h => exact T.subscribe_view view p e h
  | release h => exact T.release_view view p h

/-- What all entries of a table have, they have after a call, if a new one has it. -/
theorem forall_next {Q : ε → Prop} {S : Sharing ε κ ρ} {s : List ε × σ} (call : TableCall ε)
    (hcall : ∀ same e, call = .subscribe same e → Q e) (h : ∀ e ∈ s.1, Q e) :
    ∀ e ∈ (S.machine.next s (p, call)).1, Q e := by
  cases call with
  | subscribe same d =>
    change ∀ e ∈ (S.subscribe p same d s).1.1, Q e
    rcases S.subscribe_cases p same d s with
      ⟨hs, -⟩ | ⟨-, ⟨hs, -⟩ | ⟨-, ⟨-, hs⟩ | ⟨-, hs⟩⟩⟩ <;> rw [hs]
    · exact h
    · exact List.forall_mem_append.mpr ⟨h, List.forall_mem_singleton.mpr (hcall same d rfl)⟩
    · exact List.forall_mem_append.mpr ⟨h, List.forall_mem_singleton.mpr (hcall same d rfl)⟩
    · exact h
  | release drop =>
    change ∀ e ∈ (S.release p drop s).1.1, Q e
    rw [S.release_table]
    exact fun e he => h e (List.mem_filter.mp he).1

end Sharing

end Reactive
