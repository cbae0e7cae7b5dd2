import TelephonyStateRegistry.Interpretation.Outcome

/-!
# Complete mediation

Registration checks the caller; delivery only looks at the stored mask. The two
ends meet in one invariant of runs from an empty registry: every stored record
is the record of an admitted registration of the past, so its mask and its
observer were admitted together.
-/

namespace TelephonyStateRegistry

open Reactive

variable {P : Platform}

/-- A record is the record of an admitted registration among the calls. -/
def Admitted (P : Platform) (calls : List (Call P)) (record : Record) : Prop :=
  ∃ env r, (env, .register r) ∈ calls ∧ r.admitted P env ∧ record = r.record

theorem Admitted.append {calls : List (Call P)} {record : Record} (h : Admitted P calls record)
    (later : List (Call P)) : Admitted P (calls ++ later) record := by
  obtain ⟨env, r, hmem, hadm, hrecord⟩ := h
  exact ⟨env, r, List.mem_append_left _ hmem, hadm, hrecord⟩

/-- Every record stored after a run from an empty registry was admitted in that run. -/
theorem stateRecords_admitted (caches : Caches P) (calls : List (Call P)) {record : Record}
    (h : record ∈ ((machine P).run ⟨caches, []⟩ calls).stateRecords) :
    Admitted P calls record := by
  induction calls using List.reverseRecOn generalizing record with
  | nil => cases h
  | append_singleton calls call ih =>
    obtain ⟨env, op⟩ := call
    rw [Mealy.run_concat] at h
    rcases mem_next_stateRecords h with h | ⟨r, rfl, hadm, rfl⟩
    · exact (ih h).append _
    · exact ⟨env, r, List.mem_append_right _ (List.mem_singleton_self _), hadm, rfl⟩

/-- An admitted record satisfies the requirement of every event it listens for. -/
theorem Admitted.satisfies {calls : List (Call P)} {record : Record}
    (h : Admitted P calls record) {m : ObserverMask} (hm : record.listensTo P m = true) :
    ∃ o env r, record.telephonyObserver = some o ∧ (env, .register r) ∈ calls ∧
      r.telephonyObserver = some o ∧ r.admitted P env ∧ env.satisfies m := by
  obtain ⟨env, r, hmem, hadm, rfl⟩ := h
  obtain ⟨ho, hbit⟩ := Record.listensTo_iff.mp hm
  obtain ⟨o, ho⟩ := Option.ne_none_iff_exists'.mp ho
  exact ⟨o, env, r, ho, hmem, ho, hadm, checked_iff.mp hadm.1 m hbit⟩

/-- **Complete mediation.** Whatever callback an operation makes after a run from
an empty registry, its observer was supplied by a registration of the run, or
by the operation itself, whose caller satisfied the requirement of the event. -/
theorem callbacks_mediated (caches : Caches P) (before : List (Call P)) (call : Call P)
    {d : Delivery P}
    (h : d ∈ ((machine P).out ((machine P).run ⟨caches, []⟩ before) call).deliveries) :
    ∃ o env r, d.record.telephonyObserver = some o ∧ (env, .register r) ∈ before ++ [call] ∧
      r.telephonyObserver = some o ∧ r.admitted P env ∧ env.satisfies d.callback.event := by
  have hstored : d.record ∈ ((machine P).run ⟨caches, []⟩ (before ++ [call])).stateRecords := by
    rw [Mealy.run_concat]
    exact mem_stateRecords_of_mem_out h
  exact (stateRecords_admitted caches _ hstored).satisfies (listensTo_of_mem_out h)

theorem cfuIndicator_mediated :
    let P := Platform.dualSim
    let r := Registration.single P 1 0 .cfuIndicator
    ∃ o env r', r.record.telephonyObserver = some o ∧
      (env, .register r') ∈ [(Env.native, .register r)] ++
        [((Env.native, .update (.cfuIndicator 0 true)) : Call P)] ∧
      r'.telephonyObserver = some o ∧ r'.admitted P env ∧ env.satisfies .cfuIndicator :=
  callbacks_mediated (Caches.init Platform.dualSim) _ _
    (d := ⟨(Registration.single Platform.dualSim 1 0 .cfuIndicator).record,
      .onCfuIndicatorUpdated 0 true⟩) (List.mem_singleton_self _)

end TelephonyStateRegistry
