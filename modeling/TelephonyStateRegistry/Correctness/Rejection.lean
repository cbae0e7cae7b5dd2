import TelephonyStateRegistry.Interpretation.Outcome

/-!
# Rejected calls leave no trace

Fifteen entry points test the slot and the caller before they touch anything,
and a removal that misses its key erases nothing. A call that reports one of
the four rejections is therefore a step that keeps the state and shows nobody
anything, and it can be left out of a run.
-/

namespace TelephonyStateRegistry

open Reactive

variable {P : Platform}

/-- The codes of the checks that fail, and of a removal that finds nothing. -/
def ReturnCode.isRejection : ReturnCode → Bool
  | telephonyStateRegistrySlodidError => true
  | telephonyStateRegistryPermissionDenied => true
  | telephonyErrIllegalUseOfSystemApi => true
  | telephonyStateUnregistryDataNotExist => true
  | telephonySuccess | telephonyErrLocalPtrNull | telephonyStateRegistryDataNotExist => false

/-- The code of a traversal is never a rejection. -/
theorem resultOf_accepts (ds : List (Delivery P)) :
    resultOf ds = .telephonySuccess ∨ resultOf ds = .telephonyStateRegistryDataNotExist := by
  unfold resultOf
  split
  · exact Or.inr rfl
  · exact Or.inl rfl

/-- A removal that finds nothing erases nothing. -/
theorem eraseP_of_unregistered {s : Service P} {k : Key} (h : s.registered k = none) :
    (s.stateRecords.eraseP fun record => decide (record.key = k)) = s.stateRecords := by
  apply List.eraseP_of_forall_not
  intro record hr hk
  exact Service.registered_eq_none.mp h (List.mem_map.mpr ⟨record, hr, of_decide_eq_true hk⟩)

/-- A call with the code of a rejection keeps the state, and does nothing but
return that code. -/
theorem next_of_rejected {s : Service P} {call : Call P}
    (h : ((machine P).out s call).result.isRejection = true) :
    (machine P).next s call = s ∧
      (machine P).out s call = .code ((machine P).out s call).result := by
  obtain ⟨env, op⟩ := call
  cases op with
  | update u =>
    rw [machine_out_update] at h
    rw [machine_next_update, machine_out_update]
    by_cases hacc : u.accepted env
    · rw [Update.run_of_accepted hacc] at h
      rcases resultOf_accepts (u.deliveries env (u.function.writeTo s)) with hr | hr <;>
        simp only [hr, ReturnCode.isRejection, Bool.false_eq_true] at h
    · obtain ⟨result, -, hrun⟩ := Update.run_of_rejected hacc s
      rw [hrun]
      exact ⟨rfl, rfl⟩
  | register r =>
    rw [machine_out_register] at h
    rw [machine_next_register, machine_out_register]
    by_cases hadm : r.admitted P env
    · obtain ⟨c', hrun, -⟩ := registerStateChange_replays hadm s
      rw [hrun] at h
      cases h
    · rw [registerStateChange_of_not_admitted hadm]
      exact ⟨rfl, rfl⟩
  | unregister k =>
    rw [machine_out_unregister] at h
    rw [machine_next_unregister, machine_out_unregister]
    by_cases hc : Checked P env k.mask
    · rw [unregisterStateChange_of_checked hc] at h ⊢
      cases hk : s.registered k with
      | none => exact ⟨by rw [eraseP_of_unregistered hk], rfl⟩
      | some record =>
        rw [hk] at h
        cases h
    · rw [unregisterStateChange_of_not_checked hc]
      exact ⟨rfl, rfl⟩

private theorem flatMap_filter_outs {β : Type} {f : Output P → List β}
    (hf : ∀ result, f (.code result) = []) (calls : List (Call P)) (s : Service P) :
    (((machine P).outs s calls).filter fun o => !o.result.isRejection).flatMap f =
      ((machine P).outs s calls).flatMap f := by
  induction calls generalizing s with
  | nil => rfl
  | cons call calls ih =>
    rw [Mealy.outs_cons, List.flatMap_cons, ← ih ((machine P).next s call)]
    cases hr : ((machine P).out s call).result.isRejection with
    | true =>
      have hnone : f ((machine P).out s call) = [] := by
        rw [(next_of_rejected hr).2]
        exact hf _
      rw [List.filter_cons_of_neg (by simp only [hr, Bool.not_true, Bool.false_eq_true,
        not_false_eq_true]), hnone, List.nil_append]
    | false =>
      rw [List.filter_cons_of_pos (by simp only [hr, Bool.not_false]), List.flatMap_cons]

/-- The traversal of `UpdateCellInfo` never gives up at a null observer, since a
record without an observer is not a listener. -/
theorem cellInfo_completes (env : Env) (slotId : Int) (vec : List (Option P.CellInformation))
    (s : Service P) :
    ((machine P).out s (env, .update (.cellInfo slotId vec))).result ≠
      .telephonyErrLocalPtrNull := by
  rw [machine_out_update]
  by_cases hacc : (Update.cellInfo slotId vec : Update P).accepted env
  · rw [Update.run_of_accepted hacc]
    rcases resultOf_accepts ((Update.cellInfo slotId vec : Update P).deliveries env
      ((Update.cellInfo slotId vec : Update P).function.writeTo s)) with hr | hr <;>
      simp only [hr, ne_eq, reduceCtorEq, not_false_eq_true]
  · obtain ⟨result, hguard, hrun⟩ := Update.run_of_rejected hacc s
    rw [hrun]
    rintro rfl
    simp only [Update.function, updateCellInfo] at hguard
    split_ifs at hguard <;> cases hguard

/-- **Rejected calls leave no trace.** Leaving out of a run every call whose
code is a rejection keeps the final caches and registry, the codes of the other
calls, and the callbacks and common events in their order; and no report of cell
information ends half-way with a null pointer error. -/
theorem rejected_calls_leave_no_trace (calls : List (Call P)) (s : Service P) :
    let kept := (machine P).prune (fun o => !o.result.isRejection) s calls
    (machine P).run s kept = (machine P).run s calls ∧
    ((machine P).outs s kept).map Output.result =
      (((machine P).outs s calls).map Output.result).filter (fun code => !code.isRejection) ∧
    ((machine P).outs s kept).flatMap Output.deliveries =
      ((machine P).outs s calls).flatMap Output.deliveries ∧
    ((machine P).outs s kept).flatMap Output.events =
      ((machine P).outs s calls).flatMap Output.events ∧
    ∀ env slotId vec, ((machine P).out ((machine P).run s calls)
      (env, .update (.cellInfo slotId vec))).result ≠ .telephonyErrLocalPtrNull := by
  intro kept
  have hprune := (machine P).run_prune (p := fun o => !o.result.isRejection)
    (fun s call h => (next_of_rejected (by simpa only [Bool.not_eq_false'] using h)).1) s calls
  obtain ⟨hrun, houts⟩ := hprune
  refine ⟨hrun, ?_, ?_, ?_, ?_⟩
  · rw [houts, List.filter_map]
    rfl
  · rw [houts, flatMap_filter_outs fun _ => rfl]
  · rw [houts, flatMap_filter_outs fun _ => rfl]
  · intro env slotId vec
    exact cellInfo_completes env slotId vec _

end TelephonyStateRegistry
