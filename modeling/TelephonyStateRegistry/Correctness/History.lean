import TelephonyStateRegistry.Interpretation.Outcome

/-!
# Replay agrees with the last live report

The fourteen maps are written by the updates and read back by the replay. Over
a whole run the callback that the caches hold for a topic is the last one that
an accepted update reported on it, so a fresh subscriber is shown exactly that.
-/

namespace TelephonyStateRegistry

open Reactive

variable {P : Platform}

/-- A topic with reports has a block in the replay. -/
theorem Update.mem_replayOrder_of_report {u : Update P} {m : ObserverMask} {slotId : Int}
    {callback : Callback P} (h : u.report m slotId = some callback) : m ∈ replayOrder := by
  obtain ⟨hslot, hp⟩ := Option.ite_none_right_eq_some.mp h
  cases u <;> cases m <;> first
    | decide
    | simp only [payload, Update.slotId, reduceCtorEq] at hp hslot

theorem Call.exists_update_of_report {call : Call P} {m : ObserverMask} {slotId : Int}
    {callback : Callback P} (h : Call.report m slotId call = some callback) :
    ∃ u, call.2 = .update u ∧ u.accepted call.1 ∧ u.report m slotId = some callback := by
  obtain ⟨env, op⟩ := call
  cases op with
  | update u =>
    obtain ⟨hacc, hu⟩ := Option.ite_none_right_eq_some.mp h
    exact ⟨u, rfl, hacc, hu⟩
  | register r => cases h
  | unregister k => cases h

/-- Under an absent key the subscriber of a registration is its own record. -/
theorem Registration.subscriber_of_fresh {r : Registration} {s : Service P}
    (h : s.registered r.key = none) : r.subscriber s = r.record := by
  rw [subscriber, h, Option.getD_none]

theorem Registration.listensTo_record {r : Registration} (ho : r.telephonyObserver ≠ none)
    {m : ObserverMask} (hm : P.contains r.mask m = true) : r.record.listensTo P m = true :=
  Record.listensTo_iff.mpr ⟨ho, hm⟩

/-- **Replay is the last report.** An admitted registration with replay, under a
key not yet stored, makes for each event of its mask that was ever reported on
its slot exactly one callback, with the arguments of the last accepted update,
as the new record may see them. -/
theorem replay_is_last_report {calls : List (Call P)} {env : Env} {r : Registration}
    {m : ObserverMask} {callback : Callback P}
    (hcopy : m = .networkState → ∀ call ∈ calls, Call.CopiedFaithfully call)
    (hlast : lastOf (Call.report m r.slotId) calls = some callback)
    (hadm : r.admitted P env) (hfresh : (Service.after P calls).registered r.key = none)
    (hupdate : r.isUpdate = true) (ho : r.telephonyObserver ≠ none)
    (hm : P.contains r.mask m = true) :
    ((registerStateChange env r (Service.after P calls)).2.deliveries.filter
        fun d => d.callback.event = m) =
      ((callback.shown env r.record).map (Delivery.mk r.record)).toList := by
  obtain ⟨call, -, hreport⟩ := exists_mem_of_lastOf _ hlast
  obtain ⟨u, -, -, hu⟩ := Call.exists_update_of_report hreport
  have hcached : (Service.after P calls).caches.cached m r.slotId = some callback := by
    rw [Service.after, cached_run hcopy, hlast, Option.some_or]
  have hreplayed : (Service.after P calls).caches.replayed env r.record m =
      callback.shown env r.record := by
    rw [Caches.replayed]
    change ((Service.after P calls).caches.cached m r.slotId).bind _ = _
    rw [hcached, Option.bind_some]
  obtain ⟨c', hrun, -⟩ := registerStateChange_replays hadm (Service.after P calls)
  rw [hrun]
  change (r.replay env (Service.after P calls)).filter (fun d => d.callback.event = m) = _
  rw [Registration.replay_event, Registration.subscriber_of_fresh hfresh,
    if_pos ⟨hupdate, Update.mem_replayOrder_of_report hu, Registration.listensTo_record ho hm⟩,
    hreplayed]

theorem simState_replayed :
    let P := Platform.dualSim
    let r := Registration.single P 1 0 .simState
    let s := Service.after P [(Env.native, .update (.simState 0 1 2 3))]
    ((registerStateChange Env.native r s).2.deliveries.filter
        fun d => d.callback.event = .simState) = [⟨r.record, .onSimStateUpdated 0 1 2 3⟩] := by
  have hlast : lastOf (Call.report .simState 0)
      [((Env.native, .update (.simState 0 1 2 3)) : Call Platform.dualSim)] =
        some (.onSimStateUpdated 0 1 2 3) := rfl
  exact replay_is_last_report (m := .simState) (r := .single Platform.dualSim 1 0 .simState)
    (fun h => nomatch h) hlast (by decide) rfl rfl (Option.some_ne_none _) (by decide)

end TelephonyStateRegistry
