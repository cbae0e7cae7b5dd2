import TelephonyStateRegistry.Correctness.Registry
import TelephonyStateRegistry.Interpretation.Live
import TelephonyStateRegistry.Interpretation.Replay

/-!
# Whom an update calls

An update outside the call states calls every record that is there for it, with
its own arguments and in the order of registration. A call-state update makes
one callback on a record at most, although a replay serves every call event of
a mask; the two agree on the records for which only one event is due.
-/

namespace TelephonyStateRegistry

open Reactive

variable {P : Platform}

/-- The records that an update outside the call states is for. -/
def Update.addresses (u : Update P) (env : Env) (m : ObserverMask) (record : Record) : Bool :=
  record.telephonyObserver.isSome && P.contains record.mask m && match u with
    | cellularDataConnectState slotId _ _ | cellularDataFlow slotId _ =>
      record.slotId = slotId || record.slotId = simSlotIdForDefaultConnEvent
    | iccAccount => true
    | voipCallState _ => record.canManageCallForDevices env
    | u => u.slotId = some record.slotId

theorem addresses_iff {u : Update P} {m : ObserverMask} {callback : Callback P}
    (hm : m.isCallState = false) (hp : u.payload m = some callback) (env : Env)
    (record : Record) :
    u.addresses env m record = true ↔
      (u.slotMatches record.slotId = true ∧ record.listensTo P m = true) ∧
        (m = .voipCallState → record.canManageCallForDevices env = true) := by
  cases u <;> cases m <;> simp only [Update.payload, reduceCtorEq] at hp
  all_goals simp only [ObserverMask.isCallState, reduceCtorEq, decide_true, decide_false,
    Bool.or_true, Bool.or_false] at hm
  all_goals
    simp only [Update.slotMatches, Update.slotId, sameSlot, sameOrAllSlots, Update.addresses,
      Bool.and_eq_true, Record.listensTo, beq_iff_eq, decide_eq_true_eq, Bool.or_eq_true,
      Option.some.injEq, Bool.and_true, true_and, reduceCtorEq, false_imp_iff, and_true,
      true_imp_iff]
  all_goals grind

private theorem sent_payload (hx : P.ExtAbsent) {u : Update P} {m : ObserverMask}
    {callback : Callback P} (hm : m.isCallState = false) (hp : u.payload m = some callback)
    (hnull : ∀ slotId, u ≠ .networkState slotId none) (env : Env) (record : Record) :
    callback.sent env record =
      if m = .voipCallState → record.canManageCallForDevices env = true then some callback
      else none := by
  obtain rfl : callback.event = m := (Update.payload_event hp).1
  by_cases hv : callback.event = .voipCallState
  · cases callback <;> simp only [Callback.event, reduceCtorEq] at hv
    simp only [Callback.sent, Callback.event, true_imp_iff]
  · rw [if_pos fun h => absurd h hv]
    refine Callback.sent_of_extAbsent hx hm hv ?_ env record
    rintro slotId rfl
    change u.payload .networkState = _ at hp
    cases u <;> simp only [Update.payload, reduceCtorEq, Option.some.injEq] at hp
    cases hp
    exact hnull slotId rfl

/-- The loop calls the addressed records, with the arguments of the update. -/
theorem live_of_addresses (hx : P.ExtAbsent) {u : Update P} {m : ObserverMask}
    {callback : Callback P} (hm : m.isCallState = false) (hp : u.payload m = some callback)
    (hnull : ∀ slotId, u ≠ .networkState slotId none) (env : Env) (c : Caches P)
    (record : Record) :
    u.live env c record = if u.addresses env m record then some callback else none := by
  rw [Update.live_of_payload hm hp, sent_payload hx hm hp hnull, ← ite_and]
  congr 1
  exact propext (addresses_iff hm hp env record).symm

/-- A loop that makes one and the same callback on some of the records. -/
theorem deliveriesOf_filter (p : Record → Bool) (callback : Callback P)
    (records : List Record) :
    deliveriesOf (fun record => if p record then some callback else none) records =
      (records.filter p).map fun record => ⟨record, callback⟩ := by
  induction records with
  | nil => rfl
  | cons record records ih =>
    unfold deliveriesOf at ih ⊢
    cases hp : p record <;>
      simp only [List.filterMap_cons, List.filter_cons, hp, ih, Bool.false_eq_true, if_false,
        if_true, Option.map_none, Option.map_some, List.map_cons]

/-- **Exact fan-out outside the call states.** Without an extension library, an
accepted update in a reachable state makes its own callback once on each of the
records it is for, in the order of registration, and succeeds exactly if there
is one. -/
theorem update_fan_out (hx : P.ExtAbsent) (calls : List (Call P)) {env : Env} {u : Update P}
    {m : ObserverMask} {callback : Callback P} (hm : m.isCallState = false)
    (hp : u.payload m = some callback) (hnull : ∀ slotId, u ≠ .networkState slotId none)
    (hacc : u.accepted env) :
    let s := Service.after P calls
    let output := (u.function.run env s).2
    let addressed := s.stateRecords.filter (u.addresses env m)
    output.deliveries = addressed.map (fun record => ⟨record, callback⟩) ∧
      output.result = if addressed = [] then .telephonyStateRegistryDataNotExist
        else .telephonySuccess := by
  intro s output addressed
  have hdeliveries : output.deliveries = addressed.map fun record => ⟨record, callback⟩ := by
    have hlive : u.live env (u.function.writeTo s).caches =
        fun record => if u.addresses env m record then some callback else none := by
      funext record
      exact live_of_addresses hx hm hp hnull env _ record
    have hrun := congrArg (fun r => r.2.deliveries) (Update.run_of_accepted hacc s)
    rw [show output.deliveries = _ from hrun]
    simp only [Update.deliveries, hlive]
    exact deliveriesOf_filter _ _ _
  refine ⟨hdeliveries, ?_⟩
  have hresult : output.result = resultOf output.deliveries := by
    simp only [output, Update.run_of_accepted hacc s]
  rw [hresult, hdeliveries, resultOf, List.isEmpty_map]
  cases addressed <;> rfl

/-- A data update reaches the records of its slot and those of all slots. -/
theorem data_flow_fan_out :
    let s := Service.after Platform.dualSim
      [(Env.native, .register (.single Platform.dualSim 1 0 .dataFlow)),
        (Env.native, .register (.single Platform.dualSim 2 1 .dataFlow)),
        (Env.native, .register (.single Platform.dualSim 3 999 .dataFlow))]
    let output := ((Update.cellularDataFlow 0 3).function.run Env.native s).2
    output.deliveries.map (fun d => d.record.telephonyObserver) = [some 1, some 3] ∧
      output.result = .telephonySuccess := by
  intro s output
  obtain ⟨hdeliveries, hresult⟩ := update_fan_out Platform.dualSim_extAbsent
    [(Env.native, .register (.single Platform.dualSim 1 0 .dataFlow)),
      (Env.native, .register (.single Platform.dualSim 2 1 .dataFlow)),
      (Env.native, .register (.single Platform.dualSim 3 999 .dataFlow))]
    (u := Update.cellularDataFlow 0 3) (m := .dataFlow) rfl rfl (fun _ h => by cases h)
    (show (Update.cellularDataFlow 0 3 : Update Platform.dualSim).accepted Env.native by decide)
  rw [show output.deliveries = _ from hdeliveries, show output.result = _ from hresult]
  exact ⟨rfl, rfl⟩

/-- The events of a call, in the order in which a loop tests them. -/
def callEvents : List ObserverMask := [.callState, .callStateEx, .ccallState]

/-- A subscribed event of a call; the call-control event is due only to a token
that may manage calls. -/
def Record.due (P : Platform) (env : Env) (record : Record) (m : ObserverMask) : Bool :=
  P.contains record.mask m && (m != .ccallState || record.canManageCallForDevices env)

/-- How many callbacks for an event are made on a record. -/
def told (ds : List (Delivery P)) (record : Record) (m : ObserverMask) : Nat :=
  ds.countP fun d => d.record = record && d.callback.event = m

/-- Every record of the slot gets each callback of a call that is due to it once,
as a replay would make them; and the update succeeds if it made any callback. -/
def Update.ServesCallEvents (u : Update P) (env : Env) (s : Service P) : Prop :=
  let (after, output) := u.function.run env s
  (∀ record ∈ s.stateRecords, u.slotId = some record.slotId → record.telephonyObserver ≠ none →
    ∀ m ∈ callEvents,
      told output.deliveries record m = (if record.due P env m then 1 else 0) ∧
      told output.deliveries record m =
        told ((updateData env record after.caches).1.map (Delivery.mk record)) record m) ∧
  (output.result = .telephonySuccess ↔ output.deliveries ≠ [])

private theorem told_deliveriesOf {call : Record → Option (Callback P)} {records : List Record}
    (hnodup : records.Nodup) {record : Record} (hr : record ∈ records) (m : ObserverMask) :
    told (deliveriesOf call records) record m =
      if (call record).any fun callback => callback.event = m then 1 else 0 := by
  unfold told deliveriesOf
  rw [countP_filterMap_of_unique (x := record) _ hnodup hr]
  · cases call record <;> simp
  · intro r d hd hp
    obtain ⟨callback, -, rfl⟩ := Option.map_eq_some_iff.mp hd
    simp only [Bool.and_eq_true, decide_eq_true_eq] at hp
    exact hp.1

private theorem liveCallState_event {slotId state : Int} {phoneNumber number : U16String}
    {record : Record} (hs : record.slotId = slotId) (ho : record.telephonyObserver ≠ none)
    (env : Env) (m : ObserverMask) :
    ((liveCallState env slotId state phoneNumber number record : Option (Callback P)).any
        fun callback => callback.event = m) =
      (decide (callEvents.find? (P.contains record.mask) = some m) && record.due P env m) := by
  have hlistens : record.listensTo P = P.contains record.mask := by
    funext m
    rw [Record.listensTo, Option.isSome_iff_ne_none.mpr ho, Bool.true_and]
  simp only [liveCallState, hs, if_true, hlistens, callEvents, Record.due]
  cases hcall : P.contains record.mask .callState
  · cases hcallEx : P.contains record.mask .callStateEx
    · cases hccall : P.contains record.mask .ccallState
      · simp [hcall, hcallEx, hccall]
      · cases hmanage : record.canManageCallForDevices env <;>
          cases m <;> simp [hcall, hcallEx, hccall, Callback.event]
    · cases m <;> simp [hcall, hcallEx, Callback.event]
  · cases m <;> simp [hcall, Callback.event]

private theorem live_event {u : Update P} (hu : u.topics = callEvents) {record : Record}
    (hs : u.slotId = some record.slotId) (ho : record.telephonyObserver ≠ none) (env : Env)
    (c : Caches P) (m : ObserverMask) :
    ((u.live env c record).any fun callback => callback.event = m) =
      (decide (callEvents.find? (P.contains record.mask) = some m) && record.due P env m) := by
  cases u with
  | callState state number => exact liveCallState_event (Option.some.inj hs).symm ho env m
  | callStateForSlotId slotId state number =>
    exact liveCallState_event (Option.some.inj hs).symm ho env m
  | _ => cases hu

private theorem resultOf_success_iff (ds : List (Delivery P)) :
    resultOf ds = .telephonySuccess ↔ ds ≠ [] := by
  cases ds <;> simp [resultOf]

private theorem told_replay {record : Record} (ho : record.telephonyObserver ≠ none) (env : Env)
    (c : Caches P) {m : ObserverMask} (hm : m ∈ callEvents) :
    told ((updateData env record c).1.map (Delivery.mk record)) record m =
      if record.due P env m then 1 else 0 := by
  have horder : m ∈ replayOrder := by
    have hsubset : callEvents ⊆ replayOrder := by decide
    exact hsubset hm
  have hnodup : replayOrder.Nodup := by decide
  have hlistens : record.listensTo P m = P.contains record.mask m := by
    rw [Record.listensTo, Option.isSome_iff_ne_none.mpr ho, Bool.true_and]
  have hblock : ((if record.listensTo P m then c.replayed env record m else none).any
      fun callback => callback.event = m) = record.due P env m := by
    simp only [callEvents, List.mem_cons, List.not_mem_nil, or_false] at hm
    rw [hlistens, Record.due]
    cases P.contains record.mask m with
    | false => rfl
    | true =>
      cases hcan : record.canManageCallForDevices env <;> rcases hm with rfl | rfl | rfl <;>
        simp [Caches.replayed, Caches.cached, Callback.shown, Callback.event, hcan]
  have hcount : ((updateData env record c).1.countP fun callback => callback.event = m) =
      if record.due P env m then 1 else 0 := by
    rw [(updateData_spec env record c).1, List.filterMap_filter,
      countP_filterMap_of_unique (x := m) _ hnodup horder, hblock]
    intro n callback hc hevent
    obtain ⟨-, hc⟩ := Option.ite_none_right_eq_some.mp hc
    rw [← (Caches.replayed_event hc).1]
    exact of_decide_eq_true hevent
  rw [told, List.countP_map, ← hcount]
  congr 1
  funext callback
  simp

private theorem first_serves_iff (record : Record) (env : Env) :
    (∀ m ∈ callEvents, (decide (callEvents.find? (P.contains record.mask) = some m) &&
        record.due P env m) = record.due P env m) ↔
      callEvents.countP (record.due P env) ≤ 1 := by
  simp only [callEvents, List.countP_cons, List.countP_nil, Record.due]
  rcases Bool.eq_false_or_eq_true (P.contains record.mask .callState) with hcall | hcall <;>
    rcases Bool.eq_false_or_eq_true (P.contains record.mask .callStateEx) with hcallEx | hcallEx <;>
      rcases Bool.eq_false_or_eq_true (P.contains record.mask .ccallState) with hccall | hccall <;>
        rcases Bool.eq_false_or_eq_true (record.canManageCallForDevices env) with hcan | hcan <;>
          simp [hcall, hcallEx, hccall, hcan]

/-- **When a call-state update serves every call event.** In a reachable state an
accepted call-state update makes every callback of the call that is due, exactly
as a replay would, if and only if no record of its slot is due more than one. -/
theorem serves_call_events_iff (calls : List (Call P)) {env : Env} {u : Update P}
    (hu : u.topics = callEvents) (hacc : u.accepted env) :
    u.ServesCallEvents env (Service.after P calls) ↔
      ∀ record ∈ (Service.after P calls).stateRecords, u.slotId = some record.slotId →
        record.telephonyObserver ≠ none → callEvents.countP (record.due P env) ≤ 1 := by
  have hwell : (Service.after P calls).WellKeyed :=
    Service.WellKeyed.run (s := Service.init P) List.nodup_nil calls
  have hnodup : (Service.after P calls).stateRecords.Nodup := List.Nodup.of_map _ hwell
  simp only [Update.ServesCallEvents, Update.run_of_accepted hacc]
  rw [and_iff_left (resultOf_success_iff _)]
  apply forall₂_congr
  intro record hr
  apply forall₂_congr
  intro hs ho
  rw [← first_serves_iff record env]
  apply forall₂_congr
  intro m hm
  rw [told_replay ho env _ hm, and_self_iff, Update.deliveries]
  change told (deliveriesOf _ (Service.after P calls).stateRecords) record m = _ ↔ _
  rw [told_deliveriesOf hnodup hr, live_event hu hs ho]
  cases decide (callEvents.find? (P.contains record.mask) = some m) <;>
    cases record.due P env m <;> decide

/-- A native process registers an observer for some events of calls on slot 0. -/
private def callObserver (events : List ObserverMask) : Call Platform.dualSim :=
  (Env.native, .register { Registration.single Platform.dualSim 1 0 .callState with
    mask := (events.map Platform.dualSim.mask).foldl (· ||| ·) 0#32 })

theorem single_call_event_served :
    (Update.callStateForSlotId 0 4 [] : Update Platform.dualSim).ServesCallEvents Env.native
      (Service.after Platform.dualSim [callObserver [.callStateEx]]) := by
  refine (serves_call_events_iff [callObserver [.callStateEx]] rfl
    (show (Update.callStateForSlotId 0 4 [] : Update Platform.dualSim).accepted Env.native
      by decide)).mpr ?_
  intro record hr _ _
  rw [List.mem_singleton.mp hr]
  decide

/-- An observer of both call states is told of one of them only. -/
theorem second_call_event_lost :
    (Update.callStateForSlotId 0 4 [] : Update Platform.dualSim).accepted Env.native ∧
    ¬(Update.callStateForSlotId 0 4 [] : Update Platform.dualSim).ServesCallEvents Env.native
      (Service.after Platform.dualSim [callObserver [.callState, .callStateEx]]) := by
  refine ⟨by decide, ?_⟩
  rintro ⟨h, -⟩
  have hone := (h _ (List.mem_singleton.mpr rfl) rfl (by decide) .callStateEx (by decide)).1
  revert hone
  decide

end TelephonyStateRegistry
