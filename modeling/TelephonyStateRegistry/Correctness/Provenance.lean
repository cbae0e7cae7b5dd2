import TelephonyStateRegistry.Correctness.Subscription

/-!
# Where the states shown to observers come from

A loop shows observers the arguments of its own update. A replay shows them
what the inserting subscript returns, which is the last report on the slot of
the record if there was one, and a default that nobody reported otherwise. So
no state is made up in a run exactly when every replay has a report behind it.
-/

namespace TelephonyStateRegistry

open Reactive

variable {P : Platform}

/-- The events whose callbacks carry a state that is known from updates alone. -/
def ObserverMask.isStateEvent : ObserverMask → Bool
  | simState | dataConnectionState | dataFlow | cfuIndicator | voiceMailMsgIndicator
  | simActiveState => true
  | _ => false

/-- A data callback moved to another slot; it then carries the values alone. -/
def Callback.under (slotId : Int) : Callback P → Callback P
  | onCellularDataConnectStateUpdated _ dataState networkType =>
    .onCellularDataConnectStateUpdated slotId dataState networkType
  | onCellularDataFlowUpdated _ flowData => .onCellularDataFlowUpdated slotId flowData
  | callback => callback

/-- What a call reports for an event, on whatever slot. -/
def Call.reportAnywhere (m : ObserverMask) : Call P → Option (Callback P)
  | (env, .update u) => if u.accepted env then u.payload m else none
  | (_, .register _) | (_, .unregister _) => none

/-- The delivered value was reported on the delivered slot, or it is the value
last reported on any slot and goes to a record that observes all slots. -/
def Delivery.Reported (history : List (Call P)) (d : Delivery P) : Prop :=
  (∃ call ∈ history, ∃ slotId, Call.report d.callback.event slotId call = some d.callback) ∨
  d.record.slotId = simSlotIdForDefaultConnEvent ∧ DataEvent d.callback.event ∧
    ∃ reported, lastOf (Call.reportAnywhere d.callback.event) history = some reported ∧
      d.callback.under simSlotIdForDefaultConnEvent =
        reported.under simSlotIdForDefaultConnEvent

/-- Every state shown in a run was reported, by the call that shows it at the latest. -/
def NoFabricatedState (calls : List (Call P)) : Prop :=
  ∀ before call after, calls = before ++ call :: after →
    ∀ d ∈ ((machine P).out (Service.after P before) call).deliveries,
      d.callback.event.isStateEvent = true → d.Reported (before ++ [call])

/-- A replay of an event under a slot has a report to show: one on that slot, or,
for an all-slot record, a last report on any slot that happens to carry the
values of a map that holds nothing. -/
def Backed (before : List (Call P)) (m : ObserverMask) (slotId : Int) : Prop :=
  (lastOf (Call.report m slotId) before).isSome ∨
  slotId = simSlotIdForDefaultConnEvent ∧ DataEvent m ∧
    ∃ reported, lastOf (Call.reportAnywhere m) before = some reported ∧
      (Caches.init P).cached m slotId = some (reported.under slotId)

/-- Every replay of a run has a report behind each state it shows. -/
def ReplaysBacked (calls : List (Call P)) : Prop :=
  ∀ before env r after, calls = before ++ (env, .register r) :: after →
    r.admitted P env → r.isUpdate = true →
      (r.subscriber (Service.after P before)).telephonyObserver ≠ none →
        ∀ m, m.isStateEvent = true → P.contains r.mask m = true → Backed before m r.slotId

theorem ObserverMask.isStateEvent_not_callState {m : ObserverMask}
    (h : m.isStateEvent = true) : m.isCallState = false := by
  cases m <;> first | rfl | cases h

/-- The caches hold a callback for every state event. -/
theorem Caches.exists_stateEvent {m : ObserverMask} (h : m.isStateEvent = true) (c : Caches P)
    (slotId : Int) : ∃ callback, c.cached m slotId = some callback ∧ callback.event = m ∧
      callback.slotId = some slotId := by
  cases m <;> first
    | exact ⟨_, rfl, rfl, rfl⟩
    | cases h

/-- A data callback under the sentinel is its own value. -/
theorem Callback.under_of_slotId {callback : Callback P} {slotId : Int}
    (h : callback.slotId = some slotId) : callback.under slotId = callback := by
  cases callback <;> simp only [Callback.slotId, Option.some.injEq, reduceCtorEq] at h <;> first
    | rfl
    | (subst h; rfl)

theorem Callback.under_under (slotId : Int) (callback : Callback P) :
    (callback.under slotId).under slotId = callback.under slotId := by
  cases callback <;> rfl

/-- A report on a topic names the slot of the topic. -/
theorem Call.report_slotId {m : ObserverMask} {slotId : Int} {call : Call P}
    {callback : Callback P} (h : Call.report m slotId call = some callback) :
    callback.slotId = some slotId := by
  obtain ⟨env, op⟩ := call
  cases op with
  | update u =>
    obtain ⟨-, hu⟩ := Option.ite_none_right_eq_some.mp h
    obtain ⟨hslot, hp⟩ := Option.ite_none_right_eq_some.mp hu
    exact (Update.payload_event hp).2.trans hslot
  | register r => cases h
  | unregister k => cases h

/-- Without an extension library, a loop shows a state as its update reports it. -/
theorem reported_of_live (hx : P.ExtAbsent) {u : Update P} {env : Env} {c : Caches P}
    (hacc : u.accepted env) {record : Record} {callback : Callback P}
    (hlive : u.live env (u.function.write c) record = some callback)
    (hm : callback.event.isStateEvent = true) :
    ∃ slotId, Call.report callback.event slotId (env, .update u) = some callback := by
  obtain ⟨-, -, hslot, reported, hp, hsent⟩ := Update.live_eq_some hlive
  rw [Update.payloadAt_write] at hp
  have hevent := (Update.payload_event hp).1
  have hcall : reported.event.isCallState = false :=
    hevent ▸ ObserverMask.isStateEvent_not_callState hm
  have hvoip : reported.event ≠ .voipCallState := by
    rw [hevent]
    intro hv
    rw [hv] at hm
    cases hm
  have hnet : ∀ slotId, reported ≠ .onNetworkStateUpdated slotId none := by
    rintro slotId rfl
    rw [← hevent] at hm
    cases hm
  rw [Callback.sent_of_extAbsent hx hcall hvoip hnet, Option.some.injEq] at hsent
  subst hsent
  obtain ⟨slotId, hs⟩ : ∃ slotId, reported.slotId = some slotId := by
    cases reported <;> first
      | exact ⟨_, rfl⟩
      | cases hm
  refine ⟨slotId, ?_⟩
  rw [Call.report, if_pos hacc, Update.report, if_pos (hslot.symm.trans hs), hp]

/-- The caches after a run hold the last report on a topic, or the initial callback. -/
theorem stateEvent_cached {m : ObserverMask} (hm : m.isStateEvent = true) (calls : List (Call P))
    (slotId : Int) : (Service.after P calls).caches.cached m slotId =
      (lastOf (Call.report m slotId) calls).or ((Caches.init P).cached m slotId) := by
  have hnet : m ≠ .networkState := by
    rintro rfl
    cases hm
  exact cached_run (fun h => absurd h hnet) (Service.init P) slotId

private theorem lastOf_before_register (m : ObserverMask) (before : List (Call P)) (env : Env)
    (r : Registration) :
    lastOf (Call.reportAnywhere m) (before ++ [(env, .register r)]) =
      lastOf (Call.reportAnywhere m) before := by
  rw [lastOf_concat]
  rfl

private theorem reported_of_backed {before : List (Call P)} {env : Env} {r : Registration}
    {d : Delivery P} (hm : d.callback.event.isStateEvent = true)
    (hd : d ∈ r.replay env (Service.after P before))
    (hbacked : Backed before d.callback.event r.slotId) :
    d.Reported (before ++ [(env, .register r)]) := by
  obtain ⟨-, hrecord, -, -, hreplayed⟩ := Registration.mem_replay.mp hd
  have hslot : d.record.slotId = r.slotId := by
    rw [hrecord]
    exact (r.subscriber_fields _).2
  rw [Caches.replayed_of_not_callState (ObserverMask.isStateEvent_not_callState hm), hslot,
    stateEvent_cached hm] at hreplayed
  cases hlast : lastOf (Call.report d.callback.event r.slotId) before with
  | some callback =>
    rw [hlast, Option.some_or, Option.some.injEq] at hreplayed
    obtain ⟨call, hmem, hreport⟩ := exists_mem_of_lastOf _ hlast
    rw [hreplayed] at hreport
    exact Or.inl ⟨call, List.mem_append_left _ hmem, r.slotId, hreport⟩
  | none =>
    rw [hlast, Option.none_or] at hreplayed
    rcases hbacked with hsome | ⟨hsentinel, hdata, reported, hany, hdefault⟩
    · rw [hlast] at hsome
      cases hsome
    · rw [hreplayed, Option.some.injEq] at hdefault
      refine Or.inr ⟨hslot.trans hsentinel, hdata, reported, ?_, ?_⟩
      · rw [lastOf_before_register]
        exact hany
      · rw [hdefault, ← hsentinel, Callback.under_under]

private theorem backed_of_reported {before : List (Call P)} {env : Env} {r : Registration}
    {m : ObserverMask} (hm : m.isStateEvent = true) (hupdate : r.isUpdate = true)
    (ho : (r.subscriber (Service.after P before)).telephonyObserver ≠ none)
    (hbit : P.contains r.mask m = true)
    (h : ∀ d ∈ r.replay env (Service.after P before), d.callback.event.isStateEvent = true →
      d.Reported (before ++ [(env, .register r)])) : Backed before m r.slotId := by
  obtain ⟨hmask, hslot⟩ := r.subscriber_fields (Service.after P before)
  obtain ⟨callback, hcached, hevent, hcallback⟩ :=
    Caches.exists_stateEvent hm (Service.after P before).caches r.slotId
  have hlisten : (r.subscriber (Service.after P before)).listensTo P m = true :=
    Record.listensTo_iff.mpr ⟨ho, hmask.symm ▸ hbit⟩
  have horder : m ∈ replayOrder := by
    cases m <;> first
      | decide
      | cases hm
  have hmem : ⟨r.subscriber (Service.after P before), callback⟩ ∈
      r.replay env (Service.after P before) := by
    refine Registration.mem_replay.mpr ⟨hupdate, rfl, hevent ▸ horder, hevent ▸ hlisten, ?_⟩
    rw [Caches.replayed_of_not_callState
      (ObserverMask.isStateEvent_not_callState (hevent ▸ hm)), hslot, hevent]
    exact hcached
  rw [stateEvent_cached hm] at hcached
  cases hlast : lastOf (Call.report m r.slotId) before with
  | some reported => exact Or.inl (by rw [hlast]; rfl)
  | none =>
    rw [hlast, Option.none_or] at hcached
    rcases h _ hmem (hevent ▸ hm) with ⟨call, hcall, slotId, hreport⟩ |
      ⟨hsentinel, hdata, reported, hany, hvalue⟩
    · -- the report would be on the slot of the registration
      have hsame : slotId = r.slotId :=
        Option.some.inj ((Call.report_slotId hreport).symm.trans hcallback)
      rw [hsame, hevent] at hreport
      rcases List.mem_append.mp hcall with hcall | hcall
      · have hnone := lastOf_eq_none (Call.report m r.slotId) |>.mp hlast call hcall
        cases hnone.symm.trans hreport
      · rw [List.mem_singleton.mp hcall] at hreport
        cases hreport
    · rw [lastOf_before_register] at hany
      have hslot' : r.slotId = simSlotIdForDefaultConnEvent := hslot.symm.trans hsentinel
      rw [hevent] at hany hdata
      refine Or.inr ⟨hslot', hdata, reported, hany, ?_⟩
      rw [hcached, hslot', ← hvalue, Callback.under_of_slotId (hslot' ▸ hcallback)]

/-- **Fabricated states come from unbacked replays.** Without an extension
library, every SIM state, data connection, data flow, forwarding, voice-mail and
activation state shown in a run was reported before, exactly when every replay
in the run has a report behind each such state it shows. -/
theorem no_fabricated_state_iff (hx : P.ExtAbsent) (calls : List (Call P)) :
    NoFabricatedState calls ↔ ReplaysBacked calls := by
  constructor
  · intro h before env r after hcalls hadm hupdate ho m hm hbit
    have hshown : ∀ d ∈ r.replay env (Service.after P before),
        d.callback.event.isStateEvent = true → d.Reported (before ++ [(env, .register r)]) := by
      intro d hd hstate
      refine h before (env, .register r) after hcalls d ?_ hstate
      rw [machine_out_register, registerStateChange_deliveries, if_pos hadm]
      exact hd
    exact backed_of_reported hm hupdate ho hbit hshown
  · intro h before call after hcalls d hd hm
    obtain ⟨env, op⟩ := call
    rcases mem_out_deliveries hd with ⟨u, rfl, hacc, -, hlive⟩ | ⟨r, rfl, hadm, hreplay⟩
    · obtain ⟨slotId, hreport⟩ := reported_of_live hx hacc hlive hm
      exact Or.inl ⟨_, List.mem_append_right _ (List.mem_singleton_self _), slotId, hreport⟩
    · obtain ⟨hupdate, hrecord, -, hlisten, -⟩ := Registration.mem_replay.mp hreplay
      rw [hrecord] at hlisten
      obtain ⟨ho, hbit⟩ := Record.listensTo_iff.mp hlisten
      rw [(r.subscriber_fields _).1] at hbit
      exact reported_of_backed hm hreplay (h before env r after hcalls hadm hupdate ho _ hm hbit)

theorem simState_not_fabricated :
    NoFabricatedState (P := Platform.dualSim) [(Env.native, .update (.simState 0 1 2 3)),
      (Env.native, .register (.single Platform.dualSim 1 0 .simState))] := by
  apply (no_fabricated_state_iff Platform.dualSim_extAbsent _).mpr
  intro before env r after hcalls _ _ _ m _ hm
  rcases before with _ | ⟨call, _ | ⟨call', before⟩⟩
  · cases hcalls
  · simp only [List.singleton_append, List.cons.injEq, Prod.mk.injEq, Op.register.injEq] at hcalls
    obtain ⟨rfl, ⟨-, rfl⟩, -⟩ := hcalls
    obtain rfl := (Platform.contains_mask _ _ _).mp hm
    exact Or.inl rfl
  · have hlength := congrArg List.length hcalls
    simp only [List.length_cons, List.length_nil, List.length_append] at hlength
    omega

/-- A subscriber of a slot without reports is told that its SIM state is zero. -/
theorem simState_fabricated :
    ¬NoFabricatedState (P := Platform.dualSim)
      [(Env.native, .register (.single Platform.dualSim 1 0 .simState))] := by
  intro h
  have hreported := h [] _ [] rfl
    ⟨(Registration.single Platform.dualSim 1 0 .simState).record, .onSimStateUpdated 0 0 0 0⟩
    (List.mem_singleton_self _) rfl
  rcases hreported with ⟨call, hcall, slotId, hreport⟩ | ⟨hslot, -⟩
  · rw [List.mem_singleton.mp hcall] at hreport
    cases hreport
  · cases hslot

end TelephonyStateRegistry
