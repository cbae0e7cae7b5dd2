import TelephonyStateRegistry.Service.Update

/-!
# What a notification does

For each update the callback that its loop makes on one record is stated once,
and the thirteen hand-written loops are shown to be the filter-map of the
registry by that function. The abort of the cell-information loop disappears
here, and so do the cache reads that happen during a traversal.
-/

namespace TelephonyStateRegistry

open Reactive

variable {P : Platform}

/-- A record with an observer that subscribed to an event. -/
def Record.listensTo (P : Platform) (record : Record) (m : ObserverMask) : Bool :=
  record.telephonyObserver.isSome && P.contains record.mask m

theorem Record.listensTo_iff {record : Record} {m : ObserverMask} :
    record.listensTo P m = true ↔
      record.telephonyObserver ≠ none ∧ P.contains record.mask m = true := by
  simp only [Record.listensTo, Bool.and_eq_true, Option.isSome_iff_ne_none]

@[simp] theorem Record.isExistStateListener_mask (record : Record) (m : ObserverMask) :
    record.isExistStateListener (P.mask m) = record.listensTo P m := by
  rw [Bool.eq_iff_iff, Record.isExistStateListener_iff, Record.listensTo_iff,
    P.and_mask_ne_zero]

/-- Which of the three call-state callbacks a live report makes on a record: the
first subscribed event in the order of the source. -/
def liveCallState (env : Env) (slotId state : Int) (phoneNumber number : U16String)
    (record : Record) : Option (Callback P) :=
  if record.slotId = slotId then
    if record.listensTo P .callState then
      some (.onCallStateUpdated slotId state
        (if record.isCanReadCallHistory env then phoneNumber else []))
    else if record.listensTo P .callStateEx then some (.onCallStateUpdatedEx slotId state)
    else if record.listensTo P .ccallState then
      if record.canManageCallForDevices env then
        some (.onCCallStateUpdated slotId state number)
      else none
    else none
  else none

/-- The callback that the loop of an update makes on a record. -/
def Update.live (u : Update P) (env : Env) (c : Caches P) (record : Record) :
    Option (Callback P) :=
  match u with
  | cellularDataConnectState slotId dataState networkType =>
    if record.listensTo P .dataConnectionState ∧ sameOrAllSlots slotId record.slotId then
      some (.onCellularDataConnectStateUpdated slotId dataState
        (match P.onCellularDataConnectStateUpdated with
          | some hook => hook slotId record networkType
          | none => networkType))
    else none
  | cellularDataFlow slotId flowData =>
    if record.listensTo P .dataFlow ∧ sameOrAllSlots slotId record.slotId then
      some (.onCellularDataFlowUpdated slotId flowData)
    else none
  | callState state number => liveCallState env (-1) state number number record
  | callStateForSlotId slotId state number =>
    liveCallState env slotId state (c.callIncomingNumber.read slotId) number record
  | simState slotId type state reason =>
    if record.listensTo P .simState ∧ record.slotId = slotId then
      some (.onSimStateUpdated slotId type state reason)
    else none
  | signalInfo slotId vec =>
    if record.listensTo P .signalStrengths ∧ record.slotId = slotId then
      some (.onSignalInfoUpdated slotId
        (match P.onSignalInfoUpdated with
          | some hook => hook slotId record vec vec
          | none => vec))
    else none
  | cellInfo slotId vec =>
    if record.listensTo P .cellInfo ∧ record.slotId = slotId then
      some (.onCellInfoUpdated slotId
        (match P.onCellInfoUpdated with
          | some hook => hook slotId record vec vec
          | none => vec))
    else none
  | networkState slotId state =>
    if record.listensTo P .networkState ∧ record.slotId = slotId ∧ state.isSome then
      some (.onNetworkStateUpdated slotId
        (match P.onNetworkStateUpdated with
          | some hook => hook slotId record (state.map P.parcelCopy) state
          | none => state))
    else none
  | cfuIndicator slotId cfuResult =>
    if record.listensTo P .cfuIndicator ∧ record.slotId = slotId then
      some (.onCfuIndicatorUpdated slotId cfuResult)
    else none
  | iccAccount => if record.listensTo P .iccAccount then some .onIccAccountUpdated else none
  | voiceMailMsgIndicator slotId voiceMailMsgResult =>
    if record.listensTo P .voiceMailMsgIndicator ∧ record.slotId = slotId then
      some (.onVoiceMailMsgIndicatorUpdated slotId voiceMailMsgResult)
    else none
  | simActiveState slotId activeStateResult =>
    if record.listensTo P .simActiveState ∧ record.slotId = slotId then
      some (.onSimActiveStateUpdated slotId activeStateResult)
    else none
  | voipCallState info =>
    if record.listensTo P .voipCallState ∧ record.canManageCallForDevices env then
      some (.onVoIPStateUpdated info)
    else none

/-- The common events that an accepted update publishes. -/
def Update.events : Update P → List CommonEvent
  | cellularDataConnectState slotId dataState networkType =>
    [sendCellularDataConnectStateChanged slotId dataState networkType]
  | callState state number => [sendCallStateChanged (-1) state,
      sendCallStateChangedAsUserMultiplePermission P (-1) state number]
  | callStateForSlotId slotId state number => [sendCallStateChanged slotId state,
      sendCallStateChangedAsUserMultiplePermission P slotId state number]
  | simState slotId type state reason => [sendSimStateChanged slotId type state reason]
  | signalInfo slotId vec => [sendSignalInfoChanged P slotId vec]
  | networkState slotId state => [sendNetworkStateChanged P slotId state]
  | cellularDataFlow .. | cellInfo .. | cfuIndicator .. | iccAccount
  | voiceMailMsgIndicator .. | simActiveState .. | voipCallState .. => []

/-- The deliveries of a notification in a given state. -/
def Update.deliveries (u : Update P) (env : Env) (s : Service P) : List (Delivery P) :=
  deliveriesOf (u.live env s.caches) s.stateRecords

/-- The caches after the number of a slot was read through the inserting subscript. -/
def Caches.touchNumber (c : Caches P) (slotId : Int) : Caches P :=
  { c with callIncomingNumber := c.callIncomingNumber.touch slotId }

private theorem notify_listeners {m : ObserverMask} {slotMatches : Int → Bool}
    {callback : Record → Callback P} {call : Record → Option (Callback P)}
    (h : ∀ record, call record = if record.listensTo P m ∧ slotMatches record.slotId then
      some (callback record) else none) (events : List CommonEvent) (s : Service P) :
    notifyRecords (listenerBody P m slotMatches callback) events s =
      (s, ⟨resultOf (deliveriesOf call s.stateRecords), deliveriesOf call s.stateRecords,
        events⟩) := by
  apply notifyRecords_of_pure
  intro record c
  simp only [listenerBody, Record.isExistStateListener_mask, h]
  by_cases hl : record.listensTo P m = true
  · have ho := (Record.listensTo_iff.mp hl).1
    by_cases hs : slotMatches record.slotId = true <;> simp [hl, hs, ho, LoopStep.ofCall]
  · simp [hl, LoopStep.ofCall]

private theorem cellInfoBody_pure (slotId : Int) (vec : List (Option P.CellInformation))
    (env : Env) (record : Record) (c : Caches P) :
    cellInfoBody slotId vec record c =
      (LoopStep.ofCall ((Update.cellInfo slotId vec).live env c record), c) := by
  simp only [cellInfoBody, Record.isExistStateListener_mask, Update.live]
  by_cases hl : record.listensTo P .cellInfo ∧ record.slotId = slotId
  · -- a listening record has an observer, so the abort is never reached
    have ho := (Record.listensTo_iff.mp hl.1).1
    rw [if_pos hl, if_pos hl, if_neg ho]
    cases P.onCellInfoUpdated <;> rfl
  · rw [if_neg hl, if_neg hl]
    rfl

private theorem networkStateBody_pure (slotId : Int) (networkState : Option P.NetworkState)
    (env : Env) (record : Record) (c : Caches P) :
    networkStateBody slotId networkState record c =
      (LoopStep.ofCall ((Update.networkState slotId networkState).live env c record), c) := by
  simp only [networkStateBody, Record.isExistStateListener_mask, Update.live]
  by_cases hl : record.listensTo P .networkState = true
  · have ho := (Record.listensTo_iff.mp hl).1
    by_cases hs : record.slotId = slotId ∧ networkState.isSome = true
    · simp only [hl, hs, ho, ne_eq, not_false_eq_true, and_self, if_true, LoopStep.ofCall]
      cases P.onNetworkStateUpdated <;> rfl
    · simp only [hl, ho, ne_eq, not_false_eq_true, true_and, hs, if_false, LoopStep.ofCall]
  · simp only [hl, Bool.false_eq_true, false_and, if_false, LoopStep.ofCall]

private theorem voipCallStateBody_pure (env : Env) (info : VoIPCallStateInfo) (record : Record)
    (c : Caches P) :
    voipCallStateBody env info record c =
      (LoopStep.ofCall ((Update.voipCallState info : Update P).live env c record), c) := by
  simp only [voipCallStateBody, Record.isExistStateListener_mask, Update.live]
  by_cases hl : record.listensTo P .voipCallState = true
  · have ho := (Record.listensTo_iff.mp hl).1
    by_cases hm : record.canManageCallForDevices env = true <;> simp [hl, hm, ho, LoopStep.ofCall]
  · simp [hl, LoopStep.ofCall]

private theorem callStateBody_pure (env : Env) (state : Int) (number : U16String)
    (record : Record) (c : Caches P) :
    callStateBody env state number record c =
      (LoopStep.ofCall (liveCallState env (-1) state number number record), c) := by
  simp only [callStateBody, Record.isExistStateListener_mask, liveCallState]
  by_cases hs : record.slotId = -1
  · rw [if_pos hs]
    cases ho : record.telephonyObserver with
    | none => simp [Record.listensTo, ho, LoopStep.ofCall]
    | some o =>
      simp only [hs, ne_eq, reduceCtorEq, not_false_eq_true, and_self, and_true]
      split_ifs <;> rfl
  · simp only [hs, false_and, and_false, if_false, LoopStep.ofCall]

private theorem callStateForSlotIdBody_stable (env : Env) (slotId state : Int)
    (number : U16String) (c₀ : Caches P) (record : Record) (c : Caches P)
    (hc : c = c₀ ∨ c = c₀.touchNumber slotId) :
    ∃ c', callStateForSlotIdBody env slotId state number record c =
      (LoopStep.ofCall (liveCallState env slotId state (c₀.callIncomingNumber.read slotId)
        number record), c') ∧ (c' = c₀ ∨ c' = c₀.touchNumber slotId) := by
  have hread : c.callIncomingNumber.read slotId = c₀.callIncomingNumber.read slotId := by
    rcases hc with rfl | rfl <;> simp only [Caches.touchNumber, KeyMap.read_touch]
  have htouch : c.touchNumber slotId = c₀.touchNumber slotId := by
    rcases hc with rfl | rfl <;> simp only [Caches.touchNumber, KeyMap.touch_touch]
  simp only [callStateForSlotIdBody, Record.isExistStateListener_mask, liveCallState]
  by_cases hs : record.slotId = slotId
  · rw [if_pos hs]
    cases ho : record.telephonyObserver with
    | none => exact ⟨c, by simp [Record.listensTo, ho, LoopStep.ofCall], hc⟩
    | some o =>
      simp only [hs, ne_eq, reduceCtorEq, not_false_eq_true, and_self, and_true]
      by_cases hl : record.listensTo P .callState = true
      · simp only [hl, if_true, getCallIncomingNumberForSlotId]
        by_cases hr : record.isCanReadCallHistory env = true
        · simp only [hr, if_true, hread]
          exact ⟨c.touchNumber slotId, rfl, Or.inr htouch⟩
        · simp only [hr, Bool.false_eq_true, if_false]
          exact ⟨c, rfl, hc⟩
      · simp only [hl, Bool.false_eq_true, if_false]
        exact ⟨c, by split_ifs <;> rfl, hc⟩
  · simp only [hs, false_and, and_false, if_false]
    exact ⟨c, rfl, hc⟩

/-- The caches that the shared section of an update can leave behind: the same
ones, or with the number key of the slot it reports on. -/
def Update.ReadsOnly (u : Update P) (c c' : Caches P) : Prop :=
  c' = c ∨ ∃ slotId state number, u = .callStateForSlotId slotId state number ∧
    c' = c.touchNumber slotId

/-- The loop of every update is the filter-map of the registry by its live
callback, its code tells whether an observer was called, its events follow, and
the caches are at most read. -/
theorem Update.notify_spec (u : Update P) (env : Env) (s : Service P) :
    ∃ c', u.function.notify env s = ({ s with caches := c' },
      ⟨resultOf (u.deliveries env s), u.deliveries env s, u.events⟩) ∧
      u.ReadsOnly s.caches c' := by
  have hrefl : u.ReadsOnly s.caches s.caches := Or.inl rfl
  unfold Update.deliveries
  cases u with
  | cellularDataConnectState slotId dataState networkType =>
    refine ⟨s.caches, notify_listeners (fun record => ?_) _ s, hrefl⟩
    cases hook : P.onCellularDataConnectStateUpdated <;> simp only [Update.live, hook]
  | cellularDataFlow slotId flowData =>
    exact ⟨s.caches, notify_listeners (fun _ => rfl) _ s, hrefl⟩
  | callState state number =>
    exact ⟨s.caches, notifyRecords_of_pure (callStateBody_pure env state number) _ s, hrefl⟩
  | callStateForSlotId slotId state number =>
    obtain ⟨c', hrun, hc'⟩ := notifyRecords_stable
      (callStateForSlotIdBody_stable env slotId state number s.caches) (Or.inl rfl)
      (Update.callStateForSlotId slotId state number).events
    exact ⟨c', hrun, hc'.imp_right fun h => ⟨slotId, state, number, rfl, h⟩⟩
  | simState slotId type state reason =>
    exact ⟨s.caches, notify_listeners (by simp only [Update.live, sameSlot, beq_iff_eq,
      implies_true]) _ s, hrefl⟩
  | signalInfo slotId vec =>
    refine ⟨s.caches, notify_listeners (fun record => ?_) _ s, hrefl⟩
    cases hook : P.onSignalInfoUpdated <;> simp only [Update.live, hook, sameSlot, beq_iff_eq]
  | cellInfo slotId vec =>
    exact ⟨s.caches, notifyRecords_of_pure (cellInfoBody_pure slotId vec env) _ s, hrefl⟩
  | networkState slotId state =>
    exact ⟨s.caches, notifyRecords_of_pure (networkStateBody_pure slotId state env) _ s, hrefl⟩
  | cfuIndicator slotId cfuResult =>
    exact ⟨s.caches, notify_listeners (by simp only [Update.live, sameSlot, beq_iff_eq,
      implies_true]) _ s, hrefl⟩
  | iccAccount =>
    exact ⟨s.caches, notify_listeners (by simp only [Update.live, and_true, implies_true]) _ s,
      hrefl⟩
  | voiceMailMsgIndicator slotId voiceMailMsgResult =>
    exact ⟨s.caches, notify_listeners (by simp only [Update.live, sameSlot, beq_iff_eq,
      implies_true]) _ s, hrefl⟩
  | simActiveState slotId activeStateResult =>
    exact ⟨s.caches, notify_listeners (by simp only [Update.live, sameSlot, beq_iff_eq,
      implies_true]) _ s, hrefl⟩
  | voipCallState info =>
    exact ⟨s.caches, notifyRecords_of_pure (voipCallStateBody_pure env info) _ s, hrefl⟩

/-- In the state its own exclusive section produced, a notification changes nothing. -/
theorem Update.notify_writeTo (u : Update P) (env : Env) (s : Service P) :
    u.function.notify env (u.function.writeTo s) =
      (u.function.writeTo s, ⟨resultOf (u.deliveries env (u.function.writeTo s)),
        u.deliveries env (u.function.writeTo s), u.events⟩) := by
  obtain ⟨c', hrun, hc'⟩ := u.notify_spec env (u.function.writeTo s)
  have hsame : c' = (u.function.writeTo s).caches := by
    rcases hc' with rfl | ⟨slotId, state, number, rfl, rfl⟩
    · rfl
    · -- the number was assigned for this slot, so its key is present
      simp only [Caches.touchNumber, LockedUpdate.writeTo, Update.function,
        updateCallStateForSlotId]
      rw [KeyMap.touch_of_present (KeyMap.find?_assign_self _ _ _)]
  rw [hrun, hsame]

/-- An accepted update with no other call between its locked sections. -/
theorem Update.run_of_accepted {u : Update P} {env : Env} (h : u.accepted env) (s : Service P) :
    u.function.run env s =
      (u.function.writeTo s, ⟨resultOf (u.deliveries env (u.function.writeTo s)),
        u.deliveries env (u.function.writeTo s), u.events⟩) := by
  rw [LockedUpdate.run, h, u.notify_writeTo]

/-- A rejected update returns the code of the failed check and does nothing else. -/
theorem Update.run_of_rejected {u : Update P} {env : Env} (h : ¬u.accepted env)
    (s : Service P) : ∃ result, u.function.guard env = some result ∧
      u.function.run env s = (s, .code result) := by
  obtain ⟨result, hr⟩ := Option.ne_none_iff_exists'.mp h
  exact ⟨result, hr, by rw [LockedUpdate.run, hr]⟩

end TelephonyStateRegistry
