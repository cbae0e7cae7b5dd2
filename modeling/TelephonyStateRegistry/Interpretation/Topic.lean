import TelephonyStateRegistry.Service.Notify
import TelephonyStateRegistry.Service.Register

/-!
# Updates and caches as reports on topics

A topic is an event together with a slot. An update reports a callback on its
topics, the caches hold one callback for every topic, and a replay shows a
subscriber the callback held, with the call data it may not see taken out. The
writes and the reads of the fourteen maps are interpreted here once and for all.
-/

namespace TelephonyStateRegistry

open Reactive

variable {P : Platform}

/-- The three events of a call, of which a loop reports at most one to a record. -/
def ObserverMask.isCallState (m : ObserverMask) : Bool :=
  m = .callState || m = .callStateEx || m = .ccallState

/-- The slot that an update reports on. -/
def Update.slotId : Update P → Option Int
  | cellularDataConnectState slotId _ _ => some slotId
  | cellularDataFlow slotId _ => some slotId
  | callState _ _ => some (-1)
  | callStateForSlotId slotId _ _ => some slotId
  | simState slotId _ _ _ => some slotId
  | signalInfo slotId _ => some slotId
  | cellInfo slotId _ => some slotId
  | networkState slotId _ => some slotId
  | cfuIndicator slotId _ => some slotId
  | iccAccount => none
  | voiceMailMsgIndicator slotId _ => some slotId
  | simActiveState slotId _ => some slotId
  | voipCallState _ => none

/-- The callback with the arguments of an update, for each event it reports. -/
def Update.payload : Update P → ObserverMask → Option (Callback P)
  | cellularDataConnectState slotId dataState networkType, .dataConnectionState =>
    some (.onCellularDataConnectStateUpdated slotId dataState networkType)
  | cellularDataFlow slotId flowData, .dataFlow =>
    some (.onCellularDataFlowUpdated slotId flowData)
  | callState state number, .callState => some (.onCallStateUpdated (-1) state number)
  | callState state _, .callStateEx => some (.onCallStateUpdatedEx (-1) state)
  | callState state number, .ccallState => some (.onCCallStateUpdated (-1) state number)
  | callStateForSlotId slotId state number, .callState =>
    some (.onCallStateUpdated slotId state number)
  | callStateForSlotId slotId state _, .callStateEx => some (.onCallStateUpdatedEx slotId state)
  | callStateForSlotId slotId state number, .ccallState =>
    some (.onCCallStateUpdated slotId state number)
  | simState slotId type state reason, .simState =>
    some (.onSimStateUpdated slotId type state reason)
  | signalInfo slotId vec, .signalStrengths => some (.onSignalInfoUpdated slotId vec)
  | cellInfo slotId vec, .cellInfo => some (.onCellInfoUpdated slotId vec)
  | networkState slotId state, .networkState => some (.onNetworkStateUpdated slotId state)
  | cfuIndicator slotId cfuResult, .cfuIndicator => some (.onCfuIndicatorUpdated slotId cfuResult)
  | iccAccount, .iccAccount => some .onIccAccountUpdated
  | voiceMailMsgIndicator slotId voiceMailMsgResult, .voiceMailMsgIndicator =>
    some (.onVoiceMailMsgIndicatorUpdated slotId voiceMailMsgResult)
  | simActiveState slotId activeStateResult, .simActiveState =>
    some (.onSimActiveStateUpdated slotId activeStateResult)
  | voipCallState info, .voipCallState => some (.onVoIPStateUpdated info)
  | _, _ => none

/-- What an update reports on one topic. -/
def Update.report (u : Update P) (m : ObserverMask) (slotId : Int) : Option (Callback P) :=
  if u.slotId = some slotId then u.payload m else none

/-- A reported network state is non-null and survives its copy through a parcel. -/
def Update.CopiedFaithfully (u : Update P) : Prop :=
  ∀ slotId state, u = .networkState slotId state → ∃ n, state = some n ∧ P.parcelCopy n = n

/-- A payload serves its own event, on the slot of its update. -/
theorem Update.payload_event {u : Update P} {m : ObserverMask} {callback : Callback P}
    (h : u.payload m = some callback) : callback.event = m ∧ callback.slotId = u.slotId := by
  cases u <;> cases m <;> simp only [payload, Option.some.injEq, reduceCtorEq] at h <;>
    subst h <;> exact ⟨rfl, rfl⟩

/-- The callback that the caches hold for a topic. -/
def Caches.cached (c : Caches P) (m : ObserverMask) (slotId : Int) : Option (Callback P) :=
  match m with
  | .callState => some (.onCallStateUpdated slotId (c.callState.read slotId)
      (c.callIncomingNumber.read slotId))
  | .callStateEx => some (.onCallStateUpdatedEx slotId (c.callState.read slotId))
  | .ccallState => some (.onCCallStateUpdated slotId (c.callState.read slotId)
      (c.callIncomingNumber.read slotId))
  | .signalStrengths => some (.onSignalInfoUpdated slotId (c.signalInfos.read slotId))
  | .networkState => some (.onNetworkStateUpdated slotId (c.searchNetworkState.read slotId))
  | .cellInfo => some (.onCellInfoUpdated slotId (c.cellInfos.read slotId))
  | .simState => some (.onSimStateUpdated slotId (c.cardType.read slotId)
      (c.simState.read slotId) (c.simReason.read slotId))
  | .dataConnectionState => some (.onCellularDataConnectStateUpdated slotId
      (c.cellularDataConnectionState.read slotId)
      (c.cellularDataConnectionNetworkType.read slotId))
  | .dataFlow => some (.onCellularDataFlowUpdated slotId (c.cellularDataFlow.read slotId))
  | .cfuIndicator => some (.onCfuIndicatorUpdated slotId (c.cfuResult.read slotId))
  | .voiceMailMsgIndicator =>
    some (.onVoiceMailMsgIndicatorUpdated slotId (c.voiceMailMsgResult.read slotId))
  | .simActiveState => some (.onSimActiveStateUpdated slotId (c.simActiveResult.read slotId))
  | .iccAccount => some .onIccAccountUpdated
  | .voipCallState => none

private theorem cached_write_networkState (slot : Int) (state : Option P.NetworkState)
    (h : (Update.networkState slot state : Update P).CopiedFaithfully) (c : Caches P)
    (slotId : Int) :
    ((updateNetworkState slot state).write c).cached .networkState slotId =
      if slot = slotId then some (.onNetworkStateUpdated slot state)
      else c.cached .networkState slotId := by
  obtain ⟨n, rfl, hn⟩ := h slot state rfl
  simp only [Caches.cached, updateNetworkState, KeyMap.read_assign, Option.map_some, hn]
  by_cases hs : slot = slotId
  · subst hs
    simp only [if_true]
  · rw [if_neg hs, if_neg (Ne.symm hs)]

/-- The exclusive section of an update replaces exactly the callbacks it reports. -/
theorem Update.write_cached (u : Update P) {m : ObserverMask}
    (h : m = .networkState → u.CopiedFaithfully) (c : Caches P) (slotId : Int) :
    (u.function.write c).cached m slotId = (u.report m slotId).or (c.cached m slotId) := by
  cases hp : u.payload m with
  | none =>
    -- the maps that hold this event are not written
    rw [report, hp, ite_self, Option.none_or]
    cases u <;> cases m <;> first | rfl | simp only [payload, reduceCtorEq] at hp
  | some callback =>
    rw [report, hp]
    by_cases hs : u.slotId = some slotId
    · rw [if_pos hs, Option.some_or]
      cases u <;> cases m <;> simp only [payload, reduceCtorEq, Option.some.injEq] at hp <;>
        cases hs <;> subst hp
      all_goals first
        | exact (cached_write_networkState slotId _ (h rfl) c slotId).trans (if_pos rfl)
        | simp only [Caches.cached, function, updateCellularDataConnectState,
            updateCellularDataFlow, updateCallState, updateCallStateForSlotId, updateSimState,
            updateSignalInfo, updateCellInfo, updateCfuIndicator, updateVoiceMailMsgIndicator,
            updateSimActiveState, KeyMap.read_assign, if_true]
    · rw [if_neg hs, Option.none_or]
      cases u <;> cases m <;> simp only [payload, reduceCtorEq] at hp
      all_goals first
        | rfl
        | simp only [Update.slotId, Option.some.injEq] at hs
          simp only [Caches.cached, function, updateCellularDataConnectState,
            updateCellularDataFlow, updateCallState, updateCallStateForSlotId, updateSimState,
            updateSignalInfo, updateCellInfo, updateNetworkState, updateCfuIndicator,
            updateVoiceMailMsgIndicator, updateSimActiveState, KeyMap.read_assign,
            if_neg (Ne.symm hs)]

end TelephonyStateRegistry
