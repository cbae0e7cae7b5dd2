import Mathlib.Data.List.TakeWhile
import TelephonyStateRegistry.Client.Cj
import TelephonyStateRegistry.Client.Payloads

/-!
# From a callback to the functions of the Cangjie listeners

`FfiTelephonyObserver` sends an event for each callback that it implements. The
handler copies the listeners of the event under its mutex, and calls their
functions one after the other without it. `On` gives each listener a function
that is not null.
-/

namespace TelephonyStateRegistry

variable {P : Platform}

namespace Cj

/-- `TelephonyCallbackEventId`. -/
inductive TelephonyCallbackEventId
  | eventOnCallStateUpdate
  | eventOnSignalInfoUpdate
  | eventOnNetworkStateUpdate
  | eventOnSimStateUpdate
  | eventOnCellInfomationUpdate
  | eventOnCellularDataConnectionUpdate
  | eventOnCellularDataFlowUpdate
  | eventOnCfuIndicatorUpdate
  | eventOnVoiceMailMsgIndicatorUpdate
  | eventOnIccAccountUpdate
  deriving DecidableEq, Repr

/-- An update info: its slot, and the callback that supplies the other values. -/
structure UpdateInfo (P : Platform) where
  slotId : Int
  callback : Callback P

/-- `InnerEvent`. -/
structure InnerEvent (P : Platform) where
  innerEventId : TelephonyCallbackEventId
  object : Option (UpdateInfo P)

/-- The event that `FfiTelephonyObserver` sends for a callback. It drops a missing
network state, and leaves four callbacks as `TelephonyObserver` has them. -/
def sendEvent : Callback P → Option (InnerEvent P)
  | .onCallStateUpdated slotId callState phoneNumber =>
    some ⟨.eventOnCallStateUpdate,
      some ⟨slotId, .onCallStateUpdated slotId callState phoneNumber⟩⟩
  | .onSignalInfoUpdated slotId signalInfoList =>
    some ⟨.eventOnSignalInfoUpdate, some ⟨slotId, .onSignalInfoUpdated slotId signalInfoList⟩⟩
  | .onNetworkStateUpdated _ none => none
  | .onNetworkStateUpdated slotId (some networkState) =>
    some ⟨.eventOnNetworkStateUpdate,
      some ⟨slotId, .onNetworkStateUpdated slotId (some networkState)⟩⟩
  | .onSimStateUpdated slotId type state reason =>
    some ⟨.eventOnSimStateUpdate, some ⟨slotId, .onSimStateUpdated slotId type state reason⟩⟩
  | .onCellInfoUpdated slotId vec =>
    some ⟨.eventOnCellInfomationUpdate, some ⟨slotId, .onCellInfoUpdated slotId vec⟩⟩
  | .onCellularDataConnectStateUpdated slotId dataState networkType =>
    some ⟨.eventOnCellularDataConnectionUpdate,
      some ⟨slotId, .onCellularDataConnectStateUpdated slotId dataState networkType⟩⟩
  | .onCellularDataFlowUpdated slotId dataFlowType =>
    some ⟨.eventOnCellularDataFlowUpdate,
      some ⟨slotId, .onCellularDataFlowUpdated slotId dataFlowType⟩⟩
  | .onCfuIndicatorUpdated slotId cfuResult =>
    some ⟨.eventOnCfuIndicatorUpdate, some ⟨slotId, .onCfuIndicatorUpdated slotId cfuResult⟩⟩
  | .onVoiceMailMsgIndicatorUpdated slotId voiceMailMsgResult =>
    some ⟨.eventOnVoiceMailMsgIndicatorUpdate,
      some ⟨slotId, .onVoiceMailMsgIndicatorUpdated slotId voiceMailMsgResult⟩⟩
  | .onIccAccountUpdated => some ⟨.eventOnIccAccountUpdate, none⟩
  | .onCallStateUpdatedEx _ _ => none
  | .onCCallStateUpdated _ _ _ => none
  | .onSimActiveStateUpdated _ _ => none
  | .onVoIPStateUpdated _ => none

/-- The two functions that handle events. -/
inductive HandleFunc
  | handleCallbackInfoUpdate (eventType : TelephonyUpdateEventType)
  | handleCallbackVoidUpdate (eventType : TelephonyUpdateEventType)
  deriving DecidableEq, Repr

/-- The function that `ProcessEvent` selects. -/
def handleFunc : TelephonyCallbackEventId → HandleFunc
  | .eventOnCallStateUpdate => .handleCallbackInfoUpdate (.event .callState)
  | .eventOnSimStateUpdate => .handleCallbackInfoUpdate (.event .simState)
  | .eventOnCellularDataConnectionUpdate => .handleCallbackInfoUpdate (.event .dataConnectionState)
  | .eventOnCellularDataFlowUpdate => .handleCallbackInfoUpdate (.event .dataFlow)
  | .eventOnCfuIndicatorUpdate => .handleCallbackInfoUpdate (.event .cfuIndicator)
  | .eventOnVoiceMailMsgIndicatorUpdate =>
    .handleCallbackInfoUpdate (.event .voiceMailMsgIndicator)
  | .eventOnIccAccountUpdate => .handleCallbackVoidUpdate (.event .iccAccount)
  | .eventOnSignalInfoUpdate => .handleCallbackInfoUpdate (.event .signalStrengths)
  | .eventOnNetworkStateUpdate => .handleCallbackInfoUpdate (.event .networkState)
  | .eventOnCellInfomationUpdate => .handleCallbackInfoUpdate (.event .cellInfo)

/-- The character that ends a C string. -/
def nullChar : Char := Char.ofNat 0

/-- A `char *` without a length: the characters that lie in memory from it on, up to the
end of what was allocated, or a null pointer. -/
abbrev CString := Option (List Char)

/-- `MallocCString`. -/
def mallocCString (origin : String) : CString :=
  if origin = "" then none else some (origin.toList ++ [nullChar])

/-- The string that a C string is read as, which ends before the first null character. -/
def CString.read (s : CString) : String :=
  String.ofList ((s.getD []).takeWhile (· ≠ nullChar))

/-- What is read is what the C string was made of, unless a null character cuts it short. -/
theorem read_mallocCString_iff (origin : String) :
    (mallocCString origin).read = origin ↔ nullChar ∉ origin.toList := by
  have hread : (mallocCString origin).read =
      String.ofList (origin.toList.takeWhile (· ≠ nullChar)) := by
    rw [mallocCString, CString.read]
    split_ifs with hempty
    · rw [hempty]
      rfl
    · -- the last character that was copied ends the string, if none before it does
      rw [Option.getD_some, List.takeWhile_append]
      split_ifs with hall
      · have hstart := List.takeWhile_prefix (p := (· ≠ nullChar)) (l := origin.toList)
        rw [hstart.eq_of_length hall]
        simp
      · rfl
  have hkept : origin.toList.takeWhile (· ≠ nullChar) = origin.toList ↔
      nullChar ∉ origin.toList := by
    rw [List.takeWhile_eq_self_iff]
    refine ⟨fun h hnull => of_decide_eq_true (h nullChar hnull) rfl, fun h c hc => ?_⟩
    exact decide_eq_true fun hnull => h (hnull ▸ hc)
  rw [hread, ← hkept]
  constructor
  · intro h
    rw [← String.toList_ofList (l := origin.toList.takeWhile (· ≠ nullChar)), h]
  · intro h
    rw [h, String.ofList_toList]

/-- The cases of `WrapRadioTech`. -/
def radioTechs : List RadioTech :=
  [.gsm, .lte, .wcdma, .oneXrtt, .hspa, .hspap, .tdScdma, .evdo, .ehrpd, .lteCa, .iwlan, .nr,
    .nrEnhanced]

/-- `WorkCallStateUpdated`. A number that is not well formed is not converted, and
there is no value. -/
def workCallStateUpdated (data : Option (UpdateInfo P)) : Option (Value CString) :=
  match data.map UpdateInfo.callback with
  | some (.onCallStateUpdated _ callState phoneNumber) => (toBytes phoneNumber).map fun number =>
    .callState (wrapCallState callState) (mallocCString number)
  | _ => none

/-- `WorkSignalUpdated`. -/
def workSignalUpdated (K : Payloads P) (data : Option (UpdateInfo P)) : Option (Value CString) :=
  match data.map UpdateInfo.callback with
  | some (.onSignalInfoUpdated _ signalInfoList) =>
    if signalInfoList.length = 0 then none
    else some (.signalInfo (signalInfoList.filterMap fun infoItem => infoItem.map K.signalValue))
  | _ => none

/-- `WorkNetworkStateUpdated`. -/
def workNetworkStateUpdated (K : Payloads P) (data : Option (UpdateInfo P)) :
    Option (Value CString) :=
  match data.map UpdateInfo.callback with
  | some (.onNetworkStateUpdated _ (some networkState)) =>
    some (.networkState (K.networkStateValue mallocCString radioTechs networkState))
  | _ => none

/-- `WorkSimStateUpdated`. -/
def workSimStateUpdated (data : Option (UpdateInfo P)) : Option (Value CString) :=
  match data.map UpdateInfo.callback with
  | some (.onSimStateUpdated _ type state reason) => some (.simState type state reason)
  | _ => none

/-- `WorkCellularDataConnectStateUpdated`. -/
def workCellularDataConnectStateUpdated (data : Option (UpdateInfo P)) :
    Option (Value CString) :=
  match data.map UpdateInfo.callback with
  | some (.onCellularDataConnectStateUpdated _ dataState networkType) =>
    some (.dataConnection dataState networkType)
  | _ => none

/-- `WorkCellularDataFlowUpdated`. -/
def workCellularDataFlowUpdated (data : Option (UpdateInfo P)) : Option (Value CString) :=
  match data.map UpdateInfo.callback with
  | some (.onCellularDataFlowUpdated _ flowType) => some (.dataFlow flowType)
  | _ => none

/-- `WorkIccAccountUpdated`. -/
def workIccAccountUpdated : Option (Value CString) := some .iccAccount

/-- Whether the flag of a listener keeps `WorkUpdated` from its switch. -/
def Dropped (deleting : Finset Pointer) (listener : EventListener) : Prop :=
  listener.isDeleting = nullptr ∨ listener.isDeleting ∈ deleting

instance (deleting : Finset Pointer) (listener : EventListener) :
    Decidable (Dropped deleting listener) :=
  inferInstanceAs (Decidable (_ ∨ _))

/-- The argument with which `WorkUpdated` calls the function of a listener, if it
does. Three of the functions that it selects only look at their data. -/
def workUpdated (K : Payloads P) (deleting : Finset Pointer) (listener : EventListener)
    (data : Option (UpdateInfo P)) : Option (Value CString) :=
  if Dropped deleting listener then none
  else match listener.eventType with
    | .event .callState => workCallStateUpdated data
    | .event .signalStrengths => workSignalUpdated K data
    | .event .networkState => workNetworkStateUpdated K data
    | .event .simState => workSimStateUpdated data
    | .event .cellInfo => none
    | .event .dataConnectionState => workCellularDataConnectStateUpdated data
    | .event .dataFlow => workCellularDataFlowUpdated data
    | .event .cfuIndicator => none
    | .event .voiceMailMsgIndicator => none
    | .event .iccAccount => workIccAccountUpdated
    | _ => none

/-- The flags only matter to listeners that are dropped. -/
theorem workUpdated_of_not_dropped (K : Payloads P) {deleting : Finset Pointer}
    {listener : EventListener} (h : ¬Dropped deleting listener) (data : Option (UpdateInfo P)) :
    workUpdated K deleting listener data = workUpdated K ∅ listener data := by
  have hempty : ¬Dropped ∅ listener :=
    not_or.mpr ⟨fun hnull => h (Or.inl hnull), Finset.notMem_empty _⟩
  unfold workUpdated
  rw [if_neg h, if_neg hempty]

/-- What the process answers while a copy of a listener is looked at. -/
structure Attempt where
  /-- Whether a copy of the info can be made. -/
  makeData : Bool
  /-- The flags that are set. -/
  deleting : Finset Pointer

/-- An attempt in which nothing fails and no listener has been dropped. -/
def Attempt.succeeding : Attempt := ⟨true, ∅⟩

/-- A function that is called. -/
abbrev Execution := TelephonyStateRegistry.Execution EventListener CString

/-- The loop over the copies. -/
def workAll (value : Attempt → EventListener → Option (Value CString)) :
    (attempts : Nat → Attempt) → List EventListener → List Execution
  | _, [] => []
  | attempts, listen :: snapshot =>
    match value (attempts 0) listen with
    | none => workAll value (fun n => attempts (n + 1)) snapshot
    | some argv => ⟨listen, argv⟩ :: workAll value (fun n => attempts (n + 1)) snapshot

/-- `HandleCallbackInfoUpdate`. -/
def handleCallbackInfoUpdate (K : Payloads P) (eventType : TelephonyUpdateEventType)
    (object : Option (UpdateInfo P)) (attempts : Nat → Attempt)
    (listenerList : List EventListener) : List Execution :=
  match object with
  | none => []
  | some info =>
    let snapshot := listenerList.filter fun listen =>
      listen.eventType = eventType && listen.slotId = info.slotId
    workAll (fun attempt listen => if attempt.makeData = false then none
      else workUpdated K attempt.deleting listen (some info)) attempts snapshot

/-- `HandleCallbackVoidUpdate`, which looks at no slot. -/
def handleCallbackVoidUpdate (K : Payloads P) (eventType : TelephonyUpdateEventType)
    (attempts : Nat → Attempt) (listenerList : List EventListener) : List Execution :=
  let snapshot := listenerList.filter fun listen => listen.eventType = eventType
  workAll (fun attempt listen => workUpdated K attempt.deleting listen none) attempts snapshot

/-- `ProcessEvent`. -/
def processEvent (K : Payloads P) (event : InnerEvent P) (attempts : Nat → Attempt)
    (listenerList : List EventListener) : List Execution :=
  match handleFunc event.innerEventId with
  | .handleCallbackInfoUpdate eventType =>
    handleCallbackInfoUpdate K eventType event.object attempts listenerList
  | .handleCallbackVoidUpdate eventType =>
    handleCallbackVoidUpdate K eventType attempts listenerList

/-- What a callback makes the handler call. -/
def onCallback (K : Payloads P) (attempts : Nat → Attempt) (listenerList : List EventListener)
    (callback : Callback P) : List Execution :=
  match sendEvent callback with
  | none => []
  | some event => processEvent K event attempts listenerList

/-- What a listener is given in the course of some callbacks, if nothing fails and
none of the flags is set. -/
def received (K : Payloads P) (listenerList : List EventListener) (callbacks : List (Callback P))
    (listener : EventListener) : List (Value CString) :=
  ((callbacks.flatMap (onCallback K (fun _ => .succeeding) listenerList)).filter fun execution =>
    execution.listener = listener).map Execution.value

/-- Whether an event is for a listener. -/
def InnerEvent.serves (event : InnerEvent P) (listener : EventListener) : Bool :=
  match handleFunc event.innerEventId with
  | .handleCallbackInfoUpdate eventType => event.object.any fun info =>
    listener.eventType = eventType && listener.slotId = info.slotId
  | .handleCallbackVoidUpdate eventType => listener.eventType = eventType

/-- What the work functions are given of an event. -/
def InnerEvent.data (event : InnerEvent P) : Option (UpdateInfo P) :=
  match handleFunc event.innerEventId with
  | .handleCallbackInfoUpdate _ => event.object
  | .handleCallbackVoidUpdate _ => none

/-- The value that a callback has for a listener. -/
def valueFor (K : Payloads P) (listener : EventListener) (callback : Callback P) :
    Option (Value CString) :=
  (sendEvent callback).bind fun event =>
    if event.serves listener = true then workUpdated K ∅ listener event.data else none

private theorem workAll_eq (value : Attempt → EventListener → Option (Value CString))
    (attempt : Attempt) (snapshot : List EventListener) :
    workAll value (fun _ => attempt) snapshot = snapshot.filterMap fun listen =>
      (value attempt listen).map (Execution.mk listen) := by
  induction snapshot with
  | nil => rfl
  | cons listen snapshot ih =>
    rw [workAll, List.filterMap_cons]
    cases value attempt listen with
    | none => exact ih
    | some argv => exact congrArg (List.cons _) ih

private theorem onCallback_eq (K : Payloads P) (listenerList : List EventListener)
    (callback : Callback P) :
    onCallback K (fun _ => .succeeding) listenerList callback =
      listenerList.filterMap fun listen =>
        (valueFor K listen callback).map (Execution.mk listen) := by
  have hfilter (p : EventListener → Bool) (value : EventListener → Option (Value CString)) :
      (listenerList.filter p).filterMap (fun listen =>
          (value listen).map (Execution.mk listen)) =
        listenerList.filterMap fun listen =>
          (if p listen = true then value listen else none).map (Execution.mk listen) := by
    rw [List.filterMap_filter]
    refine List.filterMap_congr ?_
    intro listen _
    split_ifs <;> rfl
  have hnone : listenerList.filterMap (fun listen =>
      (none : Option (Value CString)).map (Execution.mk listen)) = [] :=
    List.filterMap_eq_nil_iff.mpr fun _ _ => rfl
  unfold onCallback valueFor
  cases sendEvent callback with
  | none => exact hnone.symm
  | some event =>
    simp only [Option.bind_some]
    unfold processEvent InnerEvent.serves InnerEvent.data
    cases handleFunc event.innerEventId with
    | handleCallbackVoidUpdate eventType =>
      exact (workAll_eq _ _ _).trans (hfilter _ _)
    | handleCallbackInfoUpdate eventType =>
      cases event.object with
      | none => exact hnone.symm
      | some info =>
        exact (workAll_eq _ _ _).trans (hfilter _ _)

/-- If nothing fails, a listener gets the values that the callbacks have for it. -/
theorem received_eq (K : Payloads P) {listenerList : List EventListener}
    (hnodup : listenerList.Nodup) {listener : EventListener} (hl : listener ∈ listenerList)
    (callbacks : List (Callback P)) :
    received K listenerList callbacks listener = callbacks.filterMap (valueFor K listener) := by
  have hfun : onCallback K (fun _ => .succeeding) listenerList =
      fun callback => listenerList.filterMap fun listen =>
        (valueFor K listen callback).map (Execution.mk listen) :=
    funext (onCallback_eq K listenerList)
  rw [received, hfun]
  exact Execution.values_of_nodup hnodup hl (fun callback listen => valueFor K listen callback)
    callbacks

end Cj

end TelephonyStateRegistry
