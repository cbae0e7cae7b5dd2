import TelephonyStateRegistry.Wire.Format

/-!
# The observer interface over parcels

`TelephonyObserverProxy` turns a call on an observer into a request, and
`TelephonyObserver` turns a request back into a call. The two are written
independently of each other: each lists the request codes, the order of the
fields and the limits of the lists for itself.
-/

namespace TelephonyStateRegistry

open Reactive

variable {P : Platform}

/-- What `SendRequest` carries. -/
structure Request where
  code : Word
  data : MessageParcel

/-- The request of a proxy method: the interface token, and the fields in order. -/
def WireFormat.request (W : WireFormat P) (code : ObserverBrokerCode)
    (fields : List MessageParcel) : Request where
  code := W.brokerCode code
  data := (W.interfaceToken.write W.descriptor :: fields).flatten

/-- The methods of `TelephonyObserverProxy`, with the request that each sends, if any. -/
def WireFormat.proxy (W : WireFormat P) : Callback P → Option Request
  | .onCallStateUpdated slotId callState phoneNumber =>
    some (W.request .onCallStateUpdated
      [writeInt32 slotId, writeInt32 callState, W.string16.write phoneNumber])
  | .onCallStateUpdatedEx slotId callStateEx =>
    some (W.request .onCallStateExUpdated [writeInt32 slotId, writeInt32 callStateEx])
  | .onSimStateUpdated slotId type state reason =>
    some (W.request .onSimStateUpdated
      [writeInt32 slotId, writeInt32 type, writeInt32 state, writeInt32 reason])
  | .onSignalInfoUpdated slotId vec =>
    let size := int32OfSize vec.length
    if size < 0 ∨ size > W.maxSignalNum then none
    else (marshalAll W.signals vec).map fun elements =>
      W.request .onSignalInfoUpdated [writeInt32 slotId, writeInt32 size, elements]
  | .onCellInfoUpdated slotId vec =>
    let size := int32OfSize vec.length
    if size ≤ 0 then none
    else if size > W.maxCellNum then none
    else (marshalAll W.cells vec).map fun elements =>
      W.request .onCellInfoUpdated [writeInt32 slotId, writeInt32 size, elements]
  | .onNetworkStateUpdated slotId networkState =>
    some (W.request .onNetworkStateUpdated
      (writeInt32 slotId :: (networkState.map W.marshalling).toList))
  | .onCellularDataConnectStateUpdated slotId dataState networkType =>
    some (W.request .onCellularDataConnectStateUpdated
      [writeInt32 slotId, writeInt32 dataState, writeInt32 networkType])
  | .onCellularDataFlowUpdated slotId dataFlowType =>
    some (W.request .onCellularDataFlowUpdated [writeInt32 slotId, writeInt32 dataFlowType])
  | .onCfuIndicatorUpdated slotId cfuResult =>
    some (W.request .onCfuIndicatorUpdated [writeInt32 slotId, writeBool cfuResult])
  | .onVoiceMailMsgIndicatorUpdated slotId voiceMailMsgResult =>
    some (W.request .onVoiceMailMsgIndicatorUpdated
      [writeInt32 slotId, writeBool voiceMailMsgResult])
  | .onIccAccountUpdated => some (W.request .onIccAccountUpdated [])
  | .onCCallStateUpdated slotId callState phoneNumber =>
    some (W.request .onCCallStateUpdated
      [writeInt32 slotId, writeInt32 callState, W.string16.write phoneNumber])
  | .onSimActiveStateUpdated slotId enable =>
    some (W.request .onSimActiveStateUpdated [writeInt32 slotId, writeBool enable])
  | .onVoIPStateUpdated info =>
    some (W.request .onVoIPStateUpdated
      [W.string.write info.appName, W.string.write info.contactName, writeInt32 info.callType,
        writeInt32 info.callState, writeBool info.isVoiceAnswerSupported])

/-- `SIGNAL_NUM_MAX`. -/
def signalNumMax : Int := 100

/-- `CELL_NUM_MAX`. -/
def cellNumMax : Int := 100

/-- `ConvertSignalInfoList`, with `ConvertLteNrSignalInfoList`. -/
def WireFormat.convertSignalInfoList (W : WireFormat P) :
    Reader Word (List P.SignalInformation) := do
  let size ← readInt32
  let size := if size > signalNumMax then signalNumMax else size
  (W.signals.readKnown 0#32 signalTypes).collect size.toNat

/-- `ConvertCellInfoList`. -/
def WireFormat.convertCellInfoList (W : WireFormat P) :
    Reader Word (List P.CellInformation) := do
  let size ← readInt32
  let size := if size > cellNumMax then cellNumMax else size
  (W.cells.readKnown 0#32 cellTypes).collect size.toNat

/-- The `On*UpdatedInner` functions, with the calls that each makes on the observer. -/
def WireFormat.inner (W : WireFormat P) : ObserverBrokerCode → Reader Word (List (Callback P))
  | .onCallStateUpdated => do
    let slotId ← readInt32
    let callState ← readInt32
    let phoneNumber ← W.string16.read
    return [.onCallStateUpdated slotId callState phoneNumber]
  | .onSignalInfoUpdated => do
    let slotId ← readInt32
    let signalInfos ← W.convertSignalInfoList
    return [.onSignalInfoUpdated slotId (signalInfos.map some)]
  | .onNetworkStateUpdated => do
    let slotId ← readInt32
    match ← W.unmarshalling with
    | some networkState => return [.onNetworkStateUpdated slotId (some networkState)]
    | none => return []
  | .onCellInfoUpdated => do
    let slotId ← readInt32
    let cells ← W.convertCellInfoList
    return [.onCellInfoUpdated slotId (cells.map some)]
  | .onSimStateUpdated => do
    let slotId ← readInt32
    let type ← readInt32
    let simState ← readInt32
    let reason ← readInt32
    return [.onSimStateUpdated slotId type simState reason]
  | .onCellularDataConnectStateUpdated => do
    let slotId ← readInt32
    let dataState ← readInt32
    let networkType ← readInt32
    return [.onCellularDataConnectStateUpdated slotId dataState networkType]
  | .onCellularDataFlowUpdated => do
    let slotId ← readInt32
    let flowType ← readInt32
    return [.onCellularDataFlowUpdated slotId flowType]
  | .onCfuIndicatorUpdated => do
    let slotId ← readInt32
    let cfuResult ← readBool
    return [.onCfuIndicatorUpdated slotId cfuResult]
  | .onVoiceMailMsgIndicatorUpdated => do
    let slotId ← readInt32
    let voiceMailMsgResult ← readBool
    return [.onVoiceMailMsgIndicatorUpdated slotId voiceMailMsgResult]
  | .onIccAccountUpdated => return [.onIccAccountUpdated]
  | .onCallStateExUpdated => do
    let slotId ← readInt32
    let callStateEx ← readInt32
    return [.onCallStateUpdatedEx slotId callStateEx]
  | .onSimActiveStateUpdated => do
    let slotId ← readInt32
    let enable ← readBool
    return [.onSimActiveStateUpdated slotId enable]
  | .onVoIPStateUpdated => do
    let appName ← W.string.read
    let contactName ← W.string.read
    let callType ← readInt32
    let callState ← readInt32
    let isVoiceAnswerSupported ← readBool
    return [.onVoIPStateUpdated ⟨appName, contactName, callType, callState,
      isVoiceAnswerSupported⟩]
  | .onCCallStateUpdated => do
    let slotId ← readInt32
    let callState ← readInt32
    let phoneNumber ← W.string16.read
    return [.onCCallStateUpdated slotId callState phoneNumber]

/-- The codes under which the constructor of `TelephonyObserver` stores a function. -/
def observerCodes : List ObserverBrokerCode :=
  [.onCallStateUpdated, .onSignalInfoUpdated, .onCellInfoUpdated, .onNetworkStateUpdated,
    .onSimStateUpdated, .onCellularDataConnectStateUpdated, .onCellularDataFlowUpdated,
    .onCfuIndicatorUpdated, .onVoiceMailMsgIndicatorUpdated, .onIccAccountUpdated,
    .onCallStateExUpdated, .onCCallStateUpdated, .onSimActiveStateUpdated, .onVoIPStateUpdated]

/-- What `OnRemoteRequest` of the observer returns. -/
inductive RequestResult
  | noError
  | telephonyErrDescriptorMismatch
  /-- The answer of `IPCObjectStub::OnRemoteRequest`. -/
  | ipcObjectStub
  deriving DecidableEq, Repr

/-- `TelephonyObserver::OnRemoteRequest`, with the calls it makes on the observer. -/
def WireFormat.onRemoteRequest (W : WireFormat P) (request : Request) :
    RequestResult × List (Callback P) :=
  let (token, data) := W.interfaceToken.read request.data
  if token ≠ W.descriptor then (.telephonyErrDescriptorMismatch, [])
  else
    match observerCodes.find? fun code => W.brokerCode code = request.code with
    | some code => (.noError, (W.inner code data).1)
    | none => (.ipcObjectStub, [])

theorem mem_observerCodes (code : ObserverBrokerCode) : code ∈ observerCodes := by
  cases code <;> decide

/-- A request of the proxy reaches the function stored under its code. -/
theorem WireFormat.onRemoteRequest_request (W : WireFormat P) {code : ObserverBrokerCode}
    {fields : List MessageParcel} {calls : List (Callback P)}
    (h : Reads (W.inner code) fields.flatten calls) :
    W.onRemoteRequest (W.request code fields) = (.noError, calls) := by
  have htoken : W.interfaceToken.read (W.request code fields).data =
      (W.descriptor, fields.flatten) := W.interfaceToken.reads W.descriptor _
  have hcode := find?_of_mem W.brokerCode_injective (mem_observerCodes code)
  have hinner := h []
  rw [List.append_nil] at hinner
  simp only [onRemoteRequest, htoken, ne_eq, not_true_eq_false, if_false]
  rw [WireFormat.request, hcode]
  simp only [hinner]

end TelephonyStateRegistry
