import TelephonyStateRegistry.Wire.Observer

/-!
# The observer protocol carries every callback unchanged

The two hand-written sides of the protocol agree on codes, on the order and the
types of the fields, and on the element classes of the two lists. A callback
whose arguments fit their types and whose lists keep to the limits of the proxy
is therefore made again on the other side, exactly once.
-/

namespace TelephonyStateRegistry

open Reactive

variable {P : Platform}

/-- The arguments fit their types: integers of 32 bits, and vectors whose size
is a number of 32 bits. -/
def Callback.Representable : Callback P → Prop
  | onCallStateUpdated slotId callState _ => IsInt32 slotId ∧ IsInt32 callState
  | onCallStateUpdatedEx slotId callState => IsInt32 slotId ∧ IsInt32 callState
  | onCCallStateUpdated slotId callState _ => IsInt32 slotId ∧ IsInt32 callState
  | onSignalInfoUpdated slotId vec => IsInt32 slotId ∧ vec.length < 2 ^ 32
  | onCellInfoUpdated slotId vec => IsInt32 slotId ∧ vec.length < 2 ^ 32
  | onNetworkStateUpdated slotId _ => IsInt32 slotId
  | onSimStateUpdated slotId type state reason =>
    IsInt32 slotId ∧ IsInt32 type ∧ IsInt32 state ∧ IsInt32 reason
  | onCellularDataConnectStateUpdated slotId dataState networkType =>
    IsInt32 slotId ∧ IsInt32 dataState ∧ IsInt32 networkType
  | onCellularDataFlowUpdated slotId flowData => IsInt32 slotId ∧ IsInt32 flowData
  | onCfuIndicatorUpdated slotId _ => IsInt32 slotId
  | onVoiceMailMsgIndicatorUpdated slotId _ => IsInt32 slotId
  | onIccAccountUpdated => True
  | onSimActiveStateUpdated slotId _ => IsInt32 slotId
  | onVoIPStateUpdated info => IsInt32 info.callType ∧ IsInt32 info.callState

/-- What the protocol is for: lists within their limits, of elements of the radio
types that the other side reads, and a network state that its parcel rebuilds. -/
def Callback.Carried (W : WireFormat P) : Callback P → Prop
  | onSignalInfoUpdated _ vec => (vec.length : Int) ≤ W.maxSignalNum ∧
    ∃ xs : List P.SignalInformation, vec = xs.map some ∧ ∀ a ∈ xs, W.signals.kind a ∈ signalTypes
  | onCellInfoUpdated _ vec => vec ≠ [] ∧ (vec.length : Int) ≤ W.maxCellNum ∧
    ∃ xs : List P.CellInformation, vec = xs.map some ∧ ∀ a ∈ xs, W.cells.kind a ∈ cellTypes
  | onNetworkStateUpdated _ networkState => ∃ n, networkState = some n ∧ P.parcelCopy n = n
  | _ => True

/-- The lists that the proxy refuses. -/
def Callback.Refused (W : WireFormat P) : Callback P → Prop
  | onSignalInfoUpdated _ vec => W.maxSignalNum < vec.length
  | onCellInfoUpdated _ vec => vec = [] ∨ W.maxCellNum < vec.length
  | _ => False

private theorem Reads.last {α : Type} {r : Reader Word α} {f : α → List (Callback P)}
    {ws : MessageParcel} {a : α} (hr : Reads r ws a) :
    Reads (r >>= fun a => return f a) [ws].flatten (f a) := by
  apply Reads.cons hr
  exact Reads.pure _

private theorem reads_list {α : Type} (F : TaggedFormat Word RadioType α)
    {kinds : List RadioType} {xs : List α} (h : ∀ a ∈ xs, F.kind a ∈ kinds) :
    Reads ((F.readKnown 0#32 kinds).collect xs.length) (xs.flatMap F.write) xs := by
  have hreads := @Reads.collect _ _ _ _ xs F.write some
    fun a ha => F.reads_known (0#32 : Word) kinds (h a ha)
  rwa [List.filterMap_some] at hreads

private theorem reads_counted {α : Type} (F : TaggedFormat Word RadioType α)
    {kinds : List RadioType} {max : Int} {xs : List α} (h : ∀ a ∈ xs, F.kind a ∈ kinds)
    (hmax : max ≤ 100) (hsize : (xs.length : Int) ≤ max) :
    Reads (readInt32 >>= fun size =>
        (F.readKnown 0#32 kinds).collect (if size > (100 : Int) then 100 else size).toNat)
      [writeInt32 xs.length, xs.flatMap F.write].flatten xs := by
  have hint : IsInt32 xs.length := by
    constructor <;> omega
  have hlength : ((if (xs.length : Int) > 100 then (100 : Int) else xs.length)).toNat =
      xs.length := by
    rw [if_neg (by omega), Int.toNat_natCast]
  apply Reads.cons (reads_int32 hint)
  rw [hlength, List.flatten_singleton]
  exact reads_list F h

private theorem int32OfSize_of_le {n : Nat} {max : Int} (hmax : max ≤ 100) (h : (n : Int) ≤ max) :
    int32OfSize n = n := by
  rw [int32OfSize_spec (by omega), if_pos (by omega)]

theorem WireFormat.proxy_signalInfo (W : WireFormat P) (slotId : Int)
    {xs : List P.SignalInformation} (h : (xs.length : Int) ≤ W.maxSignalNum) :
    W.proxy (.onSignalInfoUpdated slotId (xs.map some)) =
      some (W.request .onSignalInfoUpdated
        [writeInt32 slotId, writeInt32 xs.length, xs.flatMap W.signals.write]) := by
  have hsize := int32OfSize_of_le W.maxSignalNum_le h
  have hin : ¬((xs.length : Int) < 0 ∨ (xs.length : Int) > W.maxSignalNum) := by omega
  simp only [proxy, List.length_map, hsize, if_neg hin, marshalAll_map_some, Option.map_some]

theorem WireFormat.proxy_cellInfo (W : WireFormat P) (slotId : Int)
    {xs : List P.CellInformation} (hne : xs ≠ []) (h : (xs.length : Int) ≤ W.maxCellNum) :
    W.proxy (.onCellInfoUpdated slotId (xs.map some)) =
      some (W.request .onCellInfoUpdated
        [writeInt32 slotId, writeInt32 xs.length, xs.flatMap W.cells.write]) := by
  have hsize := int32OfSize_of_le W.maxCellNum_le h
  have hpos := List.length_pos_of_ne_nil hne
  have hlow : ¬(xs.length : Int) ≤ 0 := by omega
  have hhigh : ¬(xs.length : Int) > W.maxCellNum := by omega
  simp only [proxy, List.length_map, hsize, if_neg hlow, if_neg hhigh, marshalAll_map_some,
    Option.map_some]

/-- The request of a carried callback is turned back into that callback. -/
theorem WireFormat.proxy_carried (W : WireFormat P) {callback : Callback P}
    (h : callback.Representable) (hc : callback.Carried W) :
    ∃ code fields, W.proxy callback = some (W.request code fields) ∧
      Reads (W.inner code) fields.flatten [callback] := by
  cases callback with
  | onCallStateUpdated slotId callState number =>
    exact ⟨_, _, rfl, Reads.cons (reads_int32 h.1) (Reads.cons (reads_int32 h.2)
      (Reads.last (W.string16.reads number)))⟩
  | onCallStateUpdatedEx slotId callState =>
    exact ⟨_, _, rfl, Reads.cons (reads_int32 h.1) (Reads.last (reads_int32 h.2))⟩
  | onCCallStateUpdated slotId callState number =>
    exact ⟨_, _, rfl, Reads.cons (reads_int32 h.1) (Reads.cons (reads_int32 h.2)
      (Reads.last (W.string16.reads number)))⟩
  | onSignalInfoUpdated slotId vec =>
    obtain ⟨hsize, xs, rfl, hkinds⟩ := hc
    rw [List.length_map] at hsize
    refine ⟨_, _, W.proxy_signalInfo slotId hsize, Reads.cons (reads_int32 h.1) ?_⟩
    apply Reads.bind_pure (reads_counted W.signals hkinds W.maxSignalNum_le hsize)
    exact Reads.pure _
  | onCellInfoUpdated slotId vec =>
    obtain ⟨hne, hsize, xs, rfl, hkinds⟩ := hc
    rw [List.length_map] at hsize
    have hne' : xs ≠ [] := fun hnil => hne (by rw [hnil, List.map_nil])
    refine ⟨_, _, W.proxy_cellInfo slotId hne' hsize, Reads.cons (reads_int32 h.1) ?_⟩
    apply Reads.bind_pure (reads_counted W.cells hkinds W.maxCellNum_le hsize)
    exact Reads.pure _
  | onNetworkStateUpdated slotId networkState =>
    obtain ⟨n, rfl, hcopy⟩ := hc
    refine ⟨_, _, rfl, Reads.cons (reads_int32 h) (Reads.cons (W.unmarshalling_reads n) ?_)⟩
    rw [hcopy]
    exact Reads.pure _
  | onSimStateUpdated slotId type state reason =>
    obtain ⟨hslot, htype, hstate, hreason⟩ := h
    exact ⟨_, _, rfl, Reads.cons (reads_int32 hslot) (Reads.cons (reads_int32 htype)
      (Reads.cons (reads_int32 hstate) (Reads.last (reads_int32 hreason))))⟩
  | onCellularDataConnectStateUpdated slotId dataState networkType =>
    obtain ⟨hslot, hstate, htype⟩ := h
    exact ⟨_, _, rfl, Reads.cons (reads_int32 hslot) (Reads.cons (reads_int32 hstate)
      (Reads.last (reads_int32 htype)))⟩
  | onCellularDataFlowUpdated slotId flowData =>
    exact ⟨_, _, rfl, Reads.cons (reads_int32 h.1) (Reads.last (reads_int32 h.2))⟩
  | onCfuIndicatorUpdated slotId cfuResult =>
    exact ⟨_, _, rfl, Reads.cons (reads_int32 h) (Reads.last (reads_bool cfuResult))⟩
  | onVoiceMailMsgIndicatorUpdated slotId voiceMailMsgResult =>
    exact ⟨_, _, rfl, Reads.cons (reads_int32 h) (Reads.last (reads_bool voiceMailMsgResult))⟩
  | onIccAccountUpdated => exact ⟨_, _, rfl, Reads.pure _⟩
  | onSimActiveStateUpdated slotId activeStateResult =>
    exact ⟨_, _, rfl, Reads.cons (reads_int32 h) (Reads.last (reads_bool activeStateResult))⟩
  | onVoIPStateUpdated info =>
    exact ⟨_, _, rfl, Reads.cons (W.string.reads info.appName)
      (Reads.cons (W.string.reads info.contactName) (Reads.cons (reads_int32 h.1)
        (Reads.cons (reads_int32 h.2) (Reads.last (reads_bool info.isVoiceAnswerSupported)))))⟩

/-- The proxy sends nothing of a list that it refuses. -/
theorem WireFormat.proxy_refused (W : WireFormat P) {callback : Callback P}
    (h : callback.Representable) (hr : callback.Refused W) : W.proxy callback = none := by
  cases callback with
  | onSignalInfoUpdated slotId vec =>
    have hmax := W.maxSignalNum_le
    have hsize := int32OfSize_spec h.2
    have hout : int32OfSize vec.length < 0 ∨ int32OfSize vec.length > W.maxSignalNum := by
      have hlong : W.maxSignalNum < vec.length := hr
      have hbound := h.2
      split at hsize <;> omega
    simp only [proxy, if_pos hout]
  | onCellInfoUpdated slotId vec =>
    have hmax := W.maxCellNum_le
    have hsize := int32OfSize_spec h.2
    have hbound := h.2
    rcases hr with rfl | hlong
    · rfl
    · by_cases hlow : int32OfSize vec.length ≤ 0
      · simp only [proxy, if_pos hlow]
      · have hout : int32OfSize vec.length > W.maxCellNum := by
          split at hsize <;> omega
        simp only [proxy, if_neg hlow, if_pos hout]
  | _ => exact hr.elim

/-- **The observer protocol carries every callback unchanged.** What the proxy
sends of a callback makes the observer return without an error and make exactly
that callback; of lists beyond the limits the proxy sends nothing. -/
theorem observer_round_trip (W : WireFormat P) {callback : Callback P}
    (h : callback.Representable) :
    (callback.Carried W → ∃ request, W.proxy callback = some request ∧
      W.onRemoteRequest request = (.noError, [callback])) ∧
    (callback.Refused W → W.proxy callback = none) := by
  constructor
  · intro hc
    obtain ⟨code, fields, hproxy, hreads⟩ := W.proxy_carried h hc
    exact ⟨_, hproxy, W.onRemoteRequest_request hreads⟩
  · exact W.proxy_refused h

/-- On the dual-SIM platform a list of two signals makes the round trip, and an
empty cell list is not sent. -/
theorem signals_round_trip :
    (∃ request, WireFormat.dualSim.proxy (.onSignalInfoUpdated 1 [some "lte4", some "wcdma2"]) =
        some request ∧
      WireFormat.dualSim.onRemoteRequest request =
        (.noError, [.onSignalInfoUpdated 1 [some "lte4", some "wcdma2"]])) ∧
    WireFormat.dualSim.proxy (.onCellInfoUpdated 0 []) = none := by
  have hsignals : Callback.Representable (P := Platform.dualSim)
      (.onSignalInfoUpdated 1 [some "lte4", some "wcdma2"]) := ⟨by decide, by decide⟩
  have hcells : Callback.Representable (P := Platform.dualSim) (.onCellInfoUpdated 0 []) :=
    ⟨by decide, by decide⟩
  constructor
  · apply (observer_round_trip WireFormat.dualSim hsignals).1
    refine ⟨by decide, ["lte4", "wcdma2"], rfl, ?_⟩
    decide
  · exact (observer_round_trip WireFormat.dualSim hcells).2 (Or.inl rfl)

end TelephonyStateRegistry
