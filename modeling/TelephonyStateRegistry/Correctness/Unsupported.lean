import TelephonyStateRegistry.Wire.Observer
import TelephonyStateRegistry.Wire.Stub

/-!
# Lists with elements of unsupported radio types

The four loops that decode lists skip the tag of an element whose radio type
they do not know, and go on with what it wrote behind its tag as if it were the
next element. No element carries its length, so the loops find the supported
elements and the end of the list exactly when no unsupported element has
written anything behind its tag.
-/

namespace TelephonyStateRegistry

open Reactive

variable {P : Platform} {α : Type}

/-- A list as both sides put it into a parcel: the count, and the elements. -/
def marshalledList (F : TaggedFormat Word RadioType α) (xs : List α) : MessageParcel :=
  writeInt32 xs.length ++ xs.flatMap F.write

/-- The elements of the types that a decoder supports. -/
def supported (F : TaggedFormat Word RadioType α) (kinds : List RadioType) (xs : List α) :
    List α :=
  xs.filter fun a => F.kind a ∈ kinds

/-- `ReadFromParcel` of each supported class takes no more than `Marshalling` of
the object it built writes behind the tag. -/
def ReadsOwnPayload (F : TaggedFormat Word RadioType α) (kinds : List RadioType) : Prop :=
  ∀ k ∈ kinds, Spends (F.read k) fun a => (F.payload a).length

/-- Every element that a decoder does not support is a bare tag. -/
def NothingToSkip (F : TaggedFormat Word RadioType α) (kinds : List RadioType) (xs : List α) :
    Prop :=
  ∀ a ∈ xs, F.kind a ∈ kinds ∨ F.payload a = []

private theorem readInt32_bind {β : Type} {i : Int} (h : IsInt32 i) (f : Int → Reader Word β)
    (ws : MessageParcel) : (readInt32 >>= f) (writeInt32 i ++ ws) = f i ws := by
  rw [Reader.bind_apply, reads_int32 h]

private theorem isInt32_length {xs : List α} {max : Int} (hmax : max ≤ 100)
    (h : (xs.length : Int) ≤ max) : IsInt32 xs.length := by
  constructor <;> omega

private theorem counted_apply (F : TaggedFormat Word RadioType α) {β : Type} {xs : List α}
    {max : Int} (hmax : max ≤ 100) (h : (xs.length : Int) ≤ max) (f : Int → Reader Word β)
    (rest : MessageParcel) :
    (readInt32 >>= f) (marshalledList F xs ++ rest) = f xs.length (xs.flatMap F.write ++ rest) := by
  rw [marshalledList, List.append_assoc]
  exact readInt32_bind (isInt32_length hmax h) f _

section Loops

variable (W : WireFormat P) (rest : MessageParcel)

private theorem convertSignalInfoList_iff {xs : List P.SignalInformation}
    (hread : ReadsOwnPayload W.signals signalTypes) (h : (xs.length : Int) ≤ W.maxSignalNum) :
    W.convertSignalInfoList (marshalledList W.signals xs ++ rest) =
        (supported W.signals signalTypes xs, rest) ↔ NothingToSkip W.signals signalTypes xs := by
  have hmax := W.maxSignalNum_le
  have hsize : ¬(xs.length : Int) > signalNumMax := by
    simp only [signalNumMax]
    omega
  rw [WireFormat.convertSignalInfoList, counted_apply W.signals hmax h]
  simp only [if_neg hsize, Int.toNat_natCast]
  exact W.signals.collect_known_iff 0#32 signalTypes hread xs rest

private theorem convertCellInfoList_iff {xs : List P.CellInformation}
    (hread : ReadsOwnPayload W.cells cellTypes) (h : (xs.length : Int) ≤ W.maxCellNum) :
    W.convertCellInfoList (marshalledList W.cells xs ++ rest) =
        (supported W.cells cellTypes xs, rest) ↔ NothingToSkip W.cells cellTypes xs := by
  have hmax := W.maxCellNum_le
  have hsize : ¬(xs.length : Int) > cellNumMax := by
    simp only [cellNumMax]
    omega
  rw [WireFormat.convertCellInfoList, counted_apply W.cells hmax h]
  simp only [if_neg hsize, Int.toNat_natCast]
  exact W.cells.collect_known_iff 0#32 cellTypes hread xs rest

private theorem built_iff {β : Type} {build : List α → β} (hbuild : Function.Injective build)
    (p : List α × MessageParcel) (xs : List α) (rest : MessageParcel) :
    (build p.1, p.2) = (build xs, rest) ↔ p = (xs, rest) := by
  obtain ⟨ys, ws⟩ := p
  simp only [Prod.mk.injEq, hbuild.eq_iff]

private theorem onUpdateSignalInfo_iff {slotId : Int} {xs : List P.SignalInformation}
    (hread : ReadsOwnPayload W.signals signalTypes) (hslot : IsInt32 slotId)
    (h : (xs.length : Int) ≤ W.maxSignalNum) :
    W.onUpdateSignalInfo (writeInt32 slotId ++ (marshalledList W.signals xs ++ rest)) =
        (some (.signalInfo slotId ((supported W.signals signalTypes xs).map some)), rest) ↔
      NothingToSkip W.signals signalTypes xs := by
  have hlarge : ¬(xs.length : Int) > W.maxSignalNum := by omega
  have hsmall : ¬(xs.length : Int) < 0 := by omega
  have hbuild : Function.Injective fun result : List P.SignalInformation =>
      some (Update.signalInfo slotId (result.map some)) := by
    intro xs ys heq
    have hmap := (Update.signalInfo.inj (Option.some.inj heq)).2
    exact List.map_injective_iff.mpr (Option.some_injective _) hmap
  rw [WireFormat.onUpdateSignalInfo, readInt32_bind hslot,
    counted_apply W.signals W.maxSignalNum_le h]
  simp only [if_neg hlarge, if_neg hsmall, WireFormat.parseSignalInfos, Int.toNat_natCast]
  apply (built_iff hbuild _ _ _).trans
  exact W.signals.collect_known_iff 0#32 signalTypes hread xs rest

private theorem onUpdateCellInfo_iff {slotId : Int} {xs : List P.CellInformation}
    (hread : ReadsOwnPayload W.cells cellTypes) (hslot : IsInt32 slotId) (hne : xs ≠ [])
    (h : (xs.length : Int) ≤ W.maxCellNum) :
    W.onUpdateCellInfo (writeInt32 slotId ++ (marshalledList W.cells xs ++ rest)) =
        (some (.cellInfo slotId ((supported W.cells cellTypes xs).map some)), rest) ↔
      NothingToSkip W.cells cellTypes xs := by
  have hpos := List.length_pos_of_ne_nil hne
  have hlarge : ¬(xs.length : Int) > W.maxCellNum := by omega
  have hsmall : ¬(xs.length : Int) ≤ 0 := by omega
  have hbuild : Function.Injective fun cells : List P.CellInformation =>
      some (Update.cellInfo slotId (cells.map some)) := by
    intro xs ys heq
    have hmap := (Update.cellInfo.inj (Option.some.inj heq)).2
    exact List.map_injective_iff.mpr (Option.some_injective _) hmap
  rw [WireFormat.onUpdateCellInfo, readInt32_bind hslot,
    counted_apply W.cells W.maxCellNum_le h]
  simp only [if_neg hlarge, if_neg hsmall, Int.toNat_natCast]
  apply (built_iff hbuild _ _ _).trans
  exact W.cells.collect_known_iff 0#32 cellTypes hread xs rest

end Loops

/-- Both decoders of a list of signals yield the supported elements in order, and
stop at the end of the list. -/
def SignalsDecoded (W : WireFormat P) (slotId : Int) (xs : List P.SignalInformation)
    (rest : MessageParcel) : Prop :=
  W.onUpdateSignalInfo (writeInt32 slotId ++ (marshalledList W.signals xs ++ rest)) =
    (some (.signalInfo slotId ((supported W.signals signalTypes xs).map some)), rest) ∧
  W.convertSignalInfoList (marshalledList W.signals xs ++ rest) =
    (supported W.signals signalTypes xs, rest)

/-- The same for a list of cells. -/
def CellsDecoded (W : WireFormat P) (slotId : Int) (xs : List P.CellInformation)
    (rest : MessageParcel) : Prop :=
  W.onUpdateCellInfo (writeInt32 slotId ++ (marshalledList W.cells xs ++ rest)) =
    (some (.cellInfo slotId ((supported W.cells cellTypes xs).map some)), rest) ∧
  W.convertCellInfoList (marshalledList W.cells xs ++ rest) =
    (supported W.cells cellTypes xs, rest)

/-- **Where an unsupported element leaves its neighbours alone.** Within the
limits, the decoders of a list yield its supported elements and stop at its end
exactly when the list has nothing to skip. -/
theorem decoders_skip_unsupported_iff (W : WireFormat P)
    (hsignals : ReadsOwnPayload W.signals signalTypes) (hcells : ReadsOwnPayload W.cells cellTypes)
    {slotId : Int} (hslot : IsInt32 slotId) (rest : MessageParcel) :
    (∀ xs : List P.SignalInformation, (xs.length : Int) ≤ W.maxSignalNum →
      (SignalsDecoded W slotId xs rest ↔ NothingToSkip W.signals signalTypes xs)) ∧
    (∀ xs : List P.CellInformation, xs ≠ [] → (xs.length : Int) ≤ W.maxCellNum →
      (CellsDecoded W slotId xs rest ↔ NothingToSkip W.cells cellTypes xs)) := by
  constructor
  · intro xs h
    have hstub := onUpdateSignalInfo_iff W rest hsignals hslot h
    have hobserver := convertSignalInfoList_iff W rest hsignals h
    rw [SignalsDecoded, hstub, hobserver, and_self_iff]
  · intro xs hne h
    have hstub := onUpdateCellInfo_iff W rest hcells hslot hne h
    have hobserver := convertCellInfoList_iff W rest hcells h
    rw [CellsDecoded, hstub, hobserver, and_self_iff]

private theorem namedElements_reads (kinds : List RadioType) :
    ReadsOwnPayload namedElements kinds := by
  intro k _ ws
  have hspent := spends_terminated (fun w : Word => Char.ofNat w.toNat) 0xFFFFFFFF#32 ws
  change ws.length ≤ _ + (List.map _ (String.toList _) ++ [_]).length
  rw [List.length_append, List.length_map, List.length_singleton]
  change ws.length ≤ _ + ((String.ofList _).toList.length + 1)
  rw [String.toList_ofList]
  exact hspent

/-- Lists of supported elements are decoded whole; a TD-SCDMA element is not skipped. -/
theorem supported_lists_decoded :
    SignalsDecoded WireFormat.dualSim 0 ["gsm1", "nr2"] [] ∧
    CellsDecoded WireFormat.dualSim 1 ["lte3"] [7#32] ∧
    ¬NothingToSkip namedElements signalTypes ["tdscdma1", "gsm2"] := by
  have hsignals := namedElements_reads signalTypes
  have hcells := namedElements_reads cellTypes
  have hslots : IsInt32 0 ∧ IsInt32 1 := by decide
  refine ⟨?_, ?_, ?_⟩
  · apply ((decoders_skip_unsupported_iff WireFormat.dualSim hsignals hcells hslots.1 []).1
      ["gsm1", "nr2"] (by decide)).mpr
    intro a ha
    left
    revert a
    decide
  · apply ((decoders_skip_unsupported_iff WireFormat.dualSim hsignals hcells hslots.2 [7#32]).2
      ["lte3"] (by decide) (by decide)).mpr
    intro a ha
    left
    revert a
    decide
  · intro h
    rcases h "tdscdma1" List.mem_cons_self with hkind | hpayload
    · exact absurd hkind (by decide)
    · exact absurd hpayload (by decide)

/-- A GSM signal behind a TD-SCDMA signal is lost, and its words are left in the parcel. -/
theorem gsm_behind_tdscdma_lost :
    ¬SignalsDecoded WireFormat.dualSim 0 ["tdscdma1", "gsm2"] [] := by
  rintro ⟨-, h⟩
  have hlength := congrArg (fun p => List.length (Prod.fst p)) h
  exact absurd hlength (by decide)

end TelephonyStateRegistry
