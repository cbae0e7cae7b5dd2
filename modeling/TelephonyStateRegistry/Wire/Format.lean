import TelephonyStateRegistry.Core.Parcel
import TelephonyStateRegistry.Service.Platform

/-!
# Message parcels

A parcel is a buffer of 32-bit words. Integers and booleans take one word each.
Strings, the interface token, the element classes and the network state have
layouts of their own, which come from outside the repository together with the
request codes and the limits on list lengths.
-/

namespace TelephonyStateRegistry

open Reactive

/-- A word of a parcel. -/
abbrev Word := BitVec 32

/-- The unread part of a `MessageParcel`. -/
abbrev MessageParcel := List Word

/-- The values of `int32_t`. -/
def IsInt32 (i : Int) : Prop := -2 ^ 31 ≤ i ∧ i < 2 ^ 31

instance (i : Int) : Decidable (IsInt32 i) := inferInstanceAs (Decidable (_ ∧ _))

/-- `static_cast<int32_t>` of a size. -/
def int32OfSize (n : Nat) : Int := (BitVec.ofNat 32 n).toInt

/-- A size that fits is kept; one that does not is negative. -/
theorem int32OfSize_spec {n : Nat} (h : n < 2 ^ 32) :
    int32OfSize n = if n < 2 ^ 31 then (n : Int) else n - 2 ^ 32 := by
  rw [int32OfSize, BitVec.toInt_ofNat', Int.bmod_def]
  split <;> split <;> omega

/-- `WriteInt32`. -/
def writeInt32 (i : Int) : MessageParcel := [BitVec.ofInt 32 i]

/-- `ReadInt32`; an exhausted parcel yields zero. -/
def readInt32 : Reader Word Int := BitVec.toInt <$> Reader.word 0#32

theorem reads_int32 {i : Int} (h : IsInt32 i) : Reads readInt32 (writeInt32 i) i := by
  have hi : (BitVec.ofInt 32 i).toInt = i := by
    obtain ⟨hlo, hhi⟩ := h
    rw [BitVec.toInt_ofInt]
    apply Int.bmod_eq_of_le <;> omega
  have hread := (Reads.word 0#32 (BitVec.ofInt 32 i)).map BitVec.toInt
  rwa [hi] at hread

/-- `WriteBool`. -/
def writeBool (b : Bool) : MessageParcel := writeInt32 (if b then 1 else 0)

/-- `ReadBool`. -/
def readBool : Reader Word Bool := (fun i : Int => decide (i ≠ 0)) <$> readInt32

theorem reads_bool (b : Bool) : Reads readBool (writeBool b) b := by
  have h : IsInt32 (if b then 1 else 0) := by cases b <;> decide
  have hread := (reads_int32 h).map fun i : Int => decide (i ≠ 0)
  cases b <;> exact hread

/-- The radio types of signal and cell elements. -/
inductive RadioType
  | gsm
  | cdma
  | wcdma
  | tdscdma
  | lte
  | nr
  deriving DecidableEq, Repr

/-- `ObserverBrokerCode`. -/
inductive ObserverBrokerCode
  | onCallStateUpdated
  | onCallStateExUpdated
  | onCCallStateUpdated
  | onSignalInfoUpdated
  | onCellInfoUpdated
  | onNetworkStateUpdated
  | onSimStateUpdated
  | onCellularDataConnectStateUpdated
  | onCellularDataFlowUpdated
  | onCfuIndicatorUpdated
  | onVoiceMailMsgIndicatorUpdated
  | onIccAccountUpdated
  | onSimActiveStateUpdated
  | onVoIPStateUpdated
  deriving DecidableEq, Repr

/-- The layouts and constants that come with the parcels. What is read back is
what was written: an object that `ReadFromParcel` or `Unmarshalling` rebuilds
behind what `Marshalling` wrote, and for a network state its parcel copy. -/
structure WireFormat (P : Platform) where
  /-- `GetDescriptor` of the observer interface. -/
  descriptor : U16String
  /-- `WriteInterfaceToken` and `ReadInterfaceToken`. -/
  interfaceToken : Codec Word U16String
  /-- `WriteString` and `ReadString`. -/
  string : Codec Word String
  /-- `WriteString16` and `ReadString16`. -/
  string16 : Codec Word U16String
  /-- The classes derived from `SignalInformation`. -/
  signals : TaggedFormat Word RadioType P.SignalInformation
  /-- The classes derived from `CellInformation`. -/
  cells : TaggedFormat Word RadioType P.CellInformation
  /-- `NetworkState::Marshalling`. -/
  marshalling : P.NetworkState → MessageParcel
  /-- `NetworkState::Unmarshalling`. -/
  unmarshalling : Reader Word (Option P.NetworkState)
  unmarshalling_reads : ∀ n, Reads unmarshalling (marshalling n) (some (P.parcelCopy n))
  /-- The value of a request code. -/
  brokerCode : ObserverBrokerCode → Word
  brokerCode_injective : Function.Injective brokerCode
  /-- `SignalInformation::MAX_SIGNAL_NUM`. -/
  maxSignalNum : Int
  maxSignalNum_le : maxSignalNum ≤ 100
  /-- `CellInformation::MAX_CELL_NUM`. -/
  maxCellNum : Int
  maxCellNum_le : maxCellNum ≤ 100

/-- The radio types that the decoders of signal lists read. -/
def signalTypes : List RadioType := [.gsm, .cdma, .lte, .nr, .wcdma]

/-- The radio types that the decoders of cell lists read. -/
def cellTypes : List RadioType := [.gsm, .lte, .nr]

/-- `Marshalling` of every element of a vector. A null element would be
dereferenced, and nothing is sent. -/
def marshalAll {α : Type} (F : TaggedFormat Word RadioType α) :
    List (Option α) → Option MessageParcel
  | [] => some []
  | none :: _ => none
  | some a :: vec => (marshalAll F vec).map (F.write a ++ ·)

theorem marshalAll_map_some {α : Type} (F : TaggedFormat Word RadioType α) (xs : List α) :
    marshalAll F (xs.map some) = some (xs.flatMap F.write) := by
  induction xs with
  | nil => rfl
  | cons a xs ih => simp only [List.map_cons, marshalAll, ih, Option.map_some, List.flatMap_cons]

private theorem char_word (c : Char) : (BitVec.ofNat 32 c.toNat).toNat = c.toNat := by
  have h : c.toNat < 2 ^ 32 := c.val.toNat_lt
  rw [BitVec.toNat_ofNat, Nat.mod_eq_of_lt h]

/-- Characters, one word each, up to a word that is no character. -/
def stringCodec : Codec Word String :=
  (Codec.terminated (fun c => BitVec.ofNat 32 c.toNat) (fun w => Char.ofNat w.toNat)
    0xFFFFFFFF#32
    (by
      intro c
      rw [char_word, Char.ofNat_toNat])
    (by
      intro c h
      have hbound : c.toNat < 0x110000 := by
        have hvalid := c.valid
        simp only [UInt32.isValidChar, Nat.isValidChar] at hvalid
        change c.val.toNat < _
        omega
      have hword := congrArg BitVec.toNat h
      rw [char_word] at hword
      simp only [BitVec.toNat_ofNat] at hword
      omega)).comap String.toList String.ofList fun _ => String.ofList_toList

/-- Units of 16 bits, one word each, up to a word that is no unit. -/
def string16Codec : Codec Word U16String :=
  Codec.terminated (fun c => c.setWidth 32) (fun w => w.setWidth 16) 0xFFFFFFFF#32
    (by
      intro c
      ext i hi
      simp only [BitVec.getElem_setWidth, BitVec.getLsbD_setWidth]
      simp only [show i < 32 by omega, decide_true, Bool.true_and, BitVec.getLsbD_eq_getElem hi])
    (by
      intro c h
      have hword := congrArg BitVec.toNat h
      have hbound := c.isLt
      simp only [BitVec.toNat_setWidth, BitVec.toNat_ofNat] at hword
      omega)

/-- The radio type that the first letter of a name stands for. -/
private def namedType (name : String) : RadioType :=
  match name.toList with
  | 'c' :: _ => .cdma
  | 'w' :: _ => .wcdma
  | 't' :: _ => .tdscdma
  | 'l' :: _ => .lte
  | 'n' :: _ => .nr
  | _ => .gsm

private def typeNumber : RadioType → Word
  | .gsm => 1
  | .cdma => 2
  | .wcdma => 3
  | .tdscdma => 4
  | .lte => 5
  | .nr => 6

private def codeNumber : ObserverBrokerCode → Word
  | .onCallStateUpdated => 0
  | .onSignalInfoUpdated => 1
  | .onCellInfoUpdated => 2
  | .onNetworkStateUpdated => 3
  | .onSimStateUpdated => 4
  | .onCellularDataConnectStateUpdated => 5
  | .onCellularDataFlowUpdated => 6
  | .onCfuIndicatorUpdated => 7
  | .onVoiceMailMsgIndicatorUpdated => 8
  | .onIccAccountUpdated => 9
  | .onCallStateExUpdated => 10
  | .onCCallStateUpdated => 11
  | .onSimActiveStateUpdated => 12
  | .onVoIPStateUpdated => 13

/-- Elements that are their names, behind the number of their radio type. -/
def namedElements : TaggedFormat Word RadioType String where
  kind := namedType
  tag := typeNumber
  tag_injective := by
    intro a b h
    cases a <;> cases b <;> first | rfl | exact absurd h (by decide)
  payload := stringCodec.write
  read _ := stringCodec.read
  reads := stringCodec.reads

/-- The parcels of the dual-SIM platform. -/
def WireFormat.dualSim : WireFormat Platform.dualSim where
  descriptor := [0x6F#16, 0x62#16]
  interfaceToken := string16Codec
  string := stringCodec
  string16 := string16Codec
  signals := namedElements
  cells := namedElements
  marshalling := stringCodec.write
  unmarshalling := some <$> stringCodec.read
  unmarshalling_reads n := (stringCodec.reads n).map some
  brokerCode := codeNumber
  brokerCode_injective := by
    intro a b h
    cases a <;> cases b <;> first | rfl | exact absurd h (by decide)
  maxSignalNum := 100
  maxSignalNum_le := Int.le_refl _
  maxCellNum := 100
  maxCellNum_le := Int.le_refl _

end TelephonyStateRegistry
