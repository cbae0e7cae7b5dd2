import TelephonyStateRegistry.Core.SharedTable
import TelephonyStateRegistry.Service.Platform

/-!
# What the front ends share

The front ends of a process, one for each application framework, keep tables of
listeners. Listeners of the same slot and event share one registration with the
service, which a front end adds and removes through `TelephonyStateManager`.
-/

namespace TelephonyStateRegistry

open Reactive

/-- `TelephonyUpdateEventType`: the values are subscription masks. -/
inductive TelephonyUpdateEventType
  | noneEventType
  | event (m : ObserverMask)
  deriving DecidableEq, Repr

/-- `ToUint32t` of an event type. -/
def TelephonyUpdateEventType.toUint32t (P : Platform) : TelephonyUpdateEventType → BitVec 32
  | noneEventType => 0#32
  | event m => P.mask m

/-- The slot and the event of a registration. -/
@[ext]
structure Pair where
  slotId : Int
  eventType : TelephonyUpdateEventType
  deriving DecidableEq, Repr

/-- The order of a `std::set` of slots, and of a map from slots to sets of events. -/
def Pair.before (P : Platform) (j k : Pair) : Bool :=
  decide (j.slotId < k.slotId) || (j.slotId == k.slotId &&
    decide ((j.eventType.toUint32t P).toNat ≤ (k.eventType.toUint32t P).toNat))

/-- What a call on a front end or on the client returns. -/
inductive ClientCode
  /-- A code of the service. -/
  | service (code : ReturnCode)
  | telephonyErrCallbackAlreadyRegistered
  | telephonyErrIpcConnectStubFail
  /-- The error of a request that the service did not answer. -/
  | sendRequestError (code : Int)
  deriving DecidableEq, Repr

/-- `TELEPHONY_SUCCESS`. -/
def ClientCode.telephonySuccess : ClientCode := .service .telephonySuccess

theorem ClientCode.sendRequestError_ne (code : Int) :
    ClientCode.sendRequestError code ≠ .telephonySuccess := by
  unfold ClientCode.telephonySuccess
  nofun

/-- `TelephonyStateManager`: `AddStateObserver` with a new observer and the flag
`notifyNow`, and `RemoveStateObserver`, acting on what lies behind it. -/
structure StateManager (σ : Type) where
  addStateObserver : Pair → Bool → σ → ClientCode × σ
  removeStateObserver : Pair → σ → ClientCode × σ

/-- The manager as the provider of registrations of a front end, which asks for
a replay of some events. -/
def StateManager.provider {σ : Type} (M : StateManager σ)
    (isUpdate : TelephonyUpdateEventType → Bool) : Provider σ Pair ClientCode where
  add k := M.addStateObserver k (isUpdate k.eventType)
  remove k := M.removeStateObserver k

/-- The service seen as a set of registrations: a call that succeeds has its
effect, one that fails changes nothing. -/
def registryManager (answer : Pair → ClientCode) : StateManager (Finset Pair) where
  addStateObserver k _ registry :=
    (answer k, if answer k = .telephonySuccess then insert k registry else registry)
  removeStateObserver k registry :=
    (answer k, if answer k = .telephonySuccess then registry.erase k else registry)

theorem registryManager_provider (answer : Pair → ClientCode)
    (isUpdate : TelephonyUpdateEventType → Bool) :
    (registryManager answer).provider isUpdate = .answering .telephonySuccess answer answer := rfl

/-- A manager that keeps a record of the removals it is asked for. -/
def recordingManager (answer : Pair → ClientCode) : StateManager (List Pair) where
  addStateObserver k _ removals := (answer k, removals)
  removeStateObserver k removals := (answer k, removals ++ [k])

theorem recordingManager_provider (answer : Pair → ClientCode)
    (isUpdate : TelephonyUpdateEventType → Bool) :
    (recordingManager answer).provider isUpdate = .recording answer answer := rfl

/-- A pointer, by the number of the object behind it. -/
abbrev Pointer := Nat

/-- The pointer to no object. -/
def nullptr : Pointer := 0

/-- `SetEventListenerDeleting`, on the set of the flags that are set. -/
def setEventListenerDeleting (isDeleting : Pointer) (deleting : Finset Pointer) :
    Finset Pointer :=
  if isDeleting = nullptr then deleting else insert isDeleting deleting

/-- The flags that are set after those of some entries were set. -/
theorem mem_foldl_setEventListenerDeleting {α : Type*} {flag : α → Pointer} {n : Pointer}
    {removed : List α} {deleting : Finset Pointer} :
    n ∈ removed.foldl (fun deleting l => setEventListenerDeleting (flag l) deleting) deleting ↔
      n ∈ deleting ∨ ∃ l ∈ removed, flag l = n ∧ n ≠ nullptr := by
  induction removed generalizing deleting with
  | nil => simp only [List.foldl_nil, List.not_mem_nil, false_and, exists_false, or_false]
  | cons l ls ih =>
    rw [List.foldl_cons, ih, List.exists_mem_cons_iff, ← or_assoc]
    refine or_congr_left ?_
    unfold setEventListenerDeleting
    split
    · rename_i hnull
      refine ⟨Or.inl, ?_⟩
      rintro (hmem | ⟨rfl, hne⟩)
      · exact hmem
      · exact absurd hnull hne
    · rename_i hne
      rw [Finset.mem_insert, or_comm]
      refine or_congr_right ⟨?_, fun h => h.1.symm⟩
      rintro rfl
      exact ⟨rfl, hne⟩

section Order

variable {P : Platform} {i j k : Pair}

theorem Pair.before_iff : Pair.before P j k = true ↔ j.slotId < k.slotId ∨
    (j.slotId = k.slotId ∧
      (j.eventType.toUint32t P).toNat ≤ (k.eventType.toUint32t P).toNat) := by
  simp only [Pair.before, Bool.or_eq_true, Bool.and_eq_true, decide_eq_true_eq, beq_iff_eq]

theorem Pair.before_total (j k : Pair) :
    Pair.before P j k = true ∨ Pair.before P k j = true := by
  simp only [Pair.before_iff]
  omega

theorem Pair.before_trans (hij : Pair.before P i j = true) (hjk : Pair.before P j k = true) :
    Pair.before P i k = true := by
  rw [Pair.before_iff] at *
  omega

theorem Pair.slotId_le_of_before (h : Pair.before P j k = true) : j.slotId ≤ k.slotId := by
  rw [Pair.before_iff] at h
  omega

end Order

end TelephonyStateRegistry
