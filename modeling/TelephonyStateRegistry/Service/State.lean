import TelephonyStateRegistry.Core.KeyMap
import TelephonyStateRegistry.Service.Platform

/-!
# The service state and the traversal of the registry

The state is a cache grouped by slot and the vector of registered records. Every
update traverses the vector in order; the body of the loop sees one record, may
call its observer, and may read the cache through the inserting subscript.
-/

namespace TelephonyStateRegistry

open Reactive

/-- The state caches of `TelephonyStateRegistryService`. -/
structure Caches (P : Platform) where
  cfuResult : KeyMap Int Bool
  voiceMailMsgResult : KeyMap Int Bool
  callState : KeyMap Int Int
  callIncomingNumber : KeyMap Int U16String
  signalInfos : KeyMap Int (List (Option P.SignalInformation))
  cellInfos : KeyMap Int (List (Option P.CellInformation))
  searchNetworkState : KeyMap Int (Option P.NetworkState)
  simState : KeyMap Int Int
  cardType : KeyMap Int Int
  simReason : KeyMap Int Int
  cellularDataConnectionState : KeyMap Int Int
  cellularDataConnectionNetworkType : KeyMap Int Int
  cellularDataFlow : KeyMap Int Int
  simActiveResult : KeyMap Int Bool

/-- The caches together with `stateRecords_`. -/
structure Service (P : Platform) where
  caches : Caches P
  stateRecords : List Record

/-- The call states that the constructor writes. -/
def initialCallState (P : Platform) : KeyMap Int Int :=
  let callState := (List.range P.slotSize.toNat).foldl
    (fun (m : KeyMap Int Int) (i : Nat) => m.assign (i : Int) callStatusUnknown) KeyMap.empty
  -- a product without SIM slots still has slot 0
  let callState :=
    if P.slotSize = 0 then callState.assign 0 callStatusUnknown else callState
  callState.assign (-1) callStatusUnknown

/-- The caches after the constructor. -/
def Caches.init (P : Platform) : Caches P where
  cfuResult := .empty
  voiceMailMsgResult := .empty
  callState := initialCallState P
  callIncomingNumber := .empty
  signalInfos := .empty
  cellInfos := .empty
  searchNetworkState := .empty
  simState := .empty
  cardType := .empty
  simReason := .empty
  cellularDataConnectionState := .empty
  cellularDataConnectionNetworkType := .empty
  cellularDataFlow := .empty
  simActiveResult := .empty

/-- The state after the constructor. -/
def Service.init (P : Platform) : Service P := ⟨Caches.init P, []⟩

/-- The slots whose call state the constructor sets. -/
def Platform.initialisedSlot (P : Platform) (slotId : Int) : Prop :=
  P.verifySlotId slotId = true ∨ (P.slotSize = 0 ∧ slotId = 0) ∨ slotId = -1

instance (P : Platform) (slotId : Int) : Decidable (P.initialisedSlot slotId) :=
  inferInstanceAs (Decidable (_ ∨ _))

private theorem find?_assign_range (n : Nat) (slotId : Int) :
    ((List.range n).foldl (fun (m : KeyMap Int Int) (i : Nat) =>
      m.assign (i : Int) callStatusUnknown) KeyMap.empty).find? slotId =
      if 0 ≤ slotId ∧ slotId < n then some callStatusUnknown else none := by
  induction n with
  | zero =>
    rw [if_neg (by omega)]
    rfl
  | succ n ih =>
    rw [List.range_succ, List.foldl_append, List.foldl_cons, List.foldl_nil,
      KeyMap.find?_assign, ih]
    by_cases he : slotId = n
    · rw [if_pos he, if_pos (by omega)]
    · rw [if_neg he]
      by_cases hs : 0 ≤ slotId ∧ slotId < n
      · rw [if_pos hs, if_pos (by omega)]
      · rw [if_neg hs, if_neg (by omega)]

/-- The constructor caches an unknown call state for exactly the initialised slots. -/
theorem find?_initialCallState (P : Platform) (slotId : Int) :
    (initialCallState P).find? slotId =
      if P.initialisedSlot slotId then some callStatusUnknown else none := by
  have hslot : (0 ≤ slotId ∧ slotId < (P.slotSize.toNat : Int)) ↔ P.verifySlotId slotId = true := by
    rw [P.verifySlotId_iff]
    omega
  unfold initialCallState
  rw [KeyMap.find?_assign]
  by_cases hm : slotId = -1
  · simp only [hm, if_true, Platform.initialisedSlot, or_true]
  · rw [if_neg hm]
    by_cases hz : P.slotSize = 0
    · rw [if_pos hz, KeyMap.find?_assign, find?_assign_range]
      by_cases h0 : slotId = 0
      · simp only [h0, if_true, Platform.initialisedSlot, hz, and_self, or_true, true_or]
      · simp only [h0, if_false, hslot, Platform.initialisedSlot, hm, and_false, or_false]
    · simp only [hz, if_false, find?_assign_range, hslot, Platform.initialisedSlot, hm,
        false_and, or_false]

/-- One call on the observer of one record. -/
structure Delivery (P : Platform) where
  record : Record
  callback : Callback P

/-- The value of a parameter of a `Want`. -/
inductive WantParam
  | int (value : Int)
  | string (value : String)
  | strings (values : List String)
  deriving DecidableEq, Repr

/-- The actions of the published common events. -/
inductive Action
  | callStateChanged
  | cellularDataStateChanged
  | simStateChanged
  | signalInfoChanged
  | networkStateChanged
  deriving DecidableEq, Repr

/-- A published common event: the data and the permissions its subscribers need. -/
structure CommonEvent where
  action : Action
  params : List (String × WantParam)
  code : Option Int
  data : Option String
  subscriberPermissions : List Permission
  deriving DecidableEq, Repr

/-- What one operation does outside the service: its return code, its calls on
observers and its common events, each in order. -/
structure Output (P : Platform) where
  result : ReturnCode
  deliveries : List (Delivery P)
  events : List CommonEvent

/-- An operation that only returns a code. -/
def Output.code {P : Platform} (result : ReturnCode) : Output P := ⟨result, [], []⟩

/-- The callbacks that one observer object gets out of a list of deliveries. -/
def received {P : Platform} (o : Observer) (ds : List (Delivery P)) : List (Callback P) :=
  (ds.filter fun d => d.record.telephonyObserver = some o).map Delivery.callback

/-- What the loop body does with one record. -/
inductive LoopStep (P : Platform)
  | skip
  | call (callback : Callback P)
  | abort (result : ReturnCode)

/-- The loop body that makes a given callback, if any. -/
def LoopStep.ofCall {P : Platform} : Option (Callback P) → LoopStep P
  | some callback => .call callback
  | none => .skip

/-- The loop over `stateRecords_`, with the running value of `result`. -/
def traverse {P : Platform} (body : Record → Caches P → LoopStep P × Caches P) :
    List Record → ReturnCode → Caches P → Caches P × List (Delivery P) × ReturnCode
  | [], result, c => (c, [], result)
  | record :: records, result, c =>
    match body record c with
    | (.skip, c) => traverse body records result c
    | (.call callback, c) =>
      let (c, ds, result) := traverse body records .telephonySuccess c
      (c, ⟨record, callback⟩ :: ds, result)
    | (.abort result, c) => (c, [], result)

/-- The notification of an update: the traversal, then its common events. -/
def notifyRecords {P : Platform} (body : Record → Caches P → LoopStep P × Caches P)
    (events : List CommonEvent) (s : Service P) : Service P × Output P :=
  let (caches, ds, result) :=
    traverse body s.stateRecords .telephonyStateRegistryDataNotExist s.caches
  ({ s with caches }, ⟨result, ds, events⟩)

/-- The deliveries of a pure body: its callbacks in registration order. -/
def deliveriesOf {P : Platform} (call : Record → Option (Callback P)) (records : List Record) :
    List (Delivery P) :=
  records.filterMap fun record => (call record).map (Delivery.mk record)

/-- The code of a traversal that found something to call, or nothing. -/
def resultOf {P : Platform} (ds : List (Delivery P)) : ReturnCode :=
  if ds.isEmpty then .telephonyStateRegistryDataNotExist else .telephonySuccess

/-- A loop whose body makes the callback of each record, and only moves between
caches that do not change these callbacks, is a filter-map of the registry. -/
theorem traverse_stable {P : Platform} {body : Record → Caches P → LoopStep P × Caches P}
    {call : Record → Option (Callback P)} {I : Caches P → Prop}
    (h : ∀ record c, I c → ∃ c', body record c = (LoopStep.ofCall (call record), c') ∧ I c')
    (records : List Record) (result : ReturnCode) {c : Caches P} (hc : I c) :
    ∃ c', traverse body records result c = (c', deliveriesOf call records,
      if (deliveriesOf call records).isEmpty then result else .telephonySuccess) ∧ I c' := by
  induction records generalizing result c with
  | nil => exact ⟨c, rfl, hc⟩
  | cons record records ih =>
    obtain ⟨c₁, hbody, hc₁⟩ := h record c hc
    unfold deliveriesOf at ih ⊢
    cases hcall : call record with
    | none =>
      obtain ⟨c₂, hrest, hc₂⟩ := ih result hc₁
      refine ⟨c₂, ?_, hc₂⟩
      simp only [traverse, hbody, hcall, LoopStep.ofCall, hrest, List.filterMap_cons,
        Option.map_none]
    | some callback =>
      obtain ⟨c₂, hrest, hc₂⟩ := ih .telephonySuccess hc₁
      refine ⟨c₂, ?_, hc₂⟩
      simp only [traverse, hbody, hcall, LoopStep.ofCall, hrest, List.filterMap_cons,
        Option.map_some, List.isEmpty_cons, Bool.false_eq_true, if_false, ite_self]

/-- The traversal with such a body: its deliveries, and a code that tells
whether any observer was called. -/
theorem notifyRecords_stable {P : Platform}
    {body : Record → Caches P → LoopStep P × Caches P} {s : Service P}
    {call : Record → Option (Callback P)} {I : Caches P → Prop}
    (h : ∀ record c, I c → ∃ c', body record c = (LoopStep.ofCall (call record), c') ∧ I c')
    (hs : I s.caches) (events : List CommonEvent) :
    ∃ c', notifyRecords body events s = ({ s with caches := c' },
      ⟨resultOf (deliveriesOf call s.stateRecords), deliveriesOf call s.stateRecords, events⟩) ∧
      I c' := by
  obtain ⟨c', hrun, hc'⟩ :=
    traverse_stable h s.stateRecords .telephonyStateRegistryDataNotExist hs
  exact ⟨c', by simp only [notifyRecords, hrun, resultOf], hc'⟩

/-- A body that never touches the caches leaves the whole state alone. -/
theorem notifyRecords_of_pure {P : Platform}
    {body : Record → Caches P → LoopStep P × Caches P} {call : Record → Option (Callback P)}
    (h : ∀ record c, body record c = (LoopStep.ofCall (call record), c))
    (events : List CommonEvent) (s : Service P) :
    notifyRecords body events s = (s, ⟨resultOf (deliveriesOf call s.stateRecords),
      deliveriesOf call s.stateRecords, events⟩) := by
  obtain ⟨c', hrun, rfl⟩ := notifyRecords_stable (I := fun c => c = s.caches)
    (fun record c hc => ⟨c, h record c, hc⟩) rfl events
  exact hrun

/-- A delivery comes from a registered record and its callback. -/
theorem mem_deliveriesOf {P : Platform} {call : Record → Option (Callback P)}
    {records : List Record} {d : Delivery P} :
    d ∈ deliveriesOf call records ↔ d.record ∈ records ∧ call d.record = some d.callback := by
  simp only [deliveriesOf, List.mem_filterMap, Option.map_eq_some_iff]
  constructor
  · rintro ⟨record, hr, callback, hc, rfl⟩
    exact ⟨hr, hc⟩
  · rintro ⟨hr, hc⟩
    exact ⟨d.record, hr, d.callback, hc, rfl⟩

/-- The code of a notification depends only on which records are called. -/
theorem resultOf_congr {P : Platform} {call call' : Record → Option (Callback P)}
    (h : ∀ record, (call record).isSome = (call' record).isSome) (records : List Record) :
    resultOf (deliveriesOf call records) = resultOf (deliveriesOf call' records) := by
  have hempty : (deliveriesOf call records).isEmpty = (deliveriesOf call' records).isEmpty := by
    induction records with
    | nil => rfl
    | cons record records ih =>
      have hr := h record
      unfold deliveriesOf at ih ⊢
      cases hc : call record <;> cases hc' : call' record <;>
        simp only [hc, hc', Option.isSome_none, Option.isSome_some, Bool.false_eq_true,
          Bool.true_eq_false] at hr <;>
        simp only [List.filterMap_cons, hc, hc', Option.map_none, Option.map_some,
          List.isEmpty_cons, ih]
  rw [resultOf, resultOf, hempty]

/-- What an observer receives are the calls on its own records, in order. -/
theorem received_deliveriesOf {P : Platform} (o : Observer) (call : Record → Option (Callback P))
    (records : List Record) :
    received o (deliveriesOf call records) =
      records.filterMap fun record =>
        if record.telephonyObserver = some o then call record else none := by
  induction records with
  | nil => rfl
  | cons record records ih =>
    unfold received deliveriesOf at ih ⊢
    cases hc : call record with
    | none => simp only [List.filterMap_cons, hc, Option.map_none, ite_self, ih]
    | some callback =>
      by_cases ho : record.telephonyObserver = some o <;>
        simp only [List.filterMap_cons, hc, Option.map_some, List.filter_cons, ho, decide_true,
          decide_false, if_true, if_false, Bool.false_eq_true, List.map_cons, ih]

theorem received_congr {P : Platform} {o : Observer} {call call' : Record → Option (Callback P)}
    {records : List Record}
    (h : ∀ record ∈ records, record.telephonyObserver = some o → call record = call' record) :
    received o (deliveriesOf call records) = received o (deliveriesOf call' records) := by
  rw [received_deliveriesOf, received_deliveriesOf]
  apply List.filterMap_congr
  intro record hr
  by_cases ho : record.telephonyObserver = some o
  · rw [if_pos ho, if_pos ho, h record hr ho]
  · rw [if_neg ho, if_neg ho]

end TelephonyStateRegistry
