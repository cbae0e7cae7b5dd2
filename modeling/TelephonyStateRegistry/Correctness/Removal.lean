import TelephonyStateRegistry.Core.Withdrawals
import TelephonyStateRegistry.Client.Ani
import TelephonyStateRegistry.Correctness.Silence

/-!
# What removals ask the service for

A removal prunes the table first and then asks for the removal of each pair that
lost its last listener, in the order of the slots. The JS handler attempts every
one of these requests and reports the last failure; the ArkTS register returns at
the first failure, and attempts no more.
-/

namespace TelephonyStateRegistry

open Reactive

variable {P : Platform}

/-- The orphaned pairs of a removal by event, strictly in the order of their slots. -/
theorem Pair.orphans_ordered {ε ρ : Type*} (T : Sharing ε Pair ρ) (hbefore : T.before = before P)
    {eventType : TelephonyUpdateEventType} {removed : ε → Bool}
    (hremoved : ∀ e, removed e = true → (T.key e).eventType = eventType) (table : List ε) :
    (∀ k ∈ T.orphans removed table, k.eventType = eventType) ∧
      (T.orphans removed table).Pairwise fun j k => j.slotId < k.slotId := by
  have hevent : ∀ k ∈ T.orphans removed table, k.eventType = eventType := by
    intro k hk
    obtain ⟨⟨e, he, hkey⟩, hall⟩ := T.mem_orphans.mp hk
    rw [← hkey]
    exact hremoved e (hall e he hkey)
  refine ⟨hevent, ?_⟩
  have hordered : (T.orphans removed table).Pairwise fun j k => before P j k = true := by
    rw [← hbefore]
    refine T.pairwise_orphans ?_ ?_ removed table <;> rw [hbefore]
    · exact Pair.before_total
    · exact fun _ _ _ => Pair.before_trans
  refine (hordered.and (T.nodup_orphans removed table)).imp_of_mem ?_
  rintro j k hj hk ⟨hle, hne⟩
  refine lt_of_le_of_ne (Pair.slotId_le_of_before hle) ?_
  intro hslot
  exact hne (Pair.ext hslot ((hevent j hj).trans (hevent k hk).symm))

namespace Napi

/-- Each listener has a flag of its own, which is not set. -/
structure EventListenerHandler.OwnFlags (handler : EventListenerHandler) : Prop where
  ne_null : ∀ l ∈ handler.listenerList, l.isDeleting ≠ nullptr
  unset : ∀ l ∈ handler.listenerList, l.isDeleting ∉ handler.deleting
  unique : ∀ l ∈ handler.listenerList, ∀ l' ∈ handler.listenerList,
    l.isDeleting = l'.isDeleting → l = l'

/-- The listeners that `NativeOn` makes have such flags. -/
theorem Threads.Sound.ownFlags {σ : Type} {s : Threads P σ} (h : s.Sound) :
    s.handler.1.OwnFlags where
  ne_null l hl := (h.fresh l hl).1
  unset l hl hmem := h.unspent l hl (Or.inl hmem)
  unique := h.unique

/-- A removal sets the flags of the removed listeners, and of no other one. -/
theorem EventListenerHandler.OwnFlags.flagged_iff {handler : EventListenerHandler}
    (h : handler.OwnFlags) {removed : EventListener → Bool} {l : EventListener}
    (hl : l ∈ handler.listenerList) :
    l.isDeleting ∈ (handler.listenerList.filter removed).foldl
        (fun deleting l => setEventListenerDeleting l.isDeleting deleting) handler.deleting ↔
      removed l = true := by
  rw [mem_foldl_setEventListenerDeleting, or_iff_right (h.unset l hl)]
  constructor
  · rintro ⟨d, hd, hflag, -⟩
    obtain ⟨hmem, hremoved⟩ := List.mem_filter.mp hd
    exact h.unique d hmem l hl hflag ▸ hremoved
  · intro hremoved
    exact ⟨l, List.mem_filter.mpr ⟨hl, hremoved⟩, rfl, h.ne_null l hl⟩

/-- What a removal does to the table and the flags, what it asks for and returns. -/
theorem removeListeners_recording (answer : Pair → ClientCode) (removed : EventListener → Bool)
    (handler : EventListenerHandler) :
    let requests := (sharing P).orphans removed handler.listenerList
    removeListeners P (recordingManager answer) removed (handler, []) =
      ((⟨handler.listenerList.filter fun l => !removed l,
        (handler.listenerList.filter removed).foldl
          (fun deleting l => setEventListenerDeleting l.isDeleting deleting) handler.deleting⟩,
        requests), lastFailure .telephonySuccess (requests.map answer)) := by
  have hrelease := (sharing P).release_recording answer answer removed handler.listenerList []
  have hasked (ks : List Pair) : (sharing P).asked answer ks = ks := if_neg Bool.false_ne_true
  simp only [hasked, List.nil_append] at hrelease
  simp only [removeListeners, recordingManager_provider, hrelease]
  rfl

/-- What a call that removes listeners owes to the service and to its caller. -/
structure RemovalContract (answer : Pair → ClientCode) (removed : EventListener → Bool)
    (before after : EventListenerHandler) (requests : List Pair) (result : ClientCode) :
    Prop where
  /-- A pair is asked for if a removed listener had it and no remaining one has. -/
  requested : ∀ k, k ∈ requests ↔
    (∃ l ∈ before.listenerList, removed l = true ∧ l.pair = k) ∧
      ∀ l ∈ after.listenerList, l.pair ≠ k
  once : requests.Nodup
  remaining : after.listenerList = before.listenerList.filter fun l => !removed l
  flags : ∀ l ∈ before.listenerList, l.isDeleting ∈ after.deleting ↔ removed l = true
  ordered : requests.Pairwise fun j k => j.slotId ≤ k.slotId
  /-- The last failure of the requests, in their order. -/
  reported : result = lastFailure .telephonySuccess (requests.map answer)
  success : result = .telephonySuccess ↔ ∀ k ∈ requests, answer k = .telephonySuccess

theorem removeListeners_contract {handler : EventListenerHandler} (hflags : handler.OwnFlags)
    (answer : Pair → ClientCode) (removed : EventListener → Bool) :
    let r := removeListeners P (recordingManager answer) removed (handler, [])
    RemovalContract answer removed handler r.1.1 r.1.2 r.2 := by
  intro r
  have hr : r = _ := removeListeners_recording answer removed handler
  rw [hr]
  refine ⟨?_, (sharing P).nodup_orphans removed _, rfl, fun l hl => hflags.flagged_iff hl, ?_, rfl,
    ?_⟩
  · intro k
    rw [(sharing P).mem_orphans_iff]
    simp only [List.mem_filter, and_assoc]
    rfl
  · refine ((sharing P).pairwise_orphans Pair.before_total (fun _ _ _ => Pair.before_trans)
      removed _).imp ?_
    exact fun h => Pair.slotId_le_of_before h
  · rw [lastFailure_eq_success_iff, List.forall_mem_map]

/-- **Removals of the JS handler.** Whatever the table is, each of the calls that
remove listeners keeps the other ones in order and sets the flags of those that
it removes. It asks once for every pair that thereby lost its last listener, and
for no other; the two that return a code return the last failure. -/
theorem removal_meets_contract {handler : EventListenerHandler} (hflags : handler.OwnFlags)
    (answer : Pair → ClientCode) {isCallBackRegister : IsCallBackRegister} {call : Call}
    {removed : EventListener → Bool} (hcall : call.onTable isCallBackRegister = .release removed) :
    let input : Input (List Pair) := ⟨recordingManager answer, isCallBackRegister, call⟩
    let after := (machine P).next (handler, []) input
    ∃ result, RemovalContract answer removed handler after.1 after.2 result ∧
      (machine P).out (handler, []) input = call.offEvent.map fun _ => result := by
  intro input after
  refine ⟨(removeListeners P (recordingManager answer) removed (handler, [])).2, ?_⟩
  have hcontract := removeListeners_contract (P := P) hflags answer removed
  cases call with
  | registerEventListener l => cases hcall
  | unregisterEventListener env eventType ref =>
    cases hcall
    exact ⟨hcontract, rfl⟩
  | unregisterEventListeners env eventType =>
    cases hcall
    exact ⟨hcontract, rfl⟩
  | unRegisterAllListener env =>
    cases hcall
    exact ⟨hcontract, rfl⟩

/-- Two environments listen to one pair; the one that leaves has one on another slot. -/
theorem removal_of_one_environment :
    let handler : EventListenerHandler := ⟨[⟨1, .event .simState, 0, 2, 3⟩,
      ⟨4, .event .simState, 0, 5, 6⟩, ⟨1, .event .simState, 1, 7, 8⟩], ∅⟩
    let call := Call.unregisterEventListeners 1 (.event .simState)
    let input : Input (List Pair) :=
      ⟨recordingManager fun _ => .telephonyErrIpcConnectStubFail, fun _ => Nat.beq, call⟩
    let after := (machine Platform.dualSim).next (handler, []) input
    after.2 = [⟨1, .event .simState⟩] ∧
      ∃ result, RemovalContract (fun _ => .telephonyErrIpcConnectStubFail)
        (matchesEvent 1 (.event .simState)) handler after.1 after.2 result ∧
        (machine Platform.dualSim).out (handler, []) input = call.offEvent.map fun _ => result := by
  intro handler call input after
  refine ⟨by decide, removal_meets_contract ⟨?_, ?_, ?_⟩ _ rfl⟩
  · decide
  · decide
  · decide

end Napi

namespace Ani

/-- What `unregister` owes: it asks for the removal of each slot that lost its last
listener, and returns an error if one of these removals failed. -/
structure UnregisterContract (P : Platform) (answer : Pair → ClientCode)
    (removed : EventListener → Bool) (listeners kept : List EventListener) (requests : List Pair)
    (result : Int) : Prop where
  requested : ∀ k, k ∈ requests ↔ (sharing P).Orphaned removed listeners k
  once : requests.Nodup
  reported : result ≠ telephonySuccess ↔ ∃ k ∈ requests, answer k ≠ .telephonySuccess
  /-- A slot without a remaining listener has had its removal attempted. -/
  accounted : ∀ l ∈ listeners, (∃ l' ∈ kept, l'.pair = l.pair) ∨ l.pair ∈ requests

private theorem orphans_ordered {eventType : TelephonyUpdateEventType}
    {removed : EventListener → Bool} (hremoved : ∀ l, removed l = true → l.eventType = eventType)
    (listeners : List EventListener) :
    (∀ k ∈ (sharing P).orphans removed listeners, k.eventType = eventType) ∧
      ((sharing P).orphans removed listeners).Pairwise fun j k => j.slotId < k.slotId :=
  Pair.orphans_ordered (sharing P) rfl hremoved listeners

/-- **When the ArkTS register finishes its work.** For every table, event and
callback, `unregister` meets its contract if and only if among the slots that
lose their last listener none but the last has a failing removal. -/
theorem unregister_finishes_iff (N : NapiUtil) (answer : Pair → ClientCode)
    (callbackEq : CallbackEq) (eventType : TelephonyUpdateEventType)
    (callbackRef : Option Pointer) (listeners : List EventListener) :
    let removed := matchesListener callbackEq eventType callbackRef
    let r := unregister P N (recordingManager answer) callbackEq eventType callbackRef
      (listeners, [])
    UnregisterContract P answer removed listeners r.1.1 r.1.2 r.2 ↔
      ∀ j k, (sharing P).Orphaned removed listeners j → (sharing P).Orphaned removed listeners k →
        j.slotId < k.slotId → answer j = .telephonySuccess := by
  intro removed r
  let code := fun k => unRegisterCode N (answer k)
  let orphans := (sharing P).orphans removed listeners
  have hcode (k : Pair) : code k = telephonySuccess ↔ answer k = .telephonySuccess :=
    unRegisterCode_success N (answer k)
  have hrelease := (sharing P).release_recording
    (fun k => registerCode N (answer k) k.eventType) code removed listeners []
  have hr : r = ((listeners.filter fun l => !removed l, (sharing P).asked code orphans),
      lastFailure telephonySuccess (((sharing P).asked code orphans).map code)) := hrelease
  have hnodup : orphans.Nodup := (sharing P).nodup_orphans removed listeners
  have hmem (k : Pair) : k ∈ orphans ↔ (sharing P).Orphaned removed listeners k :=
    (sharing P).mem_orphans
  have hevent (l : EventListener) (hl : removed l = true) : l.eventType = eventType :=
    of_decide_eq_true (Bool.and_eq_true_iff.mp hl).1
  obtain ⟨-, hordered⟩ := orphans_ordered (P := P) hevent listeners
  have hall := (sharing P).asked_eq_iff_of_stops code rfl (fun _ _ => lt_asymm) hordered
  have hcondition : (sharing P).asked code orphans = orphans ↔
      ∀ j k, (sharing P).Orphaned removed listeners j →
        (sharing P).Orphaned removed listeners k → j.slotId < k.slotId →
          answer j = .telephonySuccess := by
    rw [hall]
    constructor
    · intro h j k hj hk hlt
      exact (hcode j).mp (h j ((hmem j).mpr hj) k ((hmem k).mpr hk) hlt)
    · intro h j hj k hk hlt
      exact (hcode j).mpr (h j k ((hmem j).mp hj) ((hmem k).mp hk) hlt)
  rw [hr, ← hcondition]
  constructor
  · intro h
    rw [(sharing P).asked_eq_iff code hnodup]
    exact fun k hk => (h.requested k).mpr ((hmem k).mp hk)
  · intro h
    rw [h]
    refine ⟨hmem, hnodup, ?_, ?_⟩
    · rw [ne_eq, lastFailure_eq_success_iff, List.forall_mem_map, not_forall₂]
      simp only [hcode, exists_prop]
    · intro l hl
      by_cases hkept : ∃ l' ∈ listeners.filter (fun l => !removed l), l'.pair = l.pair
      · exact Or.inl hkept
      · refine Or.inr ((hmem _).mpr ⟨⟨l, hl, rfl⟩, ?_⟩)
        intro d hd hpair
        by_contra hnot
        refine hkept ⟨d, List.mem_filter.mpr ⟨hd, ?_⟩, hpair⟩
        rw [Bool.not_eq_true] at hnot
        rw [hnot, Bool.not_false]

/-- The removal of the lower of two slots fails: the other one is not attempted, and
stays registered without a listener. -/
theorem removal_after_failure_skipped :
    let listeners : List EventListener := [⟨.event .simState, 0, 1⟩, ⟨.event .simState, 1, 2⟩]
    let answer : Pair → ClientCode := fun k =>
      if k.slotId = 0 then .telephonyErrIpcConnectStubFail else .telephonySuccess
    let r := unregister Platform.dualSim .unspecific (recordingManager answer) Nat.beq
      (.event .simState) none (listeners, [])
    r.1 = ([], [⟨0, .event .simState⟩]) ∧
      ¬UnregisterContract Platform.dualSim answer
        (matchesListener Nat.beq (.event .simState) none) listeners r.1.1 r.1.2 r.2 := by
  intro listeners answer r
  have hr : r.1 = ([], [⟨0, .event .simState⟩]) := by decide
  refine ⟨hr, ?_⟩
  intro h
  have hskipped := h.accounted ⟨.event .simState, 1, 2⟩ (by decide)
  rw [hr] at hskipped
  revert hskipped
  decide

end Ani

end TelephonyStateRegistry
