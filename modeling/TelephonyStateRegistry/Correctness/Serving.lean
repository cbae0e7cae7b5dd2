import TelephonyStateRegistry.Client.Threads
import TelephonyStateRegistry.Core.Loops
import TelephonyStateRegistry.Correctness.Subscription

/-!
# Listeners that an event passes over

A listener gets a work item if the loop of the handler reaches it, if the event
is for its slot, and if its environment takes the work. The loop ends at the
first environment that does not, and the events of VoIP calls carry a slot that
their listeners need not have.
-/

namespace TelephonyStateRegistry

open Reactive

variable {P : Platform}

namespace Napi

/-- Whether the work for one listener is made and queued. -/
def InnerEvent.queues (event : InnerEvent P) (attempt : Attempt) : Bool :=
  (match handleFuncMap event.innerEventId with
    | .handleCallbackInfoUpdate _ => attempt.initLoop && attempt.makeContext && attempt.makeWork
    | .handleCallbackVoidUpdate _ => attempt.initLoop && attempt.makeWork) &&
    attempt.queueWork = 0

/-- The listeners of a table, each with its attempt. -/
def attempted (attempts : Nat → Attempt) (listenerList : List EventListener) :
    List (Attempt × EventListener) :=
  listenerList.mapIdx fun i listen => (attempts i, listen)

/-- What a listener should get from an event, whatever happens at the others. -/
def InnerEvent.own (event : InnerEvent P) (visit : Attempt × EventListener) :
    Option (WorkItem P) :=
  if event.needs visit.1 visit.2 = true ∧ event.queues visit.1 = true then
    some ⟨visit.2, event.info⟩
  else none

/-- The body of the loop over the table. -/
private def InnerEvent.visit (event : InnerEvent P) (visit : Attempt × EventListener) :
    Visit (WorkItem P) :=
  if event.needs visit.1 visit.2 = false then .skip
  else if event.queues visit.1 = false then .fail
  else .serve ⟨visit.2, event.info⟩

private theorem InnerEvent.visit_served (event : InnerEvent P) (visit : Attempt × EventListener) :
    (event.visit visit).served = event.own visit := by
  rw [InnerEvent.visit, InnerEvent.own]
  cases event.needs visit.1 visit.2 <;> cases event.queues visit.1 <;> rfl

private theorem InnerEvent.visit_fail_iff (event : InnerEvent P)
    (visit : Attempt × EventListener) :
    event.visit visit = .fail ↔
      event.needs visit.1 visit.2 = true ∧ event.queues visit.1 = false := by
  rw [InnerEvent.visit]
  cases event.needs visit.1 visit.2 <;> cases event.queues visit.1 <;>
    simp only [Bool.true_eq_false, if_true, if_false, reduceCtorEq, and_self, and_false, false_and]

private theorem queueWorks_eq_untilFailure {needed : Attempt → EventListener → Bool}
    {made : Attempt → Bool} {event : InnerEvent P}
    (hneeded : ∀ attempt listen, event.needs attempt listen = needed attempt listen)
    (hmade : ∀ attempt, event.queues attempt = (made attempt && attempt.queueWork = 0))
    (attempts : Nat → Attempt) (listenerList : List EventListener) :
    queueWorks needed made event.info attempts listenerList =
      untilFailure event.visit (attempted attempts listenerList) := by
  induction listenerList generalizing attempts with
  | nil => rfl
  | cons l ls ih =>
    rw [queueWorks, attempted, List.mapIdx_cons, untilFailure, InnerEvent.visit, hneeded, hmade]
    have hls := ih fun n => attempts (n + 1)
    rw [attempted] at hls
    cases needed (attempts 0) l with
    | false => exact hls
    | true =>
      cases made (attempts 0) with
      | false => rfl
      | true =>
        by_cases hqueue : (attempts 0).queueWork = 0
        · simp [hqueue, hls]
        · simp [hqueue]

private theorem untilFailure_of_not_needed {event : InnerEvent P}
    (h : ∀ attempt listen, event.needs attempt listen = false)
    (visits : List (Attempt × EventListener)) : untilFailure event.visit visits = [] := by
  induction visits with
  | nil => rfl
  | cons visit visits ih =>
    rw [untilFailure, InnerEvent.visit, if_pos (h visit.1 visit.2)]
    exact ih

private theorem processEvent_eq_untilFailure (event : InnerEvent P) (attempts : Nat → Attempt)
    (listenerList : List EventListener) :
    processEvent event attempts listenerList =
      untilFailure event.visit (attempted attempts listenerList) := by
  cases hfunc : handleFuncMap event.innerEventId with
  | handleCallbackVoidUpdate eventType =>
    have hinfo : event.info = none := by
      rw [InnerEvent.info, hfunc]
    have hevent : processEvent event attempts listenerList =
        handleCallbackVoidUpdate eventType attempts listenerList := by
      rw [processEvent, hfunc]
    rw [hevent, handleCallbackVoidUpdate, ← hinfo]
    apply queueWorks_eq_untilFailure
    · intro attempt listen
      rw [InnerEvent.needs, hfunc]
    · intro attempt
      rw [InnerEvent.queues, hfunc]
  | handleCallbackInfoUpdate eventType =>
    have hevent : processEvent event attempts listenerList =
        handleCallbackInfoUpdate eventType event.object attempts listenerList := by
      rw [processEvent, hfunc]
    cases hobject : event.object with
    | none =>
      rw [hevent, hobject, handleCallbackInfoUpdate]
      refine (untilFailure_of_not_needed ?_ _).symm
      intro attempt listen
      rw [InnerEvent.needs, hfunc, hobject]
      rfl
    | some info =>
      have hinfo : event.info = some info := by
        rw [InnerEvent.info, hfunc, hobject]
      rw [hevent, hobject, handleCallbackInfoUpdate, ← hinfo]
      apply queueWorks_eq_untilFailure
      · intro attempt listen
        rw [InnerEvent.needs, hfunc, hobject]
        rfl
      · intro attempt
        rw [InnerEvent.queues, hfunc]

/-- **Who is starved by a failing environment.** The handler queues the work of
every listener that needs an event and whose own attempt succeeds, exactly if no
needed listener whose attempt fails stands before such a one in the table. -/
theorem healthy_listeners_served_iff (event : InnerEvent P) (attempts : Nat → Attempt)
    (listenerList : List EventListener) :
    processEvent event attempts listenerList =
        (attempted attempts listenerList).filterMap event.own ↔
      (attempted attempts listenerList).Pairwise fun before behind =>
        event.needs before.1 before.2 = true → event.queues before.1 = false →
          event.needs behind.1 behind.2 = true → event.queues behind.1 = false := by
  have hown : (fun visit => (event.visit visit).served) = event.own := by
    funext visit
    exact event.visit_served visit
  rw [processEvent_eq_untilFailure, ← hown, untilFailure_eq_iff]
  refine List.Pairwise.iff ?_
  intro before behind
  rw [event.visit_fail_iff, event.visit_served, InnerEvent.own, and_imp]
  refine imp_congr_right fun _ => imp_congr_right fun _ => ?_
  cases event.needs behind.1 behind.2 <;> cases event.queues behind.1 <;> simp

/-- An environment that is being torn down has no loop, and the listener of the
next environment gets nothing. -/
theorem listener_starved :
    let event : InnerEvent Platform.dualSim := sendEvent (.onCellularDataFlowUpdated 0 3)
    let attempts : Nat → Attempt := fun n =>
      if n = 0 then { Attempt.succeeding 0 with initLoop := false } else .succeeding 0
    let listenerList : List EventListener :=
      [⟨1, .event .dataFlow, 0, 2, 3⟩, ⟨2, .event .dataFlow, 0, 4, 5⟩]
    processEvent event attempts listenerList = [] ∧
      ((attempted attempts listenerList).filterMap event.own).map WorkItem.listener =
        [⟨2, .event .dataFlow, 0, 4, 5⟩] :=
  ⟨rfl, rfl⟩

private theorem InnerEvent.queues_of_succeeds (event : InnerEvent P) {attempt : Attempt}
    (h : attempt.Succeeds) : event.queues attempt = true := by
  rw [InnerEvent.queues, h.initLoop, h.makeContext, h.makeWork, h.queueWork]
  cases handleFuncMap event.innerEventId <;> rfl

/-- If nothing fails, an event queues what each listener should get. -/
theorem mem_processEvent {event : InnerEvent P} {attempts : Nat → Attempt}
    (h : ∀ i, (attempts i).Succeeds) {listenerList : List EventListener} {item : WorkItem P} :
    item ∈ processEvent event attempts listenerList ↔
      ∃ i, ∃ hi : i < listenerList.length,
        event.needs (attempts i) listenerList[i] = true ∧
          item = ⟨listenerList[i], event.info⟩ := by
  have hall : processEvent event attempts listenerList =
      (attempted attempts listenerList).filterMap fun visit => (event.visit visit).served := by
    rw [processEvent_eq_untilFailure, untilFailure_eq_iff]
    apply List.pairwise_of_forall_mem_list
    intro before hbefore behind _ hfail
    obtain ⟨i, hi, rfl⟩ := List.mem_mapIdx.mp hbefore
    have hqueues := event.queues_of_succeeds (h i)
    rw [(event.visit_fail_iff _).mp hfail |>.2] at hqueues
    cases hqueues
  rw [hall, List.mem_filterMap]
  constructor
  · rintro ⟨visit, hvisit, hserved⟩
    obtain ⟨i, hi, rfl⟩ := List.mem_mapIdx.mp hvisit
    rw [event.visit_served] at hserved
    obtain ⟨⟨hneeds, -⟩, hitem⟩ := Option.ite_none_right_eq_some.mp hserved
    exact ⟨i, hi, hneeds, (Option.some.inj hitem).symm⟩
  · rintro ⟨i, hi, hneeds, rfl⟩
    refine ⟨_, List.mem_mapIdx.mpr ⟨i, hi, rfl⟩, ?_⟩
    rw [event.visit_served]
    exact if_pos ⟨hneeds, event.queues_of_succeeds (h i)⟩

private theorem mem_processEvents {listenerList : List EventListener}
    {attempts : Nat → Nat → Attempt} {events : List (InnerEvent P)} {item : WorkItem P} :
    item ∈ processEvents listenerList attempts events ↔
      ∃ n, ∃ hn : n < events.length, item ∈ processEvent events[n] (attempts n) listenerList := by
  induction events generalizing attempts with
  | nil =>
    refine iff_of_false List.not_mem_nil ?_
    rintro ⟨n, hn, -⟩
    exact absurd hn (Nat.not_lt_zero n)
  | cons event events ih =>
    rw [processEvents, List.mem_append, ih]
    constructor
    · rintro (h | ⟨n, hn, h⟩)
      · exact ⟨0, Nat.succ_pos _, h⟩
      · exact ⟨n + 1, Nat.succ_lt_succ hn, h⟩
    · rintro ⟨n, hn, h⟩
      cases n with
      | zero => exact Or.inl h
      | succ n => exact Or.inr ⟨n, Nat.lt_of_succ_lt_succ hn, h⟩

end Napi

variable {process : Process} {table : List Napi.EventListener} {s : Service P} {env : Env}

private theorem mem_voip_deliveries {info : VoIPCallStateInfo}
    (hacc : (Update.voipCallState info : Update P).accepted env) {d : Delivery P} :
    d ∈ ((Update.voipCallState info).function.run env s).2.deliveries ↔
      d.record ∈ s.stateRecords ∧ (d.record.listensTo P .voipCallState = true ∧
        d.record.canManageCallForDevices env = true) ∧
          d.callback = .onVoIPStateUpdated info := by
  rw [Update.run_of_accepted hacc]
  refine mem_deliveriesOf.trans (and_congr_right fun _ => ?_)
  rw [Update.live, Option.ite_none_right_eq_some, Option.some.injEq, eq_comm (b := d.callback)]

private theorem voip_needs_iff {info : VoIPCallStateInfo} {attempt : Napi.Attempt}
    {l : Napi.EventListener} :
    (Napi.sendEvent (.onVoIPStateUpdated info : Callback P)).needs attempt l = true ↔
      l.eventType = .event .voipCallState ∧ l.slotId = -1 := by
  change Napi.isNeedHandleCallbackUpdate _ _ _ _ _ = true ↔ _
  rw [Napi.isNeedHandleCallbackUpdate_iff]
  refine and_congr_right fun hevent => ?_
  have hdata : l.eventType ∉ Napi.enableOnDefaultDataEventSet := by
    rw [hevent]
    decide
  exact or_iff_left fun h => hdata h.1

/-- **Which VoIP listeners are served.** A listener with its registration gets
the state of a call, if nothing fails on the way, exactly if it is on the slot
-1: that is the slot that the events of VoIP calls carry. -/
theorem voip_listener_served_iff {info : VoIPCallStateInfo}
    (hacc : (Update.voipCallState info : Update P).accepted env)
    (hmanage : env.verifyAccessToken process.tokenId .manageCallForDevices ≠ .denied)
    {l : Napi.EventListener} (hl : l ∈ table) (hevent : l.eventType = .event .voipCallState)
    {record : Record} (hr : record ∈ s.stateRecords) (hkey : record.key = process.key P l.pair)
    (ho : record.telephonyObserver ≠ none) {attempts : Nat → Nat → Napi.Attempt}
    (hattempts : ∀ n i, (attempts n i).Succeeds) :
    ⟨l, some ⟨-1, .onVoIPStateUpdated info⟩⟩ ∈ Napi.workItems process table attempts
        ((Update.voipCallState info).function.run env s).2.deliveries ↔
      l.slotId = -1 := by
  rw [Napi.workItems, Napi.mem_processEvents]
  constructor
  · rintro ⟨n, hn, hitem⟩
    obtain ⟨d, hd, hsent⟩ := List.mem_map.mp (List.getElem_mem hn)
    obtain ⟨-, -, hcallback⟩ := (mem_voip_deliveries hacc).mp (List.mem_of_mem_filter hd)
    rw [← hsent, hcallback, Napi.mem_processEvent (hattempts n)] at hitem
    obtain ⟨i, hi, hneeds, hitem⟩ := hitem
    have hli : l = table[i] := congrArg Napi.WorkItem.listener hitem
    rw [hli]
    exact (voip_needs_iff.mp hneeds).2
  · intro hslot
    have htoken : record.tokenId = process.tokenId := congrArg Key.tokenId hkey
    have hpid : record.pid = process.pid := congrArg Key.pid hkey
    have hlistens : record.listensTo P .voipCallState = true := by
      have hmask : record.mask = P.mask .voipCallState := by
        have hmask : record.mask = l.eventType.toUint32t P := congrArg Key.mask hkey
        rw [hmask, hevent]
        rfl
      refine Record.listensTo_iff.mpr ⟨ho, ?_⟩
      rw [hmask]
      exact (P.contains_mask _ _).mpr rfl
    have hcan : record.canManageCallForDevices env = true := by
      rw [Record.canManageCallForDevices, htoken, if_neg hmanage]
    let d : Delivery P := ⟨record, .onVoIPStateUpdated info⟩
    have hown : d ∈ (((Update.voipCallState info).function.run env s).2.deliveries).filter
        fun d => d.record.tokenId = process.tokenId ∧ d.record.pid = process.pid :=
      List.mem_filter.mpr ⟨(mem_voip_deliveries hacc).mpr ⟨hr, ⟨hlistens, hcan⟩, rfl⟩,
        decide_eq_true ⟨htoken, hpid⟩⟩
    obtain ⟨n, hn, hsent⟩ := List.getElem_of_mem
      (List.mem_map_of_mem (f := fun d : Delivery P => Napi.sendEvent d.callback) hown)
    refine ⟨n, hn, ?_⟩
    rw [hsent, Napi.mem_processEvent (hattempts n)]
    obtain ⟨i, hi, hli⟩ := List.getElem_of_mem hl
    refine ⟨i, hi, ?_, ?_⟩
    · rw [hli]
      exact voip_needs_iff.mpr ⟨hevent, hslot⟩
    · rw [hli]
      rfl

/-- A process that registers for VoIP calls on a slot. -/
private def voipService (process : Process) (slotId : Int) : Service Platform.dualSim :=
  Service.after Platform.dualSim
    [(.native, .register (process.registration Platform.dualSim 1 ⟨slotId, .event .voipCallState⟩
      false))]

theorem voip_listener_without_slot_served :
    let process : Process := ⟨"app", 1, 1, 1, ""⟩
    let l : Napi.EventListener := ⟨1, .event .voipCallState, -1, 2, 3⟩
    let info : VoIPCallStateInfo := ⟨"app", "contact", 0, 1, true⟩
    ⟨l, some ⟨-1, .onVoIPStateUpdated info⟩⟩ ∈ Napi.workItems process [l]
        (fun _ _ => .succeeding 0)
        ((Update.voipCallState info).function.run Env.native
          (voipService process (-1))).2.deliveries ↔
      l.slotId = -1 := by
  intro process l info
  have hacc : (Update.voipCallState info : Update Platform.dualSim).accepted .native := by decide
  have hmanage : Env.native.verifyAccessToken process.tokenId .manageCallForDevices ≠ .denied := by
    decide
  have hrecords : ((voipService process (-1)).stateRecords.map fun record =>
      (record.key, record.telephonyObserver)) =
        [(process.key Platform.dualSim l.pair, some 1)] := by
    decide
  obtain ⟨record, hr, hrecord⟩ := List.mem_map.mp (hrecords ▸ List.mem_singleton.mpr rfl)
  obtain ⟨hkey, ho⟩ := Prod.mk.inj hrecord
  exact voip_listener_served_iff hacc hmanage (List.mem_singleton.mpr rfl) rfl hr hkey
    (ho ▸ Option.some_ne_none 1) fun _ _ => ⟨rfl, rfl, rfl, rfl⟩

/-- A subscription to VoIP calls on slot 0 is accepted, and gets nothing. -/
theorem voip_listener_on_slot_unserved :
    let process : Process := ⟨"app", 1, 1, 1, ""⟩
    let l : Napi.EventListener := ⟨1, .event .voipCallState, 0, 2, 3⟩
    let info : VoIPCallStateInfo := ⟨"app", "contact", 0, 1, true⟩
    Napi.isValidSlotIdEx Platform.dualSim l.eventType l.slotId = true ∧
      (voipService process 0).stateRecords.map Record.key = [process.key Platform.dualSim l.pair] ∧
      (Update.voipCallState info : Update Platform.dualSim).accepted .native ∧
      Napi.workItems process [l] (fun _ _ => .succeeding 0)
        ((Update.voipCallState info).function.run Env.native
          (voipService process 0)).2.deliveries = [] :=
  ⟨by decide, by decide, by decide, rfl⟩

end TelephonyStateRegistry
