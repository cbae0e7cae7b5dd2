import TelephonyStateRegistry.Client.Napi
import TelephonyStateRegistry.Client.ObserverClient

/-!
# From a callback to the work items of the JS listeners

`NapiTelephonyObserver` turns each callback into one event for the thread of the
handler. There the event is compared with every listener of the table, and a
work item with a copy of the listener is queued on its environment.
-/

namespace TelephonyStateRegistry

open Reactive

variable {P : Platform}

namespace Napi

/-- `TelephonyCallbackEventId`. -/
inductive TelephonyCallbackEventId
  | eventOnCallStateUpdate
  | eventOnSignalInfoUpdate
  | eventOnCellInfomationUpdate
  | eventOnNetworkStateUpdate
  | eventOnSimStateUpdate
  | eventOnCellularDataConnectionUpdate
  | eventOnCellularDataFlowUpdate
  | eventOnCfuIndicatorUpdate
  | eventOnVoiceMailMsgIndicatorUpdate
  | eventOnIccAccountUpdate
  | eventOnCallStateExUpdate
  | eventOnCcallStateUpdate
  | eventOnSimActiveStateUpdate
  | eventOnVoipCallStateUpdate
  deriving DecidableEq, Repr

/-- An update info: its slot, and the callback that supplies the other values. -/
structure UpdateInfo (P : Platform) where
  slotId : Int
  callback : Callback P

/-- `InnerEvent`. -/
structure InnerEvent (P : Platform) where
  innerEventId : TelephonyCallbackEventId
  object : Option (UpdateInfo P)

/-- The event that `NapiTelephonyObserver` sends for a callback. -/
def sendEvent : Callback P → InnerEvent P
  | .onCallStateUpdated slotId callState phoneNumber =>
    ⟨.eventOnCallStateUpdate, some ⟨slotId, .onCallStateUpdated slotId callState phoneNumber⟩⟩
  | .onCallStateUpdatedEx slotId callStateEx =>
    ⟨.eventOnCallStateExUpdate, some ⟨slotId, .onCallStateUpdatedEx slotId callStateEx⟩⟩
  | .onCCallStateUpdated slotId callState phoneNumber =>
    ⟨.eventOnCcallStateUpdate, some ⟨slotId, .onCCallStateUpdated slotId callState phoneNumber⟩⟩
  | .onSignalInfoUpdated slotId signalInfoList =>
    ⟨.eventOnSignalInfoUpdate, some ⟨slotId, .onSignalInfoUpdated slotId signalInfoList⟩⟩
  | .onCellInfoUpdated slotId vec =>
    ⟨.eventOnCellInfomationUpdate, some ⟨slotId, .onCellInfoUpdated slotId vec⟩⟩
  | .onNetworkStateUpdated slotId networkState =>
    ⟨.eventOnNetworkStateUpdate, some ⟨slotId, .onNetworkStateUpdated slotId networkState⟩⟩
  | .onSimStateUpdated slotId type state reason =>
    ⟨.eventOnSimStateUpdate, some ⟨slotId, .onSimStateUpdated slotId type state reason⟩⟩
  | .onCellularDataConnectStateUpdated slotId dataState networkType =>
    ⟨.eventOnCellularDataConnectionUpdate,
      some ⟨slotId, .onCellularDataConnectStateUpdated slotId dataState networkType⟩⟩
  | .onCellularDataFlowUpdated slotId dataFlowType =>
    ⟨.eventOnCellularDataFlowUpdate,
      some ⟨slotId, .onCellularDataFlowUpdated slotId dataFlowType⟩⟩
  | .onCfuIndicatorUpdated slotId cfuResult =>
    ⟨.eventOnCfuIndicatorUpdate, some ⟨slotId, .onCfuIndicatorUpdated slotId cfuResult⟩⟩
  | .onVoiceMailMsgIndicatorUpdated slotId voiceMailMsgResult =>
    ⟨.eventOnVoiceMailMsgIndicatorUpdate,
      some ⟨slotId, .onVoiceMailMsgIndicatorUpdated slotId voiceMailMsgResult⟩⟩
  | .onIccAccountUpdated => ⟨.eventOnIccAccountUpdate, none⟩
  | .onSimActiveStateUpdated slotId enable =>
    ⟨.eventOnSimActiveStateUpdate, some ⟨slotId, .onSimActiveStateUpdated slotId enable⟩⟩
  | .onVoIPStateUpdated info =>
    ⟨.eventOnVoipCallStateUpdate, some ⟨-1, .onVoIPStateUpdated info⟩⟩

/-- The two functions that handle events. -/
inductive HandleFunc
  | handleCallbackInfoUpdate (eventType : TelephonyUpdateEventType)
  | handleCallbackVoidUpdate (eventType : TelephonyUpdateEventType)
  deriving DecidableEq, Repr

/-- `handleFuncMap_`. -/
def handleFuncMap : TelephonyCallbackEventId → HandleFunc
  | .eventOnCallStateUpdate => .handleCallbackInfoUpdate (.event .callState)
  | .eventOnSignalInfoUpdate => .handleCallbackInfoUpdate (.event .signalStrengths)
  | .eventOnCellInfomationUpdate => .handleCallbackInfoUpdate (.event .cellInfo)
  | .eventOnNetworkStateUpdate => .handleCallbackInfoUpdate (.event .networkState)
  | .eventOnSimStateUpdate => .handleCallbackInfoUpdate (.event .simState)
  | .eventOnCellularDataConnectionUpdate => .handleCallbackInfoUpdate (.event .dataConnectionState)
  | .eventOnCellularDataFlowUpdate => .handleCallbackInfoUpdate (.event .dataFlow)
  | .eventOnCfuIndicatorUpdate => .handleCallbackInfoUpdate (.event .cfuIndicator)
  | .eventOnVoiceMailMsgIndicatorUpdate =>
    .handleCallbackInfoUpdate (.event .voiceMailMsgIndicator)
  | .eventOnIccAccountUpdate => .handleCallbackVoidUpdate (.event .iccAccount)
  | .eventOnCallStateExUpdate => .handleCallbackInfoUpdate (.event .callStateEx)
  | .eventOnCcallStateUpdate => .handleCallbackInfoUpdate (.event .ccallState)
  | .eventOnSimActiveStateUpdate => .handleCallbackInfoUpdate (.event .simActiveState)
  | .eventOnVoipCallStateUpdate => .handleCallbackInfoUpdate (.event .voipCallState)

/-- `ENABLE_ON_DEFAULT_DATA_EVENT_SET`. -/
def enableOnDefaultDataEventSet : List TelephonyUpdateEventType :=
  [.event .dataConnectionState, .event .dataFlow]

/-- `IsNeedHandleCallbackUpdate`, with the answer of `GetDefaultCellularDataSlotId`. -/
def isNeedHandleCallbackUpdate (defaultSlotId : Int)
    (eventType curEventType : TelephonyUpdateEventType) (eventSlotId curSlotId : Int) : Bool :=
  if eventType ≠ curEventType then false
  else if eventSlotId = curSlotId then true
  else if eventType ∈ enableOnDefaultDataEventSet ∧
      eventSlotId = simSlotIdForDefaultConnEvent then
    if curSlotId = defaultSlotId then true else false
  else false

/-- What the process answers while a listener is looked at. -/
structure Attempt where
  /-- `GetDefaultCellularDataSlotId`. -/
  defaultCellularDataSlotId : Int
  /-- `InitLoop`. -/
  initLoop : Bool
  /-- Whether the context can be made. -/
  makeContext : Bool
  /-- Whether the work can be made. -/
  makeWork : Bool
  /-- `uv_queue_work_with_qos`. -/
  queueWork : Int

/-- The data of a queued work: a copy of the listener, and the info. -/
structure WorkItem (P : Platform) where
  listener : EventListener
  info : Option (UpdateInfo P)

/-- The loop over the table: listeners that need the event get a work item each,
up to the first failure. -/
def queueWorks (needed : Attempt → EventListener → Bool) (made : Attempt → Bool)
    (info : Option (UpdateInfo P)) :
    (attempts : Nat → Attempt) → List EventListener → List (WorkItem P)
  | _, [] => []
  | attempts, listen :: listeners =>
    if needed (attempts 0) listen = false then
      queueWorks needed made info (fun n => attempts (n + 1)) listeners
    else if made (attempts 0) = false then []
    else if (attempts 0).queueWork ≠ 0 then []
    else ⟨listen, info⟩ ::
      queueWorks needed made info (fun n => attempts (n + 1)) listeners

/-- `HandleCallbackInfoUpdate`. -/
def handleCallbackInfoUpdate (eventType : TelephonyUpdateEventType)
    (object : Option (UpdateInfo P)) (attempts : Nat → Attempt)
    (listenerList : List EventListener) : List (WorkItem P) :=
  match object with
  | none => []
  | some info =>
    queueWorks
      (fun attempt listen => isNeedHandleCallbackUpdate attempt.defaultCellularDataSlotId
        listen.eventType eventType listen.slotId info.slotId)
      (fun attempt => attempt.initLoop && attempt.makeContext && attempt.makeWork) (some info)
      attempts listenerList

/-- `HandleCallbackVoidUpdate`, which looks at no slot. -/
def handleCallbackVoidUpdate (eventType : TelephonyUpdateEventType) (attempts : Nat → Attempt)
    (listenerList : List EventListener) : List (WorkItem P) :=
  queueWorks (fun _ listen => listen.eventType = eventType)
    (fun attempt => attempt.initLoop && attempt.makeWork) none attempts listenerList

/-- `ProcessEvent`. -/
def processEvent (event : InnerEvent P) (attempts : Nat → Attempt)
    (listenerList : List EventListener) : List (WorkItem P) :=
  match handleFuncMap event.innerEventId with
  | .handleCallbackInfoUpdate eventType =>
    handleCallbackInfoUpdate eventType event.object attempts listenerList
  | .handleCallbackVoidUpdate eventType => handleCallbackVoidUpdate eventType attempts listenerList

/-- The events of a thread, one after the other. -/
def processEvents (listenerList : List EventListener) :
    (attempts : Nat → Nat → Attempt) → List (InnerEvent P) → List (WorkItem P)
  | _, [] => []
  | attempts, event :: events =>
    processEvent event (attempts 0) listenerList ++
      processEvents listenerList (fun n => attempts (n + 1)) events

/-- The work items that an update queues in a process: the service makes one
callback for each matching record, and each is one event there. -/
def workItems (process : Process) (listenerList : List EventListener)
    (attempts : Nat → Nat → Attempt) (ds : List (Delivery P)) : List (WorkItem P) :=
  let own := ds.filter fun d =>
    d.record.tokenId = process.tokenId ∧ d.record.pid = process.pid
  processEvents listenerList attempts (own.map fun d => sendEvent d.callback)

/-! ## How often a listener is served -/

/-- An event can be for a listener, if the default slot is the slot of the event. -/
def InnerEvent.mayServe (event : InnerEvent P) (listener : EventListener) : Bool :=
  match handleFuncMap event.innerEventId with
  | .handleCallbackInfoUpdate eventType => event.object.any fun info =>
    isNeedHandleCallbackUpdate info.slotId listener.eventType eventType listener.slotId info.slotId
  | .handleCallbackVoidUpdate eventType => listener.eventType = eventType

/-- Whether a listener needs an event. -/
def InnerEvent.needs (event : InnerEvent P) (attempt : Attempt) (listen : EventListener) : Bool :=
  match handleFuncMap event.innerEventId with
  | .handleCallbackInfoUpdate eventType => event.object.any fun info =>
    isNeedHandleCallbackUpdate attempt.defaultCellularDataSlotId listen.eventType eventType
      listen.slotId info.slotId
  | .handleCallbackVoidUpdate eventType => listen.eventType = eventType

/-- Whether the objects for a listener can be made. -/
def InnerEvent.makes (event : InnerEvent P) (attempt : Attempt) : Bool :=
  match handleFuncMap event.innerEventId with
  | .handleCallbackInfoUpdate _ => attempt.initLoop && attempt.makeContext && attempt.makeWork
  | .handleCallbackVoidUpdate _ => attempt.initLoop && attempt.makeWork

/-- What a work item of an event carries. -/
def InnerEvent.info (event : InnerEvent P) : Option (UpdateInfo P) :=
  match handleFuncMap event.innerEventId with
  | .handleCallbackInfoUpdate _ => event.object
  | .handleCallbackVoidUpdate _ => none

/-- Nothing fails at a listener. -/
structure Attempt.Succeeds (attempt : Attempt) : Prop where
  initLoop : attempt.initLoop = true
  makeContext : attempt.makeContext = true
  makeWork : attempt.makeWork = true
  queueWork : attempt.queueWork = 0

/-- An attempt in which nothing fails, with the answer of `GetDefaultCellularDataSlotId`. -/
def Attempt.succeeding (defaultSlotId : Int) : Attempt := ⟨defaultSlotId, true, true, true, 0⟩

theorem isNeedHandleCallbackUpdate_iff {defaultSlotId : Int}
    {eventType curEventType : TelephonyUpdateEventType} {eventSlotId curSlotId : Int} :
    isNeedHandleCallbackUpdate defaultSlotId eventType curEventType eventSlotId curSlotId = true ↔
      eventType = curEventType ∧ (eventSlotId = curSlotId ∨
        (eventType ∈ enableOnDefaultDataEventSet ∧ eventSlotId = simSlotIdForDefaultConnEvent ∧
          curSlotId = defaultSlotId)) := by
  unfold isNeedHandleCallbackUpdate
  split_ifs with htype hslot hset hdefault
  · exact iff_of_false not_false fun h => htype h.1
  · exact iff_of_true rfl ⟨not_not.mp htype, Or.inl hslot⟩
  · exact iff_of_true rfl ⟨not_not.mp htype, Or.inr ⟨hset.1, hset.2, hdefault⟩⟩
  · refine iff_of_false not_false ?_
    rintro ⟨-, h | ⟨-, -, h⟩⟩
    · exact hslot h
    · exact hdefault h
  · refine iff_of_false not_false ?_
    rintro ⟨-, h | ⟨hmem, hsentinel, -⟩⟩
    · exact hslot h
    · exact hset ⟨hmem, hsentinel⟩

theorem isNeedHandleCallbackUpdate_of_default {defaultSlotId : Int}
    {eventType curEventType : TelephonyUpdateEventType} {eventSlotId curSlotId : Int}
    (h : isNeedHandleCallbackUpdate defaultSlotId eventType curEventType eventSlotId curSlotId =
      true) :
    isNeedHandleCallbackUpdate curSlotId eventType curEventType eventSlotId curSlotId = true := by
  rw [isNeedHandleCallbackUpdate_iff] at h ⊢
  exact ⟨h.1, h.2.imp_right fun h => ⟨h.1, h.2.1, rfl⟩⟩

private theorem queueWorks_of_not_needed {needed : Attempt → EventListener → Bool}
    (hneeded : ∀ attempt l, needed attempt l = false) (made : Attempt → Bool)
    (info : Option (UpdateInfo P)) (attempts : Nat → Attempt) (listeners : List EventListener) :
    queueWorks needed made info attempts listeners = [] := by
  induction listeners generalizing attempts with
  | nil => rfl
  | cons l ls ih =>
    rw [queueWorks, if_pos (hneeded _ l)]
    exact ih _

/-- The loop that makes the objects is the one that queues the work items. -/
theorem processEvent_eq (event : InnerEvent P) (attempts : Nat → Attempt)
    (listenerList : List EventListener) :
    processEvent event attempts listenerList =
      queueWorks event.needs event.makes event.info attempts listenerList := by
  unfold processEvent InnerEvent.needs InnerEvent.makes InnerEvent.info
  cases handleFuncMap event.innerEventId with
  | handleCallbackVoidUpdate eventType => rfl
  | handleCallbackInfoUpdate eventType =>
    cases event.object with
    | none => exact (queueWorks_of_not_needed (fun _ _ => rfl) _ none attempts listenerList).symm
    | some info => rfl

/-- Every work item of an event carries its info. -/
theorem info_of_mem_processEvent {event : InnerEvent P} {attempts : Nat → Attempt}
    {listenerList : List EventListener} {item : WorkItem P}
    (h : item ∈ processEvent event attempts listenerList) : item.info = event.info := by
  rw [processEvent_eq] at h
  induction listenerList generalizing attempts with
  | nil => exact absurd h List.not_mem_nil
  | cons l ls ih =>
    rw [queueWorks] at h
    split_ifs at h
    · exact ih h
    · exact absurd h List.not_mem_nil
    · exact absurd h List.not_mem_nil
    · rcases List.mem_cons.mp h with rfl | h
      · rfl
      · exact ih h

section Queue

variable {needed : Attempt → EventListener → Bool} {made : Attempt → Bool}
  {info : Option (UpdateInfo P)} {listeners : List EventListener}

private theorem queueWorks_sublist {p : EventListener → Bool}
    (h : ∀ attempt l, needed attempt l = true → p l = true) (attempts : Nat → Attempt) :
    ((queueWorks needed made info attempts listeners).map WorkItem.listener).Sublist
      (listeners.filter p) := by
  induction listeners generalizing attempts with
  | nil => exact List.Sublist.slnil
  | cons l ls ih =>
    rw [queueWorks]
    cases hneeded : needed (attempts 0) l with
    | false =>
      rw [if_pos rfl]
      refine (ih _).trans ?_
      exact (List.sublist_cons_self l ls).filter p
    | true =>
      rw [if_neg (nofun), List.filter_cons_of_pos (h _ l hneeded)]
      split_ifs
      · exact List.nil_sublist _
      · exact List.nil_sublist _
      · exact (ih _).cons_cons l

private theorem queueWorks_cons {attempts : Nat → Attempt} (hmade : made (attempts 0) = true)
    (hqueue : (attempts 0).queueWork = 0) (l : EventListener) (ls : List EventListener) :
    queueWorks needed made info attempts (l :: ls) =
      (if needed (attempts 0) l = true then [⟨l, info⟩] else []) ++
        queueWorks needed made info (fun n => attempts (n + 1)) ls := by
  rw [queueWorks, hmade]
  cases needed (attempts 0) l with
  | false => rfl
  | true => exact if_neg (not_not.mpr hqueue)

private theorem queueWorks_part {attempt : Attempt} (hmade : made attempt = true)
    (hqueue : attempt.queueWork = 0) (p : EventListener → Bool) :
    queueWorks needed made info (fun _ => attempt) (listeners.filter p) =
      (queueWorks needed made info (fun _ => attempt) listeners).filter
        fun item => p item.listener := by
  induction listeners with
  | nil => rfl
  | cons l ls ih =>
    rw [queueWorks_cons hmade hqueue, List.filter_append, ← ih, List.filter_cons]
    cases hp : p l with
    | true =>
      rw [if_pos rfl, queueWorks_cons hmade hqueue]
      cases needed attempt l <;> simp [hp]
    | false => cases needed attempt l <;> simp [hp]

private theorem queueWorks_of_succeeding {attempt : Attempt} (hmade : made attempt = true)
    (hqueue : attempt.queueWork = 0) :
    (queueWorks needed made info (fun _ => attempt) listeners).map WorkItem.listener =
      listeners.filter (needed attempt) := by
  induction listeners with
  | nil => rfl
  | cons l ls ih =>
    rw [queueWorks_cons hmade hqueue, List.map_append, ih, List.filter_cons]
    cases needed attempt l <;> rfl

private theorem queueWorks_filter (hmade : ∀ attempt : Attempt, attempt.Succeeds →
      made attempt = true) {attempts : Nat → Attempt} (hattempts : ∀ i, (attempts i).Succeeds)
    (hnodup : listeners.Nodup) {listener : EventListener} (hl : listener ∈ listeners) {b : Bool}
    (hneeded : ∀ attempt, needed attempt listener = b) :
    (queueWorks needed made info attempts listeners).filter
        (fun item => item.listener = listener) =
      if b = true then [⟨listener, info⟩] else [] := by
  have habsent (attempts : Nat → Attempt) (ls : List EventListener) (h : listener ∉ ls) :
      (queueWorks needed made info attempts ls).filter (fun item => item.listener = listener) =
        [] := by
    refine List.filter_eq_nil_iff.mpr ?_
    intro item hitem hlistener
    have hmem := (queueWorks_sublist (p := fun _ => true) (fun _ _ _ => rfl) attempts).subset
      (List.mem_map_of_mem (f := WorkItem.listener) hitem)
    exact h (of_decide_eq_true hlistener ▸ (List.mem_filter.mp hmem).1)
  induction listeners generalizing attempts with
  | nil => exact absurd hl List.not_mem_nil
  | cons l ls ih =>
    obtain ⟨hnotin, hls⟩ := List.nodup_cons.mp hnodup
    rw [queueWorks_cons (hmade _ (hattempts 0)) (hattempts 0).queueWork, List.filter_append]
    rcases List.mem_cons.mp hl with rfl | hmem
    · rw [hneeded, habsent _ ls hnotin, List.append_nil]
      cases b <;> simp
    · have hne : l ≠ listener := fun h => hnotin (h ▸ hmem)
      rw [ih (fun i => hattempts (i + 1)) hls hmem]
      cases needed (attempts 0) l <;> simp [hne]

end Queue

variable {listenerList : List EventListener}

/-- An event serves listeners of the table only, and those it may be for. -/
theorem processEvent_sublist (event : InnerEvent P) (attempts : Nat → Attempt) :
    ((processEvent event attempts listenerList).map WorkItem.listener).Sublist
      (listenerList.filter event.mayServe) := by
  unfold processEvent InnerEvent.mayServe
  cases handleFuncMap event.innerEventId with
  | handleCallbackVoidUpdate eventType =>
    exact queueWorks_sublist (p := fun l => decide (l.eventType = eventType)) (fun _ _ h => h)
      attempts
  | handleCallbackInfoUpdate eventType =>
    cases event.object with
    | none => exact List.nil_sublist _
    | some info =>
      exact queueWorks_sublist (fun _ _ h => isNeedHandleCallbackUpdate_of_default h) attempts

private theorem processEvent_of_succeeding {event : InnerEvent P} {slotId : Int}
    (h : ∀ info, event.object = some info → info.slotId = slotId) :
    (processEvent event (fun _ => .succeeding slotId) listenerList).map WorkItem.listener =
      listenerList.filter event.mayServe := by
  unfold processEvent InnerEvent.mayServe
  cases handleFuncMap event.innerEventId with
  | handleCallbackVoidUpdate eventType => exact queueWorks_of_succeeding rfl rfl
  | handleCallbackInfoUpdate eventType =>
    cases hobject : event.object with
    | none =>
      have hnone : listenerList.filter (fun _ => false) = [] :=
        List.filter_eq_nil_iff.mpr fun _ _ => Bool.false_ne_true
      exact hnone.symm
    | some info =>
      rw [← h info hobject]
      exact queueWorks_of_succeeding rfl rfl

/-- If nothing fails, the listeners of a part of the table get the work items that they
get in the whole one. -/
theorem processEvent_part (event : InnerEvent P) (slotId : Int) (p : EventListener → Bool) :
    processEvent event (fun _ => .succeeding slotId) (listenerList.filter p) =
      (processEvent event (fun _ => .succeeding slotId) listenerList).filter
        fun item => p item.listener := by
  unfold processEvent
  cases handleFuncMap event.innerEventId with
  | handleCallbackVoidUpdate eventType => exact queueWorks_part rfl rfl p
  | handleCallbackInfoUpdate eventType =>
    cases hobject : event.object with
    | none => rfl
    | some info => exact queueWorks_part rfl rfl p

/-- A listener gets at most one work item from each event that may be for it. -/
theorem count_processEvents_le (hnodup : listenerList.Nodup) (listener : EventListener)
    (attempts : Nat → Nat → Attempt) (events : List (InnerEvent P)) :
    ((processEvents listenerList attempts events).map WorkItem.listener).count listener ≤
      events.countP fun event => event.mayServe listener := by
  induction events generalizing attempts with
  | nil => exact Nat.le_refl 0
  | cons event events ih =>
    rw [processEvents, List.map_append, List.count_append, List.countP_cons, Nat.add_comm]
    refine Nat.add_le_add (ih _) ?_
    refine ((processEvent_sublist event (attempts 0)).count_le listener).trans ?_
    split
    · exact List.nodup_iff_count_le_one.mp (hnodup.filter _) listener
    · rename_i hserve
      refine Nat.le_of_eq (List.count_eq_zero.mpr ?_)
      exact fun hmem => hserve (List.mem_filter.mp hmem).2

/-- If nothing fails and the default slot is that of the events, a listener gets
one work item from each event that may be for it. -/
theorem count_processEvents_of_succeeding (hnodup : listenerList.Nodup)
    {listener : EventListener} (hl : listener ∈ listenerList) {slotId : Int}
    {events : List (InnerEvent P)}
    (h : ∀ event ∈ events, ∀ info, event.object = some info → info.slotId = slotId) :
    ((processEvents listenerList (fun _ _ => .succeeding slotId) events).map
        WorkItem.listener).count listener =
      events.countP fun event => event.mayServe listener := by
  induction events with
  | nil => rfl
  | cons event events ih =>
    obtain ⟨hevent, hevents⟩ := List.forall_mem_cons.mp h
    rw [processEvents, List.map_append, List.count_append, List.countP_cons, Nat.add_comm,
      ih hevents, processEvent_of_succeeding hevent]
    congr 1
    split
    · rename_i hserve
      rw [List.count_filter hserve]
      exact List.count_eq_one_of_mem hnodup hl
    · rename_i hserve
      refine List.count_eq_zero.mpr ?_
      exact fun hmem => hserve (List.mem_filter.mp hmem).2

private theorem isNeedHandleCallbackUpdate_of_slot {defaultSlotId : Int}
    {eventType curEventType : TelephonyUpdateEventType} {eventSlotId curSlotId : Int}
    (h : eventSlotId ≠ simSlotIdForDefaultConnEvent ∨ eventType ∉ enableOnDefaultDataEventSet) :
    isNeedHandleCallbackUpdate defaultSlotId eventType curEventType eventSlotId curSlotId =
      isNeedHandleCallbackUpdate curSlotId eventType curEventType eventSlotId curSlotId := by
  refine Bool.eq_iff_iff.mpr ⟨isNeedHandleCallbackUpdate_of_default, ?_⟩
  simp only [isNeedHandleCallbackUpdate_iff]
  rintro ⟨htype, hslot | ⟨hset, hsentinel, -⟩⟩
  · exact ⟨htype, Or.inl hslot⟩
  · exact absurd hset (h.resolve_left (not_not.mpr hsentinel))

/-- Off that sentinel, an event is for the listeners on its pair. -/
theorem isNeedHandleCallbackUpdate_iff_pair {listener : EventListener}
    (hslot : listener.slotId ≠ simSlotIdForDefaultConnEvent ∨
      listener.eventType ∉ enableOnDefaultDataEventSet) (slotId : Int)
    (eventType : TelephonyUpdateEventType) :
    isNeedHandleCallbackUpdate slotId listener.eventType eventType listener.slotId slotId = true ↔
      listener.pair = ⟨slotId, eventType⟩ := by
  rw [isNeedHandleCallbackUpdate_iff, EventListener.pair, Pair.mk.injEq,
    and_comm (a := listener.slotId = slotId)]
  refine and_congr_right fun _ => or_iff_left ?_
  rintro ⟨hset, hsentinel, -⟩
  exact absurd hset (hslot.resolve_left (not_not.mpr hsentinel))

/-- If nothing fails, an event queues one work for a listener that it may be for. -/
theorem processEvent_filter (event : InnerEvent P) {attempts : Nat → Attempt}
    (hattempts : ∀ i, (attempts i).Succeeds) (hnodup : listenerList.Nodup)
    {listener : EventListener} (hl : listener ∈ listenerList)
    (hslot : listener.slotId ≠ simSlotIdForDefaultConnEvent ∨
      listener.eventType ∉ enableOnDefaultDataEventSet) :
    (processEvent event attempts listenerList).filter (fun item => item.listener = listener) =
      if event.mayServe listener = true then [⟨listener, event.info⟩] else [] := by
  unfold processEvent InnerEvent.mayServe InnerEvent.info
  cases handleFuncMap event.innerEventId with
  | handleCallbackVoidUpdate eventType =>
    refine queueWorks_filter ?_ hattempts hnodup hl fun _ => rfl
    intro attempt h
    rw [h.initLoop, h.makeWork, Bool.and_self]
  | handleCallbackInfoUpdate eventType =>
    cases event.object with
    | none => rfl
    | some info =>
      refine queueWorks_filter ?_ hattempts hnodup hl fun _ =>
        isNeedHandleCallbackUpdate_of_slot hslot
      intro attempt h
      rw [h.initLoop, h.makeContext, h.makeWork, Bool.and_self, Bool.and_self]

end Napi

end TelephonyStateRegistry
