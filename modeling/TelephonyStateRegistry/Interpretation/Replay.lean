import TelephonyStateRegistry.Interpretation.Topic
import TelephonyStateRegistry.Service.Admission

/-!
# Replay shows the cache

A registration that asks for it is answered with one callback for each bit of
its mask, in the fixed order of the blocks. The callback is the one the caches
hold for the topic, with the number blanked for a subscriber without the call
log and an unknown state shown as idle on the call-control callback. Replay
leaves every cached value as it was, although it may add keys.
-/

namespace TelephonyStateRegistry

open Reactive

variable {P : Platform}

/-- What a replay shows a record of a cached callback. -/
def Callback.shown (env : Env) (record : Record) : Callback P → Option (Callback P)
  | onCallStateUpdated slotId state number =>
    some (.onCallStateUpdated slotId state
      (if record.isCanReadCallHistory env then number else []))
  | onCCallStateUpdated slotId state number =>
    if record.canManageCallForDevices env then
      some (.onCCallStateUpdated slotId
        (if state = callStatusUnknown then callStatusIdle else state) number)
    else none
  | callback => some callback

/-- What a replay shows a record for one event. -/
def Caches.replayed (c : Caches P) (env : Env) (record : Record) (m : ObserverMask) :
    Option (Callback P) :=
  (c.cached m record.slotId).bind (Callback.shown env record)

/-- The caches in which every key is present with the value its subscript returns. -/
def Caches.total (c : Caches P) : Caches P where
  cfuResult := c.cfuResult.total
  voiceMailMsgResult := c.voiceMailMsgResult.total
  callState := c.callState.total
  callIncomingNumber := c.callIncomingNumber.total
  signalInfos := c.signalInfos.total
  cellInfos := c.cellInfos.total
  searchNetworkState := c.searchNetworkState.total
  simState := c.simState.total
  cardType := c.cardType.total
  simReason := c.simReason.total
  cellularDataConnectionState := c.cellularDataConnectionState.total
  cellularDataConnectionNetworkType := c.cellularDataConnectionNetworkType.total
  cellularDataFlow := c.cellularDataFlow.total
  simActiveResult := c.simActiveResult.total

/-- The cached callbacks depend only on the values that subscripts return. -/
theorem Caches.cached_total (c : Caches P) (m : ObserverMask) (slotId : Int) :
    c.total.cached m slotId = c.cached m slotId := by
  cases m <;> simp only [cached, total, KeyMap.read_total]

theorem Caches.cached_congr {c c' : Caches P} (h : c.total = c'.total) (m : ObserverMask)
    (slotId : Int) : c.cached m slotId = c'.cached m slotId := by
  rw [← cached_total c, h, cached_total]

@[simp] theorem Caches.total_touchNumber (c : Caches P) (slotId : Int) :
    (c.touchNumber slotId).total = c.total := by
  simp only [touchNumber, total, KeyMap.total_touch]

/-- The exclusive section of an update acts on the values that subscripts return. -/
theorem Update.total_write (u : Update P) (c : Caches P) :
    (u.function.write c).total = u.function.write c.total := by
  cases u <;> simp only [function, updateCellularDataConnectState, updateCellularDataFlow,
    updateCallState, updateCallStateForSlotId, updateSimState, updateSignalInfo, updateCellInfo,
    updateNetworkState, updateCfuIndicator, updateIccAccount, updateVoiceMailMsgIndicator,
    updateSimActiveState, updateVoIPCallState, Caches.total, KeyMap.total_assign]

/-- The shared section of an update keeps every cached value. -/
theorem Update.ReadsOnly.total {u : Update P} {c c' : Caches P} (h : u.ReadsOnly c c') :
    c'.total = c.total := by
  rcases h with rfl | ⟨slotId, _, _, _, rfl⟩
  · rfl
  · exact Caches.total_touchNumber c slotId

/-- One block makes the callback that its record may see, and keeps every cached value. -/
theorem replayBlock_spec (env : Env) (record : Record) (m : ObserverMask) (c : Caches P) :
    (replayBlock env record m c).1 = c.replayed env record m ∧
      (replayBlock env record m c).2.total = c.total := by
  cases m with
  | callState =>
    cases hr : record.isCanReadCallHistory env <;>
      simp [replayBlock, getCallIncomingNumberForSlotId, hr, Caches.replayed, Caches.cached,
        Callback.shown, Caches.total]
  | ccallState =>
    cases hm : record.canManageCallForDevices env <;>
      simp [replayBlock, hm, Caches.replayed, Caches.cached, Callback.shown, Caches.total]
  | _ => simp [replayBlock, Caches.replayed, Caches.cached, Callback.shown, Caches.total]

/-- The blocks make the callbacks of the subscribed events, in order. -/
theorem replayBlocks_spec (env : Env) (record : Record) (ms : List ObserverMask)
    (c : Caches P) :
    (replayBlocks env record ms c).1 =
        (ms.filter (P.contains record.mask)).filterMap (c.replayed env record) ∧
      (replayBlocks env record ms c).2.total = c.total := by
  induction ms generalizing c with
  | nil => exact ⟨rfl, rfl⟩
  | cons m ms ih =>
    rw [replayBlocks]
    by_cases hm : P.contains record.mask m = true
    · rw [if_pos ((P.and_mask_ne_zero _ _).mpr hm)]
      obtain ⟨hcall, hkeep⟩ := replayBlock_spec env record m c
      obtain ⟨hrest, hkeep'⟩ := ih (replayBlock env record m c).2
      have hsame : (replayBlock env record m c).2.replayed env record =
          c.replayed env record := by
        funext m'
        rw [Caches.replayed, Caches.cached_congr hkeep, Caches.replayed]
      refine ⟨?_, hkeep'.trans hkeep⟩
      simp only [hrest, hcall, hsame, List.filter_cons, hm, if_true, List.filterMap_cons]
      cases c.replayed env record m <;> rfl
    · rw [if_neg (mt (P.and_mask_ne_zero _ _).mp hm)]
      rw [List.filter_cons_of_neg hm]
      exact ih c

/-- All bits that a replay looks at, in the order of its blocks. -/
def replayOrder : List ObserverMask := updateDataOrder ++ updateDataExOrder

/-- `UpdateData` replays the subscribed events of a record with an observer, in
the order of its blocks, and keeps every cached value. -/
theorem updateData_spec (env : Env) (record : Record) (c : Caches P) :
    (updateData env record c).1 =
        (replayOrder.filter (record.listensTo P)).filterMap (c.replayed env record) ∧
      (updateData env record c).2.total = c.total := by
  cases ho : record.telephonyObserver with
  | none =>
    have hnone : replayOrder.filter (record.listensTo P) = [] :=
      List.filter_eq_nil_iff.mpr fun m _ => by simp [Record.listensTo, ho]
    rw [hnone]
    simp only [updateData, ho, if_true, List.filterMap_nil, and_self]
  | some o =>
    have hlisten : record.listensTo P = P.contains record.mask := by
      funext m
      simp only [Record.listensTo, ho, Option.isSome_some, Bool.true_and]
    obtain ⟨hfirst, hkeep⟩ := replayBlocks_spec env record updateDataOrder c
    obtain ⟨hrest, hkeep'⟩ := replayBlocks_spec env record updateDataExOrder
      (replayBlocks env record updateDataOrder c).2
    have hsame : (replayBlocks env record updateDataOrder c).2.replayed env record =
        c.replayed env record := by
      funext m
      rw [Caches.replayed, Caches.cached_congr hkeep, Caches.replayed]
    simp only [updateData, updateDataEx, ho, reduceCtorEq, if_false, hlisten, hfirst, hrest,
      hsame, hkeep', hkeep, replayOrder, List.filter_append, List.filterMap_append, and_self]

/-- A shown callback serves the same event and slot as the cached one. -/
theorem Callback.shown_event {env : Env} {record : Record} {callback shown : Callback P}
    (h : callback.shown env record = some shown) :
    shown.event = callback.event ∧ shown.slotId = callback.slotId := by
  cases callback <;> simp only [Callback.shown, Option.some.injEq] at h
  case onCCallStateUpdated slotId state number =>
    split at h
    · cases h
      exact ⟨rfl, rfl⟩
    · contradiction
  all_goals
    subst h
    exact ⟨rfl, rfl⟩

/-- The cached callback of a topic serves its event. -/
theorem Caches.cached_event {c : Caches P} {m : ObserverMask} {slotId : Int}
    {callback : Callback P} (h : c.cached m slotId = some callback) :
    callback.event = m ∧ (m ≠ .iccAccount → callback.slotId = some slotId) := by
  cases m <;> simp only [cached, Option.some.injEq, reduceCtorEq] at h <;> subst h <;>
    simp [Callback.event, Callback.slotId]

/-- A replayed callback serves the event of its block. -/
theorem Caches.replayed_event {c : Caches P} {env : Env} {record : Record} {m : ObserverMask}
    {callback : Callback P} (h : c.replayed env record m = some callback) :
    callback.event = m ∧ (m ≠ .iccAccount → callback.slotId = some record.slotId) := by
  obtain ⟨cached, hcached, hshown⟩ := Option.bind_eq_some_iff.mp h
  obtain ⟨he, hs⟩ := Callback.shown_event hshown
  rw [he, hs]
  exact Caches.cached_event hcached

/-- Outside the call states a replay shows exactly the cached callback. -/
theorem Caches.replayed_of_not_callState {m : ObserverMask} (hm : m.isCallState = false)
    (c : Caches P) (env : Env) (record : Record) :
    c.replayed env record m = c.cached m record.slotId := by
  cases m <;> first | rfl | simp [ObserverMask.isCallState] at hm

/-- The deliveries of an admitted registration. -/
def Registration.replay (env : Env) (r : Registration) (s : Service P) : List (Delivery P) :=
  if r.isUpdate then
    ((replayOrder.filter ((r.subscriber s).listensTo P)).filterMap
      (s.caches.replayed env (r.subscriber s))).map (Delivery.mk (r.subscriber s))
  else []

/-- An admitted registration replays the cache to the record now stored under
its key, and changes no cached value. -/
theorem registerStateChange_replays {env : Env} {r : Registration} (h : r.admitted P env)
    (s : Service P) :
    ∃ c', registerStateChange env r s =
      (⟨c', r.recordsAfter s⟩, ⟨.telephonySuccess, r.replay env s, []⟩) ∧
        c'.total = s.caches.total := by
  rw [registerStateChange_of_admitted h, Registration.replay]
  obtain ⟨hcalls, hkeep⟩ := updateData_spec env (r.subscriber s) s.caches
  cases hu : r.isUpdate
  · exact ⟨s.caches, rfl, rfl⟩
  · refine ⟨_, ?_, hkeep⟩
    simp only [if_true, hcalls]

theorem registerStateChange_deliveries (env : Env) (r : Registration) (s : Service P) :
    (registerStateChange env r s).2.deliveries =
      if r.admitted P env then r.replay env s else [] := by
  by_cases h : r.admitted P env
  · obtain ⟨c', hrun, -⟩ := registerStateChange_replays h s
    rw [hrun, if_pos h]
  · rw [registerStateChange_of_not_admitted h, if_neg h]
    rfl

theorem Registration.mem_replay {env : Env} {r : Registration} {s : Service P}
    {d : Delivery P} :
    d ∈ r.replay env s ↔ r.isUpdate = true ∧ d.record = r.subscriber s ∧
      d.callback.event ∈ replayOrder ∧ d.record.listensTo P d.callback.event = true ∧
        s.caches.replayed env d.record d.callback.event = some d.callback := by
  unfold replay
  cases hu : r.isUpdate
  · simp
  · simp only [if_true, List.mem_map, List.mem_filterMap, List.mem_filter, true_and]
    constructor
    · rintro ⟨callback, ⟨m, ⟨hm, hl⟩, hc⟩, rfl⟩
      obtain rfl := (Caches.replayed_event hc).1
      exact ⟨rfl, hm, hl, hc⟩
    · rintro ⟨hr, hm, hl, hc⟩
      rw [hr] at hl hc
      exact ⟨d.callback, ⟨_, ⟨hm, hl⟩, hc⟩, by rw [← hr]⟩

private theorem filter_event_filterMap {f : ObserverMask → Option (Callback P)}
    (hf : ∀ n callback, f n = some callback → callback.event = n) {ms : List ObserverMask}
    (hms : ms.Nodup) (m : ObserverMask) :
    ((ms.filterMap f).filter fun callback => callback.event = m) =
      if m ∈ ms then (f m).toList else [] := by
  induction ms with
  | nil => rfl
  | cons n ms ih =>
    obtain ⟨hn, hms⟩ := List.nodup_cons.mp hms
    have ih := ih hms
    by_cases hm : m = n
    · subst hm
      rw [if_neg hn] at ih
      rw [if_pos List.mem_cons_self]
      cases hc : f m with
      | none => simp only [List.filterMap_cons, hc, ih, Option.toList_none]
      | some callback =>
        have he := hf m callback hc
        simp only [List.filterMap_cons, hc, List.filter_cons, he, decide_true, if_true, ih,
          Option.toList_some]
    · have hmem : m ∈ n :: ms ↔ m ∈ ms := by
        rw [List.mem_cons]
        exact or_iff_right hm
      simp only [hmem, ← ih]
      cases hc : f n with
      | none => simp only [List.filterMap_cons, hc]
      | some callback =>
        have he : callback.event ≠ m := fun he => hm (he.symm.trans (hf n callback hc))
        simp only [List.filterMap_cons, hc, List.filter_cons, he, decide_false,
          Bool.false_eq_true, if_false]

/-- The replay of an admitted registration makes at most one callback for each
event, the one that the record under its key may see. -/
theorem Registration.replay_event (env : Env) (r : Registration) (s : Service P)
    (m : ObserverMask) :
    ((r.replay env s).filter fun d => d.callback.event = m) =
      if r.isUpdate ∧ m ∈ replayOrder ∧ (r.subscriber s).listensTo P m then
        ((s.caches.replayed env (r.subscriber s) m).map (Delivery.mk (r.subscriber s))).toList
      else [] := by
  unfold replay
  cases hu : r.isUpdate
  · simp
  · have hnodup : (replayOrder.filter ((r.subscriber s).listensTo P)).Nodup :=
      List.Nodup.filter _ (by decide)
    have hevents := filter_event_filterMap
      (fun n callback => fun h => (Caches.replayed_event h).1) hnodup m
      (f := s.caches.replayed env (r.subscriber s))
    simp only [if_true, true_and, List.filter_map, Function.comp_def, hevents, List.mem_filter]
    split
    · cases s.caches.replayed env (r.subscriber s) m <;> rfl
    · rfl

/-- Registration keeps every cached value. -/
theorem registerStateChange_total (env : Env) (r : Registration) (s : Service P) :
    (registerStateChange env r s).1.caches.total = s.caches.total := by
  by_cases h : r.admitted P env
  · obtain ⟨c', hrun, hkeep⟩ := registerStateChange_replays h s
    rw [hrun]
    exact hkeep
  · rw [registerStateChange_of_not_admitted h]

end TelephonyStateRegistry
