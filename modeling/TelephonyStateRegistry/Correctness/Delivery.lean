import TelephonyStateRegistry.Client.Dispatch
import TelephonyStateRegistry.Correctness.Registry
import TelephonyStateRegistry.Correctness.Subscription

/-!
# How often a JS listener is served by one update

The service makes one callback for each registration of a process that an update
serves, and each callback is compared with every listener of the process. The
two sides do not match by the same rule, so a listener is served once for every
registration of its event that the update serves, if it is served at all.
-/

namespace TelephonyStateRegistry

open Reactive

variable {P : Platform} {process : Process} {s : Service P} {env : Env} {u : Update P}

namespace Napi

/-- The registrations of a process are those of the pairs of its listeners, one
for each pair. -/
structure Registers (process : Process) (table : List EventListener) (s : Service P) : Prop where
  nodup : table.Nodup
  wellKeyed : s.WellKeyed
  registered : ∀ l ∈ table, ∃ record ∈ s.stateRecords,
    record.key = process.key P l.pair ∧ record.telephonyObserver ≠ none
  listener : ∀ record ∈ s.stateRecords, record.tokenId = process.tokenId →
    record.pid = process.pid → ∃ l ∈ table, record.key = process.key P l.pair

end Napi

/-- A process has no listeners both on a slot and on the sentinel for all slots. -/
def SlotOrSentinel (m : ObserverMask) (slotId : Int) (pairs : List Pair) : Prop :=
  slotId = simSlotIdForDefaultConnEvent ∨
    ¬(⟨slotId, .event m⟩ ∈ pairs ∧ ⟨simSlotIdForDefaultConnEvent, .event m⟩ ∈ pairs)

/-- What the listeners of a process must meet for an update to serve none twice.
A data event has none both on its slot and under the sentinel; the listeners of
the account event are all on one slot; and so are those of VoIP calls, if there
is one on the slot -1 and the process may manage calls. -/
def Update.ServesOnce (env : Env) (tokenId : Int) (pairs : List Pair) : Update P → Prop
  | cellularDataConnectState slotId _ _ => SlotOrSentinel .dataConnectionState slotId pairs
  | cellularDataFlow slotId _ => SlotOrSentinel .dataFlow slotId pairs
  | iccAccount => ∀ j ∈ pairs, ∀ k ∈ pairs, j.eventType = .event .iccAccount →
      k.eventType = .event .iccAccount → j = k
  | voipCallState _ => env.verifyAccessToken tokenId .manageCallForDevices ≠ .denied →
      ⟨-1, .event .voipCallState⟩ ∈ pairs →
        ∀ k ∈ pairs, k.eventType = .event .voipCallState → k.slotId = -1
  | _ => True

/-- The callbacks of an update that a process gets. -/
private def ownDeliveries (process : Process) (env : Env) (s : Service P) (u : Update P) :
    List (Delivery P) :=
  (u.function.run env s).2.deliveries.filter fun d =>
    d.record.tokenId = process.tokenId ∧ d.record.pid = process.pid

private theorem uniqueKeys_deliveriesOf {call : Record → Option (Callback P)}
    {records : List Record} (h : UniqueKeys Record.key records) :
    UniqueKeys (fun d : Delivery P => d.record.key) (deliveriesOf call records) := by
  have hrecords : (deliveriesOf call records).map Delivery.record =
      records.filter fun record => (call record).isSome := by
    induction records with
    | nil => rfl
    | cons record records ih =>
      have ih := ih h.of_cons
      unfold deliveriesOf at ih ⊢
      cases hcall : call record with
      | none =>
        rw [List.filterMap_cons_none (by rw [hcall]; rfl), ih, List.filter_cons_of_neg]
        rw [hcall]
        exact nofun
      | some callback =>
        rw [List.filterMap_cons_some (by rw [hcall]; rfl), List.map_cons, ih,
          List.filter_cons_of_pos]
        rw [hcall]
        rfl
  have hkeys : (deliveriesOf call records).map (fun d => d.record.key) =
      ((deliveriesOf call records).map Delivery.record).map Record.key := by
    rw [List.map_map]
    rfl
  rw [UniqueKeys, hkeys, hrecords]
  exact h.filter _

private theorem uniqueKeys_own (h : s.WellKeyed) (process : Process) (env : Env)
    (u : Update P) :
    UniqueKeys (fun d : Delivery P => d.record.key) (ownDeliveries process env s u) := by
  apply UniqueKeys.filter
  by_cases hacc : u.accepted env
  · rw [Update.run_of_accepted hacc]
    exact uniqueKeys_deliveriesOf h
  · obtain ⟨result, -, hrun⟩ := Update.run_of_rejected hacc s
    rw [hrun]
    exact List.nodup_nil

private theorem listener_of_own {table : List Napi.EventListener}
    (h : Napi.Registers process table s) (hacc : u.accepted env) {d : Delivery P}
    (hd : d ∈ ownDeliveries process env s u) :
    ∃ l ∈ table, d.record.key = process.key P l.pair ∧ l.eventType = .event d.callback.event ∧
      u.slotMatches l.slotId = true ∧ u.sends env process.tokenId d.callback.event ∧
        d.callback.slotId = u.slotId := by
  obtain ⟨hd, hown⟩ := List.mem_filter.mp hd
  obtain ⟨htoken, hpid⟩ := of_decide_eq_true hown
  rw [Update.run_of_accepted hacc] at hd
  obtain ⟨hr, hlive⟩ := mem_deliveriesOf.mp hd
  obtain ⟨l, hl, hkey⟩ := h.listener d.record hr htoken hpid
  obtain ⟨hlisten, hslot, hslotId, reported, hp, hsent⟩ := Update.live_eq_some hlive
  have hrecordSlot : d.record.slotId = l.slotId := congrArg Key.slotId hkey
  have hmask : d.record.mask = l.eventType.toUint32t P := congrArg Key.mask hkey
  have hevent : l.eventType = .event d.callback.event := by
    have hcontains := (Record.listensTo_iff.mp hlisten).2
    rw [hmask] at hcontains
    cases hl : l.eventType with
    | noneEventType =>
      rw [hl, TelephonyUpdateEventType.toUint32t, Platform.contains,
        BitVec.getLsbD_zero] at hcontains
      cases hcontains
    | event m =>
      rw [hl] at hcontains
      rw [(P.contains_mask m _).mp hcontains]
  have hsends : u.sends env d.record.tokenId d.callback.event := by
    have hp : u.payload d.callback.event = some reported :=
      (u.payloadAt_write s.caches _).symm.trans hp
    have hc : (u.payload d.callback.event).bind (Callback.sent env d.record) =
        some d.callback := by
      rw [hp]
      exact hsent
    exact Update.sends_of_payload hacc hc
  refine ⟨l, hl, hkey, hevent, ?_, ?_, hslotId⟩
  · rw [← hrecordSlot]
    exact hslot
  · rw [← htoken]
    exact hsends

private theorem own_of_listener {table : List Napi.EventListener}
    (h : Napi.Registers process table s) {l : Napi.EventListener} (hl : l ∈ table)
    {m : ObserverMask} (hevent : l.eventType = .event m) (hslot : u.slotMatches l.slotId = true)
    (hsends : u.sends env process.tokenId m) :
    ∃ d ∈ ownDeliveries process env s u, d.record.key = process.key P l.pair ∧
      d.callback.event = m := by
  obtain ⟨record, hr, hkey, ho⟩ := h.registered l hl
  have htoken : record.tokenId = process.tokenId := congrArg Key.tokenId hkey
  have hpid : record.pid = process.pid := congrArg Key.pid hkey
  have hrecordSlot : record.slotId = l.slotId := congrArg Key.slotId hkey
  have hmask : record.mask = P.mask m := by
    have hmask : record.mask = l.eventType.toUint32t P := congrArg Key.mask hkey
    rw [hmask, hevent]
    rfl
  rw [← htoken] at hsends
  obtain ⟨callback, hc, hcevent⟩ := Update.sends_payload hsends
  rw [← hrecordSlot] at hslot
  have hd := mem_deliveries_of_single hr hmask ho hsends.1 hslot hc
  exact ⟨⟨record, callback⟩, List.mem_filter.mpr ⟨hd, decide_eq_true ⟨htoken, hpid⟩⟩, hkey,
    hcevent⟩

/-- Whether a listener is served when its event is reported on a slot. -/
private def servedOn (slotId : Option Int) (listenerSlot : Int) : ObserverMask → Prop
  | .iccAccount => True
  | .voipCallState => listenerSlot = -1
  | .dataConnectionState | .dataFlow =>
    slotId = some listenerSlot ∨ listenerSlot = simSlotIdForDefaultConnEvent
  | _ => slotId = some listenerSlot

private theorem mayServe_iff (callback : Callback P) (l : Napi.EventListener) :
    (Napi.sendEvent callback).mayServe l = true ↔
      l.eventType = .event callback.event ∧ servedOn callback.slotId l.slotId callback.event := by
  cases callback <;>
    simp only [Napi.sendEvent, Napi.InnerEvent.mayServe, Napi.handleFuncMap, Option.any_some,
      Napi.isNeedHandleCallbackUpdate_iff, Callback.event, Callback.slotId, servedOn,
      decide_eq_true_eq, and_true, Option.some.injEq, eq_comm (b := l.slotId),
      and_congr_right_iff]
  all_goals
    intro hevent
    rw [hevent]
    simp only [Napi.enableOnDefaultDataEventSet, List.mem_cons, List.not_mem_nil, or_false,
      TelephonyUpdateEventType.event.injEq, reduceCtorEq, or_self, or_true, true_and,
      false_and]

private theorem sendEvent_slotId {callback : Callback P} {info : Napi.UpdateInfo P}
    (h : (Napi.sendEvent callback).object = some info) :
    info.slotId = callback.slotId.getD (-1) := by
  cases callback <;> cases h <;> rfl

/-- The pair of a listener is one that an update serves. -/
private def ServedListener (env : Env) (tokenId : Int) (u : Update P) (m : ObserverMask)
    (l : Napi.EventListener) : Prop :=
  l.eventType = .event m ∧ u.slotMatches l.slotId = true ∧ u.sends env tokenId m

private theorem count_le_one_iff {table : List Napi.EventListener}
    (h : Napi.Registers process table s) (hacc : u.accepted env) :
    (∀ attempts, ∀ listener ∈ table, ((Napi.workItems process table attempts
        (u.function.run env s).2.deliveries).map Napi.WorkItem.listener).count listener ≤ 1) ↔
      ∀ l ∈ table, ∀ m, l.eventType = .event m → servedOn u.slotId l.slotId m →
        ∀ j ∈ table, ∀ k ∈ table, ServedListener env process.tokenId u m j →
          ServedListener env process.tokenId u m k → j.slotId = k.slotId := by
  let ds := ownDeliveries process env s u
  have hcounts : (∀ attempts, ∀ listener ∈ table, ((Napi.workItems process table attempts
        (u.function.run env s).2.deliveries).map Napi.WorkItem.listener).count listener ≤ 1) ↔
      ∀ l ∈ table, ds.countP (fun d => (Napi.sendEvent d.callback).mayServe l) ≤ 1 := by
    constructor
    · intro hall l hl
      have hslot : ∀ event ∈ ds.map fun d => Napi.sendEvent d.callback, ∀ info,
          event.object = some info → info.slotId = u.slotId.getD (-1) := by
        intro event hevent info hinfo
        obtain ⟨d, hd, rfl⟩ := List.mem_map.mp hevent
        obtain ⟨-, -, -, -, -, -, hslotId⟩ := listener_of_own h hacc hd
        rw [sendEvent_slotId hinfo, hslotId]
      have heq := Napi.count_processEvents_of_succeeding h.nodup hl hslot
      rw [List.countP_map] at heq
      exact heq ▸ hall (fun _ _ => .succeeding (u.slotId.getD (-1))) l hl
    · intro hall attempts l hl
      refine (Napi.count_processEvents_le h.nodup l attempts _).trans ?_
      rw [List.countP_map]
      exact hall l hl
  rw [hcounts]
  refine forall₂_congr fun l hl => ?_
  rw [(uniqueKeys_own h.wellKeyed process env u).countP_le_one_iff]
  constructor
  · intro hkeys m hm hserved j hj k hk hjm hkm
    obtain ⟨d, hd, hdkey, hdm⟩ := own_of_listener h hj hjm.1 hjm.2.1 hjm.2.2
    obtain ⟨d', hd', hdkey', hdm'⟩ := own_of_listener h hk hkm.1 hkm.2.1 hkm.2.2
    obtain ⟨-, -, -, -, -, -, hslot⟩ := listener_of_own h hacc hd
    obtain ⟨-, -, -, -, -, -, hslot'⟩ := listener_of_own h hacc hd'
    have hkey := hkeys d hd d' hd' (by rw [mayServe_iff, hdm, hslot]; exact ⟨hm, hserved⟩)
      (by rw [mayServe_iff, hdm', hslot']; exact ⟨hm, hserved⟩)
    rw [hdkey, hdkey'] at hkey
    exact congrArg Key.slotId hkey
  · intro hslots d hd d' hd' hp hp'
    obtain ⟨hm, hserved⟩ := (mayServe_iff d.callback l).mp hp
    obtain ⟨hm', -⟩ := (mayServe_iff d'.callback l).mp hp'
    obtain ⟨j, hj, hjkey, hjm, hjslot, hjsends, hslot⟩ := listener_of_own h hacc hd
    obtain ⟨k, hk, hkkey, hkm, hkslot, hksends, -⟩ := listener_of_own h hacc hd'
    have hevents : d'.callback.event = d.callback.event := by
      rw [hm'] at hm
      exact TelephonyUpdateEventType.event.inj hm
    rw [hslot] at hserved
    rw [hevents] at hkm hksends
    have hjk := hslots d.callback.event hm hserved j hj k hk ⟨hjm, hjslot, hjsends⟩
      ⟨hkm, hkslot, hksends⟩
    have hpairs : j.pair = k.pair := congrArg₂ Pair.mk hjk (hjm.trans hkm.symm)
    rw [hjkey, hkkey, hpairs]

section Kinds

variable {table : List Napi.EventListener} {tokenId : Int} {m : ObserverMask}

private theorem mem_pairs_iff {slotId : Int} :
    ⟨slotId, .event m⟩ ∈ table.map Napi.EventListener.pair ↔
      ∃ l ∈ table, l.slotId = slotId ∧ l.eventType = .event m := by
  simp only [List.mem_map, Napi.EventListener.pair, Pair.mk.injEq]

private theorem sends_data (hm : m = .dataConnectionState ∨ m = .dataFlow)
    (hacc : u.accepted env) (htopics : u.topics = [m])
    (hnull : ∀ slotId, u ≠ .networkState slotId none) : u.sends env tokenId m := by
  refine ⟨hacc, ?_, ?_, hnull⟩
  · rw [htopics]
    exact List.mem_singleton.mpr rfl
  · rintro (rfl | rfl) <;> rcases hm with h | h <;> cases h

private theorem data_iff {slotId : Int} (hm : m = .dataConnectionState ∨ m = .dataFlow)
    (hmatch : u.slotMatches = sameOrAllSlots slotId) (hslotId : u.slotId = some slotId)
    (htopics : u.topics = [m]) (hsends : u.sends env tokenId m) :
    (∀ l ∈ table, ∀ n, l.eventType = .event n → servedOn u.slotId l.slotId n →
        ∀ j ∈ table, ∀ k ∈ table, ServedListener env tokenId u n j →
          ServedListener env tokenId u n k → j.slotId = k.slotId) ↔
      SlotOrSentinel m slotId (table.map Napi.EventListener.pair) := by
  have hserved : ∀ l : Napi.EventListener, l.eventType = .event m →
      (l.slotId = slotId ∨ l.slotId = simSlotIdForDefaultConnEvent) →
        ServedListener env tokenId u m l := by
    intro l hl hslot
    refine ⟨hl, ?_, hsends⟩
    rw [hmatch, sameOrAllSlots, Bool.or_eq_true, beq_iff_eq, beq_iff_eq]
    exact hslot
  have hdata : ∀ slot, servedOn u.slotId slot m ↔
      slot = slotId ∨ slot = simSlotIdForDefaultConnEvent := by
    intro slot
    rcases hm with rfl | rfl <;> rw [hslotId, servedOn, Option.some.injEq, eq_comm]
  constructor
  · intro h
    by_cases hsentinel : slotId = simSlotIdForDefaultConnEvent
    · exact Or.inl hsentinel
    · refine Or.inr ?_
      rintro ⟨hj, hk⟩
      obtain ⟨j, hj, hjslot, hjm⟩ := mem_pairs_iff.mp hj
      obtain ⟨k, hk, hkslot, hkm⟩ := mem_pairs_iff.mp hk
      have hjk := h j hj m hjm ((hdata j.slotId).mpr (Or.inl hjslot)) j hj k hk
        (hserved j hjm (Or.inl hjslot)) (hserved k hkm (Or.inr hkslot))
      rw [hjslot, hkslot] at hjk
      exact hsentinel hjk
  · rintro h l hl n hn - j hj k hk ⟨hjn, hjslot, hjsends⟩ ⟨hkn, hkslot, -⟩
    have hnm : n = m := by
      have htopic := hjsends.2.1
      rw [htopics] at htopic
      exact List.mem_singleton.mp htopic
    subst hnm
    rw [hmatch, sameOrAllSlots, Bool.or_eq_true, beq_iff_eq, beq_iff_eq] at hjslot hkslot
    rcases h with hsentinel | hboth
    · omega
    · rcases hjslot with hjslot | hjslot <;> rcases hkslot with hkslot | hkslot
      · omega
      · exact absurd ⟨mem_pairs_iff.mpr ⟨j, hj, hjslot, hjn⟩,
          mem_pairs_iff.mpr ⟨k, hk, hkslot, hkn⟩⟩ hboth
      · exact absurd ⟨mem_pairs_iff.mpr ⟨k, hk, hkslot, hkn⟩,
          mem_pairs_iff.mpr ⟨j, hj, hjslot, hjn⟩⟩ hboth
      · omega

private theorem icc_iff (hacc : (Update.iccAccount : Update P).accepted env) :
    (∀ l ∈ table, ∀ n, l.eventType = .event n →
        servedOn (Update.iccAccount : Update P).slotId l.slotId n →
          ∀ j ∈ table, ∀ k ∈ table, ServedListener env tokenId (.iccAccount : Update P) n j →
            ServedListener env tokenId (.iccAccount : Update P) n k → j.slotId = k.slotId) ↔
      (Update.iccAccount : Update P).ServesOnce env tokenId
        (table.map Napi.EventListener.pair) := by
  have hsends : (Update.iccAccount : Update P).sends env tokenId .iccAccount :=
    ⟨hacc, List.mem_singleton.mpr rfl, nofun, nofun⟩
  simp only [Update.ServesOnce, List.forall_mem_map]
  constructor
  · intro h j hj k hk hjm hkm
    have hjk := h j hj .iccAccount hjm trivial j hj k hk ⟨hjm, rfl, hsends⟩ ⟨hkm, rfl, hsends⟩
    exact congrArg₂ Pair.mk hjk (hjm.trans hkm.symm)
  · rintro h l hl n hn - j hj k hk ⟨hjn, -, hjsends⟩ ⟨hkn, -, -⟩
    obtain rfl := List.mem_singleton.mp hjsends.2.1
    exact congrArg Pair.slotId (h j hj k hk hjn hkn)

private theorem voip_iff {info : VoIPCallStateInfo}
    (hacc : (Update.voipCallState info : Update P).accepted env) :
    (∀ l ∈ table, ∀ n, l.eventType = .event n →
        servedOn (Update.voipCallState info : Update P).slotId l.slotId n →
          ∀ j ∈ table, ∀ k ∈ table,
            ServedListener env tokenId (.voipCallState info : Update P) n j →
              ServedListener env tokenId (.voipCallState info : Update P) n k →
                j.slotId = k.slotId) ↔
      (Update.voipCallState info : Update P).ServesOnce env tokenId
        (table.map Napi.EventListener.pair) := by
  simp only [Update.ServesOnce, List.forall_mem_map]
  constructor
  · intro h hmanage hl k hk hkm
    obtain ⟨l, hl, hlslot, hlm⟩ := mem_pairs_iff.mp hl
    have hsends : (Update.voipCallState info : Update P).sends env tokenId .voipCallState :=
      ⟨hacc, List.mem_singleton.mpr rfl, fun _ => hmanage, nofun⟩
    have hkl := h l hl .voipCallState hlm hlslot k hk l hl ⟨hkm, rfl, hsends⟩ ⟨hlm, rfl, hsends⟩
    exact hkl.trans hlslot
  · rintro h l hl n hn hserved j hj k hk ⟨hjn, -, hjsends⟩ ⟨hkn, -, -⟩
    obtain rfl := List.mem_singleton.mp hjsends.2.1
    have hall := h (hjsends.2.2.1 (Or.inr rfl)) (mem_pairs_iff.mpr ⟨l, hl, hserved, hn⟩)
    exact (hall j hj hjn).trans (hall k hk hkn).symm

end Kinds

/-- **When a listener is served at most once.** For the listeners of a process
with the corresponding registrations, and for every update, no listener gets two
work items, whatever fails on the way and whatever the default slot is, exactly
if the update is rejected or the listeners of its event have one source only. -/
theorem queued_at_most_once_iff {table : List Napi.EventListener}
    (h : Napi.Registers process table s) (u : Update P) (env : Env) :
    (∀ attempts, ∀ listener ∈ table, ((Napi.workItems process table attempts
        (u.function.run env s).2.deliveries).map Napi.WorkItem.listener).count listener ≤ 1) ↔
      (u.accepted env →
        u.ServesOnce env process.tokenId (table.map Napi.EventListener.pair)) := by
  by_cases hacc : u.accepted env
  · rw [count_le_one_iff h hacc]
    simp only [hacc, true_imp_iff]
    have hsame : ∀ {slotId : Int}, (∀ slot, u.slotMatches slot = sameSlot slotId slot) →
        ∀ l ∈ table, ∀ m, l.eventType = .event m → servedOn u.slotId l.slotId m →
          ∀ j ∈ table, ∀ k ∈ table, ServedListener env process.tokenId u m j →
            ServedListener env process.tokenId u m k → j.slotId = k.slotId := by
      intro slotId hmatch l _ m _ _ j _ k _ hj hk
      have hjslot := hj.2.1
      have hkslot := hk.2.1
      rw [hmatch, sameSlot, beq_iff_eq] at hjslot hkslot
      exact hjslot.trans hkslot.symm
    cases u with
    | cellularDataConnectState slotId dataState networkType =>
      refine data_iff (Or.inl rfl) rfl rfl rfl (sends_data (Or.inl rfl) hacc rfl ?_)
      intro slot hsame
      cases hsame
    | cellularDataFlow slotId flowData =>
      refine data_iff (Or.inr rfl) rfl rfl rfl (sends_data (Or.inr rfl) hacc rfl ?_)
      intro slot hsame
      cases hsame
    | iccAccount => exact icc_iff hacc
    | voipCallState info => exact voip_iff hacc
    | _ => exact iff_of_true (hsame fun _ => rfl) trivial
  · obtain ⟨result, -, hrun⟩ := Update.run_of_rejected hacc s
    rw [hrun]
    refine iff_of_true ?_ fun h => absurd h hacc
    intro attempts listener _
    exact Nat.zero_le 1

/-- The service after a native process has registered an observer for each of some pairs. -/
private def registeredPairs (process : Process) (pairs : List Pair) :
    Service Platform.dualSim :=
  Service.after Platform.dualSim (pairs.map fun k =>
    (Env.native, .register (process.registration Platform.dualSim 1 k false)))

private theorem registeredPairs_wellKeyed (process : Process) (pairs : List Pair) :
    (registeredPairs process pairs).WellKeyed :=
  Service.WellKeyed.run (s := Service.init Platform.dualSim) List.nodup_nil _

private theorem registers_pair {slotId : Int} (h : slotId = 1 ∨ slotId = 999) :
    Napi.Registers ⟨"app", 1, 1, 1, ""⟩
      [⟨1, .event .dataFlow, 0, 2, 3⟩, ⟨1, .event .dataFlow, slotId, 4, 5⟩]
      (registeredPairs ⟨"app", 1, 1, 1, ""⟩
        [⟨0, .event .dataFlow⟩, ⟨slotId, .event .dataFlow⟩]) := by
  rcases h with rfl | rfl
  all_goals
    refine ⟨by decide, registeredPairs_wellKeyed _ _, ?_, ?_⟩
    · intro l hl
      rcases List.mem_pair.mp hl with rfl | rfl
      · exact ⟨_, List.mem_cons_self, rfl, Option.some_ne_none 1⟩
      · exact ⟨_, List.mem_cons_of_mem _ List.mem_cons_self, rfl, Option.some_ne_none 1⟩
    · intro record hr _ _
      rcases List.mem_pair.mp hr with rfl | rfl
      · exact ⟨_, List.mem_cons_self, rfl⟩
      · exact ⟨_, List.mem_cons_of_mem _ List.mem_cons_self, rfl⟩

/-- Listeners on two slots get at most one work item from a data update on one of them. -/
theorem one_slot_queued_once :
    let process : Process := ⟨"app", 1, 1, 1, ""⟩
    let table : List Napi.EventListener :=
      [⟨1, .event .dataFlow, 0, 2, 3⟩, ⟨1, .event .dataFlow, 1, 4, 5⟩]
    let s := registeredPairs process [⟨0, .event .dataFlow⟩, ⟨1, .event .dataFlow⟩]
    ∀ attempts, ∀ listener ∈ table, ((Napi.workItems process table attempts
      ((Update.cellularDataFlow 0 3).function.run Env.native s).2.deliveries).map
        Napi.WorkItem.listener).count listener ≤ 1 := by
  refine (queued_at_most_once_iff (registers_pair (Or.inl rfl)) (.cellularDataFlow 0 3)
    Env.native).mpr fun _ => Or.inr ?_
  decide

/-- A listener on slot 0 next to one under the sentinel gets two work items from
one data update on slot 0. -/
theorem data_listener_queued_twice :
    let process : Process := ⟨"app", 1, 1, 1, ""⟩
    let table : List Napi.EventListener :=
      [⟨1, .event .dataFlow, 0, 2, 3⟩, ⟨1, .event .dataFlow, 999, 4, 5⟩]
    let s := registeredPairs process [⟨0, .event .dataFlow⟩, ⟨999, .event .dataFlow⟩]
    Napi.Registers process table s ∧
      ((Napi.workItems process table (fun _ _ => .succeeding 0)
        ((Update.cellularDataFlow 0 3).function.run Env.native s).2.deliveries).map
          Napi.WorkItem.listener).count ⟨1, .event .dataFlow, 0, 2, 3⟩ = 2 :=
  ⟨registers_pair (Or.inr rfl), rfl⟩

end TelephonyStateRegistry
