import TelephonyStateRegistry.Interpretation.Outcome

/-!
# What a registration subscribes

A key keeps the observer of the first admitted registration until it is
removed: registering the key again neither replaces that observer nor replays
to another. From then on every accepted update of a subscribed event under a
matching slot calls the stored observer.
-/

namespace TelephonyStateRegistry

open Reactive

variable {P : Platform}

/-- The subscriber of a registration carries its mask and slot. -/
theorem Registration.subscriber_fields (r : Registration) (s : Service P) :
    (r.subscriber s).mask = r.mask ∧ (r.subscriber s).slotId = r.slotId := by
  have hkey := r.subscriber_key s
  exact ⟨congrArg Key.mask hkey, congrArg Key.slotId hkey⟩

theorem Registration.registered_subscriber {env : Env} {r : Registration}
    (h : r.admitted P env) (s : Service P) :
    (registerStateChange env r s).1.registered r.key = some (r.subscriber s) := by
  rw [registered_register, if_pos ⟨h, rfl⟩]

/-- With a single-bit mask the replay is the one callback of that event, on the
record under the key. -/
theorem Registration.replay_of_single {r : Registration} {m : ObserverMask}
    (hmask : r.mask = P.mask m) (env : Env) (s : Service P) :
    r.replay env s =
      if r.isUpdate ∧ (r.subscriber s).telephonyObserver ≠ none then
        ((s.caches.replayed env (r.subscriber s) m).map (Delivery.mk (r.subscriber s))).toList
      else [] := by
  have hlisten : ∀ n, (r.subscriber s).listensTo P n = true ↔
      (r.subscriber s).telephonyObserver ≠ none ∧ n = m := by
    intro n
    rw [Record.listensTo_iff, (r.subscriber_fields s).1, hmask, P.contains_mask]
  have hall : (r.replay env s).filter (fun d => d.callback.event = m) = r.replay env s := by
    apply List.filter_eq_self.mpr
    intro d hd
    apply decide_eq_true
    obtain ⟨-, hrecord, -, hl, -⟩ := Registration.mem_replay.mp hd
    rw [hrecord] at hl
    exact ((hlisten _).mp hl).2
  rw [← hall, Registration.replay_event]
  simp only [hlisten, and_true]
  by_cases ho : (r.subscriber s).telephonyObserver = none
  · simp only [ho, ne_eq, not_true_eq_false, and_false, if_false]
  · by_cases hm : m ∈ replayOrder
    · simp only [ho, hm, ne_eq, not_false_eq_true, and_true]
    · -- the only bit without a block has no cached callback either
      have hnone : s.caches.replayed env (r.subscriber s) m = none := by
        cases m <;> first | rfl | exact absurd (by decide) hm
      simp only [hm, false_and, and_false, hnone, Option.map_none, Option.toList_none, ite_self]

/-- An accepted update calls a stored record with a single-bit mask. -/
theorem mem_deliveries_of_single {s : Service P} {record : Record} (hr : record ∈ s.stateRecords)
    {m : ObserverMask} (hmask : record.mask = P.mask m) (ho : record.telephonyObserver ≠ none)
    {u : Update P} {env : Env} (hacc : u.accepted env)
    (hslot : u.slotMatches record.slotId = true) {callback : Callback P}
    (hc : (u.payload m).bind (Callback.sent env record) = some callback) :
    ⟨record, callback⟩ ∈ (u.function.run env s).2.deliveries := by
  refine mem_run_deliveries hacc hr ?_
  rw [Update.live_of_single hmask ho, if_pos hslot, Update.payloadAt_write]
  exact hc

/-- **What an admitted registration subscribes.** It succeeds and leaves a record
under its key: its own if the key was absent, the stored one otherwise. Where that
record has an observer, a registration with a single-bit mask replays to it, and
until the key is successfully removed every accepted update of the event under a
matching slot makes the reported callback on it. -/
theorem registration_subscribes (before : List (Call P)) {env : Env} {r : Registration}
    {m : ObserverMask} (hadm : r.admitted P env) (hmask : r.mask = P.mask m) :
    let s := Service.after P before
    let s' := (registerStateChange env r s).1
    (registerStateChange env r s).2.result = .telephonySuccess ∧
    ∃ record, s'.registered r.key = some record ∧
      (s.registered r.key = none → record = r.record) ∧
      (∀ stored, s.registered r.key = some stored → record = stored) ∧
      (record.telephonyObserver ≠ none →
        (registerStateChange env r s).2.deliveries =
          (if r.isUpdate then
            ((s.caches.replayed env record m).map (Delivery.mk record)).toList else []) ∧
        ∀ later, (machine P).Along (KeepsKey r.key) s' later →
          ∀ env' (u : Update P) callback, u.accepted env' → u.slotMatches r.slotId = true →
            (u.payload m).bind (Callback.sent env' record) = some callback →
              ⟨record, callback⟩ ∈
                (u.function.run env' ((machine P).run s' later)).2.deliveries) := by
  intro s s'
  obtain ⟨hmask', hslot'⟩ := r.subscriber_fields s
  obtain ⟨c', hrun, -⟩ := registerStateChange_replays hadm s
  have hstored : s'.registered r.key = some (r.subscriber s) :=
    Registration.registered_subscriber hadm s
  refine ⟨by rw [hrun], r.subscriber s, hstored, ?_, ?_, fun ho => ⟨?_, ?_⟩⟩
  · intro h
    rw [Registration.subscriber, h, Option.getD_none]
  · intro stored h
    rw [Registration.subscriber, h, Option.getD_some]
  · rw [hrun]
    change r.replay env s = _
    rw [Registration.replay_of_single hmask]
    simp only [ho, ne_eq, not_false_eq_true, and_true]
  · intro later hkeeps env' u callback hacc hslot hc
    have hmem := (Service.mem_of_registered (registered_run hstored hkeeps)).1
    have hmatch : u.slotMatches (r.subscriber s).slotId = true := by
      rw [hslot']
      exact hslot
    exact mem_deliveries_of_single hmem (hmask'.trans hmask) ho hacc hmatch hc

/-- A listener for the SIM state is stored under its key, and told of the next one. -/
theorem simState_subscribed :
    let P := Platform.dualSim
    let r := Registration.single P 1 0 .simState
    let s := (registerStateChange Env.native r (Service.after P [])).1
    s.registered r.key = some r.record ∧ ⟨r.record, .onSimStateUpdated 0 1 2 3⟩ ∈
      ((Update.simState 0 1 2 3 : Update P).function.run Env.native s).2.deliveries := by
  have hadm : (Registration.single Platform.dualSim 1 0 .simState).admitted Platform.dualSim
      Env.native := by decide
  obtain ⟨-, record, hstored, hfresh, -, htold⟩ := registration_subscribes [] hadm rfl
  obtain rfl := hfresh rfl
  obtain ⟨-, hlater⟩ := htold (Option.some_ne_none 1)
  exact ⟨hstored, hlater [] trivial Env.native (.simState 0 1 2 3) _ rfl rfl rfl⟩

/-- A second registration of a key with another observer succeeds, while replay
and updates still go to the first observer. -/
theorem second_observer_not_subscribed :
    let P := Platform.dualSim
    let s := Service.after P [(Env.native, .register (.single P 1 0 .simState))]
    let r := Registration.single P 2 0 .simState
    let u : Update P := .simState 0 1 2 3
    r.admitted P Env.native ∧ (registerStateChange Env.native r s).2.result = .telephonySuccess ∧
      received 2 (registerStateChange Env.native r s).2.deliveries = [] ∧
      u.accepted Env.native ∧ u.slotMatches r.slotId = true ∧
      u.payload .simState = some (.onSimStateUpdated 0 1 2 3) ∧
      received 2 (u.function.run Env.native (registerStateChange Env.native r s).1).2.deliveries =
        [] := by
  refine ⟨by decide, by decide, rfl, by decide, by decide, rfl, rfl⟩

/-- The events that a record under the all-slot sentinel observes. -/
def DataEvent (m : ObserverMask) : Prop := m = .dataConnectionState ∨ m = .dataFlow

/-- A registration that returns success leaves a record under its key, and until
the key is removed every accepted data update of a subscribed event, on any
slot, calls the observer of that record. -/
def SubscribesAllSlots (s : Service P) (env : Env) (r : Registration) : Prop :=
  (registerStateChange env r s).2.result = .telephonySuccess →
    ∃ record, (registerStateChange env r s).1.registered r.key = some record ∧
      ∀ later, (machine P).Along (KeepsKey r.key) (registerStateChange env r s).1 later →
        ∀ env' (u : Update P) m, DataEvent m → P.contains r.mask m = true → u.accepted env' →
          u.payload m ≠ none → record.telephonyObserver ≠ none →
            ∃ callback, callback.event = m ∧ callback.slotId = u.slotId ∧ ⟨record, callback⟩ ∈
              (u.function.run env'
                ((machine P).run (registerStateChange env r s).1 later)).2.deliveries

private theorem data_update_calls {s : Service P} {record : Record}
    (hr : record ∈ s.stateRecords) (hslot : record.slotId = simSlotIdForDefaultConnEvent)
    {m : ObserverMask} (hm : DataEvent m) (hlisten : record.listensTo P m = true)
    {u : Update P} {env : Env} (hacc : u.accepted env) (hp : u.payload m ≠ none) :
    ∃ callback, callback.event = m ∧ callback.slotId = u.slotId ∧
      ⟨record, callback⟩ ∈ (u.function.run env s).2.deliveries := by
  obtain ⟨payload, hpayload⟩ := Option.ne_none_iff_exists'.mp hp
  have hcall : m.isCallState = false := by rcases hm with rfl | rfl <;> rfl
  have hmatch : u.slotMatches record.slotId = true := by
    rcases hm with rfl | rfl <;> cases u <;> simp only [Update.payload, reduceCtorEq] at hpayload
    all_goals simp only [Update.slotMatches, sameOrAllSlots, hslot, beq_self_eq_true, Bool.or_true]
  have hsent : ∃ callback, payload.sent env record = some callback := by
    rcases hm with rfl | rfl <;> cases u <;>
      simp only [Update.payload, reduceCtorEq, Option.some.injEq] at hpayload <;>
      subst hpayload <;> exact ⟨_, rfl⟩
  obtain ⟨callback, hcallback⟩ := hsent
  obtain ⟨hevent, hslotId⟩ := Callback.sent_event hcallback
  obtain ⟨hevent', hslotId'⟩ := Update.payload_event hpayload
  refine ⟨callback, hevent.trans hevent', hslotId.trans hslotId', mem_run_deliveries hacc hr ?_⟩
  rw [Update.live_of_payload hcall hpayload, if_pos ⟨hmatch, hlisten⟩, hcallback]

private theorem checked_of_data {mask : BitVec 32}
    (h : ∀ m, P.contains mask m = true → DataEvent m) (env : Env) : Checked P env mask := by
  apply checked_iff.mpr
  intro m hm
  rcases h m hm with rfl | rfl <;> trivial

/-- **All-slot subscriptions work for privileged callers only.** A registration
of data events under the sentinel slot is effective if and only if the caller is
a native or shell process or a system application, or the key is already stored. -/
theorem all_slot_subscription_iff (hslots : P.maxSlotCount ≤ 998) (calls : List (Call P))
    {env : Env} {r : Registration} (hslot : r.slotId = simSlotIdForDefaultConnEvent)
    (hmask : ∀ m, P.contains r.mask m = true → DataEvent m) :
    SubscribesAllSlots (Service.after P calls) env r ↔
      env.getTokenTypeFlag = .native ∨ env.getTokenTypeFlag = .shell ∨
        env.isSystemAppByFullTokenID = true ∨
          (Service.after P calls).registered r.key ≠ none := by
  have hchecked := checked_of_data hmask env
  have hrange : registrableSlot P r.slotId = true := by
    simp only [registrableSlot, hslot, bne_self_eq_false, Bool.and_false, Bool.not_false]
  have hsims : isMultiSimsCapabilitySupported P env r.slotId = true ↔
      env.getTokenTypeFlag = .native ∨ env.getTokenTypeFlag = .shell ∨
        env.isSystemAppByFullTokenID = true := by
    have hlarge : ¬r.slotId < P.maxSlotCount := by
      rw [hslot, simSlotIdForDefaultConnEvent]
      omega
    rw [isMultiSimsCapabilitySupported, if_neg hlarge, ← or_assoc]
    split
    · rename_i h
      exact iff_of_true rfl (Or.inl h)
    · rename_i h
      exact (or_iff_right h).symm
  have hadmitted : r.admitted P env ↔ isMultiSimsCapabilitySupported P env r.slotId = true := by
    simp only [Registration.admitted, hchecked, hrange, true_and, and_true]
  rw [← or_assoc, ← or_assoc, or_assoc (a := _ = TokenType.native), ← hsims, ← hadmitted]
  constructor
  · intro h
    by_cases hadm : r.admitted P env
    · exact Or.inl hadm
    · have hsuccess : (registerStateChange env r (Service.after P calls)).2.result =
          .telephonySuccess := by
        rw [registerStateChange_of_not_admitted hadm, Registration.rejection, if_pos hchecked]
        rfl
      obtain ⟨record, hrecord, -⟩ := h hsuccess
      rw [registerStateChange_of_not_admitted hadm] at hrecord
      exact Or.inr (hrecord ▸ Option.some_ne_none record)
  · intro h _
    have hstored : (registerStateChange env r (Service.after P calls)).1.registered r.key =
        some (r.subscriber (Service.after P calls)) := by
      by_cases hadm : r.admitted P env
      · exact Registration.registered_subscriber hadm _
      · rw [registerStateChange_of_not_admitted hadm, Registration.subscriber]
        obtain ⟨record, hrecord⟩ := Option.ne_none_iff_exists'.mp (h.resolve_left hadm)
        rw [hrecord, Option.getD_some]
    refine ⟨_, hstored, ?_⟩
    intro later hkeeps env' u m hm hbit hacc hp ho
    obtain ⟨hmask', hslot'⟩ := r.subscriber_fields (Service.after P calls)
    have hlisten : (r.subscriber (Service.after P calls)).listensTo P m = true :=
      Record.listensTo_iff.mpr ⟨ho, hmask'.symm ▸ hbit⟩
    have hmem := (Service.mem_of_registered (registered_run hstored hkeeps)).1
    exact data_update_calls hmem (hslot'.trans hslot) hm hlisten hacc hp

theorem native_subscribes_all_slots :
    SubscribesAllSlots (Service.after Platform.dualSim []) Env.native
      (.single Platform.dualSim 1 simSlotIdForDefaultConnEvent .dataFlow) :=
  (all_slot_subscription_iff (by decide) [] rfl fun _ hm =>
    Or.inr ((Platform.contains_mask _ _ _).mp hm)).mpr (Or.inl rfl)

/-- An ordinary application that asks for all slots is told of success, and is
not stored. -/
theorem application_not_subscribed :
    ¬SubscribesAllSlots (Service.init Platform.dualSim) Env.application
      (.single Platform.dualSim 1 simSlotIdForDefaultConnEvent .dataFlow) := by
  intro h
  obtain ⟨record, hrecord, -⟩ := h (by decide)
  have habsent : ((registerStateChange Env.application
      (.single Platform.dualSim 1 simSlotIdForDefaultConnEvent .dataFlow)
        (Service.init Platform.dualSim)).1.registered
          (Registration.single Platform.dualSim 1 simSlotIdForDefaultConnEvent .dataFlow).key) =
            none := by decide
  cases habsent.symm.trans hrecord

end TelephonyStateRegistry
