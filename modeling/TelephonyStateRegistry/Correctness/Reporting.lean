import TelephonyStateRegistry.Correctness.EndToEnd
import TelephonyStateRegistry.Correctness.Newcomers
import TelephonyStateRegistry.Correctness.OwnRecords

/-!
# What is reported reaches the JS functions

A listener of an event that belongs to one slot is served by one record of the service.
While it stays in the table the record stays registered, the record alone brings it
anything, and nothing but a report does. So the function of the listener is called with
what is reported, once for each report.
-/

namespace TelephonyStateRegistry

open Reactive

variable {P : Platform}

/-- The events whose updates name one slot and are for the records of that slot. -/
def ObserverMask.slotted : ObserverMask → Bool
  | .dataConnectionState | .dataFlow | .iccAccount | .voipCallState => false
  | _ => true

private theorem Update.slotMatches_iff {u : Update P} {c : Caches P} {m : ObserverMask}
    {callback : Callback P} (h : u.payloadAt c m = some callback) (hm : m.slotted = true)
    (slotId : Int) : u.slotMatches slotId = true ↔ callback.slotId = some slotId := by
  cases u <;> cases m <;> first
    | exact absurd hm Bool.false_ne_true
    | simp only [payloadAt, payload, Option.some.injEq, reduceCtorEq] at h
  all_goals
    subst h
    simp only [slotMatches, Update.slotId, sameSlot, beq_iff_eq, Callback.slotId,
      Option.some.injEq]
    exact eq_comm

namespace Napi

section Reports

variable {l : EventListener} {m : ObserverMask}

private theorem of_forListener (hl : l.eventType = .event m) (hm : m.slotted = true)
    {callback : Callback P} (h : forListener l callback ≠ none) :
    callback.event = m ∧ callback.slotId = some l.slotId := by
  have hserve : (sendEvent callback).mayServe l = true := by
    by_contra hnot
    exact h (if_neg hnot)
  have hset : l.eventType ∉ enableOnDefaultDataEventSet := by
    rw [hl]
    cases m <;> first | exact absurd hm Bool.false_ne_true | decide
  cases callback
  case onIccAccountUpdated =>
    have hevent : l.eventType = .event .iccAccount := of_decide_eq_true hserve
    rw [hl] at hevent
    cases hevent
    cases hm
  case onVoIPStateUpdated info =>
    have hpair := (isNeedHandleCallbackUpdate_iff_pair (Or.inr hset) _ _).mp hserve
    have hevent : l.eventType = .event .voipCallState := congrArg Pair.eventType hpair
    rw [hl] at hevent
    cases hevent
    cases hm
  all_goals
    have hpair := (isNeedHandleCallbackUpdate_iff_pair (Or.inr hset) _ _).mp hserve
    have hslot := congrArg Pair.slotId hpair
    have hevent := congrArg Pair.eventType hpair
    simp only [EventListener.pair, hl, TelephonyUpdateEventType.event.injEq] at hslot hevent
    exact ⟨hevent.symm, congrArg some hslot.symm⟩

/-- What an update reports to a listener whose pair is registered by a record. -/
def reportFor (l : EventListener) (m : ObserverMask) (record : Record) (env : Env)
    (u : Update P) : Option (Option (UpdateInfo P)) :=
  if u.accepted env then ((u.payload m).bind (Callback.sent env record)).bind (forListener l)
  else none

variable {process : Process} {s : Service P} {record : Record}

/-- **One report, one callback.** Of the callbacks that an update makes on the process, one
at most is for the listener, the one on its own record. -/
theorem callbacksOn_update (hown : s.KeepsOwn process) (hl : l.eventType = .event m)
    (hm : m.slotted = true) (hrecord : s.registered (process.key P l.pair) = some record)
    (env : Env) (u : Update P) :
    ((u.function.run env s).2.callbacksOn process.owns).filterMap (forListener l) =
      (reportFor l m record env u).toList := by
  by_cases hacc : u.accepted env
  · obtain ⟨hmem, hkey⟩ := Service.mem_of_registered hrecord
    let c := u.function.write s.caches
    let visit : Record → Option (Option (UpdateInfo P)) := fun r =>
      if process.owns r then (u.live env c r).bind (forListener l) else none
    have hlist : ((u.function.run env s).2.callbacksOn process.owns).filterMap (forListener l) =
        s.stateRecords.filterMap visit := by
      rw [Update.run_of_accepted hacc]
      change ((((s.stateRecords.filterMap fun r => (u.live env c r).map (Delivery.mk r)).filter
        fun d => process.owns d.record).map Delivery.callback).filterMap (forListener l)) = _
      rw [List.filterMap_map, ← List.filterMap_eq_filter, List.filterMap_filterMap,
        List.filterMap_filterMap]
      refine List.filterMap_congr fun r _ => ?_
      cases hlive : u.live env c r with
      | none => simp [visit, hlive]
      | some callback =>
        cases hr : process.owns r <;> simp [visit, hlive, hr, Option.guard]
    have hothers : ∀ r ∈ s.stateRecords, r ≠ record → visit r = none := by
      intro r hr hne
      by_contra hsome
      have howns : process.owns r = true := by
        by_contra hnot
        exact hsome (if_neg hnot)
      have hproc := process.owns_iff.mp howns
      have hbind : (u.live env c r).bind (forListener l) ≠ none := by
        simpa only [visit, if_pos howns] using hsome
      cases hlive : u.live env c r with
      | none => exact hbind (by rw [hlive]; rfl)
      | some callback =>
        rw [hlive, Option.bind_some] at hbind
        obtain ⟨hevent, hslot⟩ := of_forListener hl hm hbind
        obtain ⟨hlisten, hmatches, -, reported, hpayload, hsent⟩ := Update.live_eq_some hlive
        rw [hevent] at hlisten hpayload
        have hsame : reported.slotId = callback.slotId := (Callback.sent_event hsent).2.symm
        rw [Update.slotMatches_iff hpayload hm, hsame, hslot, Option.some.injEq] at hmatches
        obtain ⟨-, k, hk⟩ := hown.own r hr hproc.1 hproc.2
        have hmask : r.mask = k.eventType.toUint32t P := congrArg Key.mask hk
        have hbit := (Record.listensTo_iff.mp hlisten).2
        rw [hmask] at hbit
        have hpair : k = l.pair := by
          have hkslot : k.slotId = l.slotId := (congrArg Key.slotId hk).symm.trans hmatches.symm
          have hkevent : k.eventType = .event m :=
            TelephonyUpdateEventType.eq_of_contains hbit
          cases k
          simp only at hkslot hkevent
          rw [EventListener.pair, hkslot, hkevent, hl]
        have hsamekey : r.key = record.key := by rw [hk, hkey, hpair]
        exact hne (List.inj_on_of_nodup_map hown.wellKeyed hr hmem hsamekey)
    have hnodup : s.stateRecords.Nodup := List.Nodup.of_map _ hown.wellKeyed
    rw [hlist, filterMap_of_unique hothers hnodup hmem]
    congr 1
    have hproc : record.tokenId = process.tokenId ∧ record.pid = process.pid :=
      ⟨congrArg Key.tokenId hkey, congrArg Key.pid hkey⟩
    have hmask : record.mask = P.mask m := by
      rw [show record.mask = l.eventType.toUint32t P from congrArg Key.mask hkey, hl]
      rfl
    have hslot : record.slotId = l.slotId := congrArg Key.slotId hkey
    have hlive := Update.live_of_single hmask (hown.own record hmem hproc.1 hproc.2).1 u env c
    have hpayload : u.payloadAt c m = u.payload m := u.payloadAt_write s.caches m
    rw [hpayload] at hlive
    rw [reportFor, if_pos hacc]
    simp only [visit, if_pos (process.owns_iff.mpr hproc), hlive]
    split
    · rfl
    · rename_i hmatches
      rw [Option.bind_none]
      symm
      by_contra hsome
      obtain ⟨info, hinfo⟩ := Option.ne_none_iff_exists'.mp hsome
      obtain ⟨callback, hcallback, hfor⟩ := Option.bind_eq_some_iff.mp hinfo
      obtain ⟨reported, hreported, hsent⟩ := Option.bind_eq_some_iff.mp hcallback
      have hne : forListener l callback ≠ none := by
        rw [hfor]
        exact Option.some_ne_none info
      have hcslot := (of_forListener hl hm hne).2
      refine hmatches ((Update.slotMatches_iff (hpayload.trans hreported) hm _).mpr ?_)
      rw [← (Callback.sent_event hsent).2, hcslot, hslot]
  · obtain ⟨result, -, hrun⟩ := Update.run_of_rejected hacc s
    rw [hrun, reportFor, if_neg hacc]
    rfl

/-- What a registration replays is for its own pair. -/
theorem callbacksOn_register_other (hl : l.eventType = .event m) (hm : m.slotted = true)
    {k : Pair} (hk : k ≠ l.pair) (observer : Observer) (isUpdate : Bool) (env : Env)
    (s : Service P) :
    ((registerStateChange env (process.registration P observer k isUpdate) s).2.callbacksOn
      process.owns).filterMap (forListener l) = [] := by
  rw [List.filterMap_eq_nil_iff]
  intro callback hcallback
  obtain ⟨d, hd, rfl⟩ := List.mem_map.mp hcallback
  have hdelivered := (List.mem_filter.mp hd).1
  rw [registerStateChange_deliveries] at hdelivered
  split at hdelivered
  · obtain ⟨-, hrecord, -, hlisten, hreplayed⟩ := Registration.mem_replay.mp hdelivered
    by_contra hsome
    obtain ⟨hevent, hslot⟩ := of_forListener hl hm hsome
    have hkey : d.record.key = process.key P k := by
      rw [hrecord, Registration.subscriber_key]
      rfl
    have hne : d.callback.event ≠ .iccAccount := by
      rw [hevent]
      rintro rfl
      cases hm
    have hrslot := (Caches.replayed_event hreplayed).2 hne
    rw [hslot, Option.some.injEq] at hrslot
    have hbit := (Record.listensTo_iff.mp hlisten).2
    rw [show d.record.mask = k.eventType.toUint32t P from congrArg Key.mask hkey, hevent] at hbit
    apply hk
    have hkslot : k.slotId = l.slotId := by
      rw [hrslot]
      exact (congrArg Key.slotId hkey).symm
    have hkevent : k.eventType = .event m := TelephonyUpdateEventType.eq_of_contains hbit
    cases k
    simp only at hkslot hkevent
    rw [EventListener.pair, hkslot, hkevent, hl]
  · exact absurd hdelivered List.not_mem_nil

end Reports

end Napi

section Remote

variable {process : Process}

private theorem callbacksOn_foreign {r : Registration}
    (h : (Op.register r : Op P).foreign process = true) (env : Env) (s : Service P) :
    (registerStateChange env r s).2.callbacksOn process.owns = [] := by
  rw [Output.callbacksOn, List.map_eq_nil_iff, List.filter_eq_nil_iff]
  intro d hd hown
  rw [registerStateChange_deliveries] at hd
  split at hd
  · have hrecord := (Registration.mem_replay.mp hd).2.1
    have hkey : d.record.key = r.key := by rw [hrecord, Registration.subscriber_key]
    obtain ⟨htoken, hpid⟩ := process.owns_iff.mp hown
    simp only [Op.foreign, show r.tokenId = process.tokenId from
      (congrArg Key.tokenId hkey).symm.trans htoken, show r.pid = process.pid from
      (congrArg Key.pid hkey).symm.trans hpid, beq_self_eq_true, Bool.and_self, Bool.not_true,
      Bool.false_eq_true] at h
  · exact absurd hd List.not_mem_nil

end Remote

namespace Napi

/-- What a step of the device reports to a listener whose pair is registered by a record. -/
def DeviceStep.reported (l : EventListener) (m : ObserverMask) (record : Record) :
    DeviceStep P process → List (Option (UpdateInfo P))
  | .serves env ⟨.update u, _⟩ => (reportFor l m record env u).toList
  | _ => []

section Device

variable {process : Process} {l : EventListener} {m : ObserverMask} {record : Record}

/-- What is behind the manager while a listener is registered. -/
structure Station.Ready (process : Process) (l : EventListener) (record : Record)
    (w : Station P) : Prop where
  own : w.1.KeepsOwn process
  stores : w.1.Stores process l.pair record

private theorem serves_reported {w : Station P} (h : Station.Ready process l record w)
    (hl : l.eventType = .event m) (hm : m.slotted = true) (env : Env)
    (op : ForeignOp P process) :
    (w.1.sendsWhileServing process.owns env op.val).filterMap (forListener l) =
      (DeviceStep.serves env op).reported l m record := by
  obtain ⟨i, s, hs, hrecord⟩ := h.stores
  have hown := h.own i s hs
  obtain ⟨op, hforeign⟩ := op
  have hsends : w.1.sendsWhileServing process.owns env op =
      (op.run env s).2.callbacksOn process.owns := by
    unfold Remote.sendsWhileServing
    rw [hs]
  rw [hsends]
  cases op with
  | update u => exact callbacksOn_update hown hl hm hrecord env u
  | register r =>
    rw [show (Op.register r).run env s = registerStateChange env r s from rfl,
      callbacksOn_foreign hforeign]
    rfl
  | unregister key =>
    rw [Op.run, callbacksOn_unregister]
    rfl

private theorem call_ready {s : EventListenerHandler × Station P} {link : Pair → Link}
    {isCallBackRegister : IsCallBackRegister} {call : Call}
    (h : Station.Ready process l record s.2) (hl : l.eventType = .event m)
    (hm : m.slotted = true) (hmem : l ∈ s.1.listenerList)
    (hstays : l ∈ ((machine P).next s
      ⟨stationManager P process link, isCallBackRegister, call⟩).1.listenerList) :
    let next := (machine P).next s ⟨stationManager P process link, isCallBackRegister, call⟩
    Station.Ready process l record next.2 ∧
      (next.2.2.drop s.2.2.length).filterMap (forListener l) = [] := by
  intro next
  let I : Station P → Prop := fun w => Station.Ready process l record w ∧
    ∃ new, w.2 = s.2.2 ++ new ∧ new.filterMap (forListener l) = []
  have hnext : I next.2 := by
    have htable := table_next P s ⟨stationManager P process link, isCallBackRegister, call⟩
    have hstate : next.2 = ((sharing P).machine.next (table s)
        ((stationManager P process link).provider isUpdate,
          call.onTable isCallBackRegister)).2 := congrArg Prod.snd htable
    have hlist : l ∈ ((sharing P).machine.next (table s)
        ((stationManager P process link).provider isUpdate,
          call.onTable isCallBackRegister)).1 := by
      rw [← htable]
      exact hstays
    rw [hstate]
    refine (sharing P).next_invariant_of_needed (I := I) _ ?_ ?_
      ⟨h, [], (List.append_nil _).symm, rfl⟩
    · rintro k hnew w ⟨hready, new, hsent, hnone⟩
      have hk : k ≠ l.pair := fun hk => hnew l hmem hk.symm
      have hop : (Op.register (process.registration P (link k).observer k
          (isUpdate k.eventType)) : Op P).Ordinary process := Or.inr (Or.inl ⟨_, _, _, rfl⟩)
      refine ⟨⟨hready.own.request (link k) hop,
        hready.stores.request (link k) hop nofun⟩,
        new ++ w.1.sends process.owns (link k) (.register
          (process.registration P (link k).observer k (isUpdate k.eventType))), ?_, ?_⟩
      · rw [← List.append_assoc, ← hsent]
        rfl
      · rw [List.filterMap_append, hnone, List.nil_append]
        rcases Remote.sends_cases process.owns (link k) (.register (process.registration P
          (link k).observer k (isUpdate k.eventType))) w.1 with ⟨-, t, -, -, hsends⟩ | ⟨-, hsends⟩
        · rw [hsends]
          exact callbacksOn_register_other hl hm hk _ _ _ _
        · rw [hsends]
          rfl
    · rintro k horphaned w ⟨hready, new, hsent, hnone⟩
      have hk : k ≠ l.pair := by
        rintro rfl
        have hdrops := horphaned.2 l hmem rfl
        cases hcall : call.onTable isCallBackRegister with
        | subscribe same e =>
          rw [hcall] at hdrops
          cases hdrops
        | release drop =>
          rw [hcall] at hdrops hlist
          change l ∈ ((sharing P).release _ drop (table s)).1.1 at hlist
          rw [(sharing P).release_table] at hlist
          have hkept := (List.mem_filter.mp hlist).2
          rw [show drop l = true from hdrops] at hkept
          cases hkept
      have hop : (Op.unregister (process.key P k) : Op P).Ordinary process :=
        Or.inr (Or.inr ⟨_, rfl⟩)
      refine ⟨⟨hready.own.request (link k) hop, hready.stores.request (link k) hop ?_⟩,
        new ++ w.1.sends process.owns (link k) (.unregister (process.key P k)), ?_, ?_⟩
      · intro heq
        exact hk (process.key_injective (Op.unregister.inj heq))
      · rw [← List.append_assoc, ← hsent]
        rfl
      · rw [Remote.sends_unregister, List.append_nil]
        exact hnone
  obtain ⟨hready, new, hsent, hnone⟩ := hnext
  refine ⟨hready, ?_⟩
  rw [hsent, List.drop_left]
  exact hnone

/-- A step in which nothing fails for a listener that stays, while the service lives. -/
def Device.Undisturbed (process : Process) (l : EventListener) (s : Device P)
    (input : DeviceStep P process) : Prop :=
  s.Serves process l input ∧ input ≠ .died ∧
    l ∈ ((device P process).next s input).threads.listeners

private theorem sentSince_of_handler {s next : Device P}
    {handler : EventListenerHandler × Station P} (h : next.threads.handler = handler) :
    s.sentSince next = handler.2.2.drop s.sent.length := by
  subst h
  rfl

private theorem sentSince_of_same {s next : Device P}
    (h : next.threads.handler = s.threads.handler) : s.sentSince next = [] := by
  rw [sentSince_of_handler h]
  exact List.drop_length

private theorem undisturbed_next {s : Device P} {input : DeviceStep P process}
    (h : Station.Ready process l record s.threads.handler.2) (hl : l.eventType = .event m)
    (hm : m.slotted = true) (hinput : s.Undisturbed process l input) :
    Station.Ready process l record ((device P process).next s input).threads.handler.2 ∧
      (s.sentSince ((device P process).next s input)).filterMap (forListener l) =
        input.reported l m record := by
  obtain ⟨⟨hmem, -⟩, hdied, hstays⟩ := hinput
  rcases device_cases process s input with ⟨index, rfl⟩ | ⟨f, hf, hstep⟩ | ⟨step, hstep, hnext⟩
  · have hhandler : ((device P process).next s (.arrives index)).threads.handler =
        s.threads.handler := by
      simp only [Mealy.next, device]
      split <;> rfl
    rw [sentSince_of_same hhandler, hhandler]
    exact ⟨h, rfl⟩
  · rw [Mealy.next, hstep]
    obtain ⟨hown, hstores⟩ := h
    have hsent : s.sentSince (s.after { s.threads with
        handler := (s.threads.handler.1, f s.threads.handler.2) }) =
          (f s.threads.handler.2).2.drop s.sent.length := rfl
    rw [hsent]
    cases input with
    | serves env op =>
      cases hf
      refine ⟨⟨hown.serves env op, hstores.serves env op⟩, ?_⟩
      change ((s.sent ++ s.threads.handler.2.1.sendsWhileServing process.owns env op.val).drop
        s.sent.length).filterMap _ = _
      rw [List.drop_left]
      exact serves_reported ⟨hown, hstores⟩ hl hm env op
    | died => exact absurd rfl hdied
    | restarted =>
      cases hf
      obtain ⟨i, t, ht, hrecord⟩ := hstores
      have hsame : s.threads.handler.2.1.restarted = s.threads.handler.2.1 := by
        rw [Remote.restarted, ht]
      change Station.Ready process l record (s.threads.handler.2.1.restarted, _) ∧ _
      rw [hsame]
      refine ⟨⟨hown, i, t, ht, hrecord⟩, ?_⟩
      change (s.sent.drop s.sent.length).filterMap _ = []
      rw [List.drop_length]
      rfl
    | onRemoteDied remote =>
      cases hf
      have hservice : (s.threads.handler.2.1.onRemoteDied remote).service =
          s.threads.handler.2.1.service := by
        unfold Remote.onRemoteDied
        split_ifs <;> rfl
      refine ⟨⟨fun i t ht => hown i t (hservice ▸ ht), ?_⟩, ?_⟩
      · obtain ⟨i, t, ht, hrecord⟩ := hstores
        exact ⟨i, t, hservice.trans ht, hrecord⟩
      · change (s.sent.drop s.sent.length).filterMap _ = []
        rw [List.drop_length]
        rfl
    | _ => cases hf
  · have hreported : input.reported l m record = [] := by
      cases input <;> first | rfl | cases hstep
    rw [hreported]
    have hthreads : ((device P process).next s input).threads =
        (threads P _).next s.threads step := by rw [Mealy.next, hnext]; rfl
    rw [hthreads] at hstays
    rcases onThreads_handler hstep s.threads with hsame | ⟨link, isCallBackRegister, call, hcall⟩
    · have hhandler := (congrArg Threads.handler hthreads).trans hsame
      rw [sentSince_of_same hhandler, hhandler]
      exact ⟨h, rfl⟩
    · have hhandler := (congrArg Threads.handler hthreads).trans hcall
      rw [sentSince_of_handler hhandler, hhandler]
      refine call_ready h hl hm hmem ?_
      change l ∈ ((threads P _).next s.threads step).handler.1.listenerList at hstays
      rw [hcall] at hstays
      exact hstays

private theorem own_next (s : Device P) (input : DeviceStep P process)
    (h : s.threads.handler.2.1.KeepsOwn process) :
    ((device P process).next s input).threads.handler.2.1.KeepsOwn process := by
  rcases device_cases process s input with ⟨index, rfl⟩ | ⟨f, hf, hstep⟩ | ⟨step, hstep, hnext⟩
  · simp only [Mealy.next, device]
    split <;> exact h
  · rw [Mealy.next, hstep]
    cases input with
    | serves env op =>
      cases hf
      exact h.serves env op
    | died =>
      cases hf
      intro i t ht
      cases ht
    | restarted =>
      cases hf
      change s.threads.handler.2.1.restarted.KeepsOwn process
      unfold Remote.restarted
      split
      · exact h
      · intro i t ht
        cases ht
        exact Remote.KeepsOwn.start 0 _ rfl
    | onRemoteDied remote =>
      cases hf
      change (s.threads.handler.2.1.onRemoteDied remote).KeepsOwn process
      unfold Remote.onRemoteDied
      split_ifs <;> exact h
    | _ => cases hf
  · rw [Mealy.next, hnext]
    change ((threads P _).next s.threads step).handler.2.1.KeepsOwn process
    rcases onThreads_handler hstep s.threads with hsame | ⟨link, isCallBackRegister, call, hcall⟩
    · rw [hsame]
      exact h
    · rw [hcall]
      exact next_invariant (P := P) (M := stationManager P process link)
        (I := fun w => w.1.KeepsOwn process)
        (fun k _ _ hw => hw.request (link k) (Or.inr (Or.inl ⟨_, _, _, rfl⟩)))
        (fun k _ hw => hw.request (link k) (Or.inr (Or.inr ⟨_, rfl⟩))) h isCallBackRegister call

end Device

/-- **What is reported reaches the functions.** From any state that the process and the
service can reach, while a listener of an event of one slot stays in the table, its pair is
registered and nothing fails, its function is called with what was on its way and with what
was reported meanwhile, once for each report, as soon as nothing more is under way. -/
theorem reports_reach_functions (P : Platform) (process : Process)
    (before steps : List (DeviceStep P process)) (l : EventListener) (hservable : l.Servable)
    {m : ObserverMask} (hl : l.eventType = .event m) (hm : m.slotted = true) (record : Record) :
    let s := (device P process).run (.start P) before
    s.threads.handler.2.1.Stores process l.pair record →
      (device P process).Along (Device.Undisturbed process l) s steps →
        ((device P process).run s steps).pending l = [] →
          (Device.calls process l s steps).Perm
            (s.pending l ++ steps.flatMap (DeviceStep.reported l m record)) := by
  intro s hstores halong hrest
  have hown : s.threads.handler.2.1.KeepsOwn process :=
    (device P process).invariant (I := fun t => t.threads.handler.2.1.KeepsOwn process)
      own_next Remote.KeepsOwn.start before
  have hkept : (device P process).Along (fun t input => (t.threads.Tidy ∧
      Station.Ready process l record t.threads.handler.2) ∧ t.Undisturbed process l input) s
        steps := by
    refine Mealy.Along.of_invariant (I := fun t : Device P => t.threads.Tidy ∧
      Station.Ready process l record t.threads.handler.2) (fun t input hinput ht => ?_)
      ⟨Device.tidy_run process before, hown, hstores⟩ halong
    exact ⟨Device.tidy_next process ht.1 input, (undisturbed_next ht.2 hl hm hinput).1⟩
  have hstep : ∀ t input, (t.threads.Tidy ∧ Station.Ready process l record t.threads.handler.2) ∧
      t.Undisturbed process l input →
        (callsTo l ((device P process).out t input) ++
          ((device P process).next t input).pending l).Perm
            (t.pending l ++ input.reported l m record) := by
    intro t input ht
    rw [← (undisturbed_next ht.1.2 hl hm ht.2).2]
    exact Device.flow .perm id ht.1.1.sound input
      fun step hstep => ht.1.1.passes_all ht.2.1.1 hservable (ht.2.1.2 step hstep)
  have hflow := Mealy.flow_along Accounting.perm (Device.pending l) hstep hkept
  rw [Mealy.entered_of_inputs, hrest, List.append_nil] at hflow
  exact hflow

/-- The function of a listener of the signal is called with the signal that is reported. -/
theorem signal_reaches_function :
    let process : Process := ⟨"app", 1, 1, 1, ""⟩
    let link : Pair → Link := fun _ => ⟨true, true, true, true, 0, .native, 1⟩
    let l : EventListener := ⟨7, .event .signalStrengths, 0, 1, 1⟩
    let s := (device .dualSim process).run (.start .dualSim)
      [.on 7 (.event .signalStrengths) 0 true link (fun _ _ _ => true)]
    (Device.calls process l s
      [.serves .native (.update (.signalInfo 0 [some "good"])),
        .serves .native (.update (.signalInfo 1 [some "bad"])), .arrives 0,
        .processEvent fun _ => .succeeding 0, .workUpdated 0 .succeeding, .proceed 7]).Perm
      [some ⟨0, .onSignalInfoUpdated 0 [some "good"]⟩] := by
  refine reports_reach_functions Platform.dualSim ⟨"app", 1, 1, 1, ""⟩ _ _
    ⟨7, .event .signalStrengths, 0, 1, 1⟩ ⟨by decide, Or.inl (by decide)⟩ rfl rfl
    { tokenId := 1, bundleName := "app", uid := 1, pid := 1, slotId := 0,
      mask := Platform.dualSim.mask .signalStrengths, telephonyObserver := some 1 }
    ⟨0, _, rfl, rfl⟩ ?_ rfl
  have hattempts : ∀ i : Nat, ((fun _ => .succeeding 0 : Nat → Attempt) i).Succeeds :=
    fun _ => ⟨rfl, rfl, rfl, rfl⟩
  refine ⟨⟨⟨?_, ?_⟩, nofun, ?_⟩, ⟨⟨?_, ?_⟩, nofun, ?_⟩, ⟨⟨?_, ?_⟩, nofun, ?_⟩,
    ⟨⟨?_, ?_⟩, nofun, ?_⟩, ⟨⟨?_, ?_⟩, nofun, ?_⟩, ⟨⟨?_, ?_⟩, nofun, ?_⟩, trivial⟩
  all_goals first
    | exact List.mem_cons_self
    | intro step hstep
      cases hstep <;> first
        | exact hattempts
        | trivial
        | rintro item hitem -
          cases hitem
          exact ⟨rfl, rfl, nofun⟩

end Napi

end TelephonyStateRegistry
