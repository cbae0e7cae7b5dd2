import TelephonyStateRegistry.Client.Replays
import TelephonyStateRegistry.Correctness.Serving
import TelephonyStateRegistry.Correctness.SharedClient

/-!
# What a new JS listener learns

The service replays the current state to whoever registers, and the mutex keeps the
replay from being dispatched before the new listener is in the table. But only the first
listener of a pair registers; the others share its registration, and learn the current
state if its message happens to be on its way. And if somebody else in the process has
registered the pair, the replay goes there.
-/

namespace TelephonyStateRegistry

open Reactive

variable {P : Platform} {process : Process}

/-! ## What a registration makes the service send -/

private theorem replayed_congr (c : Caches P) (env : Env) {r r' : Record} (m : ObserverMask)
    (hslot : r.slotId = r'.slotId) (htoken : r.tokenId = r'.tokenId) :
    c.replayed env r m = c.replayed env r' m := by
  unfold Caches.replayed
  rw [hslot]
  refine congrArg _ (funext fun callback => ?_)
  unfold Callback.shown Record.isCanReadCallHistory Record.canManageCallForDevices
  rw [htoken]

private theorem callbacksOn_register {s : Service P} {link : Link} {observer : Observer} {k : Pair}
    {m : ObserverMask} (owns : Record → Bool) (hevent : k.eventType = .event m)
    (hobserver : ((process.registration P observer k true).subscriber s).telephonyObserver ≠
      none) :
    let r := process.registration P observer k true
    (registerStateChange link.env r s).2.callbacksOn owns =
      if r.admitted P link.env ∧ owns (r.subscriber s) = true then
        (s.caches.replayed link.env r.record m).toList
      else [] := by
  intro r
  have hkey : (r.subscriber s).key = r.key := r.subscriber_key s
  have htoken : (r.subscriber s).tokenId = r.record.tokenId := congrArg Key.tokenId hkey
  have hslot : (r.subscriber s).slotId = r.record.slotId := congrArg Key.slotId hkey
  have hmask : r.mask = P.mask m := by
    change k.eventType.toUint32t P = P.mask m
    rw [hevent]
    rfl
  have hreplay : r.replay link.env s =
      ((s.caches.replayed link.env r.record m).map (Delivery.mk (r.subscriber s))).toList := by
    rw [Registration.replay_of_single hmask, if_pos ⟨rfl, hobserver⟩,
      replayed_congr s.caches link.env m hslot htoken]
  unfold Output.callbacksOn
  rw [registerStateChange_deliveries]
  by_cases hadm : r.admitted P link.env
  · rw [if_pos hadm, hreplay]
    cases s.caches.replayed link.env r.record m with
    | none => simp
    | some callback => cases howns : owns (r.subscriber s) <;> simp [hadm, howns]
  · rw [if_neg hadm, if_neg fun h => hadm h.1]
    rfl

/-- A request that reaches the service makes it send; another one does not. -/
theorem Remote.sends_cases (owns : Record → Bool) (link : Link) (op : Op P) (w : Remote P) :
    (∃ i s, w.service = some (i, s) ∧ w.Reaches link ∧
      w.sends owns link op = (op.run link.env s).2.callbacksOn owns) ∨
    (¬w.Reaches link ∧ w.sends owns link op = []) := by
  have hservice := w.getProxy_service link
  cases hproxy : w.getProxy link with
  | mk proxy w' =>
    rw [hproxy] at hservice
    change w'.service = w.service at hservice
    cases proxy with
    | none =>
      refine Or.inr ⟨?_, by simp only [Remote.sends, hproxy]⟩
      rintro ⟨i, s, hi, -⟩
      rw [hproxy] at hi
      cases hi
    | some i =>
      cases hs : w.service with
      | none =>
        refine Or.inr ⟨?_, by simp only [Remote.sends, hproxy, hservice, hs]⟩
        rintro ⟨j, s, -, hj, -⟩
        rw [hs] at hj
        cases hj
      | some js =>
        obtain ⟨j, s⟩ := js
        by_cases hij : i = j ∧ link.sendRequest = true
        · have hsends : w.sends owns link op = (op.run link.env s).2.callbacksOn owns := by
            simp only [Remote.sends, hproxy, hservice, hs, if_pos hij]
          obtain ⟨rfl, hsend⟩ := hij
          exact Or.inl ⟨i, s, rfl, ⟨i, s, by rw [hproxy], hs, hsend⟩, hsends⟩
        · refine Or.inr ⟨?_, by simp only [Remote.sends, hproxy, hservice, hs, if_neg hij]⟩
          rintro ⟨k, t, hk, ht, hsend⟩
          rw [hproxy] at hk
          rw [hs] at ht
          cases hk
          cases ht
          exact hij ⟨rfl, hsend⟩

/-! ## The service along a run -/

variable {t : Replays P}

/-- The service is alive, and every observer in the records of the process is known. -/
def Host.Serving (process : Process) (w : Host P) : Prop :=
  w.remote.service.isSome = true ∧ w.Sound process

private theorem Host.Serving.request {w : Host P} (hw : w.Serving process) (user : User)
    (link : Link) (request : ClientRequest) :
    (w.request process user link request).2.Serving process := by
  obtain ⟨halive, hsound⟩ := hw
  refine ⟨?_, hsound.request user link request⟩
  change (w.remote.request link _).2.service.isSome = true
  rcases w.remote.request_cases link (request.op P process w.makers.length) with
    ⟨i, s, -, -, -, hservice⟩ | ⟨-, -, hservice⟩
  · rw [hservice]
    rfl
  · rw [hservice]
    exact halive

private theorem Host.Serving.serves {w : Host P} (hw : w.Serving process) (env : Env)
    (op : ForeignOp P process) :
    ({ w with remote := w.remote.serves env op.val } : Host P).Serving process := by
  refine ⟨?_, hw.2.serves env op⟩
  rw [Remote.serves, Option.isSome_map]
  exact hw.1

private theorem serving_next (ht : t.host.Serving process) (step : ReplayStep P process) :
    ((replays P process).next t step).host.Serving process := by
  have hcall (link : Pair → Link) (isCallBackRegister : Napi.IsCallBackRegister)
      (call : Napi.Call) : ((Napi.machine P).next (t.handler, t.host, t.messages)
        ⟨messageManager P process link, isCallBackRegister, call⟩).2.1.Serving process :=
    Napi.next_invariant (I := fun w : Host P × List (Callback P) => w.1.Serving process)
      (fun k b _ hw => hw.request .frontEnd (link k)
        (.addStateObserver k.slotId (k.eventType.toUint32t P) b))
      (fun k _ hw => hw.request .frontEnd (link k)
        (.removeStateObserver k.slotId (k.eventType.toUint32t P))) ht isCallBackRegister call
  obtain ⟨handler, registering, host, messages, events⟩ := t
  cases step with
  | register link isCallBackRegister listener =>
    cases registering with
    | some _ => exact ht
    | none => exact hcall link isCallBackRegister (.registerEventListener listener)
  | registered => cases registering <;> exact ht
  | call link isCallBackRegister call =>
    cases registering with
    | some _ => exact ht
    | none => exact hcall link isCallBackRegister call
  | neighbour link request => exact ht.request .neighbour link request
  | serves env op => exact ht.serves env op
  | receive index =>
    simp only [Mealy.next, replays]
    split <;> exact ht
  | processEvent attempts =>
    simp only [Mealy.next, replays]
    split <;> exact ht

private theorem serving_run (before : List (ReplayStep P process)) :
    ((replays P process).run (Replays.start P) before).host.Serving process :=
  (replays P process).invariant (I := fun t => t.host.Serving process)
    (fun _ step ht => serving_next ht step) ⟨rfl, Host.Sound.start⟩ before

/-! ## What is on its way -/

/-- A callback is on its way to the thread of the handler. -/
def Replays.Pending (callback : Callback P) (t : Replays P) : Prop :=
  callback ∈ t.messages ∨ callback ∈ t.events

/-- A listener is in the table that the next event will be compared with. -/
def Replays.Lists (listener : Napi.EventListener) (t : Replays P) : Prop :=
  listener ∈ (t.registering.getD t.handler).listenerList

/-- The mutex is free, and nothing is on its way. -/
def Replays.Drained (t : Replays P) : Prop :=
  t.registering = none ∧ t.messages = [] ∧ t.events = []

/-- A step that drops no listener equal to a given one and fails at no listener. -/
def ReplayStep.Spares (listener : Napi.EventListener) : ReplayStep P process → Prop
  | .call _ isCallBackRegister c => (c.onTable isCallBackRegister).drops listener = false
  | .processEvent attempts => ∀ i, (attempts i).Succeeds
  | _ => True

variable {listener : Napi.EventListener} {callback : Callback P} {step : ReplayStep P process}

private theorem mem_messages_next (process : Process) (t : Replays P) (link : Pair → Link)
    (isCallBackRegister : Napi.IsCallBackRegister) (call : Napi.Call)
    (h : callback ∈ t.messages) :
    callback ∈ ((Napi.machine P).next (t.handler, t.host, t.messages)
      ⟨messageManager P process link, isCallBackRegister, call⟩).2.2 :=
  Napi.next_invariant (I := fun w : Host P × List (Callback P) => callback ∈ w.2)
    (fun _ _ _ hw => List.mem_append_left _ hw) (fun _ _ hw => List.mem_append_left _ hw) h
    isCallBackRegister call

private theorem mem_listenerList_next (process : Process) (t : Replays P) (link : Pair → Link)
    (isCallBackRegister : Napi.IsCallBackRegister) (call : Napi.Call)
    (hcall : (call.onTable isCallBackRegister).drops listener = false)
    (h : listener ∈ t.handler.listenerList) :
    listener ∈ ((Napi.machine P).next (t.handler, t.host, t.messages)
      ⟨messageManager P process link, isCallBackRegister, call⟩).1.listenerList := by
  have htable := congrArg Prod.fst (Napi.table_next P (t.handler, t.host, t.messages)
    ⟨messageManager P process link, isCallBackRegister, call⟩)
  change ((Napi.machine P).next _ _).1.listenerList = _ at htable
  rw [htable]
  exact (Napi.sharing P).mem_next_of_not_dropped _ h hcall

private theorem lists_next (hspares : step.Spares listener) (h : t.Lists listener) :
    ((replays P process).next t step).Lists listener := by
  have hcall (link : Pair → Link) (isCallBackRegister : Napi.IsCallBackRegister)
      (call : Napi.Call) (hdrops : (call.onTable isCallBackRegister).drops listener = false) :=
    mem_listenerList_next process t link isCallBackRegister call hdrops
  obtain ⟨handler, registering, host, messages, events⟩ := t
  cases step with
  | register link isCallBackRegister l =>
    cases registering with
    | some _ => exact h
    | none => exact hcall link isCallBackRegister (.registerEventListener l) rfl h
  | registered => cases registering <;> exact h
  | call link isCallBackRegister call =>
    cases registering with
    | some _ => exact h
    | none => exact hcall link isCallBackRegister call hspares h
  | neighbour link request => exact h
  | serves env op => exact h
  | receive index =>
    simp only [Mealy.next, replays]
    split <;> exact h
  | processEvent attempts =>
    simp only [Mealy.next, replays]
    split <;> exact h

private theorem pending_next (hspares : step.Spares listener)
    (hlists : t.Lists listener)
    (hneeds : ∀ attempt, (Napi.sendEvent callback).needs attempt listener = true)
    (h : t.Pending callback) :
    ((replays P process).next t step).Pending callback ∨
      ⟨listener, (Napi.sendEvent callback).info⟩ ∈ (replays P process).out t step := by
  have hcall (link : Pair → Link) (isCallBackRegister : Napi.IsCallBackRegister)
      (call : Napi.Call) (hmem : callback ∈ t.messages) :=
    mem_messages_next process t link isCallBackRegister call hmem
  obtain ⟨handler, registering, host, messages, events⟩ := t
  cases step with
  | register link isCallBackRegister l =>
    cases registering with
    | some _ => exact Or.inl h
    | none => exact Or.inl (h.imp_left (hcall link isCallBackRegister (.registerEventListener l)))
  | registered => cases registering <;> exact Or.inl h
  | call link isCallBackRegister call =>
    cases registering with
    | some _ => exact Or.inl h
    | none => exact Or.inl (h.imp_left (hcall link isCallBackRegister call))
  | neighbour link request => exact Or.inl (h.imp_left (List.mem_append_left _))
  | serves env op => exact Or.inl (h.imp_left (List.mem_append_left _))
  | receive index =>
    refine Or.inl ?_
    simp only [Mealy.next, replays]
    split
    · exact h
    · rename_i c hc
      rcases h with h | h
      · by_cases hsame : c = callback
        · exact Or.inr (List.mem_append_right _ (List.mem_singleton.mpr hsame.symm))
        · refine Or.inl (List.mem_eraseIdx_iff_getElem?.mpr ?_)
          obtain ⟨i, hi⟩ := List.mem_iff_getElem?.mp h
          refine ⟨i, ?_, hi⟩
          rintro rfl
          exact hsame (Option.some.inj (hc.symm.trans hi))
      · exact Or.inr (List.mem_append_left _ h)
  | processEvent attempts =>
    simp only [Mealy.next, Mealy.out, replays]
    split
    · rename_i c rest
      rcases h with h | h
      · exact Or.inl (Or.inl h)
      · rcases List.mem_cons.mp h with rfl | h
        · refine Or.inr ((Napi.mem_processEvent hspares).mpr ?_)
          obtain ⟨i, hi, rfl⟩ := List.getElem_of_mem hlists
          exact ⟨i, hi, hneeds _, rfl⟩
        · exact Or.inl (Or.inr h)
    · exact Or.inl h

private theorem told_of_pending {later : List (ReplayStep P process)} (hlists : t.Lists listener)
    (hneeds : ∀ attempt, (Napi.sendEvent callback).needs attempt listener = true)
    (hpending : t.Pending callback) (hspares : ∀ step ∈ later, step.Spares listener)
    (hdrained : ((replays P process).run t later).Drained) :
    ∃ items ∈ (replays P process).outs t later,
      ⟨listener, (Napi.sendEvent callback).info⟩ ∈ items := by
  induction later generalizing t with
  | nil =>
    obtain ⟨-, hmessages, hevents⟩ := hdrained
    rw [Mealy.run_nil] at hmessages hevents
    rw [Replays.Pending, hmessages, hevents] at hpending
    exact absurd hpending (not_or.mpr ⟨List.not_mem_nil, List.not_mem_nil⟩)
  | cons step later ih =>
    obtain ⟨hstep, hlater⟩ := List.forall_mem_cons.mp hspares
    rw [Mealy.outs_cons]
    rcases pending_next hstep hlists hneeds hpending with hnext | hout
    · obtain ⟨items, hitems, hitem⟩ := ih (lists_next hstep hlists) hnext hlater hdrained
      exact ⟨items, List.mem_cons_of_mem _ hitems, hitem⟩
    · exact ⟨_, List.mem_cons_self, hout⟩

/-! ## Letting everything arrive -/

/-- A step by which nothing is sent. -/
private def ReplayStep.Quiet : ReplayStep P process → Prop
  | .registered => True
  | .receive _ => True
  | .processEvent _ => True
  | _ => False

private theorem pending_of_quiet (t : Replays P) (hquiet : step.Quiet) :
    (∀ c, ((replays P process).next t step).Pending c → t.Pending c) ∧
      ∀ item ∈ (replays P process).out t step,
        ∃ c, t.Pending c ∧ item.info = (Napi.sendEvent c).info := by
  obtain ⟨handler, registering, host, messages, events⟩ := t
  cases step with
  | register link isCallBackRegister l => exact hquiet.elim
  | call link isCallBackRegister call => exact hquiet.elim
  | neighbour link request => exact hquiet.elim
  | serves env op => exact hquiet.elim
  | registered =>
    cases registering <;>
      exact ⟨fun c hc => hc, fun item hitem => absurd hitem List.not_mem_nil⟩
  | receive index =>
    simp only [Mealy.next, Mealy.out, replays]
    split
    · exact ⟨fun c hc => hc, fun item hitem => absurd hitem List.not_mem_nil⟩
    · rename_i callback hcallback
      refine ⟨fun c hc => ?_, fun item hitem => absurd hitem List.not_mem_nil⟩
      rcases hc with hc | hc
      · exact Or.inl (List.mem_of_mem_eraseIdx hc)
      · rcases List.mem_append.mp hc with hc | hc
        · exact Or.inr hc
        · rw [List.mem_singleton.mp hc]
          exact Or.inl (List.mem_of_getElem? hcallback)
  | processEvent attempts =>
    simp only [Mealy.next, Mealy.out, replays]
    split
    · rename_i callback rest
      refine ⟨fun c hc => hc.imp_right (List.mem_cons_of_mem _), fun item hitem => ?_⟩
      exact ⟨callback, Or.inr List.mem_cons_self, Napi.info_of_mem_processEvent hitem⟩
    · exact ⟨fun c hc => hc, fun item hitem => absurd hitem List.not_mem_nil⟩

private theorem pending_of_told {later : List (ReplayStep P process)}
    (hquiet : ∀ step ∈ later, step.Quiet) {items : List (Napi.WorkItem P)}
    (hitems : items ∈ (replays P process).outs t later) {item : Napi.WorkItem P}
    (hitem : item ∈ items) : ∃ c, t.Pending c ∧ item.info = (Napi.sendEvent c).info := by
  induction later generalizing t with
  | nil => exact absurd hitems List.not_mem_nil
  | cons step later ih =>
    obtain ⟨hstep, hlater⟩ := List.forall_mem_cons.mp hquiet
    obtain ⟨hnext, hout⟩ := pending_of_quiet t hstep
    rcases List.mem_cons.mp hitems with rfl | hitems
    · exact hout item hitem
    · obtain ⟨c, hc, hinfo⟩ := ih hlater hitems
      exact ⟨c, hnext c hc, hinfo⟩

private theorem run_receives (t : Replays P) :
    (replays P process).run t (t.messages.map fun _ => .receive 0) =
      { t with messages := [], events := t.events ++ t.messages } := by
  obtain ⟨handler, registering, host, messages, events⟩ := t
  induction messages generalizing events with
  | nil => rw [List.append_nil]; rfl
  | cons c messages ih =>
    change (replays P process).run ⟨handler, registering, host, messages, events ++ [c]⟩ _ = _
    rw [ih]
    simp only [List.append_assoc, List.singleton_append]

private theorem run_processEvents (h : t.registering = none) :
    (replays P process).run t
        (t.events.map fun _ => .processEvent fun _ => .succeeding 0) =
      { t with events := [] } := by
  obtain ⟨handler, registering, host, messages, events⟩ := t
  obtain rfl : registering = none := h
  induction events with
  | nil => rfl
  | cons c events ih => exact ih

private theorem exists_drained (process : Process) (t : Replays P) :
    ∃ later, (∀ step ∈ later, step.Quiet ∧ ∀ listener, step.Spares listener) ∧
      ((replays P process).run t later).Drained := by
  let t₀ := (replays P process).next t .registered
  have hfree : t₀.registering = none := by
    obtain ⟨handler, registering, host, messages, events⟩ := t
    cases registering <;> rfl
  let t₁ : Replays P := { t₀ with messages := [], events := t₀.events ++ t₀.messages }
  refine ⟨.registered :: ((t₀.messages.map fun _ => .receive 0) ++
    t₁.events.map fun _ => .processEvent fun _ => .succeeding 0), ?_, ?_⟩
  · intro step hstep
    rcases List.mem_cons.mp hstep with rfl | hstep
    · exact ⟨trivial, fun _ => trivial⟩
    · rcases List.mem_append.mp hstep with hstep | hstep
      · obtain ⟨c, -, rfl⟩ := List.mem_map.mp hstep
        exact ⟨trivial, fun _ => trivial⟩
      · obtain ⟨c, -, rfl⟩ := List.mem_map.mp hstep
        exact ⟨trivial, fun _ _ => ⟨rfl, rfl, rfl, rfl⟩⟩
  · rw [Mealy.run_cons, Mealy.run_append, run_receives t₀, run_processEvents (t := t₁) hfree]
    exact ⟨hfree, rfl, rfl⟩

/-! ## What a new listener learns -/

variable {m : ObserverMask}

private theorem exists_replayed (c : Caches P) (env : Env) (record : Record)
    (hupdate : Napi.isUpdate (.event m) = true)
    (hmanage : m = .ccallState → record.canManageCallForDevices env = true) :
    ∃ callback, c.replayed env record m = some callback := by
  cases m <;> simp only [Napi.isUpdate, TelephonyUpdateEventType.event.injEq, reduceCtorEq,
    decide_false, decide_true, Bool.or_false, Bool.false_eq_true] at hupdate
  case ccallState =>
    refine Option.isSome_iff_exists.mp ?_
    simp only [Caches.replayed, Caches.cached, Option.bind_some, Callback.shown, hmanage rfl,
      if_true, Option.isSome_some]
  all_goals exact ⟨_, rfl⟩

private theorem sendEvent_serves (hupdate : Napi.isUpdate (.event callback.event) = true)
    (hevent : listener.eventType = .event callback.event)
    (hslot : callback.slotId = some listener.slotId) :
    (∀ attempt, (Napi.sendEvent callback).needs attempt listener = true) ∧
      (Napi.sendEvent callback).info = some ⟨listener.slotId, callback⟩ := by
  cases callback <;> simp only [Callback.event, Napi.isUpdate,
    TelephonyUpdateEventType.event.injEq, reduceCtorEq, decide_false, decide_true, Bool.or_false,
    Bool.false_eq_true] at hupdate
  all_goals
    obtain rfl := Option.some.inj hslot
    exact ⟨fun attempt => Napi.isNeedHandleCallbackUpdate_iff.mpr ⟨hevent, Or.inl rfl⟩, rfl⟩

private theorem callback_of_info {info : Napi.UpdateInfo P}
    (h : (Napi.sendEvent callback).info = some info) : info.callback = callback := by
  cases callback <;> cases h <;> rfl

private theorem registerEventListener_success {link : Pair → Link}
    {isCallBackRegister : Napi.IsCallBackRegister} {s : Napi.EventListenerHandler}
    {w : Host P × List (Callback P)}
    (h : (Napi.registerEventListener P (messageManager P process link) isCallBackRegister listener
      (s, w)).2 = .telephonySuccess) :
    let r := (Napi.registerEventListener P (messageManager P process link) isCallBackRegister
      listener (s, w)).1
    let add := (messageManager P process link).addStateObserver listener.pair
      (Napi.isUpdate listener.eventType) w
    listener ∈ r.1.listenerList ∧
      (((∃ l ∈ s.listenerList, l.pair = listener.pair) ∧ r.2 = w) ∨
        ((∀ l ∈ s.listenerList, l.pair ≠ listener.pair) ∧ add.1 = .telephonySuccess ∧
          r.2 = add.2)) := by
  have hlast (ls : List Napi.EventListener) : listener ∈ ls ++ [listener] :=
    List.mem_append_right _ (List.mem_singleton.mpr rfl)
  unfold Napi.registerEventListener at h ⊢
  rcases (Napi.sharing P).subscribe_cases
      ((messageManager P process link).provider Napi.isUpdate)
      (Napi.sameListener isCallBackRegister listener) listener (s.listenerList, w) with
    ⟨hs, -⟩ | ⟨-, ⟨hs, hpair⟩ | ⟨hfirst, ⟨hadd, hs⟩ | ⟨hadd, hs⟩⟩⟩ <;>
    simp only [hs] at h ⊢
  · have hne : ClientCode.telephonyErrCallbackAlreadyRegistered ≠ .telephonySuccess := by decide
    exact absurd h hne
  · exact ⟨hlast _, Or.inl ⟨hpair, trivial⟩⟩
  · exact ⟨hlast _, Or.inr ⟨hfirst, hadd, rfl⟩⟩
  · exact absurd h hadd

/-- Nobody else in the process has registered the pair. -/
def Host.Unshared (process : Process) (k : Pair) (w : Host P) : Prop :=
  ∀ record, w.record process k = some record → w.made record = true

private theorem owns_subscriber {w : Host P} {s : Service P} {k : Pair} (hsound : w.Sound process)
    (link : Link) (hrecord : w.record process k = s.registered (process.key P k)) :
    let host := (w.request process .frontEnd link
      (.addStateObserver k.slotId (k.eventType.toUint32t P) true)).2
    let record := (process.registration P w.makers.length k true).subscriber s
    (host.owns process record = true ↔ w.Unshared process k) ∧ record.telephonyObserver ≠ none := by
  intro host record
  have howns {old : Record} (hkey : old.key = process.key P k) : process.owns old = true := by
    rw [Process.owns, show old.tokenId = process.tokenId from congrArg Key.tokenId hkey,
      show old.pid = process.pid from congrArg Key.pid hkey, beq_self_eq_true, beq_self_eq_true]
    rfl
  have hsubscriber : record = (s.registered (process.key P k)).getD
    (process.registration P w.makers.length k true).record := rfl
  rw [Host.owns, howns (Registration.subscriber_key _ s), Bool.true_and]
  cases hold : s.registered (process.key P k) with
  | none =>
    rw [hold, Option.getD_none] at hsubscriber
    have hnew : record.telephonyObserver = some w.makers.length := by
      rw [hsubscriber]
      rfl
    have hmade : host.made record = true := Host.made_new hnew process .frontEnd link rfl
    refine ⟨iff_of_true hmade fun r hr => ?_, by rw [hnew]; exact Option.some_ne_none _⟩
    rw [hrecord, hold] at hr
    cases hr
  | some old =>
    rw [hold, Option.getD_some] at hsubscriber
    have hr : w.record process k = some record := by rw [hrecord, hold, hsubscriber]
    obtain ⟨o, ho, -⟩ := hsound.known k record hr
    refine ⟨?_, by rw [ho]; exact Option.some_ne_none _⟩
    rw [hsound.made_request hr]
    constructor
    · intro hmade other hother
      rw [hr] at hother
      cases hother
      exact hmade
    · exact fun hall => hall record hr

private theorem sends_register {link : Pair → Link} {k : Pair} {w : Host P}
    (hevent : k.eventType = .event m) (hw : w.Serving process)
    (hsuccess : ((hostManager P process link).addStateObserver k true w).1 =
      .telephonySuccess) {held : Option (Callback P)}
    (hheld : w.remote.held process (link k) k m = held) :
    let request : ClientRequest := .addStateObserver k.slotId (k.eventType.toUint32t P) true
    let host := (w.request process .frontEnd (link k) request).2
    (silentGates P (link k).env k.slotId = true ∧ w.Unshared process k →
      w.remote.sends (host.owns process) (link k) (request.op P process w.makers.length) =
        held.toList) ∧
    (¬(silentGates P (link k).env k.slotId = true ∧ w.Unshared process k) →
      w.remote.sends (host.owns process) (link k) (request.op P process w.makers.length) = []) := by
  intro request host
  subst hheld
  obtain ⟨hreach, hchecked⟩ := (host_add_success_iff true w).mp hsuccess
  obtain ⟨halive, hsound⟩ := hw
  let r := process.registration P w.makers.length k true
  have hadm : r.admitted P (link k).env ↔ silentGates P (link k).env k.slotId = true :=
    (process.admitted_iff _ k true _).trans (and_iff_right hchecked)
  rcases w.remote.sends_cases (host.owns process) (link k) (.register r) with
    ⟨i, s, hs, -, hsends⟩ | ⟨hnot, -⟩
  · have hrecord : w.record process k = s.registered r.key := by
      rw [Host.record, hs]
      rfl
    have hheld : w.remote.held process (link k) k m =
        s.caches.replayed (link k).env r.record m := by
      rw [Remote.held, hs]
      exact replayed_congr s.caches (link k).env m rfl rfl
    obtain ⟨howner, hobserver⟩ := owns_subscriber hsound (link k) hrecord
    have hall : w.remote.sends (host.owns process) (link k)
        (request.op P process w.makers.length) =
        if r.admitted P (link k).env ∧ host.owns process (r.subscriber s) = true then
          (s.caches.replayed (link k).env r.record m).toList
        else [] := hsends.trans (callbacksOn_register _ hevent hobserver)
    have hwhen : silentGates P (link k).env k.slotId = true ∧ w.Unshared process k ↔
        r.admitted P (link k).env ∧ host.owns process (r.subscriber s) = true :=
      and_congr hadm.symm howner.symm
    rw [hheld, hall, hwhen]
    exact ⟨fun h => if_pos h, fun h => if_neg h⟩
  · exact absurd hreach hnot

/-- Whatever happens once a listener registers: when nothing is on its way any more, a
callback has been queued for it. -/
def Replays.Learns (process : Process) (t : Replays P) (link : Pair → Link)
    (isCallBackRegister : Napi.IsCallBackRegister) (listener : Napi.EventListener)
    (callback : Callback P) : Prop :=
  ∀ later : List (ReplayStep P process), (∀ step ∈ later, step.Spares listener) →
    ((replays P process).run t (.register link isCallBackRegister listener :: later)).Drained →
      ∃ items ∈ (replays P process).outs t (.register link isCallBackRegister listener :: later),
        ⟨listener, some ⟨listener.slotId, callback⟩⟩ ∈ items

private theorem learns_iff_pending {link : Pair → Link}
    {isCallBackRegister : Napi.IsCallBackRegister} (hevent : listener.eventType = .event m)
    (hupdate : Napi.isUpdate (.event m) = true) (hcallback : callback.event = m)
    (hslot : callback.slotId = some listener.slotId)
    (hlists : ((replays P process).next t (.register link isCallBackRegister listener)).Lists
      listener) :
    t.Learns process link isCallBackRegister listener callback ↔
      ((replays P process).next t (.register link isCallBackRegister listener)).Pending
        callback := by
  subst hcallback
  obtain ⟨hneeds, hinfo⟩ := sendEvent_serves hupdate hevent hslot
  constructor
  · intro h
    obtain ⟨later, hlater, hdrained⟩ := exists_drained process
      ((replays P process).next t (.register link isCallBackRegister listener))
    obtain ⟨items, hitems, hitem⟩ := h later (fun step hstep => (hlater step hstep).2 listener)
      hdrained
    rcases List.mem_cons.mp hitems with rfl | hitems
    · have hnone : (replays P process).out t (.register link isCallBackRegister listener) = [] := by
        obtain ⟨handler, registering, host, messages, events⟩ := t
        cases registering <;> rfl
      rw [hnone] at hitem
      exact absurd hitem List.not_mem_nil
    · obtain ⟨c, hc, hc'⟩ := pending_of_told (fun step hstep => (hlater step hstep).1) hitems hitem
      have hsame : callback = c := callback_of_info hc'.symm
      exact hsame ▸ hc
  · intro hpending later hspares hdrained
    obtain ⟨items, hitems, hitem⟩ := told_of_pending hlists hneeds hpending hspares hdrained
    rw [hinfo] at hitem
    exact ⟨items, List.mem_cons_of_mem _ hitems, hitem⟩

private theorem exists_held {link : Link} {k : Pair} {w : Remote P}
    (hupdate : Napi.isUpdate (.event m) = true) (halive : w.service.isSome = true)
    (hpermission : m = .ccallState →
      link.env.verifyAccessToken process.tokenId .manageCallForDevices ≠ .denied) :
    ∃ callback, w.held process link k m = some callback ∧ callback.event = m ∧
      callback.slotId = some k.slotId := by
  obtain ⟨t, hs⟩ := Option.isSome_iff_exists.mp halive
  obtain ⟨callback, hreplayed⟩ := exists_replayed t.2.caches link.env
    (process.registration P link.observer k true).record hupdate fun hm => if_neg (hpermission hm)
  obtain ⟨hevent, hslot⟩ := Caches.replayed_event hreplayed
  refine ⟨callback, ?_, hevent, hslot ?_⟩
  · rw [Remote.held, hs]
    exact hreplayed
  · rintro rfl
    cases hupdate

private theorem next_register (link : Pair → Link)
    (isCallBackRegister : Napi.IsCallBackRegister) (hfree : t.registering = none) :
    let registered := Napi.registerEventListener P (messageManager P process link)
      isCallBackRegister listener (t.handler, t.host, t.messages)
    (replays P process).next t (.register link isCallBackRegister listener) =
      { t with
        registering := some registered.1.1
        host := registered.1.2.1
        messages := registered.1.2.2 } := by
  simp only [Mealy.next, replays, hfree]

private theorem pending_register_iff {link : Pair → Link}
    {isCallBackRegister : Napi.IsCallBackRegister} (hevent : listener.eventType = .event m)
    (hupdate : Napi.isUpdate (.event m) = true) (hfree : t.registering = none)
    (hserving : t.host.Serving process)
    (hsuccess : (Napi.registerEventListener P (messageManager P process link) isCallBackRegister
      listener (t.handler, t.host, t.messages)).2 = .telephonySuccess)
    (hheld : t.host.remote.held process (link listener.pair) listener.pair m = some callback) :
    ((replays P process).next t (.register link isCallBackRegister listener)).Pending callback ↔
      ((∀ l ∈ t.handler.listenerList, l.pair ≠ listener.pair) ∧
        silentGates P (link listener.pair).env listener.slotId = true ∧
          t.host.Unshared process listener.pair) ∨ t.Pending callback := by
  let registered := Napi.registerEventListener P (messageManager P process link)
    isCallBackRegister listener (t.handler, t.host, t.messages)
  rw [next_register link isCallBackRegister hfree]
  rcases (registerEventListener_success hsuccess).2 with
    ⟨⟨l, hl, hpair⟩, hsame⟩ | ⟨hfirst, hadd, hsent⟩
  · have hmessages : registered.1.2.2 = t.messages := congrArg Prod.snd hsame
    rw [Replays.Pending, hmessages]
    refine (or_iff_right ?_).symm
    rintro ⟨hfirst, -⟩
    exact hfirst l hl hpair
  · have hask : Napi.isUpdate listener.eventType = true := hevent ▸ hupdate
    rw [hask] at hadd hsent
    obtain ⟨hsends, hnone⟩ := sends_register hevent hserving hadd hheld
    have hmessages : registered.1.2.2 = t.messages ++ _ := congrArg Prod.snd hsent
    rw [Replays.Pending, hmessages, List.mem_append]
    by_cases hkept : silentGates P (link listener.pair).env listener.slotId = true ∧
        t.host.Unshared process listener.pair
    · rw [show t.host.remote.sends _ _ _ = _ from hsends hkept]
      exact iff_of_true (Or.inl (Or.inr (List.mem_singleton.mpr rfl))) (Or.inl ⟨hfirst, hkept⟩)
    · rw [show t.host.remote.sends _ _ _ = _ from hnone hkept, or_iff_left List.not_mem_nil]
      exact (or_iff_right fun h => hkept h.2).symm

/-- **Who learns the current state.** For the events whose registrations ask for it, the
service holds a value for every slot. A listener that registers with success is queued a
callback with that value, however the messages arrive and whatever others in the process
ask for, exactly if it is the first of its pair, the service has kept the registration and
nobody else in the process has one of the pair, or the value was on its way already. -/
theorem new_listener_learns_iff (P : Platform) (process : Process)
    (before : List (ReplayStep P process)) (link : Pair → Link)
    (isCallBackRegister : Napi.IsCallBackRegister) (listener : Napi.EventListener)
    {m : ObserverMask} (hevent : listener.eventType = .event m)
    (hupdate : Napi.isUpdate (.event m) = true) :
    let t := (replays P process).run (Replays.start P) before
    let env := (link listener.pair).env
    t.registering = none →
    (Napi.registerEventListener P (messageManager P process link) isCallBackRegister listener
      (t.handler, t.host, t.messages)).2 = .telephonySuccess →
    (m = .ccallState → env.verifyAccessToken process.tokenId .manageCallForDevices ≠ .denied) →
    ∃ callback,
      t.host.remote.held process (link listener.pair) listener.pair m = some callback ∧
      (t.Learns process link isCallBackRegister listener callback ↔
        ((∀ l ∈ t.handler.listenerList, l.pair ≠ listener.pair) ∧
          silentGates P env listener.slotId = true ∧
            t.host.Unshared process listener.pair) ∨ t.Pending callback) := by
  intro t env hfree hsuccess hpermission
  have hserving : t.host.Serving process := serving_run before
  obtain ⟨callback, hheld, hcallback, hslot⟩ := exists_held hupdate hserving.1 hpermission
  have hlists : ((replays P process).next t
      (.register link isCallBackRegister listener)).Lists listener := by
    rw [next_register link isCallBackRegister hfree]
    exact (registerEventListener_success hsuccess).1
  refine ⟨callback, hheld, ?_⟩
  rw [learns_iff_pending hevent hupdate hcallback hslot hlists]
  exact pending_register_iff hevent hupdate hfree hserving hsuccess hheld

/-- A first listener to the state of a SIM learns it. -/
theorem first_listener_learns :
    let P := Platform.dualSim
    let process : Process := ⟨"app", 1, 1, 1, ""⟩
    let link : Pair → Link := fun _ => .native
    ∃ callback, (Remote.start P).held process (link ⟨0, .event .simState⟩) ⟨0, .event .simState⟩
        .simState = some callback ∧
      (Replays.start P).Learns process link (fun _ => Nat.beq) ⟨1, .event .simState, 0, 2, 3⟩
        callback := by
  obtain ⟨callback, hheld, hlearns⟩ := new_listener_learns_iff Platform.dualSim
    ⟨"app", 1, 1, 1, ""⟩ [] (fun _ => .native) (fun _ => Nat.beq) ⟨1, .event .simState, 0, 2, 3⟩
    rfl rfl rfl (by decide) (by decide)
  refine ⟨callback, hheld, hlearns.mpr (Or.inl ⟨?_, rfl, ?_⟩)⟩
  · exact fun l hl => absurd hl List.not_mem_nil
  · intro record hrecord
    cases hrecord

/-- The listener of a second environment on the same pair is added with success, and
nothing is queued for it although the service holds the state of the slot. -/
theorem second_listener_untold :
    let P := Platform.dualSim
    let process : Process := ⟨"app", 1, 1, 1, ""⟩
    let link : Pair → Link := fun _ => .native
    let second : Napi.EventListener := ⟨4, .event .callState, 0, 5, 6⟩
    let t := (replays P process).run (Replays.start P)
      [.register link (fun _ => Nat.beq) ⟨1, .event .callState, 0, 2, 3⟩, .registered, .receive 0,
        .processEvent fun _ => .succeeding 0]
    (Napi.registerEventListener P (messageManager P process link) (fun _ => Nat.beq) second
        (t.handler, t.host, t.messages)).2 = .telephonySuccess ∧
      t.host.remote.held process (link second.pair) second.pair .callState =
        some (.onCallStateUpdated 0 (-1) []) ∧
      ¬t.Learns process link (fun _ => Nat.beq) second (.onCallStateUpdated 0 (-1) []) := by
  refine ⟨rfl, rfl, fun h => ?_⟩
  obtain ⟨items, hitems, hitem⟩ := h [.registered]
    (fun step hstep => by rw [List.mem_singleton.mp hstep]; trivial) ⟨rfl, rfl, rfl⟩
  have hempty : items = [] := by
    rcases List.mem_cons.mp hitems with hout | hout
    · exact hout
    · exact List.mem_singleton.mp hout
  rw [hempty] at hitem
  exact absurd hitem List.not_mem_nil

end TelephonyStateRegistry
