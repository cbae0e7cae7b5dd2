import Mathlib.Data.List.Perm.Basic
import TelephonyStateRegistry.Client.Device
import TelephonyStateRegistry.Client.Payloads
import TelephonyStateRegistry.Core.Flow
import TelephonyStateRegistry.Correctness.Silence

/-!
# From a callback of the service to the call of a JS function

What the service sends passes through the system, the handler's thread, the queue of
an event loop and the thread of the listener. On the way it may be dropped, and the
system and the loops may change the order; nothing is made up, and nothing is passed
on twice.
-/

namespace TelephonyStateRegistry

open Reactive

variable {P : Platform} {σ : Type}

namespace Napi

/-! ## What is under way for a listener -/

/-- What a work item carries for a listener. -/
def WorkItem.carried (l : EventListener) (item : WorkItem P) : Option (Option (UpdateInfo P)) :=
  if item.listener = l then some item.info else none

/-- What an event has for a listener. -/
def InnerEvent.offered (l : EventListener) (event : InnerEvent P) :
    Option (Option (UpdateInfo P)) :=
  if event.mayServe l = true then some event.info else none

/-- What the function of a listener is called with. -/
def called (l : EventListener) : WorkAction P → Option (Option (UpdateInfo P))
  | .callFunction item => item.carried l
  | _ => none

/-- What is under way for a listener, with the next to arrive first. -/
def Threads.pending (l : EventListener) (s : Threads P σ) : List (Option (UpdateInfo P)) :=
  (s.thread l.env).work.filterMap (called l) ++ s.queue.filterMap (WorkItem.carried l) ++
    s.events.filterMap (InnerEvent.offered l)

/-- What a step brings for a listener. -/
def ThreadStep.brings (l : EventListener) : ThreadStep P σ → List (Option (UpdateInfo P))
  | .notified callback => ((sendEvent callback).offered l).toList
  | _ => []

/-- What the calls of a step were made with. -/
def callsTo (l : EventListener) (actions : List (WorkAction P)) : List (Option (UpdateInfo P)) :=
  actions.filterMap (called l)

theorem called_of_quiet {l : EventListener} {action : WorkAction P} (h : action.quiet = true) :
    called l action = none := by
  cases action <;> first | rfl | cases h

private theorem called_of_env {listeners : List EventListener} {l : EventListener}
    {env : Pointer} (henv : env ≠ l.env) {t : JsThread P} (h : t.Calls listeners env)
    {action : WorkAction P} (haction : action ∈ t.work) : called l action = none := by
  rcases h.call action haction with hquiet | ⟨item, rfl, -, hitem, -⟩
  · exact called_of_quiet hquiet
  · refine if_neg fun hl => henv ?_
    rw [← hitem, hl]

private theorem callsTo_work_sublist (l : EventListener) (deleting : Finset Pointer)
    (item : WorkItem P) (answers : WorkAnswers) :
    (callsTo l (splitAtUnlock (workUpdated deleting item answers)).2).Sublist
      (item.carried l).toList := by
  obtain ⟨-, hafter, htail⟩ := workUpdated_split deleting item answers
  cases hwork : (splitAtUnlock (workUpdated deleting item answers)).2 with
  | nil => exact List.nil_sublist _
  | cons action actions =>
    rw [hwork] at hafter htail
    have hquiet : actions.filterMap (called l) = [] :=
      List.filterMap_eq_nil_iff.mpr fun a ha => called_of_quiet (htail a ha)
    rw [callsTo, List.filterMap_cons]
    rcases hafter action List.mem_cons_self with hnone | ⟨rfl, -⟩
    · rw [called_of_quiet hnone, hquiet]
      exact List.nil_sublist _
    · rw [called, hquiet]
      cases item.carried l <;> exact List.Sublist.refl _

private theorem callsTo_before_unlock (l : EventListener) (deleting : Finset Pointer)
    (item : WorkItem P) (answers : WorkAnswers) :
    callsTo l (splitAtUnlock (workUpdated deleting item answers)).1 = [] := by
  obtain ⟨hbefore, -, -⟩ := workUpdated_split deleting item answers
  refine List.filterMap_eq_nil_iff.mpr fun action haction => ?_
  rcases hbefore action haction with hquiet | ⟨rfl, -⟩
  · exact called_of_quiet hquiet
  · rfl

/-! ## One step -/

/-- What a step makes of what is under way compares with it. -/
def Threads.Passes (R : List (Option (UpdateInfo P)) → List (Option (UpdateInfo P)) → Prop)
    (l : EventListener) (s : Threads P σ) : ThreadStep P σ → Prop
  | .processEvent attempts => ∀ event ∈ s.events.head?,
    R ((Napi.processEvent event attempts s.listeners).filterMap (WorkItem.carried l))
      (event.offered l).toList
  | .workUpdated index answers => ∀ item ∈ s.queue[index]?,
    R (callsTo l (splitAtUnlock (workUpdated s.handler.1.deleting item answers)).2 ++
        (s.queue.eraseIdx index).filterMap (WorkItem.carried l))
      (s.queue.filterMap (WorkItem.carried l))
  | _ => True

section Step

variable {R : List (Option (UpdateInfo P)) → List (Option (UpdateInfo P)) → Prop}
  {l : EventListener} {s : Threads P σ}

private theorem flow_of_same (hR : Accounting R) {next : Threads P σ}
    {actions : List (WorkAction P)} (hcalls : callsTo l actions = [])
    (hpending : next.pending l = s.pending l) :
    R (callsTo l actions ++ next.pending l) (s.pending l ++ []) := by
  rw [hcalls, hpending, List.nil_append, List.append_nil]
  exact hR.refl _

private theorem flow_processEvent (hR : Accounting R) (attempts : Nat → Attempt)
    (h : s.Passes R l (.processEvent attempts)) :
    R (callsTo l ((threads P σ).out s (.processEvent attempts)) ++
        ((threads P σ).next s (.processEvent attempts)).pending l)
      (s.pending l ++ []) := by
  simp only [Mealy.out, Mealy.next, threads]
  cases hevents : s.events with
  | nil => exact flow_of_same hR rfl rfl
  | cons event events =>
    have hpassed := h event (by rw [hevents]; rfl)
    have hpending : s.pending l = (s.thread l.env).work.filterMap (called l) ++
        s.queue.filterMap (WorkItem.carried l) ++
          ((event.offered l).toList ++ events.filterMap (InnerEvent.offered l)) := by
      rw [Threads.pending, hevents, List.filterMap_cons]
      cases event.offered l <;> rfl
    rw [hpending, List.append_nil]
    simp only [callsTo, List.filterMap_nil, List.nil_append, Threads.pending, List.filterMap_append]
    rw [List.append_assoc, List.append_assoc, List.append_assoc]
    exact hR.append_left _ (hR.append_left _ (hR.append_right _ hpassed))

private theorem flow_workUpdated (hR : Accounting R) (index : Nat)
    (answers : WorkAnswers) (hpasses : s.Passes R l (.workUpdated index answers)) :
    R (callsTo l ((threads P σ).out s (.workUpdated index answers)) ++
        ((threads P σ).next s (.workUpdated index answers)).pending l)
      (s.pending l ++ []) := by
  simp only [Mealy.out, Mealy.next, threads]
  cases hitem : s.queue[index]? with
  | none => exact flow_of_same hR rfl rfl
  | some item =>
    dsimp only
    cases hidle : (s.thread item.listener.env).isIdle with
    | false => exact flow_of_same hR rfl rfl
    | true =>
      have hpassed := hpasses item hitem
      rw [if_neg (by simp only [Bool.true_eq_false, not_false_eq_true])]
      rw [callsTo_before_unlock, List.nil_append, List.append_nil]
      unfold Threads.pending
      refine hR.append_right _ ?_
      by_cases henv : l.env = item.listener.env
      · have hwork : (s.thread l.env).work = [] := by
          rw [henv]
          exact List.isEmpty_iff.mp (Bool.and_eq_true_iff.mp hidle).1
        simp only [henv, Function.update_self]
        rw [← henv, hwork]
        exact hpassed
      · have hnone : item.carried l = none :=
          if_neg fun hl => henv (congrArg EventListener.env hl.symm)
        have hquiet : callsTo l
            (splitAtUnlock (workUpdated s.handler.1.deleting item answers)).2 = [] := by
          have hsub := callsTo_work_sublist l s.handler.1.deleting item answers
          rw [hnone] at hsub
          exact List.sublist_nil.mp hsub
        simp only [Function.update_of_ne henv]
        rw [hquiet] at hpassed
        exact hR.append_left _ hpassed

private theorem flow_proceed (hR : Accounting R) (h : s.Sound) (env : Pointer) :
    R (callsTo l ((threads P σ).out s (.proceed env)) ++
        ((threads P σ).next s (.proceed env)).pending l)
      (s.pending l ++ []) := by
  simp only [Mealy.out, Mealy.next, threads]
  split
  · exact flow_of_same hR rfl rfl
  · cases hwork : (s.thread env).work with
    | nil => exact flow_of_same hR rfl rfl
    | cons action work =>
      dsimp only
      unfold Threads.pending
      rw [List.append_nil]
      by_cases henv : l.env = env
      · have heq : callsTo l [action] ++ work.filterMap (called l) =
            (s.thread l.env).work.filterMap (called l) := by
          rw [henv, hwork, ← List.singleton_append (l := work), List.filterMap_append]
          rfl
        simp only [henv, Function.update_self]
        rw [← henv, ← heq]
        simp only [List.append_assoc]
        exact hR.refl _
      · have hnone : called l action = none :=
          called_of_env (Ne.symm henv) (h.calls env) (hwork ▸ List.mem_cons_self)
        have hcalls : callsTo l [action] = [] := by
          rw [callsTo, List.filterMap_cons, hnone, List.filterMap_nil]
        simp only [Function.update_of_ne henv]
        rw [hcalls]
        exact hR.refl _

/-- Nothing else is lost, made up or passed on twice by a step. -/
theorem Threads.Sound.flow (hR : Accounting R) (h : s.Sound) {step : ThreadStep P σ}
    (hpasses : s.Passes R l step) :
    R (callsTo l ((threads P σ).out s step) ++ ((threads P σ).next s step).pending l)
      (s.pending l ++ step.brings l) := by
  cases step with
  | notified callback =>
    have hpending : ((threads P σ).next s (.notified callback)).pending l =
        s.pending l ++ ((sendEvent callback).offered l).toList := by
      simp only [Mealy.next, threads, Threads.pending, List.filterMap_append, List.append_assoc]
      rw [List.filterMap_cons]
      cases (sendEvent callback).offered l <;> rfl
    rw [hpending]
    exact hR.refl _
  | processEvent attempts => exact flow_processEvent hR attempts hpasses
  | workUpdated index answers => exact flow_workUpdated hR index answers hpasses
  | proceed env => exact flow_proceed hR h env
  | on env eventType slotId callback M isCallBackRegister =>
    simp only [Mealy.out, Mealy.next, threads]
    split
    · exact flow_of_same hR rfl rfl
    · refine flow_of_same hR rfl ?_
      unfold Threads.pending
      by_cases henv : l.env = env
      · simp only [henv, Function.update_self]
      · simp only [Function.update_of_ne henv]
  | off env eventType callback M isCallBackRegister =>
    simp only [Mealy.out, Mealy.next, threads]
    split
    · exact flow_of_same hR rfl rfl
    · refine flow_of_same hR rfl ?_
      unfold Threads.pending
      by_cases henv : l.env = env
      · simp only [henv, Function.update_self]
      · simp only [Function.update_of_ne henv]
  | deleteReference env =>
    simp only [Mealy.out, Mealy.next, threads]
    split
    · exact flow_of_same hR rfl rfl
    · refine flow_of_same hR rfl ?_
      unfold Threads.pending
      by_cases henv : l.env = env
      · simp only [henv, Function.update_self]
      · simp only [Function.update_of_ne henv]
  | unRegisterAllListener env M =>
    simp only [Mealy.out, Mealy.next, threads]
    split
    · exact flow_of_same hR rfl rfl
    · exact flow_of_same hR rfl rfl

end Step

/-! ## What a step may lose, and what may overtake -/

/-- What every state keeps besides: no listener is there twice, and each has an event. -/
structure Threads.Tidy (s : Threads P σ) : Prop where
  sound : s.Sound
  nodup : s.listeners.Nodup
  named : ∀ l ∈ s.listeners, l.eventType ≠ .noneEventType

private theorem on_named (M : StateManager σ) (isCallBackRegister : IsCallBackRegister)
    (env isDeleting : Pointer) (asyncContext : ObserverContext) (s : EventListenerHandler × σ) :
    ∀ l ∈ (on P M isCallBackRegister env isDeleting asyncContext s).1.1.listenerList,
      l ∈ s.1.listenerList ∨ l.eventType ≠ .noneEventType := by
  unfold on nativeOn
  split_ifs with hevent
  · exact fun l hl => Or.inl hl
  · exact fun l hl => Or.inl hl
  · exact fun l hl => Or.inl hl
  · obtain ⟨added, hlist, hadded⟩ := registerEventListener_cases P M isCallBackRegister
      ⟨env, asyncContext.eventType, asyncContext.slotId, asyncContext.callbackRef, isDeleting⟩ s
    dsimp only
    rw [hlist]
    intro l hl
    refine (List.mem_append.mp hl).imp_right fun hl => ?_
    rw [(hadded l (Option.mem_toList.mp hl)).1]
    exact hevent

theorem Threads.Tidy.start (w : σ) : (Threads.start P w).Tidy where
  sound := .start w
  nodup := List.nodup_nil
  named _ h := absurd h List.not_mem_nil

private theorem Threads.Tidy.of_filter {s next : Threads P σ} (h : s.Tidy) (hsound : next.Sound)
    (p : EventListener → Bool) (hlisteners : next.listeners = s.listeners.filter p) :
    next.Tidy where
  sound := hsound
  nodup := hlisteners ▸ h.nodup.filter p
  named l hl := h.named l (List.mem_filter.mp (hlisteners ▸ hl)).1

private theorem Threads.Tidy.of_listeners {s next : Threads P σ} (h : s.Tidy)
    (hsound : next.Sound) (hlisteners : next.listeners = s.listeners) : next.Tidy where
  sound := hsound
  nodup := hlisteners ▸ h.nodup
  named := hlisteners ▸ h.named

/-- Whether a step leaves the table of the handler as it is. -/
def ThreadStep.keepsTable : ThreadStep P σ → Bool
  | .on _ _ _ _ _ _ | .off _ _ _ _ _ | .unRegisterAllListener _ _ => false
  | _ => true

theorem listeners_next_of_keepsTable {s : Threads P σ} {step : ThreadStep P σ}
    (h : step.keepsTable = true) : ((threads P σ).next s step).listeners = s.listeners := by
  cases step with
  | notified callback => rfl
  | processEvent attempts =>
    simp only [Mealy.next, threads]
    split <;> rfl
  | workUpdated index answers =>
    simp only [Mealy.next, threads]
    split
    · rfl
    · split <;> rfl
  | proceed env =>
    simp only [Mealy.next, threads]
    split
    · rfl
    · split <;> rfl
  | deleteReference env =>
    simp only [Mealy.next, threads]
    split <;> rfl
  | on env eventType slotId callback M isCallBackRegister => cases h
  | off env eventType callback M isCallBackRegister => cases h
  | unRegisterAllListener env M => cases h

theorem Threads.Tidy.next {s : Threads P σ} (h : s.Tidy) (step : ThreadStep P σ) :
    ((threads P σ).next s step).Tidy := by
  have hsound : ((threads P σ).next s step).Sound := h.sound.next (h.sound.moves step)
  have hkept : step.keepsTable = true → ((threads P σ).next s step).Tidy :=
    fun hkeeps => h.of_listeners hsound (listeners_next_of_keepsTable hkeeps)
  cases step with
  | notified callback => exact hkept rfl
  | processEvent attempts => exact hkept rfl
  | workUpdated index answers => exact hkept rfl
  | proceed env => exact hkept rfl
  | deleteReference env => exact hkept rfl
  | on env eventType slotId callback M isCallBackRegister =>
    simp only [Mealy.next, threads] at hsound ⊢
    split at hsound
    · rename_i hjs
      rw [if_pos hjs]
      exact h
    · rename_i hjs
      rw [if_neg hjs]
      let asyncContext : ObserverContext :=
        .new eventType slotId (if callback then s.fresh else nullptr)
      obtain ⟨added, -, -, hlist, hadded⟩ := on_cases (P := P) M isCallBackRegister env
        asyncContext s.handler s.fresh
      have hnamed := on_named (P := P) M isCallBackRegister env s.fresh asyncContext s.handler
      refine ⟨hsound, ?_, fun l hl => ?_⟩
      · change (Napi.on P M isCallBackRegister env s.fresh asyncContext
          s.handler).1.1.listenerList.Nodup
        rw [hlist]
        refine List.nodup_append.mpr ⟨h.nodup, ?_, ?_⟩
        · cases added with
          | none => exact List.nodup_nil
          | some l => exact List.nodup_singleton l
        · rintro l hl l' hl' rfl
          have hflag := (hadded l (Option.mem_toList.mp hl')).2.1
          exact Nat.lt_irrefl s.fresh (hflag ▸ (h.sound.fresh l hl).2.1)
      · exact (hnamed l hl).elim (h.named l) id
  | off env eventType callback M isCallBackRegister =>
    simp only [Mealy.next, threads] at hsound ⊢
    split at hsound
    · rename_i hjs
      rw [if_pos hjs]
      exact h
    · rename_i hjs
      rw [if_neg hjs]
      obtain ⟨removed, -, hlist, -⟩ := off_cases (P := P) M isCallBackRegister env
        (.new eventType defaultSimSlotId (if callback then s.fresh else nullptr)) s.handler rfl
      exact h.of_filter hsound _ hlist
  | unRegisterAllListener env M =>
    simp only [Mealy.next, threads] at hsound ⊢
    split at hsound
    · rename_i hengine
      rw [if_pos hengine]
      exact h
    · rename_i hengine
      rw [if_neg hengine]
      exact h.of_filter hsound _ ((sharing P).release_table (M.provider isUpdate))

section Passes

variable {l : EventListener} {s : Threads P σ}

private theorem filterMap_carried {info : Option (UpdateInfo P)} {items : List (WorkItem P)}
    (h : ∀ item ∈ items, item.info = info) :
    items.filterMap (WorkItem.carried l) =
      List.replicate ((items.map WorkItem.listener).count l) info := by
  induction items with
  | nil => rfl
  | cons item items ih =>
    obtain ⟨hitem, hitems⟩ := List.forall_mem_cons.mp h
    rw [List.filterMap_cons, List.map_cons, List.count_cons, ih hitems, WorkItem.carried]
    by_cases hl : item.listener = l
    · rw [if_pos hl, if_pos (beq_iff_eq.mpr hl), hitem, List.replicate_succ]
    · rw [if_neg hl, if_neg (by rwa [beq_iff_eq]), Nat.add_zero]

private theorem processEvent_carried (h : s.Tidy) (event : InnerEvent P)
    (attempts : Nat → Attempt) :
    ((processEvent event attempts s.listeners).filterMap (WorkItem.carried l)).Sublist
      (event.offered l).toList := by
  rw [filterMap_carried fun item => info_of_mem_processEvent]
  have hsub : ((processEvent event attempts s.listeners).map WorkItem.listener).Sublist
      (s.listeners.filter event.mayServe) := processEvent_sublist event attempts
  have hcount := hsub.count_le l
  rw [InnerEvent.offered]
  cases hserve : event.mayServe l with
  | true =>
    have hone : (s.listeners.filter event.mayServe).count l ≤ 1 :=
      List.nodup_iff_count_le_one.mp (h.nodup.filter _) l
    exact List.replicate_sublist_replicate event.info |>.mpr (hcount.trans hone)
  | false =>
    have hzero : (s.listeners.filter event.mayServe).count l = 0 := by
      refine List.count_eq_zero.mpr fun hmem => ?_
      rw [(List.mem_filter.mp hmem).2] at hserve
      cases hserve
    rw [hzero] at hcount
    rw [Nat.le_zero.mp hcount]
    exact List.Sublist.slnil

private theorem queue_split {queue : List (WorkItem P)} {index : Nat} {item : WorkItem P}
    (h : queue[index]? = some item) :
    queue = queue.take index ++ item :: queue.drop (index + 1) ∧
      queue.eraseIdx index = queue.take index ++ queue.drop (index + 1) := by
  obtain ⟨hlt, hget⟩ := List.getElem?_eq_some_iff.mp h
  refine ⟨?_, List.eraseIdx_eq_take_drop_succ _ _⟩
  rw [← hget, List.getElem_cons_drop, List.take_append_drop]

private theorem queue_perm {index : Nat} {item : WorkItem P} (h : s.queue[index]? = some item) :
    ((item.carried l).toList ++ (s.queue.eraseIdx index).filterMap (WorkItem.carried l)).Perm
      (s.queue.filterMap (WorkItem.carried l)) := by
  obtain ⟨hqueue, herase⟩ := queue_split h
  conv_rhs => rw [hqueue]
  rw [herase, List.filterMap_append, List.filterMap_append]
  refine (List.perm_append_comm_assoc _ _ _).trans ?_
  refine List.Perm.append_left _ ?_
  rw [List.filterMap_cons]
  cases item.carried l <;> exact List.Perm.refl _

/-- A loop takes up the items of its environment in the order in which they were queued. -/
def Threads.InTurn (s : Threads P σ) : ThreadStep P σ → Prop
  | .workUpdated index _ => ∀ item ∈ s.queue[index]?, ∀ earlier ∈ s.queue.take index,
    earlier.listener.env ≠ item.listener.env
  | _ => True

/-- The first item of the queue overtakes none. -/
theorem Threads.inTurn_zero (s : Threads P σ) (answers : WorkAnswers) :
    s.InTurn (.workUpdated 0 answers) :=
  fun _ _ _ h => absurd h List.not_mem_nil

private theorem queue_eq {index : Nat} {item : WorkItem P} (h : s.queue[index]? = some item)
    (hturn : ∀ earlier ∈ s.queue.take index, earlier.listener.env ≠ item.listener.env) :
    (item.carried l).toList ++ (s.queue.eraseIdx index).filterMap (WorkItem.carried l) =
      s.queue.filterMap (WorkItem.carried l) := by
  obtain ⟨hqueue, herase⟩ := queue_split h
  conv_rhs => rw [hqueue]
  rw [herase, List.filterMap_append, List.filterMap_append, List.filterMap_cons]
  by_cases hl : item.listener = l
  · have hbefore : (s.queue.take index).filterMap (WorkItem.carried l) = [] := by
      refine List.filterMap_eq_nil_iff.mpr fun earlier hearlier => if_neg fun heq => ?_
      exact hturn earlier hearlier (by rw [heq, hl])
    rw [hbefore]
    cases item.carried l <;> rfl
  · have hnone : item.carried l = none := if_neg hl
    rw [hnone]
    rfl

/-- A listener with a function, on a slot of its own or on an event that any slot has. -/
structure EventListener.Servable (l : EventListener) : Prop where
  callbackRef : l.callbackRef ≠ nullptr
  slot : l.slotId ≠ simSlotIdForDefaultConnEvent ∨ l.eventType ∉ enableOnDefaultDataEventSet

/-- Nothing fails for a listener in a step. -/
def Threads.Serves (l : EventListener) (s : Threads P σ) : ThreadStep P σ → Prop
  | .processEvent attempts => ∀ i, (attempts i).Succeeds
  | .workUpdated index answers => ∀ item ∈ s.queue[index]?, item.listener = l →
    answers = .succeeding ∧ item.hasNull = false ∧
      (l.eventType = .event .networkState → item.networkState.isSome)
  | _ => True

private theorem processEvent_offered (h : s.Tidy) (hl : l ∈ s.listeners) (hservable : l.Servable)
    (event : InnerEvent P) {attempts : Nat → Attempt} (hattempts : ∀ i, (attempts i).Succeeds) :
    (processEvent event attempts s.listeners).filterMap (WorkItem.carried l) =
      (event.offered l).toList := by
  have hfilter := processEvent_filter event hattempts h.nodup hl hservable.slot
  have hmap : (processEvent event attempts s.listeners).filterMap (WorkItem.carried l) =
      ((processEvent event attempts s.listeners).filter fun item => item.listener = l).map
        WorkItem.info := by
    rw [← List.filterMap_eq_map, List.filterMap_filter]
    refine List.filterMap_congr fun item _ => ?_
    by_cases hitem : item.listener = l <;> simp [WorkItem.carried, hitem]
  rw [hmap, hfilter, InnerEvent.offered]
  cases event.mayServe l <;> rfl

private theorem callsTo_work (h : s.Tidy) (hl : l ∈ s.listeners) (hservable : l.Servable)
    {item : WorkItem P} (hitem : item.listener = l) (hnull : item.hasNull = false)
    (hnetwork : l.eventType = .event .networkState → item.networkState.isSome) :
    callsTo l (splitAtUnlock (workUpdated s.handler.1.deleting item .succeeding)).2 =
      [item.info] := by
  subst hitem
  have hflag : ¬(item.listener.isDeleting = nullptr ∨
      item.listener.isDeleting ∈ s.handler.1.deleting) :=
    not_or.mpr ⟨(h.sound.fresh _ hl).1, fun hset => h.sound.unspent _ hl (Or.inl hset)⟩
  have hreturn : napiReturnToJS item .succeeding = [.openHandleScope true,
      .getReferenceValue item.listener.callbackRef, .unlock, .callFunction item,
      .closeHandleScope] := by
    simp [napiReturnToJS, WorkAnswers.succeeding, hservable.callbackRef]
  have hwork : ∀ workFunc, workFuncMap item.listener.eventType = some workFunc →
      workFunc.work item .succeeding =
        .openHandleScope true :: (napiReturnToJS item .succeeding ++ [.closeHandleScope]) := by
    intro workFunc hfunc
    have hstate : ¬(workFunc = .workNetworkStateUpdated ∧ item.networkState.isNone = true) := by
      rintro ⟨rfl, hnone⟩
      have hevent : item.listener.eventType = .event .networkState := by
        cases hcase : item.listener.eventType with
        | noneEventType =>
          rw [hcase] at hfunc
          cases hfunc
        | event m =>
          rw [hcase] at hfunc
          cases m <;> first | rfl | cases hfunc
      rw [Option.isNone_iff_eq_none.mp hnone] at hnetwork
      cases hnetwork hevent
    have hreads : ¬(workFunc.readsElements = true ∧ item.hasNull = true) := by
      rw [hnull]
      exact fun h => Bool.false_ne_true h.2
    rw [WorkFunc.work, if_neg (by decide), if_neg hstate, if_neg hreads]
    rfl
  rw [workUpdated, if_neg hflag]
  cases hevent : item.listener.eventType with
  | noneEventType => exact absurd hevent (h.named _ hl)
  | event m =>
    have hfunc : ∃ workFunc, workFuncMap item.listener.eventType = some workFunc := by
      rw [hevent]
      cases m <;> exact ⟨_, rfl⟩
    obtain ⟨workFunc, hfunc⟩ := hfunc
    rw [← hevent, hfunc]
    simp only [hwork workFunc hfunc, hreturn, List.cons_append, List.nil_append, splitAtUnlock,
      WorkAction.unlocks, Bool.false_eq_true, if_false, if_true, callsTo, List.filterMap_cons,
      called, WorkItem.carried, List.filterMap_nil]

/-! ## Every step -/

private theorem passes_of {R : List (Option (UpdateInfo P)) → List (Option (UpdateInfo P)) → Prop}
    (hR : Accounting R) {step : ThreadStep P σ}
    (hevent : ∀ attempts, step = .processEvent attempts → ∀ event ∈ s.events.head?,
      R ((processEvent event attempts s.listeners).filterMap (WorkItem.carried l))
        (event.offered l).toList)
    (hwork : ∀ index answers, step = .workUpdated index answers → ∀ item ∈ s.queue[index]?,
      R (callsTo l (splitAtUnlock (workUpdated s.handler.1.deleting item answers)).2)
          (item.carried l).toList ∧
        R ((item.carried l).toList ++ (s.queue.eraseIdx index).filterMap (WorkItem.carried l))
          (s.queue.filterMap (WorkItem.carried l))) : s.Passes R l step := by
  cases step with
  | processEvent attempts => exact hevent attempts rfl
  | workUpdated index answers =>
    intro item hitem
    obtain ⟨hcalls, hqueue⟩ := hwork index answers rfl item hitem
    exact hR.trans (hR.append_right _ hcalls) hqueue
  | _ => trivial

/-- A step makes nothing up and passes nothing on twice. -/
theorem Threads.Tidy.passes (h : s.Tidy) (l : EventListener) (step : ThreadStep P σ) :
    s.Passes List.Subperm l step := by
  refine passes_of .subperm (fun attempts _ event _ => ?_) fun index answers _ item hitem => ?_
  · exact (processEvent_carried h event attempts).subperm
  · exact ⟨(callsTo_work_sublist l _ item answers).subperm, (queue_perm hitem).subperm⟩

/-- If the loops work in turn, it keeps the order. -/
theorem Threads.Tidy.passes_in_turn (h : s.Tidy) (l : EventListener) {step : ThreadStep P σ}
    (hturn : s.InTurn step) : s.Passes List.Sublist l step := by
  refine passes_of .sublist (fun attempts _ event _ => ?_) fun index answers hstep item hitem => ?_
  · exact processEvent_carried h event attempts
  · subst hstep
    refine ⟨callsTo_work_sublist l _ item answers, ?_⟩
    rw [queue_eq hitem (hturn item hitem)]

private theorem Threads.Tidy.passes_served {R : List (Option (UpdateInfo P)) →
      List (Option (UpdateInfo P)) → Prop} (hR : Accounting R) (h : s.Tidy)
    (hl : l ∈ s.listeners) (hservable : l.Servable) {step : ThreadStep P σ}
    (hserves : s.Serves l step)
    (hqueue : ∀ index answers, step = .workUpdated index answers → ∀ item ∈ s.queue[index]?,
      R ((item.carried l).toList ++ (s.queue.eraseIdx index).filterMap (WorkItem.carried l))
        (s.queue.filterMap (WorkItem.carried l))) : s.Passes R l step := by
  refine passes_of hR (fun attempts hstep event _ => ?_) fun index answers hstep item hitem => ?_
  · subst hstep
    rw [processEvent_offered h hl hservable event hserves]
    exact hR.refl _
  · refine ⟨?_, hqueue index answers hstep item hitem⟩
    subst hstep
    by_cases hlistener : item.listener = l
    · obtain ⟨rfl, hnull, hnetwork⟩ := hserves item hitem hlistener
      rw [callsTo_work h hl hservable hlistener hnull hnetwork, WorkItem.carried,
        if_pos hlistener]
      exact hR.refl _
    · have hnone : item.carried l = none := if_neg hlistener
      have hsub := callsTo_work_sublist l s.handler.1.deleting item answers
      rw [hnone] at hsub ⊢
      rw [List.sublist_nil.mp hsub]
      exact hR.refl _

theorem Threads.Tidy.passes_all (h : s.Tidy) (hl : l ∈ s.listeners) (hservable : l.Servable)
    {step : ThreadStep P σ} (hserves : s.Serves l step) : s.Passes List.Perm l step :=
  h.passes_served .perm hl hservable hserves fun _ _ _ _ hitem => queue_perm hitem

theorem Threads.Tidy.passes_all_in_turn (h : s.Tidy) (hl : l ∈ s.listeners)
    (hservable : l.Servable) {step : ThreadStep P σ} (hserves : s.Serves l step)
    (hturn : s.InTurn step) : s.Passes Eq l step := by
  refine h.passes_served .eq hl hservable hserves fun index answers hstep item hitem => ?_
  subst hstep
  exact queue_eq hitem (hturn item hitem)

end Passes

/-! ## Runs -/

private theorem tidy_along {G : Threads P σ → ThreadStep P σ → Prop} {s : Threads P σ}
    (hs : s.Tidy) {steps : List (ThreadStep P σ)} (h : (threads P σ).Along G s steps) :
    (threads P σ).Along (fun s step => s.Tidy ∧ G s step) s steps :=
  Mealy.Along.of_invariant (I := Threads.Tidy) (fun _ step _ ht => ht.next step) hs h

/-- Every state that is reached is tidy. -/
theorem Threads.Tidy.run (w : σ) (steps : List (ThreadStep P σ)) :
    ((threads P σ).run (.start P w) steps).Tidy :=
  (threads P σ).invariant (I := Threads.Tidy) (fun _ step ht => ht.next step) (.start w) steps

/-- If the loops work in turn, and nothing fails for a listener that stays in the table, a run
passes on all that is for it, in order. -/
theorem Threads.Tidy.calls_in_turn {s : Threads P σ} (hs : s.Tidy) {l : EventListener}
    (hservable : l.Servable) {steps : List (ThreadStep P σ)}
    (hturn : (threads P σ).Along Threads.InTurn s steps)
    (hserves : (threads P σ).Along (fun t step => l ∈ t.listeners ∧ t.Serves l step) s steps) :
    ((threads P σ).outs s steps).flatMap (callsTo l) ++
        ((threads P σ).run s steps).pending l =
      s.pending l ++ steps.flatMap (ThreadStep.brings l) := by
  rw [← (threads P σ).entered_of_inputs (ThreadStep.brings l) s steps]
  exact Mealy.flow_along Accounting.eq (Threads.pending l)
    (fun t step ht => ht.1.sound.flow .eq
      (ht.1.passes_all_in_turn ht.2.2.1 hservable ht.2.2.2 ht.2.1))
    (tidy_along hs (hturn.and hserves))

/-- **In order.** If each event loop takes up its work in the order in which it was queued,
the function of a listener is called in the order in which the callbacks arrived: with some
of them, each at most once; and with all of them, while the listener stays in the table and
nothing fails for it. -/
theorem calls_in_order (P : Platform) {σ : Type} (w : σ) (before steps : List (ThreadStep P σ))
    (l : EventListener) (hservable : l.Servable) :
    let s := (threads P σ).run (.start P w) before
    let made := ((threads P σ).outs s steps).flatMap (callsTo l)
    let next := (threads P σ).run s steps
    (threads P σ).Along Threads.InTurn s steps →
      (made ++ next.pending l).Sublist (s.pending l ++ steps.flatMap (ThreadStep.brings l)) ∧
        ((threads P σ).Along (fun t step => l ∈ t.listeners ∧ t.Serves l step) s steps →
          made ++ next.pending l = s.pending l ++ steps.flatMap (ThreadStep.brings l)) := by
  intro s made next hturn
  have hs : s.Tidy := .run w before
  refine ⟨?_, hs.calls_in_turn hservable hturn⟩
  rw [← (threads P σ).entered_of_inputs (ThreadStep.brings l) s steps]
  exact Mealy.flow_along Accounting.sublist (Threads.pending l)
    (fun t step ht => ht.1.sound.flow .sublist (ht.1.passes_in_turn l ht.2))
    (tidy_along hs hturn)

/-- Two callbacks for a listener of the call states, taken up in turn. -/
theorem two_calls_in_order :
    let l : EventListener := ⟨7, .event .callState, 0, 1, 1⟩
    let on : ThreadStep .dualSim (Finset Pair) :=
      .on 7 (.event .callState) 0 true (registryManager fun _ => .telephonySuccess)
        (fun _ _ _ => true)
    let steps : List (ThreadStep .dualSim (Finset Pair)) :=
      [.notified (.onCallStateUpdated 0 1 []), .notified (.onCallStateUpdated 0 8 []),
        .processEvent fun _ => .succeeding 0, .processEvent fun _ => .succeeding 0,
        .workUpdated 0 .succeeding, .proceed 7, .proceed 7, .proceed 7,
        .workUpdated 0 .succeeding, .proceed 7]
    ((threads .dualSim (Finset Pair)).outs
        ((threads .dualSim (Finset Pair)).run (.start .dualSim ∅) [on]) steps).flatMap (callsTo l) =
      [some ⟨0, .onCallStateUpdated 0 1 []⟩, some ⟨0, .onCallStateUpdated 0 8 []⟩] := by
  have h := (calls_in_order Platform.dualSim (∅ : Finset Pair)
    [.on 7 (.event .callState) 0 true (registryManager fun _ => .telephonySuccess)
      (fun _ _ _ => true)]
    [.notified (.onCallStateUpdated 0 1 []), .notified (.onCallStateUpdated 0 8 []),
      .processEvent fun _ => .succeeding 0, .processEvent fun _ => .succeeding 0,
      .workUpdated 0 .succeeding, .proceed 7, .proceed 7, .proceed 7,
      .workUpdated 0 .succeeding, .proceed 7]
    ⟨7, .event .callState, 0, 1, 1⟩ ⟨by decide, Or.inl (by decide)⟩ ?_).2 ?_
  · exact (List.append_nil _).symm.trans h
  · exact ⟨trivial, trivial, trivial, trivial, Threads.inTurn_zero _ _, trivial, trivial, trivial,
      Threads.inTurn_zero _ _, trivial, trivial⟩
  · have hattempts : ∀ i : Nat, ((fun _ => .succeeding 0 : Nat → Attempt) i).Succeeds :=
      fun _ => ⟨rfl, rfl, rfl, rfl⟩
    refine ⟨⟨?_, trivial⟩, ⟨?_, trivial⟩, ⟨?_, hattempts⟩, ⟨?_, hattempts⟩, ⟨?_, ?_⟩,
      ⟨?_, trivial⟩, ⟨?_, trivial⟩, ⟨?_, trivial⟩, ⟨?_, ?_⟩, ⟨?_, trivial⟩, trivial⟩
    all_goals first
      | exact List.mem_cons_self
      | rintro item hitem -
        cases hitem
        exact ⟨rfl, rfl, nofun⟩

end Napi

end TelephonyStateRegistry
