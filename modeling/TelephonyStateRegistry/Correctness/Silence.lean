import TelephonyStateRegistry.Client.Threads

/-!
# No callback after a removal

A work item is a copy of a listener and outlives it. The flag that the copy
shares with the listener is set whenever the listener is dropped, under the lock
under which work items look at it, and before its reference is deleted. Between
the look and the call the lock is free, but then the thread of the listener is
busy, and nobody else drops the listeners of its environment.
-/

namespace TelephonyStateRegistry

open Reactive

variable {P : Platform} {σ : Type}

namespace Napi

/-! ## The invariant -/

/-- A number that is set as a flag, deleted, or about to be deleted as a reference. -/
def Threads.Spent (s : Threads P σ) (n : Pointer) : Prop :=
  n ∈ s.handler.1.deleting ∨ n ∈ s.deleted ∨ ∃ env, n ∈ (s.thread env).refs

/-- A listener with a flag of its own, and with the reference made with this flag, if any. -/
def EventListener.Fresh (bound : Pointer) (listener : EventListener) : Prop :=
  listener.isDeleting ≠ nullptr ∧ listener.isDeleting < bound ∧
    (listener.callbackRef = nullptr ∨ listener.callbackRef = listener.isDeleting)

/-- A thread that has given the lock back at most calls one listener of its
environment, which is in the table. -/
structure JsThread.Calls (listeners : List EventListener) (env : Pointer) (t : JsThread P) :
    Prop where
  /-- Only the first action can be a call. -/
  once : ∀ action ∈ t.work.tail, action.quiet = true
  call : ∀ action ∈ t.work, action.quiet = true ∨ ∃ item, action = .callFunction item ∧
    t.inCallback = false ∧ item.listener.env = env ∧ item.listener ∈ listeners

/-- What every state of the front end keeps. -/
structure Threads.Sound (s : Threads P σ) : Prop where
  positive : 0 < s.fresh
  spent_lt : ∀ n, s.Spent n → n < s.fresh
  fresh : ∀ l ∈ s.listeners, l.Fresh s.fresh
  unspent : ∀ l ∈ s.listeners, ¬s.Spent l.isDeleting
  unique : ∀ l ∈ s.listeners, ∀ l' ∈ s.listeners, l.isDeleting = l'.isDeleting → l = l'
  /-- A work item whose listener was dropped has its flag set. -/
  queued : ∀ item ∈ s.queue,
    item.listener ∈ s.listeners ∨ item.listener.isDeleting ∈ s.handler.1.deleting
  calls : ∀ env, (s.thread env).Calls s.listeners env

/-- What a step can do to the table, the flags, the references and the work items. -/
structure Threads.Moves (s s' : Threads P σ) : Prop where
  fresh : s.fresh ≤ s'.fresh
  deleting : s.handler.1.deleting ⊆ s'.handler.1.deleting
  /-- A listener that is added has the next number, for its flag and its reference. -/
  added : ∀ l ∈ s'.listeners, l ∉ s.listeners → l.isDeleting = s.fresh ∧
    (l.callbackRef = nullptr ∨ l.callbackRef = s.fresh) ∧ s.fresh < s'.fresh ∧
    ¬s'.Spent s.fresh
  addedOnce : ∀ l ∈ s'.listeners, ∀ l' ∈ s'.listeners, l ∉ s.listeners → l' ∉ s.listeners → l = l'
  /-- A listener that is dropped has its flag set, and its thread makes no call. -/
  dropped : ∀ l ∈ s.listeners, l ∉ s'.listeners →
    l.isDeleting ∈ s'.handler.1.deleting ∧ (s'.thread l.env).inEngine = true
  spent : ∀ n, s'.Spent n → s.Spent n ∨ (n = s.fresh ∧ s.fresh < s'.fresh) ∨
    ∃ l ∈ s.listeners, l ∉ s'.listeners ∧ l.isDeleting = n
  queued : ∀ item ∈ s'.queue, item ∈ s.queue ∨ item.listener ∈ s.listeners
  calls : ∀ env, (s'.thread env).Calls s.listeners env

theorem Threads.Sound.start (w : σ) : (Threads.start P w).Sound where
  positive := Nat.one_pos
  spent_lt := by
    rintro n (h | h | ⟨env, h⟩)
    · exact absurd h (Finset.notMem_empty n)
    · exact absurd h (Finset.notMem_empty n)
    · exact absurd h List.not_mem_nil
  fresh _ h := absurd h List.not_mem_nil
  unspent _ h := absurd h List.not_mem_nil
  unique _ h := absurd h List.not_mem_nil
  queued _ h := absurd h List.not_mem_nil
  calls _ := ⟨fun _ h => absurd h List.not_mem_nil, fun _ h => absurd h List.not_mem_nil⟩

private theorem JsThread.Calls.not_inEngine {listeners : List EventListener} {env : Pointer}
    {t : JsThread P} (h : t.Calls listeners env) {item : WorkItem P}
    (hmem : .callFunction item ∈ t.work) : t.inEngine = false := by
  rcases h.call _ hmem with hquiet | ⟨-, -, hcallback, -⟩
  · cases hquiet
  · have hwork : t.work.isEmpty = false := by
      cases hw : t.work with
      | nil => exact absurd (hw ▸ hmem) List.not_mem_nil
      | cons _ _ => rfl
    rw [JsThread.inEngine, hwork, hcallback, Bool.false_or]

/-- Every such step keeps the invariant. -/
theorem Threads.Sound.next {s s' : Threads P σ} (h : s.Sound) (m : s.Moves s') : s'.Sound where
  positive := Nat.lt_of_lt_of_le h.positive m.fresh
  spent_lt n hn := by
    rcases m.spent n hn with hspent | ⟨rfl, hlt⟩ | ⟨l, hl, -, rfl⟩
    · exact Nat.lt_of_lt_of_le (h.spent_lt n hspent) m.fresh
    · exact hlt
    · exact Nat.lt_of_lt_of_le (h.fresh l hl).2.1 m.fresh
  fresh l hl := by
    by_cases hold : l ∈ s.listeners
    · obtain ⟨hne, hlt, href⟩ := h.fresh l hold
      exact ⟨hne, Nat.lt_of_lt_of_le hlt m.fresh, href⟩
    · obtain ⟨hflag, href, hlt, -⟩ := m.added l hl hold
      rw [EventListener.Fresh, hflag]
      exact ⟨Nat.ne_of_gt h.positive, hlt, href⟩
  unspent l hl hspent := by
    by_cases hold : l ∈ s.listeners
    · rcases m.spent _ hspent with hbefore | ⟨hfresh, -⟩ | ⟨d, hd, hdropped, hflag⟩
      · exact h.unspent l hold hbefore
      · exact Nat.ne_of_lt (h.fresh l hold).2.1 hfresh
      · exact hdropped (h.unique d hd l hold hflag ▸ hl)
    · obtain ⟨hflag, -, -, hnot⟩ := m.added l hl hold
      exact hnot (hflag ▸ hspent)
  unique l hl l' hl' hflag := by
    by_cases hold : l ∈ s.listeners
    · by_cases hold' : l' ∈ s.listeners
      · exact h.unique l hold l' hold' hflag
      · rw [(m.added l' hl' hold').1] at hflag
        exact absurd hflag (Nat.ne_of_lt (h.fresh l hold).2.1)
    · by_cases hold' : l' ∈ s.listeners
      · rw [(m.added l hl hold).1] at hflag
        exact absurd hflag.symm (Nat.ne_of_lt (h.fresh l' hold').2.1)
      · exact m.addedOnce l hl l' hl' hold hold'
  queued item hitem := by
    have hbefore : item.listener ∈ s.listeners ∨
        item.listener.isDeleting ∈ s.handler.1.deleting := by
      rcases m.queued item hitem with hqueued | hlistener
      · exact h.queued item hqueued
      · exact Or.inl hlistener
    rcases hbefore with hlistener | hflag
    · by_cases hkept : item.listener ∈ s'.listeners
      · exact Or.inl hkept
      · exact Or.inr (m.dropped _ hlistener hkept).1
    · exact Or.inr (m.deleting hflag)
  calls env := by
    refine ⟨(m.calls env).once, ?_⟩
    intro action haction
    rcases (m.calls env).call action haction with hquiet | ⟨item, rfl, hcallback, henv, hlistener⟩
    · exact Or.inl hquiet
    · refine Or.inr ⟨item, rfl, hcallback, henv, ?_⟩
      by_contra hdropped
      have hengine := (m.dropped _ hlistener hdropped).2
      rw [henv, (m.calls env).not_inEngine haction] at hengine
      cases hengine

/-! ## What each step does -/

private theorem Threads.Moves.of_handler {s s' : Threads P σ} (hhandler : s'.handler = s.handler)
    (hfresh : s'.fresh = s.fresh) (hspent : ∀ n, s'.Spent n → s.Spent n)
    (hqueued : ∀ item ∈ s'.queue, item ∈ s.queue ∨ item.listener ∈ s.listeners)
    (hcalls : ∀ env, (s'.thread env).Calls s.listeners env) : s.Moves s' := by
  have hlisteners : s'.listeners = s.listeners :=
    congrArg (fun handler => handler.1.listenerList) hhandler
  refine ⟨Nat.le_of_eq hfresh.symm, hhandler ▸ Finset.Subset.refl _, ?_, ?_, ?_,
    fun n hn => Or.inl (hspent n hn), hqueued, hcalls⟩
  · intro l hl hnew
    exact absurd (hlisteners ▸ hl) hnew
  · intro l hl _ _ hnew
    exact absurd (hlisteners ▸ hl) hnew
  · intro l hl hdropped
    exact absurd (hlisteners.symm ▸ hl) hdropped

private theorem Threads.Moves.of_addition {s s' : Threads P σ} (h : s.Sound)
    (added : Option EventListener) (hlisteners : s'.listeners = s.listeners ++ added.toList)
    (hdeleting : s'.handler.1.deleting = s.handler.1.deleting) (hfresh : s'.fresh = s.fresh + 1)
    (hadded : ∀ l ∈ added, l.isDeleting = s.fresh ∧
      (l.callbackRef = nullptr ∨ l.callbackRef = s.fresh))
    (hspent : ∀ n, s'.Spent n → s.Spent n ∨ (n = s.fresh ∧ added = none))
    (hqueue : s'.queue = s.queue) (hcalls : ∀ e, (s'.thread e).Calls s.listeners e) :
    s.Moves s' := by
  have hlt : s.fresh < s'.fresh := hfresh ▸ Nat.lt_succ_self s.fresh
  have hnew {l : EventListener} (hl : l ∈ s'.listeners) (hnot : l ∉ s.listeners) : l ∈ added := by
    rw [hlisteners] at hl
    exact Option.mem_toList.mp ((List.mem_append.mp hl).resolve_left hnot)
  refine ⟨Nat.le_of_lt hlt, hdeleting.symm.subset, ?_, ?_, ?_, ?_,
    fun item hitem => Or.inl (hqueue ▸ hitem), hcalls⟩
  · intro l hl hnot
    have hmem := hnew hl hnot
    obtain ⟨hflag, href⟩ := hadded l hmem
    refine ⟨hflag, href, hlt, ?_⟩
    intro hn
    rcases hspent _ hn with hbefore | ⟨-, hnone⟩
    · exact Nat.lt_irrefl _ (h.spent_lt _ hbefore)
    · rw [hnone] at hmem
      cases hmem
  · intro l hl l' hl' hnot hnot'
    exact Option.mem_unique (hnew hl hnot) (hnew hl' hnot')
  · intro l hl hnot
    rw [hlisteners] at hnot
    exact absurd (List.mem_append_left _ hl) hnot
  · intro n hn
    exact (hspent n hn).imp_right fun hn => Or.inl ⟨hn.1, hlt⟩

private theorem Threads.Moves.of_removal {s s' : Threads P σ} (h : s.Sound)
    (removed : EventListener → Bool) {env : Pointer}
    (hlisteners : s'.listeners = s.listeners.filter fun l => !removed l)
    (hdeleting : s'.handler.1.deleting = (s.listeners.filter removed).foldl
      (fun deleting l => setEventListenerDeleting l.isDeleting deleting) s.handler.1.deleting)
    (henv : ∀ l, removed l = true → l.env = env) (hengine : (s'.thread env).inEngine = true)
    (hfresh : s.fresh ≤ s'.fresh)
    (hspent : ∀ n, n ∈ s'.deleted ∨ (∃ e, n ∈ (s'.thread e).refs) → s.Spent n ∨
      (n = s.fresh ∧ s.fresh < s'.fresh) ∨
      n ∈ deletedReferences env (s.listeners.filter removed))
    (hqueue : s'.queue = s.queue) (hcalls : ∀ e, (s'.thread e).Calls s.listeners e) :
    s.Moves s' := by
  have hmem (l : EventListener) : l ∈ s'.listeners ↔ l ∈ s.listeners ∧ removed l = false := by
    rw [hlisteners, List.mem_filter, Bool.not_eq_true']
  have hdropped {l : EventListener} (hl : l ∈ s.listeners) (hnot : l ∉ s'.listeners) :
      removed l = true := by
    cases hremoved : removed l with
    | true => rfl
    | false => exact absurd ((hmem l).mpr ⟨hl, hremoved⟩) hnot
  have hgone {l : EventListener} (hl : l ∈ s.listeners.filter removed) :
      l ∈ s.listeners ∧ l ∉ s'.listeners := by
    obtain ⟨hl, hremoved⟩ := List.mem_filter.mp hl
    refine ⟨hl, ?_⟩
    intro hkept
    rw [((hmem l).mp hkept).2] at hremoved
    cases hremoved
  refine ⟨hfresh, ?_, ?_, ?_, ?_, ?_, fun item hitem => Or.inl (hqueue ▸ hitem), hcalls⟩
  · intro n hn
    rw [hdeleting]
    exact mem_foldl_setEventListenerDeleting.mpr (Or.inl hn)
  · exact fun l hl hnew => absurd ((hmem l).mp hl).1 hnew
  · exact fun l hl _ _ hnew => absurd ((hmem l).mp hl).1 hnew
  · intro l hl hnot
    have hremoved := hdropped hl hnot
    refine ⟨?_, (henv l hremoved).symm ▸ hengine⟩
    rw [hdeleting]
    exact mem_foldl_setEventListenerDeleting.mpr
      (Or.inr ⟨l, List.mem_filter.mpr ⟨hl, hremoved⟩, rfl, (h.fresh l hl).1⟩)
  · intro n hn
    have hcases : s.Spent n ∨ (n = s.fresh ∧ s.fresh < s'.fresh) ∨
        ∃ l ∈ s.listeners.filter removed, l.isDeleting = n := by
      rcases hn with hflag | hrefs
      · rw [hdeleting] at hflag
        rcases mem_foldl_setEventListenerDeleting.mp hflag with hflag | ⟨l, hl, hn, -⟩
        · exact Or.inl (Or.inl hflag)
        · exact Or.inr (Or.inr ⟨l, hl, hn⟩)
      · refine (hspent n hrefs).imp_right (Or.imp_right ?_)
        intro href
        obtain ⟨l, hl, rfl⟩ := List.mem_map.mp href
        obtain ⟨hl, hdelete⟩ := List.mem_filter.mp hl
        have hne : l.callbackRef ≠ nullptr := of_decide_eq_true (Bool.and_eq_true_iff.mp hdelete).2
        have hown := (h.fresh l (hgone hl).1).2.2.resolve_left hne
        exact ⟨l, hl, hown.symm⟩
    refine hcases.imp_right (Or.imp_right ?_)
    rintro ⟨l, hl, rfl⟩
    exact ⟨l, (hgone hl).1, (hgone hl).2, rfl⟩

section Native

variable (M : StateManager σ) (isCallBackRegister : IsCallBackRegister) (env : Pointer)
  (asyncContext : ObserverContext) (s : EventListenerHandler × σ)

/-- `On` sets no flag, and its context is resolved if it adds the new listener. -/
theorem on_cases (isDeleting : Pointer) :
    let r := on P M isCallBackRegister env isDeleting asyncContext s
    ∃ added : Option EventListener, r.1.1.deleting = s.1.deleting ∧
      r.2.callbackRef = asyncContext.callbackRef ∧
      r.1.1.listenerList = s.1.listenerList ++ added.toList ∧
      ∀ l ∈ added, r.2.resolved = true ∧ l.isDeleting = isDeleting ∧
        l.callbackRef = asyncContext.callbackRef := by
  unfold on nativeOn
  have hnone : s.1.listenerList = s.1.listenerList ++ (none : Option EventListener).toList :=
    (List.append_nil _).symm
  split_ifs
  · exact ⟨none, rfl, rfl, hnone, nofun⟩
  · exact ⟨none, rfl, rfl, hnone, nofun⟩
  · exact ⟨none, rfl, rfl, hnone, nofun⟩
  · obtain ⟨added, hlist, hadded⟩ := registerEventListener_cases P M isCallBackRegister
      ⟨env, asyncContext.eventType, asyncContext.slotId, asyncContext.callbackRef, isDeleting⟩ s
    refine ⟨added, rfl, rfl, hlist, ?_⟩
    intro l hl
    obtain ⟨rfl, hcode⟩ := hadded l hl
    exact ⟨decide_eq_true hcode, rfl, rfl⟩

/-- `Off` drops listeners of the calling environment, and returns them. -/
theorem off_cases (hnone : asyncContext.removeListenerList = []) :
    let r := off P M isCallBackRegister env asyncContext s
    ∃ removed : EventListener → Bool, (∀ l, removed l = true → l.env = env) ∧
      r.1.1.listenerList = s.1.listenerList.filter (fun l => !removed l) ∧
      r.1.1.deleting = (s.1.listenerList.filter removed).foldl
        (fun deleting l => setEventListenerDeleting l.isDeleting deleting) s.1.deleting ∧
      r.2.removeListenerList = s.1.listenerList.filter removed ∧
      r.2.callbackRef = asyncContext.callbackRef := by
  unfold off nativeOff
  split_ifs
  · refine ⟨fun _ => false, nofun, ?_, ?_, ?_, rfl⟩
    · exact (List.filter_true s.1.listenerList).symm
    · rw [List.filter_false]
      rfl
    · rw [List.filter_false]
      exact hnone
  · refine ⟨matchesEvent env asyncContext.eventType, ?_, ?_, rfl, rfl, rfl⟩
    · intro l h
      exact (of_decide_eq_true (Bool.and_eq_true_iff.mp h).1).symm
    · exact (sharing P).release_table (M.provider isUpdate)
  · refine ⟨matchesCallback isCallBackRegister env asyncContext.eventType
      asyncContext.callbackRef, ?_, ?_, rfl, rfl, rfl⟩
    · intro l h
      exact (of_decide_eq_true
        (Bool.and_eq_true_iff.mp (Bool.and_eq_true_iff.mp h).1).1).symm
    · exact (sharing P).release_table (M.provider isUpdate)

end Native

section Steps

variable {s : Threads P σ}

private theorem Threads.Moves.refl (h : s.Sound) : s.Moves s :=
  .of_handler rfl rfl (fun _ hn => hn) (fun _ hitem => Or.inl hitem) h.calls

private theorem calls_update {listeners : List EventListener} {env : Pointer} {t : JsThread P}
    (h : ∀ e, (s.thread e).Calls listeners e) (ht : t.Calls listeners env) (e : Pointer) :
    (Function.update s.thread env t e).Calls listeners e := by
  by_cases he : e = env
  · rw [he, Function.update_self]
    exact ht
  · rw [Function.update_of_ne he]
    exact h e

private theorem calls_refs (h : s.Sound) (env : Pointer) (refs : List Pointer) :
    ∀ e, (Function.update s.thread env { s.thread env with refs } e).Calls s.listeners e :=
  calls_update h.calls ⟨(h.calls env).once, (h.calls env).call⟩

private theorem refs_update {env : Pointer} {t : JsThread P} {n : Pointer}
    (h : ∃ e, n ∈ (Function.update s.thread env t e).refs) :
    n ∈ t.refs ∨ ∃ e, n ∈ (s.thread e).refs := by
  obtain ⟨e, hn⟩ := h
  by_cases he : e = env
  · rw [he, Function.update_self] at hn
    exact Or.inl hn
  · rw [Function.update_of_ne he] at hn
    exact Or.inr ⟨e, hn⟩

private theorem moves_processEvent (h : s.Sound) (attempts : Nat → Attempt) :
    s.Moves ((threads P σ).next s (.processEvent attempts)) := by
  simp only [Mealy.next, threads]
  split
  · exact .refl h
  · rename_i event events hevents
    refine .of_handler rfl rfl (fun _ hn => hn) ?_ h.calls
    intro item hitem
    refine (List.mem_append.mp hitem).imp_right ?_
    intro hitem
    have hlistener := (processEvent_sublist event attempts).subset (List.mem_map_of_mem hitem)
    exact (List.mem_filter.mp hlistener).1

private theorem moves_workUpdated (h : s.Sound) (index : Nat) (answers : WorkAnswers) :
    s.Moves ((threads P σ).next s (.workUpdated index answers)) := by
  simp only [Mealy.next, threads]
  split
  · exact .refl h
  · rename_i item hitem
    split
    · exact .refl h
    · obtain ⟨-, hafter, htail⟩ := workUpdated_split s.handler.1.deleting item answers
      refine .of_handler rfl rfl ?_ ?_ (calls_update h.calls ⟨htail, ?_⟩)
      · rintro n (hflag | hdeleted | hrefs)
        · exact Or.inl hflag
        · exact Or.inr (Or.inl hdeleted)
        · exact Or.inr (Or.inr ((refs_update hrefs).resolve_left List.not_mem_nil))
      · exact fun item hitem => Or.inl (List.mem_of_mem_eraseIdx hitem)
      · intro action haction
        refine (hafter action haction).imp_right ?_
        rintro ⟨rfl, hflag⟩
        have hlistener := (h.queued item (List.mem_of_getElem? hitem)).resolve_right hflag
        exact ⟨item, rfl, rfl, rfl, hlistener⟩

private theorem moves_proceed (h : s.Sound) (env : Pointer) :
    s.Moves ((threads P σ).next s (.proceed env)) := by
  simp only [Mealy.next, threads]
  split
  · exact .refl h
  · split
    · exact .refl h
    · rename_i action work hwork
      have hquiet : ∀ action ∈ work, action.quiet = true := by
        intro next hnext
        refine (h.calls env).once next ?_
        rw [hwork]
        exact hnext
      refine .of_handler rfl rfl ?_ (fun _ hitem => Or.inl hitem) (calls_update h.calls ⟨?_, ?_⟩)
      · rintro n (hflag | hdeleted | hrefs)
        · exact Or.inl hflag
        · exact Or.inr (Or.inl hdeleted)
        · refine Or.inr (Or.inr ?_)
          exact (refs_update hrefs).elim (fun hn => ⟨env, hn⟩) id
      · exact fun next hnext => hquiet next (List.mem_of_mem_tail hnext)
      · exact fun next hnext => Or.inl (hquiet next hnext)

private theorem moves_deleteReference (h : s.Sound) (env : Pointer) :
    s.Moves ((threads P σ).next s (.deleteReference env)) := by
  simp only [Mealy.next, threads]
  split
  · exact .refl h
  · rename_i ref refs hrefs
    have hpending : ∀ n ∈ ref :: refs, s.Spent n :=
      fun n hn => Or.inr (Or.inr ⟨env, hrefs ▸ hn⟩)
    refine .of_handler rfl rfl ?_ (fun _ hitem => Or.inl hitem) (calls_refs h env refs)
    rintro n (hflag | hdeleted | hlater)
    · exact Or.inl hflag
    · rcases Finset.mem_insert.mp hdeleted with rfl | hdeleted
      · exact hpending _ List.mem_cons_self
      · exact Or.inr (Or.inl hdeleted)
    · rcases refs_update hlater with hn | hlater
      · exact hpending n (List.mem_cons_of_mem ref hn)
      · exact Or.inr (Or.inr hlater)

private theorem new_callbackRef (eventType : TelephonyUpdateEventType) (slotId : Int)
    (callback : Bool) (n : Pointer) :
    let asyncContext := ObserverContext.new eventType slotId (if callback then n else nullptr)
    asyncContext.callbackRef = nullptr ∨ asyncContext.callbackRef = n := by
  cases callback with
  | true => exact Or.inr rfl
  | false => exact Or.inl rfl

private theorem moves_on (h : s.Sound) (env : Pointer) (eventType : TelephonyUpdateEventType)
    (slotId : Int) (callback : Bool) (M : StateManager σ)
    (isCallBackRegister : IsCallBackRegister) :
    s.Moves ((threads P σ).next s (.on env eventType slotId callback M isCallBackRegister)) := by
  simp only [Mealy.next, threads]
  split
  · exact .refl h
  · obtain ⟨added, hdeleting, href, hlist, hadded⟩ := on_cases (P := P) M isCallBackRegister env
      (.new eventType slotId (if callback then s.fresh else nullptr)) s.handler s.fresh
    generalize Napi.on P M isCallBackRegister env s.fresh
      (.new eventType slotId (if callback then s.fresh else nullptr)) s.handler = r at *
    have hown := new_callbackRef eventType slotId callback s.fresh
    dsimp only at hown
    refine .of_addition h added hlist hdeleting rfl ?_ ?_ rfl (calls_refs h env _)
    · intro l hl
      obtain ⟨-, hflag, hcallback⟩ := hadded l hl
      exact ⟨hflag, hcallback ▸ hown⟩
    · rintro n (hflag | hdeleted | hrefs)
      · exact Or.inl (Or.inl (hdeleting ▸ hflag))
      · exact Or.inl (Or.inr (Or.inl hdeleted))
      · rcases refs_update hrefs with hn | hrefs
        · unfold onCallback at hn
          split at hn
          · rename_i hfailed
            rw [List.mem_singleton.mp hn]
            refine Or.inr ⟨(href ▸ hown).resolve_left hfailed.2.2, ?_⟩
            refine Option.eq_none_iff_forall_not_mem.mpr fun l hl => ?_
            rw [(hadded l hl).1] at hfailed
            cases hfailed.1
          · exact absurd hn List.not_mem_nil
        · exact Or.inl (Or.inr (Or.inr hrefs))

private theorem moves_off (h : s.Sound) (env : Pointer) (eventType : TelephonyUpdateEventType)
    (callback : Bool) (M : StateManager σ) (isCallBackRegister : IsCallBackRegister) :
    s.Moves ((threads P σ).next s (.off env eventType callback M isCallBackRegister)) := by
  simp only [Mealy.next, threads]
  split
  · exact .refl h
  · rename_i hjs
    have hengine : (s.thread env).inEngine = true := by
      rw [Bool.not_eq_false, JsThread.inJs, Bool.and_eq_true_iff] at hjs
      exact hjs.1
    obtain ⟨removed, henv, hlist, hdeleting, hremoved, href⟩ := off_cases (P := P) M
      isCallBackRegister env
      (.new eventType defaultSimSlotId (if callback then s.fresh else nullptr)) s.handler rfl
    generalize Napi.off P M isCallBackRegister env
      (.new eventType defaultSimSlotId (if callback then s.fresh else nullptr)) s.handler = r at *
    have hown : r.2.callbackRef = nullptr ∨ r.2.callbackRef = s.fresh := by
      rw [href]
      exact new_callbackRef eventType defaultSimSlotId callback s.fresh
    refine .of_removal h removed hlist hdeleting henv ?_ (Nat.le_succ s.fresh) ?_ rfl
      (calls_refs h env _)
    · simp only [Function.update_self]
      exact hengine
    · rintro n (hdeleted | hrefs)
      · exact Or.inl (Or.inr (Or.inl hdeleted))
      · rcases refs_update hrefs with hn | hrefs
        · rw [offCallback, hremoved] at hn
          rcases List.mem_append.mp hn with hn | hn
          · exact Or.inr (Or.inr hn)
          · split at hn
            · rename_i hnull
              rw [List.mem_singleton.mp hn]
              exact Or.inr (Or.inl ⟨hown.resolve_left hnull.2, Nat.lt_succ_self s.fresh⟩)
            · exact absurd hn List.not_mem_nil
        · exact Or.inl (Or.inr (Or.inr hrefs))

private theorem moves_unRegisterAllListener (h : s.Sound) (env : Pointer) (M : StateManager σ) :
    s.Moves ((threads P σ).next s (.unRegisterAllListener env M)) := by
  simp only [Mealy.next, threads]
  split
  · exact .refl h
  · rename_i hengine
    refine .of_removal h (matchesEnv env)
      ((sharing P).release_table (M.provider isUpdate)) rfl (fun l hl => of_decide_eq_true hl)
      (by simpa only [Bool.not_eq_false] using hengine) (Nat.le_refl s.fresh) ?_ rfl h.calls
    rintro n (hdeleted | hrefs)
    · rcases Finset.mem_union.mp hdeleted with hdeleted | hdeleted
      · exact Or.inl (Or.inr (Or.inl hdeleted))
      · exact Or.inr (Or.inr (List.mem_toFinset.mp hdeleted))
    · exact Or.inl (Or.inr (Or.inr hrefs))

/-- Every step of the machine is such a step. -/
theorem Threads.Sound.moves (h : s.Sound) (step : ThreadStep P σ) :
    s.Moves ((threads P σ).next s step) := by
  cases step with
  | notified callback =>
    exact .of_handler rfl rfl (fun _ hn => hn) (fun _ hitem => Or.inl hitem) h.calls
  | processEvent attempts => exact moves_processEvent h attempts
  | workUpdated index answers => exact moves_workUpdated h index answers
  | proceed env => exact moves_proceed h env
  | on env eventType slotId callback M isCallBackRegister =>
    exact moves_on h env eventType slotId callback M isCallBackRegister
  | off env eventType callback M isCallBackRegister =>
    exact moves_off h env eventType callback M isCallBackRegister
  | deleteReference env => exact moves_deleteReference h env
  | unRegisterAllListener env M => exact moves_unRegisterAllListener h env M

private theorem out_cases (h : s.Sound) (step : ThreadStep P σ) :
    ∀ action ∈ (threads P σ).out s step, action.quiet = true ∨
      (∃ l ∈ s.listeners, action = .getReferenceValue l.callbackRef ∧ l.callbackRef ≠ nullptr) ∨
      ∃ item, action = .callFunction item ∧ item.listener ∈ s.listeners := by
  intro action haction
  cases step with
  | notified callback => exact absurd haction List.not_mem_nil
  | workUpdated index answers =>
    simp only [Mealy.out, threads] at haction
    split at haction
    · exact absurd haction List.not_mem_nil
    · rename_i item hitem
      split at haction
      · exact absurd haction List.not_mem_nil
      · obtain ⟨hbefore, -, -⟩ := workUpdated_split s.handler.1.deleting item answers
        refine (hbefore action haction).imp_right ?_
        rintro ⟨rfl, href, hflag⟩
        have hlistener := (h.queued item (List.mem_of_getElem? hitem)).resolve_right hflag
        exact Or.inl ⟨item.listener, hlistener, rfl, href⟩
  | proceed env =>
    simp only [Mealy.out, threads] at haction
    split at haction
    · exact absurd haction List.not_mem_nil
    · split at haction
      · exact absurd haction List.not_mem_nil
      · rename_i first work hwork
        obtain rfl := List.mem_singleton.mp haction
        refine ((h.calls env).call action (hwork ▸ List.mem_cons_self)).imp_right ?_
        rintro ⟨item, rfl, -, -, hlistener⟩
        exact Or.inr ⟨item, rfl, hlistener⟩
  | _ =>
    simp only [Mealy.out, threads] at haction
    split at haction <;> exact absurd haction List.not_mem_nil

/-- A flag that is set stays set. -/
theorem sound_run (h : s.Sound) (steps : List (ThreadStep P σ)) :
    ((threads P σ).run s steps).Sound ∧
      ∀ n ∈ s.handler.1.deleting, n ∈ ((threads P σ).run s steps).handler.1.deleting := by
  refine (threads P σ).invariant
    (I := fun t => t.Sound ∧ ∀ n ∈ s.handler.1.deleting, n ∈ t.handler.1.deleting) ?_
    ⟨h, fun _ hn => hn⟩ steps
  rintro t step ⟨ht, hflags⟩
  have hmoves := ht.moves step
  exact ⟨ht.next hmoves, fun n hn => hmoves.deleting (hflags n hn)⟩

end Steps

/-- No work item reads a deleted reference, and once a call has dropped a
listener, no work item calls it. -/
theorem silent_after_removal (P : Platform) {σ : Type} (w : σ) (before : List (ThreadStep P σ))
    (step : ThreadStep P σ) :
    let s := (threads P σ).run (.start P w) before
    let s' := (threads P σ).next s step
    (∀ ref, .getReferenceValue ref ∈ (threads P σ).out s step → ref ∉ s.deleted) ∧
      ∀ listener ∈ s.listeners, listener ∉ s'.listeners → ∀ between last item,
        .callFunction item ∈ (threads P σ).out ((threads P σ).run s' between) last →
          item.listener ≠ listener := by
  intro s s'
  have hsound : s.Sound := (sound_run (.start w) before).1
  have hmoves := hsound.moves step
  constructor
  · intro ref hread hdeleted
    rcases out_cases hsound step _ hread with hquiet | ⟨l, hl, hsame, hne⟩ | ⟨_, hsame, -⟩
    · cases hquiet
    · cases hsame
      rw [(hsound.fresh l hl).2.2.resolve_left hne] at hdeleted
      exact hsound.unspent l hl (Or.inr (Or.inl hdeleted))
    · cases hsame
  · intro listener hl hdropped between last item hcall heq
    have hflag := (hmoves.dropped listener hl hdropped).1
    obtain ⟨hlater, hflags⟩ := sound_run (hsound.next hmoves) between
    rcases out_cases hlater last _ hcall with hquiet | ⟨_, -, hsame, -⟩ | ⟨called, hsame, hmem⟩
    · cases hquiet
    · cases hsame
    · cases hsame
      rw [heq] at hmem
      exact hlater.unspent listener hmem (Or.inl (hflags _ hflag))

/-- A listener of the call states and a callback on its way to it: what the work
item does, if JS code calls `off` before it runs and if not. -/
example :
    let manager := registryManager fun _ => .telephonySuccess
    let on : ThreadStep .dualSim (Finset Pair) :=
      .on 7 (.event .callState) 0 true manager (fun _ _ _ => true)
    let off : ThreadStep .dualSim (Finset Pair) :=
      .off 7 (.event .callState) false manager (fun _ _ _ => true)
    let queue : List (ThreadStep .dualSim (Finset Pair)) :=
      [on, .notified (.onCallStateUpdated 0 1 []), .processEvent fun _ => .succeeding 0]
    let work : List (ThreadStep .dualSim (Finset Pair)) :=
      [.workUpdated 0 ⟨true, true, true⟩, .proceed 7, .proceed 7]
    let outs (steps) := ((threads .dualSim (Finset Pair)).outs (.start .dualSim ∅) steps).map
      (List.map WorkAction.quiet)
    outs (queue ++ work) = [[], [], [], [true, true, true, false, true], [false], [true]] ∧
      outs (queue ++ [off, .deleteReference 7] ++ work) =
        [[], [], [], [], [], [true, true], [], []] := by
  decide

end Napi

end TelephonyStateRegistry
