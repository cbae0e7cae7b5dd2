import TelephonyStateRegistry.Client.Accounts

/-!
# What becomes of the objects of dispatched work

No object is released twice: a context belongs to the loop, then to the queue, then to
the work item, and each of them releases it or passes it on. The `uv_work_t` of an item
that was queued is passed on to nobody, and a context for which no work can be made is
forgotten.
-/

namespace TelephonyStateRegistry

open Reactive

variable {P : Platform} {σ : Type}

namespace Napi

/-! ## One listener -/

/-- Whether the loop releases what it makes for a listener. -/
def InnerEvent.settles (event : InnerEvent P) (attempt : Attempt) : Bool :=
  match handleFuncMap event.innerEventId with
  | .handleCallbackInfoUpdate _ =>
    !attempt.initLoop || !attempt.makeContext || (attempt.makeWork && attempt.queueWork ≠ 0)
  | .handleCallbackVoidUpdate _ =>
    !attempt.initLoop || !attempt.makeWork || attempt.queueWork ≠ 0

/-- The attempt at the first listener that needs an event. -/
def InnerEvent.firstAttempt (event : InnerEvent P) :
    (attempts : Nat → Attempt) → List EventListener → Option Attempt
  | _, [] => none
  | attempts, listen :: listeners =>
    if event.needs (attempts 0) listen = true then some (attempts 0)
    else firstAttempt event (fun n => attempts (n + 1)) listeners

/-- A step that leaves no object behind: if it processes an event that a listener needs,
what is made for the first one is released at once. -/
def Threads.Settles (s : Threads P σ) : ThreadStep P σ → Prop
  | .processEvent attempts => ∀ event ∈ s.events.head?,
    ∀ attempt ∈ event.firstAttempt attempts s.listeners, event.settles attempt = true
  | _ => True

/-- Whether the work for a listener is queued. -/
private def Queues (event : InnerEvent P) (attempt : Attempt) : Prop :=
  event.makes attempt = true ∧ attempt.queueWork = 0

private theorem actions_cases (event : InnerEvent P) (attempt : Attempt) (n : Nat) :
    ∃ made, (made = [.make (.context n), .make (.work n)] ∨
        made = [.make (.work n), .make (.context n)]) ∧
      ((event.settles attempt = true ∧ ¬Queues event attempt ∧
          (event.actions attempt n = [] ∨
            event.actions attempt n = made ++ [.release (.context n), .release (.work n)])) ∨
        (event.settles attempt = false ∧
          ((Queues event attempt ∧ event.actions attempt n = made) ∨
            (¬Queues event attempt ∧ event.actions attempt n = [.make (.context n)])))) := by
  unfold Queues InnerEvent.settles InnerEvent.actions InnerEvent.makes
  cases handleFuncMap event.innerEventId with
  | handleCallbackInfoUpdate eventType =>
    refine ⟨_, Or.inl rfl, ?_⟩
    unfold Attempt.infoActions
    cases attempt.initLoop <;> cases attempt.makeContext <;> cases attempt.makeWork <;>
      by_cases hqueue : attempt.queueWork = 0 <;> simp [hqueue]
  | handleCallbackVoidUpdate eventType =>
    refine ⟨_, Or.inr rfl, ?_⟩
    unfold Attempt.voidActions
    cases attempt.initLoop <;> cases attempt.makeWork <;>
      by_cases hqueue : attempt.queueWork = 0 <;> simp [hqueue]

private theorem not_settles_of_queues {event : InnerEvent P} {attempt : Attempt}
    (h : Queues event attempt) : event.settles attempt = false := by
  obtain ⟨-, -, ⟨-, hnot, -⟩ | ⟨hsettles, -⟩⟩ := actions_cases event attempt 0
  · exact absurd h hnot
  · exact hsettles

private theorem actions_run (event : InnerEvent P) (attempt : Attempt) {L : Ledger WorkObject}
    {n : Nat} (h : L.Exact) (hnew : ∀ o : WorkObject, o.item = n → o ∉ L.live ∧ o ∉ L.released) :
    let L' := L.run (event.actions attempt n)
    L'.Exact ∧ (∀ o ∈ L'.released, o ∈ L.released ∨ o.item = n) ∧
      (∀ o, o.item ≠ n → (o ∈ L'.live ↔ o ∈ L.live)) ∧
      (.work n ∈ L'.live ↔ Queues event attempt) ∧
      (.context n ∈ L'.live ↔ event.settles attempt = false) := by
  obtain ⟨hw, hw'⟩ := hnew (.work n) rfl
  obtain ⟨hc, hc'⟩ := hnew (.context n) rfl
  have hother (o : WorkObject) (ho : o.item ≠ n) : o ≠ .work n ∧ o ≠ .context n :=
    ⟨fun h => ho (h ▸ rfl), fun h => ho (h ▸ rfl)⟩
  obtain ⟨made, rfl | rfl, ⟨hsettles, hqueues, hacts | hacts⟩ |
    ⟨hsettles, ⟨hqueues, hacts⟩ | ⟨hqueues, hacts⟩⟩⟩ := actions_cases event attempt n <;>
    rw [hacts]
  all_goals
    refine ⟨h.run ?_, fun o ho => ?_, fun o ho => ?_, ?_, ?_⟩
    · simp [Ledger.PermitsAll, Ledger.Permits, Ledger.after, *]
    · by_cases hitem : o.item = n
      · exact Or.inr hitem
      · refine Or.inl ?_
        have hne := hother o hitem
        simpa [Ledger.after, hne] using ho
    · have hne := hother o ho
      simp [Ledger.after, hne]
    · simp [Ledger.after, *]
    · simp [Ledger.after, *]

/-! ## The accounts -/

/-- What the accounts keep: nothing was released twice, and every context that is queued or
in work is alive and has one owner. -/
structure Accounts.Balanced (a : Accounts) : Prop where
  exact : a.ledger.Exact
  numbered : ∀ o : WorkObject, o ∈ a.ledger.live ∨ o ∈ a.ledger.released → o.item < a.items
  queued : ∀ n ∈ a.queued, .context n ∈ a.ledger.live
  once : a.queued.Nodup
  running : ∀ env, a.running env = [] ∨ ∃ n, a.running env = [.release (.context n)] ∧
    .context n ∈ a.ledger.live ∧ n ∉ a.queued ∧
    ∀ env', a.running env' = [.release (.context n)] → env' = env

/-- An object is alive that nobody is going to release. -/
def Accounts.Lost (a : Accounts) : Prop :=
  ∃ n, .work n ∈ a.ledger.live ∨ (.context n ∈ a.ledger.live ∧ n ∉ a.queued ∧
    ∀ env, a.running env ≠ [.release (.context n)])

theorem Accounts.Balanced.start : Accounts.start.Balanced where
  exact := Ledger.exact_empty
  numbered o h := by
    rcases h with h | h
    · exact absurd h (Finset.notMem_empty o)
    · exact absurd h List.not_mem_nil
  queued _ h := absurd h List.not_mem_nil
  once := List.nodup_nil
  running _ := Or.inl rfl

variable {a : Accounts}

private theorem Accounts.Balanced.owned (h : a.Balanced) {env : Pointer} {n : Nat}
    (hrun : a.running env = [.release (.context n)]) : .context n ∈ a.ledger.live ∧
      n ∉ a.queued ∧ ∀ env', a.running env' = [.release (.context n)] → env' = env := by
  rcases h.running env with hnil | ⟨m, hm, hrest⟩
  · rw [hnil] at hrun
    cases hrun
  · rw [hm] at hrun
    cases hrun
    exact hrest

private theorem Accounts.Balanced.lt_items (h : a.Balanced) :
    (∀ n ∈ a.queued, n < a.items) ∧
      ∀ env n, a.running env = [.release (.context n)] → n < a.items :=
  ⟨fun n hn => h.numbered (.context n) (Or.inl (h.queued n hn)),
    fun _ n hn => h.numbered (.context n) (Or.inl (h.owned hn).1)⟩

private theorem Accounts.Balanced.unused (h : a.Balanced) {o : WorkObject}
    (ho : o.item = a.items) : o ∉ a.ledger.live ∧ o ∉ a.ledger.released :=
  ⟨fun hl => (h.numbered o (Or.inl hl)).ne ho, fun hr => (h.numbered o (Or.inr hr)).ne ho⟩

section QueueWork

variable (event : InnerEvent P) (attempt : Attempt)

private theorem Accounts.mem_queued_queueWork {n : Nat} :
    n ∈ (a.queueWork event attempt).queued ↔
      n ∈ a.queued ∨ (n = a.items ∧ Queues event attempt) := by
  by_cases hqueues : Queues event attempt
  · have hb : (a.queueWork event attempt).queued = a.queued ++ [a.items] := if_pos hqueues
    rw [hb, List.mem_append, List.mem_singleton, and_iff_left hqueues]
  · have hb : (a.queueWork event attempt).queued = a.queued := if_neg hqueues
    rw [hb, or_iff_left fun hn => hqueues hn.2]

private theorem Accounts.Balanced.live_queueWork (h : a.Balanced) :
    let b := a.queueWork event attempt
    (∀ o : WorkObject, o.item ≠ a.items → (o ∈ b.ledger.live ↔ o ∈ a.ledger.live)) ∧
      (.work a.items ∈ b.ledger.live ↔ Queues event attempt) ∧
      (.context a.items ∈ b.ledger.live ↔ event.settles attempt = false) :=
  (actions_run event attempt h.exact fun _ => h.unused).2.2

private theorem Accounts.Balanced.queueWork (h : a.Balanced) :
    (a.queueWork event attempt).Balanced := by
  obtain ⟨hexact, hreleased, -⟩ := actions_run event attempt h.exact fun _ => h.unused
  obtain ⟨hlive, -, hcontext⟩ := h.live_queueWork event attempt
  obtain ⟨hqueued_lt, hrunning_lt⟩ := h.lt_items
  refine ⟨hexact, fun o ho => ?_, fun n hn => ?_, ?_, fun env => ?_⟩
  · by_cases hitem : o.item = a.items
    · exact hitem ▸ Nat.lt_succ_self _
    · refine (h.numbered o ?_).trans (Nat.lt_succ_self _)
      exact ho.imp (hlive o hitem).mp fun ho => (hreleased o ho).resolve_right hitem
  · rcases (mem_queued_queueWork event attempt).mp hn with hn | ⟨rfl, hqueues⟩
    · exact (hlive (.context n) (hqueued_lt n hn).ne).mpr (h.queued n hn)
    · exact hcontext.mpr (not_settles_of_queues hqueues)
  · by_cases hqueues : Queues event attempt
    · have hb : (a.queueWork event attempt).queued = a.queued ++ [a.items] := if_pos hqueues
      rw [hb]
      refine List.nodup_append.mpr ⟨h.once, List.nodup_singleton _, ?_⟩
      rintro n hn m hm rfl
      exact (hqueued_lt n hn).ne (List.mem_singleton.mp hm)
    · have hb : (a.queueWork event attempt).queued = a.queued := if_neg hqueues
      rw [hb]
      exact h.once
  · rcases h.running env with hnil | ⟨n, hn, hcontext, hfree, hone⟩
    · exact Or.inl hnil
    · have hlt := hrunning_lt env n hn
      refine Or.inr ⟨n, hn, (hlive (.context n) hlt.ne).mpr hcontext, ?_, hone⟩
      rw [mem_queued_queueWork, or_iff_left fun heq => hlt.ne heq.1]
      exact hfree

private theorem Accounts.Balanced.lost_queueWork (h : a.Balanced) (hlost : a.Lost) :
    (a.queueWork event attempt).Lost := by
  obtain ⟨hlive, -, -⟩ := h.live_queueWork event attempt
  obtain ⟨n, hn | ⟨hn, hfree, hrun⟩⟩ := hlost
  · exact ⟨n, Or.inl ((hlive (.work n) (h.numbered _ (Or.inl hn)).ne).mpr hn)⟩
  · have hlt : n < a.items := h.numbered _ (Or.inl hn)
    refine ⟨n, Or.inr ⟨(hlive (.context n) hlt.ne).mpr hn, ?_, hrun⟩⟩
    rw [mem_queued_queueWork, or_iff_left fun heq => hlt.ne heq.1]
    exact hfree

private theorem Accounts.Balanced.lost_of_not_settles (h : a.Balanced)
    (hsettles : event.settles attempt = false) : (a.queueWork event attempt).Lost := by
  obtain ⟨-, hwork, hcontext⟩ := h.live_queueWork event attempt
  obtain ⟨hqueued_lt, hrunning_lt⟩ := h.lt_items
  refine ⟨a.items, ?_⟩
  by_cases hqueues : Queues event attempt
  · exact Or.inl (hwork.mpr hqueues)
  · refine Or.inr ⟨hcontext.mpr hsettles, ?_, fun env hn => (hrunning_lt env _ hn).ne rfl⟩
    rw [mem_queued_queueWork, or_iff_left fun heq => hqueues heq.2]
    exact fun hn => (hqueued_lt _ hn).ne rfl

private theorem Accounts.Balanced.queueWork_of_settles (h : a.Balanced)
    (hsettles : event.settles attempt = true) :
    (a.queueWork event attempt).ledger.live = a.ledger.live ∧
      (a.queueWork event attempt).queued = a.queued := by
  obtain ⟨hlive, hwork, hcontext⟩ := h.live_queueWork event attempt
  have hqueues : ¬Queues event attempt := fun hq =>
    Bool.false_ne_true ((not_settles_of_queues hq).symm.trans hsettles)
  refine ⟨Finset.ext fun o => ?_, if_neg hqueues⟩
  by_cases hitem : o.item = a.items
  · refine iff_of_false ?_ (h.unused hitem).1
    cases o with
    | work n =>
      cases hitem
      exact mt hwork.mp hqueues
    | context n =>
      cases hitem
      exact fun hmem => Bool.false_ne_true ((hcontext.mp hmem).symm.trans hsettles)
  · exact hlive o hitem

end QueueWork

private theorem Accounts.Balanced.queueWorks (h : a.Balanced) (event : InnerEvent P)
    (attempts : Nat → Attempt) (listeners : List EventListener) :
    let b := a.queueWorks event attempts listeners
    b.Balanced ∧ b.running = a.running ∧ (a.Lost → b.Lost) ∧
      ((∀ attempt ∈ event.firstAttempt attempts listeners, event.settles attempt = true) →
        b.ledger.live = a.ledger.live ∧ b.queued = a.queued) ∧
      ((¬∀ attempt ∈ event.firstAttempt attempts listeners, event.settles attempt = true) →
        b.Lost) := by
  induction listeners generalizing attempts a with
  | nil =>
    refine ⟨h, rfl, id, fun _ => ⟨rfl, rfl⟩, fun hnot => (hnot ?_).elim⟩
    intro attempt hmem
    cases hmem
  | cons l ls ih =>
    have hbalanced := h.queueWork event (attempts 0)
    have hlost := h.lost_queueWork event (attempts 0)
    rw [Accounts.queueWorks, InnerEvent.firstAttempt]
    by_cases hneeds : event.needs (attempts 0) l = true
    · rw [if_pos hneeds, if_neg (ne_false_of_eq_true hneeds)]
      simp only [Option.mem_some_iff, forall_eq']
      have hends : (a.queueWork event (attempts 0)).Balanced ∧
          (a.queueWork event (attempts 0)).running = a.running ∧
          (a.Lost → (a.queueWork event (attempts 0)).Lost) ∧
          (event.settles (attempts 0) = true →
            (a.queueWork event (attempts 0)).ledger.live = a.ledger.live ∧
              (a.queueWork event (attempts 0)).queued = a.queued) ∧
          (¬event.settles (attempts 0) = true → (a.queueWork event (attempts 0)).Lost) :=
        ⟨hbalanced, rfl, hlost, h.queueWork_of_settles event (attempts 0), fun hnot =>
          h.lost_of_not_settles event (attempts 0) (Bool.eq_false_of_not_eq_true hnot)⟩
      split_ifs with hmakes hqueue
      · exact hends
      · exact hends
      · have hqueues : Queues event (attempts 0) :=
          ⟨Bool.eq_true_of_not_eq_false hmakes, not_not.mp hqueue⟩
        have hnot := not_settles_of_queues hqueues
        obtain ⟨hrest, hrunning, hlater, -, -⟩ := ih hbalanced fun n => attempts (n + 1)
        refine ⟨hrest, hrunning, fun h => hlater (hlost h), fun hsettles => ?_, fun _ => ?_⟩
        · exact absurd hsettles (ne_true_of_eq_false hnot)
        · exact hlater (h.lost_of_not_settles event (attempts 0) hnot)
    · rw [if_neg hneeds, if_pos (Bool.eq_false_of_not_eq_true hneeds)]
      exact ih h _

/-! ## A work item -/

private theorem releases_cases (deleting : Finset Pointer) (item : WorkItem P)
    (answers : WorkAnswers) (n : Nat) :
    releases deleting item answers n = [] ∨
      releases deleting item answers n = [.release (.context n)] := by
  have hwork (workFunc : WorkFunc) : workFunc.releases item answers n = [] ∨
      workFunc.releases item answers n = [.release (.context n)] := by
    unfold WorkFunc.releases
    split_ifs
    · exact Or.inr rfl
    · exact Or.inr rfl
    · exact Or.inl rfl
    · exact Or.inr rfl
  unfold releases
  by_cases hflag : item.listener.isDeleting = nullptr ∨ item.listener.isDeleting ∈ deleting
  · exact Or.inr (if_pos hflag)
  · rw [if_neg hflag]
    cases workFuncMap item.listener.eventType with
    | none => exact Or.inr rfl
    | some workFunc => exact hwork workFunc

private theorem Accounts.Balanced.takeUp (h : a.Balanced) {index n : Nat}
    (env : Pointer) (hn : a.queued[index]? = some n) {actions : List (ObjectAction WorkObject)}
    (hactions : actions = [] ∨ actions = [.release (.context n)]) :
    let b : Accounts := { a with
      queued := a.queued.eraseIdx index
      running := Function.update a.running env actions }
    b.Balanced ∧ (a.Lost → b.Lost) := by
  intro b
  have hmem : n ∈ a.queued := List.mem_of_getElem? hn
  have hsub : ∀ m ∈ b.queued, m ∈ a.queued := fun m hm => List.mem_of_mem_eraseIdx hm
  have hnot : n ∉ b.queued := by
    intro hmem
    obtain ⟨i, hi, hget⟩ := List.mem_eraseIdx_iff_getElem?.mp hmem
    have hlt : i < a.queued.length := (List.getElem?_eq_some_iff.mp hget).1
    exact hi ((List.getElem?_inj hlt h.once).mp (hget.trans hn.symm))
  have henv : b.running env = actions := Function.update_self _ _ _
  have hne {env' : Pointer} (h : env' ≠ env) : b.running env' = a.running env' :=
    Function.update_of_ne h _ _
  have hother {env' : Pointer} {m : Nat} (hrun : b.running env' = [.release (.context m)]) :
      (env' = env ∧ m = n) ∨ a.running env' = [.release (.context m)] := by
    by_cases heq : env' = env
    · rw [heq, henv] at hrun
      rcases hactions with hnil | hone
      · rw [hnil] at hrun
        cases hrun
      · rw [hone] at hrun
        cases hrun
        exact Or.inl ⟨heq, rfl⟩
    · exact Or.inr ((hne heq).symm.trans hrun)
  refine ⟨⟨h.exact, h.numbered, fun m hm => h.queued m (hsub m hm), h.once.eraseIdx index, ?_⟩, ?_⟩
  · intro env'
    by_cases heq : env' = env
    · rw [heq, henv]
      refine hactions.imp_right fun hone => ⟨n, hone, h.queued n hmem, hnot, fun env'' hrun => ?_⟩
      rcases hother hrun with ⟨hsame, -⟩ | ha
      · exact hsame
      · exact absurd hmem (h.owned ha).2.1
    · rw [hne heq]
      rcases h.running env' with hnil | ⟨m, hm, hlive, hfree, hone⟩
      · exact Or.inl hnil
      · refine Or.inr ⟨m, hm, hlive, mt (hsub m) hfree, fun env'' hrun => ?_⟩
        rcases hother hrun with ⟨-, rfl⟩ | ha
        · exact absurd hmem hfree
        · exact hone env'' ha
  · rintro ⟨m, hm | ⟨hm, hfree, hrun⟩⟩
    · exact ⟨m, Or.inl hm⟩
    · refine ⟨m, Or.inr ⟨hm, mt (hsub m) hfree, fun env' hb => ?_⟩⟩
      rcases hother hb with ⟨-, rfl⟩ | ha
      · exact hfree hmem
      · exact hrun env' ha

private theorem Accounts.Balanced.returned (h : a.Balanced) (env : Pointer) (t : JsThread P) :
    (a.returned env t).Balanced ∧ (a.Lost → (a.returned env t).Lost) := by
  unfold Accounts.returned
  cases hwork : t.work with
  | cons action work => exact ⟨h, id⟩
  | nil =>
    rw [List.isEmpty_nil, if_pos rfl]
    rcases h.running env with hnil | ⟨n, hn, hlive, hfree, hone⟩
    · have hsame : Function.update a.running env [] = a.running := by
        rw [← hnil, Function.update_eq_self]
      rw [hnil, hsame]
      exact ⟨h, id⟩
    · rw [hn, Ledger.run_cons, Ledger.run_nil]
      have hrunning {env' : Pointer} {m : Nat}
          (hrun : Function.update a.running env [] env' = [.release (.context m)]) :
          a.running env' = [.release (.context m)] ∧ m ≠ n := by
        have hother : env' ≠ env := by
          rintro rfl
          rw [Function.update_self] at hrun
          cases hrun
        rw [Function.update_of_ne hother] at hrun
        refine ⟨hrun, ?_⟩
        rintro rfl
        exact hother (hone env' hrun)
      have halive {o : WorkObject} (ho : o ∈ a.ledger.live) (hne : o ≠ .context n) :
          o ∈ (a.ledger.after (.release (.context n))).live := Finset.mem_erase.mpr ⟨hne, ho⟩
      have hcontext {m : Nat} (hm : m ≠ n) : WorkObject.context m ≠ .context n :=
        fun heq => hm (WorkObject.context.inj heq)
      have hpermits : a.ledger.PermitsAll [.release (.context n)] := ⟨hlive, trivial⟩
      refine ⟨⟨h.exact.run hpermits, ?_, ?_, h.once, ?_⟩, ?_⟩
      · rintro o (ho | ho)
        · exact h.numbered o (Or.inl (Finset.mem_of_mem_erase ho))
        · rcases List.mem_append.mp ho with ho | ho
          · exact h.numbered o (Or.inr ho)
          · rw [List.mem_singleton.mp ho]
            exact h.numbered _ (Or.inl hlive)
      · intro m hm
        refine halive (h.queued m hm) (hcontext ?_)
        rintro rfl
        exact hfree hm
      · intro env'
        by_cases heq : env' = env
        · rw [heq]
          exact Or.inl (Function.update_self _ _ _)
        · rcases h.running env' with hnil | ⟨m, hm, hlive', hfree', hone'⟩
          · exact Or.inl ((Function.update_of_ne heq _ _).trans hnil)
          · have hrun : Function.update a.running env [] env' = [.release (.context m)] :=
              (Function.update_of_ne heq _ _).trans hm
            exact Or.inr ⟨m, hrun, halive hlive' (hcontext (hrunning hrun).2), hfree',
              fun env'' h => hone' env'' (hrunning h).1⟩
      · rintro ⟨m, hm | ⟨hm, hfree', hrun⟩⟩
        · exact ⟨m, Or.inl (halive hm fun heq => by cases heq)⟩
        · refine ⟨m, Or.inr ⟨halive hm (hcontext ?_), hfree', fun env' hb => ?_⟩⟩
          · rintro rfl
            exact hrun env hn
          · exact hrun env' (hrunning hb).1

/-! ## Runs -/

/-- No object is alive, and none is going to be released. -/
private def Clear (a : Accounts) : Prop :=
  a.ledger.live = ∅ ∧ a.queued = [] ∧ ∀ env, a.running env = []

private theorem Clear.returned (h : Clear a) (env : Pointer) (t : JsThread P) :
    Clear (a.returned env t) := by
  obtain ⟨hlive, hqueued, hrunning⟩ := h
  unfold Accounts.returned
  split_ifs
  · rw [hrunning env]
    refine ⟨hlive, hqueued, fun env' => ?_⟩
    change Function.update a.running env [] env' = []
    rw [Function.update_apply]
    split_ifs
    · rfl
    · exact hrunning env'
  · exact ⟨hlive, hqueued, hrunning⟩

private theorem Accounts.Balanced.after (h : a.Balanced) (s next : Threads P σ)
    (step : ThreadStep P σ) :
    (a.after s next step).Balanced ∧ (a.Lost → (a.after s next step).Lost) ∧
      (s.Settles step → Clear a → Clear (a.after s next step)) ∧
      (¬s.Settles step → (a.after s next step).Lost) := by
  cases step with
  | processEvent attempts =>
    unfold Accounts.after Threads.Settles
    cases s.events with
    | nil => exact ⟨h, id, fun _ => id, fun hnot => (hnot fun _ hmem => by cases hmem).elim⟩
    | cons event events =>
      obtain ⟨hbalanced, hrunning, hlost, hsettled, hleft⟩ :=
        h.queueWorks event attempts s.listeners
      simp only [List.head?_cons, Option.mem_some_iff, forall_eq']
      refine ⟨hbalanced, hlost, fun hsettles hclear => ?_, hleft⟩
      obtain ⟨hlive, hqueued⟩ := hsettled hsettles
      exact ⟨hlive.trans hclear.1, hqueued.trans hclear.2.1, fun env =>
        (congrFun hrunning env).trans (hclear.2.2 env)⟩
  | workUpdated index answers =>
    have hsame (heq : a.after s next (.workUpdated index answers) = a) :
        (a.after s next (.workUpdated index answers)).Balanced ∧
          (a.Lost → (a.after s next (.workUpdated index answers)).Lost) ∧
          (s.Settles (.workUpdated index answers) → Clear a →
            Clear (a.after s next (.workUpdated index answers))) ∧
          (¬s.Settles (.workUpdated index answers) →
            (a.after s next (.workUpdated index answers)).Lost) := by
      rw [heq]
      exact ⟨h, id, fun _ => id, fun hnot => absurd trivial hnot⟩
    cases hitem : s.queue[index]? with
    | none => exact hsame (by simp only [Accounts.after, hitem])
    | some item =>
      cases hn : a.queued[index]? with
      | none => exact hsame (by simp only [Accounts.after, hitem, hn])
      | some n =>
        by_cases hidle : (s.thread item.listener.env).isIdle = false
        · exact hsame (by simp only [Accounts.after, hitem, hn, hidle, if_true])
        · obtain ⟨hbalanced, hlost⟩ := h.takeUp item.listener.env hn
            (releases_cases s.handler.1.deleting item answers n)
          obtain ⟨hreturned, hlater⟩ :=
            hbalanced.returned item.listener.env (next.thread item.listener.env)
          simp only [Accounts.after, hitem, hn, hidle]
          refine ⟨hreturned, fun h => hlater (hlost h), fun _ hclear => ?_,
            fun hnot => absurd trivial hnot⟩
          rw [hclear.2.1] at hn
          cases hn
  | proceed env =>
    obtain ⟨hbalanced, hlost⟩ := h.returned env (next.thread env)
    exact ⟨hbalanced, hlost, fun _ hclear => hclear.returned env _,
      fun hnot => absurd trivial hnot⟩
  | _ => exact ⟨h, id, fun _ => id, fun hnot => absurd trivial hnot⟩

private theorem accounts_run (w : σ) (steps : List (ThreadStep P σ)) :
    let start : Threads P σ × Accounts := (.start P w, .start)
    let a := ((accounts P σ).run start steps).2
    let settles := (accounts P σ).Along (fun s step => s.1.Settles step) start steps
    a.Balanced ∧ (settles → Clear a) ∧ (¬settles → a.Lost) := by
  intro start a settles
  induction steps using List.reverseRecOn with
  | nil => exact ⟨.start, fun _ => ⟨rfl, rfl, fun _ => rfl⟩, fun hnot => absurd trivial hnot⟩
  | append_singleton steps step ih =>
    obtain ⟨hbalanced, hclear, hlost⟩ := ih
    let s := (accounts P σ).run start steps
    have hrun : a = s.2.after s.1 ((threads P σ).next s.1 step) step :=
      congrArg Prod.snd ((accounts P σ).run_concat start steps step)
    have hsettles : settles ↔ (accounts P σ).Along (fun s step => s.1.Settles step) start steps ∧
        s.1.Settles step := Mealy.Along.concat
    obtain ⟨hnext, hstays, hkept, hleft⟩ :=
      hbalanced.after s.1 ((threads P σ).next s.1 step) step
    rw [hrun, hsettles]
    refine ⟨hnext, fun h => hkept h.2 (hclear h.1), fun hnot => ?_⟩
    by_cases hbefore : (accounts P σ).Along (fun s step => s.1.Settles step) start steps
    · exact hleft fun hlast => hnot ⟨hbefore, hlast⟩
    · exact hstays (hlost hbefore)

/-- **The objects of dispatched work.** In every run no object is released twice. Where
nothing is under way, none is alive if and only if no event of the run was processed with
a listener whose work was queued or whose context was left without a work. -/
theorem objects_released_iff (P : Platform) {σ : Type} (w : σ) (steps : List (ThreadStep P σ)) :
    let start : Threads P σ × Accounts := (.start P w, .start)
    let s := (accounts P σ).run start steps
    s.2.ledger.released.Nodup ∧ (s.1.Settled →
      (s.2.ledger.live = ∅ ↔
        (accounts P σ).Along (fun s step => s.1.Settles step) start steps)) := by
  intro start s
  obtain ⟨hbalanced, hclear, hlost⟩ := accounts_run (P := P) w steps
  refine ⟨hbalanced.exact.once, fun _ => ⟨fun hempty => ?_, fun hsettles => (hclear hsettles).1⟩⟩
  by_contra hnot
  obtain ⟨n, hwork | ⟨hcontext, -⟩⟩ := hlost hnot
  · exact Finset.notMem_empty _ (hempty ▸ hwork)
  · exact Finset.notMem_empty _ (hempty ▸ hcontext)

/-- A work item that is queued, taken up and run to its end. -/
theorem object_left_alive :
    let manager := registryManager fun _ => .telephonySuccess
    let steps : List (ThreadStep .dualSim (Finset Pair)) :=
      [.on 7 (.event .callState) 0 true manager fun _ _ _ => true,
        .notified (.onCallStateUpdated 0 1 []), .processEvent fun _ => .succeeding 0,
        .workUpdated 0 ⟨true, true, true⟩, .proceed 7, .proceed 7, .proceed 7]
    let s := (accounts .dualSim (Finset Pair)).run (.start .dualSim ∅, .start) steps
    ¬(s.2.ledger.released.Nodup ∧ (s.1.Settled → s.2.ledger.live = ∅)) := by
  intro manager steps s
  have hlive : s.2.ledger.live = {.work 0} := by rfl
  have hsettled : s.1.Settled := by
    refine ⟨rfl, fun env => ?_⟩
    by_cases henv : env = 7
    · rw [henv]
      rfl
    · have hother (f : Pointer → JsThread .dualSim) (t : JsThread .dualSim) :
          Function.update f 7 t env = f env := Function.update_of_ne henv t f
      have hidle : s.1.thread env = .idle :=
        (hother _ _).trans ((hother _ _).trans ((hother _ _).trans ((hother _ _).trans
          (hother _ _))))
      rw [hidle]
      rfl
  rintro ⟨-, hempty⟩
  rw [hempty hsettled] at hlive
  exact absurd hlive.symm (Finset.singleton_ne_empty _)

end Napi

end TelephonyStateRegistry
