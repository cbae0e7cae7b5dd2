import Mathlib.Data.List.Perm.Lattice
import TelephonyStateRegistry.Core.Flow
import TelephonyStateRegistry.Correctness.Silence

/-!
# Where the references of the JS front end are

A call makes at most one reference. It is kept in the table, or the call deletes it when it
ends, after those of the listeners that it drops. One kind of call neither keeps nor deletes
it: an `on` on a device without SIM slots.
-/

namespace TelephonyStateRegistry

open Reactive

variable {P : Platform} {σ : Type}

namespace Napi

/-- The environment of a step that JS code or its call takes. -/
def ThreadStep.env : ThreadStep P σ → Option Pointer
  | .on env _ _ _ _ _ => some env
  | .off env _ _ _ _ => some env
  | .deleteReference env => some env
  | .unRegisterAllListener env _ => some env
  | _ => none

/-- The references that a step makes. -/
def Threads.makes (s : Threads P σ) : ThreadStep P σ → List Pointer
  | .on env _ _ callback _ _ => if (s.thread env).inJs ∧ callback then [s.fresh] else []
  | .off env _ callback _ _ => if (s.thread env).inJs ∧ callback then [s.fresh] else []
  | _ => []

/-- The references that a step deletes. -/
def Threads.deletes (s : Threads P σ) : ThreadStep P σ → List Pointer
  | .deleteReference env => (s.thread env).refs.take 1
  | .unRegisterAllListener env _ =>
    if (s.thread env).inEngine then
      deletedReferences env (s.listeners.filter (matchesEnv env))
    else []
  | _ => []

/-- The references that a step makes and forgets. -/
def Threads.forgets (s : Threads P σ) : ThreadStep P σ → List Pointer
  | .on env eventType slotId callback M isCallBackRegister =>
    if eventType ≠ .noneEventType ∧ P.simSlotCount = 0 ∧ isCallEvent eventType = false then
      s.makes (.on env eventType slotId callback M isCallBackRegister)
    else []
  | _ => []

/-- The references of listeners. -/
def tableReferences (listeners : List EventListener) : List Pointer :=
  (listeners.map EventListener.callbackRef).filter fun ref => ref ≠ nullptr

/-- The references of the table, and those that calls have still to delete. -/
def Threads.references (envs : List Pointer) (s : Threads P σ) : List Pointer :=
  tableReferences s.listeners ++ envs.flatMap fun env => (s.thread env).refs

/-! ## The lists of references -/

theorem tableReferences_append (ls ls' : List EventListener) :
    tableReferences (ls ++ ls') = tableReferences ls ++ tableReferences ls' := by
  rw [tableReferences, List.map_append, List.filter_append]
  rfl

private theorem tableReferences_singleton {l : EventListener} (h : l.callbackRef ≠ nullptr) :
    tableReferences [l] = [l.callbackRef] :=
  List.filter_cons_of_pos (decide_eq_true h)

private theorem tableReferences_perm (removed : EventListener → Bool) (ls : List EventListener) :
    (tableReferences (ls.filter removed) ++ tableReferences (ls.filter fun l => !removed l)).Perm
      (tableReferences ls) := by
  rw [← tableReferences_append]
  exact ((List.filter_append_perm removed ls).map EventListener.callbackRef).filter _

private theorem deletedReferences_eq {env : Pointer} (henv : env ≠ nullptr)
    {ls : List EventListener} (hls : ∀ l ∈ ls, l.env = env) :
    deletedReferences env ls = tableReferences ls := by
  rw [deletedReferences, tableReferences, List.filter_map]
  refine congrArg (List.map EventListener.callbackRef) (List.filter_congr fun l hl => ?_)
  simp only [hls l hl, henv, Function.comp_apply, decide_true, Bool.true_and, ne_eq,
    not_false_eq_true]

private theorem pending_update (thread : Pointer → JsThread P) {envs : List Pointer}
    {env : Pointer} (hnodup : envs.Nodup) (henv : env ∈ envs) (t : JsThread P) :
    (envs.flatMap fun e => (Function.update thread env t e).refs).Perm
      (t.refs ++ (envs.erase env).flatMap fun e => (thread e).refs) := by
  have hothers : (envs.erase env).flatMap (fun e => (Function.update thread env t e).refs) =
      (envs.erase env).flatMap fun e => (thread e).refs := by
    refine List.flatMap_congr fun e he => ?_
    rw [Function.update_of_ne (hnodup.mem_erase_iff.mp he).1]
  refine ((List.perm_cons_erase henv).flatMap_right _).trans ?_
  rw [List.flatMap_cons, Function.update_self, hothers]

private theorem pending_split (thread : Pointer → JsThread P) {envs : List Pointer}
    {env : Pointer} (henv : env ∈ envs) :
    (envs.flatMap fun e => (thread e).refs).Perm
      ((thread env).refs ++ (envs.erase env).flatMap fun e => (thread e).refs) := by
  refine ((List.perm_cons_erase henv).flatMap_right _).trans ?_
  rw [List.flatMap_cons]

/-! ## What the calls do with references -/

section Call

variable (M : StateManager σ) (isCallBackRegister : IsCallBackRegister) {env : Pointer}
  (s : EventListenerHandler × σ)

private theorem registerEventListener_added (listener : EventListener) :
    let r := registerEventListener P M isCallBackRegister listener s
    (r.1.1.listenerList = s.1.listenerList ++ [listener] ∧ r.2 = .telephonySuccess) ∨
      (r.1.1.listenerList = s.1.listenerList ∧ r.2 ≠ .telephonySuccess) := by
  let same := sameListener isCallBackRegister listener
  let t := (sharing P).subscribe (M.provider isUpdate) same listener (s.1.listenerList, s.2)
  change (t.1.1 = _ ∧ t.2 = _) ∨ (t.1.1 = _ ∧ t.2 ≠ _)
  rcases (sharing P).subscribe_cases (M.provider isUpdate) same listener
      (s.1.listenerList, s.2) with
    ⟨ht, -⟩ | ⟨-, ⟨ht, -⟩ | ⟨-, ⟨-, ht⟩ | ⟨hfail, ht⟩⟩⟩ <;> rw [show t = _ from ht]
  · exact Or.inr ⟨rfl, ClientCode.noConfusion⟩
  · exact Or.inl ⟨rfl, rfl⟩
  · exact Or.inl ⟨rfl, rfl⟩
  · exact Or.inr ⟨rfl, hfail⟩

private theorem on_references (henv : env ≠ nullptr) {ref : Pointer} (href : ref ≠ nullptr)
    (eventType : TelephonyUpdateEventType) (slotId : Int) :
    let r := on P M isCallBackRegister env ref (.new eventType slotId ref) s
    (tableReferences r.1.1.listenerList ++ onCallback env r.2 ++
        if eventType ≠ .noneEventType ∧ P.simSlotCount = 0 ∧ isCallEvent eventType = false then
          [ref] else []) =
      tableReferences s.1.listenerList ++ [ref] := by
  have hdeletes (asyncContext : ObserverContext) (hresolved : asyncContext.resolved = false)
      (hsame : asyncContext.callbackRef = ref) : onCallback env asyncContext = [ref] := by
    rw [onCallback, hsame, if_pos ⟨hresolved, henv, href⟩]
  have hkeeps (asyncContext : ObserverContext) (hresolved : asyncContext.resolved = true) :
      onCallback env asyncContext = [] := by
    rw [onCallback, if_neg]
    rintro ⟨hfailed, -⟩
    rw [hresolved] at hfailed
    cases hfailed
  let asyncContext : ObserverContext := .new eventType slotId ref
  change (tableReferences (on P M isCallBackRegister env ref asyncContext s).1.1.listenerList ++
    onCallback env (on P M isCallBackRegister env ref asyncContext s).2 ++ _) = _
  by_cases hnone : asyncContext.eventType = .noneEventType
  · rw [on, if_pos hnone, hdeletes asyncContext rfl rfl, if_neg fun h => h.1 hnone,
      List.append_nil]
  rw [on, if_neg hnone, nativeOn]
  by_cases hsim : P.simSlotCount = 0 ∧ isCallEvent asyncContext.eventType = false
  · rw [if_pos hsim, hkeeps _ rfl, List.append_nil]
    exact congrArg (_ ++ ·) (if_pos ⟨hnone, hsim⟩)
  have hkept : (if eventType ≠ .noneEventType ∧ P.simSlotCount = 0 ∧
      isCallEvent eventType = false then [ref] else []) = [] := if_neg fun h => hsim h.2
  rw [if_neg hsim, hkept, List.append_nil]
  by_cases hslot : isValidSlotIdEx P asyncContext.eventType asyncContext.slotId = false
  · rw [if_pos hslot, hdeletes _ rfl rfl]
  rw [if_neg hslot]
  rcases registerEventListener_added (P := P) M isCallBackRegister s
      ⟨env, eventType, slotId, ref, ref⟩ with ⟨hlist, hcode⟩ | ⟨hlist, hcode⟩
  · rw [hkeeps _ (decide_eq_true hcode), List.append_nil]
    exact (congrArg tableReferences hlist).trans
      ((tableReferences_append _ _).trans
        (congrArg (_ ++ ·) (tableReferences_singleton href)))
  · rw [hdeletes _ (decide_eq_false hcode) rfl]
    exact congrArg (tableReferences · ++ [ref]) hlist

private theorem on_without_reference (isDeleting : Pointer)
    (eventType : TelephonyUpdateEventType) (slotId : Int) :
    let r := on P M isCallBackRegister env isDeleting (.new eventType slotId nullptr) s
    tableReferences r.1.1.listenerList = tableReferences s.1.listenerList ∧
      onCallback env r.2 = [] := by
  obtain ⟨added, -, href, hlist, hadded⟩ := on_cases (P := P) M isCallBackRegister env
    (.new eventType slotId nullptr) s isDeleting
  generalize Napi.on P M isCallBackRegister env isDeleting (.new eventType slotId nullptr) s = r
    at *
  constructor
  · rw [hlist, tableReferences_append]
    cases added with
    | none => exact List.append_nil _
    | some l =>
      have hnull : l.callbackRef = nullptr := (hadded l rfl).2.2
      have hempty : tableReferences (some l).toList = [] := by
        refine List.filter_eq_nil_iff.mpr ?_
        intro ref hmem
        rw [List.mem_singleton.mp hmem, hnull]
        decide
      rw [hempty, List.append_nil]
  · rw [onCallback, href, if_neg fun h => h.2.2 rfl]

private theorem off_references (henv : env ≠ nullptr) (eventType : TelephonyUpdateEventType)
    (slotId : Int) (ref : Pointer) :
    let r := off P M isCallBackRegister env (.new eventType slotId ref) s
    (offCallback env r.2 ++ tableReferences r.1.1.listenerList).Perm
      (tableReferences s.1.listenerList ++ if ref ≠ nullptr then [ref] else []) := by
  obtain ⟨removed, hown, hlist, -, hremoved, href⟩ := off_cases (P := P) M isCallBackRegister env
    (.new eventType slotId ref) s rfl
  generalize Napi.off P M isCallBackRegister env (.new eventType slotId ref) s = r at *
  have hdeleted : deletedReferences env (s.1.listenerList.filter removed) =
      tableReferences (s.1.listenerList.filter removed) :=
    deletedReferences_eq henv fun l hl => hown l (List.mem_filter.mp hl).2
  have href : r.2.callbackRef = ref := href
  simp only [offCallback, hremoved, href, hlist, hdeleted, henv, ne_eq, not_false_eq_true,
    true_and, List.append_assoc]
  refine List.Perm.trans ?_ ((tableReferences_perm removed s.1.listenerList).append_right _)
  rw [List.append_assoc]
  exact List.perm_append_comm.append_left _

end Call

/-! ## The steps -/

section Step

variable {s s' : Threads P σ} {envs : List Pointer}

private theorem references_of_same (hlist : s'.listeners = s.listeners)
    (hrefs : ∀ e, (s'.thread e).refs = (s.thread e).refs) :
    s'.references envs = s.references envs := by
  rw [Threads.references, Threads.references, hlist]
  simp only [hrefs]

private theorem references_split (s : Threads P σ) {env : Pointer} (henv : env ∈ envs) :
    (s.references envs).Perm ((tableReferences s.listeners ++ (s.thread env).refs) ++
      (envs.erase env).flatMap fun e => (s.thread e).refs) := by
  rw [Threads.references, List.append_assoc]
  exact (pending_split s.thread henv).append_left _

private theorem references_update {env : Pointer} (hnodup : envs.Nodup) (henv : env ∈ envs)
    {t : JsThread P} (hthread : s'.thread = Function.update s.thread env t) :
    (s'.references envs).Perm ((tableReferences s'.listeners ++ t.refs) ++
      (envs.erase env).flatMap fun e => (s.thread e).refs) := by
  rw [Threads.references, hthread, List.append_assoc]
  exact (pending_update s.thread hnodup henv t).append_left _

private theorem account_update {env : Pointer} (hnodup : envs.Nodup) (henv : env ∈ envs)
    {t : JsThread P} (hthread : s'.thread = Function.update s.thread env t)
    {left made : List Pointer}
    (h : (left ++ (tableReferences s'.listeners ++ t.refs)).Perm
      (tableReferences s.listeners ++ (s.thread env).refs ++ made)) :
    (left ++ s'.references envs).Perm (s.references envs ++ made) := by
  refine ((references_update hnodup henv hthread).append_left left).trans ?_
  refine List.Perm.trans ?_ ((references_split s henv).symm.append_right made)
  rw [← List.append_assoc]
  refine (h.append_right _).trans ?_
  rw [List.append_assoc, List.append_assoc _ _ made]
  exact List.perm_append_comm.append_left _

private theorem refs_of_inJs {t : JsThread P} (h : t.inJs = true) : t.refs = [] := by
  rw [JsThread.inJs, Bool.and_eq_true_iff] at h
  exact List.isEmpty_iff.mp h.2

private theorem account_on (hs : s.Sound) (hnodup : envs.Nodup) (hnull : nullptr ∉ envs)
    {env : Pointer} (henv : env ∈ envs) (eventType : TelephonyUpdateEventType) (slotId : Int)
    (callback : Bool) (M : StateManager σ) (isCallBackRegister : IsCallBackRegister) :
    let step : ThreadStep P σ := .on env eventType slotId callback M isCallBackRegister
    ((s.deletes step ++ s.forgets step) ++ ((threads P σ).next s step).references envs).Perm
      (s.references envs ++ s.makes step) := by
  intro step
  have hne : env ≠ nullptr := fun h => hnull (h ▸ henv)
  have hfresh : s.fresh ≠ nullptr := Nat.ne_of_gt hs.positive
  cases hjs : (s.thread env).inJs with
  | false =>
    have hmakes : s.makes step = [] := if_neg fun h => by rw [hjs] at h; cases h.1
    have hforgets : s.forgets step = [] := by
      change (if _ then s.makes step else []) = []
      rw [hmakes, ite_self]
    have hnext : (threads P σ).next s step = s := by
      simp only [step, Mealy.next, threads, hjs, if_true]
    rw [hmakes, hforgets, hnext]
    exact (List.Perm.of_eq (List.append_nil _)).symm
  | true =>
    have hrefs : (s.thread env).refs = [] := refs_of_inJs hjs
    cases callback with
    | true =>
      have hmakes : s.makes step = [s.fresh] := if_pos ⟨hjs, rfl⟩
      let r := on P M isCallBackRegister env s.fresh (.new eventType slotId s.fresh) s.handler
      have hreferences := on_references (P := P) M isCallBackRegister s.handler hne hfresh
        eventType slotId
      have hforgets : s.forgets step = if eventType ≠ .noneEventType ∧ P.simSlotCount = 0 ∧
          isCallEvent eventType = false then [s.fresh] else [] := by
        rw [← hmakes]
        rfl
      refine account_update (t := { s.thread env with refs := onCallback env r.2 }) hnodup henv
        ?_ ?_
      · simp only [step, Mealy.next, threads, hjs, if_true, Bool.true_eq_false, if_false, r]
      · have hlisteners : ((threads P σ).next s step).listeners = r.1.1.listenerList := by
          simp only [step, Mealy.next, threads, hjs, if_true, Bool.true_eq_false, if_false, r,
            Threads.listeners]
        rw [hrefs, List.append_nil, hmakes, hlisteners, hforgets]
        refine List.perm_append_comm.trans (List.Perm.of_eq ?_)
        exact hreferences
    | false =>
      have hmakes : s.makes step = [] := if_neg fun h => by cases h.2
      have hforgets : s.forgets step = [] := by
        change (if _ then s.makes step else []) = []
        rw [hmakes, ite_self]
      let r := on P M isCallBackRegister env s.fresh (.new eventType slotId nullptr) s.handler
      obtain ⟨htable, hdeletes⟩ : tableReferences r.1.1.listenerList =
          tableReferences s.handler.1.listenerList ∧ onCallback env r.2 = [] :=
        on_without_reference M isCallBackRegister s.handler s.fresh eventType slotId
      refine account_update (t := { s.thread env with refs := onCallback env r.2 }) hnodup henv
        ?_ ?_
      · simp only [step, Mealy.next, threads, hjs, Bool.true_eq_false, Bool.false_eq_true,
          if_false, r]
      · have hlisteners : ((threads P σ).next s step).listeners = r.1.1.listenerList := by
          simp only [step, Mealy.next, threads, hjs, Bool.true_eq_false, Bool.false_eq_true,
            if_false, r, Threads.listeners]
        rw [hrefs, hmakes, hforgets, hlisteners]
        change (tableReferences r.1.1.listenerList ++ onCallback env r.2).Perm _
        rw [htable, hdeletes, List.append_nil, List.append_nil]
        exact (List.Perm.of_eq (List.append_nil _)).symm

private theorem account_off (hs : s.Sound) (hnodup : envs.Nodup) (hnull : nullptr ∉ envs)
    {env : Pointer} (henv : env ∈ envs) (eventType : TelephonyUpdateEventType)
    (callback : Bool) (M : StateManager σ) (isCallBackRegister : IsCallBackRegister) :
    let step : ThreadStep P σ := .off env eventType callback M isCallBackRegister
    ((s.deletes step ++ s.forgets step) ++ ((threads P σ).next s step).references envs).Perm
      (s.references envs ++ s.makes step) := by
  intro step
  have hne : env ≠ nullptr := fun h => hnull (h ▸ henv)
  have hfresh : s.fresh ≠ nullptr := Nat.ne_of_gt hs.positive
  cases hjs : (s.thread env).inJs with
  | false =>
    have hmakes : s.makes step = [] := if_neg fun h => by rw [hjs] at h; cases h.1
    have hnext : (threads P σ).next s step = s := by
      simp only [step, Mealy.next, threads, hjs, if_true]
    rw [hmakes, hnext]
    exact (List.Perm.of_eq (List.append_nil _)).symm
  | true =>
    have hrefs : (s.thread env).refs = [] := refs_of_inJs hjs
    let ref := if callback = true then s.fresh else nullptr
    have hmakes : s.makes step = if ref ≠ nullptr then [ref] else [] := by
      cases callback with
      | true => exact (if_pos ⟨hjs, rfl⟩).trans (if_pos hfresh).symm
      | false => exact (if_neg fun h => by cases h.2).trans (if_neg fun h => h rfl).symm
    let r := off P M isCallBackRegister env (.new eventType defaultSimSlotId ref) s.handler
    have hreferences := off_references (P := P) M isCallBackRegister s.handler hne eventType
      defaultSimSlotId ref
    refine account_update (t := { s.thread env with refs := offCallback env r.2 }) hnodup henv
      ?_ ?_
    · simp only [step, Mealy.next, threads, hjs, Bool.true_eq_false, if_false, r, ref]
    · have hlisteners : ((threads P σ).next s step).listeners = r.1.1.listenerList := by
        simp only [step, Mealy.next, threads, hjs, Bool.true_eq_false, if_false, r, ref,
          Threads.listeners]
      rw [hrefs, hmakes, hlisteners]
      change (tableReferences r.1.1.listenerList ++ offCallback env r.2).Perm _
      rw [List.append_nil]
      exact List.perm_append_comm.trans hreferences

/-- **What one step does with the references.** What it deletes or forgets, and what is there
after it, is what was there and what it makes. -/
theorem Threads.Sound.account (hs : s.Sound) (hnodup : envs.Nodup) (hnull : nullptr ∉ envs)
    (step : ThreadStep P σ) (henv : ∀ env ∈ step.env, env ∈ envs) :
    ((s.deletes step ++ s.forgets step) ++ ((threads P σ).next s step).references envs).Perm
      (s.references envs ++ s.makes step) := by
  cases step with
  | notified callback =>
    exact (List.Perm.of_eq (List.append_nil _)).symm
  | processEvent attempts =>
    change (((threads P σ).next s (.processEvent attempts)).references envs).Perm (_ ++ [])
    rw [List.append_nil]
    refine List.Perm.of_eq (references_of_same ?_ fun e => ?_)
    · simp only [Mealy.next, threads]
      split <;> rfl
    · simp only [Mealy.next, threads]
      split <;> rfl
  | workUpdated index answers =>
    change (((threads P σ).next s (.workUpdated index answers)).references envs).Perm (_ ++ [])
    rw [List.append_nil]
    refine List.Perm.of_eq (references_of_same ?_ fun e => ?_)
    · simp only [Mealy.next, threads]
      split
      · rfl
      · split <;> rfl
    · simp only [Mealy.next, threads]
      split
      · rfl
      · rename_i item hitem
        split
        · rfl
        · rename_i hidle
          rw [Bool.not_eq_false, JsThread.isIdle, Bool.and_eq_true_iff] at hidle
          by_cases he : e = item.listener.env
          · rw [he]
            simp only [Function.update_self]
            exact (List.isEmpty_iff.mp hidle.2).symm
          · simp only [Function.update_of_ne he]
  | proceed env =>
    change (((threads P σ).next s (.proceed env)).references envs).Perm (_ ++ [])
    rw [List.append_nil]
    refine List.Perm.of_eq (references_of_same ?_ fun e => ?_)
    · simp only [Mealy.next, threads]
      split
      · rfl
      · split <;> rfl
    · simp only [Mealy.next, threads]
      split
      · rfl
      · split
        · rfl
        · by_cases he : e = env
          · rw [he]
            simp only [Function.update_self]
          · simp only [Function.update_of_ne he]
  | on env eventType slotId callback M isCallBackRegister =>
    exact account_on hs hnodup hnull (henv env rfl) eventType slotId callback M isCallBackRegister
  | off env eventType callback M isCallBackRegister =>
    exact account_off hs hnodup hnull (henv env rfl) eventType callback M isCallBackRegister
  | deleteReference env =>
    change (((s.thread env).refs.take 1 ++ []) ++ _).Perm (_ ++ [])
    rw [List.append_nil]
    cases hrefs : (s.thread env).refs with
    | nil =>
      have hnext : (threads P σ).next s (.deleteReference env) = s := by
        simp only [Mealy.next, threads, hrefs]
      rw [hnext, List.append_nil]
      exact List.Perm.refl _
    | cons ref refs =>
      refine account_update (t := { s.thread env with refs }) hnodup (henv env rfl) ?_ ?_
      · simp only [Mealy.next, threads, hrefs]
      · have hlisteners : ((threads P σ).next s (.deleteReference env)).listeners =
            s.listeners := by
          simp only [Mealy.next, threads, hrefs, Threads.listeners]
        rw [hlisteners, hrefs, List.append_nil]
        change (ref :: (tableReferences s.listeners ++ refs)).Perm _
        exact List.perm_middle.symm
  | unRegisterAllListener env M =>
    have hne : env ≠ nullptr := fun h => hnull (h ▸ henv env rfl)
    cases hengine : (s.thread env).inEngine with
    | false =>
      have hdeletes : s.deletes (.unRegisterAllListener env M) = [] :=
        if_neg fun h => by rw [hengine] at h; cases h
      have hnext : (threads P σ).next s (.unRegisterAllListener env M) = s := by
        simp only [Mealy.next, threads, hengine, if_true]
      rw [hdeletes, hnext]
      exact (List.Perm.of_eq (List.append_nil _)).symm
    | true =>
      have hdeletes : s.deletes (.unRegisterAllListener env M) =
          tableReferences (s.listeners.filter (matchesEnv env)) :=
        (if_pos hengine).trans (deletedReferences_eq hne fun l hl =>
          of_decide_eq_true (List.mem_filter.mp hl).2)
      have hlisteners : ((threads P σ).next s (.unRegisterAllListener env M)).listeners =
          s.listeners.filter fun l => !matchesEnv env l := by
        simp only [Mealy.next, threads, hengine, Bool.true_eq_false, if_false]
        exact (sharing P).release_table (M.provider isUpdate)
      have hthread : ((threads P σ).next s (.unRegisterAllListener env M)).thread = s.thread := by
        simp only [Mealy.next, threads, hengine, Bool.true_eq_false, if_false]
      change ((s.deletes _ ++ []) ++ _).Perm (_ ++ [])
      rw [List.append_nil, List.append_nil, hdeletes, Threads.references, Threads.references,
        hlisteners, hthread, ← List.append_assoc]
      exact (tableReferences_perm _ _).append_right _

private theorem makes_fresh (s : Threads P σ) (step : ThreadStep P σ) :
    s.makes step = [] ∨
      s.makes step = [s.fresh] ∧ s.fresh < ((threads P σ).next s step).fresh := by
  cases step with
  | on env eventType slotId callback M isCallBackRegister =>
    simp only [Threads.makes]
    split
    · rename_i h
      refine Or.inr ⟨rfl, ?_⟩
      simp only [Mealy.next, threads, h.1, Bool.true_eq_false, if_false]
      exact Nat.lt_succ_self s.fresh
    · exact Or.inl rfl
  | off env eventType callback M isCallBackRegister =>
    simp only [Threads.makes]
    split
    · rename_i h
      refine Or.inr ⟨rfl, ?_⟩
      simp only [Mealy.next, threads, h.1, Bool.true_eq_false, if_false]
      exact Nat.lt_succ_self s.fresh
    · exact Or.inl rfl
  | _ => exact Or.inl rfl

private theorem made_increasing (hs : s.Sound) (steps : List (ThreadStep P σ)) :
    ((threads P σ).entered Threads.makes s steps).Pairwise (· < ·) ∧
      ∀ n ∈ (threads P σ).entered Threads.makes s steps, s.fresh ≤ n := by
  induction steps generalizing s with
  | nil => exact ⟨List.Pairwise.nil, fun n hn => absurd hn List.not_mem_nil⟩
  | cons step steps ih =>
    have hmoves := hs.moves step
    obtain ⟨hpairwise, hle⟩ := ih (hs.next hmoves)
    rw [Mealy.entered]
    rcases makes_fresh s step with hmakes | ⟨hmakes, hlt⟩ <;> rw [hmakes]
    · exact ⟨hpairwise, fun n hn => Nat.le_trans hmoves.fresh (hle n hn)⟩
    · refine ⟨List.pairwise_cons.mpr ⟨fun n hn => ?_, hpairwise⟩, fun n hn => ?_⟩
      · exact Nat.lt_of_lt_of_le hlt (hle n hn)
      · rcases List.mem_cons.mp hn with rfl | hn
        · exact Nat.le_refl _
        · exact Nat.le_trans hmoves.fresh (hle n hn)

private theorem next_deleted (s : Threads P σ) (step : ThreadStep P σ) :
    ((threads P σ).next s step).deleted = s.deleted ∪ (s.deletes step).toFinset := by
  have hnone {s' : Threads P σ} (h : s'.deleted = s.deleted) :
      s'.deleted = s.deleted ∪ ([] : List Pointer).toFinset := by
    rw [h, List.toFinset_nil, Finset.union_empty]
  cases step with
  | deleteReference env =>
    simp only [Threads.deletes, Mealy.next, threads]
    cases hrefs : (s.thread env).refs with
    | nil => exact hnone rfl
    | cons ref refs =>
      dsimp only
      rw [List.take_succ_cons, List.take_zero, List.toFinset_cons, List.toFinset_nil,
        Finset.union_insert, Finset.union_empty]
  | unRegisterAllListener env M =>
    simp only [Threads.deletes, Mealy.next, threads]
    cases hengine : (s.thread env).inEngine with
    | false => exact hnone rfl
    | true => rfl
  | notified callback => exact hnone rfl
  | processEvent attempts =>
    refine hnone ?_
    simp only [Mealy.next, threads]
    split <;> rfl
  | workUpdated index answers =>
    refine hnone ?_
    simp only [Mealy.next, threads]
    split
    · rfl
    · split <;> rfl
  | proceed env =>
    refine hnone ?_
    simp only [Mealy.next, threads]
    split
    · rfl
    · split <;> rfl
  | on env eventType slotId callback M isCallBackRegister =>
    refine hnone ?_
    simp only [Mealy.next, threads]
    split <;> rfl
  | off env eventType callback M isCallBackRegister =>
    refine hnone ?_
    simp only [Mealy.next, threads]
    split <;> rfl

private theorem run_deleted (s : Threads P σ) (steps : List (ThreadStep P σ)) :
    ((threads P σ).run s steps).deleted =
      s.deleted ∪ ((threads P σ).departed Threads.deletes s steps).toFinset := by
  induction steps generalizing s with
  | nil => exact (Finset.union_empty s.deleted).symm
  | cons step steps ih =>
    rw [Mealy.run_cons, ih, next_deleted, Mealy.departed, Mealy.entered, List.toFinset_append,
      Finset.union_assoc]

end Step

/-- **Every reference is in one place.** At any time the references that calls have made, all
different, are those that were deleted, those of the table, those that the calls under way
have still to delete, and those that `on` has forgotten on a device without SIM slots. -/
theorem references_accounted (P : Platform) {σ : Type} (w : σ) {envs : List Pointer}
    (hnodup : envs.Nodup) (hnull : nullptr ∉ envs) (steps : List (ThreadStep P σ))
    (hsteps : ∀ step ∈ steps, ∀ env ∈ step.env, env ∈ envs) :
    let M := threads P σ
    let s := M.run (.start P w) steps
    let made := M.entered Threads.makes (.start P w) steps
    let deleted := M.departed Threads.deletes (.start P w) steps
    let forgotten := M.departed Threads.forgets (.start P w) steps
    made.Nodup ∧ made.Perm (deleted ++ forgotten ++ s.references envs) ∧
      s.deleted = deleted.toFinset ∧ (P.simSlotCount ≠ 0 → forgotten = []) := by
  intro M s made deleted forgotten
  have hsound : (Threads.start P w).Sound := .start w
  refine ⟨?_, ?_, ?_, fun hcount => ?_⟩
  · exact (made_increasing hsound steps).1.imp Nat.ne_of_lt
  · have halong : M.Along (fun s step => s.Sound ∧ ∀ env ∈ step.env, env ∈ envs)
        (Threads.start P w) steps :=
      Mealy.Along.of_invariant (fun s step _ hs => hs.next (hs.moves step)) hsound
        (M.along_of_mem (F := fun step => ∀ env ∈ step.env, env ∈ envs) hsteps _)
    have haccount := Mealy.account_along Accounting.perm (Threads.references envs)
      (fun s step h => h.1.account hnodup hnull step h.2) halong
    have hempty : (Threads.start P w).references envs = [] :=
      List.flatMap_eq_nil_iff.mpr fun env _ => rfl
    rw [hempty, List.nil_append] at haccount
    refine haccount.symm.trans (List.Perm.append_right _ ?_)
    exact Mealy.entered_append_perm Threads.deletes Threads.forgets _ steps
  · exact (run_deleted (.start P w) steps).trans (Finset.empty_union _)
  · have hforgets (s : Threads P σ) (step : ThreadStep P σ) : s.forgets step = [] := by
      cases step with
      | on env eventType slotId callback M isCallBackRegister =>
        exact if_neg fun h => hcount h.2.1
      | _ => rfl
    have hfun : (Threads.forgets : Threads P σ → ThreadStep P σ → List Pointer) =
        fun _ _ => [] := funext₂ hforgets
    change M.departed Threads.forgets _ steps = []
    rw [hfun, Mealy.departed, M.entered_of_inputs fun _ => []]
    exact List.flatMap_eq_nil_iff.mpr fun _ _ => rfl

/-- A function listens, and an `off` without it leaves the table; two references are deleted. -/
theorem off_deletes_references :
    let manager := registryManager fun _ => .telephonySuccess
    let steps : List (ThreadStep .dualSim (Finset Pair)) :=
      [.on 7 (.event .callState) 0 true manager (fun _ _ _ => true),
        .off 7 (.event .callState) true manager (fun _ _ _ => true), .deleteReference 7,
        .deleteReference 7]
    let M := threads .dualSim (Finset Pair)
    let s := M.run (.start .dualSim ∅) steps
    let made := M.entered Threads.makes (.start .dualSim ∅) steps
    let deleted := M.departed Threads.deletes (.start .dualSim ∅) steps
    let forgotten := M.departed Threads.forgets (.start .dualSim ∅) steps
    made.Nodup ∧ made.Perm (deleted ++ forgotten ++ s.references [7]) ∧
      s.deleted = deleted.toFinset ∧ (Platform.dualSim.simSlotCount ≠ 0 → forgotten = []) := by
  intro manager steps
  have hsteps : ∀ step ∈ steps, ∀ env ∈ step.env, env ∈ [7] := by
    intro step hstep env henv
    have hseven : step.env = some 7 := by
      simp only [steps, List.mem_cons, List.not_mem_nil, or_false] at hstep
      rcases hstep with rfl | rfl | rfl | rfl <;> rfl
    rw [hseven] at henv
    exact List.mem_singleton.mpr (Option.mem_some_iff.mp henv).symm
  exact references_accounted .dualSim ∅ (List.nodup_singleton 7) (by decide) steps hsteps

end Napi

end TelephonyStateRegistry
