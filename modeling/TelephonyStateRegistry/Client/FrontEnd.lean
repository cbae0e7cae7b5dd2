import TelephonyStateRegistry.Client.Ani
import TelephonyStateRegistry.Client.Cj
import TelephonyStateRegistry.Client.Napi
import TelephonyStateRegistry.Core.Interleaving

/-!
# What the three front ends have in common

A front end is a handler whose functions act on a table of listeners and,
through the manager, on what lies behind it. The three of the repository differ
in their listeners, in what counts as the same listener, in their codes and in
what a failed removal ends; they agree in that each call is one step of a table
that shares registrations. A call holds the lock of its own front end only, so other
requests may come between two of its own.
-/

namespace TelephonyStateRegistry

open Reactive

/-- A front end over one platform. -/
structure FrontEnd where
  Handler : Type
  Listener : Type
  /-- A function of the handler, with its arguments and the answers of the runtime. -/
  Call : Type
  Code : Type
  codeEq : DecidableEq Code
  sharing : Sharing Listener Pair Code
  /-- The table of a handler. -/
  listeners : Handler → List Listener
  start : Handler
  listeners_start : listeners start = []
  /-- The manager as the front end uses it. -/
  provider : {σ : Type} → StateManager σ → Provider σ Pair Code
  /-- The events for which it asks for a replay. -/
  isUpdate : TelephonyUpdateEventType → Bool
  add_state : ∀ {σ : Type} (M : StateManager σ) k s,
    ((provider M).add k s).2 = (M.addStateObserver k (isUpdate k.eventType) s).2
  add_success : ∀ {σ : Type} (M : StateManager σ) k s,
    ((provider M).add k s).1 = sharing.success ↔
      (M.addStateObserver k (isUpdate k.eventType) s).1 = .telephonySuccess
  remove_state : ∀ {σ : Type} (M : StateManager σ) k s,
    ((provider M).remove k s).2 = (M.removeStateObserver k s).2
  remove_success : ∀ {σ : Type} (M : StateManager σ) k s,
    ((provider M).remove k s).1 = sharing.success ↔
      (M.removeStateObserver k s).1 = .telephonySuccess
  /-- Run a function: the handler and what lies behind the manager change, and a
  code may be returned. -/
  call : {σ : Type} → StateManager σ → Call → Handler × σ → (Handler × σ) × Option Code
  /-- The call as one on a table, unless it is refused. -/
  onTable : Call → Option (TableCall Listener)
  call_refused : ∀ {σ : Type} (M : StateManager σ) c s, onTable c = none → (call M c s).1 = s
  call_table : ∀ {σ : Type} (M : StateManager σ) c s t, onTable c = some t →
    (listeners (call M c s).1.1, (call M c s).1.2) =
      sharing.machine.next (listeners s.1, s.2) (provider M, t)
  call_code : ∀ {σ : Type} (M : StateManager σ) c s same e, onTable c = some (.subscribe same e) →
    (call M c s).2 =
      some (sharing.machine.out (listeners s.1, s.2) (provider M, .subscribe same e))
  /-- Listeners that count as the same have the same slot and event. -/
  same_key : ∀ c same e d, onTable c = some (.subscribe same e) → same d = true →
    sharing.key d = sharing.key e

attribute [instance] FrontEnd.codeEq

/-- The next part of a call of a front end. -/
inductive FrontEndStep (F : FrontEnd) (α : Type)
  | enter (c : F.Call)
  /-- The next request, with what the system does for it. -/
  | request (answers : α)

/-- A front end with the call that is under way. -/
abbrev FrontEnd.Client (F : FrontEnd) := Reactive.Client F.Listener Pair F.Code

section Parts

variable {σ α : Type} (F : FrontEnd)

/-- A front end over its manager as a machine over the parts of its calls. -/
def FrontEnd.parts (M : α → StateManager σ) :
    Mealy (F.Client × σ) (FrontEndStep F α) (Option F.Code) where
  step s input := match input with
    | .enter c => match F.onTable c with
      | none => (s, none)
      | some call => F.sharing.requests.step s (.enter call)
    | .request answers => F.sharing.requests.step s (.request (F.provider (M answers)))

/-- Made without interruption, the parts of a call have the effect of the call. -/
theorem FrontEnd.parts_uninterrupted (M : α → StateManager σ) {c : F.Call}
    {call : TableCall F.Listener} (hc : F.onTable c = some call) (answers : α) (h : F.Handler)
    (w : σ) :
    ∃ n, (F.parts M).run (⟨F.listeners h, .idle⟩, w)
        (.enter c :: List.replicate n (.request answers)) =
      (⟨F.listeners (F.call (M answers) c (h, w)).1.1, .idle⟩,
        (F.call (M answers) c (h, w)).1.2) := by
  have htable := F.call_table (M answers) c (h, w) call hc
  obtain ⟨n, hrun, -⟩ := F.sharing.requests_uninterrupted
    (F.provider (M answers)) call (F.listeners h) w
  rw [← htable] at hrun
  refine ⟨n, ?_⟩
  have hrequests : ∀ m (s : F.Client × σ),
      (F.parts M).run s (List.replicate m (.request answers)) =
        F.sharing.requests.run s (List.replicate m (.request (F.provider (M answers)))) := by
    intro m
    induction m with
    | zero => exact fun s => rfl
    | succ m ih => exact fun s => ih ((F.parts M).next s (.request answers))
  have henter : ∀ s : F.Client × σ,
      (F.parts M).next s (.enter c) = F.sharing.requests.next s (.enter call) := by
    intro s
    simp only [Mealy.next, FrontEnd.parts, hc]
  rw [Mealy.run_cons, henter, hrequests]
  exact hrun

end Parts

/-- `EventListenerHandler`. -/
def napi (P : Platform) : FrontEnd where
  Handler := Napi.EventListenerHandler
  Listener := Napi.EventListener
  Call := Napi.IsCallBackRegister × Napi.Call
  Code := ClientCode
  codeEq := inferInstance
  sharing := Napi.sharing P
  listeners := Napi.EventListenerHandler.listenerList
  start := ⟨[], ∅⟩
  listeners_start := rfl
  provider M := M.provider Napi.isUpdate
  isUpdate := Napi.isUpdate
  add_state _ _ _ := rfl
  add_success _ _ _ := Iff.rfl
  remove_state _ _ _ := rfl
  remove_success _ _ _ := Iff.rfl
  call M c s := (Napi.machine P).step s ⟨M, c.1, c.2⟩
  onTable c := some (c.2.onTable c.1)
  call_refused _ _ _ h := by cases h
  call_table M c s t h := by
    cases h
    exact Napi.table_next P s ⟨M, c.1, c.2⟩
  call_code M c s same e h := by
    obtain ⟨isCallBackRegister, call⟩ := c
    cases call <;> cases h
    rfl
  same_key c same e d h hsame := by
    obtain ⟨isCallBackRegister, call⟩ := c
    cases call <;> cases h
    simp only [Napi.sameListener, Bool.and_eq_true, decide_eq_true_eq] at hsame
    obtain ⟨⟨⟨-, hslot⟩, hevent⟩, -⟩ := hsame
    exact congrArg₂ Pair.mk hslot.symm hevent.symm

/-- `ObserverEventHandler`. -/
def cj (P : Platform) : FrontEnd where
  Handler := Cj.ObserverEventHandler
  Listener := Cj.EventListener
  Call := Cj.Call
  Code := ClientCode
  codeEq := inferInstance
  sharing := Cj.sharing P
  listeners := Cj.ObserverEventHandler.listenerList
  start := ⟨[], ∅⟩
  listeners_start := rfl
  provider M := M.provider Cj.isUpdate
  isUpdate := Cj.isUpdate
  add_state _ _ _ := rfl
  add_success _ _ _ := Iff.rfl
  remove_state _ _ _ := rfl
  remove_success _ _ _ := Iff.rfl
  call M c s :=
    let (s, code) := (Cj.machine P).step s ⟨M, c⟩
    (s, some code)
  onTable c := some c.onTable
  call_refused _ _ _ h := by cases h
  call_table M c s t h := by
    cases h
    exact Cj.table_next P s ⟨M, c⟩
  call_code M c s same e h := by
    cases c <;> cases h
    rfl
  same_key c same e d h hsame := by
    cases c <;> cases h
    simp only [Cj.sameListener, Bool.and_eq_true, decide_eq_true_eq] at hsame
    obtain ⟨⟨hslot, hevent⟩, -⟩ := hsame
    exact congrArg₂ Pair.mk hslot.symm hevent.symm

/-- `Register`. -/
def ani (P : Platform) (N : Ani.NapiUtil) : FrontEnd where
  Handler := List Ani.EventListener
  Listener := Ani.EventListener
  Call := Ani.CallbackEq × Ani.Call
  Code := Int
  codeEq := inferInstance
  sharing := Ani.sharing P
  listeners := id
  start := []
  listeners_start := rfl
  provider M := Ani.provider N M
  isUpdate := Ani.isUpdate
  add_state _ _ _ := rfl
  add_success M k s := Ani.registerCode_success N _ _
  remove_state _ _ _ := rfl
  remove_success M k s := Ani.unRegisterCode_success N _
  call M c s :=
    let (s, code) := (Ani.machine P N).step s ⟨M, c.1, c.2⟩
    (s, some code)
  onTable c := c.2.onTable P c.1
  call_refused M c s h := by
    have hnext := Ani.table_next P N s ⟨M, c.1, c.2⟩
    rw [h] at hnext
    exact hnext
  call_table M c s t h := by
    have hnext := Ani.table_next P N s ⟨M, c.1, c.2⟩
    rw [h] at hnext
    exact hnext
  call_code M c s same e h := by
    obtain ⟨callbackEq, call⟩ := c
    cases call with
    | unregister eventType callbackRef => cases h
    | register listener =>
      obtain ⟨hvalid, hcall⟩ := Option.ite_none_left_eq_some.mp h
      cases hcall
      simp only [Ani.machine, Ani.register, hvalid]
      rfl
  same_key c same e d h hsame := by
    obtain ⟨callbackEq, call⟩ := c
    cases call with
    | unregister eventType callbackRef => cases h
    | register listener =>
      obtain ⟨-, hcall⟩ := Option.ite_none_left_eq_some.mp h
      cases hcall
      simp only [Ani.sameListener, Bool.and_eq_true, decide_eq_true_eq] at hsame
      obtain ⟨⟨hslot, hevent⟩, -⟩ := hsame
      exact congrArg₂ Pair.mk hslot hevent

end TelephonyStateRegistry
