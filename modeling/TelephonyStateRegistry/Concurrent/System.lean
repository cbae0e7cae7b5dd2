import TelephonyStateRegistry.Core.Broadcast
import TelephonyStateRegistry.Interpretation.Outcome

/-!
# Interleaved operations

The lock is released between the two sections of an update, so the calls of
other threads may come in between. A step of the system is one locked section:
the exclusive section of an update that passed its checks, the shared section of
an update that is under way, a registration or a removal. Any interleaving of
any number of calls is a list of such steps.
-/

namespace TelephonyStateRegistry

open Reactive

/-- The service together with the updates between their two locked sections. -/
structure System (P : Platform) where
  service : Service P
  pending : List (Update P)

/-- One locked section, with what the permission services answer around it. An
update under way is named by its position. -/
inductive AtomicStep (P : Platform)
  | write (env : Env) (u : Update P)
  | notify (env : Env) (i : Nat)
  | register (env : Env) (r : Registration)
  | unregister (env : Env) (k : Key)

/-- What the permission services answer around a step. -/
def AtomicStep.env {P : Platform} : AtomicStep P → Env
  | .write env _ | .notify env _ | .register env _ | .unregister env _ => env

/-- What one step did: the update whose exclusive or shared section it was, and
the output of the call that returned. -/
structure Effect (P : Platform) where
  wrote : Option (Update P)
  notified : Option (Update P)
  output : Option (Output P)

variable {P : Platform}

/-- The callbacks made in one step. -/
def Effect.deliveries (e : Effect P) : List (Delivery P) :=
  match e.output with
  | some output => output.deliveries
  | none => []

namespace System

/-- One step. Notifying an update that is not under way does nothing. -/
def step (s : System P) : AtomicStep P → System P × Effect P
  | .write env u =>
    match u.function.guard env with
    | some result => (s, ⟨none, none, some (.code result)⟩)
    | none => (⟨u.function.writeTo s.service, s.pending ++ [u]⟩, ⟨some u, none, none⟩)
  | .notify env i =>
    match s.pending[i]? with
    | some u =>
      let (service, output) := u.function.notify env s.service
      (⟨service, s.pending.eraseIdx i⟩, ⟨none, some u, some output⟩)
    | none => (s, ⟨none, none, none⟩)
  | .register env r =>
    let (service, output) := registerStateChange env r s.service
    ({ s with service }, ⟨none, none, some output⟩)
  | .unregister env k =>
    let (service, output) := unregisterStateChange env k s.service
    ({ s with service }, ⟨none, none, some output⟩)

/-- The system before any call. -/
def init (P : Platform) : System P := ⟨Service.init P, []⟩

end System

/-- The interleavings as a machine over atomic steps. -/
def interleaving (P : Platform) : Mealy (System P) (AtomicStep P) (Effect P) where
  step := System.step

/-- The state after an interleaving from the constructor. -/
def System.after (P : Platform) (steps : List (AtomicStep P)) : System P :=
  (interleaving P).run (System.init P) steps

/-- The effects of an interleaving from the constructor. -/
def System.effects (P : Platform) (steps : List (AtomicStep P)) : List (Effect P) :=
  (interleaving P).outs (System.init P) steps

/-- The transitions of the system, case by case. -/
inductive Happens (s : System P) : AtomicStep P → System P → Effect P → Prop
  | wrote (env : Env) (u : Update P) (hacc : u.accepted env) :
    Happens s (.write env u) ⟨u.function.writeTo s.service, s.pending ++ [u]⟩ ⟨some u, none, none⟩
  | rejected (env : Env) (u : Update P) (result : ReturnCode) (hacc : ¬u.accepted env) :
    Happens s (.write env u) s ⟨none, none, some (.code result)⟩
  | notified (env : Env) (i : Nat) (before : List (Update P)) (u : Update P)
    (after : List (Update P)) (c' : Caches P) (hpending : s.pending = before ++ u :: after)
    (htotal : c'.total = s.service.caches.total) :
    Happens s (.notify env i) ⟨{ s.service with caches := c' }, before ++ after⟩
      ⟨none, some u, some ⟨resultOf (u.deliveries env s.service), u.deliveries env s.service,
        u.events⟩⟩
  | idle (env : Env) (i : Nat) : Happens s (.notify env i) s ⟨none, none, none⟩
  | registered (env : Env) (r : Registration) :
    Happens s (.register env r) { s with service := (registerStateChange env r s.service).1 }
      ⟨none, none, some (registerStateChange env r s.service).2⟩
  | unregistered (env : Env) (k : Key) :
    Happens s (.unregister env k) { s with service := (unregisterStateChange env k s.service).1 }
      ⟨none, none, some (unregisterStateChange env k s.service).2⟩

/-- Every step of the machine is one of these transitions. -/
theorem happens (s : System P) (step : AtomicStep P) :
    Happens s step ((interleaving P).next s step) ((interleaving P).out s step) := by
  unfold Mealy.next Mealy.out
  cases step with
  | write env u =>
    cases hg : u.function.guard env with
    | none =>
      simp only [interleaving, System.step, hg]
      exact .wrote env u hg
    | some result =>
      simp only [interleaving, System.step, hg]
      exact .rejected env u result fun hacc => by cases hg.symm.trans hacc
  | notify env i =>
    cases hi : s.pending[i]? with
    | none =>
      simp only [interleaving, System.step, hi]
      exact .idle env i
    | some u =>
      obtain ⟨hlt, hget⟩ := List.getElem?_eq_some_iff.mp hi
      obtain ⟨c', hrun, hc'⟩ := u.notify_spec env s.service
      simp only [interleaving, System.step, hi, hrun, List.eraseIdx_eq_take_drop_succ]
      refine .notified env i _ u _ c' ?_ hc'.total
      rw [← hget, List.cons_getElem_drop_succ, List.take_append_drop]
  | register env r => exact .registered env r
  | unregister env k => exact .unregistered env k

/-- The atomic steps of one call that nothing interrupts. -/
def Call.steps : Call P → List (AtomicStep P)
  | (env, .update u) => [.write env u, .notify env 0]
  | (env, .register r) => [.register env r]
  | (env, .unregister k) => [.unregister env k]

private theorem run_call_steps (s : Service P) (call : Call P) :
    (interleaving P).run ⟨s, []⟩ (Call.steps call) = ⟨(machine P).next s call, []⟩ ∧
      ((interleaving P).outs ⟨s, []⟩ (Call.steps call)).filterMap Effect.output =
        [(machine P).out s call] := by
  obtain ⟨env, op⟩ := call
  cases op with
  | update u =>
    rw [Call.steps, machine_next_update, machine_out_update]
    cases hg : u.function.guard env <;>
      simp only [Mealy.run_cons, Mealy.run_nil, Mealy.outs_cons, Mealy.outs_nil, Mealy.next,
        Mealy.out, interleaving, System.step, LockedUpdate.run, hg, List.nil_append,
        List.getElem?_cons_zero, List.getElem?_nil, List.eraseIdx_cons_zero, List.filterMap_cons,
        List.filterMap_nil, and_self]
  | register r => exact ⟨rfl, rfl⟩
  | unregister k => exact ⟨rfl, rfl⟩

/-- A sequential run is the interleaving of its calls without overlap: it
reaches the same service, and its calls return the same outputs. -/
theorem run_calls_steps (s : Service P) (calls : List (Call P)) :
    (interleaving P).run ⟨s, []⟩ (calls.flatMap Call.steps) = ⟨(machine P).run s calls, []⟩ ∧
      ((interleaving P).outs ⟨s, []⟩ (calls.flatMap Call.steps)).filterMap Effect.output =
        (machine P).outs s calls := by
  induction calls generalizing s with
  | nil => exact ⟨rfl, rfl⟩
  | cons call calls ih =>
    obtain ⟨hrun, houts⟩ := ih ((machine P).next s call)
    constructor
    · rw [List.flatMap_cons, Mealy.run_append, (run_call_steps s call).1, hrun, Mealy.run_cons]
    · rw [List.flatMap_cons, Mealy.outs_append, List.filterMap_append, (run_call_steps s call).2,
        (run_call_steps s call).1, houts, Mealy.outs_cons, List.singleton_append]

end TelephonyStateRegistry
