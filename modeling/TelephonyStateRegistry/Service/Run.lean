import TelephonyStateRegistry.Core.Mealy
import TelephonyStateRegistry.Service.Register

/-!
# Runs of the service

A sequential run is a list of public operations, each with the answers that the
permission services give while it is served. The queries change nothing and are
functions of the state, so they are no steps of a run.
-/

namespace TelephonyStateRegistry

open Reactive

/-- The operations that can change the service. -/
inductive Op (P : Platform)
  | update (u : Update P)
  | register (r : Registration)
  | unregister (k : Key)

/-- One call together with its environment. -/
abbrev Call (P : Platform) := Env × Op P

variable {P : Platform}

/-- One operation of the service. -/
def Op.run (env : Env) (s : Service P) : Op P → Service P × Output P
  | update u => u.function.run env s
  | register r => registerStateChange env r s
  | unregister k => unregisterStateChange env k s

/-- The service as a machine over its public operations. -/
def machine (P : Platform) : Mealy (Service P) (Call P) (Output P) where
  step s call := call.2.run call.1 s

/-- The state after a run from the constructor. -/
def Service.after (P : Platform) (calls : List (Call P)) : Service P :=
  (machine P).run (Service.init P) calls

/-- The outputs of a run from the constructor. -/
def Service.outputs (P : Platform) (calls : List (Call P)) : List (Output P) :=
  (machine P).outs (Service.init P) calls

@[simp] theorem machine_next_update (s : Service P) (env : Env) (u : Update P) :
    (machine P).next s (env, .update u) = (u.function.run env s).1 := rfl

@[simp] theorem machine_next_register (s : Service P) (env : Env) (r : Registration) :
    (machine P).next s (env, .register r) = (registerStateChange env r s).1 := rfl

@[simp] theorem machine_next_unregister (s : Service P) (env : Env) (k : Key) :
    (machine P).next s (env, .unregister k) = (unregisterStateChange env k s).1 := rfl

@[simp] theorem machine_out_update (s : Service P) (env : Env) (u : Update P) :
    (machine P).out s (env, .update u) = (u.function.run env s).2 := rfl

@[simp] theorem machine_out_register (s : Service P) (env : Env) (r : Registration) :
    (machine P).out s (env, .register r) = (registerStateChange env r s).2 := rfl

@[simp] theorem machine_out_unregister (s : Service P) (env : Env) (k : Key) :
    (machine P).out s (env, .unregister k) = (unregisterStateChange env k s).2 := rfl

end TelephonyStateRegistry
