import Mathlib.Logic.Function.Basic
import TelephonyStateRegistry.Client.FrontEnd
import TelephonyStateRegistry.Client.ObserverClient

/-!
# The service and the processes that use it

Several processes have front ends, each with a client of its own, and the service tells
them apart by their tokens and process numbers. A front end holds its own lock during a
call, so between two requests of a call the service serves the requests of the other
processes, and whoever else uses it.
-/

namespace TelephonyStateRegistry

open Reactive

/-- Processes that the service tells apart, with their front ends. -/
structure Parties (ι : Type) where
  process : ι → Process
  frontEnd : ι → FrontEnd
  apart : ∀ {i j}, i ≠ j →
    ¬((process j).tokenId = (process i).tokenId ∧ (process j).pid = (process i).pid)

variable {P : Platform} {ι : Type} {A : Parties ι}

/-- The table of a front end, with the call that is under way. -/
abbrev Parties.Client (A : Parties ι) (i : ι) : Type :=
  Reactive.Client (A.frontEnd i).Listener Pair (A.frontEnd i).Code

/-- The service, and the tables and proxies of the processes. -/
structure Network (P : Platform) (A : Parties ι) where
  client : (i : ι) → A.Client i
  proxy : ι → Option Nat
  service : Option (Nat × Service P)
  incarnations : Nat

/-- The first state, before any call. -/
def Network.start (P : Platform) (A : Parties ι) : Network P A :=
  ⟨fun _ => ⟨[], .idle⟩, fun _ => none, some (0, Service.init P), 1⟩

/-- The service as the client of a process sees it. -/
def Network.remote (s : Network P A) (i : ι) : Remote P := ⟨s.service, s.incarnations, s.proxy i⟩

/-- An operation of none of the processes. -/
abbrev Parties.ForeignOp (P : Platform) (A : Parties ι) :=
  {op : Op P // ∀ i, op.foreign (A.process i) = true}

/-- An update is a registration of none of them. -/
def Parties.ForeignOp.update (u : Update P) : A.ForeignOp P := ⟨Op.update u, fun _ => rfl⟩

/-- What happens in the network. -/
inductive NetworkStep (P : Platform) (A : Parties ι)
  /-- The front end of a process enters a call. -/
  | enter (i : ι) (c : (A.frontEnd i).Call)
  /-- The next request of the call, with what the system does for it. -/
  | request (i : ι) (link : Pair → Link)
  | died
  | restarted
  | onRemoteDied (i : ι) (remote : Option Nat)
  /-- The service serves somebody who is none of the processes. -/
  | serves (env : Env) (op : A.ForeignOp P)

variable [DecidableEq ι]

/-- The network as a machine; the outputs are the callbacks of what is served. -/
def network (P : Platform) (A : Parties ι) :
    Mealy (Network P A) (NetworkStep P A) (List (Delivery P)) where
  step s step := match step with
    | .enter i c => match (A.frontEnd i).onTable c with
      | none => (s, [])
      | some call =>
        let (client, _) := (A.frontEnd i).sharing.enter call (s.client i)
        ({ s with client := Function.update s.client i client }, [])
    | .request i link =>
      let ((client, w), _) := (A.frontEnd i).sharing.request
        ((A.frontEnd i).provider (clientManager P (A.process i) link)) (s.client i, s.remote i)
      (⟨Function.update s.client i client, Function.update s.proxy i w.proxy, w.service,
        w.incarnations⟩, [])
    | .died => ({ s with service := none }, [])
    | .restarted => match s.service with
      | some _ => (s, [])
      | none =>
        ({ s with
            service := some (s.incarnations, Service.init P)
            incarnations := s.incarnations + 1 }, [])
    | .onRemoteDied i remote =>
      ({ s with proxy := Function.update s.proxy i ((s.remote i).onRemoteDied remote).proxy }, [])
    | .serves env op =>
      ({ s with service := s.service.map fun (n, t) => (n, (op.val.run env t).1) },
        s.service.elim [] fun (_, t) => (op.val.run env t).2.deliveries)

end TelephonyStateRegistry
