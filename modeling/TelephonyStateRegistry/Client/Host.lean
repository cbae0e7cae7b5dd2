import TelephonyStateRegistry.Client.ObserverClient

/-!
# The users of the client in one process

`TelephonyObserverClient` is one object for all of a process: the front ends share it,
and so does native code. The service tells none of them apart, and keeps one record for
a slot, mask, token and process. What it keeps has the observer of whoever came first,
and whoever asks removes it.
-/

namespace TelephonyStateRegistry

open Reactive

variable {P : Platform}

/-- A user of the client: the front end that is looked at, or somebody else. -/
inductive User
  | frontEnd
  | neighbour
  deriving DecidableEq, Repr

/-- `AddStateObserver` and `RemoveStateObserver`, with whatever slot and mask. -/
inductive ClientRequest
  | addStateObserver (slotId : Int) (mask : BitVec 32) (isUpdate : Bool)
  | removeStateObserver (slotId : Int) (mask : BitVec 32)
  deriving DecidableEq, Repr

/-- What the stub makes of a request of a process. -/
def ClientRequest.op (P : Platform) (process : Process) (telephonyObserver : Observer) :
    ClientRequest → Op P
  | addStateObserver slotId mask isUpdate =>
    .register (process.registerStateChange telephonyObserver slotId mask isUpdate)
  | removeStateObserver slotId mask => .unregister (process.unregisterStateChange slotId mask)

/-- The makers of the observers of a process; every registration comes with a new one. -/
def ClientRequest.makers (user : User) (makers : List User) : ClientRequest → List User
  | addStateObserver _ _ _ => makers ++ [user]
  | removeStateObserver _ _ => makers

/-- The client of a process with the service behind it, and who made each observer of the
process, by the number of the observer. -/
structure Host (P : Platform) where
  remote : Remote P
  makers : List User

/-- Before any call of the client. -/
def Host.start (P : Platform) : Host P := ⟨Remote.start P, []⟩

/-- A user makes a request. -/
def Host.request (process : Process) (user : User) (link : Link) (request : ClientRequest)
    (w : Host P) : ClientCode × Host P :=
  let (code, remote) := w.remote.request link (request.op P process w.makers.length)
  (code, ⟨remote, request.makers user w.makers⟩)

/-- `TelephonyStateManager` for the front end. -/
def hostManager (P : Platform) (process : Process) (link : Pair → Link) :
    StateManager (Host P) where
  addStateObserver k isUpdate := Host.request process .frontEnd (link k)
    (.addStateObserver k.slotId (k.eventType.toUint32t P) isUpdate)
  removeStateObserver k := Host.request process .frontEnd (link k)
    (.removeStateObserver k.slotId (k.eventType.toUint32t P))

/-- The observer of a record was made by the front end. -/
def Host.made (w : Host P) (record : Record) : Bool :=
  record.telephonyObserver.bind (fun o => w.makers[o]?) == some .frontEnd

/-- The record that the live incarnation has for a pair of the process. -/
def Host.record (process : Process) (k : Pair) (w : Host P) : Option Record :=
  w.remote.service.bind fun t => t.2.registered (process.key P k)

/-- The live incarnation has a registration of the process for a pair; if it is to be an own
one, it has an observer that the front end made. -/
def Host.Holds (process : Process) (own : Bool) (k : Pair) (w : Host P) : Prop :=
  ∃ record, w.record process k = some record ∧ (own = true → w.made record = true)

/-- The service admits a registration under a key. -/
def Op.stores (env : Env) (key : Key) : Op P → Bool
  | .register r => decide (r.admitted P env ∧ r.key = key)
  | _ => false

/-- The service admits a removal of a key. -/
def Op.removes (env : Env) (key : Key) : Op P → Bool
  | .unregister k => decide (Checked P env k.mask ∧ k = key)
  | _ => false

end TelephonyStateRegistry
