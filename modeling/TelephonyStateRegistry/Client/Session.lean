import TelephonyStateRegistry.Client.FrontEnd
import TelephonyStateRegistry.Client.Host

/-!
# A process over several incarnations of the service

A session of a front end interleaves the parts of its calls with deaths and restarts
of the service, with the notifications of deaths, with the requests of the other users
of the client in the process, and with what the service does for other processes. The
table of the front end takes no notice of any of them.
-/

namespace TelephonyStateRegistry

open Reactive

/-- What happens in a session. -/
inductive SessionEvent (P : Platform) (process : Process) (F : FrontEnd)
  /-- The front end enters a call, or makes the next request of the one it is in. -/
  | part (step : FrontEndStep F (Pair → Link))
  /-- Another user of the client in the process makes a request. -/
  | neighbour (link : Link) (request : ClientRequest)
  | died
  | restarted
  | onRemoteDied (remote : Option Nat)
  /-- The service serves another process. -/
  | serves (env : Env) (op : ForeignOp P process)

section Session

variable (P : Platform) (process : Process) (F : FrontEnd)

/-- The front end with the client and the service as a machine. -/
def session : Mealy (F.Client × Host P) (SessionEvent P process F) (Option F.Code) where
  step s event := match event with
    | .part step => (F.parts (hostManager P process)).step s step
    | .neighbour link request => ((s.1, (s.2.request process .neighbour link request).2), none)
    | .died => ((s.1, { s.2 with remote := s.2.remote.died }), none)
    | .restarted => ((s.1, { s.2 with remote := s.2.remote.restarted }), none)
    | .onRemoteDied remote => ((s.1, { s.2 with remote := s.2.remote.onRemoteDied remote }), none)
    | .serves env op => ((s.1, { s.2 with remote := s.2.remote.serves env op.val }), none)

/-- The pairs of the listeners of a table. -/
def FrontEnd.pairs (table : List F.Listener) : List Pair := table.map F.sharing.key

/-- What the live incarnation runs in an event for another user of the client. -/
def SessionEvent.served {P : Platform} {process : Process} {F : FrontEnd} (w : Host P) :
    SessionEvent P process F → Option (Env × Op P)
  | .neighbour link request =>
    if w.remote.Reaches link then some (link.env, request.op P process w.makers.length) else none
  | _ => none

/-- An event takes the registration of a pair away: the service dies, or removes it for
another user of the client. -/
def SessionEvent.takes {P : Platform} {process : Process} {F : FrontEnd} (w : Host P) (k : Pair) :
    SessionEvent P process F → Bool
  | .died => true
  | event => (event.served w).any fun t => t.2.removes t.1 (process.key P k)

/-- The service admits a registration of a pair for another user of the client. -/
def SessionEvent.gives {P : Platform} {process : Process} {F : FrontEnd} (w : Host P) (k : Pair)
    (event : SessionEvent P process F) : Bool :=
  (event.served w).any fun t => t.2.stores t.1 (process.key P k)

/-- The session together with the pairs that have lost their registration: those from which it
was taken while they had listeners, and which have had some ever since. A registration of
another user makes up for it unless it is to be an own one. -/
def trackedSession (own : Bool) :
    Mealy ((F.Client × Host P) × List Pair) (SessionEvent P process F) (Option F.Code) where
  step s event :=
    let (next, code) := (session P process F).step s.1 event
    let lost k := event.takes s.1.2 k || k ∈ s.2 && (own || !event.gives s.1.2 k)
    ((next, (F.pairs next.1.table).filter lost), code)

/-- The first state of a session. -/
def FrontEnd.sessionStart : (F.Client × Host P) × List Pair := ((⟨[], .idle⟩, Host.start P), [])

variable {P} {process} {F}

theorem FrontEnd.mem_pairs {table : List F.Listener} {k : Pair} :
    k ∈ F.pairs table ↔ ∃ l ∈ table, F.sharing.key l = k := List.mem_map

theorem trackedSession_next (own : Bool) (s : (F.Client × Host P) × List Pair)
    (event : SessionEvent P process F) :
    ((trackedSession P process F own).next s event).1 = (session P process F).next s.1 event := rfl

theorem mem_lost {own : Bool} {s : (F.Client × Host P) × List Pair}
    {event : SessionEvent P process F} {k : Pair} :
    k ∈ ((trackedSession P process F own).next s event).2 ↔
      k ∈ F.pairs ((session P process F).next s.1 event).1.table ∧
        (event.takes s.1.2 k = true ∨ (k ∈ s.2 ∧ (own = true ∨ event.gives s.1.2 k = false))) := by
  refine List.mem_filter.trans (and_congr_right fun _ => ?_)
  rw [Bool.or_eq_true, Bool.and_eq_true, Bool.or_eq_true, decide_eq_true_eq, Bool.not_eq_true']

end Session

end TelephonyStateRegistry
