import TelephonyStateRegistry.Client.Threads
import TelephonyStateRegistry.Core.Ledger

/-!
# The objects of dispatched work

For each work item the thread of the handler makes a `uv_work_t` and a context, which
holds the copy of the listener. The queue of the event loop passes them on to
`WorkUpdated`, which releases the context itself or leaves it to a work function.
-/

namespace TelephonyStateRegistry

open Reactive

variable {P : Platform} {σ : Type}

namespace Napi

/-- An object of a work item, by the number of the item. -/
inductive WorkObject
  /-- The `uv_work_t`. -/
  | work (n : Nat)
  /-- The context, of a type that derives from `EventListener`, or `EventListener` itself. -/
  | context (n : Nat)
  deriving DecidableEq, Repr

/-- The item of an object. -/
def WorkObject.item : WorkObject → Nat
  | work n => n
  | context n => n

/-- What `HandleCallbackInfoUpdate` does for a listener: the context is made first, and
released if the work cannot be queued. -/
def Attempt.infoActions (attempt : Attempt) (n : Nat) : List (ObjectAction WorkObject) :=
  if attempt.initLoop = false then []
  else if attempt.makeContext = false then []
  else .make (.context n) ::
    if attempt.makeWork = false then []
    else .make (.work n) ::
      if attempt.queueWork ≠ 0 then [.release (.context n), .release (.work n)] else []

/-- What `HandleCallbackVoidUpdate` does for a listener: the work is made first. -/
def Attempt.voidActions (attempt : Attempt) (n : Nat) : List (ObjectAction WorkObject) :=
  if attempt.initLoop = false then []
  else if attempt.makeWork = false then []
  else .make (.work n) :: .make (.context n) ::
    if attempt.queueWork ≠ 0 then [.release (.context n), .release (.work n)] else []

/-- What is done for a listener that needs an event. -/
def InnerEvent.actions (event : InnerEvent P) (attempt : Attempt) (n : Nat) :
    List (ObjectAction WorkObject) :=
  match handleFuncMap event.innerEventId with
  | .handleCallbackInfoUpdate _ => attempt.infoActions n
  | .handleCallbackVoidUpdate _ => attempt.voidActions n

/-- What a work function releases until it returns: it takes the context over before its
first return. With a null element it does not return. -/
def WorkFunc.releases (workFunc : WorkFunc) (item : WorkItem P) (answers : WorkAnswers) (n : Nat) :
    List (ObjectAction WorkObject) :=
  if answers.workScope = false then [.release (.context n)]
  else if workFunc = .workNetworkStateUpdated ∧ item.networkState.isNone then
    [.release (.context n)]
  else if workFunc.readsElements ∧ item.hasNull then []
  else [.release (.context n)]

/-- What `WorkUpdated` releases until it returns. It leaves the context of a listener that
it knows to the work function. -/
def releases (deleting : Finset Pointer) (item : WorkItem P) (answers : WorkAnswers) (n : Nat) :
    List (ObjectAction WorkObject) :=
  if item.listener.isDeleting = nullptr ∨ item.listener.isDeleting ∈ deleting then
    [.release (.context n)]
  else match workFuncMap item.listener.eventType with
    | none => [.release (.context n)]
    | some workFunc => workFunc.releases item answers n

/-- The objects, and who is going to release them. -/
structure Accounts where
  ledger : Ledger WorkObject
  /-- The number of items so far. -/
  items : Nat
  /-- The numbers of the items in the queue. -/
  queued : List Nat
  /-- What the work item under way on each thread releases until it returns. -/
  running : Pointer → List (ObjectAction WorkObject)

/-- No object has been made. -/
def Accounts.start : Accounts := ⟨.empty, 0, [], fun _ => []⟩

/-- A listener that needs an event: its objects are made, and if nothing fails its work is
queued. -/
def Accounts.queueWork (event : InnerEvent P) (attempt : Attempt) (a : Accounts) : Accounts :=
  { a with
    ledger := a.ledger.run (event.actions attempt a.items)
    items := a.items + 1
    queued := if event.makes attempt = true ∧ attempt.queueWork = 0 then a.queued ++ [a.items]
      else a.queued }

/-- The loop over the table, which ends when something fails. -/
def Accounts.queueWorks (event : InnerEvent P) :
    (attempts : Nat → Attempt) → List EventListener → Accounts → Accounts
  | _, [], a => a
  | attempts, listen :: listeners, a =>
    if event.needs (attempts 0) listen = false then
      queueWorks event (fun n => attempts (n + 1)) listeners a
    else if event.makes (attempts 0) = false then a.queueWork event (attempts 0)
    else if (attempts 0).queueWork ≠ 0 then a.queueWork event (attempts 0)
    else queueWorks event (fun n => attempts (n + 1)) listeners (a.queueWork event (attempts 0))

/-- A work item that has returned has released what it owns. -/
def Accounts.returned (a : Accounts) (env : Pointer) (t : JsThread P) : Accounts :=
  if t.work.isEmpty then
    { a with
      ledger := a.ledger.run (a.running env)
      running := Function.update a.running env [] }
  else a

/-- The accounts after a step of one of the threads. -/
def Accounts.after (a : Accounts) (s next : Threads P σ) : ThreadStep P σ → Accounts
  | .processEvent attempts => match s.events with
    | [] => a
    | event :: _ => a.queueWorks event attempts s.listeners
  | .workUpdated index answers => match s.queue[index]?, a.queued[index]? with
    | some item, some n =>
      let env := item.listener.env
      if (s.thread env).isIdle = false then a
      else
        let a : Accounts := { a with
          queued := a.queued.eraseIdx index
          running := Function.update a.running env
            (releases s.handler.1.deleting item answers n) }
        a.returned env (next.thread env)
    | _, _ => a
  | .proceed env => a.returned env (next.thread env)
  | _ => a

/-- The front end with its accounts as a machine. -/
def accounts (P : Platform) (σ : Type) :
    Mealy (Threads P σ × Accounts) (ThreadStep P σ) (List (WorkAction P)) where
  step s input :=
    let (next, actions) := (threads P σ).step s.1 input
    ((next, s.2.after s.1 next input), actions)

/-- No dispatch and no work item is under way, and no item waits. -/
def Threads.Settled (s : Threads P σ) : Prop := s.queue = [] ∧ ∀ env, (s.thread env).work = []

end Napi

end TelephonyStateRegistry
