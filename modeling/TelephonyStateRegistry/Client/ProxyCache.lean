import TelephonyStateRegistry.Client.ObserverClient

/-!
# The cached proxy and the death notifications

`GetProxy` looks for the service, sets a death recipient on it and caches a proxy, all
under one mutex; `OnRemoteDied` takes the same mutex. The service may die and be started
again at any moment, also in the middle of a `GetProxy`. A recipient that was accepted
is notified after the death of its object, at any later time and perhaps repeatedly.
-/

namespace TelephonyStateRegistry

open Reactive

/-- A death recipient of this client on the remote object of an incarnation. -/
structure DeathWatch where
  remote : Nat
  recipient : Nat
  deriving DecidableEq, Repr

/-- How far a `GetProxy` has come that holds `mutexProxy_`. -/
inductive Connecting
  /-- The mutex is free. -/
  | idle
  /-- `CheckSystemAbility` has found an object. -/
  | found (obj : Nat)
  /-- The death recipient is set on the object. -/
  | watched (obj dr : Nat)
  deriving DecidableEq, Repr

/-- `TelephonyObserverClient` with the incarnations of the service. -/
structure ProxyCache where
  /-- The incarnation that is alive. -/
  alive : Option Nat
  /-- The number of incarnations so far. -/
  incarnations : Nat
  /-- The number of death recipients so far. -/
  recipients : Nat
  /-- The recipients that were accepted on objects that are alive. -/
  watches : List DeathWatch
  /-- The notifications of deaths that have not been processed. -/
  pending : List DeathWatch
  /-- `proxy_`, by the incarnation that it denotes. -/
  proxy : Option Nat
  /-- `deathRecipient_`. -/
  deathRecipient : Option Nat
  connecting : Connecting
  deriving DecidableEq, Repr

namespace ProxyCache

/-- The client before its first call, with the first incarnation of the service. -/
def start : ProxyCache := ⟨some 0, 1, 0, [], [], none, none, .idle⟩

/-- `GetProxy` up to `CheckSystemAbility`, with what it returns, if it returns. -/
def getProxy (getSystemAbilityManager : Bool) (obj : Option Nat) (s : ProxyCache) :
    ProxyCache × Option (Option Nat) :=
  match s.proxy with
  | some i => (s, some (some i))
  | none =>
    if getSystemAbilityManager = false then (s, some none)
    else match obj with
      | none => (s, some none)
      | some obj => ({ s with connecting := .found obj }, none)

/-- `GetProxy` from the making of the recipient to `AddDeathRecipient`, which can only
succeed on an object that is alive. -/
def addDeathRecipient (isProxyObject : Nat → Bool) (accepted : Bool) (obj : Nat)
    (s : ProxyCache) : ProxyCache × Option (Option Nat) :=
  let dr := s.recipients
  let s := { s with recipients := s.recipients + 1 }
  if isProxyObject obj = false then ({ s with connecting := .watched obj dr }, none)
  else if accepted = true ∧ s.alive = some obj then
    ({ s with watches := ⟨obj, dr⟩ :: s.watches, connecting := .watched obj dr }, none)
  else ({ s with connecting := .idle }, some none)

/-- `GetProxy` from `iface_cast` to its end. The cast of a live object is not null. -/
def connect (ifaceCast : Bool) (obj dr : Nat) (s : ProxyCache) :
    ProxyCache × Option (Option Nat) :=
  let proxy := if s.alive = some obj ∨ ifaceCast = true then some obj else none
  ({ s with proxy, deathRecipient := some dr, connecting := .idle }, some proxy)

/-- `OnRemoteDied`. The object of the cached proxy can be promoted, since the proxy
refers to it. -/
def onRemoteDied (remote : Option Nat) (s : ProxyCache) : ProxyCache :=
  if remote = none then s
  else if s.proxy = none then s
  else if s.proxy = remote then
    { s with
      watches := s.watches.filter fun w =>
        !(s.proxy = some w.remote && s.deathRecipient = some w.recipient)
      proxy := none }
  else s

/-- The service dies: the recipients on it are owed a notification each. -/
def died (s : ProxyCache) : ProxyCache :=
  { s with
    alive := none
    watches := s.watches.filter fun w => s.alive ≠ some w.remote
    pending := s.pending ++ s.watches.filter fun w => s.alive = some w.remote }

/-- The service is started again. -/
def restarted (s : ProxyCache) : ProxyCache :=
  match s.alive with
  | some _ => s
  | none => { s with alive := some s.incarnations, incarnations := s.incarnations + 1 }

end ProxyCache

/-- What happens to the client and the service. -/
inductive ProxyEvent
  /-- A thread calls `GetProxy`. -/
  | getProxy (getSystemAbilityManager : Bool) (obj : Option Nat)
  /-- It goes on to `AddDeathRecipient`. -/
  | addDeathRecipient (accepted : Bool)
  /-- It goes on to its end. -/
  | connect (ifaceCast : Bool)
  | died
  | restarted
  /-- A notification that is owed is processed. -/
  | notified (index : Nat)
  /-- A notification of some death is processed once more. -/
  | notifiedAgain (remote : Option Nat)

/-- The client as a machine; the outputs are what calls of `GetProxy` return. A step
that has to wait for the mutex, or that nobody is about to take, has no effect. -/
def proxyCache (isProxyObject : Nat → Bool) :
    Mealy ProxyCache ProxyEvent (Option (Option Nat)) where
  step s event := match event, s.connecting with
    | .getProxy sam obj, .idle => s.getProxy sam obj
    | .addDeathRecipient accepted, .found obj => s.addDeathRecipient isProxyObject accepted obj
    | .connect ifaceCast, .watched obj dr => s.connect ifaceCast obj dr
    | .died, _ => (s.died, none)
    | .restarted, _ => (s.restarted, none)
    | .notified index, .idle => match s.pending[index]? with
      | none => (s, none)
      | some w =>
        (({ s with pending := s.pending.eraseIdx index } : ProxyCache).onRemoteDied
          (some w.remote), none)
    | .notifiedAgain remote, .idle =>
      -- nobody is told of the death of a service that is alive
      if remote ≠ none ∧ remote = s.alive then (s, none) else (s.onRemoteDied remote, none)
    | _, _ => (s, none)

/-- The steps of a `GetProxy` with what the system does during it. -/
def getProxyEvents (link : Link) (alive : Option Nat) : List ProxyEvent :=
  [.getProxy link.getSystemAbilityManager (alive.filter fun _ => link.checkSystemAbility),
    .addDeathRecipient link.addDeathRecipient, .connect true]

/-- Without an interruption, `GetProxy` does what it does as one step. -/
theorem run_getProxyEvents {P : Platform} (link : Link) (w : Remote P) {s : ProxyCache}
    (hidle : s.connecting = .idle) (halive : s.alive = w.service.map Prod.fst)
    (hproxy : s.proxy = w.proxy) :
    ((proxyCache fun _ => true).run s (getProxyEvents link s.alive)).proxy =
      (w.getProxy link).2.proxy := by
  obtain ⟨service, incarnations, proxy⟩ := w
  obtain ⟨alive, incarnations', recipients, watches, pending, proxy', deathRecipient,
    connecting⟩ := s
  simp only at hidle halive hproxy
  subst hidle halive hproxy
  cases proxy' with
  | some i => rfl
  | none =>
    cases hsam : link.getSystemAbilityManager <;> cases hcheck : link.checkSystemAbility <;>
      cases hadd : link.addDeathRecipient <;> rcases service with _ | ⟨i, s⟩ <;>
        simp [Mealy.run, Mealy.next, proxyCache, getProxyEvents, ProxyCache.getProxy,
          ProxyCache.addDeathRecipient, ProxyCache.connect, Remote.getProxy, Option.filter, hsam,
          hcheck, hadd]

end TelephonyStateRegistry
