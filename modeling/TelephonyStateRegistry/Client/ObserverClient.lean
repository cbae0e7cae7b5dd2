import TelephonyStateRegistry.Client.Manager
import TelephonyStateRegistry.Service.Admission
import TelephonyStateRegistry.Service.Run

/-!
# The client and the incarnations of the service

`TelephonyObserverClient` caches a proxy of the service, which may die and be
started again. Every incarnation has a number and starts with an empty
registry; a cached proxy of a dead incarnation answers no request.
-/

namespace TelephonyStateRegistry

open Reactive

variable {P : Platform}

/-- The process of a front end, as the service sees its calls. -/
structure Process where
  bundleName : String
  pid : Int
  uid : Int
  tokenId : Int
  appIdentifier : String
  deriving DecidableEq, Repr

/-- The key of a registration of a process. -/
def Process.key (P : Platform) (process : Process) (k : Pair) : Key :=
  ⟨k.slotId, k.eventType.toUint32t P, process.tokenId, process.pid⟩

/-- `RegisterStateChange` of the stub, which looks up who is calling. -/
def Process.registerStateChange (caller : Process) (telephonyObserver : Observer) (slotId : Int)
    (mask : BitVec 32) (isUpdate : Bool) : Registration where
  telephonyObserver := some telephonyObserver
  slotId
  mask
  bundleName := caller.bundleName
  isUpdate
  pid := caller.pid
  uid := caller.uid
  tokenId := caller.tokenId
  appIdentifier := caller.appIdentifier

/-- `UnregisterStateChange` of the stub. -/
def Process.unregisterStateChange (caller : Process) (slotId : Int) (mask : BitVec 32) : Key :=
  ⟨slotId, mask, caller.tokenId, caller.pid⟩

/-- What the stub passes on when a process registers an observer. -/
def Process.registration (P : Platform) (process : Process) (observer : Observer) (k : Pair)
    (isUpdate : Bool) : Registration where
  telephonyObserver := some observer
  slotId := k.slotId
  mask := k.eventType.toUint32t P
  bundleName := process.bundleName
  isUpdate
  pid := process.pid
  uid := process.uid
  tokenId := process.tokenId
  appIdentifier := process.appIdentifier

/-- What the system does during one request of the client. -/
structure Link where
  /-- Whether there is a system ability manager. -/
  getSystemAbilityManager : Bool
  /-- Whether the manager finds a service that is alive. -/
  checkSystemAbility : Bool
  /-- Whether the death recipient is accepted. -/
  addDeathRecipient : Bool
  /-- Whether a request to a live service is delivered. -/
  sendRequest : Bool
  /-- The error of a request that is not answered. -/
  error : Int
  /-- The answers of the permission services. -/
  env : Env
  /-- The observer that was made for the request. -/
  observer : Observer

/-- A system that answers every request, for a native process. -/
def Link.native : Link where
  getSystemAbilityManager := true
  checkSystemAbility := true
  addDeathRecipient := true
  sendRequest := true
  error := 0
  env := .native
  observer := 1

/-- The service and the client of one process. -/
structure Remote (P : Platform) where
  /-- The incarnation that is alive. -/
  service : Option (Nat × Service P)
  /-- The number of incarnations so far. -/
  incarnations : Nat
  /-- `proxy_`, by the incarnation that it denotes. -/
  proxy : Option Nat

/-- The first incarnation, before any call of the client. -/
def Remote.start (P : Platform) : Remote P := ⟨some (0, Service.init P), 1, none⟩

/-- `GetProxy`. -/
def Remote.getProxy (link : Link) (w : Remote P) : Option Nat × Remote P :=
  match w.proxy with
  | some i => (some i, w)
  | none =>
    if link.getSystemAbilityManager = false then (none, w)
    else
      match w.service.filter fun _ => link.checkSystemAbility with
      | none => (none, w)
      | some (i, _) =>
        if link.addDeathRecipient = false then (none, w)
        else (some i, { w with proxy := some i })

/-- A request through the proxy: it is answered by the incarnation that the
proxy denotes, if that is alive. -/
def Remote.request (link : Link) (op : Op P) (w : Remote P) : ClientCode × Remote P :=
  match w.getProxy link with
  | (none, w) => (.telephonyErrIpcConnectStubFail, w)
  | (some i, w) =>
    match w.service with
    | none => (.sendRequestError link.error, w)
    | some (j, s) =>
      if i = j ∧ link.sendRequest = true then
        let (s, output) := op.run link.env s
        (.service output.result, { w with service := some (j, s) })
      else (.sendRequestError link.error, w)

/-- `TelephonyObserverClient` with the service behind it; the system may behave
differently for every request. -/
def clientManager (P : Platform) (process : Process) (link : Pair → Link) :
    StateManager (Remote P) where
  addStateObserver k isUpdate :=
    Remote.request (link k) (.register (process.registration P (link k).observer k isUpdate))
  removeStateObserver k := Remote.request (link k) (.unregister (process.key P k))

/-- The service dies, and its registry with it. -/
def Remote.died (w : Remote P) : Remote P := { w with service := none }

/-- The service is started again. -/
def Remote.restarted (w : Remote P) : Remote P :=
  match w.service with
  | some _ => w
  | none =>
    { w with service := some (w.incarnations, Service.init P), incarnations := w.incarnations + 1 }

/-- `OnRemoteDied`. -/
def Remote.onRemoteDied (remote : Option Nat) (w : Remote P) : Remote P :=
  if remote = none then w
  else if w.proxy = none then w
  else if w.proxy = remote then { w with proxy := none }
  else w

/-- An operation that is no registration or removal of a process. -/
def Op.foreign (process : Process) : Op P → Bool
  | .update _ => true
  | .register r => !(r.tokenId == process.tokenId && r.pid == process.pid)
  | .unregister k => !(k.tokenId == process.tokenId && k.pid == process.pid)

/-- An operation of somebody else. -/
abbrev ForeignOp (P : Platform) (process : Process) := {op : Op P // op.foreign process = true}

/-- An update is no registration of anybody. -/
def ForeignOp.update {process : Process} (u : Update P) : ForeignOp P process := ⟨.update u, rfl⟩

/-- The service serves an operation that does not come through the client. -/
def Remote.serves (env : Env) (op : Op P) (w : Remote P) : Remote P :=
  { w with service := w.service.map fun (i, s) => (i, (op.run env s).1) }

/-- The incarnation that is alive holds a registration of a process. -/
def Remote.Holds (process : Process) (k : Pair) (w : Remote P) : Prop :=
  ∃ i s, w.service = some (i, s) ∧ s.registered (process.key P k) ≠ none

/-- A request reaches the incarnation that is alive. -/
def Remote.Reaches (link : Link) (w : Remote P) : Prop :=
  ∃ i s, (w.getProxy link).1 = some i ∧ w.service = some (i, s) ∧ link.sendRequest = true

theorem Remote.reaches_iff {link : Link} {w : Remote P} :
    w.Reaches link ↔
      (w.service.any fun t => (w.getProxy link).1 == some t.1 && link.sendRequest) = true := by
  rw [Remote.Reaches]
  cases w.service with
  | none =>
    refine iff_of_false ?_ Bool.false_ne_true
    rintro ⟨i, s, -, h, -⟩
    cases h
  | some t =>
    rw [Option.any_some, Bool.and_eq_true, beq_iff_eq]
    constructor
    · rintro ⟨i, s, hi, h, hsend⟩
      cases h
      exact ⟨hi, hsend⟩
    · rintro ⟨hi, hsend⟩
      exact ⟨t.1, t.2, hi, rfl, hsend⟩

instance (link : Link) (w : Remote P) : Decidable (w.Reaches link) :=
  decidable_of_iff _ Remote.reaches_iff.symm

@[simp] theorem Remote.getProxy_service (link : Link) (w : Remote P) :
    (w.getProxy link).2.service = w.service := by
  unfold Remote.getProxy
  split
  · rfl
  · split
    · rfl
    · split
      · rfl
      · split <;> rfl

/-- A request is answered by the live incarnation, or it has no effect on the service. -/
theorem Remote.request_cases (link : Link) (op : Op P) (w : Remote P) :
    (∃ i s, w.service = some (i, s) ∧ w.Reaches link ∧
      (w.request link op).1 = .service (op.run link.env s).2.result ∧
      (w.request link op).2.service = some (i, (op.run link.env s).1)) ∨
    (¬w.Reaches link ∧ (w.request link op).1 ≠ .telephonySuccess ∧
      (w.request link op).2.service = w.service) := by
  have hservice := w.getProxy_service link
  cases hproxy : w.getProxy link with
  | mk proxy w' =>
    rw [hproxy] at hservice
    cases proxy with
    | none =>
      have hrequest : w.request link op = (.telephonyErrIpcConnectStubFail, w') := by
        simp only [Remote.request, hproxy]
      rw [hrequest]
      have hfailed : ClientCode.telephonyErrIpcConnectStubFail ≠ .telephonySuccess := by decide
      refine Or.inr ⟨?_, hfailed, hservice⟩
      rintro ⟨i, s, hi, -⟩
      rw [hproxy] at hi
      cases hi
    | some i =>
      cases hs : w'.service with
      | none =>
        have hrequest : w.request link op = (.sendRequestError link.error, w') := by
          simp only [Remote.request, hproxy, hs]
        rw [hrequest]
        refine Or.inr ⟨?_, ClientCode.sendRequestError_ne _, hservice⟩
        rintro ⟨j, s, -, hj, -⟩
        rw [← hservice, hs] at hj
        cases hj
      | some js =>
        obtain ⟨j, s⟩ := js
        by_cases hij : i = j ∧ link.sendRequest = true
        · have hrequest : w.request link op = (.service (op.run link.env s).2.result,
              { w' with service := some (j, (op.run link.env s).1) }) := by
            simp only [Remote.request, hproxy, hs, if_pos hij]
          rw [hrequest]
          obtain ⟨rfl, hsend⟩ := hij
          have halive : w.service = some (i, s) := hservice ▸ hs
          exact Or.inl ⟨i, s, halive, ⟨i, s, by rw [hproxy], halive, hsend⟩, rfl, rfl⟩
        · have hrequest : w.request link op = (.sendRequestError link.error, w') := by
            simp only [Remote.request, hproxy, hs, if_neg hij]
          rw [hrequest]
          refine Or.inr ⟨?_, ClientCode.sendRequestError_ne _, hservice⟩
          rintro ⟨k, t, hk, ht, hsend⟩
          rw [hproxy] at hk
          rw [← hservice, hs] at ht
          cases hk
          cases ht
          exact hij ⟨rfl, hsend⟩

/-- The registrations depend on the live incarnation alone. -/
theorem Remote.holds_congr {process : Process} {k : Pair} {w w' : Remote P}
    (h : w'.service = w.service) : w'.Holds process k ↔ w.Holds process k := by
  simp only [Remote.Holds, h]

/-- They are those that it holds. -/
theorem Remote.holds_iff {process : Process} {k : Pair} {w : Remote P} {i : Nat} {s : Service P}
    (h : w.service = some (i, s)) :
    w.Holds process k ↔ s.registered (process.key P k) ≠ none := by
  rw [Remote.Holds, h]
  constructor
  · rintro ⟨_, _, hs, hr⟩
    cases hs
    exact hr
  · intro hr
    exact ⟨i, s, rfl, hr⟩

variable {process : Process} {link : Pair → Link} {j k : Pair}

/-- Two pairs of a process have different keys. -/
theorem Process.key_injective (process : Process) : Function.Injective (process.key P) := by
  intro j k h
  obtain ⟨jslot, jevent⟩ := j
  obtain ⟨kslot, kevent⟩ := k
  simp only [Process.key, Key.mk.injEq, and_true] at h
  obtain ⟨rfl, hmask⟩ := h
  cases jevent with
  | noneEventType =>
    cases kevent with
    | noneEventType => rfl
    | event m =>
      have hself := (P.contains_mask m m).mpr rfl
      rw [← show 0#32 = P.mask m from hmask, Platform.contains, BitVec.getLsbD_zero] at hself
      cases hself
  | event m =>
    cases kevent with
    | noneEventType =>
      have hself := (P.contains_mask m m).mpr rfl
      rw [show P.mask m = 0#32 from hmask, Platform.contains, BitVec.getLsbD_zero] at hself
      cases hself
    | event n =>
      have hn := (P.contains_mask m n).mp (by
        rw [show P.mask m = P.mask n from hmask]
        exact (P.contains_mask n n).mpr rfl)
      rw [hn]

/-- A registration for somebody else is under another key. -/
theorem Op.key_of_foreign_register {r : Registration}
    (h : (Op.register r : Op P).foreign process = true) (k : Pair) : r.key ≠ process.key P k := by
  intro hkey
  have htoken : r.tokenId = process.tokenId := congrArg Key.tokenId hkey
  have hpid : r.pid = process.pid := congrArg Key.pid hkey
  simp only [Op.foreign, htoken, hpid, beq_self_eq_true, Bool.and_self, Bool.not_true,
    Bool.false_eq_true] at h

/-- So is a removal. -/
theorem Op.key_of_foreign_unregister {key : Key}
    (h : (Op.unregister key : Op P).foreign process = true) (k : Pair) : key ≠ process.key P k := by
  rintro rfl
  simp only [Op.foreign, Process.key, beq_self_eq_true, Bool.and_self, Bool.not_true,
    Bool.false_eq_true] at h

/-- A request of the client leaves the registrations of other pairs alone. -/
theorem Remote.holds_request_of_ne {op : Op P} (w : Remote P)
    (h : ∀ s : Service P, (op.run (link k).env s).1.registered (process.key P j) =
      s.registered (process.key P j)) :
    (w.request (link k) op).2.Holds process j ↔ w.Holds process j := by
  rcases w.request_cases (link k) op with ⟨i, s, hs, -, -, hservice⟩ | ⟨-, -, hservice⟩
  · rw [Remote.holds_iff hservice, Remote.holds_iff hs, h]
  · exact Remote.holds_congr hservice

theorem holds_add_of_ne (hne : j ≠ k) (isUpdate : Bool) (w : Remote P) :
    ((clientManager P process link).addStateObserver k isUpdate w).2.Holds process j ↔
      w.Holds process j := by
  apply w.holds_request_of_ne
  intro s
  change (registerStateChange _ _ s).1.registered _ = _
  rw [registered_register, if_neg]
  rintro ⟨-, hkey⟩
  exact hne (process.key_injective hkey)

theorem holds_remove_of_ne (hne : j ≠ k) (w : Remote P) :
    ((clientManager P process link).removeStateObserver k w).2.Holds process j ↔
      w.Holds process j := by
  apply w.holds_request_of_ne
  intro s
  change (unregisterStateChange _ _ s).1.registered _ = _
  rw [registered_unregister_of_ne]
  intro hkey
  exact absurd (process.key_injective hkey) hne

/-- The gates of a registration that answer with a success code. -/
def silentGates (P : Platform) (env : Env) (slotId : Int) : Bool :=
  isMultiSimsCapabilitySupported P env slotId && registrableSlot P slotId

/-- When the service admits a registration of a process. -/
theorem Process.admitted_iff (process : Process) (observer : Observer) (k : Pair)
    (isUpdate : Bool) (env : Env) :
    (process.registration P observer k isUpdate).admitted P env ↔
      Checked P env (k.eventType.toUint32t P) ∧ silentGates P env k.slotId = true := by
  rw [silentGates, Bool.and_eq_true]
  exact Iff.rfl

/-- When a registration is answered with success. -/
theorem Remote.register_success_iff (link : Link) (r : Registration) (w : Remote P) :
    (w.request link (.register r)).1 = .telephonySuccess ↔
      w.Reaches link ∧ Checked P link.env r.mask := by
  rcases w.request_cases link (.register r) with ⟨i, s, -, hreach, hcode, -⟩ | ⟨hreach, hcode, -⟩
  · rw [hcode, ClientCode.telephonySuccess, ClientCode.service.injEq]
    exact (registerStateChange_success_iff link.env r s).trans (and_iff_right hreach).symm
  · exact iff_of_false hcode fun h => hreach h.1

theorem add_success_iff (isUpdate : Bool) (w : Remote P) :
    ((clientManager P process link).addStateObserver k isUpdate w).1 = .telephonySuccess ↔
      w.Reaches (link k) ∧ Checked P (link k).env (k.eventType.toUint32t P) :=
  w.register_success_iff (link k) _

/-- What a registration that is answered with success leaves. -/
theorem holds_add_iff (isUpdate : Bool) (w : Remote P) (hreach : w.Reaches (link k))
    (hchecked : Checked P (link k).env (k.eventType.toUint32t P)) :
    ((clientManager P process link).addStateObserver k isUpdate w).2.Holds process k ↔
      silentGates P (link k).env k.slotId = true ∨ w.Holds process k := by
  let r := process.registration P (link k).observer k isUpdate
  rcases w.request_cases (link k) (.register r) with
    ⟨i, s, hs, -, -, hservice⟩ | ⟨hnot, -⟩
  · have hadm : r.admitted P (link k).env ↔ silentGates P (link k).env k.slotId = true :=
      (process.admitted_iff _ k isUpdate _).trans (and_iff_right hchecked)
    have hkey : process.key P k = r.key := rfl
    change (w.request (link k) (.register r)).2.Holds process k ↔ _
    have hafter : (w.request (link k) (.register r)).2.Holds process k ↔
        (registerStateChange (link k).env r s).1.registered (process.key P k) ≠ none :=
      Remote.holds_iff hservice
    rw [hafter, Remote.holds_iff hs, registered_register]
    by_cases hgates : silentGates P (link k).env k.slotId = true
    · rw [if_pos ⟨hadm.mpr hgates, hkey⟩]
      exact iff_of_true (Option.some_ne_none _) (Or.inl hgates)
    · rw [if_neg fun h => hgates (hadm.mp h.1)]
      exact (or_iff_right hgates).symm
  · exact absurd hreach hnot

end TelephonyStateRegistry
