import TelephonyStateRegistry.Client.Host
import TelephonyStateRegistry.Correctness.Registry

/-!
# Registrations of a shared client

Every request of a process concerns one key. What it does to the record of the key, and to
the question whose observer the record has, is said once here, whoever makes it.
-/

namespace TelephonyStateRegistry

open Reactive

variable {P : Platform}

/-- An operation that does not concern a key leaves its record. -/
theorem registered_run_of_ne {s : Service P} (hs : s.WellKeyed) {env : Env} {op : Op P} {key : Key}
    (hstores : op.stores env key = false) (hremoves : op.removes env key = false) :
    (op.run env s).1.registered key = s.registered key := by
  cases op with
  | update u => simp only [Op.run, Service.registered, u.run_stateRecords]
  | register r =>
    rw [Op.run, registered_register, if_neg]
    rintro ⟨hadm, hkey⟩
    exact of_decide_eq_false hstores ⟨hadm, hkey.symm⟩
  | unregister k =>
    rw [Op.run, hs.registered_unregister, if_neg]
    rintro ⟨hchecked, hkey⟩
    exact of_decide_eq_false hremoves ⟨hchecked, hkey.symm⟩

/-- A removal takes the record of its key away. -/
theorem registered_run_of_removes {s : Service P} (hs : s.WellKeyed) {env : Env} {op : Op P}
    {key : Key} (h : op.removes env key = true) : (op.run env s).1.registered key = none := by
  cases op with
  | unregister k =>
    obtain ⟨hchecked, rfl⟩ := of_decide_eq_true h
    rw [Op.run, hs.registered_unregister, if_pos ⟨hchecked, rfl⟩]
  | _ => cases h

/-- A registration leaves the record that is there, or adds its own. -/
theorem registered_run_of_stores {s : Service P} {env : Env} {op : Op P} {key : Key}
    (h : op.stores env key = true) :
    ∃ r, op = .register r ∧
      (op.run env s).1.registered key = some ((s.registered key).getD r.record) := by
  cases op with
  | register r =>
    obtain ⟨hadm, rfl⟩ := of_decide_eq_true h
    refine ⟨r, rfl, ?_⟩
    rw [Op.run, registered_register, if_pos ⟨hadm, rfl⟩]
    rfl
  | _ => cases h

theorem Op.not_stores_of_removes {env : Env} {op : Op P} {key : Key}
    (h : op.removes env key = true) : op.stores env key = false := by
  cases op with
  | unregister k => rfl
  | _ => cases h

/-- Somebody else concerns no key of a process. -/
theorem Op.foreign_key {process : Process} {op : Op P} (h : op.foreign process = true) (env : Env)
    (k : Pair) :
    op.stores env (process.key P k) = false ∧ op.removes env (process.key P k) = false := by
  cases op with
  | update u => exact ⟨rfl, rfl⟩
  | register r => exact ⟨decide_eq_false fun hr => Op.key_of_foreign_register h k hr.2, rfl⟩
  | unregister key => exact ⟨rfl, decide_eq_false fun hr => Op.key_of_foreign_unregister h k hr.2⟩

/-- The observers of the records of the process have been made by somebody, and the live
incarnation has no key twice. -/
structure Host.Sound (process : Process) (w : Host P) : Prop where
  wellKeyed : ∀ i s, w.remote.service = some (i, s) → s.WellKeyed
  known : ∀ k record, w.record process k = some record →
    ∃ o, record.telephonyObserver = some o ∧ o < w.makers.length

variable {process : Process} {w : Host P} {own : Bool} {k : Pair}

private theorem made_of_known {record : Record} (request : ClientRequest) (user : User)
    (h : ∃ o, record.telephonyObserver = some o ∧ o < w.makers.length) (remote : Remote P) :
    (⟨remote, request.makers user w.makers⟩ : Host P).made record = w.made record := by
  obtain ⟨o, ho, hlt⟩ := h
  have hlookup : (request.makers user w.makers)[o]? = w.makers[o]? := by
    cases request with
    | addStateObserver slotId mask isUpdate => exact List.getElem?_append_left hlt
    | removeStateObserver slotId mask => rfl
  simp only [Host.made, ho, Option.bind_some, hlookup]

private theorem length_makers (request : ClientRequest) (user : User) (makers : List User) :
    makers.length ≤ (request.makers user makers).length := by
  cases request with
  | addStateObserver slotId mask isUpdate =>
    rw [ClientRequest.makers, List.length_append]
    exact Nat.le_add_right _ _
  | removeStateObserver slotId mask => exact le_rfl

private theorem record_request (process : Process) (user : User) (link : Link)
    (request : ClientRequest) (w : Host P) (k : Pair) :
    let op : Op P := request.op P process w.makers.length
    (∃ i s, w.remote.service = some (i, s) ∧ w.remote.Reaches link ∧
      w.record process k = s.registered (process.key P k) ∧
      (w.request process user link request).2.record process k =
        (op.run link.env s).1.registered (process.key P k)) ∨
    (¬w.remote.Reaches link ∧
      (w.request process user link request).2.record process k = w.record process k) := by
  intro op
  rcases w.remote.request_cases link op with
    ⟨i, s, hs, hreach, -, hservice⟩ | ⟨hreach, -, hservice⟩
  · refine Or.inl ⟨i, s, hs, hreach, ?_, ?_⟩
    · rw [Host.record, hs]
      rfl
    · change (w.remote.request link op).2.service.bind _ = _
      rw [hservice]
      rfl
  · refine Or.inr ⟨hreach, ?_⟩
    change (w.remote.request link op).2.service.bind _ = _
    rw [hservice]
    rfl

private theorem request_of_stores {request : ClientRequest} {o : Observer} {env : Env} {key : Key}
    (s : Service P) (h : (request.op P process o).stores env key = true) :
    ∃ record : Record, record.telephonyObserver = some o ∧
      (∀ user makers, request.makers user makers = makers ++ [user]) ∧
      ((request.op P process o).run env s).1.registered key =
        some ((s.registered key).getD record) := by
  cases request with
  | addStateObserver slotId mask isUpdate =>
    obtain ⟨r, hop, hregistered⟩ := registered_run_of_stores (s := s) h
    cases hop
    exact ⟨_, rfl, fun user makers => rfl, hregistered⟩
  | removeStateObserver slotId mask => cases h

theorem Host.Sound.start : (Host.start P).Sound process where
  wellKeyed i s h := by
    cases h
    exact List.nodup_nil
  known k record h := by cases h

theorem Host.Sound.request (h : w.Sound process) (user : User) (link : Link)
    (request : ClientRequest) : (w.request process user link request).2.Sound process where
  wellKeyed j t ht := by
    let op : Op P := request.op P process w.makers.length
    change (w.remote.request link op).2.service = some (j, t) at ht
    rcases w.remote.request_cases link op with ⟨i, s, hs, -, -, hservice⟩ | ⟨-, -, hservice⟩
    · rw [hservice] at ht
      cases ht
      exact (h.wellKeyed _ s hs).next (link.env, op)
    · exact h.wellKeyed j t (hservice ▸ ht)
  known k record hrecord := by
    have hold {record : Record} (hr : w.record process k = some record) :
        ∃ o, record.telephonyObserver = some o ∧ o < (request.makers user w.makers).length := by
      obtain ⟨o, ho, hlt⟩ := h.known k record hr
      exact ⟨o, ho, lt_of_lt_of_le hlt (length_makers request user w.makers)⟩
    let op : Op P := request.op P process w.makers.length
    rcases record_request process user link request w k with
      ⟨i, s, hs, -, hbefore, hafter⟩ | ⟨-, hafter⟩
    · rw [hafter] at hrecord
      have hkeyed := h.wellKeyed i s hs
      cases hr : op.removes link.env (process.key P k) with
      | true =>
        rw [registered_run_of_removes hkeyed hr] at hrecord
        cases hrecord
      | false =>
        cases hst : op.stores link.env (process.key P k) with
        | false =>
          rw [registered_run_of_ne hkeyed hst hr] at hrecord
          exact hold (hbefore.trans hrecord)
        | true =>
          obtain ⟨new, hnew, hmakers, hregistered⟩ := request_of_stores s hst
          rw [hregistered] at hrecord
          cases hreg : s.registered (process.key P k) with
          | some old =>
            rw [hreg] at hrecord
            exact hold (hbefore.trans (hreg.trans hrecord))
          | none =>
            rw [hreg] at hrecord
            cases hrecord
            refine ⟨w.makers.length, hnew, ?_⟩
            rw [show (w.request process user link request).2.makers = _ from hmakers user w.makers,
              List.length_append]
            exact Nat.lt_succ_self _
    · exact hold (hafter.symm.trans hrecord)

/-- Whose observer a record has that is there does not change. -/
theorem Host.Sound.made_request (h : w.Sound process) {record : Record}
    (hrecord : w.record process k = some record) (user : User) (link : Link)
    (request : ClientRequest) :
    (w.request process user link request).2.made record = w.made record :=
  made_of_known request user (h.known k record hrecord) _

/-- The observer of a new record is that of the user. -/
theorem Host.made_new {record : Record} (hrecord : record.telephonyObserver = some w.makers.length)
    (process : Process) (user : User) (link : Link) {request : ClientRequest}
    (hmakers : request.makers user w.makers = w.makers ++ [user]) :
    (w.request process user link request).2.made record = (user == .frontEnd) := by
  rw [Host.made, hrecord, Option.bind_some,
    show (w.request process user link request).2.makers = _ from hmakers,
    List.getElem?_concat_length]
  rfl

/-- **What a request does to a registration.** It stays unless the service removes the record
of the pair; it is new if the request registers the first record of the pair, and an own one
if the front end makes the request. -/
theorem Host.holds_request (h : w.Sound process) (user : User) (link : Link)
    (request : ClientRequest) :
    let op : Op P := request.op P process w.makers.length
    let key := process.key P k
    (w.request process user link request).2.Holds process own k ↔
      ((own = true → user = .frontEnd) ∧ w.remote.Reaches link ∧ op.stores link.env key = true ∧
        w.record process k = none) ∨
      (w.Holds process own k ∧ ¬(w.remote.Reaches link ∧ op.removes link.env key = true)) := by
  intro op key
  have hsame (hafter : (w.request process user link request).2.record process k =
      w.record process k) :
      (w.request process user link request).2.Holds process own k ↔ w.Holds process own k := by
    rw [Host.Holds, Host.Holds, hafter]
    refine exists_congr fun record => and_congr_right fun hr => ?_
    rw [h.made_request hr user link request]
  rcases record_request process user link request w k with
    ⟨i, s, hs, hreach, hbefore, hafter⟩ | ⟨hreach, hafter⟩
  · have hkeyed := h.wellKeyed i s hs
    simp only [hreach, true_and]
    cases hr : op.removes link.env key with
    | true =>
      rw [registered_run_of_removes hkeyed hr] at hafter
      simp only [Op.not_stores_of_removes hr, Bool.false_eq_true, false_and, and_false, false_or,
        not_true_eq_false, iff_false]
      rintro ⟨record, hrecord, -⟩
      rw [hafter] at hrecord
      cases hrecord
    | false =>
      simp only [Bool.false_eq_true, not_false_eq_true, and_true]
      cases hst : op.stores link.env key with
      | false =>
        rw [registered_run_of_ne hkeyed hst hr, ← hbefore] at hafter
        rw [hsame hafter]
        simp only [Bool.false_eq_true, false_and, and_false, false_or]
      | true =>
        obtain ⟨new, hnew, hmakers, hregistered⟩ := request_of_stores s hst
        rw [hregistered, ← hbefore] at hafter
        cases hold : w.record process k with
        | some old =>
          rw [hold] at hafter
          rw [hsame (hafter.trans hold.symm)]
          simp only [reduceCtorEq, and_false, false_or]
        | none =>
          rw [hold] at hafter
          -- the new record has the observer that the user has just made
          have hmade : (w.request process user link request).2.made new = (user == .frontEnd) :=
            Host.made_new hnew process user link (hmakers user w.makers)
          have hnone : ¬w.Holds process own k := by
            rintro ⟨record, hrecord, -⟩
            rw [hold] at hrecord
            cases hrecord
          simp only [hnone, or_false, and_true]
          rw [Host.Holds, hafter]
          constructor
          · rintro ⟨record, hrecord, hmaker⟩
            cases hrecord
            exact fun hown => beq_iff_eq.mp (hmade.symm.trans (hmaker hown))
          · intro huser
            exact ⟨new, rfl, fun hown => hmade.trans (beq_iff_eq.mpr (huser hown))⟩
  · rw [hsame hafter]
    simp only [hreach, false_and, and_false, not_false_eq_true, and_true, false_or]

/-- A registration that is answered with success. -/
theorem host_add_success_iff {link : Pair → Link} (isUpdate : Bool) (w : Host P) :
    ((hostManager P process link).addStateObserver k isUpdate w).1 = .telephonySuccess ↔
      w.remote.Reaches (link k) ∧ Checked P (link k).env (k.eventType.toUint32t P) :=
  w.remote.register_success_iff (link k) _

/-- What it leaves: the registration that is there, or a new one, if the gates that answer with
success let it pass and nobody in the process has one. -/
theorem host_holds_add_iff {link : Pair → Link} (isUpdate : Bool) (h : w.Sound process)
    (hreach : w.remote.Reaches (link k))
    (hchecked : Checked P (link k).env (k.eventType.toUint32t P)) :
    ((hostManager P process link).addStateObserver k isUpdate w).2.Holds process own k ↔
      (silentGates P (link k).env k.slotId = true ∧ w.record process k = none) ∨
        w.Holds process own k := by
  let r := process.registration P w.makers.length k isUpdate
  have hadm : r.admitted P (link k).env ↔ silentGates P (link k).env k.slotId = true :=
    (process.admitted_iff _ k isUpdate _).trans (and_iff_right hchecked)
  have hstores : (Op.register r : Op P).stores (link k).env (process.key P k) =
      silentGates P (link k).env k.slotId := by
    rw [Bool.eq_iff_iff, ← hadm]
    exact decide_eq_true_iff.trans (and_iff_left rfl)
  refine (Host.holds_request h .frontEnd (link k) (.addStateObserver k.slotId
    (k.eventType.toUint32t P) isUpdate)).trans ?_
  change (_ ∧ _ ∧ (Op.register r : Op P).stores _ _ = true ∧ _) ∨ _ ↔ _
  rw [hstores]
  simp only [hreach, implies_true, true_and, Op.removes, ClientRequest.op, Bool.false_eq_true,
    and_false, not_false_eq_true, and_true]

private theorem Host.holds_request_of_ne {j : Pair} (h : w.Sound process) {link : Link}
    {request : ClientRequest}
    (hother : ∀ o, (request.op P process o).stores link.env (process.key P j) = false ∧
      (request.op P process o).removes link.env (process.key P j) = false) :
    (w.request process .frontEnd link request).2.Holds process own j ↔ w.Holds process own j := by
  obtain ⟨hstores, hremoves⟩ := hother w.makers.length
  refine (Host.holds_request h .frontEnd link request).trans ?_
  simp only [hstores, hremoves, Bool.false_eq_true, false_and, and_false, false_or,
    not_false_eq_true, and_true]

theorem host_holds_add_of_ne {link : Pair → Link} {j : Pair} (h : w.Sound process) (hne : j ≠ k)
    (isUpdate : Bool) :
    ((hostManager P process link).addStateObserver k isUpdate w).2.Holds process own j ↔
      w.Holds process own j := by
  refine Host.holds_request_of_ne h fun o => ⟨decide_eq_false ?_, rfl⟩
  exact fun hr => hne (process.key_injective hr.2.symm)

theorem host_holds_remove_of_ne {link : Pair → Link} {j : Pair} (h : w.Sound process)
    (hne : j ≠ k) :
    ((hostManager P process link).removeStateObserver k w).2.Holds process own j ↔
      w.Holds process own j := by
  refine Host.holds_request_of_ne h fun o => ⟨rfl, decide_eq_false ?_⟩
  exact fun hr => hne (process.key_injective hr.2.symm)

/-- A service with no other records of the process. -/
theorem Host.Sound.remote (h : w.Sound process) {remote : Remote P}
    (hkeyed : ∀ i s, remote.service = some (i, s) → s.WellKeyed)
    (hrecord : ∀ k record, ({ w with remote } : Host P).record process k = some record →
      w.record process k = some record) : ({ w with remote } : Host P).Sound process where
  wellKeyed := hkeyed
  known k record hr := h.known k record (hrecord k record hr)

/-- The records of a process are those of the live incarnation. -/
theorem Host.record_congr {remote : Remote P} (hservice : remote.service = w.remote.service) :
    ({ w with remote } : Host P).record process k = w.record process k := by
  rw [Host.record, Host.record, hservice]

theorem Host.record_serves (h : w.Sound process) (env : Env) (op : ForeignOp P process) :
    ({ w with remote := w.remote.serves env op.val } : Host P).record process k =
      w.record process k := by
  rw [Host.record, Host.record, Remote.serves]
  cases hs : w.remote.service with
  | none => rfl
  | some t =>
    obtain ⟨hstores, hremoves⟩ := Op.foreign_key op.property env k
    exact registered_run_of_ne (h.wellKeyed t.1 t.2 hs) hstores hremoves

theorem Host.record_restarted :
    ({ w with remote := w.remote.restarted } : Host P).record process k = w.record process k := by
  rw [Host.record, Host.record, Remote.restarted]
  cases hs : w.remote.service with
  | none => rfl
  | some t =>
    rw [Option.bind_some]
    simp only [hs, Option.bind_some]

theorem Remote.onRemoteDied_service (remote : Option Nat) (w : Remote P) :
    (w.onRemoteDied remote).service = w.service := by
  unfold Remote.onRemoteDied
  split
  · rfl
  · split
    · rfl
    · split <;> rfl

theorem Host.Sound.serves (h : w.Sound process) (env : Env) (op : ForeignOp P process) :
    ({ w with remote := w.remote.serves env op.val } : Host P).Sound process := by
  refine h.remote ?_ fun k record hr => (Host.record_serves h env op).symm.trans hr
  intro j t ht
  obtain ⟨⟨i, s⟩, hs, heq⟩ := Option.map_eq_some_iff.mp ht
  cases heq
  exact (h.wellKeyed _ s hs).next (env, op.val)

theorem Host.Sound.restarted (h : w.Sound process) :
    ({ w with remote := w.remote.restarted } : Host P).Sound process := by
  refine h.remote ?_ fun k record hr => Host.record_restarted.symm.trans hr
  unfold Remote.restarted
  split
  · exact h.wellKeyed
  · intro i s hs
    cases hs
    exact List.nodup_nil

theorem Host.Sound.died (h : w.Sound process) :
    ({ w with remote := w.remote.died } : Host P).Sound process :=
  h.remote (fun i s hs => by cases hs) fun k record hr => by cases hr

theorem Host.Sound.onRemoteDied (h : w.Sound process) (remote : Option Nat) :
    ({ w with remote := w.remote.onRemoteDied remote } : Host P).Sound process := by
  have hservice := Remote.onRemoteDied_service remote w.remote
  refine h.remote (fun i s hs => h.wellKeyed i s (hservice.symm.trans hs)) fun k record hr => ?_
  exact (Host.record_congr hservice).symm.trans hr

/-- The registrations depend on the records of the process. -/
theorem Host.holds_congr {remote : Remote P}
    (h : ({ w with remote } : Host P).record process k = w.record process k) :
    ({ w with remote } : Host P).Holds process own k ↔ w.Holds process own k := by
  rw [Host.Holds, Host.Holds, h]
  rfl

end TelephonyStateRegistry
