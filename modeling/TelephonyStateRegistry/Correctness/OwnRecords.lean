import TelephonyStateRegistry.Correctness.SharedClient

/-!
# The records of one process

The service keeps the records of a process under the keys of the pairs that the process
asked for, each once, and with an observer. Nobody else adds or removes them.
-/

namespace TelephonyStateRegistry

open Reactive

variable {P : Platform}

/-- Only the mask of an event has the bit of the event. -/
theorem TelephonyUpdateEventType.eq_of_contains {eventType : TelephonyUpdateEventType}
    {m : ObserverMask} (h : P.contains (eventType.toUint32t P) m = true) :
    eventType = .event m := by
  cases eventType with
  | noneEventType =>
    change P.contains 0#32 m = true at h
    rw [Platform.contains, BitVec.getLsbD_zero] at h
    cases h
  | event n => rw [(P.contains_mask n m).mp h]

/-- What every state of the service keeps of the records of a process. -/
structure Service.KeepsOwn (process : Process) (s : Service P) : Prop where
  wellKeyed : s.WellKeyed
  own : ∀ record ∈ s.stateRecords, record.tokenId = process.tokenId → record.pid = process.pid →
    record.telephonyObserver ≠ none ∧ ∃ k, record.key = process.key P k

/-- An operation that a process makes through its client. -/
def Op.Own (process : Process) (op : Op P) : Prop :=
  (∃ observer k isUpdate, op = .register (process.registration P observer k isUpdate)) ∨
    ∃ k, op = .unregister (process.key P k)

/-- An operation that the process makes itself, or somebody else makes. -/
def Op.Ordinary (process : Process) (op : Op P) : Prop :=
  op.foreign process = true ∨ op.Own process

theorem Service.KeepsOwn.next {process : Process} {s : Service P} (h : s.KeepsOwn process)
    (env : Env) {op : Op P} (hop : op.Ordinary process) : (op.run env s).1.KeepsOwn process where
  wellKeyed := h.wellKeyed.next (env, op)
  own record hrecord htoken hpid := by
    rcases mem_next_stateRecords hrecord with hold | ⟨r, rfl, -, rfl⟩
    · exact h.own record hold htoken hpid
    · rcases hop with hforeign | ⟨observer, k, isUpdate, hr⟩ | ⟨k, hr⟩
      · simp only [Op.foreign, show r.tokenId = process.tokenId from htoken,
          show r.pid = process.pid from hpid, beq_self_eq_true, Bool.and_self, Bool.not_true,
          Bool.false_eq_true] at hforeign
      · cases hr
        exact ⟨Option.some_ne_none observer, k, rfl⟩
      · cases hr

/-- The record under a key stays, unless the process itself removes it. -/
theorem registered_ordinary {process : Process} {s : Service P} {env : Env} {op : Op P}
    {k : Pair} {record : Record} (h : s.registered (process.key P k) = some record)
    (hop : op.Ordinary process) (hne : op ≠ .unregister (process.key P k)) :
    (op.run env s).1.registered (process.key P k) = some record := by
  have hkept : KeepsKey (process.key P k) s (env, op) := by
    rintro env' heq
    cases heq
    exact absurd rfl hne
  exact registered_next h hkept

/-- What every state behind the manager keeps of the records of the process. -/
def Remote.KeepsOwn (process : Process) (w : Remote P) : Prop :=
  ∀ i s, w.service = some (i, s) → s.KeepsOwn process

/-- The service is alive, and has a record under a pair of the process. -/
def Remote.Stores (process : Process) (k : Pair) (record : Record) (w : Remote P) : Prop :=
  ∃ i s, w.service = some (i, s) ∧ s.registered (process.key P k) = some record

section Remote

variable {process : Process} {k : Pair} {record : Record} {w : Remote P}

theorem Remote.KeepsOwn.start : (Remote.start P).KeepsOwn process := by
  intro i s h
  cases h
  exact ⟨List.nodup_nil, fun _ h => absurd h List.not_mem_nil⟩

theorem Remote.KeepsOwn.request (h : w.KeepsOwn process) (link : Link) {op : Op P}
    (hop : op.Ordinary process) : (w.request link op).2.KeepsOwn process := by
  intro j t ht
  rcases w.request_cases link op with ⟨i, s, hs, -, -, hservice⟩ | ⟨-, -, hservice⟩
  · rw [hservice] at ht
    cases ht
    exact (h _ s hs).next link.env hop
  · exact h j t (hservice ▸ ht)

theorem Remote.Stores.request (h : w.Stores process k record) (link : Link) {op : Op P}
    (hop : op.Ordinary process) (hne : op ≠ .unregister (process.key P k)) :
    (w.request link op).2.Stores process k record := by
  obtain ⟨j, t, ht, hrecord⟩ := h
  rcases w.request_cases link op with ⟨i, s, hs, -, -, hservice⟩ | ⟨-, -, hservice⟩
  · rw [ht] at hs
    cases hs
    exact ⟨j, _, hservice, registered_ordinary hrecord hop hne⟩
  · exact ⟨j, t, hservice.trans ht, hrecord⟩

theorem Remote.KeepsOwn.serves (h : w.KeepsOwn process) (env : Env) (op : ForeignOp P process) :
    (w.serves env op.val).KeepsOwn process := by
  intro j t ht
  obtain ⟨⟨i, s⟩, hs, heq⟩ := Option.map_eq_some_iff.mp ht
  cases heq
  exact (h _ s hs).next env (Or.inl op.property)

theorem Remote.Stores.serves (h : w.Stores process k record) (env : Env)
    (op : ForeignOp P process) : (w.serves env op.val).Stores process k record := by
  obtain ⟨i, s, hs, hrecord⟩ := h
  refine ⟨i, (op.val.run env s).1, by rw [Remote.serves, hs]; rfl,
    registered_ordinary hrecord (Or.inl op.property) ?_⟩
  intro hop
  have hforeign := op.property
  rw [hop] at hforeign
  exact Op.key_of_foreign_unregister hforeign k rfl

/-- The service keeps the registrations of a process while it serves others. -/
theorem Remote.holds_serves (h : w.KeepsOwn process) (env : Env) (op : ForeignOp P process) :
    (w.serves env op.val).Holds process k ↔ w.Holds process k := by
  cases hs : w.service with
  | none => exact Remote.holds_congr (by rw [Remote.serves, hs]; rfl)
  | some t =>
    have hafter : (w.serves env op.val).service = some (t.1, (op.val.run env t.2).1) := by
      rw [Remote.serves, hs]
      rfl
    obtain ⟨hstores, hremoves⟩ := Op.foreign_key op.property env k
    rw [Remote.holds_iff (i := t.1) (s := t.2) hs, Remote.holds_iff hafter,
      registered_run_of_ne (h t.1 t.2 hs).wellKeyed hstores hremoves]

/-- A restart brings back no registration. -/
theorem Remote.holds_restarted (w : Remote P) :
    w.restarted.Holds process k ↔ w.Holds process k := by
  unfold Remote.restarted
  split
  · exact Iff.rfl
  · rename_i hs
    refine iff_of_false ?_ ?_
    · rintro ⟨i, t, ht, hr⟩
      cases ht
      exact hr rfl
    · rintro ⟨i, t, ht, -⟩
      rw [hs] at ht
      cases ht

end Remote

end TelephonyStateRegistry
