import TelephonyStateRegistry.Interpretation.Live
import TelephonyStateRegistry.Interpretation.Replay
import TelephonyStateRegistry.Service.Run

/-!
# The outcome of one operation

What one operation of a sequential run can do to the registry and to the
cached callbacks, which callbacks it can make and which events it can publish.
Every invariant over runs is derived from these lemmas.
-/

namespace TelephonyStateRegistry

open Reactive

variable {P : Platform}

@[simp] theorem Update.run_stateRecords (u : Update P) (env : Env) (s : Service P) :
    (u.function.run env s).1.stateRecords = s.stateRecords := by
  by_cases h : u.accepted env
  · rw [Update.run_of_accepted h]
    rfl
  · obtain ⟨result, -, hrun⟩ := Update.run_of_rejected h s
    rw [hrun]

/-- A stored record comes from the registry before the call, or is the record
of the admitted registration that the call is. -/
theorem mem_next_stateRecords {s : Service P} {env : Env} {op : Op P} {record : Record}
    (h : record ∈ ((machine P).next s (env, op)).stateRecords) :
    record ∈ s.stateRecords ∨ ∃ r, op = .register r ∧ r.admitted P env ∧ record = r.record := by
  cases op with
  | update u =>
    rw [machine_next_update, Update.run_stateRecords] at h
    exact Or.inl h
  | register r =>
    rw [machine_next_register, registerStateChange_stateRecords] at h
    by_cases hadm : r.admitted P env
    · rw [if_pos hadm, Registration.recordsAfter] at h
      split at h
      · exact Or.inl h
      · rcases List.mem_append.mp h with h | h
        · exact Or.inl h
        · exact Or.inr ⟨r, rfl, hadm, List.mem_singleton.mp h⟩
    · rw [if_neg hadm] at h
      exact Or.inl h
  | unregister k =>
    rw [machine_next_unregister, unregisterStateChange_stateRecords] at h
    split at h
    · exact Or.inl (List.mem_of_mem_eraseP h)
    · exact Or.inl h

/-- A call that is not a successful removal of a key. -/
def KeepsKey (k : Key) (s : Service P) (call : Call P) : Prop :=
  ∀ env, call = (env, .unregister k) →
    (unregisterStateChange env k s).2.result ≠ .telephonySuccess

/-- A stored record stays under its key until the key is successfully removed;
in particular no registration replaces it. -/
theorem registered_next {s : Service P} {k : Key} {record : Record}
    (h : s.registered k = some record) {call : Call P} (hk : KeepsKey k s call) :
    ((machine P).next s call).registered k = some record := by
  obtain ⟨env, op⟩ := call
  cases op with
  | update u =>
    rw [machine_next_update, Service.registered, Update.run_stateRecords]
    exact h
  | register r =>
    rw [machine_next_register, registered_register]
    split
    · rename_i hr
      rw [Registration.subscriber, ← hr.2, h, Option.getD_some]
    · exact h
  | unregister j =>
    rw [machine_next_unregister, registered_unregister_of_ne, h]
    rintro rfl
    exact hk env rfl

theorem registered_run {s : Service P} {k : Key} {record : Record}
    (h : s.registered k = some record) {calls : List (Call P)}
    (hk : (machine P).Along (KeepsKey k) s calls) :
    ((machine P).run s calls).registered k = some record :=
  (machine P).invariant_along (I := fun s => s.registered k = some record)
    (fun _ _ hk h => registered_next h hk) h hk

/-- A callback is made by the loop of an accepted update on a stored record, or
by the replay of an admitted registration on the record under its key. -/
theorem mem_out_deliveries {s : Service P} {env : Env} {op : Op P} {d : Delivery P}
    (h : d ∈ ((machine P).out s (env, op)).deliveries) :
    (∃ u, op = .update u ∧ u.accepted env ∧ d.record ∈ s.stateRecords ∧
      u.live env (u.function.write s.caches) d.record = some d.callback) ∨
    ∃ r, op = .register r ∧ r.admitted P env ∧ d ∈ r.replay env s := by
  cases op with
  | update u =>
    rw [machine_out_update] at h
    by_cases hacc : u.accepted env
    · rw [Update.run_of_accepted hacc] at h
      obtain ⟨hr, hc⟩ := mem_deliveriesOf.mp h
      exact Or.inl ⟨u, rfl, hacc, hr, hc⟩
    · obtain ⟨result, -, hrun⟩ := Update.run_of_rejected hacc s
      rw [hrun] at h
      cases h
  | register r =>
    rw [machine_out_register] at h
    by_cases hadm : r.admitted P env
    · obtain ⟨c', hrun, -⟩ := registerStateChange_replays hadm s
      rw [hrun] at h
      exact Or.inr ⟨r, rfl, hadm, h⟩
    · rw [registerStateChange_of_not_admitted hadm] at h
      cases h
  | unregister k =>
    rw [machine_out_unregister] at h
    by_cases hc : Checked P env k.mask
    · rw [unregisterStateChange_of_checked hc] at h
      cases h
    · rw [unregisterStateChange_of_not_checked hc] at h
      cases h

/-- An accepted update calls every stored record for which it has a callback. -/
theorem mem_run_deliveries {u : Update P} {env : Env} (hacc : u.accepted env) {s : Service P}
    {record : Record} (hr : record ∈ s.stateRecords) {callback : Callback P}
    (hc : u.live env (u.function.write s.caches) record = some callback) :
    ⟨record, callback⟩ ∈ (u.function.run env s).2.deliveries := by
  rw [Update.run_of_accepted hacc]
  exact mem_deliveriesOf.mpr ⟨hr, hc⟩

/-- Whatever makes a callback, its record listens for it and has an observer. -/
theorem listensTo_of_mem_out {s : Service P} {call : Call P} {d : Delivery P}
    (h : d ∈ ((machine P).out s call).deliveries) :
    d.record.listensTo P d.callback.event = true := by
  rcases mem_out_deliveries h with ⟨u, -, -, -, hlive⟩ | ⟨r, -, -, hd⟩
  · exact (Update.live_eq_some hlive).1
  · exact (Registration.mem_replay.mp hd).2.2.2.1

/-- The observer that a callback is made on belongs to a record that is stored
after the call. -/
theorem mem_stateRecords_of_mem_out {s : Service P} {call : Call P} {d : Delivery P}
    (h : d ∈ ((machine P).out s call).deliveries) :
    d.record ∈ ((machine P).next s call).stateRecords := by
  obtain ⟨env, op⟩ := call
  rcases mem_out_deliveries h with ⟨u, rfl, -, hr, -⟩ | ⟨r, rfl, hadm, hd⟩
  · rw [machine_next_update, Update.run_stateRecords]
    exact hr
  · rw [machine_next_register, registerStateChange_stateRecords, if_pos hadm,
      (Registration.mem_replay.mp hd).2.1]
    exact r.subscriber_mem s

/-- What a call reports on a topic: the payload of an accepted update. -/
def Call.report (m : ObserverMask) (slotId : Int) : Call P → Option (Callback P)
  | (env, .update u) => if u.accepted env then u.report m slotId else none
  | (_, .register _) | (_, .unregister _) => none

/-- A call that, if it is an accepted update, reports a network state that survives its copy. -/
def Call.CopiedFaithfully (call : Call P) : Prop :=
  ∀ u, call.2 = .update u → u.accepted call.1 → u.CopiedFaithfully

/-- One call replaces exactly the cached callbacks that it reports. -/
theorem next_cached {m : ObserverMask} {call : Call P}
    (hcopy : m = .networkState → Call.CopiedFaithfully call) (s : Service P) (slotId : Int) :
    ((machine P).next s call).caches.cached m slotId =
      (Call.report m slotId call).or (s.caches.cached m slotId) := by
  obtain ⟨env, op⟩ := call
  cases op with
  | update u =>
    rw [machine_next_update, Call.report]
    by_cases hacc : u.accepted env
    · rw [Update.run_of_accepted hacc, if_pos hacc]
      exact u.write_cached (fun hm => hcopy hm u rfl hacc) s.caches slotId
    · obtain ⟨result, -, hrun⟩ := Update.run_of_rejected hacc s
      rw [hrun, if_neg hacc, Option.none_or]
  | register r =>
    exact Caches.cached_congr (registerStateChange_total env r s) m slotId
  | unregister k =>
    rw [machine_next_unregister, unregisterStateChange_caches]
    rfl

/-- After a run the cached callback is the last one reported on the topic. -/
theorem cached_run {m : ObserverMask} {calls : List (Call P)}
    (hcopy : m = .networkState → ∀ call ∈ calls, Call.CopiedFaithfully call) (s : Service P)
    (slotId : Int) :
    ((machine P).run s calls).caches.cached m slotId =
      (lastOf (Call.report m slotId) calls).or (s.caches.cached m slotId) := by
  have hcopy' : ∀ call ∈ calls, m = .networkState → Call.CopiedFaithfully call :=
    fun call hmem hnet => hcopy hnet call hmem
  apply (machine P).observe_run_along (v := fun s => s.caches.cached m slotId) ?_
    ((machine P).along_of_mem hcopy' s)
  intro s call hcall
  exact next_cached hcall s slotId

end TelephonyStateRegistry
