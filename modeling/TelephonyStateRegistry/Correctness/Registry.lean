import TelephonyStateRegistry.Interpretation.Outcome

/-!
# The registry is a map of records

The vector of records is compared with a partial function from keys to records.
The comparison rests on one invariant of all runs from an empty registry: no two
records share their key, so the first match that a removal erases is the only one.
-/

namespace TelephonyStateRegistry

open Reactive

variable {P : Platform}

/-- The map without one key. -/
def eraseKey (registry : KeyMap Key Record) (k : Key) : KeyMap Key Record :=
  fun j => if j = k then none else registry.find? j

/-- One operation on the abstract registry, with the code it must return. The
codes of updates do not depend on the registry alone. -/
def registryStep (P : Platform) (registry : KeyMap Key Record) :
    Call P → KeyMap Key Record × Option ReturnCode
  | (_, .update _) => (registry, none)
  | (env, .register r) =>
    if r.admitted P env then
      match registry.find? r.key with
      | some _ => (registry, some .telephonySuccess)
      | none => (registry.assign r.key r.record, some .telephonySuccess)
    else (registry, some (r.rejection P env))
  | (env, .unregister k) =>
    if Checked P env k.mask then
      match registry.find? k with
      | some _ => (eraseKey registry k, some .telephonySuccess)
      | none => (registry, some .telephonyStateUnregistryDataNotExist)
    else (registry, some (checkCode P env k.mask))

/-- The abstract registry as a machine over the operations of the service. -/
def registryMap (P : Platform) : Mealy (KeyMap Key Record) (Call P) (Option ReturnCode) where
  step := registryStep P

/-- No two records share their key. -/
def Service.WellKeyed (s : Service P) : Prop := UniqueKeys Record.key s.stateRecords

theorem Service.WellKeyed.next {s : Service P} (hs : s.WellKeyed) (call : Call P) :
    ((machine P).next s call).WellKeyed := by
  obtain ⟨env, op⟩ := call
  unfold WellKeyed at hs ⊢
  cases op with
  | update u =>
    rw [machine_next_update, Update.run_stateRecords]
    exact hs
  | register r =>
    rw [machine_next_register, registerStateChange_stateRecords, Registration.recordsAfter]
    split_ifs with hadm hk
    · exact hs
    · have hnone : s.registered r.key = none := by
        simpa only [Bool.not_eq_true, Option.isSome_eq_false_iff, Option.isNone_iff_eq_none]
          using hk
      exact hs.append (Service.registered_eq_none.mp hnone)
    · exact hs
  | unregister k =>
    rw [machine_next_unregister, unregisterStateChange_stateRecords]
    split_ifs
    · rw [hs.eraseP_eq_filter]
      exact hs.filter _
    · exact hs

/-- Every run keeps the keys different. -/
theorem Service.WellKeyed.run {s : Service P} (hs : s.WellKeyed) (calls : List (Call P)) :
    ((machine P).run s calls).WellKeyed :=
  (machine P).invariant (fun _ call hs => hs.next call) hs calls

/-- The vector holds exactly the records of the abstract registry. -/
def Service.Represents (s : Service P) (registry : KeyMap Key Record) : Prop :=
  s.WellKeyed ∧ ∀ k, s.registered k = registry.find? k

/-- What an operation may do to the registry, and the code that tells so. -/
def RegistryLaw (env : Env) (s s' : Service P) (result : ReturnCode) : Op P → Prop
  | .update _ => s'.stateRecords = s.stateRecords
  | .register r =>
    (r.admitted P env → result = .telephonySuccess ∧
      (s.registered r.key = none → s'.stateRecords = s.stateRecords ++ [r.record]) ∧
      (s.registered r.key ≠ none → s'.stateRecords = s.stateRecords)) ∧
    (¬r.admitted P env → s'.stateRecords = s.stateRecords)
  | .unregister k =>
    (result = .telephonySuccess ↔ Checked P env k.mask ∧ s.registered k ≠ none) ∧
    (result = .telephonyStateUnregistryDataNotExist ↔
      Checked P env k.mask ∧ s.registered k = none) ∧
    (result = .telephonySuccess → ∃ before record after,
      s.stateRecords = before ++ record :: after ∧ record.key = k ∧
        s'.stateRecords = before ++ after ∧ s'.registered k = none) ∧
    (result ≠ .telephonySuccess → s'.stateRecords = s.stateRecords)

private theorem register_law (s : Service P) (env : Env) (r : Registration) :
    RegistryLaw env s (registerStateChange env r s).1 (registerStateChange env r s).2.result
      (.register r) := by
  constructor
  · intro hadm
    refine ⟨?_, ?_, ?_⟩
    · obtain ⟨c', hrun, -⟩ := registerStateChange_replays hadm s
      rw [hrun]
    · intro hk
      rw [registerStateChange_stateRecords, if_pos hadm, Registration.recordsAfter, hk]
      rfl
    · intro hk
      rw [registerStateChange_stateRecords, if_pos hadm, Registration.recordsAfter,
        if_pos (Option.isSome_iff_ne_none.mpr hk)]
  · intro hadm
    rw [registerStateChange_stateRecords, if_neg hadm]

private theorem erase_first {s : Service P} (hs : s.WellKeyed) {k : Key}
    (hk : s.registered k ≠ none) :
    ∃ before record after, s.stateRecords = before ++ record :: after ∧ record.key = k ∧
      (s.stateRecords.eraseP fun record => decide (record.key = k)) = before ++ after ∧
      lookup Record.key (s.stateRecords.eraseP fun record => decide (record.key = k)) k =
        none := by
  obtain ⟨record, hrecord⟩ := Option.ne_none_iff_exists'.mp hk
  obtain ⟨hmem, hkey⟩ := Service.mem_of_registered hrecord
  obtain ⟨x, before, after, -, hx, hsplit, herase⟩ :=
    List.exists_of_eraseP (p := fun record : Record => decide (record.key = k)) hmem
      (decide_eq_true hkey)
  refine ⟨before, x, after, hsplit, of_decide_eq_true hx, herase, ?_⟩
  rw [hs.eraseP_eq_filter, lookup_filter_ne, if_pos rfl]

private theorem unregister_law {s : Service P} (hs : s.WellKeyed) (env : Env) (k : Key) :
    RegistryLaw env s (unregisterStateChange env k s).1 (unregisterStateChange env k s).2.result
      (.unregister k) := by
  by_cases hc : Checked P env k.mask
  · cases hk : s.registered k with
    | none =>
      have habsent : (s.stateRecords.eraseP fun record => decide (record.key = k)) =
          s.stateRecords := by
        apply List.eraseP_of_forall_not
        intro record hr hkey
        apply Service.registered_eq_none.mp hk
        exact List.mem_map.mpr ⟨record, hr, of_decide_eq_true hkey⟩
      simp only [RegistryLaw, unregisterStateChange_of_checked hc, hk, Option.isSome_none,
        Bool.false_eq_true, if_false, Output.code, hc, true_and, ne_eq, not_true_eq_false,
        reduceCtorEq, false_imp_iff, habsent, implies_true, and_self]
    | some record =>
      obtain ⟨before, x, after, hsplit, hx, herase, hnone⟩ :=
        erase_first hs (hk ▸ Option.some_ne_none record)
      simp only [RegistryLaw, unregisterStateChange_of_checked hc, hk, Option.isSome_some,
        if_true, Output.code, hc, true_and, ne_eq, reduceCtorEq, not_false_eq_true,
        true_imp_iff, not_true_eq_false, false_imp_iff, and_true, iff_self]
      exact ⟨before, x, after, hsplit, hx, herase, hnone⟩
  · obtain ⟨hsuccess, habsent⟩ := checkCode_ne (P := P) env k.mask
    simp only [RegistryLaw, unregisterStateChange_of_not_checked hc, Output.code, hc, false_and,
      hsuccess, habsent, not_false_eq_true, false_imp_iff, ne_eq, implies_true,
      and_self]

/-- Every operation obeys the law in a state without repeated keys. -/
theorem Service.WellKeyed.law {s : Service P} (hs : s.WellKeyed) (env : Env) (op : Op P) :
    RegistryLaw env s ((machine P).next s (env, op)) ((machine P).out s (env, op)).result op := by
  cases op with
  | update u => exact u.run_stateRecords env s
  | register r => exact register_law s env r
  | unregister k => exact unregister_law hs env k

/-- A checked removal takes exactly its own key away. -/
theorem Service.WellKeyed.registered_unregister {s : Service P} (hs : s.WellKeyed) (env : Env)
    (k j : Key) :
    (unregisterStateChange env k s).1.registered j =
      if Checked P env k.mask ∧ j = k then none else s.registered j := by
  unfold Service.registered
  rw [unregisterStateChange_stateRecords]
  by_cases hc : Checked P env k.mask
  · simp only [hc, if_true, true_and]
    rw [hs.eraseP_eq_filter, lookup_filter_ne]
  · simp only [hc, false_and, if_false]

private theorem find?_registryMap_register (registry : KeyMap Key Record) (env : Env)
    (r : Registration) (k : Key) :
    ((registryMap P).next registry (env, .register r)).find? k =
      if r.admitted P env ∧ k = r.key then some ((registry.find? r.key).getD r.record)
      else registry.find? k := by
  simp only [Mealy.next, registryMap, registryStep]
  by_cases hadm : r.admitted P env
  · simp only [hadm, if_true, true_and]
    cases hk : registry.find? r.key with
    | none => exact KeyMap.find?_assign registry r.key k r.record
    | some record =>
      by_cases hkey : k = r.key
      · rw [if_pos hkey, hkey]
        exact hk
      · rw [if_neg hkey]
  · simp only [hadm, false_and, if_false]

private theorem find?_registryMap_unregister (registry : KeyMap Key Record) (env : Env)
    (k j : Key) :
    ((registryMap P).next registry (env, .unregister k)).find? j =
      if Checked P env k.mask ∧ j = k then none else registry.find? j := by
  simp only [Mealy.next, registryMap, registryStep]
  by_cases hc : Checked P env k.mask
  · simp only [hc, if_true, true_and]
    cases hk : registry.find? k with
    | none =>
      by_cases hkey : j = k
      · rw [if_pos hkey, hkey]
        exact hk
      · rw [if_neg hkey]
    | some record => rfl
  · simp only [hc, false_and, if_false]

/-- One operation keeps the vector and the abstract registry together. -/
theorem Service.Represents.next {s : Service P} {registry : KeyMap Key Record}
    (h : s.Represents registry) (call : Call P) :
    ((machine P).next s call).Represents ((registryMap P).next registry call) := by
  obtain ⟨hs, hmap⟩ := h
  refine ⟨hs.next call, ?_⟩
  intro j
  obtain ⟨env, op⟩ := call
  cases op with
  | update u =>
    rw [machine_next_update, Service.registered, Update.run_stateRecords]
    exact hmap j
  | register r =>
    rw [machine_next_register, registered_register, find?_registryMap_register,
      Registration.subscriber, hmap, hmap]
  | unregister k =>
    rw [machine_next_unregister, hs.registered_unregister, find?_registryMap_unregister, hmap]

/-- One operation returns the code that the abstract registry demands. -/
theorem Service.Represents.result {s : Service P} {registry : KeyMap Key Record}
    (h : s.Represents registry) (call : Call P) {code : ReturnCode}
    (hcode : (registryMap P).out registry call = some code) :
    ((machine P).out s call).result = code := by
  obtain ⟨hs, hmap⟩ := h
  obtain ⟨env, op⟩ := call
  cases op with
  | update u => cases hcode
  | register r =>
    simp only [Mealy.out, registryMap, registryStep] at hcode
    by_cases hadm : r.admitted P env
    · rw [((hs.law env (.register r)).1 hadm).1]
      rw [if_pos hadm] at hcode
      split at hcode <;> exact Option.some.inj hcode
    · rw [if_neg hadm] at hcode
      rw [machine_out_register, registerStateChange_of_not_admitted hadm]
      exact Option.some.inj hcode
  | unregister k =>
    simp only [Mealy.out, registryMap, registryStep, ← hmap k] at hcode
    rw [machine_out_unregister]
    by_cases hc : Checked P env k.mask
    · rw [if_pos hc] at hcode
      rw [unregisterStateChange_of_checked hc]
      cases hk : s.registered k <;> rw [hk] at hcode <;> exact Option.some.inj hcode
    · rw [if_neg hc] at hcode
      rw [unregisterStateChange_of_not_checked hc]
      exact Option.some.inj hcode

/-- **The registry refines a map of records.** In every run from an empty
registry the keys stay different, the vector and the abstract registry hold the
same records and demand the same codes, and the next operation obeys the law. -/
theorem registry_refines_map (caches : Caches P) (calls : List (Call P)) :
    ((machine P).run ⟨caches, []⟩ calls).Represents ((registryMap P).run .empty calls) ∧
      List.Forall₂ (fun (out : Output P) code => ∀ c ∈ code, out.result = c)
        ((machine P).outs ⟨caches, []⟩ calls) ((registryMap P).outs .empty calls) ∧
      ∀ env op, RegistryLaw env ((machine P).run ⟨caches, []⟩ calls)
        ((machine P).run ⟨caches, []⟩ (calls ++ [(env, op)]))
        ((machine P).out ((machine P).run ⟨caches, []⟩ calls) (env, op)).result op := by
  have hinit : (⟨caches, []⟩ : Service P).Represents .empty :=
    ⟨List.nodup_nil, fun _ => rfl⟩
  have hstep : ∀ (s : Service P) registry (call call' : Call P), s.Represents registry →
      call = call' → ((machine P).next s call).Represents ((registryMap P).next registry call') ∧
        ∀ c ∈ (registryMap P).out registry call', ((machine P).out s call).result = c := by
    rintro s registry call _ hs rfl
    exact ⟨hs.next call, fun _ => hs.result call⟩
  obtain ⟨hrun, houts⟩ := (machine P).simulation (N := registryMap P)
    (W := fun out code => ∀ c ∈ code, out.result = c) hstep hinit (List.forall₂_refl calls)
  refine ⟨hrun, houts, ?_⟩
  intro env op
  rw [Mealy.run_concat]
  exact hrun.1.law env op

end TelephonyStateRegistry
