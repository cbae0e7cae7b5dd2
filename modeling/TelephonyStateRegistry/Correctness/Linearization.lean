import TelephonyStateRegistry.Concurrent.Reports

/-!
# The order of the exclusive sections

Between the two sections of an update the calls of other threads come in, and
many shared sections may run at once. One of them reads the number of a call
through the inserting subscript, which would be a write under a shared lock. The
key was assigned in the exclusive section of the same update, though, and no key
ever goes away: a shared section changes nothing. So the calls take effect in the
order of their exclusive sections.
-/

namespace TelephonyStateRegistry

open Reactive

variable {P : Platform}

/-- The call whose exclusive section a step is. -/
def AtomicStep.call : AtomicStep P → Option (Call P)
  | write env u => some (env, .update u)
  | notify _ _ => none
  | register env r => some (env, .register r)
  | unregister env k => some (env, .unregister k)

/-- The subscript for the number of a slot finds its key. -/
def Caches.HasNumber (c : Caches P) (slotId : Int) : Prop :=
  c.callIncomingNumber.find? slotId ≠ none

/-- Every update under way finds the keys that its shared section reads. -/
def System.KeysPresent (s : System P) : Prop :=
  ∀ slotId state number, Update.callStateForSlotId slotId state number ∈ s.pending →
    s.service.caches.HasNumber slotId

private theorem find?_touch_ne_none {m : KeyMap Int U16String} {k j : Int}
    (h : m.find? j ≠ none) : (m.touch k).find? j ≠ none := by
  rw [KeyMap.find?_touch]
  split
  · exact Option.some_ne_none _
  · exact h

private theorem find?_assign_ne_none {m : KeyMap Int U16String} {k j : Int} {v : U16String}
    (h : m.find? j ≠ none) : (m.assign k v).find? j ≠ none := by
  rw [KeyMap.find?_assign]
  split
  · exact Option.some_ne_none _
  · exact h

section Caches

variable {c : Caches P} {slotId : Int}

private theorem hasNumber_replayBlock (h : c.HasNumber slotId) (env : Env) (record : Record)
    (m : ObserverMask) : (replayBlock env record m c).2.HasNumber slotId := by
  cases m with
  | callState =>
    simp only [replayBlock, getCallIncomingNumberForSlotId]
    split
    · exact find?_touch_ne_none h
    · exact h
  | ccallState =>
    simp only [replayBlock]
    split
    · exact find?_touch_ne_none h
    · exact h
  | _ => exact h

private theorem hasNumber_replayBlocks (h : c.HasNumber slotId) (env : Env) (record : Record)
    (ms : List ObserverMask) : (replayBlocks env record ms c).2.HasNumber slotId := by
  induction ms generalizing c with
  | nil => exact h
  | cons m ms ih =>
    rw [replayBlocks]
    split
    · exact ih (hasNumber_replayBlock h env record m)
    · exact ih h

private theorem hasNumber_updateData (h : c.HasNumber slotId) (env : Env) (record : Record) :
    (updateData env record c).2.HasNumber slotId := by
  rw [updateData]
  split
  · exact h
  · have hfirst := hasNumber_replayBlocks h env record updateDataOrder
    simp only [updateDataEx]
    split
    · exact hfirst
    · exact hasNumber_replayBlocks hfirst env record updateDataExOrder

private theorem hasNumber_write (h : c.HasNumber slotId) (u : Update P) :
    (u.function.write c).HasNumber slotId := by
  cases u with
  | callState state number => exact find?_assign_ne_none h
  | callStateForSlotId slotId state number => exact find?_assign_ne_none h
  | _ => exact h

private theorem hasNumber_own (c : Caches P) (slotId state : Int) (number : U16String) :
    ((Update.callStateForSlotId slotId state number : Update P).function.write c).HasNumber
      slotId := by
  rw [Caches.HasNumber]
  change (c.callIncomingNumber.assign slotId number).find? slotId ≠ none
  rw [KeyMap.find?_assign_self]
  exact Option.some_ne_none _

end Caches

private theorem hasNumber_register {s : Service P} {slotId : Int} (h : s.caches.HasNumber slotId)
    (env : Env) (r : Registration) : (registerStateChange env r s).1.caches.HasNumber slotId := by
  by_cases hadm : r.admitted P env
  · rw [registerStateChange_of_admitted hadm]
    split
    · exact hasNumber_updateData h env (r.subscriber s)
    · exact h
  · rw [registerStateChange_of_not_admitted hadm]
    exact h

private theorem notify_service {s : System P} (h : s.KeysPresent) {u : Update P}
    (hu : u ∈ s.pending) (env : Env) :
    u.function.notify env s.service = (s.service,
      ⟨resultOf (u.deliveries env s.service), u.deliveries env s.service, u.events⟩) := by
  obtain ⟨c', hrun, hc'⟩ := u.notify_spec env s.service
  have hsame : c' = s.service.caches := by
    rcases hc' with rfl | ⟨slotId, state, number, rfl, rfl⟩
    · rfl
    · obtain ⟨value, hvalue⟩ := Option.ne_none_iff_exists'.mp (h slotId state number hu)
      rw [Caches.touchNumber, KeyMap.touch_of_present hvalue]
  rw [hrun, hsame]

private theorem next_service {s : System P} (h : s.KeysPresent) (step : AtomicStep P) :
    ((interleaving P).next s step).service =
      step.call.elim s.service ((machine P).next s.service) := by
  cases step with
  | write env u =>
    rw [AtomicStep.call, Option.elim_some, machine_next_update, LockedUpdate.run]
    change (System.step s (.write env u)).1.service = _
    rw [System.step]
    cases hguard : u.function.guard env with
    | none => exact (congrArg Prod.fst (u.notify_writeTo env s.service)).symm
    | some result => rfl
  | notify env i =>
    change (System.step s (.notify env i)).1.service = s.service
    rw [System.step]
    cases hi : s.pending[i]? with
    | none => rfl
    | some u =>
      exact congrArg Prod.fst (notify_service h (List.mem_of_getElem? hi) env)
  | register env r => rfl
  | unregister env k => rfl

private theorem next_keysPresent {s : System P} (h : s.KeysPresent) (step : AtomicStep P) :
    ((interleaving P).next s step).KeysPresent := by
  intro slotId state number hmem
  rw [next_service h step]
  rcases (happens s step).mem_pending hmem with hold | ⟨env, hstep, hacc⟩
  · have hkey := h slotId state number hold
    cases step with
    | write env u =>
      rw [AtomicStep.call, Option.elim_some, machine_next_update]
      by_cases hacc : u.accepted env
      · rw [Update.run_of_accepted hacc]
        exact hasNumber_write hkey u
      · obtain ⟨result, -, hrun⟩ := Update.run_of_rejected hacc s.service
        rw [hrun]
        exact hkey
    | notify env i => exact hkey
    | register env r => exact hasNumber_register hkey env r
    | unregister env k =>
      rw [AtomicStep.call, Option.elim_some, machine_next_unregister, unregisterStateChange_caches]
      exact hkey
  · obtain rfl := List.mem_singleton.mp hstep
    rw [AtomicStep.call, Option.elim_some, machine_next_update, Update.run_of_accepted hacc]
    exact hasNumber_own s.service.caches slotId state number

private theorem keysPresent_after (steps : List (AtomicStep P)) :
    (System.after P steps).KeysPresent :=
  (interleaving P).invariant (I := System.KeysPresent) (fun _ step h => next_keysPresent h step)
    (fun _ _ _ hmem => by cases hmem) steps

/-- What a step outputs over a service and the updates under way: a call that
returns with its exclusive section, or without one, what it does in a sequential
run, and a shared section what the loop of its update does over that service. -/
def AtomicStep.Outputs (s : Service P) (pending : List (Update P)) (output : Output P) :
    AtomicStep P → Prop
  | notify env i => ∃ u, pending[i]? = some u ∧
    output = ⟨resultOf (u.deliveries env s), u.deliveries env s, u.events⟩
  | write env u => ¬u.accepted env ∧ output = (machine P).out s (env, .update u)
  | register env r => output = (machine P).out s (env, .register r)
  | unregister env k => output = (machine P).out s (env, .unregister k)

private theorem out_outputs {s : System P} (h : s.KeysPresent) {step : AtomicStep P}
    {output : Output P} (hout : ((interleaving P).out s step).output = some output) :
    step.Outputs s.service s.pending output := by
  cases step with
  | write env u =>
    change (System.step s (.write env u)).2.output = some output at hout
    rw [System.step] at hout
    cases hguard : u.function.guard env with
    | none =>
      rw [hguard] at hout
      cases hout
    | some result =>
      rw [hguard] at hout
      have hacc : ¬u.accepted env := fun hacc => by cases hguard.symm.trans hacc
      refine ⟨hacc, ?_⟩
      rw [machine_out_update, LockedUpdate.run, hguard]
      exact (Option.some.inj hout).symm
  | notify env i =>
    change (System.step s (.notify env i)).2.output = some output at hout
    rw [System.step] at hout
    cases hi : s.pending[i]? with
    | none =>
      rw [hi] at hout
      cases hout
    | some u =>
      rw [hi] at hout
      have hnotify := notify_service h (List.mem_of_getElem? hi) env
      refine ⟨u, hi, (Option.some.inj hout).symm.trans ?_⟩
      exact congrArg Prod.snd hnotify
  | register env r => exact (Option.some.inj hout).symm
  | unregister env k => exact (Option.some.inj hout).symm

/-- **Calls take effect in the order of their exclusive sections.** After any
interleaving of locked sections the caches, with the keys that are present, and
the registry are those of the sequential run of the same calls in that order, so
a shared section changes nothing; and whatever a call returns or tells observers
it does over the service of that run. -/
theorem calls_linearized (steps : List (AtomicStep P)) :
    (System.after P steps).service = Service.after P (steps.filterMap AtomicStep.call) ∧
      ∀ before step after, steps = before ++ step :: after → ∀ output,
        ((interleaving P).out (System.after P before) step).output = some output →
          step.Outputs (Service.after P (before.filterMap AtomicStep.call))
            (System.after P before).pending output := by
  have hservice (steps : List (AtomicStep P)) : (System.after P steps).service =
      Service.after P (steps.filterMap AtomicStep.call) :=
    (machine P).run_filterMap (v := System.service) (fun _ step h => next_keysPresent h step)
      (fun _ step h => next_service h step) (keysPresent_after []) steps
  refine ⟨hservice steps, ?_⟩
  intro before step after _ output hout
  rw [← hservice before]
  exact out_outputs (keysPresent_after before) hout

end TelephonyStateRegistry
