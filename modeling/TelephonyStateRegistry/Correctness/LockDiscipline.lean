import TelephonyStateRegistry.Service.EntryPoints

/-!
# The lock of the service is not re-acquired

Every entry point takes the lock of the service in scopes one after the other, and
leaves it free. `Dump` is the exception: the report that it writes under the shared
lock asks for the shared lock again at every slot with a SIM card.
-/

namespace TelephonyStateRegistry

open Reactive

variable {P : Platform}

/-- A report has lines about a slot with a SIM card. -/
def SystemAnswers.DumpsSlot (X : SystemAnswers) (P : Platform) : Prop :=
  X.getInstance = true ∧ ∃ slot ∈ dumpedSlots P, X.hasSimCard slot = true

private theorem nonRecursive_query (get : Service P → Int → Int) (slotId : Int) (s : Service P) :
    NonRecursive (query get slotId s).actions := Locked.nonRecursive_holding rfl

private theorem nonRecursive_locked (u : Update P) (env : Env) (s : Service P) :
    NonRecursive (u.locked env s).actions := by
  rw [Update.locked]
  cases u.function.guard env with
  | some result => exact nonRecursive_nil
  | none =>
    cases u.hasExclusiveSection with
    | false => exact Locked.nonRecursive_holding rfl
    | true =>
      refine (nonRecursive_append ?_).mpr (Locked.nonRecursive_holding rfl)
      exact Locked.nonRecursive_holding rfl

private theorem nonRecursive_registerStateChange (env : Env) (r : Registration)
    (s : Service P) : NonRecursive (registerStateChangeLocked env r s).actions := by
  rw [registerStateChangeLocked]
  split_ifs
  · exact nonRecursive_nil
  · exact Locked.nonRecursive_holding rfl

private theorem nonRecursive_unregisterStateChange (env : Env) (k : Key) (s : Service P) :
    NonRecursive (unregisterStateChangeLocked env k s).actions := by
  rw [unregisterStateChangeLocked]
  split_ifs
  · exact nonRecursive_nil
  · exact Locked.nonRecursive_holding rfl

private theorem showSlots_actions (X : EnumConvert) (hasSimCard : Int → Bool) (s : Service P)
    (slots : List Int) :
    ((∀ slot ∈ slots, hasSimCard slot = false) ∧
      (showSlots X hasSimCard s slots).actions = []) ∨
    ((∃ slot ∈ slots, hasSimCard slot = true) ∧ ∃ rest,
      (showSlots X hasSimCard s slots).actions = .acquire .shared :: rest) := by
  induction slots with
  | nil => exact Or.inl ⟨fun _ h => absurd h List.not_mem_nil, rfl⟩
  | cons slot slots ih =>
    rw [showSlots]
    cases hcard : hasSimCard slot with
    | true =>
      refine Or.inr ⟨⟨slot, List.mem_cons_self, hcard⟩, ?_⟩
      exact ⟨_, rfl⟩
    | false =>
      rcases ih with ⟨hnone, hactions⟩ | ⟨⟨other, hmem, hother⟩, rest, hactions⟩
      · refine Or.inl ⟨List.forall_mem_cons.mpr ⟨hcard, hnone⟩, ?_⟩
        simp only [Bool.false_eq_true, if_false, Locked.actions_bind, Locked.actions_pure,
          hactions, List.append_nil]
      · refine Or.inr ⟨⟨other, List.mem_cons_of_mem _ hmem, hother⟩, rest, ?_⟩
        simp only [Bool.false_eq_true, if_false, Locked.actions_bind, Locked.actions_pure,
          hactions, List.nil_append, List.append_nil]

private theorem dumpHelper_actions (X : SystemAnswers) (m : ServiceMembers P) :
    (¬X.DumpsSlot P ∧ (dumpHelper X m).actions = []) ∨
    (X.DumpsSlot P ∧ ∃ rest, (dumpHelper X m).actions = .acquire .shared :: rest) := by
  simp only [dumpHelper, Locked.actions_bind, Locked.actions_pure, List.append_nil,
    showTelephonyChangeState]
  cases hinstance : X.getInstance with
  | false =>
    refine Or.inl ⟨?_, rfl⟩
    rintro ⟨hfound, -⟩
    rw [hinstance] at hfound
    cases hfound
  | true =>
    simp only [Bool.true_eq_false, if_false, Locked.actions_bind, Locked.actions_pure,
      List.append_nil]
    rcases showSlots_actions X.enumConvert X.hasSimCard m.guarded (dumpedSlots P) with
      ⟨hnone, hactions⟩ | ⟨hsome, rest, hactions⟩
    · refine Or.inl ⟨?_, hactions⟩
      rintro ⟨-, slot, hmem, hcard⟩
      rw [hnone slot hmem] at hcard
      cases hcard
    · exact Or.inr ⟨⟨hinstance, hsome⟩, rest, hactions⟩

private theorem nonRecursive_dump_iff (X : SystemAnswers) (fd : Int) (m : ServiceMembers P) :
    NonRecursive (dump X fd m).actions ↔ ¬(0 ≤ fd ∧ X.DumpsSlot P) := by
  rw [dump]
  by_cases hfd : fd < 0
  · rw [if_pos hfd]
    refine iff_of_true nonRecursive_nil ?_
    rintro ⟨hpos, -⟩
    omega
  · rw [if_neg hfd]
    have hpos : 0 ≤ fd := by omega
    rcases dumpHelper_actions X m with ⟨hnot, hactions⟩ | ⟨hdumps, rest, hactions⟩
    · refine iff_of_true ?_ fun h => hnot h.2
      refine Locked.nonRecursive_holding ?_
      rw [Locked.actions_bind, hactions]
      rfl
    · refine iff_of_false ?_ (not_not.mpr ⟨hpos, hdumps⟩)
      have htaken : (dumpHelper X m >>= fun result =>
          (pure (if X.dprintf then .dumped result true else .dumped "" false) :
            Locked (Reply P))).actions = .acquire .shared :: rest := by
        rw [Locked.actions_bind, hactions]
        exact List.append_nil _
      exact Locked.not_nonRecursive_holding htaken

/-- **Who re-acquires the lock.** In every state and whatever other components answer, a
call of an entry point takes the lock of the service in well-nested scopes of depth one
and leaves it free, if and only if it is no `Dump` into a valid file of a service with
a SIM card in one of its slots. -/
theorem lock_not_reacquired_iff (X : SystemAnswers) (m : ServiceMembers P)
    (entry : EntryPoint P) :
    NonRecursive (entry.run X m).actions ↔
      ∀ fd args, entry = .dump fd args → ¬(0 ≤ fd ∧ X.DumpsSlot P) := by
  have hlast {α β : Type} {p : Locked α} {f : α → Locked β} (hf : (f p.value).actions = []) :
      NonRecursive (p >>= f).actions ↔ NonRecursive p.actions := by
    rw [Locked.actions_bind, hf, List.append_nil]
  have hother (hnot : ∀ fd args, entry ≠ .dump fd args)
      (h : NonRecursive (entry.run X m).actions) :
      NonRecursive (entry.run X m).actions ↔
        ∀ fd args, entry = .dump fd args → ¬(0 ≤ fd ∧ X.DumpsSlot P) :=
    iff_of_true h fun fd args heq => absurd heq (hnot fd args)
  cases entry with
  | dump fd args =>
    refine (hlast rfl).trans ((nonRecursive_dump_iff X fd m).trans ?_)
    simp only [EntryPoint.dump.injEq, and_imp, forall_eq', forall_apply_eq_imp_iff]
  | onStart => exact hother (by simp) ((hlast rfl).mpr (Locked.nonRecursive_holding rfl))
  | onStop => exact hother (by simp) ((hlast rfl).mpr (Locked.nonRecursive_holding rfl))
  | update u => exact hother (by simp) ((hlast rfl).mpr (nonRecursive_locked u X.env m.guarded))
  | registerStateChange r =>
    exact hother (by simp) ((hlast rfl).mpr (nonRecursive_registerStateChange X.env r m.guarded))
  | unregisterStateChange k =>
    exact hother (by simp) ((hlast rfl).mpr (nonRecursive_unregisterStateChange X.env k m.guarded))
  | getBindStartTime => exact hother (by simp) nonRecursive_nil
  | getBindEndTime => exact hother (by simp) nonRecursive_nil
  | getBindSpendTime => exact hother (by simp) nonRecursive_nil
  | getServiceRunningState => exact hother (by simp) nonRecursive_nil
  | _ => exact hother (by simp) ((hlast rfl).mpr (nonRecursive_query _ _ m.guarded))

/-- Every slot has a SIM card, and nothing else is known. -/
def SystemAnswers.cards : SystemAnswers where
  env := .native
  startTime := 0
  endTime := 0
  getInstance := true
  hasSimCard _ := true
  enumConvert := ⟨fun _ => "", fun _ => "", fun _ => "", fun _ => "", fun _ => "", fun _ => "",
    fun _ => ""⟩
  dprintf := true

/-- A `Dump` of a device with SIM cards asks for the shared lock that it holds. -/
theorem dump_reacquires_lock :
    let m : ServiceMembers Platform.dualSim := ⟨Service.init Platform.dualSim, .stateRunning, 0, 0⟩
    ¬NonRecursive ((EntryPoint.dump 1 []).run SystemAnswers.cards m).actions := by
  decide

end TelephonyStateRegistry
