import TelephonyStateRegistry.Client.Ani
import TelephonyStateRegistry.Client.Cj
import TelephonyStateRegistry.Client.Napi

/-!
# Listeners and registrations

Over a service that is a set of pairs, every listener of a front end stays
registered through any run, whatever the requests are answered. The reverse is
lost at the first removal that fails: the listeners are gone before the request
is made, and a later removal is asked for only on behalf of listeners.
-/

namespace TelephonyStateRegistry

open Reactive

variable {P : Platform}

private theorem napi_backed_step (s : Napi.EventListenerHandler × Finset Pair) (i : Napi.Step)
    (h : (Napi.sharing P).Backed (Napi.table s)) :
    (Napi.sharing P).Backed (Napi.table ((Napi.registryMachine P).next s i)) := by
  change (Napi.sharing P).Backed (Napi.table ((Napi.machine P).next s
    ⟨registryManager i.answer, i.isCallBackRegister, i.call⟩))
  rw [Napi.table_next, registryManager_provider]
  exact h.step (Napi.sharing P) i.answer i.answer _

/-- A call drops listeners of its own environment alone. -/
theorem Napi.env_of_drops {call : Napi.Call} {isCallBackRegister : Napi.IsCallBackRegister}
    {l : Napi.EventListener} (h : (call.onTable isCallBackRegister).drops l = true) :
    l.env = call.env := by
  cases call with
  | registerEventListener e => cases h
  | unregisterEventListener env eventType ref =>
    simp only [Napi.Call.onTable, TableCall.drops, Napi.matchesCallback, Bool.and_eq_true,
      decide_eq_true_eq] at h
    exact h.1.1.symm
  | unregisterEventListeners env eventType =>
    simp only [Napi.Call.onTable, TableCall.drops, Napi.matchesEvent, Bool.and_eq_true,
      decide_eq_true_eq] at h
    exact h.1.symm
  | unRegisterAllListener env =>
    simp only [Napi.Call.onTable, TableCall.drops, Napi.matchesEnv, decide_eq_true_eq] at h
    exact h

/-- **Every JS listener is registered.** After any run every entry of the table
is in the registry, and a further call keeps the listeners of the other
environments, and those that it does not match, together with their
registrations. -/
theorem napi_listeners_backed (P : Platform) (steps : List Napi.Step) :
    let s := (Napi.registryMachine P).run (Napi.start ∅) steps
    (∀ l ∈ s.1.listenerList, l.pair ∈ s.2) ∧
    ∀ i : Napi.Step, ∀ l ∈ s.1.listenerList,
      l.env ≠ i.call.env ∨ (i.call.onTable i.isCallBackRegister).drops l = false →
        let s' := (Napi.registryMachine P).next s i
        l ∈ s'.1.listenerList ∧ l.pair ∈ s'.2 := by
  intro s
  have hbacked : (Napi.sharing P).Backed (Napi.table s) := by
    apply (Napi.registryMachine P).invariant (I := fun s => (Napi.sharing P).Backed (Napi.table s))
      napi_backed_step
    exact fun l hl => absurd hl List.not_mem_nil
  refine ⟨hbacked, ?_⟩
  intro i l hl hother s'
  have hkept : (i.call.onTable i.isCallBackRegister).drops l = false := by
    rcases hother with henv | hkept
    · by_contra hdrops
      exact henv (Napi.env_of_drops (by simpa only [Bool.not_eq_false] using hdrops))
    · exact hkept
  have hmem : l ∈ s'.1.listenerList := by
    have htable := Napi.table_next P s ⟨registryManager i.answer, i.isCallBackRegister, i.call⟩
    have hnext := (Napi.sharing P).mem_next_of_not_dropped
      ((registryManager i.answer).provider Napi.isUpdate) (s := Napi.table s) hl hkept
    rw [← htable] at hnext
    exact hnext
  exact ⟨hmem, napi_backed_step s i hbacked l hmem⟩

/-- The listener of a second environment stays registered when the first one
unsubscribes from the same pair. -/
theorem second_environment_backed :
    let l : Napi.EventListener := ⟨2, .event .simState, 0, 4, 5⟩
    let s := (Napi.registryMachine Platform.dualSim).run (Napi.start ∅)
      [⟨fun _ => .telephonySuccess, fun _ => Nat.beq, .registerEventListener
          ⟨1, .event .simState, 0, 2, 3⟩⟩,
        ⟨fun _ => .telephonySuccess, fun _ => Nat.beq, .registerEventListener l⟩]
    let s' := (Napi.registryMachine Platform.dualSim).next s
      ⟨fun _ => .telephonySuccess, fun _ => Nat.beq, .unregisterEventListeners 1 (.event .simState)⟩
    l ∈ s'.1.listenerList ∧ l.pair ∈ s'.2 := by
  intro l s
  exact (napi_listeners_backed Platform.dualSim _).2 _ l (by decide) (Or.inl (by decide))

/-- Whether a later `off` of the event of a pair asks the service to remove it. -/
def Napi.Reclaims (P : Platform) (handler : Napi.EventListenerHandler) (k : Pair) : Prop :=
  ∃ answer isCallBackRegister call, call.offEvent = some k.eventType ∧
    k ∈ ((Napi.machine P).next (handler, [])
      ⟨recordingManager answer, isCallBackRegister, call⟩).2

/-- The same for the Cangjie handler. -/
def Cj.Reclaims (P : Platform) (handler : Cj.ObserverEventHandler) (k : Pair) : Prop :=
  ∃ answer call, call.offEvent = some k.eventType ∧
    k ∈ ((Cj.machine P).next (handler, []) ⟨recordingManager answer, call⟩).2

/-- The same for the ArkTS table. -/
def Ani.Reclaims (P : Platform) (N : Ani.NapiUtil) (listeners : List Ani.EventListener)
    (k : Pair) : Prop :=
  ∃ answer callbackEq call, call.offEvent = some k.eventType ∧
    k ∈ ((Ani.machine P N).next (listeners, []) ⟨recordingManager answer, callbackEq, call⟩).2

/-- Every registration has a listener, or can still be removed by an `off`. -/
def Napi.NoOrphan (P : Platform) (s : Napi.EventListenerHandler × Finset Pair) : Prop :=
  ∀ k ∈ s.2, (∃ l ∈ s.1.listenerList, l.pair = k) ∨ Napi.Reclaims P s.1 k

/-- The same for the Cangjie handler. -/
def Cj.NoOrphan (P : Platform) (s : Cj.ObserverEventHandler × Finset Pair) : Prop :=
  ∀ k ∈ s.2, (∃ l ∈ s.1.listenerList, l.pair = k) ∨ Cj.Reclaims P s.1 k

/-- The same for the ArkTS table. -/
def Ani.NoOrphan (P : Platform) (N : Ani.NapiUtil) (s : List Ani.EventListener × Finset Pair) :
    Prop :=
  ∀ k ∈ s.2, (∃ l ∈ s.1, l.pair = k) ∨ Ani.Reclaims P N s.1 k

/-- No removal fails of a pair that loses its last listener in a step. -/
def Napi.RemovalsSucceed (P : Platform) (s : Napi.EventListenerHandler × Finset Pair)
    (i : Napi.Step) : Prop :=
  ∀ k, (Napi.sharing P).Orphaned (i.call.onTable i.isCallBackRegister).drops s.1.listenerList k →
    i.answer k = .telephonySuccess

/-- The same for the Cangjie handler. -/
def Cj.RemovalsSucceed (P : Platform) (s : Cj.ObserverEventHandler × Finset Pair)
    (i : Cj.Step) : Prop :=
  ∀ k, (Cj.sharing P).Orphaned i.call.onTable.drops s.1.listenerList k →
    i.answer k = .telephonySuccess

/-- The same for the ArkTS table. -/
def Ani.RemovalsSucceed (P : Platform) (s : List Ani.EventListener × Finset Pair)
    (i : Ani.Step) : Prop :=
  ∀ call ∈ i.call.onTable P i.callbackEq, ∀ k, (Ani.sharing P).Orphaned call.drops s.1 k →
    i.answer k = .telephonySuccess

/-- An `off` asks for removals on behalf of listeners alone. -/
theorem Napi.noOrphan_iff (s : Napi.EventListenerHandler × Finset Pair) :
    Napi.NoOrphan P s ↔ (Napi.sharing P).Covered (Napi.table s) := by
  refine forall₂_congr fun k _ => or_iff_left_of_imp ?_
  rintro ⟨answer, isCallBackRegister, call, -, hk⟩
  have htable := congrArg Prod.snd
    (Napi.table_next P (s.1, []) ⟨recordingManager answer, isCallBackRegister, call⟩)
  rw [recordingManager_provider] at htable
  change _ ∈ (Napi.table _).2 at hk
  rw [htable] at hk
  exact ((Napi.sharing P).orphaned_of_recorded hk).1

theorem Cj.noOrphan_iff (s : Cj.ObserverEventHandler × Finset Pair) :
    Cj.NoOrphan P s ↔ (Cj.sharing P).Covered (Cj.table s) := by
  refine forall₂_congr fun k _ => or_iff_left_of_imp ?_
  rintro ⟨answer, call, -, hk⟩
  have htable := congrArg Prod.snd
    (Cj.table_next P (s.1, []) ⟨recordingManager answer, call⟩)
  rw [recordingManager_provider] at htable
  change _ ∈ (Cj.table _).2 at hk
  rw [htable] at hk
  exact ((Cj.sharing P).orphaned_of_recorded hk).1

theorem Ani.noOrphan_iff (N : Ani.NapiUtil) (s : List Ani.EventListener × Finset Pair) :
    Ani.NoOrphan P N s ↔ (Ani.sharing P).Covered s := by
  refine forall₂_congr fun k _ => or_iff_left_of_imp ?_
  rintro ⟨answer, callbackEq, call, -, hk⟩
  rw [Ani.table_next] at hk
  cases hcall : call.onTable P callbackEq with
  | none =>
    rw [hcall] at hk
    exact absurd hk List.not_mem_nil
  | some c =>
    rw [hcall, Ani.provider_recording] at hk
    exact ((Ani.sharing P).orphaned_of_recorded hk).1

private theorem napi_noOrphan_step (s : Napi.EventListenerHandler × Finset Pair) (i : Napi.Step)
    (hb : (Napi.sharing P).Backed (Napi.table s)) (h : Napi.NoOrphan P s) :
    Napi.NoOrphan P ((Napi.registryMachine P).next s i) ↔ Napi.RemovalsSucceed P s i := by
  rw [Napi.noOrphan_iff] at h ⊢
  change (Napi.sharing P).Covered (Napi.table ((Napi.machine P).next s
    ⟨registryManager i.answer, i.isCallBackRegister, i.call⟩)) ↔ _
  rw [Napi.table_next, registryManager_provider]
  exact (Napi.sharing P).covered_step_iff i.answer i.answer hb h _

private theorem cj_backed_step (s : Cj.ObserverEventHandler × Finset Pair) (i : Cj.Step)
    (h : (Cj.sharing P).Backed (Cj.table s)) :
    (Cj.sharing P).Backed (Cj.table ((Cj.registryMachine P).next s i)) := by
  change (Cj.sharing P).Backed (Cj.table ((Cj.machine P).next s
    ⟨registryManager i.answer, i.call⟩))
  rw [Cj.table_next, registryManager_provider]
  exact h.step (Cj.sharing P) i.answer i.answer _

private theorem cj_noOrphan_step (s : Cj.ObserverEventHandler × Finset Pair) (i : Cj.Step)
    (hb : (Cj.sharing P).Backed (Cj.table s)) (h : Cj.NoOrphan P s) :
    Cj.NoOrphan P ((Cj.registryMachine P).next s i) ↔ Cj.RemovalsSucceed P s i := by
  rw [Cj.noOrphan_iff] at h ⊢
  change (Cj.sharing P).Covered (Cj.table ((Cj.machine P).next s
    ⟨registryManager i.answer, i.call⟩)) ↔ _
  rw [Cj.table_next, registryManager_provider]
  exact (Cj.sharing P).covered_step_iff i.answer i.answer hb h _

private theorem ani_backed_step (N : Ani.NapiUtil) (s : List Ani.EventListener × Finset Pair)
    (i : Ani.Step) (h : (Ani.sharing P).Backed s) :
    (Ani.sharing P).Backed ((Ani.registryMachine P N).next s i) := by
  change (Ani.sharing P).Backed ((Ani.machine P N).next s
    ⟨registryManager i.answer, i.callbackEq, i.call⟩)
  rw [Ani.table_next]
  cases i.call.onTable P i.callbackEq with
  | none => exact h
  | some call =>
    simp only [Ani.provider_registry]
    exact h.step (Ani.sharing P) _ _ call

private theorem ani_noOrphan_step (N : Ani.NapiUtil) (s : List Ani.EventListener × Finset Pair)
    (i : Ani.Step) (hb : (Ani.sharing P).Backed s) (h : Ani.NoOrphan P N s) :
    Ani.NoOrphan P N ((Ani.registryMachine P N).next s i) ↔ Ani.RemovalsSucceed P s i := by
  rw [Ani.noOrphan_iff] at h ⊢
  change (Ani.sharing P).Covered ((Ani.machine P N).next s
    ⟨registryManager i.answer, i.callbackEq, i.call⟩) ↔ _
  rw [Ani.table_next, Ani.RemovalsSucceed]
  cases i.call.onTable P i.callbackEq with
  | none =>
    refine iff_of_true h ?_
    rintro call ⟨⟩
  | some call =>
    simp only [Ani.provider_registry, Option.mem_some_iff, forall_eq']
    apply ((Ani.sharing P).covered_step_iff _ _ hb h call).trans
    exact forall₂_congr fun k _ => Ani.unRegisterCode_success N (i.answer k)

/-- **When no registration is orphaned.** In every run of each of the front
ends, every registration has a listener or can still be removed, in every state
reached, exactly if no removal of the run fails. -/
theorem registrations_reclaimable_iff (P : Platform) (N : Ani.NapiUtil) :
    (∀ steps : List Napi.Step,
      (∀ before, before <+: steps →
          Napi.NoOrphan P ((Napi.registryMachine P).run (Napi.start ∅) before)) ↔
        (Napi.registryMachine P).Along (Napi.RemovalsSucceed P) (Napi.start ∅) steps) ∧
    (∀ steps : List Cj.Step,
      (∀ before, before <+: steps →
          Cj.NoOrphan P ((Cj.registryMachine P).run (Cj.start ∅) before)) ↔
        (Cj.registryMachine P).Along (Cj.RemovalsSucceed P) (Cj.start ∅) steps) ∧
    (∀ steps : List Ani.Step,
      (∀ before, before <+: steps →
          Ani.NoOrphan P N ((Ani.registryMachine P N).run ([], ∅) before)) ↔
        (Ani.registryMachine P N).Along (Ani.RemovalsSucceed P) ([], ∅) steps) := by
  refine ⟨?_, ?_, ?_⟩
  · apply (Napi.registryMachine P).prefixes_iff_along
      (J := fun s => (Napi.sharing P).Backed (Napi.table s)) napi_backed_step napi_noOrphan_step
    · exact fun l hl => absurd hl List.not_mem_nil
    · exact fun k hk => absurd hk (Finset.notMem_empty k)
  · apply (Cj.registryMachine P).prefixes_iff_along
      (J := fun s => (Cj.sharing P).Backed (Cj.table s)) cj_backed_step cj_noOrphan_step
    · exact fun l hl => absurd hl List.not_mem_nil
    · exact fun k hk => absurd hk (Finset.notMem_empty k)
  · apply (Ani.registryMachine P N).prefixes_iff_along (J := (Ani.sharing P).Backed)
      (ani_backed_step N) (ani_noOrphan_step N)
    · exact fun l hl => absurd hl List.not_mem_nil
    · exact fun k hk => absurd hk (Finset.notMem_empty k)

/-- After an `off` whose removal failed, the registration has no listener, and no
`off` asks for its removal again. -/
theorem failed_off_orphans :
    ¬Napi.NoOrphan Platform.dualSim ((Napi.registryMachine Platform.dualSim).run (Napi.start ∅)
      [⟨fun _ => .telephonySuccess, fun _ => Nat.beq, .registerEventListener
          ⟨1, .event .callState, 0, 2, 3⟩⟩,
        ⟨fun _ => .telephonyErrIpcConnectStubFail, fun _ => Nat.beq,
          .unregisterEventListeners 1 (.event .callState)⟩]) := by
  rw [Napi.noOrphan_iff]
  intro h
  obtain ⟨l, hl, -⟩ := h ⟨0, .event .callState⟩ (by decide)
  exact absurd hl List.not_mem_nil

end TelephonyStateRegistry
