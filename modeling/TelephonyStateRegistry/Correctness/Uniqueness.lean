import TelephonyStateRegistry.Client.Ani
import TelephonyStateRegistry.Client.Cj
import TelephonyStateRegistry.Client.Napi

/-!
# No listener twice

Each front end compares a new listener with every entry of its table before it
calls the service. So no two entries are the same listener, and to register one
again changes nothing, whatever lies behind the manager.
-/

namespace TelephonyStateRegistry

open Reactive

variable {P : Platform} {σ : Type}

/-- The listeners of a table are pairwise different, and a registration of one that is
there changes neither the table nor what lies behind the manager. -/
def Napi.Unduplicated (P : Platform) (isCallBackRegister : Napi.IsCallBackRegister)
    (s : Napi.EventListenerHandler × σ) : Prop :=
  (s.1.listenerList.Pairwise fun l l' => Napi.sameListener isCallBackRegister l' l = false) ∧
  ∀ (M : StateManager σ) (listener : Napi.EventListener),
    (∃ l ∈ s.1.listenerList, Napi.sameListener isCallBackRegister listener l = true) →
      (Napi.registerEventListener P M isCallBackRegister listener s).1 = s

/-- The same for the Cangjie handler. -/
def Cj.Unduplicated (P : Platform) (s : Cj.ObserverEventHandler × σ) : Prop :=
  (s.1.listenerList.Pairwise fun l l' => Cj.sameListener l' l = false) ∧
  ∀ (M : StateManager σ) (listener : Cj.EventListener),
    (∃ l ∈ s.1.listenerList, Cj.sameListener listener l = true) →
      (Cj.registerEventListener P M listener s).1 = s

/-- The same for the ArkTS table. -/
def Ani.Unduplicated (P : Platform) (N : Ani.NapiUtil) (callbackEq : Ani.CallbackEq)
    (s : List Ani.EventListener × σ) : Prop :=
  (s.1.Pairwise fun l l' => Ani.sameListener callbackEq l' l = false) ∧
  ∀ (M : StateManager σ) (listener : Ani.EventListener),
    (∃ l ∈ s.1, Ani.sameListener callbackEq listener l = true) →
      (Ani.register P N M callbackEq listener s).1 = s

theorem Napi.unduplicated_run (isCallBackRegister : Napi.IsCallBackRegister) (w : σ)
    {inputs : List (Napi.Input σ)}
    (hinputs : ∀ i ∈ inputs, i.isCallBackRegister = isCallBackRegister) :
    Napi.Unduplicated P isCallBackRegister ((Napi.machine P).run (Napi.start w) inputs) := by
  constructor
  · refine (Napi.machine P).invariant_along
      (I := fun s => s.1.listenerList.Pairwise fun l l' =>
        Napi.sameListener isCallBackRegister l' l = false) ?_ List.Pairwise.nil
      ((Napi.machine P).along_of_mem hinputs (Napi.start w))
    intro s i hi h
    change (Napi.table ((Napi.machine P).next s i)).1.Pairwise _
    rw [Napi.table_next]
    refine (Napi.sharing P).pairwise_next _ ?_ h
    intro same e hcall d hd
    cases hc : i.call with
    | registerEventListener l =>
      rw [hc, Napi.Call.onTable, TableCall.subscribe.injEq] at hcall
      obtain ⟨rfl, rfl⟩ := hcall
      rw [← hi]
      exact hd
    | unregisterEventListener env eventType ref =>
      rw [hc] at hcall
      cases hcall
    | unregisterEventListeners env eventType =>
      rw [hc] at hcall
      cases hcall
    | unRegisterAllListener env =>
      rw [hc] at hcall
      cases hcall
  · intro M listener hsame
    have h := (Napi.sharing P).subscribe_of_same (M.provider Napi.isUpdate)
      (s := Napi.table ((Napi.machine P).run (Napi.start w) inputs)) hsame listener
    exact congrArg (fun t : List Napi.EventListener × σ =>
      ((⟨t.1, _⟩, t.2) : Napi.EventListenerHandler × σ)) h

theorem Cj.unduplicated_run (w : σ) (inputs : List (Cj.Input σ)) :
    Cj.Unduplicated P ((Cj.machine P).run (Cj.start w) inputs) := by
  constructor
  · refine (Cj.machine P).invariant
      (I := fun s => s.1.listenerList.Pairwise fun l l' => Cj.sameListener l' l = false) ?_
      List.Pairwise.nil inputs
    intro s i h
    change (Cj.table ((Cj.machine P).next s i)).1.Pairwise _
    rw [Cj.table_next]
    refine (Cj.sharing P).pairwise_next _ ?_ h
    intro same e hcall d hd
    cases hc : i.call with
    | registerEventListener l =>
      rw [hc, Cj.Call.onTable, TableCall.subscribe.injEq] at hcall
      obtain ⟨rfl, rfl⟩ := hcall
      exact hd
    | unregisterEventListener eventType funcId =>
      rw [hc] at hcall
      cases hcall
  · intro M listener hsame
    have h := (Cj.sharing P).subscribe_of_same (M.provider Cj.isUpdate)
      (s := Cj.table ((Cj.machine P).run (Cj.start w) inputs)) hsame listener
    exact congrArg (fun t : List Cj.EventListener × σ =>
      ((⟨t.1, _⟩, t.2) : Cj.ObserverEventHandler × σ)) h

theorem Ani.unduplicated_run (N : Ani.NapiUtil) (callbackEq : Ani.CallbackEq) (w : σ)
    {inputs : List (Ani.Input σ)} (hinputs : ∀ i ∈ inputs, i.callbackEq = callbackEq) :
    Ani.Unduplicated P N callbackEq ((Ani.machine P N).run ([], w) inputs) := by
  constructor
  · refine (Ani.machine P N).invariant_along
      (I := fun s => s.1.Pairwise fun l l' => Ani.sameListener callbackEq l' l = false) ?_
      List.Pairwise.nil ((Ani.machine P N).along_of_mem hinputs ([], w))
    intro s i hi h
    rw [Ani.table_next]
    cases hcall : i.call.onTable P i.callbackEq with
    | none => exact h
    | some call =>
      refine (Ani.sharing P).pairwise_next _ ?_ h
      rintro same e rfl d hd
      cases hc : i.call with
      | register l =>
        rw [hc, Ani.Call.onTable] at hcall
        split_ifs at hcall
        cases hcall
        rw [← hi]
        exact hd
      | unregister eventType callbackRef =>
        rw [hc] at hcall
        cases hcall
  · intro M listener hsame
    rw [Ani.register]
    split
    · rfl
    · exact (Ani.sharing P).subscribe_of_same _ hsame listener

/-- **No listener twice.** Whatever the requests are answered, after every run of
registrations and removals each front end has pairwise different listeners, as long
as the runtime always tells callbacks apart alike; and to register one of them
again changes nothing and asks the service for nothing. -/
theorem listeners_never_duplicated (P : Platform) (N : Ani.NapiUtil) (w : σ)
    {isCallBackRegister : Napi.IsCallBackRegister} {callbackEq : Ani.CallbackEq}
    {inputs : List (Napi.Input σ)}
    (hinputs : ∀ i ∈ inputs, i.isCallBackRegister = isCallBackRegister)
    (inputs' : List (Cj.Input σ)) {inputs'' : List (Ani.Input σ)}
    (hinputs'' : ∀ i ∈ inputs'', i.callbackEq = callbackEq) :
    Napi.Unduplicated P isCallBackRegister ((Napi.machine P).run (Napi.start w) inputs) ∧
      Cj.Unduplicated P ((Cj.machine P).run (Cj.start w) inputs') ∧
      Ani.Unduplicated P N callbackEq ((Ani.machine P N).run ([], w) inputs'') :=
  ⟨Napi.unduplicated_run isCallBackRegister w hinputs, Cj.unduplicated_run w inputs',
    Ani.unduplicated_run N callbackEq w hinputs''⟩

/-- A listener that is registered twice on each front end. -/
theorem repeated_listener_ignored :
    let M := recordingManager fun _ => .telephonySuccess
    let l : Napi.EventListener := ⟨1, .event .simState, 0, 2, 3⟩
    let napi := (Napi.machine Platform.dualSim).run (Napi.start [])
      [⟨M, fun _ => Nat.beq, .registerEventListener l⟩,
        ⟨M, fun _ => Nat.beq, .registerEventListener l⟩]
    let cj := (Cj.machine Platform.dualSim).run (Cj.start [])
      [⟨M, .registerEventListener ⟨.event .simState, 0, 2, 3⟩⟩,
        ⟨M, .registerEventListener ⟨.event .simState, 0, 2, 3⟩⟩]
    let ani := (Ani.machine Platform.dualSim .unspecific).run ([], [])
      [⟨M, Nat.beq, .register ⟨.event .simState, 0, 2⟩⟩,
        ⟨M, Nat.beq, .register ⟨.event .simState, 0, 2⟩⟩]
    napi.1.listenerList.length = 1 ∧ cj.1.listenerList.length = 1 ∧ ani.1.length = 1 ∧
      Napi.Unduplicated Platform.dualSim (fun _ => Nat.beq) napi ∧
      Cj.Unduplicated Platform.dualSim cj ∧
      Ani.Unduplicated Platform.dualSim .unspecific Nat.beq ani := by
  intro M l napi cj ani
  refine ⟨by decide, by decide, by decide,
    listeners_never_duplicated Platform.dualSim .unspecific [] ?_ _ ?_⟩
  · exact List.forall_mem_cons.mpr ⟨rfl, List.forall_mem_singleton.mpr rfl⟩
  · exact List.forall_mem_cons.mpr ⟨rfl, List.forall_mem_singleton.mpr rfl⟩

end TelephonyStateRegistry
