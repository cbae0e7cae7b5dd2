import TelephonyStateRegistry.Client.CjQueue
import TelephonyStateRegistry.Core.Flow
import TelephonyStateRegistry.Correctness.Reentrance

/-!
# The values that a Cangjie function is called with

The events of the handler are processed one after the other, so the values for one
listener come in the order of the callbacks. While the listener stays in the table none
is lost. Once it is off, its function is called at most once more, and only if it had been
chosen before.
-/

namespace TelephonyStateRegistry

open Reactive

variable {P : Platform} {σ : Type}

namespace Cj

section Values

variable (K : Payloads P) (l : EventListener)

/-- The value with which a call calls the function of a listener. -/
def valuesOf (execution : Option Execution) : List (Value CString) :=
  (execution.filter fun execution => execution.listener = l).toList.map Execution.value

/-- The value that a listener is given of some data. -/
def valueOf (data : Option (UpdateInfo P)) : List (Value CString) :=
  (workUpdated K ∅ l data).toList

/-- The values that events have for a listener. -/
def valuesIn (events : List (InnerEvent P)) : List (Value CString) :=
  (events.filter fun event => event.serves l).flatMap fun event => valueOf K l event.data

/-- What is on its way to the function of a listener. -/
def Runner.pending (s : Runner P σ) : List (Value CString) :=
  valuesOf l s.chosen ++ (s.snapshot.filter (· = l)).flatMap (fun _ => valueOf K l s.data) ++
    valuesIn K l s.events

/-- What a step brings for a listener. -/
def RunnerStep.brings : RunnerStep P σ → List (Value CString)
  | .notified callback => (valueFor K l callback).toList
  | _ => []

end Values

/-- Whether the copy of the info can be made. -/
def RunnerStep.Makes : RunnerStep P σ → Prop
  | .workUpdated makeData => makeData = true
  | _ => True

variable {K : Payloads P} {l : EventListener} {s : Runner P σ}

private theorem observers_next (s : Runner P σ) (step : RunnerStep P σ) :
    ((runner K σ).next s step).observers = match step with
      | .call request => request.effect P s.observers
      | _ => s.observers := by
  cases step with
  | notified callback => rfl
  | call request => rfl
  | callbackRef => rfl
  | processEvent =>
    simp only [Mealy.next, runner]
    split <;> rfl
  | workUpdated makeData =>
    simp only [Mealy.next, runner]
    split <;> rfl

private theorem sound_next (h : s.observers.Sound) (step : RunnerStep P σ) :
    ((runner K σ).next s step).observers.Sound := by
  rw [observers_next]
  cases step with
  | call request => exact h.effect request
  | _ => exact h

private theorem deleting_next (h : l.isDeleting ∈ s.observers.deleting) (step : RunnerStep P σ) :
    l.isDeleting ∈ ((runner K σ).next s step).observers.deleting := by
  rw [observers_next]
  cases step with
  | call request => exact ((request.listeners_effect s.observers).2 _).mpr (Or.inl h)
  | _ => exact h

private theorem workUpdated_cases (deleting : Finset Pointer) (data : Option (UpdateInfo P)) :
    workUpdated K deleting l data = none ∧ Dropped deleting l ∨
      workUpdated K deleting l data = workUpdated K ∅ l data ∧ l.isDeleting ∉ deleting := by
  by_cases hflag : Dropped deleting l
  · exact Or.inl ⟨if_pos hflag, hflag⟩
  · exact Or.inr ⟨workUpdated_of_not_dropped K hflag data, fun hmem => hflag (Or.inr hmem)⟩

private theorem valuesIn_sendEvent (callback : Callback P) :
    valuesIn K l (sendEvent callback).toList = (valueFor K l callback).toList := by
  unfold valuesIn valueFor
  cases sendEvent callback with
  | none => rfl
  | some event =>
    rw [Option.toList_some, Option.bind_some, List.filter_singleton]
    cases event.serves l with
    | true => exact List.append_nil _
    | false => rfl

theorem valuesIn_append (events later : List (InnerEvent P)) :
    valuesIn K l (events ++ later) = valuesIn K l events ++ valuesIn K l later := by
  rw [valuesIn, List.filter_append, List.flatMap_append]
  rfl

theorem valuesIn_cons (event : InnerEvent P) (events : List (InnerEvent P)) :
    valuesIn K l (event :: events) =
      (if event.serves l = true then valueOf K l event.data else []) ++ valuesIn K l events := by
  unfold valuesIn
  rw [List.filter_cons]
  split_ifs
  · rfl
  · rfl

private theorem valuesOf_mk (listen : EventListener) (argv : Option (Value CString)) :
    valuesOf l (argv.map (Execution.mk listen)) = if listen = l then argv.toList else [] := by
  cases argv with
  | none => exact (ite_self _).symm
  | some value =>
    unfold valuesOf
    by_cases hl : listen = l
    · rw [if_pos hl, Option.map_some, Option.filter_some, if_pos (decide_eq_true hl)]
      rfl
    · rw [if_neg hl, Option.map_some, Option.filter_some,
        if_neg (by rwa [decide_eq_true_eq])]
      rfl

/-- What has to hold of a step that takes up an event or a copy, for the values of a
listener to be passed on. -/
structure Runner.Passes (R : List (Value CString) → List (Value CString) → Prop) (K : Payloads P)
    (l : EventListener) (s : Runner P σ) (step : RunnerStep P σ) : Prop where
  copies : step = .processEvent → ∀ event : InnerEvent P,
    R (((s.observers.listeners.filter event.serves).filter (· = l)).flatMap
        fun _ => valueOf K l event.data)
      (if event.serves l = true then valueOf K l event.data else [])
  chosen : ∀ makeData, step = .workUpdated makeData → l ∈ s.snapshot →
    R (if (s.data.isNone || makeData) = false then none
        else workUpdated K s.observers.deleting l s.data).toList (valueOf K l s.data)

private theorem Runner.flow {R : List (Value CString) → List (Value CString) → Prop}
    (hR : Accounting R) {step : RunnerStep P σ} (h : s.Passes R K l step) :
    R (valuesOf l ((runner K σ).out s step) ++ ((runner K σ).next s step).pending K l)
      (s.pending K l ++ step.brings K l) := by
  obtain ⟨observers, events, data, snapshot, chosen⟩ := s
  cases step with
  | notified callback =>
    have hnext : ((runner K σ).next ⟨observers, events, data, snapshot, chosen⟩
        (.notified callback)).pending K l =
          Runner.pending K l ⟨observers, events, data, snapshot, chosen⟩ ++
            (valueFor K l callback).toList := by
      simp only [Mealy.next, runner, Runner.pending, valuesIn_append, valuesIn_sendEvent,
        List.append_assoc]
    rw [hnext]
    exact hR.refl _
  | call request =>
    simp only [RunnerStep.brings, List.append_nil]
    exact hR.refl _
  | callbackRef =>
    simp only [Mealy.out, Mealy.next, runner, Runner.pending, RunnerStep.brings, List.append_nil,
      List.append_assoc]
    exact hR.refl _
  | processEvent =>
    simp only [RunnerStep.brings, List.append_nil]
    match chosen, snapshot, events with
    | some _, _, _ => exact hR.refl _
    | none, _ :: _, _ => exact hR.refl _
    | none, [], [] => exact hR.refl _
    | none, [], event :: events =>
      have hcopies := hR.append_right (valuesIn K l events) (h.copies rfl event)
      rw [← valuesIn_cons] at hcopies
      exact hcopies
  | workUpdated makeData =>
    simp only [RunnerStep.brings, List.append_nil]
    match chosen, snapshot with
    | some _, _ => exact hR.refl _
    | none, [] => exact hR.refl _
    | none, listen :: snapshot =>
      have hnone : valuesOf l none = [] := rfl
      simp only [Mealy.out, Mealy.next, runner, Runner.pending, valuesOf_mk, hnone,
        List.nil_append]
      refine hR.append_right _ ?_
      by_cases hl : listen = l
      · subst hl
        have hmatch : decide (listen = listen) = true := decide_eq_true rfl
        rw [if_pos rfl, List.filter_cons, if_pos hmatch, List.flatMap_cons]
        exact hR.append_right _ (h.chosen makeData rfl List.mem_cons_self)
      · rw [if_neg hl, List.filter_cons_of_neg (by rwa [decide_eq_true_eq])]
        exact hR.refl _

private theorem copies_eq (h : s.observers.Sound) (event : InnerEvent P) :
    (s.observers.listeners.filter event.serves).filter (· = l) =
      if l ∈ s.observers.listeners ∧ event.serves l = true then [l] else [] := by
  have hnodup : (s.observers.listeners.filter event.serves).Nodup :=
    h.distinct.of_map.filter _
  have hcopies : (s.observers.listeners.filter event.serves).filter (· = l) =
      List.replicate ((s.observers.listeners.filter event.serves).count l) l := by
    rw [← List.filter_beq]
    rfl
  rw [hcopies]
  by_cases hl : l ∈ s.observers.listeners.filter event.serves
  · rw [if_pos (List.mem_filter.mp hl), List.count_eq_one_of_mem hnodup hl]
    rfl
  · rw [if_neg fun hmem => hl (List.mem_filter.mpr hmem), List.count_eq_zero_of_not_mem hl]
    rfl

private theorem Runner.passes_some (h : s.observers.Sound) (step : RunnerStep P σ) :
    s.Passes List.Sublist K l step := by
  refine ⟨fun _ event => ?_, fun makeData _ _ => ?_⟩
  · rw [copies_eq h]
    split_ifs with hcopy hserves hserves
    · rw [List.flatMap_singleton]
    · exact absurd hcopy.2 hserves
    · exact List.nil_sublist _
    · exact List.nil_sublist _
  · rcases workUpdated_cases (K := K) (l := l) s.observers.deleting s.data with
      ⟨hnone, -⟩ | ⟨hsame, -⟩
    · rw [hnone, ite_self]
      exact List.nil_sublist _
    · rw [hsame]
      split_ifs
      · exact List.nil_sublist _
      · exact List.Sublist.refl _

private theorem Runner.passes_all (h : s.observers.Sound) (hl : l ∈ s.observers.listeners)
    {step : RunnerStep P σ} (hmakes : step.Makes) : s.Passes Eq K l step := by
  refine ⟨fun _ event => ?_, fun makeData hstep _ => ?_⟩
  · rw [copies_eq h]
    by_cases hserves : event.serves l = true
    · rw [if_pos ⟨hl, hserves⟩, if_pos hserves]
      exact List.append_nil _
    · rw [if_neg fun hcopy => hserves hcopy.2, if_neg hserves]
      rfl
  · subst hstep
    have hmade : makeData = true := hmakes
    rw [hmade, Bool.or_true, if_neg Bool.true_eq_false.mp]
    rcases workUpdated_cases (K := K) (l := l) s.observers.deleting s.data with
      ⟨-, hnull | hset⟩ | ⟨hsame, -⟩
    · exact absurd hnull (h.made l hl).1
    · exact absurd hset (h.unset l hl)
    · rw [hsame]
      rfl

/-- **In order.** Whatever other threads do, the function of a listener is called with values
of the callbacks in their order; while the listener stays in the table and the copies of the
infos can be made, it is called with all of them. -/
theorem values_in_order (P : Platform) {σ : Type} (K : Payloads P) (w : σ)
    (before steps : List (RunnerStep P σ)) (l : EventListener) :
    let s := (runner K σ).run (.start P w) before
    let values := ((runner K σ).outs s steps).flatMap (valuesOf l)
    let next := (runner K σ).run s steps
    (values ++ next.pending K l).Sublist (s.pending K l ++ steps.flatMap (RunnerStep.brings K l)) ∧
      ((runner K σ).Along (fun t step => l ∈ t.observers.listeners ∧ step.Makes) s steps →
        values ++ next.pending K l = s.pending K l ++ steps.flatMap (RunnerStep.brings K l)) := by
  intro s values next
  have hs : s.observers.Sound := (runner K σ).invariant (I := fun t => t.observers.Sound)
    (fun _ step h => sound_next h step) (Observers.Sound.start w) before
  have halong {G : Runner P σ → RunnerStep P σ → Prop} (hg : (runner K σ).Along G s steps) :
      (runner K σ).Along (fun t step => t.observers.Sound ∧ G t step) s steps :=
    Mealy.Along.of_invariant (I := fun t => t.observers.Sound)
      (fun _ step _ h => sound_next h step) hs hg
  rw [← (runner K σ).entered_of_inputs (RunnerStep.brings K l) s steps]
  constructor
  · exact Mealy.flow_along Accounting.sublist (Runner.pending K l)
      (fun t step h => Runner.flow .sublist (Runner.passes_some h.1 step))
      (halong ((runner K σ).along_of_mem (F := fun _ => True) (fun _ _ => trivial) s))
  · intro hstays
    exact Mealy.flow_along Accounting.eq (Runner.pending K l)
      (fun t step h => Runner.flow .eq (Runner.passes_all h.1 h.2.1 h.2.2)) (halong hstays)

/-- Two updates of the data flow of a slot, with one of another slot between them. -/
theorem two_values_in_order :
    let l : EventListener := ⟨.event .dataFlow, 0, 7, 1⟩
    let manager := registryManager fun _ => .telephonySuccess
    let machine := runner Payloads.dualSim (Finset Pair)
    let s := machine.run (.start .dualSim ∅) [.call ⟨manager, .on .dataFlow 0 7 1⟩]
    (machine.outs s [.notified (.onCellularDataFlowUpdated 0 1),
      .notified (.onCellularDataFlowUpdated 1 2), .notified (.onCellularDataFlowUpdated 0 3),
      .processEvent, .workUpdated true, .callbackRef, .processEvent, .processEvent,
      .workUpdated true, .callbackRef]).flatMap (valuesOf l) = [.dataFlow 1, .dataFlow 3] := by
  have h := (values_in_order Platform.dualSim Payloads.dualSim (∅ : Finset Pair)
    [.call ⟨registryManager fun _ => .telephonySuccess, .on .dataFlow 0 7 1⟩]
    [.notified (.onCellularDataFlowUpdated 0 1), .notified (.onCellularDataFlowUpdated 1 2),
      .notified (.onCellularDataFlowUpdated 0 3), .processEvent, .workUpdated true, .callbackRef,
      .processEvent, .processEvent, .workUpdated true, .callbackRef]
    ⟨.event .dataFlow, 0, 7, 1⟩).2 ?_
  · exact (List.append_nil _).symm.trans h
  · refine ⟨⟨?_, ?_⟩, ⟨?_, ?_⟩, ⟨?_, ?_⟩, ⟨?_, ?_⟩, ⟨?_, ?_⟩, ⟨?_, ?_⟩, ⟨?_, ?_⟩, ⟨?_, ?_⟩,
      ⟨?_, ?_⟩, ⟨?_, ?_⟩, trivial⟩
    all_goals first
      | exact List.mem_cons_self
      | exact rfl
      | trivial

private theorem chosen_next (h : l.isDeleting ∈ s.observers.deleting) (step : RunnerStep P σ) :
    valuesOf l ((runner K σ).out s step) ++ valuesOf l ((runner K σ).next s step).chosen =
      valuesOf l s.chosen := by
  obtain ⟨observers, events, data, snapshot, chosen⟩ := s
  cases step with
  | notified callback => rfl
  | call request => rfl
  | callbackRef => exact List.append_nil _
  | processEvent =>
    match chosen, snapshot, events with
    | some _, _, _ => rfl
    | none, _ :: _, _ => rfl
    | none, [], [] => rfl
    | none, [], event :: events => rfl
  | workUpdated makeData =>
    match chosen, snapshot with
    | some _, _ => rfl
    | none, [] => rfl
    | none, listen :: snapshot =>
      have hnone : valuesOf l none = [] := rfl
      simp only [Mealy.out, Mealy.next, runner, valuesOf_mk, hnone, List.nil_append]
      by_cases hl : listen = l
      · subst hl
        have hflagged : workUpdated K observers.deleting listen data = none := if_pos (Or.inr h)
        rw [hflagged, ite_self, if_pos rfl]
        rfl
      · exact if_neg hl

/-- **After `Off`.** When an `Off` has taken a listener off, its function is called once more
if the thread of the handler had just chosen it, and not at all otherwise, whatever is done
to the table later. -/
theorem silent_after_off (P : Platform) {σ : Type} (K : Payloads P) (w : σ)
    (before steps : List (RunnerStep P σ)) (r : Request σ) (l : EventListener) :
    let s := (runner K σ).run (.start P w) before
    let t := (runner K σ).next s (.call r)
    l ∈ s.observers.listeners → r.call.unregisters l = true →
      ((runner K σ).outs t steps).flatMap (valuesOf l) ++
        valuesOf l ((runner K σ).run t steps).chosen = valuesOf l s.chosen := by
  intro s t hl hoff
  have hs : s.observers.Sound := (runner K σ).invariant (I := fun t => t.observers.Sound)
    (fun _ step h => sound_next h step) (Observers.Sound.start w) before
  have ht : l.isDeleting ∈ t.observers.deleting :=
    ((r.listeners_effect s.observers).2 _).mpr (Or.inr ⟨l, hl, hoff, rfl, (hs.made l hl).1⟩)
  have halong : (runner K σ).Along
      (fun t _ => l.isDeleting ∈ t.observers.deleting ∧ True) t steps :=
    Mealy.Along.of_invariant (I := fun t => l.isDeleting ∈ t.observers.deleting)
      (fun _ step _ h => deleting_next h step) ht
      ((runner K σ).along_of_mem (F := fun _ => True) (fun _ _ => trivial) t)
  have hstep : ∀ (t : Runner P σ) (step : RunnerStep P σ),
      l.isDeleting ∈ t.observers.deleting ∧ True →
        valuesOf l ((runner K σ).out t step) ++ valuesOf l ((runner K σ).next t step).chosen =
          valuesOf l t.chosen ++ [] :=
    fun t step h => (chosen_next h.1 step).trans (List.append_nil _).symm
  have hflow := Mealy.flow_along Accounting.eq (fun t : Runner P σ => valuesOf l t.chosen)
    hstep halong
  have hnothing : steps.flatMap (fun _ => ([] : List (Value CString))) = [] :=
    List.flatMap_eq_nil_iff.mpr fun _ _ => rfl
  rw [(runner K σ).entered_of_inputs (fun _ => []), hnothing, List.append_nil] at hflow
  exact hflow

/-- `Off` takes a listener off whose function has been chosen, and the function is called, but
not for the event that is still in the queue. -/
theorem function_called_after_off :
    let l : EventListener := ⟨.event .iccAccount, 0, 7, 1⟩
    let manager := registryManager fun _ => .telephonySuccess
    let machine := runner Payloads.dualSim (Finset Pair)
    let s := machine.run (.start .dualSim ∅) [.call ⟨manager, .on .iccAccount 0 7 1⟩,
      .notified .onIccAccountUpdated, .notified .onIccAccountUpdated, .processEvent,
      .workUpdated true]
    (machine.outs (machine.next s (.call ⟨manager, .off .iccAccount 7⟩))
      [.callbackRef, .processEvent, .workUpdated true, .callbackRef]).flatMap (valuesOf l) =
        [.iccAccount] := by
  have h := silent_after_off Platform.dualSim Payloads.dualSim (∅ : Finset Pair)
    [.call ⟨registryManager fun _ => .telephonySuccess, .on .iccAccount 0 7 1⟩,
      .notified .onIccAccountUpdated, .notified .onIccAccountUpdated, .processEvent,
      .workUpdated true]
    [.callbackRef, .processEvent, .workUpdated true, .callbackRef]
    ⟨registryManager fun _ => .telephonySuccess, .off .iccAccount 7⟩
    ⟨.event .iccAccount, 0, 7, 1⟩ List.mem_cons_self rfl
  exact (List.append_nil _).symm.trans h

end Cj

end TelephonyStateRegistry
