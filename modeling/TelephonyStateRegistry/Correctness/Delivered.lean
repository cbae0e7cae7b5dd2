import TelephonyStateRegistry.Correctness.Passage

/-!
# The values that a JS function is called with

The event loops, not the front end, decide in which order the work items of an environment
are taken up. If they take them up in turn and nothing fails, the function of a listener that
stays in the table is called with the values that the callbacks have for it, in their order.
-/

namespace TelephonyStateRegistry

open Reactive

variable {P : Platform} {σ : Type}

/-- Whether a callback carries a null pointer. -/
def Callback.hasNull : Callback P → Bool
  | onSignalInfoUpdated _ signalInfoList => signalInfoList.any Option.isNone
  | onCellInfoUpdated _ vec => vec.any Option.isNone
  | onNetworkStateUpdated _ networkState => networkState.isNone
  | _ => false

namespace Napi

/-- The value with which an action calls the function of a listener. -/
def WorkAction.valueTo (K : Payloads P) (l : EventListener) : WorkAction P → Option (Value String)
  | callFunction item => if item.listener = l then (callFunction item).value K else none
  | _ => none

/-- The values with which actions call the function of a listener. -/
def valuesTo (K : Payloads P) (l : EventListener) (actions : List (WorkAction P)) :
    List (Value String) :=
  actions.filterMap (WorkAction.valueTo K l)

/-- The callback with which a step notifies the observer. -/
def ThreadStep.notification : ThreadStep P σ → Option (Callback P)
  | .notified callback => some callback
  | _ => none

/-- No attempt to queue a work item fails in a step, and no answer of the engine. -/
def ThreadStep.Succeeds : ThreadStep P σ → Prop
  | .processEvent attempts => ∀ i, (attempts i).Succeeds
  | .workUpdated _ answers => answers = .succeeding
  | _ => True

/-- The observer is notified of some callbacks in the course of a run. Nothing fails, the
listeners stay, and at its end nothing is under way for them, as at its start. -/
structure Threads.Delivers (s : Threads P σ) (steps : List (ThreadStep P σ))
    (callbacks : List (Callback P)) : Prop where
  notified : steps.filterMap ThreadStep.notification = callbacks
  succeeds : ∀ step ∈ steps, step.Succeeds
  stays : (threads P σ).Along (fun t _ => ∀ l ∈ s.listeners, l ∈ t.listeners) s steps
  before : ∀ l ∈ s.listeners, s.pending l = []
  after : ∀ l ∈ s.listeners, ((threads P σ).run s steps).pending l = []

/-- Listeners stay as long as JS code neither registers nor removes any. -/
theorem stays_of_keepsTable {s : Threads P σ} {steps : List (ThreadStep P σ)}
    (h : ∀ step ∈ steps, step.keepsTable = true) :
    (threads P σ).Along (fun t _ => ∀ l ∈ s.listeners, l ∈ t.listeners) s steps := by
  have hkept := Mealy.Along.of_invariant (I := fun t : Threads P σ => t.listeners = s.listeners)
    (fun t step hstep ht => (listeners_next_of_keepsTable hstep).trans ht) rfl
    ((threads P σ).along_of_mem (F := fun step => step.keepsTable = true) h s)
  exact hkept.mono fun t step ht l hl => ht.1 ▸ hl

/-- The value that is made of an info for a listener. -/
private def valueIn (K : Payloads P) (l : EventListener) (info : Option (UpdateInfo P)) :
    Option (Value String) :=
  (workFuncMap l.eventType).bind fun workFunc => workFunc.value K info

private theorem valuesTo_eq (K : Payloads P) (l : EventListener)
    (actions : List (WorkAction P)) :
    valuesTo K l actions = (callsTo l actions).filterMap (valueIn K l) := by
  rw [valuesTo, callsTo, List.filterMap_filterMap]
  refine List.filterMap_congr fun action _ => ?_
  cases action with
  | callFunction item =>
    rw [WorkAction.valueTo, called, WorkItem.carried]
    split_ifs with hl
    · rw [← hl]
      rfl
    · rfl
  | _ => rfl

private theorem valueFor_eq (K : Payloads P) (l : EventListener) (callback : Callback P) :
    valueFor K l callback = ((sendEvent callback).offered l).bind (valueIn K l) := by
  rw [valueFor, InnerEvent.offered]
  split_ifs <;> rfl

private theorem flatMap_brings (l : EventListener) (steps : List (ThreadStep P σ)) :
    steps.flatMap (ThreadStep.brings l) =
      (steps.filterMap ThreadStep.notification).filterMap
        fun callback => (sendEvent callback).offered l := by
  induction steps with
  | nil => rfl
  | cons step steps ih =>
    rw [List.flatMap_cons, ih]
    cases step with
    | notified callback =>
      change ((sendEvent callback).offered l).toList ++ _ = (callback :: _).filterMap _
      rw [List.filterMap_cons]
      cases (sendEvent callback).offered l <;> rfl
    | _ => rfl

/-- An info of which the work function of a listener can make a value. -/
private def Whole (l : EventListener) (info : Option (UpdateInfo P)) : Prop :=
  (⟨l, info⟩ : WorkItem P).hasNull = false ∧
    (l.eventType = .event .networkState → (⟨l, info⟩ : WorkItem P).networkState.isSome)

private theorem whole_of_offered {l : EventListener} {callback : Callback P}
    (h : callback.hasNull = false) {info : Option (UpdateInfo P)}
    (hoffered : info ∈ (sendEvent callback).offered l) : Whole l info := by
  rw [InnerEvent.offered, Option.mem_def] at hoffered
  split_ifs at hoffered with hserves
  rw [← Option.some.inj hoffered]
  cases callback with
  | onNetworkStateUpdated slotId networkState =>
    refine ⟨rfl, fun _ => ?_⟩
    change networkState.isSome = true
    rw [← Option.not_isNone, show networkState.isNone = false from h]
    rfl
  | onIccAccountUpdated =>
    refine ⟨rfl, fun hevent => ?_⟩
    have hicc : l.eventType = .event .iccAccount := of_decide_eq_true hserves
    rw [hevent] at hicc
    cases hicc
  | _ =>
    refine ⟨by first | rfl | exact h, fun hevent => ?_⟩
    have hsame := (isNeedHandleCallbackUpdate_iff.mp hserves).1
    rw [hevent] at hsame
    cases hsame

private theorem serves_of_succeeds {l : EventListener} {s : Threads P σ} {step : ThreadStep P σ}
    (hwhole : ∀ info ∈ s.pending l, Whole l info) (h : step.Succeeds) : s.Serves l step := by
  cases step with
  | processEvent attempts => exact h
  | workUpdated index answers =>
    rintro ⟨listener, info⟩ hitem hl
    have hinfo : info ∈ s.pending l := by
      refine List.mem_append_left _ (List.mem_append_right _ (List.mem_filterMap.mpr ?_))
      exact ⟨_, List.mem_of_getElem? hitem, if_pos hl⟩
    obtain ⟨hnull, hnetwork⟩ := hwhole info hinfo
    exact ⟨h, hnull, hnetwork⟩
  | _ => trivial

private theorem Threads.Delivers.serves {s : Threads P σ} (hs : s.Tidy)
    {steps : List (ThreadStep P σ)} {callbacks : List (Callback P)}
    (h : s.Delivers steps callbacks) (hnull : ∀ c ∈ callbacks, c.hasNull = false)
    {l : EventListener} (hl : l ∈ s.listeners) :
    (threads P σ).Along (fun t step => l ∈ t.listeners ∧ t.Serves l step) s steps := by
  have hbrings : ∀ step ∈ steps, ∀ info ∈ step.brings l, Whole l info := by
    intro step hstep info hinfo
    cases step with
    | notified callback =>
      have hcallback : callback ∈ callbacks :=
        h.notified ▸ List.mem_filterMap.mpr ⟨_, hstep, rfl⟩
      exact whole_of_offered (hnull callback hcallback) (Option.mem_toList.mp hinfo)
    | _ => exact absurd hinfo List.not_mem_nil
  have halong := h.stays.and ((threads P σ).along_of_mem (F := fun step : ThreadStep P σ =>
    (∀ info ∈ step.brings l, Whole l info) ∧ step.Succeeds)
    (fun step hstep => ⟨hbrings step hstep, h.succeeds step hstep⟩) s)
  -- what is under way is whole, since nothing is made up on the way
  have hkept := Mealy.Along.of_invariant
    (I := fun t : Threads P σ => t.Tidy ∧ ∀ info ∈ t.pending l, Whole l info)
    (fun t step hstep ht => ⟨ht.1.next step, fun info hinfo => ?_⟩) ⟨hs, ?_⟩ halong
  · exact hkept.mono fun t step ht => ⟨ht.2.1 l hl, serves_of_succeeds ht.1.2 ht.2.2.2⟩
  · have hflow := ht.1.sound.flow .subperm (ht.1.passes l step)
    rcases List.mem_append.mp (hflow.subset (List.mem_append_right _ hinfo)) with hold | hnew
    · exact ht.2 info hold
    · exact hstep.2.1 info hnew
  · rw [h.before l hl]
    exact fun info hinfo => absurd hinfo List.not_mem_nil

/-- **The values of a listener.** If the loops take up their work in turn, the function of a
listener is called with the values that the callbacks have for it, in their order. -/
theorem Threads.Delivers.values {s : Threads P σ} (hs : s.Tidy) {steps : List (ThreadStep P σ)}
    {callbacks : List (Callback P)} (h : s.Delivers steps callbacks)
    (hturn : (threads P σ).Along Threads.InTurn s steps)
    (hnull : ∀ c ∈ callbacks, c.hasNull = false) (K : Payloads P) {l : EventListener}
    (hl : l ∈ s.listeners) (hservable : l.Servable) :
    ((threads P σ).outs s steps).flatMap (valuesTo K l) = callbacks.filterMap (valueFor K l) := by
  have hcalls := hs.calls_in_turn hservable hturn (h.serves hs hnull hl)
  rw [h.before l hl, h.after l hl, List.append_nil, List.nil_append, flatMap_brings,
    h.notified] at hcalls
  have hvalues : valuesTo K l = fun actions => (callsTo l actions).filterMap (valueIn K l) :=
    funext (valuesTo_eq K l)
  rw [hvalues, ← List.filterMap_flatMap, hcalls, List.filterMap_filterMap]
  exact List.filterMap_congr fun callback _ => (valueFor_eq K l callback).symm

end Napi

end TelephonyStateRegistry
