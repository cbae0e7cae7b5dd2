import TelephonyStateRegistry.Client.Unsubscription
import TelephonyStateRegistry.Correctness.Removal

/-!
# An `off` with a callback

An `off` that captures a reference to its callback drops the listeners of that
callback alone. Two of the entry points accept a callback and capture nothing, and
so drop every listener of the environment and the event.
-/

namespace TelephonyStateRegistry

open Reactive

variable {P : Platform} {σ : Type}

namespace Napi

/-- The callback that a call of an entry point names, if it is one. -/
def Argument.callback : Argument → Option (Option Pointer)
  | missing | undefined | null => some none
  | function ref => some (some ref)
  | other => none

/-- Whether a listener is one that an `off` with such a callback is for. -/
def isFor (isCallBackRegister : IsCallBackRegister) (env : Pointer)
    (eventType : TelephonyUpdateEventType) (callback : Option Pointer)
    (listener : EventListener) : Bool :=
  match callback with
  | none => matchesEvent env eventType listener
  | some ref => matchesCallback isCallBackRegister env eventType ref listener

/-- What an `off` owes: it removes the listeners that it is for, and every other one
stays as it was and is served as before. -/
structure OffContract (P : Platform) (removed : EventListener → Bool)
    (before after : EventListenerHandler) : Prop where
  remaining : after.listenerList = before.listenerList.filter fun l => !removed l
  unset : ∀ l ∈ after.listenerList, l.isDeleting ∉ after.deleting
  queued : ∀ (event : InnerEvent P) (slotId : Int),
    processEvent event (fun _ => .succeeding slotId) after.listenerList =
      (processEvent event (fun _ => .succeeding slotId) before.listenerList).filter
        fun item => !removed item.listener
  /-- Their work items, also those that are queued already, do what they did before. -/
  served : ∀ item : WorkItem P, item.listener ∈ after.listenerList → ∀ answers,
    workUpdated after.deleting item answers = workUpdated before.deleting item answers

/-- Whether an entry point captures a reference to its callback. -/
def OffRoute.captures : OffRoute → Bool
  | off _ | offGetSimActiveState => true
  | offCCallStateChange | offVoIPStateChange => false

/-- The listeners that an entry point removes. -/
def OffRoute.removes (isCallBackRegister : IsCallBackRegister) (env : Pointer)
    (callback : Option Pointer) (route : OffRoute) : EventListener → Bool :=
  isFor isCallBackRegister env route.eventType (if route.captures then callback else none)

section Routes

variable (M : StateManager σ) (isCallBackRegister : IsCallBackRegister) (env : Pointer)
  {matchParameters : MatchParameters} {argument : Argument} {callback : Option Pointer}

private theorem off_new (event : ObserverMask) (hne : callback ≠ some nullptr)
    (s : EventListenerHandler × σ) :
    (offWith P M isCallBackRegister env
        (some (.new (.event event) defaultSimSlotId (callback.getD nullptr))) s).1 =
      (removeListeners P M (isFor isCallBackRegister env (.event event) callback) s).1 := by
  simp only [offWith, Napi.off, ObserverContext.new, reduceCtorEq, if_false]
  cases callback with
  | none => rfl
  | some ref =>
    have href : ref ≠ nullptr := fun h => hne (congrArg some h)
    simp only [nativeOff, Option.getD_some, if_neg href]
    rfl

private theorem OffRoute.call_eq (hmatch : Documented matchParameters)
    (hargument : argument.callback = some callback) (hne : callback ≠ some nullptr)
    (route : OffRoute) (s : EventListenerHandler × σ) :
    (route.call P M isCallBackRegister matchParameters env argument s).1 =
      (removeListeners P M (route.removes isCallBackRegister env callback) s).1 := by
  have hcaptured : matchParameters (countedCallback argument) = some (callback.getD nullptr) := by
    cases argument with
    | function ref =>
      cases hargument
      exact hmatch.function ref fun h => hne (congrArg some h)
    | other => cases hargument
    | missing | undefined | null =>
      cases hargument
      exact hmatch.none
  have htype (eventType : TelephonyUpdateEventType) : contextByType eventType argument =
      some (.new eventType defaultSimSlotId nullptr) := by
    cases argument with
    | other => cases hargument
    | missing | undefined | null | function ref => rfl
  cases route with
  | off event =>
    simp only [OffRoute.call, offEvent, hcaptured, Option.map_some]
    exact off_new M isCallBackRegister env _ hne s
  | offGetSimActiveState =>
    simp only [OffRoute.call, offSimActiveState, hcaptured, Option.map_some]
    exact off_new M isCallBackRegister env _ hne s
  | offCCallStateChange =>
    simp only [OffRoute.call, Napi.offCCallStateChange, htype]
    exact off_new M isCallBackRegister env _ (Option.some_ne_none nullptr).symm s
  | offVoIPStateChange =>
    simp only [OffRoute.call, Napi.offVoIPStateChange, htype]
    exact off_new M isCallBackRegister env _ (Option.some_ne_none nullptr).symm s

end Routes

private theorem offContract_removeListeners {handler : EventListenerHandler}
    (hflags : handler.OwnFlags) (M : StateManager σ) (removed : EventListener → Bool) (w : σ) :
    OffContract P removed handler (removeListeners P M removed (handler, w)).1.1 := by
  have hlist : (removeListeners P M removed (handler, w)).1.1.listenerList =
      handler.listenerList.filter fun l => !removed l :=
    (sharing P).release_table (M.provider isUpdate)
  have hunset : ∀ l ∈ handler.listenerList, removed l = false →
      l.isDeleting ∉ (removeListeners P M removed (handler, w)).1.1.deleting := by
    intro l hl hkept hmem
    rw [(hflags.flagged_iff hl).mp hmem] at hkept
    cases hkept
  refine ⟨hlist, ?_, ?_, ?_⟩
  · intro l hl
    rw [hlist, List.mem_filter, Bool.not_eq_true'] at hl
    exact hunset l hl.1 hl.2
  · intro event slotId
    rw [hlist, processEvent_part event slotId fun l => !removed l]
  · intro item hitem answers
    rw [hlist, List.mem_filter, Bool.not_eq_true'] at hitem
    simp only [workUpdated, hunset _ hitem.1 hitem.2, hflags.unset _ hitem.1]

private theorem OffContract.congr {removed removed' : EventListener → Bool}
    {before after : EventListenerHandler} (h : OffContract P removed before after)
    (hsame : ∀ l ∈ before.listenerList, removed l = removed' l) :
    OffContract P removed' before after where
  remaining := by
    rw [h.remaining]
    exact List.filter_congr fun l hl => congrArg not (hsame l hl)
  unset := h.unset
  queued event slotId := by
    rw [h.queued]
    refine List.filter_congr fun item hitem => congrArg not (hsame _ ?_)
    have hmem := (processEvent_sublist event _).subset (List.mem_map_of_mem (f := WorkItem.listener)
      hitem)
    exact (List.mem_filter.mp hmem).1
  served := h.served

/-- **Which entry points remove exactly what they are asked for.** For every table, an
`off` meets its contract if and only if it names no callback, or its entry point
captures it, or it is the callback of every listener of the environment and event. -/
theorem off_meets_contract_iff {matchParameters : MatchParameters}
    (hmatch : Documented matchParameters) (M : StateManager σ)
    (isCallBackRegister : IsCallBackRegister) (env : Pointer) (route : OffRoute)
    {argument : Argument} {callback : Option Pointer}
    (hargument : argument.callback = some callback) (hne : callback ≠ some nullptr)
    {handler : EventListenerHandler} (hflags : handler.OwnFlags) (w : σ) :
    OffContract P (isFor isCallBackRegister env route.eventType callback) handler
        (route.call P M isCallBackRegister matchParameters env argument (handler, w)).1.1 ↔
      ∀ ref ∈ callback, route.captures = true ∨ ∀ l ∈ handler.listenerList,
        matchesEvent env route.eventType l = true →
          isCallBackRegister env ref l.callbackRef = true := by
  rw [route.call_eq M isCallBackRegister env hmatch hargument hne]
  have hcontract := offContract_removeListeners (P := P) hflags M
    (route.removes isCallBackRegister env callback) w
  cases callback with
  | none =>
    refine iff_of_true ?_ fun _ h => absurd h (Option.not_mem_none _)
    have hremoves : route.removes isCallBackRegister env none =
        isFor isCallBackRegister env route.eventType none := by
      rw [OffRoute.removes, ite_self]
    exact hremoves ▸ hcontract
  | some ref =>
    simp only [Option.mem_some_iff, forall_eq']
    cases hcaptures : route.captures with
    | true =>
      refine iff_of_true ?_ (Or.inl rfl)
      have hremoves : route.removes isCallBackRegister env (some ref) =
          isFor isCallBackRegister env route.eventType (some ref) := by
        rw [OffRoute.removes, if_pos hcaptures]
      exact hremoves ▸ hcontract
    | false =>
      have hremoves : route.removes isCallBackRegister env (some ref) =
          matchesEvent env route.eventType := by
        rw [OffRoute.removes, if_neg (Bool.not_eq_true _ ▸ hcaptures)]
        rfl
      rw [hremoves] at hcontract ⊢
      rw [or_iff_right Bool.false_ne_true]
      constructor
      · intro h l hl hmatches
        by_contra hnot
        rw [Bool.not_eq_true] at hnot
        have hmem : l ∈ handler.listenerList.filter
            fun l => !isFor isCallBackRegister env route.eventType (some ref) l := by
          refine List.mem_filter.mpr ⟨hl, ?_⟩
          rw [Bool.not_eq_true', isFor, matchesCallback, hnot, Bool.and_false]
        rw [← h.remaining, hcontract.remaining, List.mem_filter, hmatches] at hmem
        exact absurd hmem.2 Bool.false_ne_true
      · intro h
        refine hcontract.congr fun l hl => ?_
        rw [isFor, matchesCallback]
        cases hmatches : matchesEvent env route.eventType l with
        | false =>
          rw [matchesEvent] at hmatches
          rw [hmatches, Bool.false_and]
        | true =>
          rw [h l hl hmatches, Bool.and_true]
          exact hmatches.symm

/-- With a callback of one of two listeners, `offCCallStateChange` removes both. -/
theorem ccall_callback_dropped :
    let handler : EventListenerHandler :=
      ⟨[⟨1, .event .ccallState, -1, 2, 3⟩, ⟨1, .event .ccallState, -1, 4, 5⟩], ∅⟩
    let function : Pointer → Nat := fun ref => if ref = 6 then 2 else ref
    let isCallBackRegister : IsCallBackRegister := fun _ ref ref' => function ref = function ref'
    let M := recordingManager fun _ => .telephonySuccess
    let after := (OffRoute.offCCallStateChange.call Platform.dualSim M isCallBackRegister
      matchFunction 1 (.function 6) (handler, [])).1.1
    after.listenerList = [] ∧
      ¬OffContract Platform.dualSim
        (isFor isCallBackRegister 1 (.event .ccallState) (some 6)) handler after := by
  intro handler function isCallBackRegister M after
  have hafter : after.listenerList = [] := by decide
  refine ⟨hafter, ?_⟩
  intro h
  have hremaining := h.remaining
  rw [hafter] at hremaining
  revert hremaining
  decide

/-- The sibling entry point removes the one listener of that callback. -/
theorem sim_active_callback_removed :
    let handler : EventListenerHandler :=
      ⟨[⟨1, .event .simActiveState, 0, 2, 3⟩, ⟨1, .event .simActiveState, 0, 4, 5⟩], ∅⟩
    let function : Pointer → Nat := fun ref => if ref = 6 then 2 else ref
    let isCallBackRegister : IsCallBackRegister := fun _ ref ref' => function ref = function ref'
    let M := recordingManager fun _ => .telephonySuccess
    OffContract Platform.dualSim
      (isFor isCallBackRegister 1 (.event .simActiveState) (some 6)) handler
      (OffRoute.offGetSimActiveState.call Platform.dualSim M isCallBackRegister matchFunction 1
        (.function 6) (handler, [])).1.1 := by
  intro handler function isCallBackRegister M
  refine (off_meets_contract_iff matchFunction_documented M isCallBackRegister 1
    .offGetSimActiveState rfl (by decide) ⟨?_, ?_, ?_⟩ []).mpr fun _ _ => Or.inl rfl
  · decide
  · decide
  · decide

end Napi

end TelephonyStateRegistry
