import TelephonyStateRegistry.Client.Dispatch

/-!
# The work functions of the JS front end

`WorkUpdated` runs on the thread of an environment and takes the lock of the
handler. The function that it selects gives the lock back, at the latest before
it calls the callback of the listener.
-/

namespace TelephonyStateRegistry

variable {P : Platform}

namespace Napi

/-- What a work item does with the lock and with the engine. -/
inductive WorkAction (P : Platform)
  | lock
  | unlock
  /-- `napi_open_handle_scope`, which may fail. -/
  | openHandleScope (opened : Bool)
  /-- `napi_close_handle_scope`. -/
  | closeHandleScope
  /-- `napi_get_reference_value`. -/
  | getReferenceValue (callbackRef : Pointer)
  /-- `napi_call_function`, with the value made from the info of the item. -/
  | callFunction (item : WorkItem P)
  /-- The use of a null element, with which the process ends. -/
  | nullDereference

/-- What the engine answers to a work item. -/
structure WorkAnswers where
  /-- Whether the scope of the work function can be opened. -/
  workScope : Bool
  /-- Whether the scope of `NapiReturnToJS` can be opened. -/
  returnScope : Bool
  /-- Whether the reference still leads to a function. -/
  callbackFunc : Bool

/-- The functions of `workFuncMap_`. -/
inductive WorkFunc
  | workCallStateUpdated
  | workCallStateExUpdated
  | workSignalUpdated
  | workNetworkStateUpdated
  | workSimStateUpdated
  | workCellInfomationUpdated
  | workCellularDataConnectStateUpdated
  | workCellularDataFlowUpdated
  | workCfuIndicatorUpdated
  | workVoiceMailMsgIndicatorUpdated
  | workIccAccountUpdated
  | workCCallStateUpdated
  | workSimActiveUpdated
  | workVoIPStateUpdated
  deriving DecidableEq, Repr

/-- `workFuncMap_`. -/
def workFuncMap : TelephonyUpdateEventType → Option WorkFunc
  | .noneEventType => none
  | .event m => match m with
    | .callState => some .workCallStateUpdated
    | .callStateEx => some .workCallStateExUpdated
    | .signalStrengths => some .workSignalUpdated
    | .networkState => some .workNetworkStateUpdated
    | .simState => some .workSimStateUpdated
    | .cellInfo => some .workCellInfomationUpdated
    | .dataConnectionState => some .workCellularDataConnectStateUpdated
    | .dataFlow => some .workCellularDataFlowUpdated
    | .cfuIndicator => some .workCfuIndicatorUpdated
    | .voiceMailMsgIndicator => some .workVoiceMailMsgIndicatorUpdated
    | .iccAccount => some .workIccAccountUpdated
    | .ccallState => some .workCCallStateUpdated
    | .simActiveState => some .workSimActiveUpdated
    | .voipCallState => some .workVoIPStateUpdated

/-- The network state of a `NetworkStateContext`. -/
def WorkItem.networkState (item : WorkItem P) : Option P.NetworkState :=
  match item.info with
  | some ⟨_, .onNetworkStateUpdated _ networkState⟩ => networkState
  | _ => none

/-- Whether a function converts the elements of a list, none of which it checks. -/
def WorkFunc.readsElements : WorkFunc → Bool
  | workSignalUpdated | workCellInfomationUpdated => true
  | _ => false

/-- Whether the list of a `SignalListContext` or a `CellInfomationContext` has a null element. -/
def WorkItem.hasNull (item : WorkItem P) : Bool :=
  match item.info with
  | some ⟨_, .onSignalInfoUpdated _ signalInfoList⟩ => signalInfoList.any Option.isNone
  | some ⟨_, .onCellInfoUpdated _ cellInfoVec⟩ => cellInfoVec.any Option.isNone
  | _ => false

/-- `NapiReturnToJS`. -/
def napiReturnToJS (item : WorkItem P) (answers : WorkAnswers) : List (WorkAction P) :=
  .openHandleScope answers.returnScope ::
    if answers.returnScope = false then [.unlock]
    else if item.listener.callbackRef = nullptr then [.closeHandleScope, .unlock]
    else .getReferenceValue item.listener.callbackRef ::
      if answers.callbackFunc = false then [.closeHandleScope, .unlock]
      else [.unlock, .callFunction item, .closeHandleScope]

/-- The work functions, which differ in the value that they make. Without a
network state `WorkNetworkStateUpdated` leaves its scope open. -/
def WorkFunc.work (workFunc : WorkFunc) (item : WorkItem P) (answers : WorkAnswers) :
    List (WorkAction P) :=
  .openHandleScope answers.workScope ::
    if answers.workScope = false then [.unlock]
    else if workFunc = .workNetworkStateUpdated ∧ item.networkState.isNone then [.unlock]
    else if workFunc.readsElements ∧ item.hasNull then [.nullDereference]
    else napiReturnToJS item answers ++ [.closeHandleScope]

/-- `WorkUpdated`, with the flags that are set. -/
def workUpdated (deleting : Finset Pointer) (item : WorkItem P) (answers : WorkAnswers) :
    List (WorkAction P) :=
  .lock ::
    if item.listener.isDeleting = nullptr ∨ item.listener.isDeleting ∈ deleting then [.unlock]
    else match workFuncMap item.listener.eventType with
      | none => [.unlock]
      | some workFunc => workFunc.work item answers

/-- Whether an action gives the lock back. -/
def WorkAction.unlocks : WorkAction P → Bool
  | unlock => true
  | _ => false

/-- What is done up to the return of the lock, and what is done after it. -/
def splitAtUnlock : List (WorkAction P) → List (WorkAction P) × List (WorkAction P)
  | [] => ([], [])
  | action :: actions =>
    if action.unlocks then ([action], actions)
    else (action :: (splitAtUnlock actions).1, (splitAtUnlock actions).2)

/-- An action that neither reads a reference nor calls a function. -/
def WorkAction.quiet : WorkAction P → Bool
  | getReferenceValue _ => false
  | callFunction _ => false
  | _ => true

private theorem work_split (workFunc : WorkFunc) (item : WorkItem P) (answers : WorkAnswers) :
    (∀ action ∈ (splitAtUnlock (workFunc.work item answers)).1, action.quiet = true ∨
      (action = .getReferenceValue item.listener.callbackRef ∧
        item.listener.callbackRef ≠ nullptr)) ∧
    (∀ action ∈ (splitAtUnlock (workFunc.work item answers)).2, action.quiet = true ∨
      action = .callFunction item) ∧
    (∀ action ∈ (splitAtUnlock (workFunc.work item answers)).2.tail, action.quiet = true) := by
  unfold WorkFunc.work napiReturnToJS
  split_ifs <;>
    simp [splitAtUnlock, WorkAction.unlocks, WorkAction.quiet, *]

/-- A work item whose flag is set neither reads its reference nor calls its function. -/
theorem workUpdated_split (deleting : Finset Pointer) (item : WorkItem P)
    (answers : WorkAnswers) :
    (∀ action ∈ (splitAtUnlock (workUpdated deleting item answers)).1, action.quiet = true ∨
      (action = .getReferenceValue item.listener.callbackRef ∧
        item.listener.callbackRef ≠ nullptr ∧ item.listener.isDeleting ∉ deleting)) ∧
    (∀ action ∈ (splitAtUnlock (workUpdated deleting item answers)).2, action.quiet = true ∨
      (action = .callFunction item ∧ item.listener.isDeleting ∉ deleting)) ∧
    (∀ action ∈ (splitAtUnlock (workUpdated deleting item answers)).2.tail,
      action.quiet = true) := by
  have hlock (actions : List (WorkAction P)) : splitAtUnlock (.lock :: actions) =
      (.lock :: (splitAtUnlock actions).1, (splitAtUnlock actions).2) := rfl
  have hunlock : splitAtUnlock ([.unlock] : List (WorkAction P)) = ([.unlock], []) := rfl
  rw [workUpdated, hlock]
  simp only [List.forall_mem_cons]
  split_ifs with hflag
  · rw [hunlock]
    simp [WorkAction.quiet]
  · have hnot : item.listener.isDeleting ∉ deleting := fun h => hflag (Or.inr h)
    cases hfunc : workFuncMap item.listener.eventType with
    | none =>
      rw [hunlock]
      simp [WorkAction.quiet]
    | some workFunc =>
      obtain ⟨hbefore, hafter, htail⟩ := work_split workFunc item answers
      refine ⟨⟨Or.inl rfl, ?_⟩, ?_, htail⟩
      · intro action h
        exact (hbefore action h).imp_right fun h => ⟨h.1, h.2, hnot⟩
      · intro action h
        exact (hafter action h).imp_right fun h => ⟨h, hnot⟩

end Napi

end TelephonyStateRegistry
