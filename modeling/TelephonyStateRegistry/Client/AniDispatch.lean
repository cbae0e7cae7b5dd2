import TelephonyStateRegistry.Client.Ani
import TelephonyStateRegistry.Client.Payloads

/-!
# The calls that ArkTS static listeners are told of

`AniTelephonyObserver` passes a state on as the service has sent it. `Register`
makes it an enumerator, compares the callback with every listener of its table,
and executes the functions on the spot. A listener has the flavor of its event.
-/

namespace TelephonyStateRegistry

variable {P : Platform}

/-- The two callbacks for calls that every front end implements. -/
inductive CallUpdate
  | onCallStateUpdated (slotId callState : Int) (phoneNumber : U16String)
  | onCallStateUpdatedEx (slotId callStateEx : Int)

namespace CallUpdate

/-- The update as the service makes it. -/
def callback : CallUpdate → Callback P
  | onCallStateUpdated slotId callState phoneNumber =>
    .onCallStateUpdated slotId callState phoneNumber
  | onCallStateUpdatedEx slotId callStateEx => .onCallStateUpdatedEx slotId callStateEx

/-- The slot and the event of an update. -/
def pair : CallUpdate → Pair
  | onCallStateUpdated slotId _ _ => ⟨slotId, .event .callState⟩
  | onCallStateUpdatedEx slotId _ => ⟨slotId, .event .callStateEx⟩

/-- The native state of an update. -/
def state : CallUpdate → Int
  | onCallStateUpdated _ callState _ => callState
  | onCallStateUpdatedEx _ callStateEx => callStateEx

end CallUpdate

namespace Ani

/-- `CallState::from`. -/
def callStateFrom : Int → CallState
  | -1 => .unknown
  | 0 => .idle
  | 1 => .ringing
  | 2 => .offhook
  | 3 => .answered
  | _ => .unknown

/-- `TelCallState::from`. -/
def telCallStateFrom : Int → TelCallState
  | 0 => .idle
  | 1 => .ringing
  | 2 => .offhook
  | 3 => .answered
  | 4 => .connected
  | _ => .unknown

/-- `CallStateAni`. -/
structure CallStateAni where
  state : Int
  teleNumber : String

/-- `CallStateInfo`. -/
structure CallStateInfo where
  state : CallState
  teleNumber : String

/-- `CallStateInfo::from`. -/
def callStateInfoFrom (callState : CallStateAni) : CallStateInfo where
  state := callStateFrom callState.state
  teleNumber := callState.teleNumber

/-- A function that is executed. -/
abbrev Execution := TelephonyStateRegistry.Execution EventListener String

/-- The loop of the functions that execute callbacks. -/
def execute (inner : List EventListener) (eventType : TelephonyUpdateEventType) (slotId : Int)
    (value : Value String) : List Execution :=
  inner.filterMap fun listenItem =>
    if listenItem.eventType ≠ eventType ∨ listenItem.slotId ≠ slotId then none
    else some ⟨listenItem, value⟩

/-- `execute_on_call_state_change`. -/
def executeOnCallStateChange (inner : List EventListener) (slotId : Int)
    (callState : CallStateAni) : List Execution :=
  let argv := callStateInfoFrom callState
  execute inner (.event .callState) slotId (.callState argv.state.toInt32 argv.teleNumber)

/-- `execute_on_call_state_ex_change`. -/
def executeOnCallStateExChange (inner : List EventListener) (slotId callStateEx : Int) :
    List Execution :=
  execute inner (.event .callStateEx) slotId (.callStateEx (telCallStateFrom callStateEx).toInt32)

/-- `AniTelephonyObserver`. A number that is not well formed is not converted, and
nothing is executed. -/
def onUpdate (K : Payloads P) (inner : List EventListener) : CallUpdate → List Execution
  | .onCallStateUpdated slotId callState teleNumber =>
    match K.toUtf8 teleNumber with
    | none => []
    | some phoneNumber => executeOnCallStateChange inner slotId ⟨callState, phoneNumber⟩
  | .onCallStateUpdatedEx slotId callStateEx => executeOnCallStateExChange inner slotId callStateEx

/-- What a listener is given in the course of some updates. -/
def received (K : Payloads P) (inner : List EventListener) (updates : List CallUpdate)
    (listener : EventListener) : List (Value String) :=
  ((updates.flatMap (onUpdate K inner)).filter fun execution =>
    execution.listener = listener).map Execution.value

/-- The value that is made of an update. -/
def updateValue (K : Payloads P) : CallUpdate → Option (Value String)
  | .onCallStateUpdated _ callState phoneNumber =>
    (K.toUtf8 phoneNumber).map (.callState (callStateFrom callState).toInt32)
  | .onCallStateUpdatedEx _ callStateEx =>
    some (.callStateEx (telCallStateFrom callStateEx).toInt32)

/-- The value that an update has for a listener. -/
def valueFor (K : Payloads P) (listener : EventListener) (update : CallUpdate) :
    Option (Value String) :=
  if listener.pair = update.pair then updateValue K update else none

private theorem execute_eq (inner : List EventListener) (k : Pair) (value : Value String) :
    execute inner k.eventType k.slotId value = inner.filterMap fun listener =>
      (if listener.pair = k then some value else none).map (Execution.mk listener) := by
  refine List.filterMap_congr ?_
  intro listener _
  by_cases hpair : listener.pair = k
  · have hevent : listener.eventType = k.eventType := congrArg Pair.eventType hpair
    have hslot : listener.slotId = k.slotId := congrArg Pair.slotId hpair
    rw [if_neg (not_or.mpr ⟨not_not.mpr hevent, not_not.mpr hslot⟩), if_pos hpair, Option.map_some]
  · have hne : listener.eventType ≠ k.eventType ∨ listener.slotId ≠ k.slotId := by
      by_contra h
      obtain ⟨hevent, hslot⟩ := not_or.mp h
      exact hpair (congrArg₂ Pair.mk (not_not.mp hslot) (not_not.mp hevent))
    rw [if_pos hne, if_neg hpair, Option.map_none]

private theorem onUpdate_eq (K : Payloads P) (inner : List EventListener) (update : CallUpdate) :
    onUpdate K inner update = inner.filterMap fun listener =>
      (valueFor K listener update).map (Execution.mk listener) := by
  cases update with
  | onCallStateUpdatedEx slotId callStateEx =>
    exact execute_eq inner ⟨slotId, .event .callStateEx⟩ _
  | onCallStateUpdated slotId callState teleNumber =>
    rw [onUpdate]
    cases hnumber : K.toUtf8 teleNumber with
    | some phoneNumber =>
      refine (execute_eq inner ⟨slotId, .event .callState⟩ _).trans ?_
      simp only [valueFor, updateValue, hnumber, Option.map_some]
      rfl
    | none =>
      refine (List.filterMap_eq_nil_iff.mpr ?_).symm
      intro listener _
      simp only [valueFor, updateValue, hnumber, Option.map_none, ite_self]

/-- A listener gets the values that the updates have for it. -/
theorem received_eq (K : Payloads P) {inner : List EventListener} (hnodup : inner.Nodup)
    {listener : EventListener} (hl : listener ∈ inner) (updates : List CallUpdate) :
    received K inner updates listener = updates.filterMap (valueFor K listener) := by
  have hfun : onUpdate K inner = fun update => inner.filterMap fun l =>
      (valueFor K l update).map (Execution.mk l) := funext (onUpdate_eq K inner)
  rw [received, hfun]
  exact Execution.values_of_nodup hnodup hl (fun update l => valueFor K l update) updates

end Ani

end TelephonyStateRegistry
