import TelephonyStateRegistry.Client.Scripts
import TelephonyStateRegistry.Core.Counterparts
import TelephonyStateRegistry.Correctness.Flavors
import TelephonyStateRegistry.Correctness.Unsubscription

/-!
# Scripts in JS and in ArkTS static

The two modules read the arguments of a call in their own ways, and keep tables under rules of
their own. A script whose calls mean the same in both makes the same listeners. It asks for the
same as well, unless the ArkTS static module ends a removal early.
-/

namespace TelephonyStateRegistry

open Reactive

variable {P : Platform} {σ : Type}

/-! ## What the calls of a script mean -/

/-- A call that subscribes a function to an event on a slot. -/
private structure ScriptCall.Subscribes (call : ScriptCall) (m : ObserverMask) (slotId : Int)
    (callback : Pointer) (flavor : Ani.Flavor) : Prop where
  ne_null : callback ≠ nullptr
  js : ∀ {P : Platform} {σ : Type} (M : StateManager σ)
    (isCallBackRegister : Napi.IsCallBackRegister) {matchTargets : Napi.MatchTargets}
    (matchParameters : Napi.MatchParameters) (env isDeleting : Pointer)
    (s : Napi.EventListenerHandler × σ), matchTargets.Documented →
    Napi.scriptCall P M isCallBackRegister matchTargets matchParameters env isDeleting s call =
      Napi.throwing Napi.onReport (Napi.onWith P M isCallBackRegister env isDeleting
        (some ⟨.event m, slotId, callback⟩) s)
  ani : Ani.scriptCall call = some (Ani.onChange (.event m) flavor slotId callback)
  flavor : Ani.flavorOf (.event m) = some flavor
  valid : ∀ P : Platform, Napi.isValidSlotIdEx P (.event m) slotId =
    Ani.isValidSlotIdEx P slotId (.event m)

/-- A call that drops functions of an event. -/
private structure ScriptCall.Drops (call : ScriptCall) (m : ObserverMask)
    (callback : Option Pointer) (flavor : Ani.Flavor) : Prop where
  ne_null : callback ≠ some nullptr
  js : ∀ {P : Platform} {σ : Type} (M : StateManager σ)
    (isCallBackRegister : Napi.IsCallBackRegister) (matchTargets : Napi.MatchTargets)
    {matchParameters : Napi.MatchParameters} (env isDeleting : Pointer)
    (s : Napi.EventListenerHandler × σ), Napi.Documented matchParameters →
    Napi.scriptCall P M isCallBackRegister matchTargets matchParameters env isDeleting s call =
      Napi.throwing Napi.offReport (Napi.offWith P M isCallBackRegister env
        (some (.new (.event m) Napi.defaultSimSlotId (callback.getD nullptr))) s)
  ani : Ani.scriptCall call = some (Ani.offChange (.event m) flavor callback)
  flavor : Ani.flavorOf (.event m) = some flavor

private theorem onParameters_without {matchTargets : Napi.MatchTargets}
    (h : matchTargets.Documented) (type : String) (callback : Pointer) :
    Napi.onParameters matchTargets [.string type, .function callback] =
      some ⟨Napi.getEventType type, Napi.slotWithoutObject (Napi.getEventType type), callback⟩ :=
  if_pos (h _ _ (.cons rfl (.cons rfl .nil)))

private theorem onParameters_with {matchTargets : Napi.MatchTargets}
    (h : matchTargets.Documented) (type : String) (slotId : Int) (callback : Pointer) :
    Napi.onParameters matchTargets
        [.string type, .object (.number slotId), .function callback] =
      some ⟨Napi.getEventType type, slotId, callback⟩ := by
  have hmatch : matchTargets [.string, .object, .function]
      [.string type, .object (.number slotId), .function callback] = true :=
    h _ _ (.cons rfl (.cons rfl (.cons rfl .nil)))
  simp only [Napi.onParameters, Napi.onWithObject, Napi.JsValue.isObject, Bool.false_eq_true,
    if_false, hmatch, if_true]
  rfl

private theorem valid_eq {m : ObserverMask} {slotId : Int} (hm : m ≠ .voipCallState)
    (hslot : slotId ≠ simSlotIdForDefaultConnEvent) (P : Platform) :
    Napi.isValidSlotIdEx P (.event m) slotId = Ani.isValidSlotIdEx P slotId (.event m) := by
  have hcalls : Napi.isCallEvent (.event m) = true ↔
      (TelephonyUpdateEventType.event m = .event .callState ∨
        TelephonyUpdateEventType.event m = .event .callStateEx ∨
        TelephonyUpdateEventType.event m = .event .ccallState) := by
    cases m <;> first | exact absurd rfl hm | decide
  simp only [Napi.isValidSlotIdEx, Ani.isValidSlotIdEx, hcalls, hslot, decide_false,
    Bool.or_false]
  rfl

private theorem captured {callback : Option Pointer} (hcallback : callback ≠ some nullptr)
    {matchParameters : Napi.MatchParameters} (h : Napi.Documented matchParameters) :
    matchParameters (Napi.countedCallback (.ofOption callback)) =
      some (callback.getD nullptr) := by
  cases callback with
  | none => exact h.none
  | some ref => exact h.function ref fun hnull => hcallback (congrArg some hnull)

private theorem subscribes_of_name {type : String} {m : ObserverMask} {callback : Pointer}
    {flavor : Ani.Flavor} (hcallback : callback ≠ nullptr)
    (hname : Napi.getEventType type = .event m)
    (hslot : Napi.slotWithoutObject (.event m) = Ani.defaultSimSlotId)
    (hani : Ani.on type callback =
      some (Ani.onChange (.event m) flavor Ani.defaultSimSlotId callback))
    (hflavor : Ani.flavorOf (.event m) = some flavor) (hm : m ≠ .voipCallState) :
    (ScriptCall.on type none callback).Subscribes m Ani.defaultSimSlotId callback flavor where
  ne_null := hcallback
  js M isCallBackRegister matchTargets matchParameters env isDeleting s hmatch := by
    simp only [Napi.scriptCall, onParameters_without hmatch, hname, hslot]
  ani := hani
  flavor := hflavor
  valid := valid_eq hm (by decide)

private theorem subscribes_of_options {type : String} {m : ObserverMask} {slotId : Int}
    {callback : Pointer} {flavor : Ani.Flavor} (hcallback : callback ≠ nullptr)
    (hname : Napi.getEventType type = .event m)
    (hani : Ani.onOptions type slotId callback =
      some (Ani.onChange (.event m) flavor slotId callback))
    (hflavor : Ani.flavorOf (.event m) = some flavor) (hm : m ≠ .voipCallState)
    (hslot : slotId ≠ simSlotIdForDefaultConnEvent) :
    (ScriptCall.on type (some slotId) callback).Subscribes m slotId callback flavor where
  ne_null := hcallback
  js M isCallBackRegister matchTargets matchParameters env isDeleting s hmatch := by
    simp only [Napi.scriptCall, onParameters_with hmatch, hname]
  ani := hani
  flavor := hflavor
  valid := valid_eq hm hslot

private theorem drops_of_name {type : String} {m : ObserverMask} {callback : Option Pointer}
    {flavor : Ani.Flavor} (hcallback : callback ≠ some nullptr)
    (hname : Napi.getEventType type = .event m)
    (hani : Ani.off type callback = some (Ani.offChange (.event m) flavor callback))
    (hflavor : Ani.flavorOf (.event m) = some flavor) :
    (ScriptCall.off type callback).Drops m callback flavor where
  ne_null := hcallback
  js M isCallBackRegister matchTargets matchParameters env isDeleting s hmatch := by
    simp only [Napi.scriptCall, Napi.offNamed, captured hcallback hmatch, hname, Option.map_some]
  ani := hani
  flavor := hflavor

private theorem ScriptCall.Portable.cases {call : ScriptCall} (h : call.Portable) :
    (∃ m slotId callback flavor, call.Subscribes m slotId callback flavor) ∨
      ∃ m callback flavor, call.Drops m callback flavor := by
  cases call with
  | on type options callback =>
    left
    cases options with
    | none =>
      obtain ⟨hcallback, htype⟩ := h
      simp only [List.mem_cons, List.not_mem_nil, or_false] at htype
      rcases htype with rfl | rfl | rfl | rfl | rfl
      all_goals exact ⟨_, _, _, _, subscribes_of_name hcallback rfl rfl rfl rfl (by decide)⟩
    | some slotId =>
      obtain ⟨hcallback, ⟨hslot, htype⟩ | ⟨rfl, rfl⟩⟩ := h
      · simp only [List.mem_cons, List.not_mem_nil, or_false] at htype
        rcases htype with rfl | rfl | rfl | rfl | rfl
        all_goals exact ⟨_, _, _, _, subscribes_of_options hcallback rfl rfl rfl (by decide) hslot⟩
      · exact ⟨_, _, _, _, subscribes_of_options hcallback rfl rfl rfl (by decide) (by decide)⟩
  | off type callback =>
    right
    obtain ⟨hcallback, htype⟩ := h
    simp only [List.mem_cons, List.not_mem_nil, or_false] at htype
    rcases htype with rfl | rfl | rfl | rfl | rfl | rfl | rfl
    all_goals exact ⟨_, _, _, drops_of_name hcallback rfl rfl rfl⟩
  | onCCallStateChange callback =>
    refine Or.inl ⟨.ccallState, -1, callback, .ccallStateChange, ⟨h, ?_, rfl, rfl, ?_⟩⟩
    · intro P σ M isCallBackRegister matchTargets matchParameters env isDeleting s hmatch
      have hfunction : matchTargets [.function] [.function callback] = true :=
        hmatch _ _ (.cons rfl .nil)
      have hparameters : Napi.onCCallStateChangeParameters matchTargets [.function callback] =
          some ⟨.event .ccallState, -1, callback⟩ := if_pos ⟨rfl, hfunction⟩
      simp only [Napi.scriptCall, hparameters]
    · exact valid_eq (by decide) (by decide)
  | offCCallStateChange callback =>
    cases h
    refine Or.inr ⟨.ccallState, none, .ccallStateChange,
      ⟨(Option.some_ne_none nullptr).symm, ?_, rfl, rfl⟩⟩
    intro P σ M isCallBackRegister matchTargets matchParameters env isDeleting s hmatch
    rfl
  | onGetSimActiveState slotId callback =>
    obtain ⟨hcallback, hslot⟩ := h
    refine Or.inl ⟨.simActiveState, slotId, callback, .simActiveStateChange,
      ⟨hcallback, ?_, rfl, rfl, valid_eq (by decide) hslot⟩⟩
    intro P σ M isCallBackRegister matchTargets matchParameters env isDeleting s hmatch
    have hboth : matchTargets [.number, .function] [.number slotId, .function callback] = true :=
      hmatch _ _ (.cons rfl (.cons rfl .nil))
    have hparameters : Napi.onSimActiveStateParameters matchTargets
        [.number slotId, .function callback] = some ⟨.event .simActiveState, slotId, callback⟩ :=
      if_pos hboth
    simp only [Napi.scriptCall, hparameters]
  | offGetSimActiveState callback =>
    refine Or.inr ⟨.simActiveState, callback, .simActiveStateChange, ⟨h, ?_, rfl, rfl⟩⟩
    intro P σ M isCallBackRegister matchTargets matchParameters env isDeleting s hmatch
    simp only [Napi.scriptCall, Napi.offSimActiveState, captured h hmatch, Option.map_some]

/-! ## One call -/

section Step

variable {B : Functions} {env : Pointer} {matchTargets : Napi.MatchTargets}
  {matchParameters : Napi.MatchParameters} {i : ScriptStep} {m : ObserverMask}
  {flavor : Ani.Flavor}

/-- The listeners of both front ends after the same calls. -/
private def Alike (B : Functions) (env : Pointer) (l : Napi.EventListener)
    (l' : Ani.FlavoredListener) : Prop := B.Matches env l l' ∧ l'.Fits

private theorem Alike.key {l : Napi.EventListener} {l' : Ani.FlavoredListener}
    (h : Alike B env l l') : (Napi.sharing P).key l = (Ani.flavoredSharing P).key l' :=
  congrArg₂ Pair.mk h.1.slotId h.1.eventType

private theorem callback_eq {eventType : TelephonyUpdateEventType} {c d : Ani.CallbackFlavor}
    (hc : Ani.flavorOf eventType = some c.flavor) (hd : Ani.flavorOf eventType = some d.flavor) :
    c.eq (Ani.callbackEq B) d = decide (B.function c.func = B.function d.func) := by
  have hsame : c.flavor = d.flavor := Option.some.inj (hc.symm.trans hd)
  simp only [Ani.CallbackFlavor.eq, hsame, decide_true, Bool.true_and, Ani.callbackEq]

private theorem Alike.same {l c : Napi.EventListener} {l' c' : Ani.FlavoredListener}
    (hl : Alike B env l l') (hc : Alike B env c c') :
    Napi.sameListener B.isCallBackRegister l c = Ani.sameFlavored (Ani.callbackEq B) l' c' := by
  obtain ⟨hl, hfits⟩ := hl
  obtain ⟨hc, hfits'⟩ := hc
  by_cases hevent : c'.eventType = l'.eventType
  · rw [Ani.FlavoredListener.Fits, hevent] at hfits'
    rw [Bool.eq_iff_iff]
    simp only [Napi.sameListener, Ani.sameFlavored, callback_eq hfits' hfits,
      Functions.isCallBackRegister, hl.env, hc.env, hl.slotId, hc.slotId, hl.eventType,
      hc.eventType, hevent, hl.function, hc.function, Bool.and_eq_true, decide_eq_true_eq,
      true_and, and_true]
    exact and_congr eq_comm eq_comm
  · have hevent' : ¬l'.eventType = c'.eventType := fun h => hevent h.symm
    simp only [Napi.sameListener, Ani.sameFlavored, hl.eventType, hc.eventType, hevent, hevent',
      decide_false, Bool.and_false, Bool.false_and]

private theorem Alike.isFor {c : Napi.EventListener} {c' : Ani.FlavoredListener}
    (hc : Alike B env c c') (hflavor : Ani.flavorOf (.event m) = some flavor)
    (callback : Option Pointer) :
    Napi.isFor B.isCallBackRegister env (.event m) callback c =
      Ani.matchesFlavored (Ani.callbackEq B) (.event m)
        (callback.map (Ani.CallbackFlavor.mk flavor)) c' := by
  obtain ⟨hc, hfits⟩ := hc
  by_cases hevent : c'.eventType = .event m
  · cases callback with
    | none =>
      simp only [Napi.isFor, Napi.matchesEvent, Ani.matchesFlavored, hc.env, hc.eventType, hevent,
        decide_true, Bool.and_self, Option.map_none]
    | some ref =>
      rw [Ani.FlavoredListener.Fits, hevent] at hfits
      have hcallback := callback_eq (B := B) (d := ⟨flavor, ref⟩) hfits hflavor
      simp only [Napi.isFor, Napi.matchesCallback, Ani.matchesFlavored, hc.env, hc.eventType,
        hevent, decide_true, Bool.true_and, Option.map_some, hcallback,
        Functions.isCallBackRegister, hc.function]
      exact Bool.decide_congr eq_comm
  · have hevent' : ¬TelephonyUpdateEventType.event m = c'.eventType := fun h => hevent h.symm
    cases callback <;>
      simp only [Napi.isFor, Napi.matchesEvent, Napi.matchesCallback, Ani.matchesFlavored,
        hc.eventType, hevent, hevent', decide_false, Bool.and_false, Bool.false_and]

end Step

end TelephonyStateRegistry
