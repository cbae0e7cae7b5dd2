import TelephonyStateRegistry.Client.AniFlavors

/-!
# The flavors of the ArkTS static callbacks

Each native function gives the flavor of its event. So the flavors in the table never make a
difference: the table is kept as one without them, and no callback is passed over.
-/

namespace TelephonyStateRegistry

open Reactive

variable {P : Platform}

namespace Ani

/-- The flavor of the callbacks for an event. -/
def flavorOf : TelephonyUpdateEventType → Option Flavor
  | .noneEventType => none
  | .event m => match m with
    | .dataFlow => some .cellularDataFlowChange
    | .iccAccount => some .iccAccountInfoChange
    | .simState => some .simStateChange
    | .signalStrengths => some .signalInfoChange
    | .cellInfo => some .cellInfoChange
    | .dataConnectionState => some .cellularDataConnectionStateChange
    | .networkState => some .networkStateChange
    | .callState => some .callStateChange
    | .callStateEx => some .callStateExChange
    | .ccallState => some .ccallStateChange
    | .simActiveState => some .simActiveStateChange
    | .cfuIndicator => none
    | .voiceMailMsgIndicator => none
    | .voipCallState => none

/-- The callback of a listener has the flavor of its event. -/
def FlavoredListener.Fits (listener : FlavoredListener) : Prop :=
  flavorOf listener.eventType = some listener.callbackRef.flavor

/-- The callback of a call has the flavor of its event. -/
def FlavoredCall.Fits : FlavoredCall → Prop
  | register listener => listener.Fits
  | unregister eventType callbackRef =>
    ∀ callback ∈ callbackRef, flavorOf eventType = some callback.flavor

private theorem onChange_fits {eventType : TelephonyUpdateEventType} {flavor : Flavor}
    (h : flavorOf eventType = some flavor) (slotId : Int) (callback : Pointer) :
    (onChange eventType flavor slotId callback).Fits := h

private theorem offChange_fits {eventType : TelephonyUpdateEventType} {flavor : Flavor}
    (h : flavorOf eventType = some flavor) (callback : Option Pointer) :
    (offChange eventType flavor callback).Fits := by
  intro c hc
  obtain ⟨func, -, rfl⟩ := Option.map_eq_some_iff.mp hc
  exact h

/-- The native functions give the flavor of their event. -/
theorem NativeFunction.fits {call : FlavoredCall} (h : NativeFunction call) : call.Fits := by
  cases h
  all_goals first | exact onChange_fits rfl _ _ | exact offChange_fits rfl _

private theorem eq_of_fits {callbackEq : CallbackEq} {eventType : TelephonyUpdateEventType}
    {c d : CallbackFlavor} (hc : flavorOf eventType = some c.flavor)
    (hd : flavorOf eventType = some d.flavor) : c.eq callbackEq d = callbackEq c.func d.func := by
  have hsame : c.flavor = d.flavor := Option.some.inj (hc.symm.trans hd)
  simp only [CallbackFlavor.eq, hsame, decide_true, Bool.true_and]

private theorem sameFlavored_plain (callbackEq : CallbackEq) {listener d : FlavoredListener}
    (hl : listener.Fits) (hd : d.Fits) :
    sameFlavored callbackEq listener d = sameListener callbackEq listener.plain d.plain := by
  simp only [sameFlavored, sameListener, FlavoredListener.plain]
  by_cases hevent : d.eventType = listener.eventType
  · rw [FlavoredListener.Fits, hevent] at hd
    rw [eq_of_fits hd hl]
    rfl
  · simp only [hevent, decide_false, Bool.and_false, Bool.false_and]

private theorem matchesFlavored_plain (callbackEq : CallbackEq)
    {eventType : TelephonyUpdateEventType} {callbackRef : Option CallbackFlavor}
    {d : FlavoredListener} (hcall : (FlavoredCall.unregister eventType callbackRef).Fits)
    (hd : d.Fits) :
    matchesFlavored callbackEq eventType callbackRef d =
      matchesListener callbackEq eventType (callbackRef.map CallbackFlavor.func) d.plain := by
  simp only [matchesFlavored, matchesListener, FlavoredListener.plain]
  by_cases hevent : d.eventType = eventType
  · cases callbackRef with
    | none => rfl
    | some callback =>
      rw [FlavoredListener.Fits, hevent] at hd
      simp only [Option.map_some, eq_of_fits hd (hcall callback rfl)]
      rfl
  · simp only [hevent, decide_false, Bool.false_and]

section Step

variable (P : Platform) (N : NapiUtil) {σ : Type} {s : List FlavoredListener × σ}
  {input : FlavoredInput σ}

private theorem step_plain (hs : ∀ listener ∈ s.1, listener.Fits) (hcall : input.call.Fits) :
    (machine P N).step (tableView FlavoredListener.plain s) input.plain =
      (tableView FlavoredListener.plain ((flavoredMachine P N).step s input).1,
        ((flavoredMachine P N).step s input).2) := by
  obtain ⟨manager, callbackEq, call⟩ := input
  cases call with
  | register listener =>
    change register P N manager callbackEq listener.plain _ =
      (tableView _ (registerFlavored P N manager callbackEq listener s).1,
        (registerFlavored P N manager callbackEq listener s).2)
    unfold register registerFlavored
    change (if isValidSlotIdEx P listener.slotId listener.eventType = false then _ else _) = _
    split
    · rfl
    · exact (sharing P).step_view FlavoredListener.plain (provider N manager)
        (.subscribe listener fun d hd => sameFlavored_plain callbackEq hcall (hs d hd))
  | unregister eventType callbackRef =>
    exact (sharing P).step_view FlavoredListener.plain (provider N manager)
      (.release fun d hd => matchesFlavored_plain callbackEq hcall (hs d hd))

private theorem fits_next (hs : ∀ listener ∈ s.1, listener.Fits) (hcall : input.call.Fits) :
    ∀ listener ∈ ((flavoredMachine P N).next s input).1, listener.Fits := by
  obtain ⟨manager, callbackEq, call⟩ := input
  cases call with
  | register listener =>
    change ∀ l ∈ (registerFlavored P N manager callbackEq listener s).1.1, l.Fits
    unfold registerFlavored
    split
    · exact hs
    · refine Sharing.forall_next (provider N manager) (S := flavoredSharing P)
        (.subscribe (sameFlavored callbackEq listener) listener) ?_ hs
      intro same e he
      cases he
      exact hcall
  | unregister eventType callbackRef =>
    refine Sharing.forall_next (provider N manager) (S := flavoredSharing P)
      (.release (matchesFlavored callbackEq eventType callbackRef)) ?_ hs
    intro same e he
    cases he

/-- The listeners that native functions leave have the flavors of their events. -/
theorem fits_run {inputs : List (FlavoredInput σ)}
    (hnative : ∀ input ∈ inputs, NativeFunction input.call) (s₀ : σ) :
    ∀ listener ∈ ((flavoredMachine P N).run ([], s₀) inputs).1, listener.Fits := by
  refine (flavoredMachine P N).invariant_along
    (G := fun _ input => NativeFunction input.call)
    (I := fun s => ∀ listener ∈ s.1, listener.Fits) ?_ ?_ ?_
  · exact fun s input hcall hs => fits_next P N hs hcall.fits
  · exact fun listener h => absurd h List.not_mem_nil
  · exact (flavoredMachine P N).along_of_mem (F := fun input => NativeFunction input.call)
      hnative _

end Step

/-- What the callbacks for an update are executed with, unless the observer fails. -/
def argumentOf (K : Payloads P) (C : CellPayloads P) : Callback P → Option Argument
  | .onCallStateUpdated _ callState teleNumber =>
    (K.toUtf8 teleNumber).map fun phoneNumber =>
      .callStateChange (callStateInfoFrom ⟨callState, phoneNumber⟩)
  | .onCallStateUpdatedEx _ callStateEx => some (.callStateExChange (telCallStateFrom callStateEx))
  | .onCCallStateUpdated _ callState teleNumber =>
    (K.toUtf8 teleNumber).map fun phoneNumber =>
      .ccallStateChange (ccallStateInfoFrom ⟨callState, phoneNumber⟩)
  | .onSignalInfoUpdated _ signalInfoList =>
    (signalInfoList.mapM id).map fun infos =>
      .signalInfoChange ((infos.map (signalInformationAni K)).map signalInformationFrom)
  | .onCellInfoUpdated _ vec =>
    (vec.mapM id).map fun infos =>
      .cellInfoChange ((infos.map (cellInformationAni C)).map cellInformationFrom)
  | .onNetworkStateUpdated _ networkState =>
    networkState.map fun networkState =>
      .networkStateChange (networkStateFrom (networkStateAni K networkState))
  | .onSimStateUpdated _ type state reason =>
    some (.simStateChange ⟨cardTypeFrom type, simStateFrom state, lockReasonFrom reason⟩)
  | .onCellularDataConnectStateUpdated _ dataState networkType =>
    some (.cellularDataConnectionStateChange (.new dataState networkType))
  | .onCellularDataFlowUpdated _ dataFlowType =>
    some (.cellularDataFlowChange (dataFlowTypeFrom dataFlowType))
  | .onIccAccountUpdated => some .iccAccountInfoChange
  | .onSimActiveStateUpdated _ enable => some (.simActiveStateChange enable)
  | .onCfuIndicatorUpdated _ _ => none
  | .onVoiceMailMsgIndicatorUpdated _ _ => none
  | .onVoIPStateUpdated _ => none

/-- Whether a listener is on the event of an update, and on its slot if it has one. -/
def FlavoredListener.isOn (callback : Callback P) (listener : FlavoredListener) : Bool :=
  listener.eventType = .event callback.event &&
    callback.slotId.all fun slotId => listener.slotId = slotId

variable {K : Payloads P} {C : CellPayloads P} {callback : Callback P}

private theorem flavor_argumentOf {argument : Argument}
    (h : argumentOf K C callback = some argument) :
    flavorOf (.event callback.event) = some argument.flavor := by
  cases callback with
  | onCfuIndicatorUpdated slotId cfuResult => cases h
  | onVoiceMailMsgIndicatorUpdated slotId voiceMailMsgResult => cases h
  | onVoIPStateUpdated info => cases h
  | onCallStateUpdated slotId callState teleNumber =>
    obtain ⟨phoneNumber, -, rfl⟩ := Option.map_eq_some_iff.mp h
    rfl
  | onCCallStateUpdated slotId callState teleNumber =>
    obtain ⟨phoneNumber, -, rfl⟩ := Option.map_eq_some_iff.mp h
    rfl
  | onSignalInfoUpdated slotId signalInfoList =>
    obtain ⟨infos, -, rfl⟩ := Option.map_eq_some_iff.mp h
    rfl
  | onCellInfoUpdated slotId vec =>
    obtain ⟨infos, -, rfl⟩ := Option.map_eq_some_iff.mp h
    rfl
  | onNetworkStateUpdated slotId networkState =>
    obtain ⟨networkState, -, rfl⟩ := Option.map_eq_some_iff.mp h
    rfl
  | _ =>
    cases h
    rfl

private theorem onUpdated_eq (K : Payloads P) (C : CellPayloads P) (callback : Callback P)
    (inner : List FlavoredListener) :
    onUpdated K C callback inner = (argumentOf K C callback).elim [] fun argument =>
      executeFlavor (.event callback.event) callback.slotId argument inner := by
  cases callback with
  | onCallStateUpdated slotId callState teleNumber =>
    simp only [onUpdated, argumentOf]
    cases K.toUtf8 teleNumber <;> rfl
  | onCCallStateUpdated slotId callState teleNumber =>
    simp only [onUpdated, argumentOf]
    cases K.toUtf8 teleNumber <;> rfl
  | onSignalInfoUpdated slotId signalInfoList =>
    simp only [onUpdated, argumentOf]
    cases signalInfoList.mapM id <;> rfl
  | onCellInfoUpdated slotId vec =>
    simp only [onUpdated, argumentOf]
    cases vec.mapM id <;> rfl
  | onNetworkStateUpdated slotId networkState => cases networkState <;> rfl
  | _ => rfl

/-- If the flavors fit, the loop passes over no listener of the event and the slot. -/
theorem onUpdated_of_fits (K : Payloads P) (C : CellPayloads P) (callback : Callback P)
    {inner : List FlavoredListener} (hinner : ∀ listener ∈ inner, listener.Fits) :
    onUpdated K C callback inner = (argumentOf K C callback).elim [] fun argument =>
      (inner.filter fun listener => listener.isOn callback).map fun listener =>
        ⟨listener, argument⟩ := by
  rw [onUpdated_eq]
  cases hargument : argumentOf K C callback with
  | none => rfl
  | some argument =>
    simp only [Option.elim_some, executeFlavor]
    rw [← List.filterMap_eq_map, List.filterMap_filter]
    refine List.filterMap_congr fun listener hl => ?_
    by_cases hevent : listener.eventType = .event callback.event
    · have hfits : listener.callbackRef.flavor = argument.flavor := by
        have hfits := hinner listener hl
        rw [FlavoredListener.Fits, hevent] at hfits
        exact Option.some.inj (hfits.symm.trans (flavor_argumentOf hargument))
      have hslot : (∃ slot ∈ callback.slotId, listener.slotId ≠ slot) ↔
          ¬(callback.slotId.all fun slotId => decide (listener.slotId = slotId)) = true := by
        cases callback.slotId <;> simp
      simp only [hevent, hfits, hslot, FlavoredListener.isOn, ne_eq, not_true_eq_false, false_or,
        decide_true, Bool.true_and, if_true, Function.comp_apply, ite_not]
    · simp only [FlavoredListener.isOn, hevent, ne_eq, not_false_eq_true, true_or, if_true,
        decide_false, Bool.false_and, Bool.false_eq_true, if_false]

/-- **Flavors never matter.** In every run of the native functions the table and the answers are
those of the table without flavors, and each update executes exactly the callbacks of the
listeners on its event and slot, in the order of the table. -/
theorem flavors_never_matter (P : Platform) (N : NapiUtil) {σ : Type} (s₀ : σ)
    {inputs : List (FlavoredInput σ)} (hnative : ∀ input ∈ inputs, NativeFunction input.call) :
    let s := (flavoredMachine P N).run ([], s₀) inputs
    tableView FlavoredListener.plain s =
        (machine P N).run ([], s₀) (inputs.map FlavoredInput.plain) ∧
      (flavoredMachine P N).outs ([], s₀) inputs =
        (machine P N).outs ([], s₀) (inputs.map FlavoredInput.plain) ∧
      ∀ (K : Payloads P) (C : CellPayloads P) (callback : Callback P),
        onUpdated K C callback s.1 = (argumentOf K C callback).elim [] fun argument =>
          (s.1.filter fun listener => listener.isOn callback).map fun listener =>
            ⟨listener, argument⟩ := by
  intro s
  have hinputs : List.Forall₂ (fun (input : FlavoredInput σ) input' =>
      input' = input.plain ∧ NativeFunction input.call) inputs
      (inputs.map FlavoredInput.plain) := by
    refine List.forall₂_map_right_iff.mpr (List.forall₂_same.mpr ?_)
    exact fun input hinput => ⟨rfl, hnative input hinput⟩
  obtain ⟨⟨hview, -⟩, houts⟩ := (flavoredMachine P N).simulation (N := machine P N)
    (R := fun s t => t = tableView FlavoredListener.plain s ∧ ∀ listener ∈ s.1, listener.Fits)
    (W := Eq) (s := ([], s₀)) (t := ([], s₀)) (by
      rintro s t input input' ⟨rfl, hs⟩ ⟨rfl, hcall⟩
      have hstep := step_plain P N hs hcall.fits
      refine ⟨⟨congrArg Prod.fst hstep, fits_next P N hs hcall.fits⟩, ?_⟩
      exact (congrArg Prod.snd hstep).symm)
    ⟨rfl, fun listener h => absurd h List.not_mem_nil⟩ hinputs
  refine ⟨hview.symm, List.forall₂_eq_eq_eq ▸ houts, fun K C callback => ?_⟩
  exact onUpdated_of_fits K C callback (fits_run P N hnative s₀)

/-- A script listens to the second slot and to the accounts, and a SIM state is executed. -/
theorem sim_state_executed :
    let on (call : FlavoredCall) : FlavoredInput (Finset Pair) :=
      ⟨registryManager fun _ => .telephonySuccess, Nat.beq, call⟩
    let inputs := [on (onSimStateChange 1 5), on (onIccAccountInfoChange 6)]
    let s := (flavoredMachine .dualSim .unspecific).run ([], ∅) inputs
    tableView FlavoredListener.plain s =
        (machine .dualSim .unspecific).run ([], ∅) (inputs.map FlavoredInput.plain) ∧
      (flavoredMachine .dualSim .unspecific).outs ([], ∅) inputs =
        (machine .dualSim .unspecific).outs ([], ∅) (inputs.map FlavoredInput.plain) ∧
      ∀ (K : Payloads .dualSim) (C : CellPayloads .dualSim) (callback : Callback .dualSim),
        onUpdated K C callback s.1 = (argumentOf K C callback).elim [] fun argument =>
          (s.1.filter fun listener => listener.isOn callback).map fun listener =>
            ⟨listener, argument⟩ := by
  intro on inputs
  have hnative : ∀ input ∈ inputs, NativeFunction input.call := by
    intro input hinput
    rcases List.mem_cons.mp hinput with rfl | hinput
    · exact .onSimStateChange (some 1) 5
    · rw [List.mem_singleton.mp hinput]
      exact .onIccAccountInfoChange 6
  exact flavors_never_matter .dualSim .unspecific ∅ hnative

end Ani

end TelephonyStateRegistry
