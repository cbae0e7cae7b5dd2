import TelephonyStateRegistry.Client.CjDispatch
import TelephonyStateRegistry.Core.KeyedList
import TelephonyStateRegistry.Correctness.Delivered

/-!
# The payloads that the JS and the Cangjie front end deliver

Both handlers convert the payloads of seven callbacks on their own. They differ
in a signal list without elements, which only JS functions are given, in one radio
technology, which only the Cangjie front end knows, and in strings with a null
character, which a C string cuts short.
-/

namespace TelephonyStateRegistry

open Reactive

variable {P : Platform}

/-- A callback that both front ends implement, with a payload as the service sends it. -/
inductive SharedUpdate (P : Platform)
  | onCallStateUpdated (slotId callState : Int) (phoneNumber : U16String)
  | onSignalInfoUpdated (slotId : Int) (signalInfoList : List P.SignalInformation)
  | onNetworkStateUpdated (slotId : Int) (networkState : P.NetworkState)
  | onSimStateUpdated (slotId type state reason : Int)
  | onCellularDataConnectStateUpdated (slotId dataState networkType : Int)
  | onCellularDataFlowUpdated (slotId dataFlowType : Int)
  | onIccAccountUpdated

namespace SharedUpdate

/-- The update as the service makes it. -/
def callback : SharedUpdate P → Callback P
  | onCallStateUpdated slotId callState phoneNumber =>
    .onCallStateUpdated slotId callState phoneNumber
  | onSignalInfoUpdated slotId signalInfoList =>
    .onSignalInfoUpdated slotId (signalInfoList.map some)
  | onNetworkStateUpdated slotId networkState => .onNetworkStateUpdated slotId (some networkState)
  | onSimStateUpdated slotId type state reason => .onSimStateUpdated slotId type state reason
  | onCellularDataConnectStateUpdated slotId dataState networkType =>
    .onCellularDataConnectStateUpdated slotId dataState networkType
  | onCellularDataFlowUpdated slotId dataFlowType => .onCellularDataFlowUpdated slotId dataFlowType
  | onIccAccountUpdated => .onIccAccountUpdated

/-- Whether listeners on a pair are told of an update. -/
def isFor (k : Pair) : SharedUpdate P → Bool
  | onCallStateUpdated slotId _ _ => k = ⟨slotId, .event .callState⟩
  | onSignalInfoUpdated slotId _ => k = ⟨slotId, .event .signalStrengths⟩
  | onNetworkStateUpdated slotId _ => k = ⟨slotId, .event .networkState⟩
  | onSimStateUpdated slotId _ _ _ => k = ⟨slotId, .event .simState⟩
  | onCellularDataConnectStateUpdated slotId _ _ => k = ⟨slotId, .event .dataConnectionState⟩
  | onCellularDataFlowUpdated slotId _ => k = ⟨slotId, .event .dataFlow⟩
  | onIccAccountUpdated => k.eventType = .event .iccAccount

/-- The value that JS functions are given. -/
private def jsValue (K : Payloads P) : SharedUpdate P → Option (Value String)
  | onCallStateUpdated _ callState phoneNumber =>
    (K.toUtf8 phoneNumber).map (.callState (wrapCallState callState))
  | onSignalInfoUpdated _ signalInfoList => some (.signalInfo (signalInfoList.map K.signalValue))
  | onNetworkStateUpdated _ networkState =>
    some (.networkState (K.networkStateValue id Napi.radioTechs networkState))
  | onSimStateUpdated _ type state reason => some (.simState type state reason)
  | onCellularDataConnectStateUpdated _ dataState networkType =>
    some (.dataConnection dataState networkType)
  | onCellularDataFlowUpdated _ dataFlowType => some (.dataFlow dataFlowType)
  | onIccAccountUpdated => some .iccAccount

/-- The strings that listeners are given of an update. -/
def strings (K : Payloads P) : SharedUpdate P → List String
  | onCallStateUpdated _ _ phoneNumber => (K.toUtf8 phoneNumber).toList
  | onNetworkStateUpdated _ networkState =>
    [K.getLongOperatorName networkState, K.getShortOperatorName networkState,
      K.getPlmnNumeric networkState]
  | _ => []

/-- What is read of a string that a Cangjie function is given. -/
private def passed (origin : String) : String := (Cj.mallocCString origin).read

/-- The value that Cangjie functions are given, as it is read. -/
private def cjValue (K : Payloads P) : SharedUpdate P → Option (Value String)
  | onCallStateUpdated _ callState phoneNumber =>
    (toBytes phoneNumber).map fun number => .callState (wrapCallState callState) (passed number)
  | onSignalInfoUpdated _ signalInfoList =>
    if signalInfoList = [] then none
    else some (.signalInfo (signalInfoList.map K.signalValue))
  | onNetworkStateUpdated _ networkState =>
    some (.networkState (K.networkStateValue passed Cj.radioTechs networkState))
  | onSimStateUpdated _ type state reason => some (.simState type state reason)
  | onCellularDataConnectStateUpdated _ dataState networkType =>
    some (.dataConnection dataState networkType)
  | onCellularDataFlowUpdated _ dataFlowType => some (.dataFlow dataFlowType)
  | onIccAccountUpdated => some .iccAccount

end SharedUpdate

/-- The event of an update. -/
private def SharedUpdate.event : SharedUpdate P → ObserverMask
  | onCallStateUpdated _ _ _ => .callState
  | onSignalInfoUpdated _ _ => .signalStrengths
  | onNetworkStateUpdated _ _ => .networkState
  | onSimStateUpdated _ _ _ _ => .simState
  | onCellularDataConnectStateUpdated _ _ _ => .dataConnectionState
  | onCellularDataFlowUpdated _ _ => .dataFlow
  | onIccAccountUpdated => .iccAccount

private theorem SharedUpdate.event_of_isFor {update : SharedUpdate P} {k : Pair}
    (h : update.isFor k = true) : k.eventType = .event update.event := by
  cases update <;>
    first | exact of_decide_eq_true h | exact congrArg Pair.eventType (of_decide_eq_true h)

private theorem filterMap_map_some {α β : Type} (f : α → β) (as : List α) :
    (as.map some).filterMap (fun a => a.map f) = as.map f := by
  rw [List.filterMap_map]
  exact congrFun List.filterMap_eq_map' as

private theorem napi_mayServe_update {l : Napi.EventListener}
    (hslot : l.slotId ≠ simSlotIdForDefaultConnEvent) (update : SharedUpdate P) :
    (Napi.sendEvent update.callback).mayServe l = update.isFor l.pair := by
  have hneeds (slotId : Int) (eventType : TelephonyUpdateEventType) :
      Napi.isNeedHandleCallbackUpdate slotId l.eventType eventType l.slotId slotId =
        decide (l.pair = ⟨slotId, eventType⟩) := by
    rw [Bool.eq_iff_iff, decide_eq_true_iff]
    exact Napi.isNeedHandleCallbackUpdate_iff_pair (Or.inl hslot) slotId eventType
  cases update with
  | onIccAccountUpdated => rfl
  | _ => exact hneeds _ _

private theorem napi_valueFor_update (K : Payloads P) {l : Napi.EventListener}
    (hslot : l.slotId ≠ simSlotIdForDefaultConnEvent) (update : SharedUpdate P) :
    Napi.valueFor K l update.callback =
      if update.isFor l.pair = true then update.jsValue K else none := by
  rw [Napi.valueFor, napi_mayServe_update hslot]
  split_ifs with hfor
  · have hevent : l.eventType = .event update.event := SharedUpdate.event_of_isFor hfor
    rw [hevent]
    cases update with
    | onSignalInfoUpdated slotId signalInfoList =>
      exact congrArg (fun infos => some (Value.signalInfo infos)) (filterMap_map_some _ _)
    | _ => rfl
  · rfl

/-- What the Cangjie work functions are given of an update. -/
private def SharedUpdate.data (update : SharedUpdate P) : Option (Cj.UpdateInfo P) :=
  (Cj.sendEvent update.callback).bind Cj.InnerEvent.data

private theorem cj_valueFor_eq (K : Payloads P) (l : Cj.EventListener) (update : SharedUpdate P) :
    Cj.valueFor K l update.callback =
      if update.isFor l.pair = true then Cj.workUpdated K ∅ l update.data else none := by
  have hserves (slotId : Int) (eventType : TelephonyUpdateEventType) :
      (decide (l.eventType = eventType) && decide (l.slotId = slotId)) =
        decide (l.pair = ⟨slotId, eventType⟩) := by
    rw [Bool.eq_iff_iff]
    simp only [Cj.EventListener.pair, Pair.mk.injEq, Bool.and_eq_true, decide_eq_true_eq]
    exact and_comm
  cases update with
  | onIccAccountUpdated => rfl
  | _ => exact congrArg (fun b => if b = true then _ else none) (hserves _ _)

private theorem cj_valueFor_update (K : Payloads P) {l : Cj.EventListener}
    (hflag : l.isDeleting ≠ nullptr) (update : SharedUpdate P) :
    (Cj.valueFor K l update.callback).map (Value.map Cj.CString.read) =
      if update.isFor l.pair = true then update.cjValue K else none := by
  have hflag : ¬Cj.Dropped ∅ l := not_or.mpr ⟨hflag, Finset.notMem_empty _⟩
  rw [cj_valueFor_eq]
  split_ifs with hfor
  · have hevent : l.eventType = .event update.event := SharedUpdate.event_of_isFor hfor
    rw [Cj.workUpdated, if_neg hflag, hevent]
    cases update with
    | onCallStateUpdated slotId callState phoneNumber =>
      change ((toBytes phoneNumber).map fun number => Value.callState (wrapCallState callState)
        (Cj.mallocCString number)).map (Value.map Cj.CString.read) = _
      rw [Option.map_map]
      rfl
    | onSignalInfoUpdated slotId signalInfoList =>
      change (if (signalInfoList.map some).length = 0 then none
        else some (Value.signalInfo ((signalInfoList.map some).filterMap fun infoItem =>
          infoItem.map K.signalValue))).map (Value.map Cj.CString.read) = _
      rw [filterMap_map_some]
      cases signalInfoList <;> rfl
    | onNetworkStateUpdated slotId networkState =>
      rfl
    | _ => rfl
  · rfl

private theorem wrapRadioTech_agrees_iff (K : Payloads P) (n : Int) :
    K.wrapRadioTech Cj.radioTechs n = K.wrapRadioTech Napi.radioTechs n ↔
      n ≠ K.radioTech .nrEnhanced := by
  have htechs : Cj.radioTechs = Napi.radioTechs ++ [.nrEnhanced] := rfl
  rw [Payloads.wrapRadioTech, Payloads.wrapRadioTech, htechs, List.map_append, switch, switch,
    List.find?_append]
  cases hfind : (Napi.radioTechs.map fun tech => (tech, K.ratType tech)).find?
      fun c => K.radioTech c.1 = n with
  | some c =>
    refine iff_of_true rfl ?_
    intro hn
    obtain ⟨tech, htech, rfl⟩ := List.mem_map.mp (List.mem_of_find?_eq_some hfind)
    have hfound := List.find?_some hfind
    have hlabel : K.radioTech tech = n := of_decide_eq_true hfound
    have hsame : tech = .nrEnhanced := K.radioTech_injective (hlabel.trans hn)
    rw [hsame] at htech
    exact absurd htech (by decide)
  | none =>
    by_cases hn : n = K.radioTech .nrEnhanced
    · refine iff_of_false ?_ (not_not.mpr hn)
      intro h
      have hcase : ([(.nrEnhanced, K.ratType .nrEnhanced)] : List (RadioTech × Int)).find?
          (fun c => K.radioTech c.1 = n) = some (.nrEnhanced, K.ratType .nrEnhanced) :=
        List.find?_cons_of_pos (decide_eq_true hn.symm)
      rw [List.map_singleton, hcase] at h
      exact absurd (K.ratType_injective h) (by decide)
    · refine iff_of_true ?_ hn
      have hcase : ([(.nrEnhanced, K.ratType .nrEnhanced)] : List (RadioTech × Int)).find?
          (fun c => K.radioTech c.1 = n) = none := by
        refine List.find?_eq_none.mpr ?_
        intro c hc
        rw [List.mem_singleton.mp hc, decide_eq_true_iff]
        exact fun h => hn h.symm
      rw [List.map_singleton, hcase]
      rfl

/-- What an update must not be for both front ends to deliver the same. -/
private def SharedUpdate.Same (K : Payloads P) (update : SharedUpdate P) : Prop :=
  (∀ string ∈ update.strings K, Cj.nullChar ∉ string.toList) ∧ match update with
    | onSignalInfoUpdated _ signalInfoList => signalInfoList ≠ []
    | onNetworkStateUpdated _ networkState => K.getCfgTech networkState ≠ K.radioTech .nrEnhanced
    | _ => True

private theorem SharedUpdate.values_agree_iff (K : Payloads P) (hutf8 : K.toUtf8 = toBytes)
    (update : SharedUpdate P) : update.cjValue K = update.jsValue K ↔ update.Same K := by
  have hnone : ∀ string ∈ ([] : List String), Cj.nullChar ∉ string.toList :=
    fun _ h => absurd h List.not_mem_nil
  cases update with
  | onCallStateUpdated slotId callState phoneNumber =>
    change _ ↔ (∀ string ∈ (K.toUtf8 phoneNumber).toList, Cj.nullChar ∉ string.toList) ∧ True
    rw [and_iff_left trivial, cjValue, jsValue, hutf8]
    cases toBytes phoneNumber with
    | none => exact iff_of_true rfl hnone
    | some number =>
      simp only [Option.map_some, Option.some.injEq, Value.callState.injEq, true_and,
        Option.toList_some, List.forall_mem_singleton]
      exact Cj.read_mallocCString_iff number
  | onSignalInfoUpdated slotId signalInfoList =>
    rw [Same, cjValue, jsValue]
    split_ifs with hempty
    · exact iff_of_false (fun h => by cases h) fun h => h.2 hempty
    · exact iff_of_true rfl ⟨hnone, hempty⟩
  | onNetworkStateUpdated slotId networkState =>
    rw [Same, cjValue, jsValue, strings, ← wrapRadioTech_agrees_iff]
    simp only [Option.some.injEq, Value.networkState.injEq, Payloads.networkStateValue,
      NetworkStateValue.mk.injEq, passed, Cj.read_mallocCString_iff, true_and, and_true, id_eq,
      List.forall_mem_cons]
    rw [and_iff_left hnone]
    tauto
  | _ => exact iff_of_true rfl ⟨hnone, trivial⟩

private theorem forall_same_iff {K : Payloads P} {updates : List (SharedUpdate P)}
    {pairs : List Pair} :
    (∀ k ∈ pairs, ∀ update ∈ updates, update.isFor k = true → update.Same K) ↔
      (∀ slotId, .onSignalInfoUpdated slotId [] ∈ updates →
          ⟨slotId, .event .signalStrengths⟩ ∉ pairs) ∧
        (∀ slotId networkState, .onNetworkStateUpdated slotId networkState ∈ updates →
          K.getCfgTech networkState = K.radioTech .nrEnhanced →
            ⟨slotId, .event .networkState⟩ ∉ pairs) ∧
        ∀ k ∈ pairs, ∀ update ∈ updates, update.isFor k = true →
          ∀ string ∈ update.strings K, Cj.nullChar ∉ string.toList := by
  constructor
  · intro h
    refine ⟨?_, ?_, fun k hk update hupdate hfor => (h k hk update hupdate hfor).1⟩
    · intro slotId hupdate hk
      exact (h _ hk _ hupdate (decide_eq_true rfl)).2 rfl
    · intro slotId networkState hupdate htech hk
      exact (h _ hk _ hupdate (decide_eq_true rfl)).2 htech
  · rintro ⟨hsignal, hnetwork, hstrings⟩ k hk update hupdate hfor
    refine ⟨hstrings k hk update hupdate hfor, ?_⟩
    cases update with
    | onSignalInfoUpdated slotId signalInfoList =>
      intro hempty
      rw [hempty] at hupdate
      exact hsignal slotId hupdate (of_decide_eq_true hfor ▸ hk)
    | onNetworkStateUpdated slotId networkState =>
      intro htech
      exact hnetwork slotId networkState hupdate htech (of_decide_eq_true hfor ▸ hk)
    | _ => exact trivial

/-- **When the JS and the Cangjie front end deliver the same payloads.** In a run of the JS front
end that delivers some updates, in turn, listeners on the same pairs are given the same values
exactly if no signal list without elements, no network state of enhanced NR technology and no
string with a null character reaches them. -/
theorem payloads_agree_iff (K : Payloads P) (hutf8 : K.toUtf8 = toBytes)
    (hcount : P.simSlotCount < simSlotIdForDefaultConnEvent) {σ : Type} (w : σ)
    (before steps : List (Napi.ThreadStep P σ)) {listenerList : List Cj.EventListener}
    (hlist : listenerList.Nodup) (hflags : ∀ l ∈ listenerList, l.isDeleting ≠ nullptr)
    (updates : List (SharedUpdate P)) :
    let s := (Napi.threads P σ).run (.start P w) before
    (∀ l ∈ s.listeners, l.callbackRef ≠ nullptr) →
    (∀ l ∈ s.listeners, 0 ≤ l.slotId ∧ l.slotId ≤ P.simSlotCount) →
    (∀ k, k ∈ s.listeners.map Napi.EventListener.pair ↔
      k ∈ listenerList.map Cj.EventListener.pair) →
    (Napi.threads P σ).Along Napi.Threads.InTurn s steps →
    s.Delivers steps (updates.map SharedUpdate.callback) →
      ((∀ l ∈ s.listeners, ∀ l' ∈ listenerList, l'.pair = l.pair →
          (Cj.received K listenerList (updates.map SharedUpdate.callback) l').map
              (Value.map Cj.CString.read) =
            ((Napi.threads P σ).outs s steps).flatMap (Napi.valuesTo K l)) ↔
        (∀ slotId, .onSignalInfoUpdated slotId [] ∈ updates →
            ⟨slotId, .event .signalStrengths⟩ ∉ s.listeners.map Napi.EventListener.pair) ∧
          (∀ slotId networkState, .onNetworkStateUpdated slotId networkState ∈ updates →
            K.getCfgTech networkState = K.radioTech .nrEnhanced →
              ⟨slotId, .event .networkState⟩ ∉ s.listeners.map Napi.EventListener.pair) ∧
          ∀ k ∈ s.listeners.map Napi.EventListener.pair, ∀ update ∈ updates,
            update.isFor k = true → ∀ string ∈ update.strings K,
              Cj.nullChar ∉ string.toList) := by
  intro s hcallback hslots hpairs hturn hdelivers
  have hs : s.Tidy := .run w before
  rw [forall_matched_iff (q := fun k => ∀ update ∈ updates, update.isFor k = true →
    update.Same K) hpairs]
  · exact forall_same_iff
  · intro l hl l' hl' hpair
    have hslot : l.slotId ≠ simSlotIdForDefaultConnEvent := by
      have hle := (hslots l hl).2
      omega
    have hnull : ∀ c ∈ updates.map SharedUpdate.callback, c.hasNull = false := by
      intro c hc
      obtain ⟨update, -, rfl⟩ := List.mem_map.mp hc
      cases update with
      | onSignalInfoUpdated slotId signalInfoList =>
        refine List.any_eq_false.mpr ?_
        intro info hinfo
        obtain ⟨signal, -, rfl⟩ := List.mem_map.mp hinfo
        exact Bool.false_ne_true
      | _ => rfl
    have hjs : Napi.valueFor K l ∘ SharedUpdate.callback = fun update =>
        if update.isFor l.pair = true then update.jsValue K else none :=
      funext (napi_valueFor_update K hslot)
    have hcj : (fun c => (Cj.valueFor K l' c).map (Value.map Cj.CString.read)) ∘
        SharedUpdate.callback = fun update =>
          if update.isFor l.pair = true then update.cjValue K else none := by
      funext update
      rw [← hpair]
      exact cj_valueFor_update K (hflags l' hl') update
    have hboth : ∀ update ∈ updates, update.isFor l.pair = true → update.cjValue K ≠ none →
        update.jsValue K ≠ none := by
      intro update _ _ h
      cases update with
      | onCallStateUpdated slotId callState phoneNumber =>
        rw [SharedUpdate.jsValue, hutf8]
        exact mt Option.map_eq_none_iff.mp (mt Option.map_eq_none_iff.mpr h)
      | _ => exact Option.some_ne_none _
    rw [Cj.received_eq K hlist hl', hdelivers.values hs hturn hnull K hl
      ⟨hcallback l hl, Or.inl hslot⟩, List.map_filterMap, List.filterMap_map,
      List.filterMap_map, hjs, hcj, filterMap_ite_eq_iff hboth]
    exact forall₃_congr fun update _ _ => SharedUpdate.values_agree_iff K hutf8 update

/-- A network state and a data flow are delivered alike. -/
theorem network_state_agrees :
    let manager := registryManager fun _ => .telephonySuccess
    let s := (Napi.threads .dualSim (Finset Pair)).run (.start .dualSim ∅)
      [.on 1 (.event .networkState) 0 true manager (fun _ _ _ => true),
        .on 1 (.event .dataFlow) 0 true manager (fun _ _ _ => true)]
    let steps : List (Napi.ThreadStep .dualSim (Finset Pair)) :=
      [.notified (.onNetworkStateUpdated 0 (some "carrier")),
        .notified (.onCellularDataFlowUpdated 0 3), .processEvent fun _ => .succeeding 0,
        .processEvent fun _ => .succeeding 0, .workUpdated 0 .succeeding, .proceed 1, .proceed 1,
        .proceed 1, .workUpdated 0 .succeeding, .proceed 1]
    let listenerList : List Cj.EventListener :=
      [⟨.event .networkState, 0, 6, 7⟩, ⟨.event .dataFlow, 0, 8, 9⟩]
    let updates : List (SharedUpdate Platform.dualSim) :=
      [.onNetworkStateUpdated 0 "carrier", .onCellularDataFlowUpdated 0 3]
    (∀ l ∈ s.listeners, ∀ l' ∈ listenerList, l'.pair = l.pair →
        (Cj.received Payloads.dualSim listenerList (updates.map SharedUpdate.callback) l').map
            (Value.map Cj.CString.read) =
          ((Napi.threads .dualSim (Finset Pair)).outs s steps).flatMap
            (Napi.valuesTo Payloads.dualSim l)) ↔
      (∀ slotId, .onSignalInfoUpdated slotId [] ∈ updates →
          ⟨slotId, .event .signalStrengths⟩ ∉ s.listeners.map Napi.EventListener.pair) ∧
        (∀ slotId networkState, .onNetworkStateUpdated slotId networkState ∈ updates →
          Payloads.dualSim.getCfgTech networkState = Payloads.dualSim.radioTech .nrEnhanced →
            ⟨slotId, .event .networkState⟩ ∉ s.listeners.map Napi.EventListener.pair) ∧
        ∀ k ∈ s.listeners.map Napi.EventListener.pair, ∀ update ∈ updates,
          update.isFor k = true → ∀ string ∈ update.strings Payloads.dualSim,
            Cj.nullChar ∉ string.toList := by
  intro manager s steps listenerList updates
  have hlisteners : s.listeners =
      [⟨1, .event .networkState, 0, 1, 1⟩, ⟨1, .event .dataFlow, 0, 2, 2⟩] := rfl
  refine payloads_agree_iff Payloads.dualSim rfl (by decide) (∅ : Finset Pair)
    [.on 1 (.event .networkState) 0 true manager (fun _ _ _ => true),
      .on 1 (.event .dataFlow) 0 true manager (fun _ _ _ => true)] steps (by decide) (by decide)
    updates ?_ ?_ (fun _ => Iff.rfl) ?_ ⟨rfl, ?_, ?_, ?_, ?_⟩
  · rw [hlisteners]
    decide
  · rw [hlisteners]
    decide
  · exact ⟨trivial, trivial, trivial, trivial, Napi.Threads.inTurn_zero _ _, trivial, trivial,
      trivial, Napi.Threads.inTurn_zero _ _, trivial, trivial⟩
  · have hattempts : ∀ i : Nat, ((fun _ => .succeeding 0 : Nat → Napi.Attempt) i).Succeeds :=
      fun _ => ⟨rfl, rfl, rfl, rfl⟩
    simp only [steps, List.forall_mem_cons]
    exact ⟨trivial, trivial, hattempts, hattempts, rfl, trivial, trivial, trivial, rfl, trivial,
      fun _ h => absurd h List.not_mem_nil⟩
  · exact Napi.stays_of_keepsTable (by simp [steps, Napi.ThreadStep.keepsTable])
  · rw [hlisteners]
    simp only [List.forall_mem_cons]
    exact ⟨rfl, rfl, fun _ h => absurd h List.not_mem_nil⟩
  · have hdone : ∀ l ∈ s.listeners, (((Napi.threads .dualSim (Finset Pair)).run s
        steps).pending l).isEmpty = true := by decide +kernel
    exact fun l hl => List.isEmpty_iff.mp (hdone l hl)

/-- A signal list without elements is delivered by one front end only. -/
theorem empty_signal_list_differs :
    let s := (Napi.threads .dualSim (Finset Pair)).run (.start .dualSim ∅)
      [.on 1 (.event .signalStrengths) 0 true (registryManager fun _ => .telephonySuccess)
        (fun _ _ _ => true)]
    let steps : List (Napi.ThreadStep .dualSim (Finset Pair)) :=
      [.notified (.onSignalInfoUpdated 0 []), .processEvent fun _ => .succeeding 0,
        .workUpdated 0 .succeeding, .proceed 1]
    let l : Napi.EventListener := ⟨1, .event .signalStrengths, 0, 1, 1⟩
    let l' : Cj.EventListener := ⟨.event .signalStrengths, 0, 4, 5⟩
    let updates : List (SharedUpdate Platform.dualSim) := [.onSignalInfoUpdated 0 []]
    s.listeners = [l] ∧ l'.pair = l.pair ∧
      (Napi.threads .dualSim (Finset Pair)).Along Napi.Threads.InTurn s steps ∧
      s.Delivers steps (updates.map SharedUpdate.callback) ∧
      ((Napi.threads .dualSim (Finset Pair)).outs s steps).flatMap
        (Napi.valuesTo Payloads.dualSim l) = [.signalInfo []] ∧
      Cj.received Payloads.dualSim [l'] (updates.map SharedUpdate.callback) l' = [] := by
  intro s steps l l' updates
  refine ⟨rfl, rfl, ?_, ⟨rfl, ?_, ?_, ?_, ?_⟩, by decide, by decide⟩
  · exact ⟨trivial, trivial, Napi.Threads.inTurn_zero _ _, trivial, trivial⟩
  · simp only [steps, List.forall_mem_cons]
    exact ⟨trivial, fun _ => ⟨rfl, rfl, rfl, rfl⟩, rfl, trivial,
      fun _ h => absurd h List.not_mem_nil⟩
  · exact Napi.stays_of_keepsTable (by simp [steps, Napi.ThreadStep.keepsTable])
  · intro l hl
    rw [List.mem_singleton.mp hl]
    rfl
  · intro l hl
    rw [List.mem_singleton.mp hl]
    rfl

end TelephonyStateRegistry
