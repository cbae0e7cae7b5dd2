import TelephonyStateRegistry.Interpretation.Topic

/-!
# What a subscriber is told live

The loop of an update makes at most one callback on a record: it takes the
first of its events that the record listens for, and sends the reported
callback as that record may see it. Apart from the number of a slot call, which
is read from the cache at notification time, the callback is the update's own.
-/

namespace TelephonyStateRegistry

open Reactive

variable {P : Platform}

/-- The events of an update, in the order in which its loop tests them. -/
def Update.topics : Update P → List ObserverMask
  | cellularDataConnectState .. => [.dataConnectionState]
  | cellularDataFlow .. => [.dataFlow]
  | callState .. => [.callState, .callStateEx, .ccallState]
  | callStateForSlotId .. => [.callState, .callStateEx, .ccallState]
  | simState .. => [.simState]
  | signalInfo .. => [.signalStrengths]
  | cellInfo .. => [.cellInfo]
  | networkState .. => [.networkState]
  | cfuIndicator .. => [.cfuIndicator]
  | iccAccount => [.iccAccount]
  | voiceMailMsgIndicator .. => [.voiceMailMsgIndicator]
  | simActiveState .. => [.simActiveState]
  | voipCallState .. => [.voipCallState]

/-- Whether the loop of an update looks at records under a slot. -/
def Update.slotMatches : Update P → Int → Bool
  | cellularDataConnectState slotId _ _ => sameOrAllSlots slotId
  | cellularDataFlow slotId _ => sameOrAllSlots slotId
  | u => fun recordSlot => match u.slotId with
    | some slotId => sameSlot slotId recordSlot
    | none => true

/-- The callback that an update reports when it is notified over given caches. -/
def Update.payloadAt (c : Caches P) : Update P → ObserverMask → Option (Callback P)
  | callStateForSlotId slotId state _, .callState =>
    some (.onCallStateUpdated slotId state (c.callIncomingNumber.read slotId))
  | u, m => u.payload m

/-- What a live report shows a record of a reported callback. -/
def Callback.sent (env : Env) (record : Record) : Callback P → Option (Callback P)
  | onCallStateUpdated slotId state number =>
    some (.onCallStateUpdated slotId state
      (if record.isCanReadCallHistory env then number else []))
  | onCCallStateUpdated slotId state number =>
    if record.canManageCallForDevices env then some (.onCCallStateUpdated slotId state number)
    else none
  | onCellularDataConnectStateUpdated slotId dataState networkType =>
    some (.onCellularDataConnectStateUpdated slotId dataState
      (match P.onCellularDataConnectStateUpdated with
        | some hook => hook slotId record networkType
        | none => networkType))
  | onSignalInfoUpdated slotId vec =>
    some (.onSignalInfoUpdated slotId
      (match P.onSignalInfoUpdated with
        | some hook => hook slotId record vec vec
        | none => vec))
  | onCellInfoUpdated slotId vec =>
    some (.onCellInfoUpdated slotId
      (match P.onCellInfoUpdated with
        | some hook => hook slotId record vec vec
        | none => vec))
  | onNetworkStateUpdated slotId state =>
    if state.isSome then
      some (.onNetworkStateUpdated slotId
        (match P.onNetworkStateUpdated with
          | some hook => hook slotId record (state.map P.parcelCopy) state
          | none => state))
    else none
  | onVoIPStateUpdated info =>
    if record.canManageCallForDevices env then some (.onVoIPStateUpdated info) else none
  | callback => some callback

/-- The first event of an update that a record listens for. -/
def Update.topicFor (u : Update P) (record : Record) : Option ObserverMask :=
  u.topics.find? (record.listensTo P)

private theorem find?_singleton_bind {β : Type} (p : ObserverMask → Bool) (m : ObserverMask)
    (f : ObserverMask → Option β) :
    ([m].find? p).bind f = if p m then f m else none := by
  cases hm : p m <;> simp [hm]

private theorem liveCallState_spec (env : Env) {slotId state : Int}
    {phoneNumber number : U16String} {report : ObserverMask → Option (Callback P)}
    (hcall : report .callState = some (.onCallStateUpdated slotId state phoneNumber))
    (hcallEx : report .callStateEx = some (.onCallStateUpdatedEx slotId state))
    (hccall : report .ccallState = some (.onCCallStateUpdated slotId state number))
    (record : Record) :
    liveCallState env slotId state phoneNumber number record =
      if record.slotId = slotId then
        (([ObserverMask.callState, .callStateEx, .ccallState].find?
          (record.listensTo P)).bind report).bind (Callback.sent env record)
      else none := by
  unfold liveCallState
  by_cases hs : record.slotId = slotId
  · rw [if_pos hs, if_pos hs]
    cases h₁ : record.listensTo P .callState
    · cases h₂ : record.listensTo P .callStateEx
      · cases h₃ : record.listensTo P .ccallState <;>
          simp [h₁, h₂, h₃, hccall, Callback.sent]
      · simp [h₁, h₂, hcallEx, Callback.sent]
    · simp [h₁, hcall, Callback.sent]
  · rw [if_neg hs, if_neg hs]

/-- The callback that a loop makes on a record: the reported callback for the
first subscribed event, as that record may see it. -/
theorem Update.live_spec (u : Update P) (env : Env) (c : Caches P) (record : Record) :
    u.live env c record =
      if u.slotMatches record.slotId then
        ((u.topicFor record).bind (u.payloadAt c)).bind (Callback.sent env record)
      else none := by
  cases u with
  | callState state number =>
    simp only [live, slotMatches, Update.slotId, sameSlot, beq_iff_eq, topicFor, topics]
    exact liveCallState_spec env rfl rfl rfl record
  | callStateForSlotId slotId state number =>
    simp only [live, slotMatches, Update.slotId, sameSlot, beq_iff_eq, topicFor, topics]
    exact liveCallState_spec env rfl rfl rfl record
  | networkState slotId state =>
    simp only [live, slotMatches, Update.slotId, sameSlot, beq_iff_eq, topicFor, topics,
      find?_singleton_bind, payloadAt, payload]
    cases hhook : P.onNetworkStateUpdated <;>
      by_cases hl : record.listensTo P .networkState = true <;>
        by_cases hs : record.slotId = slotId <;> simp [hl, hs, hhook, Callback.sent]
  | voipCallState info =>
    simp only [live, slotMatches, Update.slotId, topicFor, topics, find?_singleton_bind,
      payloadAt, payload]
    by_cases hl : record.listensTo P .voipCallState = true <;> simp [hl, Callback.sent]
  | _ =>
    simp only [live, slotMatches, Update.slotId, sameSlot, beq_iff_eq, topicFor, topics,
      find?_singleton_bind, payloadAt, payload]
    split_ifs <;> first | rfl | simp_all

/-- An update reports a callback exactly for its own events. -/
theorem Update.mem_topics {u : Update P} {m : ObserverMask} :
    m ∈ u.topics ↔ u.payload m ≠ none := by
  cases u <;> cases m <;> simp [topics, payload]

/-- Outside the call events an update has at most one event. -/
theorem Update.topics_of_payload {u : Update P} {m : ObserverMask} {callback : Callback P}
    (hm : m.isCallState = false) (h : u.payload m = some callback) : u.topics = [m] := by
  cases u <;> cases m <;> simp only [payload, reduceCtorEq] at h <;> first
    | rfl
    | simp [ObserverMask.isCallState] at hm

/-- Only the number of a slot call is read from the caches. -/
theorem Update.payloadAt_of_ne {m : ObserverMask} (hm : m ≠ .callState) (c : Caches P)
    (u : Update P) : u.payloadAt c m = u.payload m := by
  cases u <;> cases m <;> first | rfl | exact absurd rfl hm

/-- Right after its own exclusive section an update reports its own arguments. -/
theorem Update.payloadAt_write (u : Update P) (c : Caches P) (m : ObserverMask) :
    u.payloadAt (u.function.write c) m = u.payload m := by
  cases u <;> cases m <;> first
    | rfl
    | simp only [payloadAt, payload, function, updateCallStateForSlotId, KeyMap.read_assign,
        if_true]

theorem Update.payloadAt_event {u : Update P} {c : Caches P} {m : ObserverMask}
    {callback : Callback P} (h : u.payloadAt c m = some callback) :
    callback.event = m ∧ callback.slotId = u.slotId := by
  cases u <;> cases m <;>
    simp only [payloadAt, payload, Option.some.injEq, reduceCtorEq] at h <;> subst h <;>
      exact ⟨rfl, rfl⟩

/-- A sent callback serves the same event and slot as the reported one. -/
theorem Callback.sent_event {env : Env} {record : Record} {callback sent : Callback P}
    (h : callback.sent env record = some sent) :
    sent.event = callback.event ∧ sent.slotId = callback.slotId := by
  cases callback <;> simp only [Callback.sent, Option.some.injEq, Option.ite_none_right_eq_some]
    at h
  all_goals first
    | subst h
      exact ⟨rfl, rfl⟩
    | obtain ⟨-, rfl⟩ := h
      exact ⟨rfl, rfl⟩

/-- A live callback is made on a record that listens for its event under a
matching slot, and shows that record what the update reports. -/
theorem Update.live_eq_some {u : Update P} {env : Env} {c : Caches P} {record : Record}
    {callback : Callback P} (h : u.live env c record = some callback) :
    record.listensTo P callback.event = true ∧ u.slotMatches record.slotId = true ∧
      callback.slotId = u.slotId ∧ ∃ reported,
        u.payloadAt c callback.event = some reported ∧
          reported.sent env record = some callback := by
  rw [live_spec, Option.ite_none_right_eq_some] at h
  obtain ⟨hslot, h⟩ := h
  obtain ⟨reported, hr, hsent⟩ := Option.bind_eq_some_iff.mp h
  obtain ⟨m, hm, hp⟩ := Option.bind_eq_some_iff.mp hr
  obtain ⟨he, hs⟩ := Callback.sent_event hsent
  obtain ⟨he', hs'⟩ := payloadAt_event hp
  have hevent : callback.event = m := he.trans he'
  have hlisten : record.listensTo P m = true := List.find?_some hm
  refine ⟨hevent ▸ hlisten, hslot, hs.trans hs', reported, ?_, hsent⟩
  rw [hevent]
  exact hp

/-- Outside the call events a loop makes the reported callback on every record
that listens for it under a matching slot. -/
theorem Update.live_of_payload {u : Update P} {m : ObserverMask} {callback : Callback P}
    (hm : m.isCallState = false) (h : u.payload m = some callback) (env : Env) (c : Caches P)
    (record : Record) :
    u.live env c record =
      if u.slotMatches record.slotId ∧ record.listensTo P m then callback.sent env record
      else none := by
  have hne : m ≠ .callState := by
    rintro rfl
    cases hm
  rw [live_spec, topicFor, topics_of_payload hm h, find?_singleton_bind, payloadAt_of_ne hne, h]
  by_cases hs : u.slotMatches record.slotId = true <;>
    by_cases hl : record.listensTo P m = true <;> simp [hs, hl]

/-- A record with a single-bit mask gets exactly the callback of that event. -/
theorem Update.live_of_single {m : ObserverMask} {record : Record}
    (hmask : record.mask = P.mask m) (ho : record.telephonyObserver ≠ none) (u : Update P)
    (env : Env) (c : Caches P) :
    u.live env c record =
      if u.slotMatches record.slotId then (u.payloadAt c m).bind (Callback.sent env record)
      else none := by
  have hlisten : ∀ n, record.listensTo P n = true ↔ n = m := by
    intro n
    rw [Record.listensTo_iff, hmask, P.contains_mask]
    exact and_iff_right ho
  have htopic : (u.topicFor record).bind (u.payloadAt c) = u.payloadAt c m := by
    cases hf : u.topicFor record with
    | some n =>
      rw [(hlisten n).mp (List.find?_some hf), Option.bind_some]
    | none =>
      have hnot : m ∉ u.topics := fun hmem =>
        List.find?_eq_none.mp hf m hmem ((hlisten m).mpr rfl)
      cases hp : u.payloadAt c m with
      | none => rfl
      | some callback =>
        refine absurd ?_ hnot
        rw [mem_topics]
        cases u <;> cases m <;>
          simp only [payloadAt, payload, reduceCtorEq, ne_eq, not_false_eq_true] at hp ⊢
  rw [live_spec, htopic]

/-- Without an extension library a state event is sent unchanged, unless it is a
null network state. -/
theorem Callback.sent_of_extAbsent (hx : P.ExtAbsent) {callback : Callback P}
    (hm : callback.event.isCallState = false) (hv : callback.event ≠ .voipCallState)
    (hn : ∀ slotId, callback ≠ .onNetworkStateUpdated slotId none) (env : Env)
    (record : Record) : callback.sent env record = some callback := by
  obtain ⟨hconn, hsignal, hcell, hnet⟩ := hx
  cases callback with
  | onCallStateUpdated _ _ _ => cases hm
  | onCCallStateUpdated _ _ _ => cases hm
  | onVoIPStateUpdated _ => exact absurd rfl hv
  | onNetworkStateUpdated slotId state =>
    cases state with
    | none => exact absurd rfl (hn slotId)
    | some n => simp only [Callback.sent, hnet, Option.isSome_some, if_true]
  | _ => simp only [Callback.sent, hconn, hsignal, hcell]

/-- An accepted update sends a token what it reports on an event: the events of
managed calls ask for a permission at delivery, and a null network state is not sent. -/
def Update.sends (u : Update P) (env : Env) (tokenId : Int) (m : ObserverMask) : Prop :=
  u.accepted env ∧ m ∈ u.topics ∧
    (m = .ccallState ∨ m = .voipCallState →
      env.verifyAccessToken tokenId .manageCallForDevices ≠ .denied) ∧
    ∀ slotId, u ≠ .networkState slotId none

/-- What an update sends a token is sent to each of its records. -/
theorem Update.sends_payload {u : Update P} {env : Env} {m : ObserverMask} {record : Record}
    (h : u.sends env record.tokenId m) :
    ∃ callback, (u.payload m).bind (Callback.sent env record) = some callback ∧
      callback.event = m := by
  obtain ⟨-, htopic, hmanage, hnull⟩ := h
  have hsent : ∃ reported callback, u.payload m = some reported ∧
      reported.sent env record = some callback := by
    have hcan : m = .ccallState ∨ m = .voipCallState →
        record.canManageCallForDevices env = true := by
      intro hm
      rw [Record.canManageCallForDevices, if_neg (hmanage hm)]
    cases u <;> simp only [topics, List.mem_cons, List.not_mem_nil, or_false] at htopic
    case networkState slotId state =>
      cases state with
      | none => exact absurd rfl (hnull slotId)
      | some n =>
        subst htopic
        exact ⟨_, _, rfl, rfl⟩
    case voipCallState info =>
      subst htopic
      exact ⟨_, _, rfl, if_pos (hcan (Or.inr rfl))⟩
    case callState state number =>
      rcases htopic with rfl | rfl | rfl
      · exact ⟨_, _, rfl, rfl⟩
      · exact ⟨_, _, rfl, rfl⟩
      · exact ⟨_, _, rfl, if_pos (hcan (Or.inl rfl))⟩
    case callStateForSlotId slotId state number =>
      rcases htopic with rfl | rfl | rfl
      · exact ⟨_, _, rfl, rfl⟩
      · exact ⟨_, _, rfl, rfl⟩
      · exact ⟨_, _, rfl, if_pos (hcan (Or.inl rfl))⟩
    all_goals
      subst htopic
      exact ⟨_, _, rfl, rfl⟩
  obtain ⟨reported, callback, hp, hs⟩ := hsent
  refine ⟨callback, ?_, (Callback.sent_event hs).1.trans (Update.payload_event hp).1⟩
  rw [hp]
  exact hs

/-- Nothing else is sent. -/
theorem Update.sends_of_payload {u : Update P} {env : Env} {m : ObserverMask} {record : Record}
    {callback : Callback P} (hacc : u.accepted env)
    (h : (u.payload m).bind (Callback.sent env record) = some callback) :
    u.sends env record.tokenId m := by
  obtain ⟨reported, hp, hs⟩ := Option.bind_eq_some_iff.mp h
  refine ⟨hacc, mem_topics.mpr (hp ▸ Option.some_ne_none reported), ?_, ?_⟩
  · intro hm hdenied
    have hcan : record.canManageCallForDevices env = false := by
      rw [Record.canManageCallForDevices, if_pos hdenied]
    have hevent := (payload_event hp).1
    cases reported <;> simp only [Callback.event] at hevent <;> subst hevent <;>
      simp only [reduceCtorEq, or_self, or_true, true_or] at hm <;>
        simp only [Callback.sent, hcan, Bool.false_eq_true, if_false, reduceCtorEq] at hs
  · rintro slotId rfl
    cases m <;> simp only [payload, reduceCtorEq, Option.some.injEq] at hp
    subst hp
    cases hs

end TelephonyStateRegistry
