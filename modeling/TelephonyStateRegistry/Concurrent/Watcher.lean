import TelephonyStateRegistry.Concurrent.Reports

/-!
# One observer and one topic

Seen by one observer, the part of an interleaving that concerns one topic is a
cell that is written and announced in two phases: the cell is the cached
callback, the announcements are the notifications of the updates under way, and
a replay refreshes the observer. The observer misses an announcement only if no
record stores it as a listener of the topic.
-/

namespace TelephonyStateRegistry

open Reactive

variable {P : Platform}

/-- The events whose callbacks carry a cached payload to every listener unchanged. -/
def ObserverMask.IsState : ObserverMask → Prop
  | .networkState | .signalStrengths | .cellInfo | .simState | .dataConnectionState | .dataFlow
  | .cfuIndicator | .voiceMailMsgIndicator | .simActiveState => True
  | .callState | .callStateEx | .ccallState | .iccAccount | .voipCallState => False

/-- A record that listens for an event and whose slot takes in a given slot. -/
def Record.watches (P : Platform) (record : Record) (m : ObserverMask) (slotId : Int) : Bool :=
  record.listensTo P m &&
    (if m = .dataConnectionState ∨ m = .dataFlow then sameOrAllSlots slotId record.slotId
    else sameSlot slotId record.slotId)

/-- The callback of a delivery, if it is made on an observer and serves a topic. -/
def Delivery.onTopic (o : Observer) (m : ObserverMask) (slotId : Int) (d : Delivery P) :
    Option (Callback P) :=
  if d.record.telephonyObserver = some o ∧ d.callback.event = m ∧ d.callback.slotId = some slotId
  then some d.callback else none

/-- The last callback of a topic that an observer got in one step. -/
def Effect.seen (o : Observer) (m : ObserverMask) (slotId : Int) (e : Effect P) :
    Option (Callback P) :=
  lastOf (Delivery.onTopic o m slotId) e.deliveries

/-- An observer stored under a record that watches a topic. -/
def System.WatchedBy (s : System P) (o : Observer) (m : ObserverMask) (slotId : Int) : Prop :=
  ∃ record ∈ s.service.stateRecords, record.telephonyObserver = some o ∧
    record.watches P m slotId = true

theorem ObserverMask.IsState.facts {m : ObserverMask} (hm : m.IsState) :
    m.isCallState = false ∧ m ≠ .voipCallState ∧ m ≠ .callState ∧ m ≠ .iccAccount := by
  cases m <;> first | exact hm.elim | decide

theorem Caches.exists_cached {m : ObserverMask} (hm : m.IsState) (c : Caches P) (slotId : Int) :
    ∃ callback, c.cached m slotId = some callback := by
  cases m <;> first | exact hm.elim | exact ⟨_, rfl⟩

variable {m : ObserverMask} {slotId : Int} {o : Observer}

/-- An update that reports on a topic looks at exactly the records that watch it. -/
theorem Update.slotMatches_of_report {u : Update P} (hm : m.IsState) {callback : Callback P}
    (h : u.report m slotId = some callback) (record : Record) :
    (u.slotMatches record.slotId = true ∧ record.listensTo P m = true) ↔
      record.watches P m slotId = true := by
  obtain ⟨hslot, hp⟩ := Option.ite_none_right_eq_some.mp h
  cases u <;> cases m <;> first
    | exact hm.elim
    | simp only [payload, reduceCtorEq] at hp
  all_goals
    cases hslot
    simp [slotMatches, Update.slotId, Record.watches, and_comm]

/-- What an update reports on a topic is sent unchanged. -/
theorem Update.sent_of_report {u : Update P} (hx : P.ExtAbsent) (hm : m.IsState)
    (hcopy : m = .networkState → u.CopiedFaithfully) {callback : Callback P}
    (h : u.report m slotId = some callback) (env : Env) (record : Record) :
    callback.sent env record = some callback := by
  obtain ⟨hslot, hp⟩ := Option.ite_none_right_eq_some.mp h
  have hevent := (payload_event hp).1
  apply Callback.sent_of_extAbsent hx (hevent ▸ hm.facts.1) (hevent ▸ hm.facts.2.1)
  intro slotId' hnull
  -- a faithful update reports no null network state
  have hnet : m = .networkState := hevent ▸ congrArg Callback.event hnull
  subst hnet hnull
  cases u <;> simp only [payload, reduceCtorEq, Option.some.injEq,
    Callback.onNetworkStateUpdated.injEq] at hp
  obtain ⟨rfl, rfl⟩ := hp
  obtain ⟨n, hn, -⟩ := hcopy rfl _ _ rfl
  cases hn

/-- A callback of a topic that a notification makes is the report of its update. -/
theorem Update.live_onTopic {u : Update P} (hx : P.ExtAbsent) (hm : m.IsState)
    (hcopy : m = .networkState → u.CopiedFaithfully) {env : Env} {c : Caches P}
    {record : Record} {callback : Callback P} (h : u.live env c record = some callback)
    (hevent : callback.event = m) (hslot : callback.slotId = some slotId) :
    u.report m slotId = some callback := by
  obtain ⟨-, -, hslot', reported, hreported, hsent⟩ := live_eq_some h
  rw [hevent, payloadAt_of_ne hm.facts.2.2.1] at hreported
  have hreport : u.report m slotId = some reported := by
    rw [report, if_pos (hslot'.symm.trans hslot), hreported]
  rw [hreport, ← sent_of_report hx hm hcopy hreport env record, hsent]

/-- What an observer sees of a topic in the notification of an update: its
report, or nothing; and its report if the observer watches the topic. -/
theorem Update.seen_notify (hx : P.ExtAbsent) (hm : m.IsState) {u : Update P}
    (hcopy : m = .networkState → u.CopiedFaithfully) (o : Observer) (slotId : Int) (env : Env)
    (s : System P) :
    (lastOf (Delivery.onTopic o m slotId) (u.deliveries env s.service) = none ∨
      lastOf (Delivery.onTopic o m slotId) (u.deliveries env s.service) = u.report m slotId) ∧
    (s.WatchedBy o m slotId →
      lastOf (Delivery.onTopic o m slotId) (u.deliveries env s.service) = u.report m slotId) := by
  have hshows : ∀ callback,
      lastOf (Delivery.onTopic o m slotId) (u.deliveries env s.service) = some callback →
        u.report m slotId = some callback := by
    intro callback hlast
    obtain ⟨d, hd, htopic⟩ := exists_mem_of_lastOf _ hlast
    obtain ⟨⟨-, hevent, hslot⟩, hsame⟩ := Option.ite_none_right_eq_some.mp htopic
    obtain ⟨-, hlive⟩ := mem_deliveriesOf.mp hd
    obtain rfl := Option.some.inj hsame
    exact live_onTopic hx hm hcopy hlive hevent hslot
  refine ⟨?_, ?_⟩
  · cases hlast : lastOf (Delivery.onTopic o m slotId) (u.deliveries env s.service) with
    | none => exact Or.inl rfl
    | some callback => exact Or.inr (hshows callback hlast).symm
  · rintro ⟨record, hr, ho, hwatch⟩
    cases hlast : lastOf (Delivery.onTopic o m slotId) (u.deliveries env s.service) with
    | some callback => exact (hshows callback hlast).symm
    | none =>
      cases hreport : u.report m slotId with
      | none => rfl
      | some callback =>
        -- the loop calls the watching record, so something was seen
        obtain ⟨hslot, hp⟩ := Option.ite_none_right_eq_some.mp hreport
        obtain ⟨hevent, hslot'⟩ := payload_event hp
        have hlive : u.live env s.service.caches record = some callback := by
          rw [live_of_payload hm.facts.1 hp,
            if_pos ((slotMatches_of_report hm hreport record).mpr hwatch),
            sent_of_report hx hm hcopy hreport]
        have hd : (⟨record, callback⟩ : Delivery P) ∈ u.deliveries env s.service :=
          mem_deliveriesOf.mpr ⟨hr, hlive⟩
        have hnone := (lastOf_eq_none _).mp hlast _ hd
        rw [Delivery.onTopic, if_pos ⟨ho, hevent, hslot'.trans hslot⟩] at hnone
        cases hnone

/-- What an observer sees of a topic in a replay is the cached callback. -/
theorem Registration.seen_replay (hm : m.IsState) (env : Env) (r : Registration) (s : System P)
    {callback : Callback P}
    (h : lastOf (Delivery.onTopic o m slotId) (r.replay env s.service) = some callback) :
    s.service.caches.cached m slotId = some callback := by
  obtain ⟨d, hd, htopic⟩ := exists_mem_of_lastOf _ h
  obtain ⟨⟨-, hevent, hslot⟩, hsame⟩ := Option.ite_none_right_eq_some.mp htopic
  obtain ⟨-, -, -, -, hreplayed⟩ := mem_replay.mp hd
  obtain rfl := Option.some.inj hsame
  have hslot' := (Caches.replayed_event hreplayed).2 (hevent ▸ hm.facts.2.2.2)
  have hsame : slotId = d.record.slotId := Option.some.inj (hslot.symm.trans hslot')
  rw [hevent, Caches.replayed_of_not_callState hm.facts.1, ← hsame] at hreplayed
  exact hreplayed

/-- A replay to the observer of a watching record shows it the cached callback. -/
theorem Registration.seen_own_replay (hm : m.IsState) (env : Env) {r : Registration} {s : System P}
    (hupdate : r.isUpdate = true) (ho : (r.subscriber s.service).telephonyObserver = some o)
    (hbit : P.contains r.mask m = true) :
    lastOf (Delivery.onTopic o m r.slotId) (r.replay env s.service) =
      s.service.caches.cached m r.slotId := by
  have hkey := r.subscriber_key s.service
  have hmask : (r.subscriber s.service).mask = r.mask := congrArg Key.mask hkey
  have hslot : (r.subscriber s.service).slotId = r.slotId := congrArg Key.slotId hkey
  obtain ⟨callback, hcached⟩ := s.service.caches.exists_cached hm r.slotId
  obtain ⟨hevent, hslot'⟩ := Caches.cached_event hcached
  have hreplayed : s.service.caches.replayed env (r.subscriber s.service) m = some callback := by
    rw [Caches.replayed_of_not_callState hm.facts.1, hslot, hcached]
  have hd : (⟨r.subscriber s.service, callback⟩ : Delivery P) ∈ r.replay env s.service := by
    refine mem_replay.mpr ⟨hupdate, rfl, ?_, ?_, hevent.symm ▸ hreplayed⟩
    · rw [hevent]
      cases m <;> first | exact hm.elim | decide
    · rw [hevent]
      exact Record.listensTo_iff.mpr ⟨ho ▸ Option.some_ne_none o, hmask.symm ▸ hbit⟩
  cases hlast : lastOf (Delivery.onTopic o m r.slotId) (r.replay env s.service) with
  | some last => exact (seen_replay hm env r s hlast).symm
  | none =>
    have hnone := (lastOf_eq_none _).mp hlast _ hd
    rw [Delivery.onTopic, if_pos ⟨ho, hevent, hslot' hm.facts.2.2.2⟩] at hnone
    cases hnone

/-- The cell of a topic as an observer sees it, read off a state and the effects
since some earlier state. -/
structure Projects (o : Observer) (m : ObserverMask) (slotId : Int) (s : System P)
    (effects : List (Effect P)) (c : Cell (Callback P)) : Prop where
  value : s.service.caches.cached m slotId = some c.value
  pending : (s.pending.filterMap fun u => u.report m slotId) = c.pending
  told : lastOf (Effect.notifiedReport m slotId) effects = c.told
  seen : lastOf (Effect.seen o m slotId) effects = c.seen
  faithful : m = .networkState → ∀ u ∈ s.pending, u.CopiedFaithfully

/-- Every state projects onto a cell of which nothing has been announced or seen. -/
theorem Projects.start (hm : m.IsState) (o : Observer) (slotId : Int) {s : System P}
    (hfaithful : m = .networkState → ∀ u ∈ s.pending, u.CopiedFaithfully) :
    ∃ c, Projects o m slotId s [] c ∧ c.told = none ∧ c.seen = none := by
  obtain ⟨callback, hc⟩ := s.service.caches.exists_cached hm slotId
  exact ⟨⟨callback, _, none, none⟩, ⟨hc, rfl, rfl, rfl, hfaithful⟩, rfl, rfl⟩

variable {s s' : System P} {step : AtomicStep P} {e : Effect P} {effects : List (Effect P)}
  {c : Cell (Callback P)}

/-- What a step of the system does to the cell: a transition that is a write
only if the step reports on the topic, and that reaches the observer if it
watches the topic. -/
structure CellStep (o : Observer) (m : ObserverMask) (slotId : Int) (s s' : System P)
    (e : Effect P) (effects : List (Effect P)) (c : Cell (Callback P))
    (event : Cell.Event (Callback P)) (c' : Cell (Callback P)) : Prop where
  step : Cell.Step c event c'
  projects : Projects o m slotId s' (effects ++ [e]) c'
  reaches : s.WatchedBy o m slotId → event.Reaches
  writes : ∀ v, event = .write v → e.wroteReport m slotId = some v

private theorem Projects.quiet (h : Projects o m slotId s effects c)
    (hvalue : s'.service.caches.cached m slotId = s.service.caches.cached m slotId)
    (hpending : (s'.pending.filterMap fun u => u.report m slotId) =
      s.pending.filterMap fun u => u.report m slotId)
    (htold : e.notifiedReport m slotId = none) (hseen : e.seen o m slotId = none)
    (hfaithful : m = .networkState → ∀ u ∈ s'.pending, u.CopiedFaithfully) :
    ∃ event c', CellStep o m slotId s s' e effects c event c' := by
  have htold' : lastOf (Effect.notifiedReport m slotId) (effects ++ [e]) = c.told := by
    rw [lastOf_concat, htold, Option.none_or, h.told]
  have hseen' : lastOf (Effect.seen o m slotId) (effects ++ [e]) = c.seen := by
    rw [lastOf_concat, hseen, Option.none_or, h.seen]
  refine ⟨.idle, c, .idle c, ?_, fun _ => trivial, ?_⟩
  · exact ⟨hvalue.trans h.value, hpending.trans h.pending, htold', hseen', hfaithful⟩
  · intro v hv
    cases hv

private theorem Projects.wrote (h : Projects o m slotId s effects c) {u : Update P}
    (hcopy : m = .networkState → u.CopiedFaithfully) :
    ∃ event c', CellStep o m slotId s ⟨u.function.writeTo s.service, s.pending ++ [u]⟩
      ⟨some u, none, none⟩ effects c event c' := by
  have hvalue := u.write_cached hcopy s.service.caches slotId
  have hfaithful : m = .networkState → ∀ u' ∈ s.pending ++ [u], u'.CopiedFaithfully := by
    intro hm u' hu'
    rcases List.mem_append.mp hu' with hu' | hu'
    · exact h.faithful hm u' hu'
    · exact List.mem_singleton.mp hu' ▸ hcopy hm
  cases hr : u.report m slotId with
  | none =>
    rw [hr, Option.none_or] at hvalue
    have hpending : ((s.pending ++ [u]).filterMap fun u => u.report m slotId) =
        s.pending.filterMap fun u => u.report m slotId := by
      simp only [List.filterMap_append, List.filterMap_cons, hr, List.filterMap_nil,
        List.append_nil]
    exact h.quiet hvalue hpending rfl rfl hfaithful
  | some callback =>
    rw [hr, Option.some_or] at hvalue
    have hpending : ((s.pending ++ [u]).filterMap fun u => u.report m slotId) =
        c.pending ++ [callback] := by
      simp only [List.filterMap_append, h.pending, List.filterMap_cons, hr, List.filterMap_nil]
    have htold : lastOf (Effect.notifiedReport m slotId) (effects ++ [⟨some u, none, none⟩]) =
        c.told := by
      rw [lastOf_concat, h.told]
      rfl
    have hseen : lastOf (Effect.seen o m slotId) (effects ++ [⟨some u, none, none⟩]) = c.seen := by
      rw [lastOf_concat, h.seen]
      rfl
    refine ⟨.write callback, _, .write c callback, ?_, fun _ => trivial, ?_⟩
    · exact ⟨hvalue, hpending, htold, hseen, hfaithful⟩
    · rintro v hv
      cases hv
      exact hr

private theorem Projects.notified (hx : P.ExtAbsent) (hm : m.IsState)
    (h : Projects o m slotId s effects c) {env : Env} {before after : List (Update P)}
    {u : Update P} {caches : Caches P} (hpending : s.pending = before ++ u :: after)
    (htotal : caches.total = s.service.caches.total) :
    ∃ event c', CellStep o m slotId s ⟨{ s.service with caches }, before ++ after⟩
      ⟨none, some u, some ⟨resultOf (u.deliveries env s.service), u.deliveries env s.service,
        u.events⟩⟩ effects c event c' := by
  have hvalue := Caches.cached_congr htotal m slotId
  have hmem : u ∈ s.pending := hpending ▸ List.mem_append_right _ List.mem_cons_self
  have hcopy : m = .networkState → u.CopiedFaithfully := fun hm => h.faithful hm u hmem
  have hfaithful : m = .networkState → ∀ u' ∈ before ++ after, u'.CopiedFaithfully := by
    intro hm u' hu'
    apply h.faithful hm u'
    rw [hpending]
    exact List.mem_append.mpr ((List.mem_append.mp hu').imp_right (List.mem_cons_of_mem _))
  obtain ⟨hsome, hwatched⟩ := Update.seen_notify hx hm hcopy o slotId env s
  have hcell := h.pending
  rw [hpending, List.filterMap_append, List.filterMap_cons] at hcell
  cases hr : u.report m slotId with
  | none =>
    rw [hr] at hsome hcell
    have hseen := or_self_iff.mp hsome
    have hsame : ((before ++ after).filterMap fun u => u.report m slotId) =
        s.pending.filterMap fun u => u.report m slotId := by
      rw [List.filterMap_append, h.pending, ← hcell]
    exact h.quiet hvalue hsame hr hseen hfaithful
  | some callback =>
    rw [hr] at hsome hwatched hcell
    have htold : lastOf (Effect.notifiedReport m slotId) (effects ++ [⟨none, some u,
        some ⟨resultOf (u.deliveries env s.service), u.deliveries env s.service, u.events⟩⟩]) =
          some callback := by
      rw [lastOf_concat]
      change (u.report m slotId).or _ = _
      rw [hr, Option.some_or]
    have hlast : lastOf (Effect.seen o m slotId) (effects ++ [⟨none, some u,
        some ⟨resultOf (u.deliveries env s.service), u.deliveries env s.service, u.events⟩⟩]) =
          (lastOf (Delivery.onTopic o m slotId) (u.deliveries env s.service)).or c.seen := by
      rw [lastOf_concat, h.seen]
      rfl
    by_cases hseen : lastOf (Delivery.onTopic o m slotId) (u.deliveries env s.service) =
        some callback
    · rw [hseen, Option.some_or] at hlast
      refine ⟨.announce callback, _, .announce c _ callback _ hcell.symm, ?_, fun _ => trivial, ?_⟩
      · exact ⟨hvalue.trans h.value, List.filterMap_append, htold, hlast, hfaithful⟩
      · intro v hv
        cases hv
    · -- the observer does not watch the topic, and saw nothing of it
      rw [hsome.resolve_right hseen, Option.none_or] at hlast
      refine ⟨.miss callback, _, .miss c _ callback _ hcell.symm, ?_, ?_, ?_⟩
      · exact ⟨hvalue.trans h.value, List.filterMap_append, htold, hlast, hfaithful⟩
      · intro hw
        exact absurd (hwatched hw) hseen
      · intro v hv
        cases hv

private theorem Projects.registered (hm : m.IsState) (h : Projects o m slotId s effects c)
    (env : Env) (r : Registration) :
    ∃ event c', CellStep o m slotId s
      { s with service := (registerStateChange env r s.service).1 }
      ⟨none, none, some (registerStateChange env r s.service).2⟩ effects c event c' := by
  have hvalue := Caches.cached_congr (registerStateChange_total env r s.service) m slotId
  have hdeliveries := registerStateChange_deliveries env r s.service
  cases hseen : lastOf (Delivery.onTopic o m slotId)
      (registerStateChange env r s.service).2.deliveries with
  | none => exact h.quiet hvalue rfl rfl hseen h.faithful
  | some callback =>
    have hcached : s.service.caches.cached m slotId = some callback := by
      rw [hdeliveries] at hseen
      split at hseen
      · exact Registration.seen_replay hm env r s hseen
      · cases hseen
    obtain rfl := Option.some.inj (h.value.symm.trans hcached)
    have htold : lastOf (Effect.notifiedReport m slotId)
        (effects ++ [⟨none, none, some (registerStateChange env r s.service).2⟩]) = c.told := by
      rw [lastOf_concat, h.told]
      rfl
    have hlast : lastOf (Effect.seen o m slotId)
        (effects ++ [⟨none, none, some (registerStateChange env r s.service).2⟩]) =
          some c.value := by
      rw [lastOf_concat, Effect.seen]
      simp only [Effect.deliveries, hseen, Option.some_or]
    refine ⟨.refresh, _, .refresh c, ?_, fun _ => trivial, ?_⟩
    · exact ⟨hvalue.trans h.value, h.pending, htold, hlast, h.faithful⟩
    · intro v hv
      cases hv

/-- **The projection.** Every step of the system is a step of the cell. -/
theorem Projects.cellStep (hx : P.ExtAbsent) (hm : m.IsState) (h : Projects o m slotId s effects c)
    (hstep : Happens s step s' e) (hcopy : m = .networkState → step.CopiedFaithfully) :
    ∃ event c', CellStep o m slotId s s' e effects c event c' := by
  cases hstep with
  | wrote env u hacc =>
    have hcopied : m = .networkState → u.CopiedFaithfully := fun hm => hcopy hm env u rfl hacc
    exact h.wrote hcopied
  | rejected env u result hacc => exact h.quiet rfl rfl rfl rfl h.faithful
  | notified env i before u after c' hpending htotal => exact h.notified hx hm hpending htotal
  | idle env i => exact h.quiet rfl rfl rfl rfl h.faithful
  | registered env r => exact h.registered hm env r
  | unregistered env k =>
    have hcaches := unregisterStateChange_caches env k s.service
    have hseen : lastOf (Delivery.onTopic o m slotId)
        (unregisterStateChange env k s.service).2.deliveries = none := by
      rw [unregisterStateChange_deliveries, lastOf_nil]
    have hvalue : (unregisterStateChange env k s.service).1.caches.cached m slotId =
        s.service.caches.cached m slotId := by rw [hcaches]
    exact h.quiet hvalue rfl rfl hseen h.faithful

end TelephonyStateRegistry
