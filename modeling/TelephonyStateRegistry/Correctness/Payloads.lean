import TelephonyStateRegistry.Concurrent.Reports

/-!
# Which payloads stay together under concurrency

A notification passes the arguments of its own update, except for the number of
a slot call, which it reads from the cache. A replay reads the cache, where the
fields of one report are written in one locked section. So every payload is one
report as a whole, except that a slot call may be announced with the number of
a later call on the same slot.
-/

namespace TelephonyStateRegistry

open Reactive

variable {P : Platform}

/-- A call state and a number that one update on a slot reported, or that the
caches hold from the start. -/
def ReportedPair (before : List (AtomicStep P)) (slotId state : Int) (number : U16String) : Prop :=
  (slotId = -1 ∧ Begun before (.callState state number)) ∨
    Begun before (.callStateForSlotId slotId state number) ∨
      (Caches.init P).cached .callState slotId = some (.onCallStateUpdated slotId state number)

/-- A step announces a slot call with the number that was written last for its slot. -/
def AnnouncesNumber (before : List (AtomicStep P)) (step : AtomicStep P) (slotId state : Int)
    (number : U16String) : Prop :=
  ∃ state' number',
    ((interleaving P).out (System.after P before) step).notified =
        some (.callStateForSlotId slotId state number') ∧
      lastOf (Effect.wroteReport .callState slotId) (System.effects P before) =
        some (.onCallStateUpdated slotId state' number)

/-- Where the fields of a callback on a record come from: one update that began,
or the initial caches. A call state goes without its number to a token that may
not read the call log, and the announcement of a slot call has its own case. -/
def ReportedWhole (before : List (AtomicStep P)) (step : AtomicStep P) (record : Record) :
    Callback P → Prop
  | .onSimStateUpdated slotId type state reason =>
    Begun before (.simState slotId type state reason) ∨ (type = 0 ∧ state = 0 ∧ reason = 0)
  | .onCellularDataConnectStateUpdated slotId dataState networkType =>
    Begun before (.cellularDataConnectState slotId dataState networkType) ∨
      (dataState = 0 ∧ networkType = 0)
  | .onCallStateUpdated slotId state number =>
    record.isCanReadCallHistory step.env = false ∨ ReportedPair before slotId state number ∨
      AnnouncesNumber before step slotId state number
  | .onCCallStateUpdated slotId state number =>
    ReportedPair before slotId state number ∨
      (state = callStatusIdle ∧ ReportedPair before slotId callStatusUnknown number)
  | _ => True

variable {before : List (AtomicStep P)}

private theorem cached_origin {m : ObserverMask} (hm : m ≠ .networkState) {slotId : Int}
    {reported : Callback P}
    (h : (System.after P before).service.caches.cached m slotId = some reported) :
    (∃ u, Begun before u ∧ u.report m slotId = some reported) ∨
      (Caches.init P).cached m slotId = some reported := by
  rw [cached_after fun hnet => absurd hnet hm] at h
  cases hlast : lastOf (Effect.wroteReport m slotId) (System.effects P before) with
  | none =>
    rw [hlast, Option.none_or] at h
    exact Or.inr h
  | some last =>
    rw [hlast, Option.some_or] at h
    exact Or.inl (exists_begun_of_lastOf (hlast.trans h))

private theorem callback_origin {step : AtomicStep P} {record : Record} {callback : Callback P}
    (hd : ⟨record, callback⟩ ∈ ((interleaving P).out (System.after P before) step).deliveries) :
    (∃ u reported, ((interleaving P).out (System.after P before) step).notified = some u ∧
      Begun before u ∧
      u.payloadAt (System.after P before).service.caches callback.event = some reported ∧
      reported.sent step.env record = some callback) ∨
    ∃ reported, (System.after P before).service.caches.cached callback.event record.slotId =
      some reported ∧ reported.shown step.env record = some callback := by
  rcases (happens _ step).mem_deliveries hd with ⟨u, hu, hp, -, hlive⟩ | ⟨r, -, -, hr⟩
  · obtain ⟨-, -, -, reported, hreported, hsent⟩ := Update.live_eq_some hlive
    exact Or.inl ⟨u, reported, hu, begun_of_mem_pending hp, hreported, hsent⟩
  · obtain ⟨reported, hcached, hshown⟩ :=
      Option.bind_eq_some_iff.mp (Registration.mem_replay.mp hr).2.2.2.2
    exact Or.inr ⟨reported, hcached, hshown⟩

private theorem state_origin (hx : P.ExtAbsent) {step : AtomicStep P} {record : Record}
    {callback : Callback P}
    (hd : ⟨record, callback⟩ ∈ ((interleaving P).out (System.after P before) step).deliveries)
    (hcall : callback.event.isCallState = false) (hvoip : callback.event ≠ .voipCallState)
    (hnet : callback.event ≠ .networkState) :
    (∃ u, Begun before u ∧ u.payload callback.event = some callback) ∨
      (Caches.init P).cached callback.event record.slotId = some callback := by
  rcases callback_origin hd with ⟨u, reported, -, hbegun, hp, hsent⟩ | ⟨reported, hc, hs⟩
  · have hevent := (Update.payloadAt_event hp).1
    have hne : callback.event ≠ .callState := by
      intro h
      rw [h] at hcall
      cases hcall
    have hsame : reported.sent step.env record = some reported := by
      apply Callback.sent_of_extAbsent hx (hevent ▸ hcall) (hevent ▸ hvoip)
      intro slotId h
      exact hnet (hevent ▸ congrArg Callback.event h)
    rw [Update.payloadAt_of_ne hne] at hp
    exact Or.inl ⟨u, hbegun, hp.trans (hsame.symm.trans hsent)⟩
  · have hsame : (System.after P before).service.caches.cached callback.event record.slotId =
        some callback := by
      rw [← Caches.replayed_of_not_callState hcall _ step.env, Caches.replayed, hc,
        Option.bind_some, hs]
    rcases cached_origin hnet hsame with ⟨u, hbegun, hreport⟩ | hinit
    · exact Or.inl ⟨u, hbegun, (Option.ite_none_right_eq_some.mp hreport).2⟩
    · exact Or.inr hinit

private theorem payload_callState {u : Update P} {slotId state : Int} {number : U16String}
    (h : u.payload .callState = some (.onCallStateUpdated slotId state number)) :
    (slotId = -1 ∧ u = .callState state number) ∨ u = .callStateForSlotId slotId state number := by
  cases u <;> simp only [Update.payload, Option.some.injEq, Callback.onCallStateUpdated.injEq,
    reduceCtorEq] at h <;> obtain ⟨rfl, rfl, rfl⟩ := h
  · exact Or.inl ⟨rfl, rfl⟩
  · exact Or.inr rfl

private theorem payload_ccallState {u : Update P} {slotId state : Int} {number : U16String}
    (h : u.payload .ccallState = some (.onCCallStateUpdated slotId state number)) :
    (slotId = -1 ∧ u = .callState state number) ∨ u = .callStateForSlotId slotId state number := by
  cases u <;> simp only [Update.payload, Option.some.injEq, Callback.onCCallStateUpdated.injEq,
    reduceCtorEq] at h <;> obtain ⟨rfl, rfl, rfl⟩ := h
  · exact Or.inl ⟨rfl, rfl⟩
  · exact Or.inr rfl

private theorem reportedPair_of_cached {slotId state : Int} {number : U16String}
    (h : (System.after P before).service.caches.cached .callState slotId =
      some (.onCallStateUpdated slotId state number)) :
    ReportedPair before slotId state number := by
  rcases cached_origin (by simp) h with ⟨u, hbegun, hreport⟩ | hinit
  · rcases payload_callState (Option.ite_none_right_eq_some.mp hreport).2 with ⟨hslot, rfl⟩ | rfl
    · exact Or.inl ⟨hslot, hbegun⟩
    · exact Or.inr (Or.inl hbegun)
  · exact Or.inr (Or.inr hinit)

private theorem number_written_last {slotId state : Int} {number : U16String}
    (h : Begun before (.callStateForSlotId slotId state number)) :
    ∃ state', lastOf (Effect.wroteReport .callState slotId) (System.effects P before) =
      some (.onCallStateUpdated slotId state'
        ((System.after P before).service.caches.callIncomingNumber.read slotId)) := by
  have hreport : (Update.callStateForSlotId slotId state number : Update P).report .callState
      slotId = some (.onCallStateUpdated slotId state number) := if_pos rfl
  have hwrote := lastOf_ne_none_of_begun h (hreport ▸ Option.some_ne_none _)
  obtain ⟨last, hlast⟩ := Option.ne_none_iff_exists'.mp hwrote
  have hcopy : ObserverMask.callState = .networkState →
      ∀ step ∈ before, step.CopiedFaithfully := fun hnet => nomatch hnet
  have hcached : (System.after P before).service.caches.cached .callState slotId = some last := by
    rw [cached_after hcopy, hlast, Option.some_or]
  exact ⟨_, hlast.trans hcached.symm⟩

private theorem callState_whole {step : AtomicStep P} {record : Record} {slotId state : Int}
    {number : U16String}
    (hd : ⟨record, .onCallStateUpdated slotId state number⟩ ∈
      ((interleaving P).out (System.after P before) step).deliveries) :
    ReportedWhole before step record (.onCallStateUpdated slotId state number) := by
  by_cases hread : record.isCanReadCallHistory step.env = true
  swap
  · exact Or.inl (Bool.eq_false_iff.mpr hread)
  rcases callback_origin hd with ⟨u, reported, hu, hbegun, hp, hsent⟩ | ⟨reported, hc, hs⟩
  · cases u with
    | callState state' number' =>
      obtain rfl := Option.some.inj hp
      simp only [Callback.sent, hread, if_true, Option.some.injEq,
        Callback.onCallStateUpdated.injEq] at hsent
      obtain ⟨rfl, rfl, rfl⟩ := hsent
      exact Or.inr (Or.inl (Or.inl ⟨rfl, hbegun⟩))
    | callStateForSlotId slotId' state' number' =>
      obtain rfl := Option.some.inj hp
      simp only [Callback.sent, hread, if_true, Option.some.injEq,
        Callback.onCallStateUpdated.injEq] at hsent
      obtain ⟨rfl, rfl, rfl⟩ := hsent
      -- this number is read from the cache at notification time
      obtain ⟨last, hlast⟩ := number_written_last hbegun
      exact Or.inr (Or.inr ⟨last, number', hu, hlast⟩)
    | _ => cases hp
  · obtain rfl := Option.some.inj hc
    simp only [Callback.shown, hread, if_true, Option.some.injEq,
      Callback.onCallStateUpdated.injEq] at hs
    obtain ⟨rfl, rfl, rfl⟩ := hs
    exact Or.inr (Or.inl (reportedPair_of_cached hc))

private theorem ccallState_whole {step : AtomicStep P} {record : Record} {slotId state : Int}
    {number : U16String}
    (hd : ⟨record, .onCCallStateUpdated slotId state number⟩ ∈
      ((interleaving P).out (System.after P before) step).deliveries) :
    ReportedWhole before step record (.onCCallStateUpdated slotId state number) := by
  rcases callback_origin hd with ⟨u, reported, -, hbegun, hp, hsent⟩ | ⟨reported, hc, hs⟩
  · rw [Update.payloadAt_of_ne (by simp [Callback.event])] at hp
    have hsame : reported = .onCCallStateUpdated slotId state number := by
      have hevent := (Update.payload_event hp).1
      cases reported with
      | onCCallStateUpdated _ _ _ =>
        exact Option.some.inj (Option.ite_none_right_eq_some.mp hsent).2
      | _ => cases hevent
    rcases payload_ccallState (hp.trans (congrArg some hsame)) with ⟨hslot, rfl⟩ | rfl
    · exact Or.inl (Or.inl ⟨hslot, hbegun⟩)
    · exact Or.inl (Or.inr (Or.inl hbegun))
  · obtain rfl := Option.some.inj hc
    obtain ⟨-, hs⟩ := Option.ite_none_right_eq_some.mp hs
    obtain ⟨rfl, hstate, rfl⟩ := Callback.onCCallStateUpdated.inj (Option.some.inj hs)
    have hpair : ReportedPair before record.slotId
        ((System.after P before).service.caches.callState.read record.slotId)
        ((System.after P before).service.caches.callIncomingNumber.read record.slotId) :=
      reportedPair_of_cached rfl
    split at hstate
    · rename_i hunknown
      exact Or.inr ⟨hstate.symm, hunknown ▸ hpair⟩
    · exact Or.inl (hstate ▸ hpair)

/-- **Payloads stay together.** In every interleaving from the constructor, with
no extension library, the fields of a callback come from one update or from the
initial cache; only the announcement of a slot call may carry another number,
the one whose exclusive section ran last for that slot. -/
theorem payloads_reported_whole (hx : P.ExtAbsent) (before : List (AtomicStep P))
    (step : AtomicStep P) {d : Delivery P}
    (hd : d ∈ ((interleaving P).out (System.after P before) step).deliveries) :
    ReportedWhole before step d.record d.callback := by
  obtain ⟨record, callback⟩ := d
  cases callback with
  | onCallStateUpdated slotId state number => exact callState_whole hd
  | onCCallStateUpdated slotId state number => exact ccallState_whole hd
  | onSimStateUpdated slotId type state reason =>
    rcases state_origin hx hd rfl (by simp [Callback.event]) (by simp [Callback.event]) with
      ⟨u, hbegun, hp⟩ | hinit
    · cases u <;> simp only [Callback.event, Update.payload, reduceCtorEq, Option.some.injEq,
        Callback.onSimStateUpdated.injEq] at hp
      obtain ⟨rfl, rfl, rfl, rfl⟩ := hp
      exact Or.inl hbegun
    · obtain ⟨-, htype, hstate, hreason⟩ := Callback.onSimStateUpdated.inj (Option.some.inj hinit)
      exact Or.inr ⟨htype.symm, hstate.symm, hreason.symm⟩
  | onCellularDataConnectStateUpdated slotId dataState networkType =>
    rcases state_origin hx hd rfl (by simp [Callback.event]) (by simp [Callback.event]) with
      ⟨u, hbegun, hp⟩ | hinit
    · cases u <;> simp only [Callback.event, Update.payload, reduceCtorEq, Option.some.injEq,
        Callback.onCellularDataConnectStateUpdated.injEq] at hp
      obtain ⟨rfl, rfl, rfl⟩ := hp
      exact Or.inl hbegun
    · obtain ⟨-, hstate, htype⟩ :=
        Callback.onCellularDataConnectStateUpdated.inj (Option.some.inj hinit)
      exact Or.inr ⟨hstate.symm, htype.symm⟩
  | _ => trivial

theorem simState_reported_whole :
    let before : List (AtomicStep Platform.dualSim) :=
      [.register Env.native (.single Platform.dualSim 1 0 .simState),
        .write Env.native (.simState 0 1 2 3)]
    ReportedWhole before (.notify Env.native 0)
      (Registration.single Platform.dualSim 1 0 .simState).record (.onSimStateUpdated 0 1 2 3) :=
  payloads_reported_whole Platform.dualSim_extAbsent _ _
    (d := ⟨(Registration.single Platform.dualSim 1 0 .simState).record,
      .onSimStateUpdated 0 1 2 3⟩) (List.mem_singleton_self _)

/-- A slot call whose notification is overtaken by the write of the next one is
announced with the number of the next one, which no update reported with it. -/
theorem slot_call_torn :
    let P := Platform.dualSim
    let before : List (AtomicStep P) :=
      [.register Env.native (.single P 1 0 .callState),
        .write Env.native (.callStateForSlotId 0 1 [1]),
        .write Env.native (.callStateForSlotId 0 2 [2])]
    let record := (Registration.single P 1 0 .callState).record
    (⟨record, .onCallStateUpdated 0 1 [2]⟩ : Delivery P) ∈
        ((interleaving P).out (System.after P before) (.notify Env.native 0)).deliveries ∧
      record.isCanReadCallHistory Env.native = true ∧ ¬ReportedPair before 0 1 [2] := by
  refine ⟨List.mem_singleton_self _, rfl, ?_⟩
  rintro (⟨hslot, -⟩ | ⟨env, hmem, -⟩ | hinit)
  · cases hslot
  · simp only [List.mem_cons, reduceCtorEq, AtomicStep.write.injEq,
      Update.callStateForSlotId.injEq, List.not_mem_nil, or_false, false_or] at hmem
    rcases hmem with ⟨-, -, -, hnumber⟩ | ⟨-, -, hstate, -⟩
    · exact absurd hnumber (by decide)
    · exact absurd hstate (by decide)
  · obtain ⟨-, -, hnumber⟩ := Callback.onCallStateUpdated.inj (Option.some.inj hinit)
    cases hnumber

end TelephonyStateRegistry
