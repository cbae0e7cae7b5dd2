import TelephonyStateRegistry.Interpretation.Outcome

/-!
# Phone numbers do not reach unprivileged observers

Two runs that differ only in the numbers of calls are compared step by step.
Their states agree once the cached numbers are hidden, and what an observer may
see of a step is a function of what is left: the number is blanked on one
callback, the other callback that carries it is withheld, and the common event
that carries it asks for the call log.
-/

namespace TelephonyStateRegistry

open Reactive

variable {P : Platform}

/-- An update without its number. -/
def Update.eraseNumber : Update P → Update P
  | callState state _ => .callState state []
  | callStateForSlotId slotId state _ => .callStateForSlotId slotId state []
  | u => u

/-- An operation without its number. -/
def Op.eraseNumber : Op P → Op P
  | update u => .update u.eraseNumber
  | op => op

/-- The same operations in the same environments, up to numbers. -/
def SameButNumbers (calls calls' : List (Call P)) : Prop :=
  List.Forall₂ (fun call call' => call.1 = call'.1 ∧ call.2.eraseNumber = call'.2.eraseNumber)
    calls calls'

/-- A token that may neither read the call log nor manage calls. -/
def Env.deniesCallData (env : Env) (tokenId : Int) : Prop :=
  env.verifyAccessToken tokenId .readCallLog = .denied ∧
    env.verifyAccessToken tokenId .manageCallForDevices = .denied

/-- Every token under which an observer registers is denied the call data throughout. -/
def DeniedCallData (o : Observer) (calls : List (Call P)) : Prop :=
  ∀ env r, (env, .register r) ∈ calls → r.telephonyObserver = some o →
    ∀ call ∈ calls, call.1.deniesCallData r.tokenId

/-- What an observer without the call log sees of one operation: the return
code, its own callbacks and the common events open to it. -/
def Output.seenBy (o : Observer) (out : Output P) :
    ReturnCode × List (Callback P) × List CommonEvent :=
  (out.result, received o out.deliveries,
    out.events.filter fun event => decide (Permission.readCallLog ∉ event.subscriberPermissions))

/-- A callback with its number blanked. -/
def Callback.eraseNumber : Callback P → Callback P
  | onCallStateUpdated slotId state _ => .onCallStateUpdated slotId state []
  | onCCallStateUpdated slotId state _ => .onCCallStateUpdated slotId state []
  | callback => callback

/-- The cached values without the numbers. -/
def Caches.withoutNumbers (c : Caches P) : Caches P :=
  { c.total with callIncomingNumber := .empty }

theorem Env.deniesCallData.record {env : Env} {record : Record}
    (h : env.deniesCallData record.tokenId) :
    record.isCanReadCallHistory env = false ∧ record.canManageCallForDevices env = false := by
  simp only [Record.isCanReadCallHistory, Record.canManageCallForDevices, h.1, h.2, if_true,
    and_self]

theorem Update.guard_eraseNumber (u : Update P) :
    u.eraseNumber.function.guard = u.function.guard := by
  cases u <;> rfl

/-- The exclusive section writes the number nowhere but into the hidden map. -/
theorem Update.withoutNumbers_write (u : Update P) (c : Caches P) :
    (u.function.write c).withoutNumbers =
      (u.eraseNumber.function.write c.withoutNumbers).withoutNumbers := by
  have htotal : ∀ d : Caches P, (u.eraseNumber.function.write d).withoutNumbers =
      { u.eraseNumber.function.write d.total with callIncomingNumber := .empty } := by
    intro d
    rw [Caches.withoutNumbers, total_write]
  have hidden : c.withoutNumbers.total =
      { c.total with callIncomingNumber := KeyMap.empty.total } := by
    simp only [Caches.withoutNumbers, Caches.total, KeyMap.total_total]
  rw [htotal, hidden, Caches.withoutNumbers, total_write]
  cases u <;> rfl

/-- Whether and what a loop calls depends on the number only in the number itself. -/
theorem Update.live_eraseNumber (u : Update P) (env : Env) (c c' : Caches P) (record : Record) :
    (u.live env c record).map Callback.eraseNumber =
      (u.eraseNumber.live env c' record).map Callback.eraseNumber := by
  cases u with
  | callState state number =>
    simp only [live, eraseNumber, liveCallState]
    split_ifs <;> rfl
  | callStateForSlotId slotId state number =>
    simp only [live, eraseNumber, liveCallState]
    split_ifs <;> rfl
  | _ => rfl

/-- A record without the call data is called as if there were no number. -/
theorem Update.live_of_denied {env : Env} {record : Record}
    (h : env.deniesCallData record.tokenId) (u : Update P) (c c' : Caches P) :
    u.live env c record = u.eraseNumber.live env c' record := by
  obtain ⟨hread, hmanage⟩ := h.record
  cases u with
  | callState state number =>
    simp only [live, eraseNumber, liveCallState, hread, hmanage, Bool.false_eq_true, if_false]
  | callStateForSlotId slotId state number =>
    simp only [live, eraseNumber, liveCallState, hread, hmanage, Bool.false_eq_true, if_false]
  | _ => rfl

/-- The events open to subscribers without the call log carry no number. -/
theorem Update.events_eraseNumber (u : Update P) :
    (u.events.filter fun event =>
        decide (Permission.readCallLog ∉ event.subscriberPermissions)) =
      u.eraseNumber.events.filter fun event =>
        decide (Permission.readCallLog ∉ event.subscriberPermissions) := by
  cases u <;> rfl

/-- A record without the call data is replayed as if there were no number. -/
theorem Caches.replayed_of_denied {env : Env} {record : Record}
    (h : env.deniesCallData record.tokenId) (c : Caches P) (m : ObserverMask) :
    c.replayed env record m = c.withoutNumbers.replayed env record m := by
  obtain ⟨hread, hmanage⟩ := h.record
  cases m <;> simp only [replayed, cached, withoutNumbers, total, KeyMap.read_total,
    Option.bind_some, Option.bind_none, Callback.shown, hread, hmanage, Bool.false_eq_true,
    if_false]

/-- Two states that agree up to numbers, while an observer is stored only under
records with given tokens. -/
structure AgreeFor (o : Observer) (tokens : Set Int) (s t : Service P) : Prop where
  stateRecords : s.stateRecords = t.stateRecords
  caches : s.caches.withoutNumbers = t.caches.withoutNumbers
  tokenId_mem : ∀ record ∈ s.stateRecords, record.telephonyObserver = some o →
    record.tokenId ∈ tokens

/-- A call whose environment denies given tokens, and which registers an
observer under none but these. -/
def Call.DeniedFor (o : Observer) (tokens : Set Int) (call : Call P) : Prop :=
  (∀ tokenId ∈ tokens, call.1.deniesCallData tokenId) ∧
    ∀ r, call.2 = .register r → r.telephonyObserver = some o → r.tokenId ∈ tokens

variable {o : Observer} {tokens : Set Int} {s t : Service P} {env : Env}

private theorem guard_congr {u u' : Update P} (hu : u.eraseNumber = u'.eraseNumber) :
    u.function.guard env = u'.function.guard env := by
  rw [← u.guard_eraseNumber, hu, u'.guard_eraseNumber]

private theorem live_isSome_congr {u u' : Update P} (hu : u.eraseNumber = u'.eraseNumber)
    (c c' : Caches P) (record : Record) :
    (u.live env c record).isSome = (u'.live env c' record).isSome := by
  have hlive := u.live_eraseNumber env c c' record
  rw [hu, ← u'.live_eraseNumber env c' c' record] at hlive
  rw [← Option.isSome_map (f := Callback.eraseNumber), hlive, Option.isSome_map]

private theorem live_congr_of_denied {u u' : Update P} (hu : u.eraseNumber = u'.eraseNumber)
    {record : Record} (h : env.deniesCallData record.tokenId) (c c' : Caches P) :
    u.live env c record = u'.live env c' record := by
  rw [u.live_of_denied h c c', hu, ← u'.live_of_denied h c' c']

theorem AgreeFor.next_update (h : AgreeFor o tokens s t) {u u' : Update P}
    (hu : u.eraseNumber = u'.eraseNumber) :
    AgreeFor o tokens (u.function.run env s).1 (u'.function.run env t).1 := by
  refine ⟨?_, ?_, ?_⟩
  · rw [Update.run_stateRecords, Update.run_stateRecords, h.stateRecords]
  · cases hg : u.function.guard env with
    | none =>
      have hacc : u.accepted env := hg
      have hacc' : u'.accepted env := (guard_congr hu).symm.trans hg
      rw [Update.run_of_accepted hacc, Update.run_of_accepted hacc']
      change (u.function.write s.caches).withoutNumbers =
        (u'.function.write t.caches).withoutNumbers
      rw [u.withoutNumbers_write, u'.withoutNumbers_write, hu, h.caches]
    | some result =>
      have hg' := (guard_congr hu).symm.trans hg
      simp only [LockedUpdate.run, hg, hg']
      exact h.caches
  · rw [Update.run_stateRecords]
    exact h.tokenId_mem

theorem AgreeFor.out_update (h : AgreeFor o tokens s t)
    (hdeny : ∀ tokenId ∈ tokens, env.deniesCallData tokenId) {u u' : Update P}
    (hu : u.eraseNumber = u'.eraseNumber) :
    (u.function.run env s).2.seenBy o = (u'.function.run env t).2.seenBy o := by
  cases hg : u.function.guard env with
  | some result =>
    have hg' := (guard_congr hu).symm.trans hg
    simp only [LockedUpdate.run, hg, hg']
  | none =>
    have hacc : u.accepted env := hg
    have hacc' : u'.accepted env := (guard_congr hu).symm.trans hg
    have hrecords : (u'.function.writeTo t).stateRecords = (u.function.writeTo s).stateRecords :=
      h.stateRecords.symm
    have hevents : u.events.filter _ = u'.events.filter _ :=
      u.events_eraseNumber.trans (hu ▸ u'.events_eraseNumber.symm)
    rw [Update.run_of_accepted hacc, Update.run_of_accepted hacc']
    simp only [Output.seenBy, Update.deliveries, hrecords, hevents, Prod.mk.injEq, and_true]
    constructor
    · exact resultOf_congr (live_isSome_congr hu _ _) _
    · apply received_congr
      intro record hr ho
      have hdenied := hdeny record.tokenId (h.tokenId_mem record hr ho)
      exact live_congr_of_denied hu hdenied _ _

private theorem received_replay_of_ne {r : Registration}
    (ho : (r.subscriber s).telephonyObserver ≠ some o) : received o (r.replay env s) = [] := by
  rw [received, List.filter_eq_nil_iff.mpr, List.map_nil]
  intro d hd
  rw [(Registration.mem_replay.mp hd).2.1, decide_eq_true_eq]
  exact ho

theorem AgreeFor.register (h : AgreeFor o tokens s t) {r : Registration}
    (hdeny : ∀ tokenId ∈ tokens, env.deniesCallData tokenId)
    (hr : r.telephonyObserver = some o → r.tokenId ∈ tokens) :
    AgreeFor o tokens (registerStateChange env r s).1 (registerStateChange env r t).1 ∧
      (registerStateChange env r s).2.seenBy o = (registerStateChange env r t).2.seenBy o := by
  by_cases hadm : r.admitted P env
  · have hregistered : t.registered r.key = s.registered r.key := by
      rw [Service.registered, Service.registered, h.stateRecords]
    have hsubscriber : r.subscriber t = r.subscriber s := by
      rw [Registration.subscriber, Registration.subscriber, hregistered]
    have hrecords : r.recordsAfter t = r.recordsAfter s := by
      rw [Registration.recordsAfter, Registration.recordsAfter, hregistered, h.stateRecords]
    have htokens : ∀ record ∈ r.recordsAfter s, record.telephonyObserver = some o →
        record.tokenId ∈ tokens := by
      intro record hmem ho
      rw [Registration.recordsAfter] at hmem
      split at hmem
      · exact h.tokenId_mem record hmem ho
      · rcases List.mem_append.mp hmem with hmem | hmem
        · exact h.tokenId_mem record hmem ho
        · obtain rfl := List.mem_singleton.mp hmem
          exact hr ho
    have hreplay : received o (r.replay env s) = received o (r.replay env t) := by
      by_cases ho : (r.subscriber s).telephonyObserver = some o
      · have hd := hdeny _ (htokens _ (r.subscriber_mem s) ho)
        have hsame : s.caches.replayed env (r.subscriber s) =
            t.caches.replayed env (r.subscriber s) := by
          funext m
          rw [Caches.replayed_of_denied hd, h.caches, ← Caches.replayed_of_denied hd]
        rw [Registration.replay, Registration.replay, hsubscriber, hsame]
      · rw [received_replay_of_ne ho, received_replay_of_ne (hsubscriber ▸ ho)]
    obtain ⟨c, hrun, hc⟩ := registerStateChange_replays hadm s
    obtain ⟨c', hrun', hc'⟩ := registerStateChange_replays hadm t
    rw [hrun, hrun']
    refine ⟨⟨hrecords.symm, ?_, htokens⟩, ?_⟩
    · have hcaches := h.caches
      unfold Caches.withoutNumbers at hcaches ⊢
      rw [hc, hc']
      exact hcaches
    · simp only [Output.seenBy, hreplay]
  · rw [registerStateChange_of_not_admitted hadm, registerStateChange_of_not_admitted hadm]
    exact ⟨h, rfl⟩

theorem AgreeFor.unregister (h : AgreeFor o tokens s t) (k : Key) :
    AgreeFor o tokens (unregisterStateChange env k s).1 (unregisterStateChange env k t).1 ∧
      (unregisterStateChange env k s).2.seenBy o = (unregisterStateChange env k t).2.seenBy o := by
  by_cases hc : Checked P env k.mask
  · have hregistered : t.registered k = s.registered k := by
      rw [Service.registered, Service.registered, h.stateRecords]
    rw [unregisterStateChange_of_checked hc, unregisterStateChange_of_checked hc, hregistered,
      h.stateRecords]
    refine ⟨⟨rfl, h.caches, ?_⟩, rfl⟩
    intro record hmem ho
    have hmem' : record ∈ s.stateRecords := h.stateRecords ▸ List.mem_of_mem_eraseP hmem
    exact h.tokenId_mem record hmem' ho
  · rw [unregisterStateChange_of_not_checked hc, unregisterStateChange_of_not_checked hc]
    exact ⟨h, rfl⟩

/-- One step of two runs that differ in numbers only. -/
theorem AgreeFor.step (h : AgreeFor o tokens s t) {call call' : Call P}
    (hdenied : Call.DeniedFor o tokens call) (henv : call.1 = call'.1)
    (hop : call.2.eraseNumber = call'.2.eraseNumber) :
    AgreeFor o tokens ((machine P).next s call) ((machine P).next t call') ∧
      ((machine P).out s call).seenBy o = ((machine P).out t call').seenBy o := by
  obtain ⟨env, op⟩ := call
  obtain ⟨env', op'⟩ := call'
  obtain rfl : env = env' := henv
  obtain ⟨hdeny, hr⟩ := hdenied
  cases op <;> cases op' <;> simp only [Op.eraseNumber, Op.update.injEq, Op.register.injEq,
    Op.unregister.injEq, reduceCtorEq] at hop
  case update.update u u' => exact ⟨h.next_update hop, h.out_update hdeny hop⟩
  case register.register r r' => exact hop ▸ h.register hdeny (hr r rfl)
  case unregister.unregister k k' => exact hop ▸ h.unregister k

/-- **Noninterference of phone numbers.** In two runs that differ in numbers
only, an observer denied the call data sees the same: the codes, its callbacks
with their arguments, and the common events it may subscribe to. -/
theorem phone_number_noninterference (o : Observer) {calls calls' : List (Call P)}
    (hsame : SameButNumbers calls calls') (hdeny : DeniedCallData o calls) :
    (Service.outputs P calls).map (Output.seenBy o) =
      (Service.outputs P calls').map (Output.seenBy o) := by
  let tokens : Set Int :=
    {tokenId | ∃ env r, (env, Op.register r) ∈ calls ∧ r.telephonyObserver = some o ∧
      r.tokenId = tokenId}
  have hdenied : ∀ call ∈ calls, Call.DeniedFor o tokens call := by
    rintro ⟨env, op⟩ hcall
    constructor
    · rintro _ ⟨env', r, hr, ho, rfl⟩
      exact hdeny env' r hr ho _ hcall
    · intro r hr ho
      exact ⟨env, r, hr ▸ hcall, ho, rfl⟩
  have hinit : AgreeFor o tokens (Service.init P) (Service.init P) :=
    ⟨rfl, rfl, fun record hmem => absurd hmem List.not_mem_nil⟩
  have hcalls : List.Forall₂ (fun call call' => Call.DeniedFor o tokens call ∧
      call.1 = call'.1 ∧ call.2.eraseNumber = call'.2.eraseNumber) calls calls' :=
    (List.forall₂_and_left _ _).mpr ⟨hdenied, hsame⟩
  have hrun := (machine P).simulation (N := machine P) (R := AgreeFor o tokens)
    (W := fun out out' => out.seenBy o = out'.seenBy o)
    (fun s t call call' hst hq => AgreeFor.step hst hq.1 hq.2.1 hq.2.2) hinit hcalls
  rw [← List.forall₂_eq_eq_eq, List.forall₂_map_left_iff, List.forall₂_map_right_iff]
  exact hrun.2

theorem phone_number_unseen :
    let env : Env := { Env.native with verifyAccessToken := fun _ _ => .denied }
    let register : Call Platform.dualSim :=
      (env, .register (.single Platform.dualSim 1 0 .callState))
    (Service.outputs _ [register, (env, .update (.callStateForSlotId 0 2 [5]))]).map
        (Output.seenBy 1) =
      (Service.outputs _ [register, (env, .update (.callStateForSlotId 0 2 [7]))]).map
        (Output.seenBy 1) := by
  intro env register
  refine phone_number_noninterference 1 (.cons ⟨rfl, rfl⟩ (.cons ⟨rfl, rfl⟩ .nil)) ?_
  intro _ r _ _ call hcall
  rcases List.mem_pair.mp hcall with rfl | rfl
  · exact ⟨rfl, rfl⟩
  · exact ⟨rfl, rfl⟩

end TelephonyStateRegistry
