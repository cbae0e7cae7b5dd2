import TelephonyStateRegistry.Interpretation.Outcome

/-!
# What the queries answer

The queries look a key up and insert nothing, while a replay reads the same
maps through the inserting subscript. As long as every replay finds the keys it
reads, a query answers the last accepted report of its slot, or what the
constructor wrote, or an error. The first replay of an absent key leaves the
default value behind, and the query answers that value from then on.
-/

namespace TelephonyStateRegistry

open Reactive

variable {P : Platform}

/-- The queries that search one integer map. -/
inductive Query
  | simState
  | cardType
  | lockReason
  | cellularDataConnectionState
  | cellularDataConnectionNetworkType
  | cellularDataFlow
  | callState
  deriving DecidableEq, Repr

namespace Query

/-- The function of a query. -/
def run : Query → Service P → Int → Int
  | simState => getSimState
  | cardType => getCardType
  | lockReason => getLockReason
  | cellularDataConnectionState => getCellularDataConnectionState
  | cellularDataConnectionNetworkType => getCellularDataConnectionNetworkType
  | cellularDataFlow => getCellularDataFlow
  | callState => getCallState

/-- The map that a query searches. -/
def cache : Query → Caches P → KeyMap Int Int
  | simState, c => c.simState
  | cardType, c => c.cardType
  | lockReason, c => c.simReason
  | cellularDataConnectionState, c => c.cellularDataConnectionState
  | cellularDataConnectionNetworkType, c => c.cellularDataConnectionNetworkType
  | cellularDataFlow, c => c.cellularDataFlow
  | callState, c => c.callState

theorem run_eq (q : Query) (s : Service P) (slotId : Int) :
    q.run s slotId = ((q.cache s.caches).find? slotId).getD P.telephonyError := by
  cases q <;> simp only [run, cache, getSimState, getCardType, getLockReason,
    getCellularDataConnectionState, getCellularDataConnectionNetworkType, getCellularDataFlow,
    getCallState, getFrom] <;> split <;> rename_i h <;> rw [h] <;> rfl

/-- The argument of an update that answers a query. -/
def argument : Query → Update P → Option Int
  | simState, .simState _ _ state _ => some state
  | cardType, .simState _ type _ _ => some type
  | lockReason, .simState _ _ _ reason => some reason
  | cellularDataConnectionState, .cellularDataConnectState _ dataState _ => some dataState
  | cellularDataConnectionNetworkType, .cellularDataConnectState _ _ networkType =>
    some networkType
  | cellularDataFlow, .cellularDataFlow _ flowData => some flowData
  | callState, .callState state _ => some state
  | callState, .callStateForSlotId _ state _ => some state
  | _, _ => none

/-- What a call reports to a query of a slot: the argument of an accepted update. -/
def report (q : Query) (slotId : Int) : Call P → Option Int
  | (env, .update u) => if u.accepted env ∧ u.slotId = some slotId then q.argument u else none
  | (_, .register _) | (_, .unregister _) => none

/-- What the constructor wrote for a query of a slot. -/
def initial (P : Platform) (q : Query) (slotId : Int) : Option Int :=
  if q = callState ∧ P.initialisedSlot slotId then some callStatusUnknown else none

/-- The answer that a history of calls calls for: the last accepted report, or
the value of the constructor, or an error. -/
def answer (q : Query) (slotId : Int) (calls : List (Call P)) : Int :=
  ((lastOf (q.report slotId) calls).or (q.initial P slotId)).getD P.telephonyError

end Query

/-- The exclusive section of an update assigns its arguments and nothing else. -/
theorem Query.cache_write (q : Query) (u : Update P) (c : Caches P) (slotId : Int) :
    (q.cache (u.function.write c)).find? slotId =
      (if u.slotId = some slotId then q.argument u else none).or
        ((q.cache c).find? slotId) := by
  cases ha : q.argument u with
  | none =>
    rw [ite_self, Option.none_or]
    cases q <;> cases u <;> first | rfl | simp only [argument, reduceCtorEq] at ha
  | some value =>
    cases q <;> cases u <;> simp only [argument, reduceCtorEq, Option.some.injEq] at ha
    all_goals
      subst ha
      simp only [cache, Update.function, updateSimState, updateCellularDataConnectState,
        updateCellularDataFlow, updateCallState, updateCallStateForSlotId, KeyMap.find?_assign,
        Update.slotId, Option.some.injEq, eq_comm (a := slotId)]
      split <;> rfl

/-- The bits whose replay block reads the map of a query. -/
def Query.readBy (q : Query) (env : Env) (record : Record) (m : ObserverMask) : Bool :=
  match q, m with
  | simState, .simState | cardType, .simState | lockReason, .simState => true
  | cellularDataConnectionState, .dataConnectionState => true
  | cellularDataConnectionNetworkType, .dataConnectionState => true
  | cellularDataFlow, .dataFlow => true
  | callState, .callState | callState, .callStateEx => true
  | callState, .ccallState => record.canManageCallForDevices env
  | _, _ => false

private theorem cache_replayBlock (q : Query) (env : Env) (record : Record) (m : ObserverMask)
    (c : Caches P) :
    q.cache (replayBlock env record m c).2 =
      if q.readBy env record m then (q.cache c).touch record.slotId else q.cache c := by
  cases m with
  | callState =>
    cases hr : record.isCanReadCallHistory env <;> cases q <;>
      simp [replayBlock, getCallIncomingNumberForSlotId, hr, Query.cache, Query.readBy]
  | ccallState =>
    cases hm : record.canManageCallForDevices env <;> cases q <;>
      simp [replayBlock, hm, Query.cache, Query.readBy]
  | _ => cases q <;> rfl

private theorem cache_replayBlocks (q : Query) (env : Env) (record : Record)
    (ms : List ObserverMask) (c : Caches P) :
    q.cache (replayBlocks env record ms c).2 =
      if ms.any fun m => P.contains record.mask m && q.readBy env record m then
        (q.cache c).touch record.slotId
      else q.cache c := by
  induction ms generalizing c with
  | nil => rfl
  | cons m ms ih =>
    rw [replayBlocks]
    by_cases hm : P.contains record.mask m = true
    · rw [if_pos ((P.and_mask_ne_zero _ _).mpr hm)]
      simp only [ih, cache_replayBlock, List.any_cons, hm, Bool.true_and]
      cases hq : q.readBy env record m
      · simp only [Bool.false_eq_true, if_false, Bool.false_or]
      · simp only [if_true, Bool.true_or, KeyMap.touch_touch, ite_self]
    · rw [if_neg (mt (P.and_mask_ne_zero _ _).mp hm), ih]
      simp only [List.any_cons, hm, Bool.false_and, Bool.false_or]

/-- Whether a replay to a record reads the map of a query. -/
def Query.replayedTo (q : Query) (P : Platform) (env : Env) (record : Record) : Bool :=
  replayOrder.any fun m => record.listensTo P m && q.readBy env record m

/-- A replay reads at most the slot of its record. -/
theorem Query.cache_updateData (q : Query) (env : Env) (record : Record) (c : Caches P) :
    q.cache (updateData env record c).2 =
      if q.replayedTo P env record then (q.cache c).touch record.slotId else q.cache c := by
  unfold replayedTo
  cases ho : record.telephonyObserver with
  | none =>
    have hnone : (replayOrder.any fun m => record.listensTo P m && q.readBy env record m) =
        false := by
      simp only [Record.listensTo, ho, Option.isSome_none, Bool.false_and, List.any_eq_false,
        Bool.false_eq_true, not_false_eq_true, implies_true]
    rw [hnone]
    simp only [updateData, ho, if_true, Bool.false_eq_true, if_false]
  | some o =>
    simp only [updateData, updateDataEx, ho, reduceCtorEq, if_false, cache_replayBlocks,
      replayOrder, List.any_append, Record.listensTo, Option.isSome_some, Bool.true_and]
    generalize updateDataOrder.any _ = first
    generalize updateDataExOrder.any _ = rest
    cases first <;> cases rest <;> simp only [Bool.false_eq_true, if_false, if_true, Bool.or_true,
      Bool.or_false, KeyMap.touch_touch]

/-- A call that replays to its subscriber, if it replays at all, only what the
searched maps hold under the slot. -/
def ReplaysPresent (s : Service P) (call : Call P) : Prop :=
  ∀ env r, call = (env, .register r) → r.admitted P env → r.isUpdate = true →
    ∀ q : Query, q.replayedTo P env (r.subscriber s) = true →
      (q.cache s.caches).find? r.slotId ≠ none

/-- The map of a query after a registration. -/
theorem Query.cache_register (q : Query) (env : Env) (r : Registration) (s : Service P) :
    q.cache (registerStateChange env r s).1.caches =
      if r.admitted P env ∧ r.isUpdate = true ∧ q.replayedTo P env (r.subscriber s) = true then
        (q.cache s.caches).touch r.slotId
      else q.cache s.caches := by
  have hslot : (r.subscriber s).slotId = r.slotId := congrArg Key.slotId (r.subscriber_key s)
  by_cases hadm : r.admitted P env
  · rw [registerStateChange_of_admitted hadm]
    cases hu : r.isUpdate
    · simp only [Bool.false_eq_true, if_false, false_and, and_false]
    · simp only [if_true, hadm, true_and, cache_updateData, hslot]
  · rw [registerStateChange_of_not_admitted hadm]
    simp only [hadm, false_and, if_false]

/-- One call that replays only what is present changes a searched map exactly
where it reports. -/
theorem Query.cache_next {s : Service P} {call : Call P} (h : ReplaysPresent s call) (q : Query)
    (slotId : Int) :
    (q.cache ((machine P).next s call).caches).find? slotId =
      (q.report slotId call).or ((q.cache s.caches).find? slotId) := by
  obtain ⟨env, op⟩ := call
  cases op with
  | update u =>
    rw [machine_next_update, report]
    by_cases hacc : u.accepted env
    · rw [Update.run_of_accepted hacc]
      simp only [hacc, true_and]
      exact q.cache_write u s.caches slotId
    · obtain ⟨result, -, hrun⟩ := Update.run_of_rejected hacc s
      simp only [hrun, hacc, false_and, if_false, Option.none_or]
  | register r =>
    rw [machine_next_register, cache_register, report, Option.none_or]
    split
    · rename_i hr
      obtain ⟨value, hvalue⟩ :=
        Option.ne_none_iff_exists'.mp (h env r rfl hr.1 hr.2.1 q hr.2.2)
      rw [KeyMap.touch_of_present hvalue]
    · rfl
  | unregister k =>
    rw [machine_next_unregister, unregisterStateChange_caches, report, Option.none_or]

theorem Query.find?_init (q : Query) (slotId : Int) :
    (q.cache (Service.init P).caches).find? slotId = q.initial P slotId := by
  cases q <;> simp only [cache, Service.init, Caches.init, initial, reduceCtorEq, false_and,
    if_false, true_and] <;> first | rfl | exact find?_initialCallState P slotId

/-- After a run whose replays find every key, the maps hold the last reports. -/
theorem Query.find?_after {calls : List (Call P)}
    (h : (machine P).Along ReplaysPresent (Service.init P) calls) (q : Query) (slotId : Int) :
    (q.cache (Service.after P calls).caches).find? slotId =
      (lastOf (q.report slotId) calls).or (q.initial P slotId) := by
  have hrun := (machine P).observe_run_along (f := q.report slotId)
    (v := fun s => (q.cache s.caches).find? slotId)
    (fun s call hcall => q.cache_next hcall slotId) h
  rw [find?_init] at hrun
  exact hrun

theorem Query.run_after {calls : List (Call P)}
    (h : (machine P).Along ReplaysPresent (Service.init P) calls) (q : Query) (slotId : Int) :
    q.run (Service.after P calls) slotId = q.answer slotId calls := by
  rw [run_eq, find?_after h, answer]

/-- A replay of an absent key leaves the default value to be queried. -/
theorem Query.run_of_absent {s : Service P} {env : Env} {r : Registration} {q : Query}
    (hadm : r.admitted P env) (hupdate : r.isUpdate = true)
    (hq : q.replayedTo P env (r.subscriber s) = true)
    (habsent : (q.cache s.caches).find? r.slotId = none) :
    q.run (registerStateChange env r s).1 r.slotId = 0 := by
  rw [run_eq, cache_register, if_pos ⟨hadm, hupdate, hq⟩, KeyMap.find?_touch,
    if_pos ⟨rfl, habsent⟩]
  rfl

/-- **Queries answer what was reported, exactly as long as every replay finds
the keys it reads.** In all states of a run all queries answer as the history
demands if and only if no registration of the run replays an absent key. -/
theorem queries_answer_reports (herror : P.telephonyError ≠ 0) (calls : List (Call P)) :
    (∀ before, before <+: calls → ∀ (q : Query) (slotId : Int),
      q.run (Service.after P before) slotId = q.answer slotId before) ↔
      (machine P).Along ReplaysPresent (Service.init P) calls := by
  constructor
  · induction calls using List.reverseRecOn with
    | nil => exact fun _ => trivial
    | append_singleton calls call ih =>
      intro h
      have hcalls := ih fun before hb => h before (hb.trans (List.prefix_append _ _))
      refine Mealy.Along.concat.mpr ⟨hcalls, ?_⟩
      rintro env r rfl hadm hupdate q hq habsent
      -- the query answered an error before the replay, and the default after it
      have hbefore := h calls (List.prefix_append _ _) q r.slotId
      have hafter := h _ List.prefix_rfl q r.slotId
      have hdefault : q.run (Service.after P (calls ++ [(env, Op.register r)])) r.slotId = 0 := by
        unfold Service.after
        rw [Mealy.run_concat]
        exact Query.run_of_absent hadm hupdate hq habsent
      have hanswer : q.answer r.slotId (calls ++ [(env, Op.register r)]) =
          q.answer r.slotId calls := by
        rw [Query.answer, lastOf_concat, Query.report, Option.none_or, Query.answer]
      have hmissing : (q.cache (Service.after P calls).caches).find? r.slotId = none := habsent
      rw [hdefault, hanswer, ← hbefore, Query.run_eq, hmissing] at hafter
      exact herror hafter.symm
  · intro h before hb q slotId
    obtain ⟨later, rfl⟩ := hb
    exact Query.run_after (Mealy.Along.append.mp h).1 q slotId

theorem simState_queried :
    let P := Platform.dualSim
    let calls : List (Call P) := [(Env.native, .update (.simState 0 1 2 3))]
    (∀ before, before <+: calls → ∀ (q : Query) (slotId : Int),
      q.run (Service.after P before) slotId = q.answer slotId before) ↔
      (machine P).Along ReplaysPresent (Service.init P) calls :=
  queries_answer_reports (by decide) _

/-- After a registration with replay, and no update at all, the SIM state of the
slot is queried as zero instead of an error. -/
theorem simState_queried_after_replay :
    let calls : List (Call Platform.dualSim) :=
      [(Env.native, .register (.single Platform.dualSim 1 0 .simState))]
    Query.simState.run (Service.after Platform.dualSim calls) 0 = 0 ∧
      Query.simState.answer 0 calls = Platform.dualSim.telephonyError ∧
        Platform.dualSim.telephonyError = -1 := by
  refine ⟨by decide, by decide, rfl⟩

end TelephonyStateRegistry
