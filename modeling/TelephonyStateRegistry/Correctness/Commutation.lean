import TelephonyStateRegistry.Interpretation.Live
import TelephonyStateRegistry.Service.Run

/-!
# Independent updates commute

An update writes the keys of its own slot in the maps of its own events, and its
traversal reads back no key but one that it has written itself. So what it tells a
record depends on its arguments and on the record alone, and two updates that differ
in event or slot leave the same state in either order.
-/

namespace TelephonyStateRegistry

open Reactive

variable {P : Platform}

/-- Updates of different events or of different slots. An update for all calls has
the slot -1. -/
def Update.Independent (a b : Update P) : Prop := a.topics ≠ b.topics ∨ a.slotId ≠ b.slotId

/-- A record of which the mask and the slot match an update. -/
def Update.matchesRecord (u : Update P) (record : Record) : Bool :=
  u.slotMatches record.slotId && u.topics.any (P.contains record.mask)

/-- What a call of one record gets out of a list of deliveries. -/
def callbacksOf (record : Record) (ds : List (Delivery P)) : List (Callback P) :=
  (ds.filter fun d => d.record = record).map Delivery.callback

/-- The update for all calls and an accepted one for the calls of a slot are independent. -/
theorem Update.independent_of_accepted {env : Env} {state : Int} {number : U16String}
    {slotId state' : Int} {number' : U16String}
    (h : (callStateForSlotId slotId state' number' : Update P).accepted env) :
    (callState state number : Update P).Independent (callStateForSlotId slotId state' number') := by
  refine Or.inr ?_
  intro hslot
  have hverify : P.verifySlotId slotId = true := by
    by_contra hnot
    simp only [accepted, function, updateCallStateForSlotId, slotGuard, hnot] at h
    cases h
  rw [P.verifySlotId_iff] at hverify
  have hminus : (-1 : Int) = slotId := Option.some.inj hslot
  omega

/-- The exclusive sections of independent updates commute. -/
theorem Update.Independent.write_comm {a b : Update P} (h : a.Independent b) (c : Caches P) :
    b.function.write (a.function.write c) = a.function.write (b.function.write c) := by
  have hslot {j k : Int} (hne : some j ≠ some k) : j ≠ k := fun heq => hne (congrArg some heq)
  cases a <;> cases b <;> first
    | rfl
    -- one kind of update, so the slots differ
    | have hne := hslot (h.resolve_left fun hnot => hnot rfl)
      simp only [function, updateCellularDataConnectState, updateCellularDataFlow, updateCallState,
        updateCallStateForSlotId, updateSimState, updateSignalInfo, updateCellInfo,
        updateNetworkState, updateCfuIndicator, updateVoiceMailMsgIndicator,
        updateSimActiveState, KeyMap.assign_comm _ hne]

/-- What an update tells a record right after its exclusive section depends on no cache. -/
theorem Update.live_write (u : Update P) (env : Env) (c c' : Caches P) :
    u.live env (u.function.write c) = u.live env (u.function.write c') := by
  funext record
  have hpayload : u.payloadAt (u.function.write c) = u.payloadAt (u.function.write c') := by
    funext m
    rw [u.payloadAt_write, u.payloadAt_write]
  rw [u.live_spec, u.live_spec, hpayload]

/-- An accepted update has the same output in all states with the same records. -/
theorem Update.run_output_congr {u : Update P} {env : Env} (h : u.accepted env) {s s' : Service P}
    (hrecords : s.stateRecords = s'.stateRecords) :
    (u.function.run env s).2 = (u.function.run env s').2 := by
  have hdeliveries : u.deliveries env (u.function.writeTo s) =
      u.deliveries env (u.function.writeTo s') := by
    simp only [deliveries, LockedUpdate.writeTo, u.live_write env s.caches s'.caches, hrecords]
  rw [run_of_accepted h, run_of_accepted h, hdeliveries]

/-- An update calls no record that it does not match. -/
theorem Update.callbacksOf_run {u : Update P} {env : Env} (h : u.accepted env) (s : Service P)
    {record : Record} (hrecord : u.matchesRecord record = false) :
    callbacksOf record (u.function.run env s).2.deliveries = [] := by
  rw [callbacksOf, List.map_eq_nil_iff, List.filter_eq_nil_iff, run_of_accepted h]
  intro d hd heq
  have hlive := (mem_deliveriesOf.mp hd).2
  rw [of_decide_eq_true heq] at hlive
  obtain ⟨hlistens, hslot, -, reported, hp, -⟩ := Update.live_eq_some hlive
  change u.payloadAt (u.function.write s.caches) _ = _ at hp
  rw [u.payloadAt_write] at hp
  have htopic : d.callback.event ∈ u.topics := mem_topics.mpr (hp ▸ Option.some_ne_none reported)
  rw [matchesRecord, hslot, Bool.true_and, List.any_eq_false] at hrecord
  exact hrecord _ htopic (Record.listensTo_iff.mp hlistens).2

/-- Two runs that nobody can tell apart but a record that both updates match. -/
structure SameOutcome (a b : Update P) (env env' : Env) (s : Service P) : Prop where
  state : (b.function.run env' (a.function.run env s).1).1 =
    (a.function.run env (b.function.run env' s).1).1
  first : (a.function.run env s).2.result =
    (a.function.run env (b.function.run env' s).1).2.result
  second : (b.function.run env' (a.function.run env s).1).2.result =
    (b.function.run env' s).2.result
  deliveries : List.Perm
    ((a.function.run env s).2.deliveries ++
      (b.function.run env' (a.function.run env s).1).2.deliveries)
    ((b.function.run env' s).2.deliveries ++
      (a.function.run env (b.function.run env' s).1).2.deliveries)
  events : List.Perm
    ((a.function.run env s).2.events ++ (b.function.run env' (a.function.run env s).1).2.events)
    ((b.function.run env' s).2.events ++ (a.function.run env (b.function.run env' s).1).2.events)
  sequences : ∀ record, (a.matchesRecord record && b.matchesRecord record) = false →
    callbacksOf record ((a.function.run env s).2.deliveries ++
        (b.function.run env' (a.function.run env s).1).2.deliveries) =
      callbacksOf record ((b.function.run env' s).2.deliveries ++
        (a.function.run env (b.function.run env' s).1).2.deliveries)

/-- **Independent updates commute.** Two accepted updates that differ in event or in slot
have the same outcome in either order, in every state and so in every reachable one. -/
theorem independent_updates_commute {a b : Update P} (h : a.Independent b) {env env' : Env}
    (ha : a.accepted env) (hb : b.accepted env') (s : Service P) :
    SameOutcome a b env env' s := by
  have hrecords (u : Update P) (env : Env) (hu : u.accepted env) :
      (u.function.run env s).1.stateRecords = s.stateRecords := by
    rw [Update.run_of_accepted hu]
    rfl
  have hfirst : (a.function.run env (b.function.run env' s).1).2 = (a.function.run env s).2 :=
    Update.run_output_congr ha (hrecords b env' hb)
  have hsecond : (b.function.run env' (a.function.run env s).1).2 = (b.function.run env' s).2 :=
    Update.run_output_congr hb (hrecords a env ha)
  refine ⟨?_, by rw [hfirst], by rw [hsecond], ?_, ?_, ?_⟩
  · simp only [Update.run_of_accepted ha, Update.run_of_accepted hb, LockedUpdate.writeTo,
      h.write_comm]
  · rw [hfirst, hsecond]
    exact List.perm_append_comm
  · rw [hfirst, hsecond]
    exact List.perm_append_comm
  · intro record hrecord
    have happend (ds ds' : List (Delivery P)) :
        callbacksOf record (ds ++ ds') = callbacksOf record ds ++ callbacksOf record ds' := by
      simp only [callbacksOf, List.filter_append, List.map_append]
    rw [hfirst, hsecond, happend, happend]
    rcases Bool.and_eq_false_iff.mp hrecord with hnot | hnot
    · rw [Update.callbacksOf_run ha s hnot, List.nil_append, List.append_nil]
    · rw [Update.callbacksOf_run hb s hnot, List.nil_append, List.append_nil]

/-- The call states of two slots, which share the maps of the calls. -/
theorem call_states_of_slots_commute :
    let a : Update Platform.dualSim := .callStateForSlotId 0 1 [7]
    let b : Update Platform.dualSim := .callStateForSlotId 1 2 [8]
    SameOutcome a b Env.native Env.native (Service.after Platform.dualSim
      [(Env.native, .register (.single Platform.dualSim 1 0 .callState))]) := by
  intro a b
  exact independent_updates_commute (Or.inr (by decide)) (by decide) (by decide) _

end TelephonyStateRegistry
