import TelephonyStateRegistry.Client.Neighbours
import TelephonyStateRegistry.Correctness.Subscription

/-!
# Front ends of one process

The service keeps one registration for each pair of a process, with the observer
that asked first, and removes it for whoever asks. A front end whose listeners
are to be called must therefore own the registrations of its pairs. It does as
long as no request meets a registration of the other one.
-/

namespace TelephonyStateRegistry

open Reactive

variable {P : Platform} {process : Process} {F G : FrontEnd}

/-- Some accepted update reports on the event of a pair under its slot. -/
def Pair.Served (P : Platform) (k : Pair) : Prop :=
  ∃ (u : Update P) (env : Env) (m : ObserverMask), k.eventType = .event m ∧ u.accepted env ∧
    m ∈ u.topics ∧ u.slotMatches k.slotId = true

/-- The observer of a record was made by a front end. -/
def Shared.Made (w : Shared P) (side : Side) (record : Record) : Prop :=
  ∃ o, record.telephonyObserver = some o ∧ w.makers[o]? = some side

/-- Every update that sends the event of a pair under its slot calls an observer
of a front end about that event. -/
def Shared.Delivers (process : Process) (side : Side) (k : Pair) (w : Shared P) : Prop :=
  ∀ m (u : Update P) env, k.eventType = .event m → u.slotMatches k.slotId = true →
    u.sends env process.tokenId m →
      ∃ d ∈ (u.function.run env w.service).2.deliveries, d.callback.event = m ∧
        d.record.tokenId = process.tokenId ∧ d.record.pid = process.pid ∧ w.Made side d.record

/-- Each front end is called for every pair of its table. -/
def Neighbours.Isolated (process : Process) (s : Neighbours P F G) : Prop :=
  (∀ l ∈ s.first.table, s.shared.Delivers process .first (F.sharing.key l)) ∧
    ∀ l ∈ s.second.table, s.shared.Delivers process .second (G.sharing.key l)

/-- What a front end must meet when it asks for the registration of a pair that
updates serve: unless a check rejects it, it passes the gates that answer with
success, and what the process has registered for the pair is its own. -/
def Shared.Admits (process : Process) (side : Side) (env : Env) (k : Pair) (w : Shared P) : Prop :=
  k.Served P → Checked P env (k.eventType.toUint32t P) →
    silentGates P env k.slotId = true ∧
      ∀ record ∈ w.service.stateRecords, record.key = process.key P k → w.Made side record

/-- Neither front end asks for a registration that the other one has. -/
def KeepsApart (process : Process) (s : Neighbours P F G) : NeighbourStep P F G → Prop
  | .first (.request env) => ∀ e, s.first.phase = .adding e →
      s.shared.Admits process .first env (F.sharing.key e)
  | .second (.request env) => ∀ e, s.second.phase = .adding e →
      s.shared.Admits process .second env (G.sharing.key e)
  | _ => True

/-- A pair is registered, and for the observers of one front end only. -/
private def Shared.Owns (process : Process) (side : Side) (k : Pair) (w : Shared P) : Prop :=
  (∃ record ∈ w.service.stateRecords, record.key = process.key P k ∧ w.Made side record) ∧
    ∀ record ∈ w.service.stateRecords, record.key = process.key P k → w.Made side record

private theorem Shared.Made.unique {w : Shared P} {side other : Side} {record : Record}
    (h : w.Made side record) (hother : w.Made other record) : side = other := by
  obtain ⟨o, ho, hside⟩ := h
  obtain ⟨o', ho', hother⟩ := hother
  obtain rfl := Option.some.inj (ho.symm.trans ho')
  exact Option.some.inj (hside.symm.trans hother)

private theorem Shared.Owns.unique {w : Shared P} {side other : Side} {k : Pair}
    (h : w.Owns process side k) (hother : w.Owns process other k) : side = other := by
  obtain ⟨record, hr, hkey, hmade⟩ := h.1
  exact hmade.unique (hother.2 record hr hkey)

private theorem Shared.Owns.congr {w w' : Shared P} {side : Side} {k : Pair}
    (h : w.Owns process side k)
    (hrecords : ∀ record, record.key = process.key P k →
      (record ∈ w'.service.stateRecords ↔ record ∈ w.service.stateRecords))
    (hmakers : ∀ record, w.Made side record → w'.Made side record) :
    w'.Owns process side k := by
  obtain ⟨⟨record, hr, hkey, hmade⟩, hall⟩ := h
  refine ⟨⟨record, (hrecords record hkey).mpr hr, hkey, hmakers record hmade⟩, ?_⟩
  intro record hr hkey
  exact hmakers record (hall record ((hrecords record hkey).mp hr) hkey)

private theorem Shared.Made.append {w : Shared P} {side : Side} {record : Record}
    (h : w.Made side record) (service : Service P) (other : Side) :
    (⟨service, w.makers ++ [other]⟩ : Shared P).Made side record := by
  obtain ⟨o, ho, hside⟩ := h
  refine ⟨o, ho, ?_⟩
  rw [List.getElem?_append_left (List.getElem?_eq_some_iff.mp hside).1]
  exact hside

section Request

variable {side other : Side} {env : Env} {w : Shared P} {j k : Pair} {isUpdate : Bool}

private theorem add_records (side : Side) (env : Env) (w : Shared P) (k : Pair)
    (isUpdate : Bool) :
    ((side.manager P process env).addStateObserver k isUpdate w).2.service.stateRecords =
      if Checked P env (k.eventType.toUint32t P) ∧ silentGates P env k.slotId = true then
        (process.registration P w.makers.length k isUpdate).recordsAfter w.service
      else w.service.stateRecords := by
  have hadm := process.admitted_iff (P := P) w.makers.length k isUpdate env
  change (registerStateChange env _ w.service).1.stateRecords = _
  rw [registerStateChange_stateRecords]
  simp only [hadm]

private theorem add_success (side : Side) (env : Env) (w : Shared P) (k : Pair)
    (isUpdate : Bool) :
    ((side.manager P process env).addStateObserver k isUpdate w).1 = .telephonySuccess ↔
      Checked P env (k.eventType.toUint32t P) := by
  let r := process.registration P w.makers.length k isUpdate
  change ClientCode.service (registerStateChange env r w.service).2.result = _ ↔ _
  rw [ClientCode.telephonySuccess, ClientCode.service.injEq]
  exact registerStateChange_success_iff env r w.service

private theorem mem_recordsAfter {r : Registration} {s : Service P} {record : Record} :
    record ∈ r.recordsAfter s ↔
      record ∈ s.stateRecords ∨ (s.registered r.key = none ∧ record = r.record) := by
  unfold Registration.recordsAfter
  cases h : s.registered r.key with
  | none => simp only [Option.isSome_none, Bool.false_eq_true, if_false, List.mem_append,
      List.mem_singleton, true_and]
  | some stored => simp only [Option.isSome_some, if_true, reduceCtorEq, false_and, or_false]

private theorem Shared.Owns.add_of_ne (h : w.Owns process other j) (hne : j ≠ k) :
    ((side.manager P process env).addStateObserver k isUpdate w).2.Owns process other j := by
  refine h.congr ?_ fun record hmade => hmade.append _ side
  intro record hkey
  rw [add_records]
  split
  · rw [mem_recordsAfter, or_iff_left]
    rintro ⟨-, rfl⟩
    exact hne (process.key_injective hkey.symm)
  · exact Iff.rfl

private theorem Shared.Owns.add_of_rejected (h : w.Owns process other j)
    (hchecked : ¬Checked P env (k.eventType.toUint32t P)) :
    ((side.manager P process env).addStateObserver k isUpdate w).2.Owns process other j := by
  refine h.congr ?_ fun record hmade => hmade.append _ side
  intro record hkey
  rw [add_records, if_neg fun h => hchecked h.1]

private theorem Shared.Admits.owns (h : w.Admits process side env k) (hserved : k.Served P)
    (hchecked : Checked P env (k.eventType.toUint32t P)) :
    ((side.manager P process env).addStateObserver k isUpdate w).2.Owns process side k := by
  obtain ⟨hgates, hown⟩ := h hserved hchecked
  let r := process.registration P w.makers.length k isUpdate
  let w' := ((side.manager P process env).addStateObserver k isUpdate w).2
  have hrecords : w'.service.stateRecords = r.recordsAfter w.service := by
    rw [add_records, if_pos ⟨hchecked, hgates⟩]
  have hall : ∀ record ∈ w'.service.stateRecords, record.key = process.key P k →
      w'.Made side record := by
    intro record hr hkey
    rw [hrecords, mem_recordsAfter] at hr
    rcases hr with hr | ⟨-, rfl⟩
    · exact (hown record hr hkey).append _ side
    · exact ⟨w.makers.length, rfl, List.getElem?_concat_length⟩
  refine ⟨⟨r.subscriber w.service, ?_, r.subscriber_key w.service, ?_⟩, hall⟩
  · rw [hrecords]
    exact r.subscriber_mem w.service
  · refine hall _ ?_ (r.subscriber_key w.service)
    rw [hrecords]
    exact r.subscriber_mem w.service

private theorem Shared.Admits.owns_next (h : w.Admits process side env k) (hserved : j.Served P)
    (hj : w.Owns process side j ∨ (j = k ∧ Checked P env (k.eventType.toUint32t P))) :
    ((side.manager P process env).addStateObserver k isUpdate w).2.Owns process side j := by
  by_cases hjk : j = k
  · subst hjk
    by_cases hchecked : Checked P env (j.eventType.toUint32t P)
    · exact h.owns hserved hchecked
    · exact (hj.resolve_right fun hj => hchecked hj.2).add_of_rejected hchecked
  · exact (hj.resolve_right fun hj => hjk hj.1).add_of_ne hjk

private theorem Shared.Admits.owns_other (h : w.Admits process side env k) (hne : side ≠ other)
    (hserved : j.Served P) (hj : w.Owns process other j) :
    ((side.manager P process env).addStateObserver k isUpdate w).2.Owns process other j := by
  by_cases hjk : j = k
  · subst hjk
    by_cases hchecked : Checked P env (j.eventType.toUint32t P)
    · -- the other front end has this registration
      obtain ⟨record, hr, hkey, hmade⟩ := hj.1
      exact absurd (((h hserved hchecked).2 record hr hkey).unique hmade) hne
    · exact hj.add_of_rejected hchecked
  · exact hj.add_of_ne hjk

private theorem Shared.Owns.remove_of_ne (h : w.Owns process other j) (hne : j ≠ k) :
    ((side.manager P process env).removeStateObserver k w).2.Owns process other j := by
  refine h.congr ?_ fun record hmade => hmade
  intro record hkey
  change record ∈ (unregisterStateChange env _ w.service).1.stateRecords ↔ _
  rw [unregisterStateChange_stateRecords]
  split
  · apply List.mem_eraseP_of_neg
    rw [decide_eq_true_eq, hkey]
    exact fun hkey => hne (process.key_injective hkey)
  · exact Iff.rfl

private theorem mem_foreign {op : Op P} (h : op.foreign process = true) (env : Env)
    (s : Service P) {record : Record} (hkey : record.key = process.key P k) :
    record ∈ (op.run env s).1.stateRecords ↔ record ∈ s.stateRecords := by
  cases op with
  | update u => simp only [Op.run, u.run_stateRecords]
  | register r =>
    simp only [Op.run, registerStateChange_stateRecords]
    split
    · rw [mem_recordsAfter, or_iff_left]
      rintro ⟨-, rfl⟩
      exact Op.key_of_foreign_register h k hkey
    · exact Iff.rfl
  | unregister key =>
    simp only [Op.run, unregisterStateChange_stateRecords]
    split
    · apply List.mem_eraseP_of_neg
      rw [decide_eq_true_eq, hkey]
      exact fun hsame => Op.key_of_foreign_unregister h k hsame.symm
    · exact Iff.rfl

end Request

/-- A client owns what it needs, as far as updates serve it. -/
private def OwnsNeeds (process : Process) (side : Side) (s : F.Client × Shared P) : Prop :=
  Sharing.WithdrawsOnce s.1 ∧
    ∀ k, k.Served P → F.sharing.Needs s.1 k → s.2.Owns process side k

private theorem OwnsNeeds.next {side other : Side} (hne : side ≠ other)
    {s : F.Client × Shared P} (h : OwnsNeeds process side s) (step : FrontEndStep F Env)
    (hadmits : ∀ env e, step = .request env → s.1.phase = .adding e →
      s.2.Admits process side env (F.sharing.key e)) :
    OwnsNeeds process side ((F.parts (side.manager P process)).next s step) ∧
      ∀ k, k.Served P → s.2.Owns process other k →
        ((F.parts (side.manager P process)).next s step).2.Owns process other k := by
  obtain ⟨honce, howns⟩ := h
  cases step with
  | enter c =>
    cases hc : F.onTable c with
    | none =>
      have hsame : (F.parts (side.manager P process)).next s (.enter c) = s := by
        simp only [Mealy.next, FrontEnd.parts, hc]
      rw [hsame]
      exact ⟨⟨honce, howns⟩, fun k _ hk => hk⟩
    | some call =>
      have henter : (F.parts (side.manager P process)).next s (.enter c) =
          ((F.sharing.enter call s.1).1, s.2) := by
        simp only [Mealy.next, FrontEnd.parts, hc, Sharing.requests]
      rw [henter]
      refine ⟨⟨honce.enter F.sharing call, ?_⟩, fun k _ hk => hk⟩
      intro k hserved hk
      exact howns k hserved (F.sharing.needs_enter hk)
  | request env =>
    let p := F.provider (side.manager P process env)
    change OwnsNeeds process side (F.sharing.request p s).1 ∧
      ∀ k, k.Served P → s.2.Owns process other k →
        (F.sharing.request p s).1.2.Owns process other k
    have honce' := honce.request F.sharing p
    rcases F.sharing.request_cases p honce with
      ⟨hw, hneeds⟩ | ⟨e, hphase, hw, hneeds⟩ | ⟨k, hk, hw, hneeds⟩
    · refine ⟨⟨honce', ?_⟩, ?_⟩
      · intro j hserved hj
        rw [hw]
        exact howns j hserved (hneeds j hj)
      · intro j _ hj
        rw [hw]
        exact hj
    · have hadm := hadmits env e rfl hphase
      have hsuccess := F.add_success (side.manager P process env) (F.sharing.key e) s.2
      rw [add_success] at hsuccess
      have hw' : (F.sharing.request p s).1.2 = ((side.manager P process env).addStateObserver
          (F.sharing.key e) (F.isUpdate (F.sharing.key e).eventType) s.2).2 :=
        hw.trans (F.add_state _ _ _)
      refine ⟨⟨honce', ?_⟩, ?_⟩
      · intro j hserved hj
        rw [hw']
        refine hadm.owns_next hserved ?_
        rcases hneeds j hj with hj | ⟨hj, hadd⟩
        · exact Or.inl (howns j hserved hj)
        · exact Or.inr ⟨hj, hsuccess.mp hadd⟩
      · intro j hserved hj
        rw [hw']
        exact hadm.owns_other hne hserved hj
    · have hw' : (F.sharing.request p s).1.2 =
          ((side.manager P process env).removeStateObserver k s.2).2 :=
        hw.trans (F.remove_state _ _ _)
      refine ⟨⟨honce', ?_⟩, ?_⟩
      · intro j hserved hj
        obtain ⟨hj, hjk⟩ := hneeds j hj
        rw [hw']
        exact (howns j hserved hj).remove_of_ne hjk
      · intro j hserved hj
        rw [hw']
        apply hj.remove_of_ne
        rintro rfl
        exact hne ((howns j hserved hk).unique hj)

/-- Both front ends own what they need. -/
private def BothOwn (process : Process) (s : Neighbours P F G) : Prop :=
  OwnsNeeds process .first (s.first, s.shared) ∧ OwnsNeeds process .second (s.second, s.shared)

private theorem BothOwn.next {s : Neighbours P F G} (h : BothOwn process s)
    (step : NeighbourStep P F G) (hapart : KeepsApart process s step) :
    BothOwn process ((neighbours P process F G).next s step) := by
  obtain ⟨hfirst, hsecond⟩ := h
  cases step with
  | first step =>
    have hne : Side.first ≠ .second := by decide
    obtain ⟨hnext, hother⟩ := hfirst.next hne step fun env e henv => by
      subst henv
      exact hapart e
    exact ⟨hnext, hsecond.1, fun k hserved hk => hother k hserved (hsecond.2 k hserved hk)⟩
  | second step =>
    have hne : Side.second ≠ .first := by decide
    obtain ⟨hnext, hother⟩ := hsecond.next hne step fun env e henv => by
      subst henv
      exact hapart e
    exact ⟨⟨hfirst.1, fun k hserved hk => hother k hserved (hfirst.2 k hserved hk)⟩, hnext⟩
  | serves env op =>
    have hkeep : ∀ {side : Side} {k : Pair}, s.shared.Owns process side k →
        ((neighbours P process F G).next s (.serves env op)).shared.Owns process side k := by
      intro side k hk
      refine hk.congr ?_ fun record hmade => hmade
      intro record hkey
      simp only [Mealy.next, neighbours]
      split
      · rename_i hforeign
        exact mem_foreign hforeign env s.shared.service hkey
      · exact Iff.rfl
    exact ⟨⟨hfirst.1, fun k hserved hk => hkeep (hfirst.2 k hserved hk)⟩,
      hsecond.1, fun k hserved hk => hkeep (hsecond.2 k hserved hk)⟩

private theorem Shared.Owns.delivers {w : Shared P} {side : Side} {k : Pair}
    (h : k.Served P → w.Owns process side k) : w.Delivers process side k := by
  intro m u env hm hslot hsends
  have hserved : k.Served P := ⟨u, env, m, hm, hsends.1, hsends.2.1, hslot⟩
  obtain ⟨record, hr, hkey, hmade⟩ := (h hserved).1
  have htoken : record.tokenId = process.tokenId := congrArg Key.tokenId hkey
  have hpid : record.pid = process.pid := congrArg Key.pid hkey
  have hslotId : record.slotId = k.slotId := congrArg Key.slotId hkey
  have hmask : record.mask = P.mask m := by
    have hmask : record.mask = k.eventType.toUint32t P := congrArg Key.mask hkey
    rw [hmask, hm]
    rfl
  have ho : record.telephonyObserver ≠ none := by
    obtain ⟨o, ho, -⟩ := hmade
    rw [ho]
    exact Option.some_ne_none o
  rw [← htoken] at hsends
  obtain ⟨callback, hcallback, hevent⟩ := Update.sends_payload hsends
  rw [← hslotId] at hslot
  exact ⟨⟨record, callback⟩, mem_deliveries_of_single hr hmask ho hsends.1 hslot hcallback, hevent,
    htoken, hpid, hmade⟩

private theorem isolated_run (P : Platform) (process : Process) (F G : FrontEnd)
    (steps : List (NeighbourStep P F G))
    (h : (neighbours P process F G).Along (KeepsApart process) (Neighbours.start P F G) steps) :
    ((neighbours P process F G).run (Neighbours.start P F G) steps).Isolated process := by
  have hstart : BothOwn process (Neighbours.start P F G) := by
    have hnone : ∀ {F : FrontEnd} {side : Side},
        OwnsNeeds (F := F) process side (⟨[], .idle⟩, (⟨Service.init P, []⟩ : Shared P)) := by
      intro F side
      refine ⟨nofun, ?_⟩
      rintro k - (⟨e, he, -⟩ | ⟨ks, result, hphase, -⟩)
      · exact absurd he List.not_mem_nil
      · cases hphase
    exact ⟨hnone, hnone⟩
  obtain ⟨hfirst, hsecond⟩ := (neighbours P process F G).invariant_along (I := BothOwn process)
    (fun s step hapart hs => hs.next step hapart) hstart h
  refine ⟨?_, ?_⟩
  · intro l hl
    exact Shared.Owns.delivers fun hserved => hfirst.2 _ hserved (Or.inl ⟨l, hl, rfl⟩)
  · intro l hl
    exact Shared.Owns.delivers fun hserved => hsecond.2 _ hserved (Or.inl ⟨l, hl, rfl⟩)

private theorem isolated_before (P : Platform) (process : Process) (F G : FrontEnd)
    (steps before : List (NeighbourStep P F G)) (hbefore : before <+: steps)
    (h : (neighbours P process F G).Along (KeepsApart process) (Neighbours.start P F G) steps) :
    ((neighbours P process F G).run (Neighbours.start P F G) before).Isolated process := by
  obtain ⟨after, rfl⟩ := hbefore
  exact isolated_run P process F G before (Mealy.Along.append.mp h).1

/-- **When the front ends of a process are isolated.** In every interleaving of
the calls of two front ends, request by request, in which neither asks for a
registration that the other one has, every update of a pair in the table of a
front end calls an observer of that front end, in every state. -/
theorem front_ends_isolated (P : Platform) (process : Process) (N : Ani.NapiUtil) :
    (∀ steps before : List (NeighbourStep P (napi P) (cj P)), before <+: steps →
      (neighbours P process (napi P) (cj P)).Along (KeepsApart process)
          (Neighbours.start P (napi P) (cj P)) steps →
        ((neighbours P process (napi P) (cj P)).run
          (Neighbours.start P (napi P) (cj P)) before).Isolated process) ∧
    (∀ steps before : List (NeighbourStep P (napi P) (ani P N)), before <+: steps →
      (neighbours P process (napi P) (ani P N)).Along (KeepsApart process)
          (Neighbours.start P (napi P) (ani P N)) steps →
        ((neighbours P process (napi P) (ani P N)).run
          (Neighbours.start P (napi P) (ani P N)) before).Isolated process) :=
  ⟨isolated_before P process (napi P) (cj P), isolated_before P process (napi P) (ani P N)⟩

theorem different_slots_isolated :
    ((neighbours Platform.dualSim ⟨"app", 1, 1, 1, ""⟩ (napi Platform.dualSim)
        (cj Platform.dualSim)).run (Neighbours.start _ _ _)
      [.first (.enter (fun _ => Nat.beq, .registerEventListener ⟨1, .event .simState, 0, 2, 3⟩)),
        .first (.request .native),
        .second (.enter (.registerEventListener ⟨.event .simState, 1, 4, 5⟩)),
        .second (.request .native)]).Isolated ⟨"app", 1, 1, 1, ""⟩ := by
  refine (front_ends_isolated Platform.dualSim ⟨"app", 1, 1, 1, ""⟩ .unspecific).1 _ _
    (List.prefix_refl _) ⟨trivial, ?_, trivial, ?_, trivial⟩
  · rintro e hphase - -
    cases hphase
    exact ⟨by decide, nofun⟩
  · rintro e hphase - -
    cases hphase
    refine ⟨by decide, ?_⟩
    intro record hr hkey
    obtain rfl := List.mem_singleton.mp hr
    exact absurd hkey (by decide)

/-- Two front ends subscribe to the same pair, and every call succeeds. The one
that comes second is never called, and when it unsubscribes the other one is not
called any more either. -/
theorem shared_pair_not_isolated :
    let M := neighbours Platform.dualSim ⟨"app", 1, 1, 1, ""⟩ (napi Platform.dualSim)
      (cj Platform.dualSim)
    let on : List (NeighbourStep Platform.dualSim (napi Platform.dualSim) (cj Platform.dualSim)) :=
      [.second (.enter (.registerEventListener ⟨.event .simState, 0, 4, 5⟩)),
        .second (.request .native),
        .first (.enter (fun _ => Nat.beq, .registerEventListener ⟨1, .event .simState, 0, 2, 3⟩)),
        .first (.request .native)]
    let off : List (NeighbourStep Platform.dualSim (napi Platform.dualSim) (cj Platform.dualSim)) :=
      [.first (.enter (fun _ => Nat.beq, .unregisterEventListeners 1 (.event .simState))),
        .first (.request .native), .first (.request .native)]
    M.outs (Neighbours.start _ _ _) (on ++ off) =
        [(none, none), (none, some .telephonySuccess), (none, none), (some .telephonySuccess, none),
          (none, none), (none, none), (some .telephonySuccess, none)] ∧
      ¬(M.run (Neighbours.start _ _ _) on).Isolated ⟨"app", 1, 1, 1, ""⟩ ∧
      ¬(M.run (Neighbours.start _ _ _) (on ++ off)).Isolated ⟨"app", 1, 1, 1, ""⟩ := by
  have hsends : (Update.simState 0 1 2 3 : Update Platform.dualSim).sends Env.native 1 .simState :=
    ⟨rfl, List.mem_singleton.mpr rfl, nofun, nofun⟩
  refine ⟨rfl, ?_, ?_⟩
  · rintro ⟨h, -⟩
    obtain ⟨d, hd, -, -, -, o, ho, hmaker⟩ := h ⟨1, .event .simState, 0, 2, 3⟩
      (List.mem_singleton.mpr rfl) .simState (.simState 0 1 2 3) Env.native rfl rfl hsends
    obtain rfl := List.mem_singleton.mp hd
    cases ho
    cases hmaker
  · rintro ⟨-, h⟩
    obtain ⟨d, hd, -⟩ := h ⟨.event .simState, 0, 4, 5⟩
      (List.mem_singleton.mpr rfl) .simState (.simState 0 1 2 3) Env.native rfl rfl hsends
    exact absurd hd List.not_mem_nil

end TelephonyStateRegistry
