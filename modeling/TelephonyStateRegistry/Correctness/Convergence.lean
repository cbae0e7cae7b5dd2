import TelephonyStateRegistry.Concurrent.Watcher

/-!
# What an observer saw last

Between the two sections of an update others may run, so notifications can
overtake each other. If the updates of a topic take turns, an observer that
registered with replay has seen the cached callback whenever no update is under
way, wherever the registration fell. If they do not, it has seen the cached
callback provided the last notification was that of the last write.
-/

namespace TelephonyStateRegistry

open Reactive

variable {P : Platform} {o : Observer} {m : ObserverMask} {slotId : Int}

/-- A step that begins an update of a topic only when no other one is under way. -/
def AtomicStep.InTurn (m : ObserverMask) (slotId : Int) (s : System P) (step : AtomicStep P) :
    Prop :=
  ((interleaving P).out s step).wroteReport m slotId ≠ none →
    ∀ u ∈ s.pending, u.report m slotId = none

private theorem watchedBy_of_registered {s : System P} {k : Key} {record : Record}
    (h : s.service.registered k = some record) (ho : record.telephonyObserver = some o)
    (hwatch : record.watches P m slotId = true) : s.WatchedBy o m slotId :=
  ⟨record, (Service.mem_of_registered h).1, ho, hwatch⟩

private theorem serial_step (hx : P.ExtAbsent) (hm : m.IsState) {s : System P}
    {effects : List (Effect P)} {c : Cell (Callback P)} (h : Projects o m slotId s effects c)
    (hserial : c.Serial) {step : AtomicStep P} (hturn : step.InTurn m slotId s)
    (hcopy : m = .networkState → step.CopiedFaithfully) :
    ∃ c', Projects o m slotId ((interleaving P).next s step)
      (effects ++ [(interleaving P).out s step]) c' ∧ c'.Serial ∧
        (s.WatchedBy o m slotId → c.UpToDate → c'.UpToDate) := by
  obtain ⟨event, c', hcell⟩ := h.cellStep hx hm (happens s step) hcopy
  have hevent : event.InTurn c := by
    cases event with
    | write v =>
      have hwrote := hcell.writes v rfl
      have hnone := hturn (hwrote ▸ Option.some_ne_none v)
      exact h.pending.symm.trans (List.filterMap_eq_nil_iff.mpr hnone)
    | _ => trivial
  refine ⟨c', hcell.projects, hserial.step hcell.step hevent, ?_⟩
  intro hwatched hupToDate
  exact hupToDate.step hserial hcell.step (hcell.reaches hwatched)

private theorem serial_run (hx : P.ExtAbsent) (hm : m.IsState) (o : Observer)
    {steps : List (AtomicStep P)}
    (hcopy : m = .networkState → ∀ step ∈ steps, step.CopiedFaithfully)
    (hturn : (interleaving P).Along (AtomicStep.InTurn m slotId) (System.init P) steps) :
    ∃ c, Projects o m slotId (System.after P steps) (System.effects P steps) c ∧ c.Serial := by
  have hnone : m = .networkState → ∀ u ∈ (System.init P).pending, u.CopiedFaithfully := by
    intro _ u hu
    cases hu
  have hcopy' : ∀ step ∈ steps, m = .networkState → step.CopiedFaithfully :=
    fun step hstep hnet => hcopy hnet step hstep
  obtain ⟨c, hc, -, -⟩ := Projects.start hm o slotId hnone
  refine (interleaving P).history_along
    (I := fun s effects => ∃ c, Projects o m slotId s effects c ∧ c.Serial) ?_
    ⟨c, hc, Or.inl hc.pending.symm⟩ (hturn.and ((interleaving P).along_of_mem hcopy' _))
  rintro s step effects ⟨hturn, hcopy⟩ ⟨c, hc, hserial⟩
  obtain ⟨c', hc', hserial', -⟩ := serial_step hx hm hc hserial hturn hcopy
  exact ⟨c', hc', hserial'⟩

private theorem watches_record {r : Registration} (ho : r.telephonyObserver = some o)
    (hbit : P.contains r.mask m = true) : r.record.watches P m r.slotId = true := by
  have hstored : r.record.telephonyObserver = some o := ho
  have hsome : r.record.telephonyObserver ≠ none := by
    rw [hstored]
    exact Option.some_ne_none o
  have hlisten : r.record.listensTo P m = true := Record.listensTo_iff.mpr ⟨hsome, hbit⟩
  have hslot : r.record.slotId = r.slotId := rfl
  rw [Record.watches, hlisten, Bool.true_and, hslot]
  split <;> simp [sameOrAllSlots, sameSlot]

private theorem fresh_registration (hm : m.IsState) (s : System P) {env : Env} {r : Registration}
    (hadm : r.admitted P env) (hfresh : s.service.registered r.key = none)
    (hupdate : r.isUpdate = true) (ho : r.telephonyObserver = some o)
    (hbit : P.contains r.mask m = true) :
    ((interleaving P).next s (.register env r)).service.registered r.key = some r.record ∧
      ((interleaving P).out s (.register env r)).seen o m r.slotId =
        ((interleaving P).next s (.register env r)).service.caches.cached m r.slotId := by
  have hsubscriber : r.subscriber s.service = r.record := by
    rw [Registration.subscriber, hfresh, Option.getD_none]
  constructor
  · change (registerStateChange env r s.service).1.registered r.key = _
    rw [registered_register, if_pos ⟨hadm, rfl⟩, hsubscriber]
  · change lastOf (Delivery.onTopic o m r.slotId)
        (registerStateChange env r s.service).2.deliveries =
      (registerStateChange env r s.service).1.caches.cached m r.slotId
    rw [registerStateChange_deliveries, if_pos hadm,
      Caches.cached_congr (registerStateChange_total env r s.service)]
    have ho' : (r.subscriber s.service).telephonyObserver = some o := by
      rw [hsubscriber]
      exact ho
    exact Registration.seen_own_replay hm env hupdate ho' hbit

private theorem serial_registration (hx : P.ExtAbsent) (hm : m.IsState)
    {before : List (AtomicStep P)} {env : Env} {r : Registration}
    (hcopy : m = .networkState → ∀ step ∈ before ++ [.register env r], step.CopiedFaithfully)
    (hturn : (interleaving P).Along (AtomicStep.InTurn m r.slotId) (System.init P)
      (before ++ [.register env r]))
    (hshown : ((interleaving P).out (System.after P before) (.register env r)).seen o m r.slotId =
      ((interleaving P).next (System.after P before) (.register env r)).service.caches.cached m
        r.slotId) :
    ∃ c, Projects o m r.slotId (System.after P (before ++ [.register env r]))
      (System.effects P (before ++ [.register env r])) c ∧ c.Serial ∧ c.UpToDate := by
  obtain ⟨c, hc, hserial⟩ := serial_run hx hm o hcopy hturn
  refine ⟨c, hc, hserial, ?_⟩
  intro _
  have hvalue := hc.value
  rw [System.after, Mealy.run_concat] at hvalue
  have hseen : ((interleaving P).out (System.after P before) (.register env r)).seen o m r.slotId =
      some c.value := hshown.trans hvalue
  rw [← hc.seen, System.effects, Mealy.outs_concat, lastOf_concat]
  change Option.or (((interleaving P).out (System.after P before) (.register env r)).seen o m
    r.slotId) _ = some c.value
  rw [hseen, Option.some_or]

/-- What holds from the registration on: the record is stored, and the cell of
its topic keeps up. -/
private structure Follows (o : Observer) (m : ObserverMask) (k : Key) (record : Record)
    (s : System P) (effects : List (Effect P)) (c : Cell (Callback P)) : Prop where
  projects : Projects o m record.slotId s effects c
  serial : c.Serial
  upToDate : c.UpToDate
  stored : s.service.registered k = some record

private theorem Follows.step (hx : P.ExtAbsent) (hm : m.IsState) {k : Key} {record : Record}
    (ho : record.telephonyObserver = some o) (hwatch : record.watches P m record.slotId = true)
    {s : System P} {effects : List (Effect P)} {c : Cell (Callback P)}
    (h : Follows o m k record s effects c) {step : AtomicStep P}
    (hturn : step.InTurn m record.slotId s)
    (hcopy : m = .networkState → step.CopiedFaithfully) (hkeeps : step.KeepsKey k s) :
    ∃ c', Follows o m k record ((interleaving P).next s step)
      (effects ++ [(interleaving P).out s step]) c' := by
  obtain ⟨c', hc', hserial', hfollow⟩ := serial_step hx hm h.projects h.serial hturn hcopy
  have hwatched : s.WatchedBy o m record.slotId := watchedBy_of_registered h.stored ho hwatch
  have hstored := (happens s step).registered_key h.stored hkeeps
  exact ⟨c', hc', hserial', hfollow hwatched h.upToDate, hstored⟩

/-- **Registration loses nothing.** Let the updates of a state event on a slot
take turns, and let a record be inserted with replay for that event on that slot
somewhere in an interleaving. When no update is under way and the record is
still stored, the last callback of the event that its observer got for the slot
is the cached one. -/
theorem registration_loses_nothing (hx : P.ExtAbsent) (hm : m.IsState)
    {before after : List (AtomicStep P)} {env : Env} {r : Registration}
    (hcopy : m = .networkState →
      ∀ step ∈ before ++ .register env r :: after, step.CopiedFaithfully)
    (hturn : (interleaving P).Along (AtomicStep.InTurn m r.slotId) (System.init P)
      (before ++ .register env r :: after))
    (hadm : r.admitted P env) (hfresh : (System.after P before).service.registered r.key = none)
    (hupdate : r.isUpdate = true) (ho : r.telephonyObserver = some o)
    (hbit : P.contains r.mask m = true)
    (hkeeps : (interleaving P).Along (AtomicStep.KeepsKey r.key)
      (System.after P (before ++ [.register env r])) after)
    (hdone : (System.after P (before ++ .register env r :: after)).pending = []) :
    lastOf (Effect.seen o m r.slotId) (System.effects P (before ++ .register env r :: after)) =
      (System.after P (before ++ .register env r :: after)).service.caches.cached m r.slotId := by
  rw [List.append_cons] at hcopy hturn hdone ⊢
  obtain ⟨hturn, hturn'⟩ := Mealy.Along.append.mp hturn
  have hcopyBefore : m = .networkState →
      ∀ step ∈ before ++ [.register env r], step.CopiedFaithfully :=
    fun hnet step hstep => hcopy hnet step (List.mem_append_left _ hstep)
  have hcopyAfter : ∀ step ∈ after, m = .networkState → step.CopiedFaithfully :=
    fun step hstep hnet => hcopy hnet step (List.mem_append_right _ hstep)
  -- up to the registration only the turns matter, and the replay brings the cell up to date
  obtain ⟨hstored, hshown⟩ :=
    fresh_registration hm (System.after P before) hadm hfresh hupdate ho hbit
  obtain ⟨c, hc, hserial, hupToDate⟩ := serial_registration hx hm hcopyBefore hturn hshown
  have hstart : Follows o m r.key r.record (System.after P (before ++ [.register env r]))
      (System.effects P (before ++ [.register env r]) ++ []) c := by
    rw [List.append_nil]
    refine ⟨hc, hserial, hupToDate, ?_⟩
    rw [System.after, Mealy.run_concat]
    exact hstored
  have hrun : ∃ c', Follows o m r.key r.record
      ((interleaving P).run (System.after P (before ++ [.register env r])) after)
      (System.effects P (before ++ [.register env r]) ++
        (interleaving P).outs (System.after P (before ++ [.register env r])) after) c' := by
    refine (interleaving P).history_along
      (I := fun s effects => ∃ c, Follows o m r.key r.record s
        (System.effects P (before ++ [.register env r]) ++ effects) c) ?_ ⟨c, hstart⟩
      ((hturn'.and ((interleaving P).along_of_mem hcopyAfter _)).and hkeeps)
    rintro s step effects ⟨⟨hturn, hcopy⟩, hkeeps⟩ ⟨c, h⟩
    rw [← List.append_assoc]
    exact h.step hx hm ho (watches_record ho hbit) hturn hcopy hkeeps
  obtain ⟨c', hlast⟩ := hrun
  unfold System.effects System.after at *
  rw [Mealy.run_append] at hdone ⊢
  rw [Mealy.outs_append]
  have hpending : c'.pending = [] := by
    rw [← hlast.projects.pending, hdone]
    rfl
  calc lastOf (Effect.seen o m r.slotId) _ = c'.seen := hlast.projects.seen
    _ = some c'.value := hlast.upToDate hpending
    _ = _ := hlast.projects.value.symm

/-- The registration falls between the two sections of an update. -/
theorem simState_not_lost :
    let P := Platform.dualSim
    let before : List (AtomicStep P) := [.write Env.native (.simState 0 1 2 3)]
    let r := Registration.single P 1 0 .simState
    let after : List (AtomicStep P) := [.notify Env.native 0]
    lastOf (Effect.seen 1 .simState 0)
        (System.effects P (before ++ .register Env.native r :: after)) =
      (System.after P (before ++ .register Env.native r :: after)).service.caches.cached
        .simState 0 := by
  intro P before r after
  have hturn : (interleaving P).Along (AtomicStep.InTurn .simState 0) (System.init P)
      (before ++ .register Env.native r :: after) :=
    ⟨fun _ u hu => absurd hu List.not_mem_nil, fun h => absurd rfl h, fun h => absurd rfl h,
      trivial⟩
  have hkeeps : (interleaving P).Along (AtomicStep.KeepsKey r.key)
      (System.after P (before ++ [.register Env.native r])) after :=
    ⟨fun _ h => (nomatch h), trivial⟩
  exact registration_loses_nothing (m := .simState) Platform.dualSim_extAbsent trivial
    (fun h => by cases h) hturn (by decide) rfl rfl rfl (by decide) hkeeps rfl

private theorem faithful_pending {steps : List (AtomicStep P)}
    (hcopy : ∀ step ∈ steps, step.CopiedFaithfully) :
    ∀ u ∈ (System.after P steps).pending, u.CopiedFaithfully := by
  intro u hu
  obtain ⟨env, hmem, hacc⟩ := begun_of_mem_pending hu
  exact hcopy _ hmem env u rfl hacc

/-- What holds while a record that watches a topic is stored, whatever overtakes what. -/
private structure Watches (o : Observer) (m : ObserverMask) (slotId : Int) (k : Key)
    (record : Record) (s : System P) (effects : List (Effect P)) (c : Cell (Callback P)) :
    Prop where
  projects : Projects o m slotId s effects c
  settled : c.Settled
  stored : s.service.registered k = some record

private theorem Watches.step (hx : P.ExtAbsent) (hm : m.IsState) {k : Key} {record : Record}
    (ho : record.telephonyObserver = some o) (hwatch : record.watches P m slotId = true)
    {s : System P} {effects : List (Effect P)} {c : Cell (Callback P)}
    (h : Watches o m slotId k record s effects c) {step : AtomicStep P}
    (hcopy : m = .networkState → step.CopiedFaithfully) (hkeeps : step.KeepsKey k s) :
    ∃ c', Watches o m slotId k record ((interleaving P).next s step)
      (effects ++ [(interleaving P).out s step]) c' := by
  obtain ⟨event, c', hcell⟩ := h.projects.cellStep hx hm (happens s step) hcopy
  have hwatched : s.WatchedBy o m slotId := watchedBy_of_registered h.stored ho hwatch
  have hsettled := h.settled.step hcell.step (hcell.reaches hwatched)
  exact ⟨c', hcell.projects, hsettled, (happens s step).registered_key h.stored hkeeps⟩

/-- **Observers converge to the last notification.** Whatever overtakes what, a
record stored throughout has shown its observer the cached callback when no
update is under way, provided that the update notified last reported what the
update written last reported. -/
theorem observer_converges (hx : P.ExtAbsent) (hm : m.IsState) {before after : List (AtomicStep P)}
    {k : Key} {record : Record} {callback : Callback P}
    (hcopy : m = .networkState → ∀ step ∈ before ++ after, step.CopiedFaithfully)
    (hstored : (System.after P before).service.registered k = some record)
    (ho : record.telephonyObserver = some o) (hwatch : record.watches P m slotId = true)
    (hkeeps : (interleaving P).Along (AtomicStep.KeepsKey k) (System.after P before) after)
    (hdone : (System.after P (before ++ after)).pending = [])
    (htold : lastOf (Effect.notifiedReport m slotId)
      ((interleaving P).outs (System.after P before) after) = some callback)
    (hwrote : lastOf (Effect.wroteReport m slotId) (System.effects P (before ++ after)) =
      some callback) :
    lastOf (Effect.seen o m slotId) (System.effects P (before ++ after)) =
      (System.after P (before ++ after)).service.caches.cached m slotId := by
  have hfaithful : m = .networkState →
      ∀ u ∈ (System.after P before).pending, u.CopiedFaithfully := by
    intro hnet
    apply faithful_pending
    intro step hstep
    exact hcopy hnet step (List.mem_append_left _ hstep)
  have hcopyAfter : ∀ step ∈ after, m = .networkState → step.CopiedFaithfully :=
    fun step hstep hnet => hcopy hnet step (List.mem_append_right _ hstep)
  obtain ⟨c, hc, htoldNone, hseenNone⟩ := Projects.start hm o slotId hfaithful
  have hsettled : c.Settled := by
    intro _
    rw [hseenNone, htoldNone]
    exact Or.inl rfl
  have hrun : ∃ c', Watches o m slotId k record
      ((interleaving P).run (System.after P before) after)
      ((interleaving P).outs (System.after P before) after) c' := by
    refine (interleaving P).history_along
      (I := fun s effects => ∃ c, Watches o m slotId k record s effects c) ?_
      ⟨c, hc, hsettled, hstored⟩ (((interleaving P).along_of_mem hcopyAfter _).and hkeeps)
    rintro s step effects ⟨hcopy, hkeeps⟩ ⟨c, h⟩
    exact h.step hx hm ho hwatch hcopy hkeeps
  obtain ⟨c', hlast⟩ := hrun
  have hcached : (System.after P (before ++ after)).service.caches.cached m slotId =
      some callback := by
    rw [cached_after hcopy, hwrote, Option.some_or]
  unfold System.effects System.after at *
  rw [Mealy.run_append] at hdone hcached ⊢
  have hpending : c'.pending = [] := by
    rw [← hlast.projects.pending, hdone]
    rfl
  have hvalue : c'.value = callback :=
    Option.some.inj (hlast.projects.value.symm.trans hcached)
  have hseen : c'.seen = some callback := by
    rcases hlast.settled hpending with h | h
    · rw [h, ← hlast.projects.told, htold]
    · rw [h, hvalue]
  rw [Mealy.outs_append, lastOf_append, hlast.projects.seen, hseen, Option.some_or, hcached]

theorem simState_converges :
    let P := Platform.dualSim
    let before : List (AtomicStep P) := [.register Env.native (.single P 1 0 .simState)]
    let after : List (AtomicStep P) :=
      [.write Env.native (.simState 0 1 2 3), .notify Env.native 0]
    lastOf (Effect.seen 1 .simState 0) (System.effects P (before ++ after)) =
      (System.after P (before ++ after)).service.caches.cached .simState 0 := by
  have hstored : (System.after Platform.dualSim
      [.register Env.native (.single Platform.dualSim 1 0 .simState)]).service.registered
        (Registration.single Platform.dualSim 1 0 .simState).key =
      some (Registration.single Platform.dualSim 1 0 .simState).record := rfl
  intro P before after
  have hkeeps : (interleaving P).Along
      (AtomicStep.KeepsKey (Registration.single P 1 0 .simState).key)
      (System.after P before) after :=
    ⟨fun _ h => (nomatch h), fun _ h => (nomatch h), trivial⟩
  exact observer_converges (m := .simState) Platform.dualSim_extAbsent trivial
    (fun h => by cases h) hstored rfl (by decide) hkeeps rfl rfl rfl

/-- Two updates whose notifications come in the opposite order of their writes
leave the observer with the value that was overwritten. -/
theorem overtaken_observer_stale :
    let P := Platform.dualSim
    let before : List (AtomicStep P) := [.register Env.native (.single P 1 0 .simState)]
    let after : List (AtomicStep P) :=
      [.write Env.native (.simState 0 1 1 1), .write Env.native (.simState 0 2 2 2),
        .notify Env.native 1, .notify Env.native 0]
    P.ExtAbsent ∧
    (∃ record, (System.after P before).service.registered ⟨0, P.mask .simState, 1, 1⟩ =
        some record ∧ record.telephonyObserver = some 1 ∧
          record.watches P .simState 0 = true) ∧
      (System.after P (before ++ after)).pending = [] ∧
      lastOf (Effect.seen 1 .simState 0) (System.effects P (before ++ after)) =
        some (.onSimStateUpdated 0 1 1 1) ∧
      (System.after P (before ++ after)).service.caches.cached .simState 0 =
        some (.onSimStateUpdated 0 2 2 2) ∧
      getSimState (System.after P (before ++ after)).service 0 = 2 := by
  refine ⟨Platform.dualSim_extAbsent, ?_, rfl, rfl, rfl, rfl⟩
  exact ⟨(Registration.single Platform.dualSim 1 0 .simState).record, rfl, rfl, by decide⟩

end TelephonyStateRegistry
