import TelephonyStateRegistry.Client.Session
import TelephonyStateRegistry.Correctness.SharedClient
import TelephonyStateRegistry.Interpretation.Outcome

/-!
# Subscriptions after a restart of the service

A front end asks the service for a registration only for the first listener of a pair.
The table does not notice that the service died, or that somebody else in the process
had the registration removed, so a further listener of such a pair is added with
success and without a registration. There are two other ways to the same end: the gates
of the service that answer with a success code, and a registration of the pair that
somebody else in the process made first, which the service keeps with its observer.
-/

namespace TelephonyStateRegistry

open Reactive

variable {P : Platform} {process : Process} {F : FrontEnd} {own : Bool}

/-- A part of a call that may be the end of an `on`. -/
def FrontEnd.Subscribes (c : F.Client) (e : F.Listener) : FrontEndStep F (Pair → Link) → Prop
  | .enter call => ∃ same, F.onTable call = some (.subscribe same e)
  | .request _ => c.phase = .adding e

/-- An `on` that returns success leaves a registration of the process in the live
incarnation; if it is to be an own one, the service calls the front end through it. -/
def Subscribed (F : FrontEnd) (own : Bool) (s : F.Client × Host P) :
    SessionEvent P process F → Prop
  | .part step => ∀ e, FrontEnd.Subscribes s.1 e step →
      (session P process F).out s (.part step) = some F.sharing.success →
        ((session P process F).next s (.part step)).2.Holds process own (F.sharing.key e)
  | _ => True

/-- What an `on` must not meet. If its pair has listeners, and the call does not
fail because one of them is the same, the pair must not have lost its registration.
If not, and the request reaches a service that lets the caller pass its checks, the
slot must pass the gates that answer with success and nobody in the process have a
registration of the pair, or there be such a registration already. -/
def KeepsRegistration (F : FrontEnd) (own : Bool) (s : (F.Client × Host P) × List Pair) :
    SessionEvent P process F → Prop
  | .part (.enter c) => ∀ same e, F.onTable c = some (.subscribe same e) →
      s.1.1.phase = .idle → F.sharing.key e ∈ F.pairs s.1.1.table →
        F.sharing.already = F.sharing.success ∨ (∀ d ∈ s.1.1.table, same d = false) →
          F.sharing.key e ∉ s.2
  | .part (.request link) => ∀ e, s.1.1.phase = .adding e →
      let k := F.sharing.key e
      s.1.2.remote.Reaches (link k) → Checked P (link k).env (k.eventType.toUint32t P) →
        (silentGates P (link k).env k.slotId = true ∧ s.1.2.record process k = none) ∨
          s.1.2.Holds process own k
  | _ => True

/-- The pairs that have lost their registration have none. -/
private def LostUnheld (process : Process) (own : Bool)
    (s : (F.Client × Host P) × List Pair) : Prop :=
  ∀ k ∈ s.2, k ∈ F.pairs s.1.1.table ∧ ¬s.1.2.Holds process own k

/-- The other pairs with listeners are registered. -/
private def OthersHeld (process : Process) (own : Bool)
    (s : (F.Client × Host P) × List Pair) : Prop :=
  ∀ k ∈ F.pairs s.1.1.table, k ∉ s.2 → s.1.2.Holds process own k

section Step

variable {s : (F.Client × Host P) × List Pair} {event : SessionEvent P process F}

private theorem holds_of_neighbour {w : Host P} (h : w.Sound process) (link : Link)
    (request : ClientRequest) (k : Pair) :
    let event : SessionEvent P process F := .neighbour link request
    (w.request process .neighbour link request).2.Holds process own k ↔
      event.takes w k = false ∧
        (w.Holds process own k ∨ (own = false ∧ event.gives w k = true)) := by
  intro event
  refine (Host.holds_request h .neighbour link request).trans ?_
  by_cases hreach : w.remote.Reaches link
  · let op : Op P := request.op P process w.makers.length
    have htakes : event.takes w k = op.removes link.env (process.key P k) := by
      simp only [event, op, SessionEvent.takes, SessionEvent.served, if_pos hreach, Option.any_some]
    have hgives : event.gives w k = op.stores link.env (process.key P k) := by
      simp only [event, op, SessionEvent.gives, SessionEvent.served, if_pos hreach, Option.any_some]
    rw [htakes, hgives]
    change (_ ∧ _ ∧ op.stores _ _ = true ∧ _) ∨ (_ ∧ ¬(_ ∧ op.removes _ _ = true)) ↔ _
    cases hr : op.removes link.env (process.key P k) with
    | true =>
      simp only [Op.not_stores_of_removes hr, hreach, Bool.false_eq_true, false_and, and_false,
        and_true, not_true_eq_false, or_false, Bool.true_eq_false]
    | false =>
      simp only [hreach, true_and, Bool.false_eq_true, and_false, not_false_eq_true, and_true]
      cases own with
      | true =>
        simp only [forall_const, reduceCtorEq, false_and, false_or, or_false]
      | false =>
        simp only [Bool.false_eq_true, false_imp_iff, true_and]
        cases hrecord : w.record process k with
        | none => rw [and_iff_left rfl, or_comm]
        | some record =>
          have hholds : w.Holds process false k :=
            ⟨record, hrecord, fun hown => absurd hown Bool.false_ne_true⟩
          exact iff_of_true (Or.inr hholds) (Or.inl hholds)
  · have htakes : event.takes w k = false := by
      simp only [event, SessionEvent.takes, SessionEvent.served, if_neg hreach, Option.any_none]
    have hgives : event.gives w k = false := by
      simp only [event, SessionEvent.gives, SessionEvent.served, if_neg hreach, Option.any_none]
    simp only [htakes, hgives, hreach, false_and, and_false, not_false_eq_true, and_true,
      false_or, Bool.false_eq_true, or_false, true_and]

private theorem holds_of_other (h : s.1.2.Sound process) (hpart : ∀ step, event ≠ .part step)
    (k : Pair) :
    ((session P process F).next s.1 event).2.Holds process own k ↔
      event.takes s.1.2 k = false ∧
        (s.1.2.Holds process own k ∨ (own = false ∧ event.gives s.1.2 k = true)) := by
  have hkeep {P' Q : Prop} (hsame : P' ↔ Q) :
      P' ↔ false = false ∧ (Q ∨ (own = false ∧ false = true)) := by
    simp only [hsame, Bool.false_eq_true, and_false, or_false, true_and]
  cases event with
  | part step => exact absurd rfl (hpart step)
  | neighbour link request => exact holds_of_neighbour h link request k
  | died =>
    refine iff_of_false ?_ fun hkept => by cases hkept.1
    rintro ⟨record, hrecord, -⟩
    cases hrecord
  | restarted => exact hkeep (Host.holds_congr Host.record_restarted)
  | onRemoteDied remote =>
    have hservice := Remote.onRemoteDied_service remote s.1.2.remote
    exact hkeep (Host.holds_congr (Host.record_congr hservice))
  | serves env op => exact hkeep (Host.holds_congr (Host.record_serves h env op))

/-- The provider that a front end sees in a session. -/
private abbrev FrontEnd.host (F : FrontEnd) (process : Process) (link : Pair → Link) :
    Provider (Host P) Pair F.Code :=
  F.provider (hostManager P process link)

private theorem holds_provider_add {link : Pair → Link} {w : Host P} (h : w.Sound process)
    {j k : Pair} (hne : j ≠ k) :
    ((F.host process link).add k w).2.Holds process own j ↔ w.Holds process own j := by
  rw [FrontEnd.host, F.add_state]
  exact host_holds_add_of_ne h hne _

private theorem holds_provider_remove {link : Pair → Link} {w : Host P} (h : w.Sound process)
    {j k : Pair} (hne : j ≠ k) :
    ((F.host process link).remove k w).2.Holds process own j ↔ w.Holds process own j := by
  rw [FrontEnd.host, F.remove_state]
  exact host_holds_remove_of_ne h hne

private theorem enter_refused {c : F.Call} (h : F.onTable c = none) (s : F.Client × Host P) :
    (session P process F).step s (.part (.enter c)) = (s, none) := by
  simp only [session, FrontEnd.parts, h]

private theorem enter_table {c : F.Call} {call : TableCall F.Listener}
    (h : F.onTable c = some call) (s : F.Client × Host P) :
    (session P process F).step s (.part (.enter c)) =
      (((F.sharing.enter call s.1).1, s.2), (F.sharing.enter call s.1).2) := by
  simp only [session, FrontEnd.parts, h]
  rfl

private theorem part_cases (s : F.Client × Host P) (step : FrontEndStep F (Pair → Link))
    {k : Pair} (hk : k ∈ F.pairs ((session P process F).next s (.part step)).1.table)
    (hnew : F.sharing.AddsNew s.1) (h : s.2.Sound process) :
    (k ∈ F.pairs s.1.table ∧
      (((session P process F).next s (.part step)).2.Holds process own k ↔
        s.2.Holds process own k)) ∨
    (k ∉ F.pairs s.1.table ∧ ∃ e, FrontEnd.Subscribes s.1 e step ∧ F.sharing.key e = k ∧
      (session P process F).out s (.part step) = some F.sharing.success) := by
  cases step with
  | enter c =>
    cases hc : F.onTable c with
    | none =>
      have hsame : (session P process F).next s (.part (.enter c)) = s :=
        congrArg Prod.fst (enter_refused hc s)
      rw [hsame] at hk ⊢
      exact Or.inl ⟨hk, Iff.rfl⟩
    | some call =>
      have henter : (session P process F).next s (.part (.enter c)) =
          ((F.sharing.enter call s.1).1, s.2) := congrArg Prod.fst (enter_table hc s)
      rw [henter] at hk ⊢
      exact Or.inl ⟨FrontEnd.mem_pairs.mpr (F.sharing.key_of_enter (FrontEnd.mem_pairs.mp hk)),
        Iff.rfl⟩
  | request link =>
    let p : Provider (Host P) Pair F.Code := F.host process link
    have hstep : (session P process F).step s (.part (.request link)) = F.sharing.request p s := rfl
    rw [Mealy.next, hstep] at hk ⊢
    rw [Mealy.out, hstep]
    by_cases hadding : ∃ e, s.1.phase = .adding e
    · obtain ⟨e, he⟩ := hadding
      have hrequest := F.sharing.request_adding p he
      dsimp only at hrequest
      have hother : k ∈ F.pairs s.1.table → k ≠ F.sharing.key e := by
        rintro hold rfl
        obtain ⟨d, hd, hkey⟩ := FrontEnd.mem_pairs.mp hold
        exact hnew e he d hd hkey
      split at hrequest <;> rw [hrequest] at hk ⊢
      · by_cases hold : k ∈ F.pairs s.1.table
        · exact Or.inl ⟨hold, holds_provider_add h (hother hold)⟩
        · refine Or.inr ⟨hold, e, he, ?_, rfl⟩
          rw [FrontEnd.pairs, List.map_append, List.mem_append] at hk
          exact (List.mem_singleton.mp (hk.resolve_left hold)).symm
      · exact Or.inl ⟨hk, holds_provider_add h (hother hk)⟩
    · obtain ⟨htable, hremote⟩ := F.sharing.request_other p fun e he => hadding ⟨e, he⟩
      rw [htable] at hk
      refine Or.inl ⟨hk, ?_⟩
      rcases hremote with hsame | ⟨j, hfree, hremoved⟩
      · rw [hsame]
      · rw [hremoved]
        apply holds_provider_remove h
        rintro rfl
        obtain ⟨d, hd, hkey⟩ := FrontEnd.mem_pairs.mp hk
        exact hfree d hd hkey

/-- What holds in every session. -/
private structure Steady (process : Process) (own : Bool)
    (s : (F.Client × Host P) × List Pair) : Prop where
  addsNew : F.sharing.AddsNew s.1.1
  sound : s.1.2.Sound process
  lost : LostUnheld process own s

private theorem table_of_other (hpart : ∀ step, event ≠ .part step) (s : F.Client × Host P) :
    ((session P process F).next s event).1 = s.1 := by
  cases event with
  | part step => exact absurd rfl (hpart step)
  | _ => rfl

private theorem Steady.addsNew_next (h : Steady process own s) (event : SessionEvent P process F) :
    F.sharing.AddsNew ((session P process F).next s.1 event).1 := by
  cases event with
  | part step =>
    cases step with
    | enter c =>
      cases hc : F.onTable c with
      | none =>
        rw [show (session P process F).next s.1 (.part (.enter c)) = s.1 from
          congrArg Prod.fst (enter_refused hc s.1)]
        exact h.addsNew
      | some call =>
        rw [show (session P process F).next s.1 (.part (.enter c)) = _ from
          congrArg Prod.fst (enter_table hc s.1)]
        exact h.addsNew.enter call
    | request link => exact Sharing.AddsNew.request (F.host process link) s.1
  | _ => exact h.addsNew

private theorem Steady.sound_next (h : Steady process own s) (event : SessionEvent P process F) :
    ((session P process F).next s.1 event).2.Sound process := by
  cases event with
  | part step =>
    cases step with
    | enter c =>
      have hsame : ((session P process F).next s.1 (.part (.enter c))).2 = s.1.2 := by
        cases hc : F.onTable c with
        | none => exact congrArg (fun t => t.1.2) (enter_refused hc s.1)
        | some call => exact congrArg (fun t => t.1.2) (enter_table hc s.1)
      rw [hsame]
      exact h.sound
    | request link =>
      refine Sharing.request_invariant (T := F.sharing) (p := F.host process link)
        (I := Host.Sound process) (fun k => ?_) (fun k => ?_) h.sound
      · rw [FrontEnd.host, F.add_state]
        exact h.sound.request .frontEnd (link k) _
      · rw [FrontEnd.host, F.remove_state]
        exact h.sound.request .frontEnd (link k) _
  | neighbour link request => exact h.sound.request .neighbour link request
  | died => exact h.sound.died
  | restarted => exact h.sound.restarted
  | onRemoteDied remote => exact h.sound.onRemoteDied remote
  | serves env op => exact h.sound.serves env op

private theorem Steady.next (h : Steady process own s) (event : SessionEvent P process F) :
    Steady process own ((trackedSession P process F own).next s event) := by
  refine ⟨h.addsNew_next event, h.sound_next event, ?_⟩
  intro k hk
  obtain ⟨hpair, hlost⟩ := mem_lost.mp hk
  refine ⟨hpair, ?_⟩
  rw [trackedSession_next]
  by_cases hpart : ∃ step, event = .part step
  · obtain ⟨step, rfl⟩ := hpart
    obtain ⟨hbefore, hunheld⟩ := h.lost k (hlost.resolve_left Bool.false_ne_true).1
    rcases part_cases s.1 step hpair h.addsNew h.sound with ⟨-, hsame⟩ | ⟨hfirst, -⟩
    · exact fun hholds => hunheld (hsame.mp hholds)
    · exact absurd hbefore hfirst
  · rw [holds_of_other h.sound (fun step he => hpart ⟨step, he⟩) k]
    rintro ⟨hkept, hafter⟩
    rcases hlost with htakes | ⟨hold, hnot⟩
    · rw [htakes] at hkept
      cases hkept
    · rcases hafter with hholds | ⟨hother, hgives⟩
      · exact (h.lost k hold).2 hholds
      · rw [hother, hgives] at hnot
        exact hnot.elim Bool.false_ne_true Bool.true_eq_false.mp

private theorem othersHeld_next (h : Steady process own s) (hheld : OthersHeld process own s)
    (hgood : Subscribed F own s.1 event) :
    OthersHeld process own ((trackedSession P process F own).next s event) := by
  intro k hpair hk
  rw [mem_lost, not_and] at hk
  rw [trackedSession_next] at hpair ⊢
  obtain ⟨hkept, hlost⟩ := not_or.mp (hk hpair)
  by_cases hpart : ∃ step, event = .part step
  · obtain ⟨step, rfl⟩ := hpart
    have hold : k ∉ s.2 := fun hmem => hlost ⟨hmem, Or.inr rfl⟩
    rcases part_cases s.1 step hpair h.addsNew h.sound with
      ⟨hbefore, hsame⟩ | ⟨-, e, he, rfl, hout⟩
    · exact hsame.mpr (hheld k hbefore hold)
    · exact hgood e he hout
  · have hpart : ∀ step, event ≠ .part step := fun step he => hpart ⟨step, he⟩
    rw [table_of_other hpart] at hpair
    refine (holds_of_other h.sound hpart k).mpr ⟨Bool.eq_false_of_not_eq_true hkept, ?_⟩
    by_cases hold : k ∈ s.2
    · have hgives := not_or.mp fun hor => hlost ⟨hold, hor⟩
      exact Or.inr ⟨Bool.eq_false_of_not_eq_true hgives.1, Bool.eq_true_of_not_eq_false hgives.2⟩
    · exact Or.inl (hheld k hpair hold)

private theorem subscribed_iff (event : SessionEvent P process F) (h : Steady process own s)
    (hheld : OthersHeld process own s) :
    Subscribed F own s.1 event ↔ KeepsRegistration F own s event := by
  cases event with
  | part step =>
    cases step with
    | enter c =>
      change (∀ e, (∃ same, F.onTable c = some (.subscribe same e)) → _) ↔ _
      constructor
      · intro hgood same e hc hidle hpair hany
        have henter := @enter_table P process F c _ hc s.1
        have hsub := hgood e ⟨same, hc⟩
        rw [Mealy.next, Mealy.out, henter] at hsub
        have hholds : s.1.2.Holds process own (F.sharing.key e) := by
          refine hsub ?_
          rcases F.sharing.enter_subscribe same e hidle with
            ⟨⟨d, hd, hsame⟩, hout⟩ | ⟨-, hout⟩ | ⟨hfree, -⟩
          · rcases hany with halready | hall
            · rw [hout, halready]
            · rw [hall d hd] at hsame
              cases hsame
          · exact hout
          · obtain ⟨d, hd, hkey⟩ := FrontEnd.mem_pairs.mp hpair
            exact absurd hkey (hfree d hd)
        exact fun hlost => (h.lost _ hlost).2 hholds
      · rintro hkeeps e ⟨same, hc⟩ hout
        have henter := @enter_table P process F c _ hc s.1
        rw [Mealy.out, henter] at hout
        rw [Mealy.next, henter]
        have hidle : s.1.1.phase = .idle := by
          cases hphase : s.1.1.phase with
          | idle => rfl
          | _ =>
            simp only [Sharing.enter, hphase, reduceCtorEq] at hout
        rcases F.sharing.enter_subscribe same e hidle with
          ⟨⟨d, hd, hsame⟩, hcode⟩ | ⟨⟨hall, d, hd, hkey⟩, -⟩ | ⟨-, hcode⟩
        · have hpair := FrontEnd.mem_pairs.mpr ⟨d, hd, F.same_key c same e d hc hsame⟩
          have halready : F.sharing.already = F.sharing.success :=
            Option.some.inj (hcode.symm.trans hout)
          exact hheld _ hpair (hkeeps same e hc hidle hpair (Or.inl halready))
        · have hpair := FrontEnd.mem_pairs.mpr ⟨d, hd, hkey⟩
          exact hheld _ hpair (hkeeps same e hc hidle hpair (Or.inr hall))
        · rw [hcode] at hout
          cases hout
    | request link =>
      refine forall_congr' fun e => forall_congr' fun he => ?_
      let p : Provider (Host P) Pair F.Code := F.host process link
      have hstep : (session P process F).step s.1 (.part (.request link)) =
        F.sharing.request p s.1 := rfl
      have hrequest := F.sharing.request_adding p he
      have hsuccess := F.add_success (hostManager P process link) (F.sharing.key e) s.1.2
      rw [host_add_success_iff] at hsuccess
      dsimp only at hrequest
      rw [Mealy.next, Mealy.out, hstep, hrequest]
      by_cases hadd : (p.add (F.sharing.key e) s.1.2).1 = F.sharing.success
      · obtain ⟨hreach, hchecked⟩ := hsuccess.mp hadd
        simp only [if_pos hadd, hreach, hchecked, true_imp_iff]
        rw [show (p.add (F.sharing.key e) s.1.2).2 = _ from F.add_state _ _ _]
        exact host_holds_add_iff _ h.sound hreach hchecked
      · rw [if_neg hadd]
        refine iff_of_true (fun hcode => absurd (Option.some.inj hcode) hadd) ?_
        intro k hreach hchecked
        exact absurd (hsuccess.mpr ⟨hreach, hchecked⟩) hadd
  | _ => exact Iff.rfl

end Step

private theorem subscriptions_live_iff (P : Platform) (process : Process) (F : FrontEnd)
    (own : Bool) (events : List (SessionEvent P process F)) :
    (trackedSession P process F own).Along (fun s => Subscribed F own s.1)
        (FrontEnd.sessionStart P F) events ↔
      (trackedSession P process F own).Along (KeepsRegistration F own)
        (FrontEnd.sessionStart P F) events := by
  apply (trackedSession P process F own).along_iff_along (J := Steady process own)
    (I := OthersHeld process own)
  · exact fun s event h => h.next event
  · exact fun s event h hheld => subscribed_iff event h hheld
  · exact fun s event h hheld hgood => othersHeld_next h hheld hgood
  · refine ⟨fun e he => ?_, Host.Sound.start, fun k hk => absurd hk List.not_mem_nil⟩
    cases he
  · exact fun k hk => absurd hk List.not_mem_nil

/-- **When a successful `on` is a live subscription.** In every run of each front
end, over any deaths and restarts of the service and whatever others in the process
ask for between two requests, every `on` that returns success leaves a registration
in the incarnation alive at that moment, exactly if no `on` meets a pair that has lost
its registration, and none is dropped by a gate that answers with success. The same
holds of the registrations through which the front end is called, if none meets a
registration that somebody else in the process made. -/
theorem successful_on_subscribed_iff (P : Platform) (process : Process) (N : Ani.NapiUtil)
    (own : Bool) :
    (∀ events : List (SessionEvent P process (napi P)),
      (trackedSession P process (napi P) own).Along (fun s => Subscribed (napi P) own s.1)
          (FrontEnd.sessionStart P (napi P)) events ↔
        (trackedSession P process (napi P) own).Along (KeepsRegistration (napi P) own)
          (FrontEnd.sessionStart P (napi P)) events) ∧
    (∀ events : List (SessionEvent P process (cj P)),
      (trackedSession P process (cj P) own).Along (fun s => Subscribed (cj P) own s.1)
          (FrontEnd.sessionStart P (cj P)) events ↔
        (trackedSession P process (cj P) own).Along (KeepsRegistration (cj P) own)
          (FrontEnd.sessionStart P (cj P)) events) ∧
    (∀ events : List (SessionEvent P process (ani P N)),
      (trackedSession P process (ani P N) own).Along (fun s => Subscribed (ani P N) own s.1)
          (FrontEnd.sessionStart P (ani P N)) events ↔
        (trackedSession P process (ani P N) own).Along (KeepsRegistration (ani P N) own)
          (FrontEnd.sessionStart P (ani P N)) events) :=
  ⟨subscriptions_live_iff P process (napi P) own, subscriptions_live_iff P process (cj P) own,
    subscriptions_live_iff P process (ani P N) own⟩

/-- A second callback for a pair that outlived the service is added with success,
and the new incarnation holds nothing for the process. -/
theorem on_after_restart_unregistered :
    let P := Platform.dualSim
    let events : List (SessionEvent P ⟨"app", 1, 1, 1, ""⟩ (napi P)) :=
      [.part (.enter (fun _ => Nat.beq, .registerEventListener
          ⟨1, .event .callState, 0, 2, 3⟩)), .part (.request fun _ => .native),
        .died, .onRemoteDied (some 0), .restarted,
        .part (.enter (fun _ => Nat.beq, .registerEventListener
          ⟨1, .event .callState, 0, 4, 5⟩))]
    (session P _ (napi P)).outs (FrontEnd.sessionStart P (napi P)).1 events =
        [none, some .telephonySuccess, none, none, none, some .telephonySuccess] ∧
      ((session P _ (napi P)).run (FrontEnd.sessionStart P (napi P)).1 events).2.record
        ⟨"app", 1, 1, 1, ""⟩ ⟨0, .event .callState⟩ = none ∧
      ¬(trackedSession P _ (napi P) false).Along (fun s => Subscribed (napi P) false s.1)
        (FrontEnd.sessionStart P (napi P)) events := by
  refine ⟨rfl, rfl, ?_⟩
  rintro ⟨-, -, -, -, -, h, -⟩
  obtain ⟨record, hrecord, -⟩ := h _ ⟨_, rfl⟩ rfl
  cases hrecord

end TelephonyStateRegistry
