import TelephonyStateRegistry.Client.Network
import TelephonyStateRegistry.Correctness.OwnRecords
import TelephonyStateRegistry.Interpretation.Outcome

/-!
# What the service holds for its processes

The service holds what the front ends of the processes need, and nothing else, in every
state of a run exactly if every registration that is answered with success is made, every
removal that is asked for succeeds, and the service does not die while a process needs
anything. Nothing else that happens in the network matters, whatever the order.
-/

namespace TelephonyStateRegistry

open Reactive

variable {P : Platform}

section Request

variable {process : Process} {link : Pair → Link} {j k : Pair} {w : Remote P}

/-- When a removal of a pair that is held is answered with success. -/
theorem remove_success_iff (hheld : w.Holds process k) :
    ((clientManager P process link).removeStateObserver k w).1 = .telephonySuccess ↔
      w.Reaches (link k) ∧ Checked P (link k).env (k.eventType.toUint32t P) := by
  change (w.request (link k) (.unregister (process.key P k))).1 = _ ↔ _
  rcases w.request_cases (link k) (.unregister (process.key P k)) with
    ⟨i, s, hs, hreach, hcode, -⟩ | ⟨hreach, hcode, -⟩
  · rw [hcode, ClientCode.telephonySuccess, ClientCode.service.injEq, and_iff_right hreach]
    have hsome : (s.registered (process.key P k)).isSome = true :=
      Option.isSome_iff_ne_none.mpr ((Remote.holds_iff hs).mp hheld)
    change (unregisterStateChange (link k).env (process.key P k) s).2.result = _ ↔ _
    by_cases hc : Checked P (link k).env (process.key P k).mask
    · rw [unregisterStateChange_of_checked hc, hsome]
      exact iff_of_true rfl hc
    · rw [unregisterStateChange_of_not_checked hc]
      exact iff_of_false (checkCode_ne (link k).env _).1 hc
  · exact iff_of_false hcode fun h => hreach h.1

/-- A registration that is not answered with success changes nothing. -/
theorem holds_add_of_failed (isUpdate : Bool)
    (h : ((clientManager P process link).addStateObserver k isUpdate w).1 ≠ .telephonySuccess) :
    ((clientManager P process link).addStateObserver k isUpdate w).2.Holds process k ↔
      w.Holds process k := by
  let r := process.registration P (link k).observer k isUpdate
  rcases w.request_cases (link k) (.register r) with
    ⟨i, s, hs, -, hcode, hservice⟩ | ⟨-, -, hservice⟩
  · have hresult : (registerStateChange (link k).env r s).2.result ≠ .telephonySuccess :=
      fun hsuccess => h (hcode.trans (congrArg ClientCode.service hsuccess))
    have hnot : ¬r.admitted P (link k).env := fun hadmitted =>
      hresult ((registerStateChange_success_iff (link k).env r s).mpr hadmitted.1)
    refine (Remote.holds_iff hservice).trans ?_
    change (registerStateChange (link k).env r s).1.registered _ ≠ none ↔ _
    rw [registered_register, if_neg fun hadmitted => hnot hadmitted.1]
    exact (Remote.holds_iff hs).symm
  · exact Remote.holds_congr hservice

/-- Nor does a removal. -/
theorem holds_remove_of_failed
    (h : ((clientManager P process link).removeStateObserver k w).1 ≠ .telephonySuccess) :
    ((clientManager P process link).removeStateObserver k w).2.Holds process k ↔
      w.Holds process k := by
  rcases w.request_cases (link k) (.unregister (process.key P k)) with
    ⟨i, s, hs, -, hcode, hservice⟩ | ⟨-, -, hservice⟩
  · refine (Remote.holds_iff hservice).trans ?_
    change (unregisterStateChange (link k).env (process.key P k) s).1.registered _ ≠ none ↔ _
    rw [registered_unregister_of_ne fun _ hsuccess =>
      h (hcode.trans (congrArg ClientCode.service hsuccess))]
    exact (Remote.holds_iff hs).symm
  · exact Remote.holds_congr hservice

/-- A removal that is answered with success takes the registration away. -/
theorem not_holds_of_removed (hown : w.KeepsOwn process)
    (h : ((clientManager P process link).removeStateObserver k w).1 = .telephonySuccess) :
    ¬((clientManager P process link).removeStateObserver k w).2.Holds process k := by
  rcases w.request_cases (link k) (.unregister (process.key P k)) with
    ⟨i, s, hs, -, hcode, hservice⟩ | ⟨-, hfailed, -⟩
  · have hresult : (unregisterStateChange (link k).env (process.key P k) s).2.result =
        .telephonySuccess := ClientCode.service.inj (hcode.symm.trans h)
    have hc : Checked P (link k).env (process.key P k).mask := by
      by_contra hc
      rw [unregisterStateChange_of_not_checked hc] at hresult
      exact (checkCode_ne (link k).env _).1 hresult
    have hafter : ((clientManager P process link).removeStateObserver k w).2.Holds process k ↔
        (unregisterStateChange (link k).env (process.key P k) s).1.registered
          (process.key P k) ≠ none := Remote.holds_iff hservice
    rw [hafter, (hown i s hs).wellKeyed.registered_unregister, if_pos ⟨hc, rfl⟩, not_not]
  · exact absurd h hfailed

end Request

private theorem holding (F : FrontEnd) {process : Process} {w : Remote P}
    (hown : w.KeepsOwn process) (link : Pair → Link) :
    F.sharing.Holding (F.provider (clientManager P process link)) (fun k w => w.Holds process k)
      w where
  add_other hne := by
    rw [F.add_state]
    exact holds_add_of_ne hne _ w
  add_failed k h := by
    rw [F.add_state]
    exact holds_add_of_failed _ fun hsuccess => h ((F.add_success _ k w).mpr hsuccess)
  remove_other hne := by
    rw [F.remove_state]
    exact holds_remove_of_ne hne w
  remove_failed k h := by
    rw [F.remove_state]
    exact holds_remove_of_failed fun hsuccess => h ((F.remove_success _ k w).mpr hsuccess)
  removed k h := by
    rw [F.remove_state]
    exact not_holds_of_removed hown ((F.remove_success _ k w).mp h)

private theorem request_service (F : FrontEnd) {process : Process} {link : Pair → Link}
    {s : Reactive.Client F.Listener Pair F.Code × Remote P} :
    let w := (F.sharing.request (F.provider (clientManager P process link)) s).1.2
    w.service = s.2.service ∨ ∃ env, ∃ op : Op P, op.Own process ∧
      w.service = s.2.service.map fun (n, t) => (n, (op.run env t).1) := by
  have hrequest (link : Link) {op : Op P} (hop : op.Own process) :
      (s.2.request link op).2.service = s.2.service ∨ ∃ env, ∃ op' : Op P, op'.Own process ∧
        (s.2.request link op).2.service =
          s.2.service.map fun (n, t) => (n, (op'.run env t).1) := by
    rcases s.2.request_cases link op with ⟨i, t, ht, -, -, hservice⟩ | ⟨-, -, hservice⟩
    · refine Or.inr ⟨link.env, op, hop, ?_⟩
      rw [hservice, ht]
      rfl
    · exact Or.inl hservice
  refine Sharing.request_invariant (I := fun w : Remote P => w.service = s.2.service ∨
    ∃ env, ∃ op : Op P, op.Own process ∧
      w.service = s.2.service.map fun (n, t) => (n, (op.run env t).1)) (fun k => ?_) (fun k => ?_)
        (Or.inl rfl)
  · rw [F.add_state]
    exact hrequest (link k) (Or.inl ⟨_, _, _, rfl⟩)
  · rw [F.remove_state]
    exact hrequest (link k) (Or.inr ⟨_, rfl⟩)

section Network

variable {ι : Type} {A : Parties ι}

/-- What the service holds of the processes is what their front ends need. -/
def Network.Exact (s : Network P A) : Prop :=
  ∀ i, (A.frontEnd i).sharing.Exact (fun k w => w.Holds (A.process i) k) (s.client i, s.remote i)

/-- What a step must meet. A registration that passes its checks must pass the gates that
answer with success, and a removal must reach the service and pass its checks; and the
service may die only while nobody needs anything. -/
def Network.Granted (s : Network P A) : NetworkStep P A → Prop
  | .request i link => match (s.client i).phase with
    | .adding e =>
      let k := (A.frontEnd i).sharing.key e
      (s.remote i).Reaches (link k) → Checked P (link k).env (k.eventType.toUint32t P) →
        silentGates P (link k).env k.slotId = true
    | .withdrawing (k :: _) _ => (∀ e ∈ (s.client i).table, (A.frontEnd i).sharing.key e ≠ k) →
      (s.remote i).Reaches (link k) ∧ Checked P (link k).env (k.eventType.toUint32t P)
    | _ => True
  | .died => ∀ i k, ¬(A.frontEnd i).sharing.Needs (s.client i) k
  | _ => True

/-- What every step keeps. -/
structure Network.Kept (s : Network P A) : Prop where
  once : ∀ i, Sharing.WithdrawsOnce (s.client i)
  new : ∀ i, (A.frontEnd i).sharing.AddsNew (s.client i)
  own : ∀ i, (s.remote i).KeepsOwn (A.process i)

theorem Network.Kept.start : (Network.start P A).Kept where
  once _ _ _ hphase := by cases hphase
  new _ _ hphase := by cases hphase
  own _ := Remote.KeepsOwn.start

/-- Before the first call nothing is needed. -/
theorem Network.Exact.start : (Network.start P A).Exact := by
  intro i k
  refine iff_of_false ?_ ?_
  · rintro ⟨n, t, ht, hr⟩
    cases ht
    exact hr rfl
  · rintro (⟨e, he, -⟩ | ⟨ks, result, hphase, -⟩)
    · exact absurd he List.not_mem_nil
    · cases hphase

private theorem Parties.foreign (A : Parties ι) {i j : ι} (hne : i ≠ j) {op : Op P}
    (hop : op.Own (A.process j)) : op.foreign (A.process i) = true := by
  have hapart : ((A.process j).tokenId == (A.process i).tokenId &&
      (A.process j).pid == (A.process i).pid) = false := by
    by_contra hsame
    rw [Bool.not_eq_false, Bool.and_eq_true, beq_iff_eq, beq_iff_eq] at hsame
    exact A.apart hne hsame
  rcases hop with ⟨observer, k, isUpdate, rfl⟩ | ⟨k, rfl⟩
  · exact congrArg not hapart
  · exact congrArg not hapart

variable [DecidableEq ι] {s : Network P A}

private theorem remote_of_ne {i j : ι} (hne : i ≠ j) (link : Pair → Link) :
    let after := ((network P A).next s (.request j link)).remote i
    after.service = (s.remote i).service ∨ ∃ env, ∃ op : ForeignOp P (A.process i),
      after.service = ((s.remote i).serves env op.val).service := by
  rcases request_service (A.frontEnd j)
    (s := (s.client j, s.remote j)) with hsame | ⟨env, op, hop, hservice⟩
  · exact Or.inl hsame
  · exact Or.inr ⟨env, ⟨op, A.foreign hne hop⟩, hservice⟩

private theorem keepsOwn_congr {process : Process} {w w' : Remote P} (h : w'.service = w.service)
    (hown : w.KeepsOwn process) : w'.KeepsOwn process :=
  fun n t ht => hown n t (h ▸ ht)

private theorem Network.Kept.next (h : s.Kept) (step : NetworkStep P A) :
    ((network P A).next s step).Kept := by
  cases step with
  | enter i c =>
    cases hc : (A.frontEnd i).onTable c with
    | none =>
      simp only [Mealy.next, network, hc]
      exact h
    | some call =>
      simp only [Mealy.next, network, hc]
      refine ⟨fun j => ?_, fun j => ?_, h.own⟩
      · by_cases hj : j = i
        · subst hj
          simp only [Function.update_self]
          exact (h.once j).enter _ call
        · simp only [Function.update_of_ne hj]
          exact h.once j
      · by_cases hj : j = i
        · subst hj
          simp only [Function.update_self]
          exact (h.new j).enter call
        · simp only [Function.update_of_ne hj]
          exact h.new j
  | request i link =>
    refine ⟨fun j => ?_, fun j => ?_, fun j => ?_⟩
    · simp only [Mealy.next, network]
      by_cases hj : j = i
      · subst hj
        simp only [Function.update_self]
        exact Sharing.WithdrawsOnce.request _ (s := (s.client j, s.remote j)) (h.once j) _
      · simp only [Function.update_of_ne hj]
        exact h.once j
    · simp only [Mealy.next, network]
      by_cases hj : j = i
      · subst hj
        simp only [Function.update_self]
        exact Sharing.AddsNew.request _ _
      · simp only [Function.update_of_ne hj]
        exact h.new j
    · by_cases hj : j = i
      · subst hj
        rcases request_service (A.frontEnd j) (s := (s.client j, s.remote j)) with
          hsame | ⟨env, op, hop, hservice⟩
        · exact keepsOwn_congr hsame (h.own j)
        · intro n t ht
          have ht' := hservice.symm.trans ht
          obtain ⟨⟨m, t'⟩, hs, heq⟩ := Option.map_eq_some_iff.mp ht'
          cases heq
          exact (h.own j _ t' hs).next env (Or.inr hop)
      · rcases remote_of_ne (s := s) hj link with hsame | ⟨env, op, hservice⟩
        · exact keepsOwn_congr hsame (h.own j)
        · exact keepsOwn_congr hservice ((h.own j).serves env op)
  | died =>
    refine ⟨h.once, h.new, fun i n t ht => ?_⟩
    cases ht
  | restarted =>
    simp only [Mealy.next, network]
    split
    · exact h
    · refine ⟨h.once, h.new, fun i n t ht => ?_⟩
      cases ht
      exact Remote.KeepsOwn.start 0 _ rfl
  | onRemoteDied i remote =>
    exact ⟨h.once, h.new, fun j => keepsOwn_congr (w := s.remote j) rfl (h.own j)⟩
  | serves env op =>
    refine ⟨h.once, h.new, fun i => ?_⟩
    exact keepsOwn_congr rfl ((h.own i).serves env ⟨op.val, op.property i⟩)

omit [DecidableEq ι] in
private theorem exact_of_same (h : s.Exact) {s' : Network P A}
    (hneeds : ∀ i k, (A.frontEnd i).sharing.Needs (s'.client i) k ↔
      (A.frontEnd i).sharing.Needs (s.client i) k)
    (hholds : ∀ i k, (s'.remote i).Holds (A.process i) k ↔ (s.remote i).Holds (A.process i) k) :
    s'.Exact :=
  fun i k => (hholds i k).trans ((h i k).trans (hneeds i k).symm)

omit [DecidableEq ι] in
private theorem granted_iff (h : s.Kept) (hexact : s.Exact) (i : ι) (link : Pair → Link) :
    (A.frontEnd i).sharing.Granted
        ((A.frontEnd i).provider (clientManager P (A.process i) link))
        (fun k w => w.Holds (A.process i) k) (s.client i, s.remote i) ↔
      s.Granted (.request i link) := by
  have hpart (k : Pair) : (s.remote i).Holds (A.process i) k ↔
      (A.frontEnd i).sharing.Needs (s.client i) k := hexact i k
  have hnew := h.new i
  have honce := h.once i
  simp only [Sharing.Granted, Network.Granted]
  cases hphase : (s.client i).phase with
  | idle => exact Iff.rfl
  | adding e =>
    have hfree : ¬(s.remote i).Holds (A.process i) ((A.frontEnd i).sharing.key e) := by
      rw [hpart]
      rintro (⟨d, hd, hkey⟩ | ⟨ks, result, hks, -⟩)
      · exact hnew e hphase d hd hkey
      · rw [hphase] at hks
        cases hks
    dsimp only
    rw [(A.frontEnd i).add_success, (A.frontEnd i).add_state, add_success_iff, and_imp]
    refine forall₂_congr fun hreach hchecked => ?_
    rw [holds_add_iff _ _ hreach hchecked]
    exact or_iff_left hfree
  | withdrawing ks result =>
    cases ks with
    | nil => exact Iff.rfl
    | cons k ks =>
      have hheld : (s.remote i).Holds (A.process i) k :=
        (hpart k).mpr (Or.inr ⟨k :: ks, result, hphase, List.mem_cons_self⟩)
      dsimp only
      rw [(A.frontEnd i).remove_success, remove_success_iff hheld]

private theorem Network.exact_next_iff (h : s.Kept) (hexact : s.Exact)
    (step : NetworkStep P A) : ((network P A).next s step).Exact ↔ s.Granted step := by
  cases step with
  | enter i c =>
    refine iff_of_true ?_ trivial
    cases hc : (A.frontEnd i).onTable c with
    | none =>
      simp only [Mealy.next, network, hc]
      exact hexact
    | some call =>
      simp only [Mealy.next, network, hc]
      refine exact_of_same hexact (fun j k => ?_) fun j k => Iff.rfl
      dsimp only
      by_cases hj : j = i
      · subst hj
        rw [Function.update_self]
        exact (A.frontEnd j).sharing.needs_enter_iff call (s.client j) k
      · rw [Function.update_of_ne hj]
  | request i link =>
    have hrequest := (A.frontEnd i).sharing.exact_request_iff
      (holding (A.frontEnd i) (h.own i) link) (h.once i) (hexact i)
    have hpart : (A.frontEnd i).sharing.Exact (fun k w => w.Holds (A.process i) k)
        (((network P A).next s (.request i link)).client i,
          ((network P A).next s (.request i link)).remote i) ↔ s.Granted (.request i link) := by
      rw [← granted_iff h hexact i link, ← hrequest]
      simp only [Mealy.next, network, Function.update_self, Network.remote]
    refine ⟨fun hafter => hpart.mp (hafter i), fun hgranted j => ?_⟩
    by_cases hj : j = i
    · subst hj
      exact hpart.mpr hgranted
    · intro k
      have hholds : (((network P A).next s (.request i link)).remote j).Holds (A.process j) k ↔
          (s.remote j).Holds (A.process j) k := by
        rcases remote_of_ne (s := s) hj link with hsame | ⟨env, op, hservice⟩
        · exact Remote.holds_congr hsame
        · exact (Remote.holds_congr hservice).trans (Remote.holds_serves (h.own j) env op)
      have hclient : ((network P A).next s (.request i link)).client j = s.client j := by
        simp only [Mealy.next, network, Function.update_of_ne hj]
      refine hholds.trans ?_
      dsimp only
      rw [hclient]
      exact hexact j k
  | died =>
    refine forall₂_congr fun i k => ?_
    have hnone : ¬(((network P A).next s .died).remote i).Holds (A.process i) k := by
      rintro ⟨n, t, ht, -⟩
      cases ht
    exact iff_false_left hnone
  | restarted =>
    refine iff_of_true (exact_of_same hexact (fun j k => ?_) fun j k => ?_) trivial
    · simp only [Mealy.next, network]
      split <;> exact Iff.rfl
    · have hservice : (((network P A).next s .restarted).remote j).service =
          (s.remote j).restarted.service := by
        unfold Remote.restarted
        simp only [Mealy.next, network, Network.remote]
        cases hs : s.service with
        | none => rfl
        | some t => exact hs
      exact (Remote.holds_congr hservice).trans (Remote.holds_restarted (s.remote j))
  | onRemoteDied i remote =>
    exact iff_of_true (exact_of_same hexact (fun j k => Iff.rfl)
      fun j k => Remote.holds_congr (w := s.remote j) rfl) trivial
  | serves env op =>
    refine iff_of_true (exact_of_same hexact (fun j k => Iff.rfl) fun j k => ?_) trivial
    exact (Remote.holds_congr rfl).trans
      (Remote.holds_serves (h.own j) env ⟨op.val, op.property j⟩)

/-- A run whose steps are granted leaves the service with what is needed. -/
theorem Network.exact_run {steps : List (NetworkStep P A)}
    (h : (network P A).Along Network.Granted (Network.start P A) steps) :
    ((network P A).run (Network.start P A) steps).Kept ∧
      ((network P A).run (Network.start P A) steps).Exact :=
  (network P A).invariant_along (I := fun s => s.Kept ∧ s.Exact)
    (fun _ step hgranted hs =>
      ⟨hs.1.next step, (Network.exact_next_iff hs.1 hs.2 step).mpr hgranted⟩)
    ⟨Network.Kept.start, Network.Exact.start⟩ h

/-- **The registry is the union of what is needed.** In every run of the processes over the
service, whatever the order of their requests, the service holds in every state exactly the
pairs that the front ends of the processes need, if and only if every step of the run is
granted. -/
theorem registry_is_needed_iff (P : Platform) (A : Parties ι) (steps : List (NetworkStep P A)) :
    (∀ before, before <+: steps → ((network P A).run (Network.start P A) before).Exact) ↔
      (network P A).Along Network.Granted (Network.start P A) steps :=
  (network P A).prefixes_iff_along (J := Network.Kept) (fun _ step h => h.next step)
    (fun _ step h hexact => Network.exact_next_iff h hexact step) Network.Kept.start
    Network.Exact.start steps

end Network

end TelephonyStateRegistry
