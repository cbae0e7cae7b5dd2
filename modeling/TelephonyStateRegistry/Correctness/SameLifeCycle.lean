import TelephonyStateRegistry.Client.LifeCycle
import TelephonyStateRegistry.Core.Correspondence

/-!
# Subscriptions in the JS and the Cangjie front end

Call by call, both front ends make the same requests and keep listeners for the
same functions. What they report differs only for an `off` of which a request
fails: `Off` of the Cangjie front end drops that code.
-/

namespace TelephonyStateRegistry

open Reactive

variable {P : Platform} {B : Functions} {env : Pointer}

/-- The two handlers after the same calls. -/
private structure SameObservers (B : Functions) (env : Pointer)
    (s : Napi.EventListenerHandler × List StateRequest)
    (t : Cj.ObserverEventHandler × List StateRequest) : Prop where
  listeners : List.Forall₂ (B.Corresponds env) s.1.listenerList t.1.listenerList
  requests : s.2 = t.2

private theorem sameRules : (Napi.sharing P).SameRules (Cj.sharing P) := ⟨rfl, rfl, rfl, rfl⟩

private theorem Functions.Corresponds.key {l : Napi.EventListener} {l' : Cj.EventListener}
    (h : B.Corresponds env l l') : (Napi.sharing P).key l = (Cj.sharing P).key l' :=
  congrArg₂ Pair.mk h.slotId h.eventType

private theorem sameListener_eq {l c : Napi.EventListener} {l' c' : Cj.EventListener}
    (hl : B.Corresponds env l l') (hc : B.Corresponds env c c') :
    Napi.sameListener B.isCallBackRegister l c = Cj.sameListener l' c' := by
  have hfunc : B.function l.callbackRef = B.function c.callbackRef ↔ l'.funcId = c'.funcId := by
    rw [← hl.funcId, ← hc.funcId]
    exact B.funcId_injective.eq_iff.symm
  rw [Bool.eq_iff_iff]
  simp only [Napi.sameListener, Cj.sameListener, Functions.isCallBackRegister, hl.env, hc.env,
    hl.slotId, hc.slotId, hl.eventType, hc.eventType, hfunc, Bool.and_eq_true, decide_eq_true_eq,
    true_and]

private theorem matchesCallback_eq {c : Napi.EventListener} {c' : Cj.EventListener}
    (hc : B.Corresponds env c c') (eventType : TelephonyUpdateEventType) (ref : Pointer) :
    Napi.matchesCallback B.isCallBackRegister env eventType ref c =
      Cj.matchesFunc eventType (B.funcId (B.function ref)) c' := by
  have hfunc : B.function ref = B.function c.callbackRef ↔
      c'.funcId = B.funcId (B.function ref) := by
    rw [← hc.funcId, B.funcId_injective.eq_iff]
    exact eq_comm
  have hnotAll : B.funcId (B.function ref) ≠ -1 := B.funcId_ne _
  rw [Bool.eq_iff_iff]
  simp only [Napi.matchesCallback, Cj.matchesFunc, Functions.isCallBackRegister, hc.env,
    hc.eventType, hfunc, hnotAll, Bool.and_eq_true, Bool.or_eq_true, decide_eq_true_eq, true_and,
    or_false]

private theorem matchesEvent_eq {c : Napi.EventListener} {c' : Cj.EventListener}
    (hc : B.Corresponds env c c') (eventType : TelephonyUpdateEventType) :
    Napi.matchesEvent env eventType c = Cj.matchesFunc eventType Cj.allFuncs c' := by
  rw [Bool.eq_iff_iff]
  simp only [Napi.matchesEvent, Cj.matchesFunc, Cj.allFuncs, hc.env, hc.eventType,
    Bool.and_eq_true, Bool.or_eq_true, decide_eq_true_eq, true_and, or_true, and_true]

/-- The JS listener that an `on` makes. -/
private abbrev napiListener (env : Pointer) (event : ObserverMask) (slotId : Int)
    (callbackRef isDeleting : Pointer) : Napi.EventListener :=
  ⟨env, .event event, slotId, callbackRef, isDeleting⟩

/-- The Cangjie listener that an `on` makes. -/
private abbrev cjListener (B : Functions) (event : ObserverMask) (slotId : Int)
    (callbackRef isDeleting : Pointer) : Cj.EventListener :=
  ⟨.event event, slotId, B.funcId (B.function callbackRef), isDeleting⟩

/-- A call on the JS table. -/
private def ObserverCall.onNapi (B : Functions) (env : Pointer) :
    ObserverCall → TableCall Napi.EventListener
  | on event slotId callbackRef isDeleting =>
    let l := napiListener env event slotId callbackRef isDeleting
    .subscribe (Napi.sameListener B.isCallBackRegister l) l
  | off event callbackRef =>
    .release (Napi.matchesCallback B.isCallBackRegister env (.event event) callbackRef)
  | offAll event => .release (Napi.matchesEvent env (.event event))

/-- A call on the Cangjie table. -/
private def ObserverCall.onCj (B : Functions) : ObserverCall → TableCall Cj.EventListener
  | on event slotId callbackRef isDeleting =>
    let l := cjListener B event slotId callbackRef isDeleting
    .subscribe (Cj.sameListener l) l
  | off event callbackRef =>
    .release (Cj.matchesFunc (.event event) (B.funcId (B.function callbackRef)))
  | offAll event => .release (Cj.matchesFunc (.event event) Cj.allFuncs)

private theorem onNapi_corresponds (call : ObserverCall) :
    (call.onNapi B env).Corresponds (B.Corresponds env) (call.onCj B) := by
  cases call with
  | on event slotId callbackRef isDeleting =>
    have hnew : B.Corresponds env (napiListener env event slotId callbackRef isDeleting)
        (cjListener B event slotId callbackRef isDeleting) := ⟨rfl, rfl, rfl, rfl⟩
    exact .subscribe (fun _ _ hc => sameListener_eq hnew hc) hnew
  | off event callbackRef => exact .release fun _ _ hc => matchesCallback_eq hc _ _
  | offAll event => exact .release fun _ _ hc => matchesEvent_eq hc _

/-- The manager as both handlers use it: none of the records tells of replays. -/
private abbrev ObserverStep.provider (i : ObserverStep) :
    Provider (List StateRequest) Pair ClientCode :=
  (requestManager i.answer).provider Napi.isUpdate

/-- What a JS call reports of the code of the handler. -/
private def ObserverCall.napiReport : ObserverCall → ClientCode → Report
  | on _ _ _ _, code => .ofCode code
  | _, code => if code = .telephonySuccess then .success else .failure

/-- What a Cangjie call reports of the code of the handler. -/
private def ObserverCall.cjReport : ObserverCall → ClientCode → Report
  | on _ _ _ _, code => .ofCode code
  | _, _ => .success

private theorem napi_off_eq (B : Functions) (env : Pointer) (answer : Pair → ClientCode)
    (event : ObserverMask) (ref : Pointer) (s : Napi.EventListenerHandler × List StateRequest) :
    let M := requestManager answer
    let asyncContext := Napi.ObserverContext.new (.event event) Napi.defaultSimSlotId ref
    let r := if ref = nullptr then Napi.unregisterEventListeners P M env (.event event) s
      else Napi.unregisterEventListener P M B.isCallBackRegister env (.event event) ref s
    (Napi.off P M B.isCallBackRegister env asyncContext s).1 = r.1 ∧
      Napi.offReport (Napi.off P M B.isCallBackRegister env asyncContext s).2 =
        if r.2 = .telephonySuccess then .success else .failure := by
  intro M asyncContext r
  have hoff : Napi.off P M B.isCallBackRegister env asyncContext s =
      Napi.nativeOff P M B.isCallBackRegister env asyncContext s := if_neg nofun
  rw [hoff]
  refine ⟨rfl, ?_⟩
  simp only [Napi.nativeOff, Napi.offReport, decide_eq_true_eq]
  rfl

private theorem napi_step (hcount : 0 < P.simSlotCount) (B : Functions) (env : Pointer)
    (s : Napi.EventListenerHandler × List StateRequest) {i : ObserverStep}
    (hi : i.call.Accepted P) :
    Napi.table ((Napi.observer P B env).next s i) =
        (Napi.sharing P).machine.next (Napi.table s) (i.provider, i.call.onNapi B env) ∧
      (Napi.observer P B env).out s i = i.call.napiReport
        ((Napi.sharing P).machine.out (Napi.table s) (i.provider, i.call.onNapi B env)) := by
  obtain ⟨answer, call⟩ := i
  cases call with
  | on event slotId callbackRef isDeleting =>
    obtain ⟨-, -, hvalid, -⟩ := hi
    have hcard : ¬(P.simSlotCount = 0 ∧ Napi.isCallEvent (.event event) = false) := by omega
    have hvalid : ¬Napi.isValidSlotIdEx P (.event event) slotId = false := by
      rw [hvalid]
      exact Bool.true_eq_false.mp
    let r := Napi.registerEventListener P (requestManager answer) B.isCallBackRegister
      (napiListener env event slotId callbackRef isDeleting) s
    have hon : Napi.on P (requestManager answer) B.isCallBackRegister env isDeleting
        (.new (.event event) slotId callbackRef) s =
          (r.1, { Napi.ObserverContext.new (.event event) slotId callbackRef with
            errorCode := .client r.2, resolved := r.2 = .telephonySuccess }) := by
      rw [Napi.on, if_neg nofun]
      exact (if_neg hcard).trans (if_neg hvalid)
    have hreport : (Napi.observer P B env).out s ⟨answer, .on event slotId callbackRef isDeleting⟩ =
        .ofCode r.2 := by
      simp only [Mealy.out, Napi.observer, hon, Napi.onReport, Report.ofCode, decide_eq_true_eq,
        Napi.ContextCode.client.injEq]
    refine ⟨?_, hreport⟩
    simp only [Mealy.next, Napi.observer, hon]
    rfl
  | off event callbackRef =>
    obtain ⟨-, href⟩ := hi
    obtain ⟨hnext, hreport⟩ := napi_off_eq (P := P) B env answer event callbackRef s
    rw [if_neg href] at hnext hreport
    exact ⟨congrArg Napi.table hnext, hreport⟩
  | offAll event =>
    obtain ⟨hnext, hreport⟩ := napi_off_eq (P := P) B env answer event nullptr s
    rw [if_pos rfl] at hnext hreport
    exact ⟨congrArg Napi.table hnext, hreport⟩

private theorem report_permission (code : ClientCode) :
    (Cj.ErrCode.client code).permission.report = .ofCode code := by
  rw [Cj.ErrCode.permission]
  split_ifs with hdenied
  · rw [Cj.ErrCode.client.inj hdenied]
    rfl
  · rfl

private theorem cj_off_eq (answer : Pair → ClientCode) {event : ObserverMask}
    (hevent : event ∈ Cj.eventMap) (funcId : Int)
    (t : Cj.ObserverEventHandler × List StateRequest) :
    Cj.off P (requestManager answer) event funcId t =
      ((Cj.unregisterEventListener P (requestManager answer) (.event event) funcId t).1,
        .client .telephonySuccess) := by
  have htype : Cj.getEventType event = .event event := if_pos hevent
  rw [Cj.off, htype, if_pos nofun]
  rfl

private theorem cj_step (hcount : 0 < P.simSlotCount) (B : Functions)
    (t : Cj.ObserverEventHandler × List StateRequest) {i : ObserverStep}
    (hi : i.call.Accepted P) :
    Cj.table ((Cj.observer P B).next t i) =
        (Cj.sharing P).machine.next (Cj.table t) (i.provider, i.call.onCj B) ∧
      (Cj.observer P B).out t i = i.call.cjReport
        ((Cj.sharing P).machine.out (Cj.table t) (i.provider, i.call.onCj B)) := by
  obtain ⟨answer, call⟩ := i
  cases call with
  | on event slotId callbackRef isDeleting =>
    obtain ⟨hevent, href, -, hvalid⟩ := hi
    have htype : Cj.getEventType event = .event event := if_pos hevent
    have hvalid : ¬Cj.isValidSlotIdEx P (.event event) slotId = false := by
      rw [hvalid]
      exact Bool.true_eq_false.mp
    let r := Cj.registerEventListener P (requestManager answer)
      (cjListener B event slotId callbackRef isDeleting) t
    have hnative : Cj.nativeOn P (requestManager answer)
        (cjListener B event slotId callbackRef isDeleting) t = (r.1, .client r.2) := by
      rw [Cj.nativeOn, if_neg hcount.ne']
      exact if_neg hvalid
    have hon : Cj.on P (requestManager answer) event slotId (B.funcId (B.function callbackRef))
        callbackRef isDeleting t = (r.1, (Cj.ErrCode.client r.2).permission) := by
      rw [Cj.on, if_neg href, htype]
      dsimp only
      rw [if_pos nofun, hnative]
    have hreport : (Cj.observer P B).out t ⟨answer, .on event slotId callbackRef isDeleting⟩ =
        .ofCode r.2 := by
      simp only [Mealy.out, Cj.observer, hon]
      exact report_permission r.2
    refine ⟨?_, hreport⟩
    simp only [Mealy.next, Cj.observer, hon]
    rfl
  | off event callbackRef =>
    have hoff := cj_off_eq (P := P) answer hi.1 (B.funcId (B.function callbackRef)) t
    simp only [Mealy.next, Mealy.out, Cj.observer, hoff]
    exact ⟨rfl, rfl⟩
  | offAll event =>
    have hoff := cj_off_eq (P := P) answer hi Cj.allFuncs t
    simp only [Mealy.next, Mealy.out, Cj.observer, hoff]
    exact ⟨rfl, rfl⟩

/-- No request of a call that drops listeners fails. -/
private def removalsSucceed (P : Platform) (B : Functions)
    (t : Cj.ObserverEventHandler × List StateRequest) (i : ObserverStep) : Prop :=
  ∀ k, (Cj.sharing P).Orphaned (i.call.drops B) t.1.listenerList k → i.answer k = .telephonySuccess

private theorem SameObservers.step (hcount : 0 < P.simSlotCount)
    (s : Napi.EventListenerHandler × List StateRequest)
    (t : Cj.ObserverEventHandler × List StateRequest) (i : ObserverStep)
    (hi : i.call.Accepted P) (h : SameObservers B env s t) :
    SameObservers B env ((Napi.observer P B env).next s i) ((Cj.observer P B).next t i) ∧
      ((Napi.observer P B env).out s i = (Cj.observer P B).out t i ↔
        removalsSucceed P B t i) := by
  obtain ⟨hlisteners, hrequests, hcode⟩ := Sharing.machine_corresponds (sameRules (P := P))
    (fun _ _ h => h.key) i.provider (onNapi_corresponds i.call) h.listeners t.2
  obtain ⟨hnapi, hnapiReport⟩ := napi_step hcount B env s hi
  obtain ⟨hcj, hcjReport⟩ := cj_step hcount B t hi
  have htable : Napi.table s = (s.1.listenerList, t.2) := by
    rw [← h.requests]
    rfl
  have htable' : Cj.table t = (t.1.listenerList, t.2) := rfl
  rw [htable] at hnapi hnapiReport
  rw [htable'] at hcj hcjReport
  rw [← hnapi, ← hcj] at hlisteners hrequests
  refine ⟨⟨hlisteners, hrequests⟩, ?_⟩
  rw [hnapiReport, hcjReport, hcode]
  have hanswer : ∀ k requests, (i.provider.remove k requests).1 = i.answer k := fun _ _ => rfl
  have hrelease (drop : Cj.EventListener → Bool) :
      (if (Cj.sharing P).machine.out (t.1.listenerList, t.2) (i.provider, .release drop) =
          .telephonySuccess then Report.success else .failure) = .success ↔
        ∀ k, (Cj.sharing P).Orphaned drop t.1.listenerList k → i.answer k = .telephonySuccess := by
    refine Iff.trans ?_ ((Cj.sharing P).release_success_iff (s := (t.1.listenerList, t.2))
      i.provider hanswer)
    split_ifs with hsuccess
    · exact iff_of_true rfl hsuccess
    · exact iff_of_false nofun hsuccess
  obtain ⟨answer, call⟩ := i
  cases call with
  | on event slotId callbackRef isDeleting =>
    exact iff_of_true rfl fun k hk => absurd hk (Cj.sharing P).not_orphaned_of_keeps
  | off event callbackRef => exact hrelease _
  | offAll event => exact hrelease _

/-- **When both front ends handle subscriptions alike.** Over every sequence of calls
that both accept they make the same requests, keep listeners for the same
functions and report the same, exactly if no `off` takes the last listener of a
pair whose removal fails. -/
theorem life_cycles_agree_iff (hcount : 0 < P.simSlotCount) (B : Functions) (env : Pointer)
    {steps : List ObserverStep} (haccepted : ∀ i ∈ steps, i.call.Accepted P) :
    (((Napi.observer P B env).run (Napi.start []) steps).2 =
          ((Cj.observer P B).run (Cj.start []) steps).2 ∧
        List.Forall₂ (B.Corresponds env)
          ((Napi.observer P B env).run (Napi.start []) steps).1.listenerList
          ((Cj.observer P B).run (Cj.start []) steps).1.listenerList ∧
        (Napi.observer P B env).outs (Napi.start []) steps =
          (Cj.observer P B).outs (Cj.start []) steps) ↔
      (Cj.observer P B).Along (fun t i => ∀ k,
        (Cj.sharing P).Orphaned (i.call.drops B) t.1.listenerList k →
          i.answer k = .telephonySuccess) (Cj.start []) steps := by
  have hstart : SameObservers B env (Napi.start []) (Cj.start []) := ⟨.nil, rfl⟩
  obtain ⟨hsame, houts⟩ := (Napi.observer P B env).outs_eq_iff_along
    (F := fun i => i.call.Accepted P) (SameObservers.step hcount) hstart haccepted
  rw [and_iff_right hsame.requests, and_iff_right hsame.listeners, houts]
  rfl

/-- Two functions, known by the first two references. -/
private def twoFunctions : Functions where
  function ref := ref
  funcId f := f
  funcId_injective := Nat.cast_injective
  funcId_ne f h := by
    rw [Cj.allFuncs] at h
    omega

/-- A subscription that is given up without a failure. -/
private def subscribed (answer : Pair → ClientCode) : List ObserverStep :=
  [⟨fun _ => .telephonySuccess, .on .simState 0 1 1⟩,
    ⟨fun _ => .telephonySuccess, .on .simState 0 1 2⟩, ⟨answer, .off .simState 1⟩]

private theorem subscribed_accepted (answer : Pair → ClientCode) :
    ∀ i ∈ subscribed answer, i.call.Accepted Platform.dualSim := by
  intro i hi
  simp only [subscribed, List.mem_cons, List.not_mem_nil, or_false] at hi
  rcases hi with rfl | rfl | rfl
  · exact ⟨by decide, by decide, by decide, by decide⟩
  · exact ⟨by decide, by decide, by decide, by decide⟩
  · exact ⟨by decide, by decide⟩

theorem subscription_handled_alike :
    let steps := subscribed fun _ => .telephonySuccess
    let napi := Napi.observer Platform.dualSim twoFunctions 1
    let cj := Cj.observer Platform.dualSim twoFunctions
    ((napi.run (Napi.start []) steps).2 = (cj.run (Cj.start []) steps).2 ∧
        List.Forall₂ (twoFunctions.Corresponds 1)
          (napi.run (Napi.start []) steps).1.listenerList
          (cj.run (Cj.start []) steps).1.listenerList ∧
        napi.outs (Napi.start []) steps = cj.outs (Cj.start []) steps) ↔
      cj.Along (fun t i => ∀ k,
        (Cj.sharing Platform.dualSim).Orphaned (i.call.drops twoFunctions) t.1.listenerList k →
          i.answer k = .telephonySuccess) (Cj.start []) steps :=
  life_cycles_agree_iff (by decide) twoFunctions 1 (subscribed_accepted _)

/-- A failed removal is reported by the JS front end only. -/
theorem failed_removal_unreported :
    let steps := subscribed fun _ => .telephonyErrIpcConnectStubFail
    let napi := Napi.observer Platform.dualSim twoFunctions 1
    let cj := Cj.observer Platform.dualSim twoFunctions
    (∀ i ∈ steps, i.call.Accepted Platform.dualSim) ∧
      napi.outs (Napi.start []) steps = [.success, .alreadyRegistered, .failure] ∧
      cj.outs (Cj.start []) steps = [.success, .alreadyRegistered, .success] :=
  ⟨subscribed_accepted _, by decide, by decide⟩

end TelephonyStateRegistry
