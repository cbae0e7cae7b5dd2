import TelephonyStateRegistry.Correctness.Passage

/-!
# From the service to the JS functions, across all threads

The process and the service run side by side, and JS code subscribes and unsubscribes at
any time. Whatever the order of the steps, a function is called at most once for each
callback that the service has sent, with what that callback carries; and exactly once
while its listener stays and nothing fails.
-/

namespace TelephonyStateRegistry

open Reactive

variable {P : Platform}

namespace Napi

/-- What a callback has for a listener. -/
def forListener (l : EventListener) (callback : Callback P) : Option (Option (UpdateInfo P)) :=
  (sendEvent callback).offered l

/-- What is on its way to a listener. -/
def Device.pending (l : EventListener) (s : Device P) : List (Option (UpdateInfo P)) :=
  s.threads.pending l ++ s.inFlight.filterMap (forListener l)

/-- What the service has sent since then. -/
def Device.sentSince (s next : Device P) : List (Callback P) := next.sent.drop s.sent.length

section Native

variable {σ : Type} (M : StateManager σ) (isCallBackRegister : IsCallBackRegister) (env : Pointer)
  (asyncContext : ObserverContext) (s : EventListenerHandler × σ)

private theorem on_machine (isDeleting : Pointer) :
    (on P M isCallBackRegister env isDeleting asyncContext s).1 = s ∨
      ∃ call, (on P M isCallBackRegister env isDeleting asyncContext s).1 =
        (machine P).next s ⟨M, isCallBackRegister, call⟩ := by
  unfold on nativeOn
  split_ifs
  · exact Or.inl rfl
  · exact Or.inl rfl
  · exact Or.inl rfl
  · exact Or.inr ⟨.registerEventListener _, rfl⟩

private theorem off_machine :
    (off P M isCallBackRegister env asyncContext s).1 = s ∨
      ∃ call, (off P M isCallBackRegister env asyncContext s).1 =
        (machine P).next s ⟨M, isCallBackRegister, call⟩ := by
  unfold off nativeOff
  split_ifs
  · exact Or.inl rfl
  · exact Or.inr ⟨.unregisterEventListeners env asyncContext.eventType, rfl⟩
  · exact Or.inr ⟨.unregisterEventListener env asyncContext.eventType asyncContext.callbackRef,
      rfl⟩

end Native

/-- What the threads do to the handler and to what lies behind the manager: nothing, or one
call on the handler. -/
theorem onThreads_handler {process : Process} {input : DeviceStep P process}
    {step : ThreadStep P (Station P)} (h : input.onThreads process = some step)
    (s : Threads P (Station P)) :
    ((threads P (Station P)).next s step).handler = s.handler ∨
      ∃ link isCallBackRegister call, ((threads P (Station P)).next s step).handler =
        (machine P).next s.handler ⟨stationManager P process link, isCallBackRegister, call⟩ := by
  cases input <;> cases h
  case processEvent attempts =>
    left
    simp only [Mealy.next, threads]
    split <;> rfl
  case workUpdated index answers =>
    left
    simp only [Mealy.next, threads]
    split
    · rfl
    · split <;> rfl
  case proceed env =>
    left
    simp only [Mealy.next, threads]
    split
    · rfl
    · split <;> rfl
  case deleteReference env =>
    left
    simp only [Mealy.next, threads]
    split <;> rfl
  case on env eventType slotId callback link isCallBackRegister =>
    simp only [Mealy.next, threads]
    split
    · exact Or.inl rfl
    · exact (on_machine _ isCallBackRegister env _ s.handler s.fresh).imp_right
        fun hcall => ⟨link, isCallBackRegister, hcall⟩
  case off env eventType callback link isCallBackRegister =>
    simp only [Mealy.next, threads]
    split
    · exact Or.inl rfl
    · exact (off_machine _ isCallBackRegister env _ s.handler).imp_right
        fun hcall => ⟨link, isCallBackRegister, hcall⟩
  case unRegisterAllListener env link =>
    simp only [Mealy.next, threads]
    split
    · exact Or.inl rfl
    · exact Or.inr ⟨link, fun _ _ _ => true, .unRegisterAllListener env, rfl⟩

private theorem sent_onThreads {process : Process} {input : DeviceStep P process}
    {step : ThreadStep P (Station P)} (h : input.onThreads process = some step)
    (s : Threads P (Station P)) :
    s.handler.2.2 <+: ((threads P (Station P)).next s step).handler.2.2 := by
  rcases onThreads_handler h s with hsame | ⟨link, isCallBackRegister, call, hcall⟩
  · rw [hsame]
  · rw [hcall]
    exact next_invariant (P := P) (M := stationManager P process link)
      (I := fun w => s.handler.2.2 <+: w.2) (fun _ _ _ hw => hw.trans (List.prefix_append _ _))
      (fun _ _ hw => hw.trans (List.prefix_append _ _)) (List.prefix_refl _) isCallBackRegister
      call

private theorem sent_behind {process : Process} {input : DeviceStep P process}
    {f : Station P → Station P} (h : input.behind process = some f) (w : Station P) :
    w.2 <+: (f w).2 := by
  cases input <;> cases h
  · exact List.prefix_append _ _
  · exact List.prefix_refl _
  · exact List.prefix_refl _
  · exact List.prefix_refl _

/-- The three kinds of steps: a callback arrives, something happens behind the manager, or
a thread does something. -/
theorem device_cases (process : Process) (s : Device P) (input : DeviceStep P process) :
    (∃ index, input = .arrives index) ∨
    (∃ f, input.behind process = some f ∧
      (device P process).step s input =
        (s.after { s.threads with handler := (s.threads.handler.1, f s.threads.handler.2) }, [])) ∨
    (∃ step, input.onThreads process = some step ∧
      (device P process).step s input =
        (s.after ((threads P _).next s.threads step), (threads P _).out s.threads step)) := by
  cases input with
  | arrives index => exact Or.inl ⟨index, rfl⟩
  | serves env op => exact Or.inr (Or.inl ⟨_, rfl, rfl⟩)
  | died => exact Or.inr (Or.inl ⟨_, rfl, rfl⟩)
  | restarted => exact Or.inr (Or.inl ⟨_, rfl, rfl⟩)
  | onRemoteDied remote => exact Or.inr (Or.inl ⟨_, rfl, rfl⟩)
  | _ => exact Or.inr (Or.inr ⟨_, rfl, rfl⟩)

/-- What has been sent stays sent. -/
theorem Device.sent_prefix (process : Process) (s : Device P) (input : DeviceStep P process) :
    s.sent <+: ((device P process).next s input).sent := by
  rcases device_cases process s input with ⟨index, rfl⟩ | ⟨f, hf, hstep⟩ | ⟨step, hstep, hnext⟩
  · simp only [Mealy.next, device]
    split <;> exact List.prefix_refl _
  · rw [Mealy.next, hstep]
    exact sent_behind hf _
  · rw [Mealy.next, hnext]
    exact sent_onThreads hstep s.threads

section Step

variable {R : List (Option (UpdateInfo P)) → List (Option (UpdateInfo P)) → Prop}
  {process : Process} {l : EventListener}

/-- A step of the device as one of the threads. -/
def DeviceStep.reaches (process : Process) (s : Device P) :
    DeviceStep P process → Option (ThreadStep P (Station P))
  | .arrives index => s.inFlight[index]?.map .notified
  | input => input.onThreads process

private theorem brings_onThreads {input : DeviceStep P process} {step : ThreadStep P (Station P)}
    (h : input.onThreads process = some step) : step.brings l = [] := by
  cases input <;> cases h <;> rfl

private theorem inFlight_perm {inFlight : List (Callback P)} {index : Nat} {callback : Callback P}
    (h : inFlight[index]? = some callback) :
    ((forListener l callback).toList ++
        (inFlight.eraseIdx index).filterMap (forListener l)).Perm
      (inFlight.filterMap (forListener l)) := by
  obtain ⟨hlt, rfl⟩ := List.getElem?_eq_some_iff.mp h
  have hperm := (List.getElem_cons_eraseIdx_perm hlt).filterMap (forListener l)
  rw [List.filterMap_cons] at hperm
  cases hoffered : forListener l inFlight[index] <;> rw [hoffered] at hperm <;> exact hperm

/-- A step of the process or of the service passes on what the threads pass on. -/
theorem Device.flow (hR : Accounting R) (hperm : ∀ {a b}, a.Perm b → R a b)
    {s : Device P} (h : s.threads.Sound) (input : DeviceStep P process)
    (hpasses : ∀ step ∈ input.reaches process s, s.threads.Passes R l step) :
    R (callsTo l ((device P process).out s input) ++ ((device P process).next s input).pending l)
      (s.pending l ++
        (s.sentSince ((device P process).next s input)).filterMap (forListener l)) := by
  rcases device_cases process s input with ⟨index, rfl⟩ | ⟨f, hf, hstep⟩ | ⟨step, hstep, hnext⟩
  · simp only [Mealy.out, Mealy.next, device]
    cases hcallback : s.inFlight[index]? with
    | none =>
      dsimp only
      rw [Device.sentSince, List.drop_length, List.filterMap_nil, List.append_nil]
      exact hR.refl _
    | some callback =>
      have hflow := h.flow hR (hpasses (.notified callback) (by
        rw [DeviceStep.reaches, hcallback]
        rfl))
      let arrived : Device P :=
        ⟨(Napi.threads P _).next s.threads (.notified callback), s.inFlight.eraseIdx index⟩
      have hsent : s.sentSince arrived = [] := List.drop_length
      change R (callsTo l [] ++ arrived.pending l)
        (s.pending l ++ (s.sentSince arrived).filterMap (forListener l))
      rw [hsent, List.filterMap_nil, List.append_nil, Device.pending, Device.pending,
        ← List.append_assoc]
      refine hR.trans (hR.append_right _ hflow) ?_
      rw [List.append_assoc]
      exact hR.append_left _ (hperm (inFlight_perm hcallback))
  · rw [Mealy.out, Mealy.next, hstep]
    have hpending : (s.after { s.threads with
          handler := (s.threads.handler.1, f s.threads.handler.2) }).pending l =
        s.pending l ++ (s.sentSince (s.after { s.threads with
          handler := (s.threads.handler.1, f s.threads.handler.2) })).filterMap
            (forListener l) := by
      simp only [Device.pending, Device.after, Device.sentSince, Device.sent,
        List.filterMap_append, List.append_assoc]
      rfl
    rw [hpending]
    exact hR.refl _
  · rw [Mealy.out, Mealy.next, hnext]
    have hreaches : input.reaches process s = some step := by
      cases input <;> first | exact hstep | cases hstep
    have hflow := h.flow hR (hpasses step hreaches)
    rw [brings_onThreads hstep, List.append_nil] at hflow
    simp only [Device.pending, Device.after, Device.sentSince, Device.sent,
      List.filterMap_append, ← List.append_assoc]
    exact hR.append_right _ (hR.append_right _ hflow)

/-- Every step keeps what every state of the threads keeps. -/
theorem Device.tidy_next (process : Process) {s : Device P} (h : s.threads.Tidy)
    (input : DeviceStep P process) : ((device P process).next s input).threads.Tidy := by
  rcases device_cases process s input with ⟨index, rfl⟩ | ⟨f, hf, hstep⟩ | ⟨step, hstep, hnext⟩
  · simp only [Mealy.next, device]
    split
    · exact h
    · exact h.next _
  · rw [Mealy.next, hstep]
    obtain ⟨hsound, hnodup, hnamed⟩ := h
    refine ⟨?_, hnodup, hnamed⟩
    obtain ⟨h₁, h₂, h₃, h₄, h₅, h₆, h₇⟩ := hsound
    exact ⟨h₁, h₂, h₃, h₄, h₅, h₆, h₇⟩
  · rw [Mealy.next, hnext]
    exact h.next step

theorem Device.tidy_run (process : Process) (steps : List (DeviceStep P process)) :
    ((device P process).run (.start P) steps).threads.Tidy :=
  (device P process).invariant (I := fun s => s.threads.Tidy)
    (fun _ input h => Device.tidy_next process h input) (.start _) steps

private theorem Device.entered_eq (s : Device P) (steps : List (DeviceStep P process)) :
    (device P process).entered (fun s input =>
        (s.sentSince ((device P process).next s input)).filterMap (forListener l)) s steps =
      (s.sentSince ((device P process).run s steps)).filterMap (forListener l) := by
  induction steps generalizing s with
  | nil =>
    rw [Mealy.run_nil, Device.sentSince, List.drop_length]
    rfl
  | cons input steps ih =>
    rw [Mealy.entered, ih, Mealy.run_cons, ← List.filterMap_append]
    congr 1
    let next := (device P process).next s input
    have hnext : s.sent <+: next.sent := s.sent_prefix process input
    have hrun : next.sent <+: ((device P process).run next steps).sent :=
      (device P process).invariant (I := fun t => next.sent <+: t.sent)
        (fun t input ht => ht.trans (t.sent_prefix process input)) (List.prefix_refl _) steps
    change next.sent.drop s.sent.length ++
        ((device P process).run next steps).sent.drop next.sent.length =
      ((device P process).run next steps).sent.drop s.sent.length
    obtain ⟨new, hnew⟩ := hnext
    obtain ⟨later, hlater⟩ := hrun
    rw [← hlater, ← hnew]
    simp only [List.append_assoc, List.drop_left, List.length_append]
    rw [← List.drop_drop, List.drop_left, List.drop_left]

end Step

/-- What the functions of a listener were called with in the course of a run. -/
def Device.calls (process : Process) (l : EventListener) (s : Device P)
    (steps : List (DeviceStep P process)) : List (Option (UpdateInfo P)) :=
  ((device P process).outs s steps).flatMap (callsTo l)

/-- **At most once.** Whatever the order of the steps, what a function was called with and
what is still under way for it are callbacks that the service has sent, each once. -/
theorem calls_at_most_once (P : Platform) (process : Process) (steps : List (DeviceStep P process))
    (l : EventListener) :
    let s := (device P process).run (.start P) steps
    (Device.calls process l (.start P) steps ++ s.pending l).Subperm
      (s.sent.filterMap (forListener l)) := by
  intro s
  have halong : (device P process).Along (fun s _ => s.threads.Tidy ∧ True) (.start P) steps :=
    .of_invariant (fun _ input _ h => Device.tidy_next process h input) (.start _)
      ((device P process).along_of_mem (fun _ _ => trivial) _)
  have hflow := Mealy.flow_along Accounting.subperm (Device.pending l)
    (fun t input ht => Device.flow .subperm List.Perm.subperm ht.1.sound input
      fun step _ => ht.1.passes l step) halong
  rw [Device.entered_eq] at hflow
  exact hflow

/-- Nothing fails for a listener of the table in a step of the device. -/
def Device.Serves (process : Process) (l : EventListener) (s : Device P)
    (input : DeviceStep P process) : Prop :=
  l ∈ s.threads.listeners ∧ ∀ step ∈ input.reaches process s, s.threads.Serves l step

/-- **Exactly once.** While a listener stays in the table and nothing fails for it, its
function is called with every callback that was under way or was sent meanwhile, as soon
as nothing more is under way. -/
theorem calls_exactly_once (P : Platform) (process : Process)
    (before steps : List (DeviceStep P process)) (l : EventListener) (hservable : l.Servable) :
    let s := (device P process).run (.start P) before
    let next := (device P process).run s steps
    (device P process).Along (Device.Serves process l) s steps → next.pending l = [] →
      (Device.calls process l s steps).Perm
        (s.pending l ++ (s.sentSince next).filterMap (forListener l)) := by
  intro s next hserves hrest
  have halong : (device P process).Along
      (fun s input => s.threads.Tidy ∧ Device.Serves process l s input) s steps :=
    Mealy.Along.of_invariant (I := fun t : Device P => t.threads.Tidy)
      (fun _ input _ h => Device.tidy_next process h input) (Device.tidy_run process before)
      hserves
  have hflow := Mealy.flow_along Accounting.perm (Device.pending l)
    (fun t input ht => Device.flow .perm id ht.1.sound input
      fun step hstep => ht.1.passes_all ht.2.1 hservable (ht.2.2 step hstep)) halong
  rw [Device.entered_eq, show ((device P process).run s steps).pending l = [] from hrest,
    List.append_nil] at hflow
  exact hflow

/-- Two VoIP calls are reported, the second arrives first, and the function of a listener is
called with both. -/
theorem two_calls_exactly_once :
    let process : Process := ⟨"app", 1, 1, 1, ""⟩
    let link : Pair → Link := fun _ => ⟨true, true, true, true, 0, .native, 1⟩
    let info (state : Int) : VoIPCallStateInfo := ⟨"app", "", 0, state, false⟩
    let l : EventListener := ⟨7, .event .voipCallState, -1, 1, 1⟩
    let s := (device .dualSim process).run (.start .dualSim)
      [.on 7 (.event .voipCallState) (-1) true link (fun _ _ _ => true)]
    (Device.calls process l s
      [.serves .native (.update (.voipCallState (info 1))),
        .serves .native (.update (.voipCallState (info 6))), .arrives 1, .arrives 0,
        .processEvent fun _ => .succeeding 0, .processEvent fun _ => .succeeding 0,
        .workUpdated 0 .succeeding, .proceed 7, .proceed 7, .proceed 7,
        .workUpdated 0 .succeeding, .proceed 7]).Perm
      [some ⟨-1, .onVoIPStateUpdated (info 1)⟩, some ⟨-1, .onVoIPStateUpdated (info 6)⟩] := by
  refine calls_exactly_once Platform.dualSim ⟨"app", 1, 1, 1, ""⟩ _ _
    ⟨7, .event .voipCallState, -1, 1, 1⟩ ⟨by decide, Or.inl (by decide)⟩ ?_ rfl
  have hattempts : ∀ i : Nat, ((fun _ => .succeeding 0 : Nat → Attempt) i).Succeeds :=
    fun _ => ⟨rfl, rfl, rfl, rfl⟩
  refine ⟨⟨?_, ?_⟩, ⟨?_, ?_⟩, ⟨?_, ?_⟩, ⟨?_, ?_⟩, ⟨?_, ?_⟩, ⟨?_, ?_⟩, ⟨?_, ?_⟩, ⟨?_, ?_⟩,
    ⟨?_, ?_⟩, ⟨?_, ?_⟩, ⟨?_, ?_⟩, ⟨?_, ?_⟩, trivial⟩
  all_goals first
    | exact List.mem_cons_self
    | intro step hstep
      cases hstep <;> first
        | exact hattempts
        | trivial
        | rintro item hitem -
          cases hitem
          exact ⟨rfl, rfl, nofun⟩

end Napi

end TelephonyStateRegistry
