import TelephonyStateRegistry.Concurrent.System

/-!
# Reports in an interleaving

What the steps of an interleaving report on a topic, and what the caches hold in
consequence: the report whose exclusive section ran last, whatever is still
under way. Every callback is made by the shared section of an update that began
earlier, or by a replay.
-/

namespace TelephonyStateRegistry

open Reactive

variable {P : Platform}

/-- An update that passed its checks and ran its exclusive section. -/
def Begun (steps : List (AtomicStep P)) (u : Update P) : Prop :=
  ∃ env, AtomicStep.write env u ∈ steps ∧ u.accepted env

/-- The report of the exclusive section that a step was. -/
def Effect.wroteReport (m : ObserverMask) (slotId : Int) (e : Effect P) : Option (Callback P) :=
  e.wrote.bind fun u => u.report m slotId

/-- The report of the shared section that a step was. -/
def Effect.notifiedReport (m : ObserverMask) (slotId : Int) (e : Effect P) :
    Option (Callback P) :=
  e.notified.bind fun u => u.report m slotId

/-- A step whose network state, if it begins an update with one, survives its copy. -/
def AtomicStep.CopiedFaithfully (step : AtomicStep P) : Prop :=
  ∀ env u, step = .write env u → u.accepted env → u.CopiedFaithfully

variable {s s' : System P} {step : AtomicStep P} {e : Effect P}

/-- An update whose exclusive section a step was, began with that step. -/
theorem Happens.begun_of_wrote (h : Happens s step s' e) {u : Update P} (hu : e.wrote = some u) :
    Begun [step] u := by
  cases h with
  | wrote env u' hacc =>
    obtain rfl := Option.some.inj hu
    exact ⟨env, List.mem_singleton_self _, hacc⟩
  | _ => cases hu

/-- An update under way after a step was under way before it, or begun by it. -/
theorem Happens.mem_pending (h : Happens s step s' e) {u : Update P} (hu : u ∈ s'.pending) :
    u ∈ s.pending ∨ Begun [step] u := by
  cases h with
  | wrote env u' hacc =>
    rcases List.mem_append.mp hu with hu | hu
    · exact Or.inl hu
    · obtain rfl := List.mem_singleton.mp hu
      exact Or.inr ⟨env, List.mem_singleton_self _, hacc⟩
  | notified env i before u' after c' hpending htotal =>
    refine Or.inl (hpending ▸ ?_)
    exact List.mem_append.mpr ((List.mem_append.mp hu).imp_right (List.mem_cons_of_mem _))
  | _ => exact Or.inl hu

theorem Begun.mono {steps steps' : List (AtomicStep P)} {u : Update P} (h : Begun steps u)
    (hsub : ∀ step ∈ steps, step ∈ steps') : Begun steps' u := by
  obtain ⟨env, hmem, hacc⟩ := h
  exact ⟨env, hsub _ hmem, hacc⟩

theorem begun_of_mem_pending {steps : List (AtomicStep P)} {u : Update P}
    (h : u ∈ (System.after P steps).pending) : Begun steps u := by
  unfold System.after at h
  induction steps using List.reverseRecOn with
  | nil => cases h
  | append_singleton steps step ih =>
    rw [Mealy.run_concat] at h
    rcases (happens _ step).mem_pending h with h | h
    · exact (ih h).mono fun _ => List.mem_append_left _
    · exact h.mono fun _ => List.mem_append_right _

/-- The last report of an interleaving comes from an update that it began. -/
theorem exists_begun_of_lastOf {steps : List (AtomicStep P)} {m : ObserverMask} {slotId : Int}
    {callback : Callback P}
    (h : lastOf (Effect.wroteReport m slotId) (System.effects P steps) = some callback) :
    ∃ u, Begun steps u ∧ u.report m slotId = some callback := by
  obtain ⟨e, he, hreport⟩ := exists_mem_of_lastOf _ h
  obtain ⟨before, step, after, rfl, rfl⟩ := (interleaving P).exists_of_mem_outs he
  obtain ⟨u, hwrote, hu⟩ := Option.bind_eq_some_iff.mp hreport
  refine ⟨u, ((happens _ step).begun_of_wrote hwrote).mono ?_, hu⟩
  intro step' hstep'
  obtain rfl := List.mem_singleton.mp hstep'
  exact List.mem_append_right _ List.mem_cons_self

/-- An update that an interleaving began has left its report. -/
theorem lastOf_ne_none_of_begun {steps : List (AtomicStep P)} {u : Update P}
    (h : Begun steps u) {m : ObserverMask} {slotId : Int} (hu : u.report m slotId ≠ none) :
    lastOf (Effect.wroteReport m slotId) (System.effects P steps) ≠ none := by
  obtain ⟨env, hmem, hacc⟩ := h
  obtain ⟨before, after, rfl⟩ := List.append_of_mem hmem
  intro hnone
  have hout : (interleaving P).out (System.after P before) (.write env u) ∈
      System.effects P (before ++ .write env u :: after) := by
    unfold System.effects
    rw [Mealy.outs_append]
    exact List.mem_append_right _ List.mem_cons_self
  have hwrote : ((interleaving P).out (System.after P before) (.write env u)).wrote = some u := by
    have hguard : u.function.guard env = none := hacc
    simp only [Mealy.out, interleaving, System.step, hguard]
  have hreport := (lastOf_eq_none _).mp hnone _ hout
  rw [Effect.wroteReport, hwrote, Option.bind_some] at hreport
  exact hu hreport

/-- A step replaces exactly the cached callbacks that it writes. -/
theorem Happens.cached (h : Happens s step s' e) {m : ObserverMask}
    (hcopy : m = .networkState → step.CopiedFaithfully) (slotId : Int) :
    s'.service.caches.cached m slotId =
      (e.wroteReport m slotId).or (s.service.caches.cached m slotId) := by
  cases h with
  | wrote env u hacc =>
    exact u.write_cached (fun hm => hcopy hm env u rfl hacc) s.service.caches slotId
  | notified env i before u after c' hpending htotal =>
    exact Caches.cached_congr htotal m slotId
  | registered env r =>
    exact Caches.cached_congr (registerStateChange_total env r s.service) m slotId
  | unregistered env k =>
    change (unregisterStateChange env k s.service).1.caches.cached m slotId = _
    rw [unregisterStateChange_caches]
    rfl
  | _ => rfl

/-- After an interleaving the caches hold the report that was written last. -/
theorem cached_after {m : ObserverMask} {steps : List (AtomicStep P)}
    (hcopy : m = .networkState → ∀ step ∈ steps, step.CopiedFaithfully) (slotId : Int) :
    (System.after P steps).service.caches.cached m slotId =
      (lastOf (Effect.wroteReport m slotId) (System.effects P steps)).or
        ((Caches.init P).cached m slotId) := by
  have hcopy' : ∀ step ∈ steps, m = .networkState → step.CopiedFaithfully :=
    fun step hmem hnet => hcopy hnet step hmem
  apply (interleaving P).observe_outs_along (v := fun s => s.service.caches.cached m slotId) ?_
    ((interleaving P).along_of_mem hcopy' _)
  intro s step hstep
  exact (happens s step).cached hstep slotId

/-- A step that is not a successful removal of a key. -/
def AtomicStep.KeepsKey (k : Key) (s : System P) (step : AtomicStep P) : Prop :=
  ∀ env, step = .unregister env k →
    (unregisterStateChange env k s.service).2.result ≠ .telephonySuccess

/-- A stored record stays under its key until the key is successfully removed. -/
theorem Happens.registered_key (h : Happens s step s' e) {k : Key} {record : Record}
    (hk : s.service.registered k = some record) (hkeeps : step.KeepsKey k s) :
    s'.service.registered k = some record := by
  cases h with
  | registered env r =>
    have hcall : TelephonyStateRegistry.KeepsKey k s.service (env, .register r) :=
      fun _ hr => by cases hr
    exact registered_next hk hcall
  | unregistered env j =>
    have hcall : TelephonyStateRegistry.KeepsKey k s.service (env, .unregister j) := by
      rintro env' hj
      obtain ⟨rfl, rfl⟩ : env = env' ∧ j = k := by
        simpa only [Prod.mk.injEq, Op.unregister.injEq] using hj
      exact hkeeps env rfl
    exact registered_next hk hcall
  | _ => exact hk

/-- A callback is made by the shared section of an update under way on a stored
record, or by the replay of an admitted registration. -/
theorem Happens.mem_deliveries (h : Happens s step s' e) {d : Delivery P}
    (hd : d ∈ e.deliveries) :
    (∃ u, e.notified = some u ∧ u ∈ s.pending ∧ d.record ∈ s.service.stateRecords ∧
      u.live step.env s.service.caches d.record = some d.callback) ∨
    ∃ r, step = .register step.env r ∧ r.admitted P step.env ∧
      d ∈ r.replay step.env s.service := by
  cases h with
  | notified env i before u after c' hpending htotal =>
    obtain ⟨hr, hc⟩ := mem_deliveriesOf.mp hd
    exact Or.inl ⟨u, rfl, hpending ▸ List.mem_append_right _ List.mem_cons_self, hr, hc⟩
  | registered env r =>
    have hd' : d ∈ ((machine P).out s.service (env, .register r)).deliveries := hd
    rcases mem_out_deliveries hd' with ⟨u, hu, -⟩ | ⟨r', hr, hadm, hd⟩
    · cases hu
    · obtain rfl := Op.register.inj hr
      exact Or.inr ⟨r, rfl, hadm, hd⟩
  | unregistered env k =>
    have hd' : d ∈ ((machine P).out s.service (env, .unregister k)).deliveries := hd
    rcases mem_out_deliveries hd' with ⟨u, hu, -⟩ | ⟨r, hr, -⟩
    · cases hu
    · cases hr
  | _ => cases hd

end TelephonyStateRegistry
