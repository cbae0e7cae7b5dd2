import TelephonyStateRegistry.Client.CjCallbacks

/-!
# Updates of the Cangjie handler while its table changes

The copies of an update share their flags with the table. Since `On` makes a flag for
each listener, the flag of a copy is set exactly by the calls that unregister its
listener, whatever else is done to the table meanwhile.
-/

namespace TelephonyStateRegistry

open Reactive

variable {P : Platform} {σ : Type}

namespace Cj

/-- What calls keep: each listener has a flag of its own, which is not set. -/
structure Observers.Sound (s : Observers σ) : Prop where
  positive : 0 < s.fresh
  made : ∀ l ∈ s.listeners, l.isDeleting ≠ nullptr ∧ l.isDeleting < s.fresh
  set_lt : ∀ n ∈ s.deleting, n < s.fresh
  unset : ∀ l ∈ s.listeners, l.isDeleting ∉ s.deleting
  distinct : (s.listeners.map EventListener.isDeleting).Nodup

theorem Observers.Sound.start (w : σ) : (Observers.start w).Sound where
  positive := Nat.one_pos
  made _ h := absurd h List.not_mem_nil
  set_lt _ h := absurd h (Finset.notMem_empty _)
  unset _ h := absurd h List.not_mem_nil
  distinct := List.nodup_nil

theorem Observers.Sound.eq_of_isDeleting {s : Observers σ} (h : s.Sound) {l l' : EventListener}
    (hl : l ∈ s.listeners) (hl' : l' ∈ s.listeners) (hflag : l.isDeleting = l'.isDeleting) :
    l = l' := List.inj_on_of_nodup_map h.distinct hl hl' hflag

/-- `On` leaves the table alone or adds a listener with the new flag. -/
theorem on_cases (M : StateManager σ) (event : ObserverMask) (slotId funcId : Int)
    (callbackRef isDeleting : Pointer) (s : ObserverEventHandler × σ) :
    (on P M event slotId funcId callbackRef isDeleting s).1.1 = s.1 ∨
    ∃ l : EventListener, l.isDeleting = isDeleting ∧
      (on P M event slotId funcId callbackRef isDeleting s).1.1 =
        { s.1 with listenerList := s.1.listenerList ++ [l] } := by
  let listener : EventListener := ⟨getEventType event, slotId, funcId, isDeleting⟩
  have hregister : (registerEventListener P M listener s).1.1 = s.1 ∨
      (registerEventListener P M listener s).1.1 =
        { s.1 with listenerList := s.1.listenerList ++ [listener] } := by
    unfold registerEventListener
    rcases (sharing P).subscribe_cases (M.provider isUpdate) (sameListener listener) listener
      (s.1.listenerList, s.2) with ⟨h, -⟩ | ⟨-, ⟨h, -⟩ | ⟨-, ⟨-, h⟩ | ⟨-, h⟩⟩⟩ <;> rw [h]
    · exact Or.inl rfl
    · exact Or.inr rfl
    · exact Or.inr rfl
    · exact Or.inl rfl
  unfold on nativeOn
  dsimp only
  split_ifs
  · exact Or.inl rfl
  · exact Or.inl rfl
  · exact Or.inl rfl
  · exact hregister.imp_right fun h => ⟨listener, rfl, h⟩
  · exact Or.inl rfl

/-- `Off` drops the listeners that it unregisters and sets their flags. -/
theorem off_handler (M : StateManager σ) (event : ObserverMask) (funcId : Int)
    (s : ObserverEventHandler × σ) :
    let removed : EventListener → Bool := fun l => (ObserverCall.off event funcId).unregisters l
    (off P M event funcId s).1.1 = ⟨s.1.listenerList.filter fun l => !removed l,
      (s.1.listenerList.filter removed).foldl
        (fun deleting l => setEventListenerDeleting l.isDeleting deleting) s.1.deleting⟩ := by
  intro removed
  unfold off
  dsimp only
  by_cases hknown : getEventType event ≠ .noneEventType
  · have hremoved : removed = matchesFunc (getEventType event) funcId :=
      funext fun l => by simp [removed, ObserverCall.unregisters, hknown]
    rw [if_pos hknown, hremoved]
    have htable : ((sharing P).release (M.provider isUpdate)
        (matchesFunc (getEventType event) funcId) (s.1.listenerList, s.2)).1.1 =
          s.1.listenerList.filter fun l => !matchesFunc (getEventType event) funcId l :=
      (sharing P).release_table _
    unfold unregisterEventListener
    dsimp only
    rw [htable]
  · have hremoved : removed = fun _ => false :=
      funext fun l => by simp [removed, ObserverCall.unregisters, hknown]
    rw [if_neg hknown, hremoved]
    simp only [Bool.not_false, List.filter_true, List.filter_false, List.foldl_nil]

/-- A call drops the listeners that it unregisters, and may add one with a new flag. -/
theorem Request.listeners_effect (r : Request σ) (s : Observers σ) :
    ((r.effect P s).listeners = (s.listeners.filter fun l => !r.call.unregisters l) ∨
      ∃ l : EventListener, l.isDeleting = s.fresh ∧ s.fresh < (r.effect P s).fresh ∧
        (r.effect P s).listeners = s.listeners ++ [l] ∧
        ∀ l, r.call.unregisters l = false) ∧
    ∀ n, n ∈ (r.effect P s).deleting ↔ n ∈ s.deleting ∨
      ∃ l ∈ s.listeners, r.call.unregisters l = true ∧ l.isDeleting = n ∧ n ≠ nullptr := by
  obtain ⟨M, call⟩ := r
  cases call with
  | on event slotId funcId callbackRef =>
    have hnone (l : EventListener) :
        (ObserverCall.on event slotId funcId callbackRef).unregisters l = false := rfl
    simp only [hnone, Bool.not_false, List.filter_true, Bool.false_eq_true, false_and, and_false,
      exists_false, or_false]
    unfold Request.effect Observers.listeners Observers.deleting
    dsimp only
    rcases on_cases (P := P) M event slotId funcId callbackRef s.fresh s.handler with
      h | ⟨l, hflag, h⟩ <;> rw [h]
    · exact ⟨Or.inl rfl, fun _ => Iff.rfl⟩
    · exact ⟨Or.inr ⟨l, hflag, Nat.lt_succ_self _, rfl, fun _ => trivial⟩, fun _ => Iff.rfl⟩
  | off event funcId =>
    unfold Request.effect Observers.listeners Observers.deleting
    dsimp only
    rw [off_handler]
    refine ⟨Or.inl rfl, fun n => ?_⟩
    rw [mem_foldl_setEventListenerDeleting]
    simp only [List.mem_filter, and_assoc]

variable {s : Observers σ}

/-- A call keeps the flags apart. -/
theorem Observers.Sound.effect (h : s.Sound) (r : Request σ) : (r.effect P s).Sound := by
  obtain ⟨htable, hset⟩ := r.listeners_effect (P := P) s
  have hfresh : s.fresh ≤ (r.effect P s).fresh := by
    unfold Request.effect
    cases r.call
    · exact Nat.le_succ _
    · exact le_rfl
  have hset_lt : ∀ n ∈ (r.effect P s).deleting, n < s.fresh := by
    intro n hn
    rcases (hset n).mp hn with hn | ⟨l, hl, -, rfl, -⟩
    · exact h.set_lt n hn
    · exact (h.made l hl).2
  have hold : ∀ l ∈ s.listeners, r.call.unregisters l = false →
      l.isDeleting ∉ (r.effect P s).deleting := by
    intro l hl hkept hmem
    rcases (hset _).mp hmem with hmem | ⟨l', hl', hdropped, hflag, -⟩
    · exact h.unset l hl hmem
    · rw [h.eq_of_isDeleting hl' hl hflag, hkept] at hdropped
      cases hdropped
  refine ⟨h.positive.trans_le hfresh, ?_, fun n hn => (hset_lt n hn).trans_le hfresh, ?_, ?_⟩
  · intro l hl
    rcases htable with htable | ⟨added, hflag, hlt, htable, -⟩ <;> rw [htable] at hl
    · obtain ⟨hnull, hlt⟩ := h.made l (List.mem_of_mem_filter hl)
      exact ⟨hnull, hlt.trans_le hfresh⟩
    · rcases List.mem_append.mp hl with hl | hl
      · exact ⟨(h.made l hl).1, (h.made l hl).2.trans_le hfresh⟩
      · obtain rfl := List.mem_singleton.mp hl
        rw [hflag]
        exact ⟨h.positive.ne', hlt⟩
  · intro l hl
    rcases htable with htable | ⟨added, hflag, -, htable, hnone⟩ <;> rw [htable] at hl
    · obtain ⟨hl, hkept⟩ := List.mem_filter.mp hl
      exact hold l hl (Bool.not_eq_true' _ ▸ hkept)
    · rcases List.mem_append.mp hl with hl | hl
      · exact hold l hl (hnone l)
      · obtain rfl := List.mem_singleton.mp hl
        intro hmem
        exact absurd (hset_lt _ hmem) (by rw [hflag]; exact lt_irrefl _)
  · rcases htable with htable | ⟨added, hflag, -, htable, -⟩ <;> rw [htable]
    · exact h.distinct.sublist (List.filter_sublist.map _)
    · rw [List.map_append, List.nodup_append]
      refine ⟨h.distinct, List.nodup_singleton _, ?_⟩
      intro n hn n' hn' heq
      obtain ⟨l, hl, rfl⟩ := List.mem_map.mp hn
      obtain rfl := List.mem_singleton.mp hn'
      exact absurd (h.made l hl).2 (by rw [heq, hflag]; exact lt_irrefl _)

private theorem deleting_runAll {n : Pointer} (hn : n ∈ s.deleting) (calls : List (Request σ)) :
    n ∈ (runAll P calls s).value.deleting := by
  induction calls generalizing s with
  | nil => exact hn
  | cons r rs ih =>
    rw [runAll, Locked.value_bind, r.value_run]
    exact ih (((r.listeners_effect s).2 n).mpr (Or.inl hn))

/-- Calls keep the flags apart, and set the flag of a listener that is in the table if one
of them unregisters it. -/
theorem Observers.Sound.runAll (h : s.Sound) (calls : List (Request σ)) :
    (runAll P calls s).value.Sound ∧ ∀ l ∈ s.listeners,
      (l.isDeleting ∈ (Cj.runAll P calls s).value.deleting ↔
        ∃ r ∈ calls, r.call.unregisters l = true) := by
  induction calls generalizing s with
  | nil =>
    refine ⟨h, fun l hl => iff_of_false (h.unset l hl) ?_⟩
    rintro ⟨r, hr, -⟩
    cases hr
  | cons r rs ih =>
    rw [Cj.runAll, Locked.value_bind, r.value_run]
    obtain ⟨hsound, hrest⟩ := ih (h.effect r)
    refine ⟨hsound, fun l hl => ?_⟩
    rw [List.exists_mem_cons_iff]
    by_cases hdropped : r.call.unregisters l = true
    · refine iff_of_true (deleting_runAll ?_ rs) (Or.inl hdropped)
      exact ((r.listeners_effect s).2 _).mpr (Or.inr ⟨l, hl, hdropped, rfl, (h.made l hl).1⟩)
    · rw [or_iff_right hdropped]
      refine hrest l ?_
      rcases (r.listeners_effect (P := P) s).1 with htable | ⟨_, -, -, htable, -⟩ <;>
        rw [htable]
      · refine List.mem_filter.mpr ⟨hl, ?_⟩
        rw [Bool.not_eq_true', Bool.eq_false_of_not_eq_true hdropped]
      · exact List.mem_append_left _ hl

/-- What holds of the turn of a copy. -/
structure Visit.Right (K : Payloads P) (data : Option (UpdateInfo P)) (v : Visit σ) :
    Prop where
  /-- The mutex is free, and may be taken by the function that is called. -/
  free : NonRecursive v.actions
  /-- The listener is handed to the switch of `WorkUpdated` unless a call has
  unregistered it, or its copy of the info cannot be made. -/
  handed_iff : v.handed = true ↔ (data.isNone || v.turn.makeData) = true ∧
    ∀ r ∈ v.calls, r.call.unregisters v.listener = false
  /-- Its function is called with the value of its work function, if there is one. -/
  value : v.handed = true → v.argv = workUpdated K ∅ v.listener data
  /-- Nothing else is called. -/
  called : v.argv.isSome = true → v.handed = true

private theorem workVisit_right (K : Payloads P) (data : Option (UpdateInfo P)) (turn : Turn σ)
    {listen : EventListener} {calls : List (Request σ)} {p : Locked (Observers σ)}
    (h : s.Sound) (hlisten : listen ∈ s.listeners) (hfree : NonRecursive p.actions)
    (hvalue : p.value = (runAll P calls s).value) :
    (workVisit K data turn listen calls p).Right K data := by
  have hflag : listen.isDeleting ∈ p.value.deleting ↔
      ∃ r ∈ calls, r.call.unregisters listen = true := hvalue ▸ (h.runAll calls).2 listen hlisten
  have hnull : listen.isDeleting ≠ nullptr := (h.made listen hlisten).1
  refine ⟨hfree, ?_, ?_, ?_⟩
  · simp only [workVisit, Bool.and_eq_true, Bool.not_eq_true', Dropped, hnull, false_or,
      decide_eq_false_iff_not, hflag, not_exists, not_and, Bool.not_eq_true]
  · intro hhanded
    have hkept : ¬Dropped p.value.deleting listen := by
      have hnot := (Bool.and_eq_true_iff.mp hhanded).2
      exact of_decide_eq_false ((Bool.not_eq_true' _).mp hnot)
    have hargv : (workVisit K data turn listen calls p).argv =
        workUpdated K p.value.deleting listen data := if_pos hhanded
    exact hargv.trans (workUpdated_of_not_dropped K hkept data)
  · intro hsome
    by_contra hhanded
    have hargv : (workVisit K data turn listen calls p).argv = none := if_neg hhanded
    rw [hargv] at hsome
    cases hsome

private theorem workTurns_right (K : Payloads P) (data : Option (UpdateInfo P)) (h : s.Sound)
    (turns : Nat → Turn σ) (snapshot : List EventListener)
    (hsnapshot : ∀ l ∈ snapshot, l ∈ s.listeners) (calls : List (Request σ))
    (p : Locked (Observers σ)) (hfree : NonRecursive p.actions)
    (hvalue : p.value = (runAll P calls s).value) :
    let r := workTurns K data turns snapshot calls p
    r.1.map Visit.listener = snapshot ∧ (∀ v ∈ r.1, v.Right K data) ∧ NonRecursive r.2.actions := by
  have hstep {p : Locked (Observers σ)} {calls : List (Request σ)} (hfree : NonRecursive p.actions)
      (hvalue : p.value = (runAll P calls s).value) (more : List (Request σ)) :
      NonRecursive (p >>= runAll P more).actions ∧
        (p >>= runAll P more).value = (runAll P (calls ++ more) s).value := by
    rw [Locked.actions_bind, Locked.value_bind, value_runAll_append, hvalue]
    exact ⟨(nonRecursive_append hfree).mpr (nonRecursive_runAll _ _), rfl⟩
  induction snapshot generalizing turns calls p with
  | nil => exact ⟨rfl, fun _ hv => absurd hv List.not_mem_nil, hfree⟩
  | cons listen snapshot ih =>
    rw [workTurns]
    obtain ⟨hfree, hvalue⟩ := hstep hfree hvalue (turns 0).before
    set q := p >>= runAll P (turns 0).before
    set v := workVisit K data (turns 0) listen (calls ++ (turns 0).before) q
    have hright : v.Right K data :=
      workVisit_right K data (turns 0) h (hsnapshot listen List.mem_cons_self) hfree hvalue
    obtain ⟨hfree, hvalue⟩ := hstep hfree hvalue v.during
    obtain ⟨hlisteners, hvisits, hlast⟩ := ih (fun n => turns (n + 1))
      (fun l hl => hsnapshot l (List.mem_cons_of_mem _ hl)) _ _ hfree hvalue
    exact ⟨congrArg (List.cons listen) hlisteners, List.forall_mem_cons.mpr ⟨hright, hvisits⟩,
      hlast⟩

private theorem update_right (K : Payloads P) (event : InnerEvent P) (h : s.Sound)
    (turns : Nat → Turn σ) :
    let r := update K event turns s
    r.1.map Visit.listener = s.listeners.filter event.serves ∧ (∀ v ∈ r.1, v.Right K event.data) ∧
      NonRecursive r.2.actions := by
  have hwork (data : Option (UpdateInfo P)) (matchesListener : EventListener → Bool) :=
    workTurns_right (P := P) K data h turns (s.listeners.filter matchesListener)
      (fun l hl => List.mem_of_mem_filter hl) []
      (Locked.holding .exclusive (pure (s.listeners.filter matchesListener)) >>= fun _ => pure s)
      ((nonRecursive_append (Locked.nonRecursive_holding rfl)).mpr nonRecursive_nil) rfl
  unfold update InnerEvent.serves InnerEvent.data
  cases handleFunc event.innerEventId with
  | handleCallbackVoidUpdate eventType => exact hwork none _
  | handleCallbackInfoUpdate eventType =>
    cases event.object with
    | none =>
      refine ⟨?_, fun _ hv => absurd hv List.not_mem_nil, nonRecursive_nil⟩
      exact (List.filter_eq_nil_iff.mpr fun _ _ => Bool.false_ne_true).symm
    | some info => exact hwork (some info) _

/-- **Updates while the table changes.** Whatever the functions of the listeners and other
threads do meanwhile, an update gives one turn to each listener of the event that was in
the table at first, in the order of the table, and no turn to any other one. It hands on
those that have not been unregistered, and holds no mutex when it does. -/
theorem update_under_reentrance (P : Platform) {σ : Type} (K : Payloads P) (w : σ)
    (before : List (Request σ)) (event : InnerEvent P) (turns : Nat → Turn σ) :
    let s := (runAll P before (.start w)).value
    let copies := s.listeners.filter event.serves
    let r := update K event turns s
    r.1.map Visit.listener = copies ∧ copies.Nodup ∧ (∀ v ∈ r.1, v.Right K event.data) ∧
      NonRecursive r.2.actions := by
  intro s copies r
  have hsound : s.Sound := ((Observers.Sound.start w).runAll before).1
  obtain ⟨hlisteners, hright, hfree⟩ := update_right (P := P) K event hsound turns
  exact ⟨hlisteners, hsound.distinct.of_map.filter _, hright, hfree⟩

/-- Two listeners of the account changes. The function of the first one takes the second
one off and adds it again. -/
example (K : Payloads .dualSim) :
    let manager := registryManager fun _ => .telephonySuccess
    let on (funcId : Int) : Request (Finset Pair) := ⟨manager, .on .iccAccount 0 funcId 1⟩
    let off : Request (Finset Pair) := ⟨manager, .off .iccAccount 8⟩
    let s := (runAll .dualSim [on 7, on 8] (.start ∅)).value
    let visits := (update K ⟨.eventOnIccAccountUpdate, none⟩ (fun _ => ⟨[], true, [off, on 8]⟩) s).1
    visits.map (fun v => (v.listener.funcId, v.handed)) = [(7, true), (8, false)] := by
  rfl

end Cj

end TelephonyStateRegistry
