import Mathlib.Data.List.Forall2
import Mathlib.Data.List.Induction

/-!
# Deterministic reactive machines

A machine answers every input with an output and a next state. The rules here
are the only inductions over runs that a development needs: an invariant,
simulation between two machines, an invariant of the state together with the
outputs so far, the rule that an observation overwritten by some of the steps
equals the last value written, and the rules that inputs without any effect can
be left out, within one machine or between two. A rule may have a side condition
that is met along the run.
-/

namespace Reactive

/-- The last value that a partial reading of the inputs yields. -/
def lastOf {ι β : Type*} (f : ι → Option β) (is : List ι) : Option β := (is.filterMap f).getLast?

section LastOf

variable {ι β : Type*} (f : ι → Option β)

@[simp] theorem lastOf_nil : lastOf f [] = none := rfl

theorem lastOf_append (is js : List ι) :
    lastOf f (is ++ js) = (lastOf f js).or (lastOf f is) := by
  simp only [lastOf, List.filterMap_append, List.getLast?_append]

theorem lastOf_singleton (i : ι) : lastOf f [i] = f i := by
  cases h : f i <;> simp [lastOf, h]

/-- One more input either supplies the last value or leaves it. -/
theorem lastOf_concat (is : List ι) (i : ι) :
    lastOf f (is ++ [i]) = (f i).or (lastOf f is) := by
  rw [lastOf_append, lastOf_singleton]

/-- The last value was read off one of the inputs. -/
theorem exists_mem_of_lastOf {is : List ι} {b : β} (h : lastOf f is = some b) :
    ∃ i ∈ is, f i = some b :=
  List.mem_filterMap.mp (List.mem_of_getLast? h)

/-- Without a last value no input supplies any. -/
theorem lastOf_eq_none {is : List ι} : lastOf f is = none ↔ ∀ i ∈ is, f i = none := by
  simp only [lastOf, List.getLast?_eq_none_iff, List.filterMap_eq_nil_iff]

end LastOf

/-- A deterministic machine with states `σ`, inputs `ι` and outputs `ω`. -/
structure Mealy (σ ι ω : Type*) where
  /-- The next state together with the output. -/
  step : σ → ι → σ × ω

namespace Mealy

variable {σ ι ω β : Type*} (M : Mealy σ ι ω)

/-- The state after one input. -/
def next (s : σ) (i : ι) : σ := (M.step s i).1

/-- The output on one input. -/
def out (s : σ) (i : ι) : ω := (M.step s i).2

/-- The state after a list of inputs. -/
def run (s : σ) (is : List ι) : σ := is.foldl M.next s

/-- The outputs on a list of inputs, in order. -/
def outs : σ → List ι → List ω
  | _, [] => []
  | s, i :: is => M.out s i :: outs (M.next s i) is

@[simp] theorem run_nil (s : σ) : M.run s [] = s := rfl

@[simp] theorem run_cons (s : σ) (i : ι) (is : List ι) :
    M.run s (i :: is) = M.run (M.next s i) is := rfl

theorem run_append (s : σ) (is js : List ι) : M.run s (is ++ js) = M.run (M.run s is) js :=
  List.foldl_append

theorem run_concat (s : σ) (is : List ι) (i : ι) :
    M.run s (is ++ [i]) = M.next (M.run s is) i := by rw [run_append]; rfl

@[simp] theorem outs_nil (s : σ) : M.outs s [] = [] := rfl

@[simp] theorem outs_cons (s : σ) (i : ι) (is : List ι) :
    M.outs s (i :: is) = M.out s i :: M.outs (M.next s i) is := rfl

theorem outs_append (s : σ) (is js : List ι) :
    M.outs s (is ++ js) = M.outs s is ++ M.outs (M.run s is) js := by
  induction is generalizing s with
  | nil => rfl
  | cons i is ih => simp only [List.cons_append, outs_cons, run_cons, ih]

theorem outs_concat (s : σ) (is : List ι) (i : ι) :
    M.outs s (is ++ [i]) = M.outs s is ++ [M.out (M.run s is) i] := by rw [outs_append]; rfl

/-- Every output belongs to one input, given in the state its prefix reaches. -/
theorem exists_of_mem_outs {s : σ} {is : List ι} {o : ω} (h : o ∈ M.outs s is) :
    ∃ before i after, is = before ++ i :: after ∧ o = M.out (M.run s before) i := by
  induction is generalizing s with
  | nil => simp only [outs_nil, List.not_mem_nil] at h
  | cons i is ih =>
    rcases List.mem_cons.mp h with rfl | h
    · exact ⟨[], i, is, rfl, rfl⟩
    · obtain ⟨before, j, after, rfl, ho⟩ := ih h
      exact ⟨i :: before, j, after, rfl, ho⟩

/-- A property kept by every step holds at the end of every run. -/
theorem invariant {I : σ → Prop} (hstep : ∀ s i, I s → I (M.next s i)) {s : σ} (hs : I s)
    (is : List ι) : I (M.run s is) := by
  induction is generalizing s with
  | nil => exact hs
  | cons i is ih => exact ih (hstep s i hs)

/-- A side condition on state and input met by every step of a run. -/
def Along (G : σ → ι → Prop) : σ → List ι → Prop
  | _, [] => True
  | s, i :: is => G s i ∧ Along G (M.next s i) is

variable {M} in
theorem Along.append {G : σ → ι → Prop} {s : σ} {is js : List ι} :
    M.Along G s (is ++ js) ↔ M.Along G s is ∧ M.Along G (M.run s is) js := by
  induction is generalizing s with
  | nil => simp only [List.nil_append, Along, true_and, run_nil]
  | cons i is ih => simp only [List.cons_append, Along, run_cons, ih, and_assoc]

variable {M} in
theorem Along.concat {G : σ → ι → Prop} {s : σ} {is : List ι} {i : ι} :
    M.Along G s (is ++ [i]) ↔ M.Along G s is ∧ G (M.run s is) i := by
  simp only [Along.append, Along, and_true]

variable {M} in
theorem Along.and {G H : σ → ι → Prop} {s : σ} {is : List ι} (hg : M.Along G s is)
    (hh : M.Along H s is) : M.Along (fun s i => G s i ∧ H s i) s is := by
  induction is generalizing s with
  | nil => trivial
  | cons i is ih => exact ⟨⟨hg.1, hh.1⟩, ih hg.2 hh.2⟩

/-- A condition on the inputs alone. -/
theorem along_of_mem {F : ι → Prop} {is : List ι} (h : ∀ i ∈ is, F i) (s : σ) :
    M.Along (fun _ i => F i) s is := by
  induction is generalizing s with
  | nil => trivial
  | cons i is ih =>
    exact ⟨h i List.mem_cons_self, ih (fun j hj => h j (List.mem_cons_of_mem _ hj)) _⟩

/-- A property kept by every step that meets the side condition. -/
theorem invariant_along {G : σ → ι → Prop} {I : σ → Prop}
    (hstep : ∀ s i, G s i → I s → I (M.next s i)) {s : σ} (hs : I s) {is : List ι}
    (hg : M.Along G s is) : I (M.run s is) := by
  induction is generalizing s with
  | nil => exact hs
  | cons i is ih => exact ih (hstep s i hg.1 hs) hg.2

variable {M} in
/-- Two side conditions that agree in the states that a run reaches as long as
they are met are met along the same runs. -/
theorem along_iff_along {G H : σ → ι → Prop} {J I : σ → Prop}
    (hJ : ∀ s i, J s → J (M.next s i))
    (hGH : ∀ s i, J s → I s → (G s i ↔ H s i))
    (hI : ∀ s i, J s → I s → G s i → I (M.next s i)) {s : σ} (hj : J s) (hi : I s)
    (is : List ι) : M.Along G s is ↔ M.Along H s is := by
  induction is generalizing s with
  | nil => exact Iff.rfl
  | cons i is ih =>
    have hhead := hGH s i hj hi
    constructor
    · rintro ⟨hg, htail⟩
      exact ⟨hhead.mp hg, (ih (hJ s i hj) (hI s i hj hi hg)).mp htail⟩
    · rintro ⟨hh, htail⟩
      have hg := hhead.mpr hh
      exact ⟨hg, (ih (hJ s i hj) (hI s i hj hi hg)).mpr htail⟩

variable {M} in
/-- Where, among states that keep an invariant, a property passes to the next
state exactly under a side condition, it holds after every prefix of a run
exactly if the side condition is met along it. -/
theorem prefixes_iff_along {G : σ → ι → Prop} {J I : σ → Prop}
    (hJ : ∀ s i, J s → J (M.next s i))
    (hI : ∀ s i, J s → I s → (I (M.next s i) ↔ G s i)) {s : σ} (hj : J s) (hi : I s)
    (is : List ι) :
    (∀ before, before <+: is → I (M.run s before)) ↔ M.Along G s is := by
  induction is generalizing s with
  | nil =>
    refine iff_of_true ?_ trivial
    intro before hbefore
    rw [List.prefix_nil.mp hbefore]
    exact hi
  | cons i is ih =>
    constructor
    · intro h
      have hnext : I (M.next s i) := h [i] (List.cons_prefix_cons.mpr ⟨rfl, List.nil_prefix⟩)
      refine ⟨(hI s i hj hi).mp hnext, (ih (hJ s i hj) hnext).mp ?_⟩
      intro before hbefore
      exact h (i :: before) (List.cons_prefix_cons.mpr ⟨rfl, hbefore⟩)
    · rintro ⟨hg, halong⟩ before hbefore
      rcases List.prefix_cons_iff.mp hbefore with rfl | ⟨tail, rfl, htail⟩
      · exact hi
      · exact (ih (hJ s i hj) ((hI s i hj hi).mpr hg)).mpr halong tail htail

/-- Two machines whose steps keep a relation between their states and give
related outputs do so along runs on related inputs. -/
theorem simulation {τ κ υ : Type*} {N : Mealy τ κ υ} {R : σ → τ → Prop} {Q : ι → κ → Prop}
    {W : ω → υ → Prop}
    (hstep : ∀ s t i j, R s t → Q i j →
      R (M.next s i) (N.next t j) ∧ W (M.out s i) (N.out t j))
    {s : σ} {t : τ} (hst : R s t) {is : List ι} {js : List κ} (hij : List.Forall₂ Q is js) :
    R (M.run s is) (N.run t js) ∧ List.Forall₂ W (M.outs s is) (N.outs t js) := by
  induction hij generalizing s t with
  | nil => exact ⟨hst, .nil⟩
  | cons h _ ih =>
    obtain ⟨hR, hW⟩ := hstep s t _ _ hst h
    obtain ⟨hR', hW'⟩ := ih hR
    exact ⟨hR', .cons hW hW'⟩

/-- Where the steps of two machines keep a relation between their states, and give
the same output exactly under a side condition, the outputs of a run are the same
exactly if the condition is met along it. -/
theorem outs_eq_iff_along {τ : Type*} {N : Mealy τ ι ω} {R : σ → τ → Prop} {F : ι → Prop}
    {G : τ → ι → Prop}
    (hstep : ∀ s t i, F i → R s t →
      R (M.next s i) (N.next t i) ∧ (M.out s i = N.out t i ↔ G t i))
    {s : σ} {t : τ} (hst : R s t) {is : List ι} (his : ∀ i ∈ is, F i) :
    R (M.run s is) (N.run t is) ∧ (M.outs s is = N.outs t is ↔ N.Along G t is) := by
  induction is generalizing s t with
  | nil => exact ⟨hst, iff_of_true rfl trivial⟩
  | cons i is ih =>
    obtain ⟨hi, his⟩ := List.forall_mem_cons.mp his
    obtain ⟨hR, hout⟩ := hstep s t i hi hst
    obtain ⟨hR', houts⟩ := ih hR his
    refine ⟨hR', ?_⟩
    rw [outs_cons, outs_cons, List.cons.injEq, hout, houts]
    rfl

/-- A property of the state and of the outputs so far, kept by every step that
meets the side condition, holds at the end of the run. -/
theorem history_along {G : σ → ι → Prop} {I : σ → List ω → Prop}
    (hstep : ∀ s i outs, G s i → I s outs → I (M.next s i) (outs ++ [M.out s i])) {s : σ}
    (hs : I s []) {is : List ι} (hg : M.Along G s is) : I (M.run s is) (M.outs s is) := by
  induction is using List.reverseRecOn with
  | nil => exact hs
  | append_singleton is i ih =>
    obtain ⟨hg, hi⟩ := Along.concat.mp hg
    rw [run_concat, outs_concat]
    exact hstep _ _ _ hi (ih hg)

/-- An observation that some inputs overwrite and all others keep is, after a
run, the last value written. -/
theorem observe_run_along {G : σ → ι → Prop} {v : σ → Option β} {f : ι → Option β}
    (hstep : ∀ s i, G s i → v (M.next s i) = (f i).or (v s)) {s : σ} {is : List ι}
    (hg : M.Along G s is) : v (M.run s is) = (lastOf f is).or (v s) := by
  induction is using List.reverseRecOn with
  | nil => rfl
  | append_singleton is i ih =>
    obtain ⟨hg, hi⟩ := Along.concat.mp hg
    rw [run_concat, hstep _ _ hi, ih hg, lastOf_concat, Option.or_assoc]

/-- The same rule for an observation whose new value is read off the output. -/
theorem observe_outs_along {G : σ → ι → Prop} {v : σ → Option β} {f : ω → Option β}
    (hstep : ∀ s i, G s i → v (M.next s i) = (f (M.out s i)).or (v s)) {s : σ} {is : List ι}
    (hg : M.Along G s is) : v (M.run s is) = (lastOf f (M.outs s is)).or (v s) := by
  refine M.history_along (I := fun s' outs => v s' = (lastOf f outs).or (v s)) ?_ rfl hg
  intro s' i outs hi h
  rw [hstep s' i hi, h, lastOf_concat, Option.or_assoc]

/-- Where some inputs of one machine are inputs of another and the others leave its
state alone, the first machine follows the second on those inputs. -/
theorem run_filterMap {τ κ υ : Type*} {N : Mealy τ κ υ} {f : κ → Option ι} {v : τ → σ}
    {J : τ → Prop} (hJ : ∀ t k, J t → J (N.next t k))
    (hstep : ∀ t k, J t → v (N.next t k) = (f k).elim (v t) (M.next (v t))) {t : τ}
    (ht : J t) (ks : List κ) : v (N.run t ks) = M.run (v t) (ks.filterMap f) := by
  induction ks generalizing t with
  | nil => rfl
  | cons k ks ih =>
    rw [run_cons, ih (hJ t k ht), hstep t k ht]
    cases hk : f k with
    | none => rw [List.filterMap_cons_none hk, Option.elim_none]
    | some i => rw [List.filterMap_cons_some hk, Option.elim_some, run_cons]

/-- The inputs of a run whose outputs pass a test. -/
def prune (p : ω → Bool) : σ → List ι → List ι
  | _, [] => []
  | s, i :: is =>
    if p (M.out s i) then i :: prune p (M.next s i) is else prune p (M.next s i) is

/-- Where a step whose output fails the test keeps the state, such inputs can
be left out of a run without any effect on the rest of it. -/
theorem run_prune {p : ω → Bool} (h : ∀ s i, p (M.out s i) = false → M.next s i = s) (s : σ)
    (is : List ι) :
    M.run s (M.prune p s is) = M.run s is ∧
      M.outs s (M.prune p s is) = (M.outs s is).filter p := by
  induction is generalizing s with
  | nil => exact ⟨rfl, rfl⟩
  | cons i is ih =>
    cases hp : p (M.out s i) with
    | true =>
      obtain ⟨hrun, houts⟩ := ih (M.next s i)
      simp only [prune, hp, if_true, run_cons, outs_cons, hrun, houts, List.filter_cons_of_pos hp,
        and_self]
    | false =>
      have hs := h s i hp
      obtain ⟨hrun, houts⟩ := ih s
      have hfilter : (M.outs s (i :: is)).filter p = (M.outs s is).filter p := by
        rw [outs_cons, List.filter_cons_of_neg (by simp only [hp, Bool.false_eq_true,
          not_false_eq_true]), hs]
      simp only [prune, hp, Bool.false_eq_true, if_false, run_cons, hs, hrun, houts, hfilter,
        and_self]

end Mealy

end Reactive
