import Mathlib.Data.List.Nodup

/-!
# Loops that serve some of their elements

The body of a loop passes over an element, serves it, or fails. Two such loops
are compared element by element: one that ends at the first failure with one
that goes on, and one that serves fewer elements with one that serves more. They
serve the same list only if no element makes the difference. Of a loop that goes
on, an element that is there once sees what is made of it.
-/

namespace Reactive

variable {α β : Type*}

/-- What the body of a loop does with one element. -/
inductive Visit (β : Type*)
  | skip
  | serve (b : β)
  | fail

/-- What an element is served, if the loop reaches it. -/
def Visit.served : Visit β → Option β
  | serve b => some b
  | _ => none

/-- A loop that ends at the first failure. -/
def untilFailure (visit : α → Visit β) : List α → List β
  | [] => []
  | a :: as => match visit a with
    | .skip => untilFailure visit as
    | .serve b => b :: untilFailure visit as
    | .fail => []

/-- A loop that ends at the first failure serves as much as one that goes on
exactly if nothing behind a failure would be served. -/
theorem untilFailure_eq_iff (visit : α → Visit β) (as : List α) :
    untilFailure visit as = as.filterMap (fun a => (visit a).served) ↔
      as.Pairwise fun a b => visit a = .fail → (visit b).served = none := by
  induction as with
  | nil => exact iff_of_true rfl List.Pairwise.nil
  | cons a as ih =>
    rw [untilFailure, List.pairwise_cons]
    cases ha : visit a with
    | skip =>
      rw [List.filterMap_cons_none (by rw [ha]; rfl), ih]
      simp only [reduceCtorEq, false_imp_iff, implies_true, true_and]
    | serve b =>
      rw [List.filterMap_cons_some (by rw [ha]; rfl), List.cons.injEq, ih]
      simp only [reduceCtorEq, false_imp_iff, implies_true, true_and]
    | fail =>
      rw [List.filterMap_cons_none (by rw [ha]; rfl), eq_comm, List.filterMap_eq_nil_iff]
      constructor
      · intro hnone
        refine ⟨fun b hb _ => hnone b hb, List.pairwise_of_forall_mem_list ?_⟩
        intro b _ c hc _
        exact hnone c hc
      · rintro ⟨hnone, -⟩ b hb
        exact hnone b hb rfl

private theorem length_filterMap_le {f g : α → Option β} {as : List α}
    (h : ∀ a ∈ as, f a ≠ none → g a ≠ none) :
    (as.filterMap f).length ≤ (as.filterMap g).length := by
  induction as with
  | nil => exact Nat.le_refl 0
  | cons a as ih =>
    obtain ⟨ha, has⟩ := List.forall_mem_cons.mp h
    have hle := ih has
    cases hf : f a <;> cases hg : g a
    · rwa [List.filterMap_cons_none hf, List.filterMap_cons_none hg]
    · rw [List.filterMap_cons_none hf, List.filterMap_cons_some hg, List.length_cons]
      omega
    · exact absurd hg (ha (by rw [hf]; exact Option.some_ne_none _))
    · rw [List.filterMap_cons_some hf, List.filterMap_cons_some hg, List.length_cons,
        List.length_cons]
      omega

/-- If one loop serves whatever the other serves, then both serve the same list
exactly if they serve each element the same. -/
theorem filterMap_eq_filterMap_iff {f g : α → Option β} {as : List α}
    (h : ∀ a ∈ as, f a ≠ none → g a ≠ none) :
    as.filterMap f = as.filterMap g ↔ ∀ a ∈ as, f a = g a := by
  refine ⟨?_, List.filterMap_congr⟩
  induction as with
  | nil =>
    intro _ a ha
    exact absurd ha List.not_mem_nil
  | cons a as ih =>
    intro heq
    obtain ⟨ha, has⟩ := List.forall_mem_cons.mp h
    rw [List.forall_mem_cons]
    cases hf : f a with
    | none =>
      cases hg : g a with
      | none =>
        rw [List.filterMap_cons_none hf, List.filterMap_cons_none hg] at heq
        exact ⟨rfl, ih has heq⟩
      | some b =>
        -- the second list would be longer by one
        have hle := length_filterMap_le has
        rw [List.filterMap_cons_none hf, List.filterMap_cons_some hg] at heq
        rw [heq, List.length_cons] at hle
        omega
    | some c =>
      cases hg : g a with
      | none => exact absurd hg (ha (by rw [hf]; exact Option.some_ne_none _))
      | some b =>
        rw [List.filterMap_cons_some hf, List.filterMap_cons_some hg, List.cons.injEq] at heq
        exact ⟨congrArg some heq.1, ih has heq.2⟩

/-- The same of two loops that serve only some of the elements. -/
theorem filterMap_ite_eq_iff {p : α → Prop} [DecidablePred p] {f g : α → Option β} {as : List α}
    (h : ∀ a ∈ as, p a → f a ≠ none → g a ≠ none) :
    (as.filterMap fun a => if p a then f a else none) =
        (as.filterMap fun a => if p a then g a else none) ↔
      ∀ a ∈ as, p a → f a = g a := by
  have hboth : ∀ a ∈ as, (if p a then f a else none) ≠ none →
      (if p a then g a else none) ≠ none := by
    intro a ha hf
    split_ifs at hf ⊢ with hp
    · exact h a ha hp hf
    · exact hf
  rw [filterMap_eq_filterMap_iff hboth]
  refine forall₂_congr fun a _ => ?_
  split_ifs with hp
  · exact (imp_iff_right hp).symm
  · exact iff_of_true rfl fun htrue => absurd htrue hp

/-- If the results of a loop tell their elements, an element of a list without
duplicates has the result that is made of it. -/
theorem filter_filterMap_of_nodup [DecidableEq α] {f : α → Option β} {element : β → α}
    (h : ∀ a, ∀ b ∈ f a, element b = a) {as : List α} (hnodup : as.Nodup) {a : α} (ha : a ∈ as) :
    (as.filterMap f).filter (fun b => element b = a) = (f a).toList := by
  have hcons (c : α) (cs : List α) :
      ((c :: cs).filterMap f).filter (fun b => element b = a) =
        (if c = a then (f a).toList else []) ++
          (cs.filterMap f).filter fun b => element b = a := by
    cases hc : f c with
    | none =>
      rw [List.filterMap_cons_none hc]
      split_ifs with hca
      · rw [← hca, hc]
        rfl
      · rfl
    | some b =>
      rw [List.filterMap_cons_some hc, List.filter_cons, h c b hc]
      by_cases hca : c = a
      · rw [if_pos (decide_eq_true hca), if_pos hca, ← hca, hc]
        rfl
      · rw [if_neg (by simpa using hca), if_neg hca]
        rfl
  induction as with
  | nil => exact absurd ha List.not_mem_nil
  | cons c cs ih =>
    obtain ⟨hnotin, hcs⟩ := List.nodup_cons.mp hnodup
    rw [hcons]
    rcases List.mem_cons.mp ha with rfl | hmem
    · have hrest : (cs.filterMap f).filter (fun b => element b = a) = [] := by
        refine List.filter_eq_nil_iff.mpr ?_
        intro b hb helement
        obtain ⟨c, hc, hfc⟩ := List.mem_filterMap.mp hb
        exact hnotin (of_decide_eq_true helement ▸ h c b hfc ▸ hc)
      rw [if_pos rfl, hrest, List.append_nil]
    · have hne : c ≠ a := fun hca => hnotin (hca ▸ hmem)
      rw [if_neg hne, List.nil_append, ih hcs hmem]

/-- What an element sees of several loops, one after the other. -/
theorem filter_flatMap_filterMap_of_nodup {ε : Type*} [DecidableEq α] {f : ε → α → Option β}
    {element : β → α} (h : ∀ e a, ∀ b ∈ f e a, element b = a) {as : List α} (hnodup : as.Nodup)
    {a : α} (ha : a ∈ as) (events : List ε) :
    (events.flatMap fun e => as.filterMap (f e)).filter (fun b => element b = a) =
      events.filterMap fun e => f e a := by
  rw [List.filter_flatMap]
  simp only [filter_filterMap_of_nodup (h _) hnodup ha]
  induction events with
  | nil => rfl
  | cons e events ih =>
    rw [List.flatMap_cons, List.filterMap_cons, ih]
    cases f e a <;> rfl

end Reactive
