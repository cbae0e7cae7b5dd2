import Mathlib.Data.List.Perm.Subperm
import TelephonyStateRegistry.Core.Mealy

/-!
# What passes through a machine

Items enter a machine, stay in it for some steps, and leave it with an output.
What has left, followed by what is still there, is compared with what was there,
followed by what has entered. If every step keeps the comparison, so does a run;
the comparison says whether items may be lost, and whether they may overtake each
other.
-/

namespace Reactive

/-- A comparison of lists that appending respects. -/
structure Accounting {β : Type*} (R : List β → List β → Prop) : Prop where
  trans : ∀ {a b c}, R a b → R b c → R a c
  refl : ∀ a, R a a
  append_left : ∀ {a b} c, R a b → R (c ++ a) (c ++ b)
  append_right : ∀ {a b} c, R a b → R (a ++ c) (b ++ c)

namespace Accounting

variable {β : Type*}

/-- Nothing is lost, and the order is kept. -/
theorem eq : Accounting (@Eq (List β)) where
  trans := Eq.trans
  refl _ := rfl
  append_left c := congrArg (c ++ ·)
  append_right c := congrArg (· ++ c)

/-- Items may be lost, and the order is kept. -/
theorem sublist : Accounting (@List.Sublist β) where
  trans := List.Sublist.trans
  refl := List.Sublist.refl
  append_left c h := h.append_left c
  append_right c h := h.append_right c

/-- Nothing is lost, and items may overtake each other. -/
theorem perm : Accounting (@List.Perm β) where
  trans := List.Perm.trans
  refl := List.Perm.refl
  append_left c h := h.append_left c
  append_right c h := h.append_right c

/-- Items may be lost, and they may overtake each other. -/
theorem subperm : Accounting (@List.Subperm β) where
  trans := List.Subperm.trans
  refl := List.Subperm.refl
  append_left c h := (List.subperm_append_left c).mpr h
  append_right c h := (List.subperm_append_right c).mpr h

end Accounting

namespace Mealy

variable {σ ι ω β : Type*} (M : Mealy σ ι ω)

/-- What enters in the course of a run. -/
def entered (enters : σ → ι → List β) : σ → List ι → List β
  | _, [] => []
  | s, i :: is => enters s i ++ entered enters (M.next s i) is

/-- What enters with the inputs alone. -/
theorem entered_of_inputs (f : ι → List β) (s : σ) (is : List ι) :
    M.entered (fun _ i => f i) s is = is.flatMap f := by
  induction is generalizing s with
  | nil => rfl
  | cons i is ih => rw [entered, ih, List.flatMap_cons]

/-- What has left in the course of some outputs. -/
def left (leaves : ω → List β) (outs : List ω) : List β := outs.flatMap leaves

variable {M}

/-- What leaves in the course of a run, where the states tell. -/
def departed (M : Mealy σ ι ω) (leaves : σ → ι → List β) : σ → List ι → List β := M.entered leaves

/-- What the outputs of a run tell, the states and inputs tell. -/
theorem left_outs (leaves : ω → List β) (s : σ) (is : List ι) :
    left leaves (M.outs s is) = M.departed (fun s i => leaves (M.out s i)) s is := by
  induction is generalizing s with
  | nil => rfl
  | cons i is ih =>
    have htail := ih (M.next s i)
    simp only [left, departed] at htail ⊢
    rw [outs_cons, List.flatMap_cons, htail, entered]

/-- Two kinds of items, apart and together. -/
theorem entered_append_perm (f g : σ → ι → List β) (s : σ) (is : List ι) :
    (M.entered (fun s i => f s i ++ g s i) s is).Perm (M.entered f s is ++ M.entered g s is) := by
  induction is generalizing s with
  | nil => exact List.Perm.refl _
  | cons i is ih =>
    simp only [entered]
    refine ((ih _).append_left _).trans ?_
    simp only [List.append_assoc]
    refine List.Perm.append_left _ ?_
    rw [← List.append_assoc, ← List.append_assoc]
    exact List.perm_append_comm.append_right _

/-- A comparison that every step keeps is kept by a run. -/
theorem account_along {R : List β → List β → Prop} (hR : Accounting R) {G : σ → ι → Prop}
    (content : σ → List β) {enters leaves : σ → ι → List β}
    (hstep : ∀ s i, G s i →
      R (leaves s i ++ content (M.next s i)) (content s ++ enters s i))
    {s : σ} {is : List ι} (hg : M.Along G s is) :
    R (M.departed leaves s is ++ content (M.run s is)) (content s ++ M.entered enters s is) := by
  induction is generalizing s with
  | nil =>
    rw [entered, List.append_nil]
    exact hR.refl _
  | cons i is ih =>
    have hlater := hR.append_left (leaves s i) (ih hg.2)
    have hnow := hR.append_right (M.entered enters (M.next s i) is) (hstep s i hg.1)
    simp only [departed, run_cons, entered, List.append_assoc] at hlater hnow ⊢
    exact hR.trans hlater hnow

/-- So it is if the outputs tell what leaves. -/
theorem flow_along {R : List β → List β → Prop} (hR : Accounting R) {G : σ → ι → Prop}
    (content : σ → List β) {enters : σ → ι → List β} {leaves : ω → List β}
    (hstep : ∀ s i, G s i →
      R (leaves (M.out s i) ++ content (M.next s i)) (content s ++ enters s i))
    {s : σ} {is : List ι} (hg : M.Along G s is) :
    R (left leaves (M.outs s is) ++ content (M.run s is))
      (content s ++ M.entered enters s is) := by
  rw [left_outs]
  exact account_along hR content hstep hg

/-- A side condition that is met, and what follows from it. -/
theorem Along.mono {G H : σ → ι → Prop} (h : ∀ s i, G s i → H s i) {s : σ} {is : List ι}
    (hg : M.Along G s is) : M.Along H s is := by
  induction is generalizing s with
  | nil => trivial
  | cons i is ih => exact ⟨h s i hg.1, ih hg.2⟩

/-- A property that the steps keep is a side condition that is met. -/
theorem Along.of_invariant {G : σ → ι → Prop} {I : σ → Prop}
    (hstep : ∀ s i, G s i → I s → I (M.next s i)) {s : σ} (hs : I s) {is : List ι}
    (hg : M.Along G s is) : M.Along (fun s i => I s ∧ G s i) s is := by
  induction is generalizing s with
  | nil => trivial
  | cons i is ih => exact ⟨⟨hs, hg.1⟩, ih (hstep s i hg.1 hs) hg.2⟩

end Mealy

end Reactive
