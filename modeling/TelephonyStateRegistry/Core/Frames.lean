import Mathlib.Data.List.Basic
import Mathlib.Data.List.Forall2

/-!
# Texts of delimited fields

A text is written field by field: each has something in front of its content, and something
that ends it. If no content has in it what ends it, the text can be read in one way only, and
so can several such texts in a row.
-/

namespace Reactive

variable {γ : Type*}

/-- A field of a text: what comes before its content, and what ends it. -/
structure TextField (γ : Type*) where
  before : List γ
  ends : γ

/-- The text of some fields with their contents. -/
def frame : List (TextField γ) → List (List γ) → List γ
  | field :: fields, content :: contents =>
    field.before ++ (content ++ field.ends :: frame fields contents)
  | _, _ => []

/-- There is a content for each field, which has not in it what ends the field. -/
def Framed (fields : List (TextField γ)) (contents : List (List γ)) : Prop :=
  List.Forall₂ (fun field content => field.ends ∉ content) fields contents

private theorem split_inj {a : γ} {content content' rest rest' : List γ} (h : a ∉ content)
    (h' : a ∉ content') (heq : content ++ a :: rest = content' ++ a :: rest') :
    content = content' ∧ rest = rest' := by
  induction content generalizing content' with
  | nil =>
    cases content' with
    | nil => exact ⟨rfl, (List.cons.inj heq).2⟩
    | cons b _ => exact absurd ((List.cons.inj heq).1 ▸ List.mem_cons_self) h'
  | cons b content ih =>
    have hcontent : a ∉ content := fun hmem => h (List.mem_cons_of_mem b hmem)
    cases content' with
    | nil => exact absurd ((List.cons.inj heq).1 ▸ List.mem_cons_self) h
    | cons b' content' =>
      obtain ⟨rfl, htail⟩ := List.cons.inj heq
      have hcontent' : a ∉ content' := fun hmem => h' (List.mem_cons_of_mem b hmem)
      obtain ⟨rfl, hrest⟩ := ih hcontent hcontent' htail
      exact ⟨rfl, hrest⟩

/-- A text and what follows it can be told apart. -/
theorem frame_append_inj {fields : List (TextField γ)} {contents contents' : List (List γ)}
    (h : Framed fields contents) (h' : Framed fields contents') {rest rest' : List γ}
    (heq : frame fields contents ++ rest = frame fields contents' ++ rest') :
    contents = contents' ∧ rest = rest' := by
  induction h generalizing contents' with
  | nil =>
    cases h'
    exact ⟨rfl, heq⟩
  | cons hcontent _ ih =>
    cases h' with
    | cons hcontent' htail' =>
      simp only [frame, List.append_assoc, List.cons_append, List.append_cancel_left_eq] at heq
      obtain ⟨rfl, htexts⟩ := split_inj hcontent hcontent' heq
      obtain ⟨rfl, hrest⟩ := ih htail' htexts
      exact ⟨rfl, hrest⟩

/-- So can several texts in a row, and what follows them, if that is no such text itself. -/
theorem frames_append_inj {fields : List (TextField γ)} {texts texts' : List (List (List γ))}
    (h : ∀ contents ∈ texts, Framed fields contents)
    (h' : ∀ contents ∈ texts', Framed fields contents) {rest rest' : List γ}
    (hrest : ∀ contents more, Framed fields contents → frame fields contents ++ more ≠ rest)
    (hrest' : ∀ contents more, Framed fields contents → frame fields contents ++ more ≠ rest')
    (heq : texts.flatMap (frame fields) ++ rest = texts'.flatMap (frame fields) ++ rest') :
    texts = texts' ∧ rest = rest' := by
  induction texts generalizing texts' with
  | nil =>
    cases texts' with
    | nil => exact ⟨rfl, heq⟩
    | cons contents' texts' =>
      rw [List.flatMap_cons, List.append_assoc] at heq
      exact absurd heq.symm (hrest contents' _ (h' contents' List.mem_cons_self))
  | cons contents texts ih =>
    obtain ⟨hcontents, htexts⟩ := List.forall_mem_cons.mp h
    cases texts' with
    | nil =>
      rw [List.flatMap_cons, List.append_assoc] at heq
      exact absurd heq (hrest' contents _ hcontents)
    | cons contents' texts' =>
      obtain ⟨hcontents', htexts'⟩ := List.forall_mem_cons.mp h'
      rw [List.flatMap_cons, List.flatMap_cons, List.append_assoc, List.append_assoc] at heq
      obtain ⟨rfl, hmore⟩ := frame_append_inj hcontents hcontents' heq
      obtain ⟨rfl, hrest⟩ := ih htexts htexts' hmore
      exact ⟨rfl, hrest⟩

end Reactive
