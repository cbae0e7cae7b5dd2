import Mathlib.Data.Finset.Erase
import Mathlib.Data.Finset.Insert

/-!
# Ledgers of objects

Objects are made and released. A ledger has the objects that are alive, and a record of
the releases, in which an object that is released twice appears twice.
-/

namespace Reactive

/-- What is done with an object. -/
inductive ObjectAction (α : Type*)
  | make (a : α)
  | release (a : α)
  deriving DecidableEq, Repr

/-- The objects that are alive, and the releases in order. -/
structure Ledger (α : Type*) where
  live : Finset α
  released : List α

namespace Ledger

variable {α : Type*} [DecidableEq α]

/-- No object has been made. -/
def empty : Ledger α := ⟨∅, []⟩

/-- The ledger after one action. -/
def after (L : Ledger α) : ObjectAction α → Ledger α
  | .make a => { L with live := insert a L.live }
  | .release a => ⟨L.live.erase a, L.released ++ [a]⟩

/-- The ledger after some actions. -/
def run (L : Ledger α) (actions : List (ObjectAction α)) : Ledger α := actions.foldl after L

@[simp] theorem run_nil (L : Ledger α) : L.run [] = L := rfl

@[simp] theorem run_cons (L : Ledger α) (action : ObjectAction α)
    (actions : List (ObjectAction α)) : L.run (action :: actions) = (L.after action).run actions :=
  rfl

/-- An action on an object that is new, or alive. -/
def Permits (L : Ledger α) : ObjectAction α → Prop
  | .make a => a ∉ L.live ∧ a ∉ L.released
  | .release a => a ∈ L.live

/-- No object was released twice, and those that were released are not alive. -/
structure Exact (L : Ledger α) : Prop where
  once : L.released.Nodup
  gone : ∀ a ∈ L.released, a ∉ L.live

omit [DecidableEq α] in
theorem exact_empty : (empty : Ledger α).Exact :=
  ⟨List.nodup_nil, fun _ h => absurd h List.not_mem_nil⟩

/-- Permitted actions keep a ledger exact. -/
theorem Exact.after {L : Ledger α} (h : L.Exact) {action : ObjectAction α}
    (hpermits : L.Permits action) : (L.after action).Exact := by
  cases action with
  | make a =>
    refine ⟨h.once, fun b hb => ?_⟩
    rw [Ledger.after, Finset.mem_insert, not_or]
    exact ⟨fun heq => hpermits.2 (heq ▸ hb), h.gone b hb⟩
  | release a =>
    have hfresh : a ∉ L.released := fun ha => h.gone a ha hpermits
    constructor
    · refine List.nodup_append.mpr ⟨h.once, List.nodup_singleton a, ?_⟩
      rintro b hb c hc rfl
      rw [List.mem_singleton.mp hc] at hb
      exact hfresh hb
    · intro b hb
      rw [Ledger.after, Finset.mem_erase, not_and]
      intro hne
      rcases List.mem_append.mp hb with hb | hb
      · exact h.gone b hb
      · exact absurd (List.mem_singleton.mp hb) hne

/-- Actions of which each is permitted when its turn comes. -/
def PermitsAll : Ledger α → List (ObjectAction α) → Prop
  | _, [] => True
  | L, action :: actions => L.Permits action ∧ PermitsAll (L.after action) actions

theorem Exact.run {L : Ledger α} (h : L.Exact) {actions : List (ObjectAction α)}
    (hpermits : L.PermitsAll actions) : (L.run actions).Exact := by
  induction actions generalizing L with
  | nil => exact h
  | cons action actions ih => exact ih (h.after hpermits.1) hpermits.2

end Ledger

end Reactive
