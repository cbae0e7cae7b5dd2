import Mathlib.Logic.Function.Basic

/-!
# Maps read through an inserting subscript

A map is the partial function from its keys to its values. Besides lookup and
assignment it has the subscript of a default-inserting container: reading an
absent key returns the default value and leaves that default in the map. The
value read is therefore stable under further subscripts, while the set of
present keys is not, and the two notions are kept apart below.
-/

namespace Reactive

/-- A map given by its lookup function. -/
def KeyMap (κ ν : Type*) := κ → Option ν

namespace KeyMap

variable {κ ν : Type*}

/-- The map without keys. -/
def empty : KeyMap κ ν := fun _ => none

/-- Lookup that inserts nothing. -/
def find? (m : KeyMap κ ν) (k : κ) : Option ν := m k

/-- The value of the subscript expression `m[k]`. -/
def read [Inhabited ν] (m : KeyMap κ ν) (k : κ) : ν := (m.find? k).getD default

@[ext] theorem ext {m n : KeyMap κ ν} (h : ∀ k, m.find? k = n.find? k) : m = n := funext h

@[simp] theorem find?_empty (k : κ) : (empty : KeyMap κ ν).find? k = none := rfl

@[simp] theorem read_empty [Inhabited ν] (k : κ) : (empty : KeyMap κ ν).read k = default := rfl

/-- The map in which every key is present with the value its subscript returns. -/
def total [Inhabited ν] (m : KeyMap κ ν) : KeyMap κ ν := fun k => some (m.read k)

@[simp] theorem read_total [Inhabited ν] (m : KeyMap κ ν) (k : κ) : m.total.read k = m.read k := rfl

@[simp] theorem total_total [Inhabited ν] (m : KeyMap κ ν) : m.total.total = m.total := rfl

variable [DecidableEq κ]

/-- Assignment through the subscript, `m[k] = v`. -/
def assign (m : KeyMap κ ν) (k : κ) (v : ν) : KeyMap κ ν :=
  fun j => if j = k then some v else m.find? j

/-- The map left behind by evaluating `m[k]`: an absent key gets the default value. -/
def touch [Inhabited ν] (m : KeyMap κ ν) (k : κ) : KeyMap κ ν :=
  match m.find? k with
  | some _ => m
  | none => m.assign k default

/-- Assignment changes exactly the assigned key. -/
theorem find?_assign (m : KeyMap κ ν) (k j : κ) (v : ν) :
    (m.assign k v).find? j = if j = k then some v else m.find? j := rfl

@[simp] theorem find?_assign_self (m : KeyMap κ ν) (k : κ) (v : ν) :
    (m.assign k v).find? k = some v := if_pos rfl

theorem read_assign [Inhabited ν] (m : KeyMap κ ν) (k j : κ) (v : ν) :
    (m.assign k v).read j = if j = k then v else m.read j := by
  simp only [read, find?_assign]
  split <;> rfl

/-- Assigning before or after filling in the defaults is the same. -/
@[simp] theorem total_assign [Inhabited ν] (m : KeyMap κ ν) (k : κ) (v : ν) :
    (m.assign k v).total = m.total.assign k v := by
  ext1 j
  rw [find?_assign]
  simp only [total, find?, read_assign]
  split <;> rfl

/-- Assignments to different keys commute. -/
theorem assign_comm (m : KeyMap κ ν) {j k : κ} (h : j ≠ k) (v w : ν) :
    (m.assign j v).assign k w = (m.assign k w).assign j v := by
  ext1 i
  simp only [find?_assign]
  by_cases hj : i = j
  · rw [if_neg (hj ▸ h), if_pos hj, if_pos hj]
  · rw [if_neg hj, if_neg hj]

/-- A present key makes the subscript a pure read. -/
theorem touch_of_present [Inhabited ν] {m : KeyMap κ ν} {k : κ} {v : ν}
    (h : m.find? k = some v) : m.touch k = m := by
  simp only [touch, h]

/-- The subscript adds at most its own key, with the default value. -/
theorem find?_touch [Inhabited ν] (m : KeyMap κ ν) (k j : κ) :
    (m.touch k).find? j =
      if j = k ∧ m.find? k = none then some default else m.find? j := by
  unfold touch
  split
  · rename_i v hv
    simp only [hv, reduceCtorEq, and_false, if_false]
  · rename_i hn
    simp only [find?_assign, hn, and_true]

/-- A second subscript of one key changes nothing. -/
theorem touch_touch [Inhabited ν] (m : KeyMap κ ν) (k : κ) : (m.touch k).touch k = m.touch k := by
  cases h : m.find? k with
  | none =>
    have hp : (m.touch k).find? k = some default := by
      simp only [find?_touch, h, and_self, if_true]
    exact touch_of_present hp
  | some v => rw [touch_of_present h, touch_of_present h]

/-- No subscript read changes what a later subscript returns. -/
@[simp] theorem read_touch [Inhabited ν] (m : KeyMap κ ν) (k j : κ) :
    (m.touch k).read j = m.read j := by
  simp only [read, find?_touch]
  split
  · rename_i h
    rw [h.1, h.2]
    rfl
  · rfl

@[simp] theorem total_touch [Inhabited ν] (m : KeyMap κ ν) (k : κ) :
    (m.touch k).total = m.total := by
  ext1 j
  simp only [total, find?, read_touch]

end KeyMap

end Reactive
