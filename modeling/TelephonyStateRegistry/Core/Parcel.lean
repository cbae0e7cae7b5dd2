import Mathlib.Algebra.GroupWithZero.Nat
import Mathlib.Algebra.Order.BigOperators.Group.List
import Mathlib.Algebra.Order.Group.Nat
import Mathlib.Data.List.Basic

/-!
# Buffers that are written and read back word by word

A reader takes words off the front of a buffer and always yields a value. Two
rules are kept for it: that it takes exactly the words a writer wrote and yields
the value written, and how many words it takes at most. Both compose along
sequences and along counted lists.
-/

namespace Reactive

universe u v

/-- A reader of buffers of words `ω`: the value read and the words left. -/
def Reader (ω α : Type*) := List ω → α × List ω

namespace Reader

variable {ω : Type v} {α β : Type u}

/-- Yield a value without reading. -/
def pure (a : α) : Reader ω α := fun ws => (a, ws)

/-- Read, and go on with the value. -/
def bind (r : Reader ω α) (f : α → Reader ω β) : Reader ω β := fun ws => f (r ws).1 (r ws).2

instance : Monad (Reader ω) where
  pure := pure
  bind := bind

theorem pure_apply (a : α) (ws : List ω) : (Pure.pure a : Reader ω α) ws = (a, ws) := rfl

theorem bind_apply (r : Reader ω α) (f : α → Reader ω β) (ws : List ω) :
    (r >>= f) ws = f (r ws).1 (r ws).2 := rfl

theorem map_apply (f : α → β) (r : Reader ω α) (ws : List ω) :
    (f <$> r) ws = (f (r ws).1, (r ws).2) := rfl

/-- Read a number of optional elements, and keep those that are there. -/
def collect (r : Reader ω (Option α)) : Nat → Reader ω (List α)
  | 0 => Pure.pure []
  | n + 1 => do
    let a ← r
    let as ← collect r n
    return a.toList ++ as

end Reader

section Reads

variable {ω : Type v} {α β : Type u}

/-- The reader takes exactly the given words, and yields the value, whatever follows. -/
def Reads (r : Reader ω α) (ws : List ω) (a : α) : Prop := ∀ rest, r (ws ++ rest) = (a, rest)

theorem Reads.pure (a : α) : Reads (Pure.pure a : Reader ω α) [] a := fun _ => rfl

theorem Reads.bind {r : Reader ω α} {f : α → Reader ω β} {ws vs : List ω} {a : α} {b : β}
    (hr : Reads r ws a) (hf : Reads (f a) vs b) : Reads (r >>= f) (ws ++ vs) b := by
  intro rest
  rw [Reader.bind_apply, List.append_assoc, hr (vs ++ rest)]
  exact hf rest

theorem Reads.map {r : Reader ω α} {ws : List ω} {a : α} (hr : Reads r ws a) (f : α → β) :
    Reads (f <$> r) ws (f a) := by
  intro rest
  rw [Reader.map_apply, hr rest]

/-- A sequence of readers reads a sequence of pieces. -/
theorem Reads.cons {r : Reader ω α} {f : α → Reader ω β} {ws : List ω} {vs : List (List ω)}
    {a : α} {b : β} (hr : Reads r ws a) (hf : Reads (f a) vs.flatten b) :
    Reads (r >>= f) (ws :: vs).flatten b := by
  rw [List.flatten_cons]
  exact hr.bind hf

/-- The last reader of a sequence. -/
theorem Reads.bind_pure {r : Reader ω α} {f : α → Reader ω β} {ws : List ω} {a : α} {b : β}
    (hr : Reads r ws a) (hf : Reads (f a) [] b) : Reads (r >>= f) ws b := by
  have h := hr.bind hf
  rwa [List.append_nil] at h

/-- A counted list is read back element by element. -/
theorem Reads.collect {r : Reader ω (Option α)} {xs : List β} {enc : β → List ω}
    {dec : β → Option α} (h : ∀ x ∈ xs, Reads r (enc x) (dec x)) :
    Reads (r.collect xs.length) (xs.flatMap enc) (xs.filterMap dec) := by
  induction xs with
  | nil => exact Reads.pure []
  | cons x xs ih =>
    obtain ⟨hx, hxs⟩ := List.forall_mem_cons.mp h
    rw [List.flatMap_cons, List.length_cons]
    have hcons : Reads (r.collect (xs.length + 1)) (enc x ++ xs.flatMap enc)
        ((dec x).toList ++ xs.filterMap dec) := hx.bind ((ih hxs).bind_pure (Reads.pure _))
    cases hd : dec x with
    | none => simpa only [List.filterMap_cons, hd, Option.toList_none, List.nil_append] using hcons
    | some a =>
      simpa only [List.filterMap_cons, hd, Option.toList_some, List.singleton_append] using hcons

end Reads

section Spends

variable {ω : Type v} {α : Type u}

/-- The reader takes at most as many words as its value accounts for. -/
def Spends (r : Reader ω α) (cost : α → Nat) : Prop :=
  ∀ ws, ws.length ≤ (r ws).2.length + cost (r ws).1

/-- A counted list takes what its elements account for, and at most one further
word for each round. -/
theorem Spends.collect {r : Reader ω (Option α)} {cost : α → Nat}
    (h : Spends r fun a => 1 + (a.elim 0 cost)) (n : Nat) :
    Spends (r.collect n) fun as => n + (as.map cost).sum := by
  induction n with
  | zero =>
    intro ws
    simp only [Reader.collect, Reader.pure_apply, List.map_nil, List.sum_nil]
    omega
  | succ n ih =>
    intro ws
    have hfirst : ws.length ≤ (r ws).2.length + (1 + (r ws).1.elim 0 cost) := h ws
    have hrest : (r ws).2.length ≤ (r.collect n (r ws).2).2.length +
        (n + ((r.collect n (r ws).2).1.map cost).sum) := ih (r ws).2
    have hsum : ∀ as : List α, (((r ws).1.toList ++ as).map cost).sum =
        (r ws).1.elim 0 cost + (as.map cost).sum := by
      intro as
      cases (r ws).1 <;> simp
    simp only [Reader.collect, Reader.bind_apply, Reader.pure_apply, hsum]
    omega

end Spends

section Yields

variable {ω : Type v} {α β : Type u} {p : α → Prop} {q : β → Prop}

/-- Whatever the buffer holds, the value read has the property. -/
def Yields (r : Reader ω α) (p : α → Prop) : Prop := ∀ ws, p (r ws).1

theorem Yields.any (r : Reader ω α) : Yields r fun _ => True := fun _ => trivial

theorem Yields.pure {a : α} (h : p a) : Yields (Pure.pure a : Reader ω α) p := fun _ => h

theorem Yields.bind {r : Reader ω α} {f : α → Reader ω β} (hr : Yields r p)
    (hf : ∀ a, p a → Yields (f a) q) : Yields (r >>= f) q := fun ws => hf _ (hr ws) _

theorem Yields.map {r : Reader ω α} {f : α → β} (hr : Yields r p) (hf : ∀ a, p a → q (f a)) :
    Yields (f <$> r) q := fun ws => hf _ (hr ws)

/-- A counted list has no more elements than rounds, each with the property. -/
theorem Yields.collect {r : Reader ω (Option α)} (hr : Yields r fun a => ∀ x ∈ a, p x) (n : Nat) :
    Yields (r.collect n) fun as => as.length ≤ n ∧ ∀ a ∈ as, p a := by
  induction n with
  | zero => exact Yields.pure ⟨Nat.le_refl _, List.forall_mem_nil p⟩
  | succ n ih =>
    refine hr.bind fun a ha => ih.bind fun as has => Yields.pure ⟨?_, ?_⟩
    · have hone : a.toList.length ≤ 1 := by cases a <;> simp
      rw [List.length_append]
      omega
    · intro x hx
      rcases List.mem_append.mp hx with hx | hx
      · exact ha x (Option.mem_toList.mp hx)
      · exact has.2 x hx

end Yields

/-- A format for values: how they are written and read back. -/
structure Codec (ω : Type v) (α : Type u) where
  write : α → List ω
  read : Reader ω α
  reads : ∀ a, Reads read (write a) a

/-- The same layout for values that convert to those of another format. -/
def Codec.comap {ω : Type v} {α β : Type u} (c : Codec ω α) (f : β → α) (g : α → β)
    (h : ∀ b, g (f b) = b) : Codec ω β where
  write b := c.write (f b)
  read := g <$> c.read
  reads b := by
    have hread := (c.reads (f b)).map g
    rwa [h] at hread

section Terminated

variable {ω : Type v} {α : Type u} [DecidableEq ω]

/-- Read elements up to a word that ends the list. -/
def readTerminated (dec : ω → α) (stop : ω) : Reader ω (List α)
  | [] => ([], [])
  | w :: ws =>
    if w = stop then ([], ws)
    else (dec w :: (readTerminated dec stop ws).1, (readTerminated dec stop ws).2)

/-- Lists of elements of one word each, up to a word that is no element. -/
def Codec.terminated (enc : α → ω) (dec : ω → α) (stop : ω) (hdec : ∀ a, dec (enc a) = a)
    (hstop : ∀ a, enc a ≠ stop) : Codec ω (List α) where
  write as := as.map enc ++ [stop]
  read := readTerminated dec stop
  reads := by
    intro as rest
    induction as with
    | nil => simp only [List.map_nil, List.nil_append, List.singleton_append, readTerminated,
        if_true]
    | cons a as ih =>
      rw [List.map_cons, List.cons_append, List.cons_append, readTerminated, if_neg (hstop a), ih,
        hdec]

/-- A terminated list takes a word for each element, and one to end. -/
theorem spends_terminated (dec : ω → α) (stop : ω) :
    Spends (readTerminated dec stop) fun as => as.length + 1 := by
  intro ws
  induction ws with
  | nil => exact Nat.zero_le _
  | cons w ws ih =>
    dsimp only at ih
    rw [readTerminated]
    split
    · simp only [List.length_cons, List.length_nil]
      omega
    · simp only [List.length_cons]
      omega

end Terminated

section Find

variable {ω : Type v} {κ : Type u} [DecidableEq ω] {tag : κ → ω} {kinds : List κ} {k : κ}

/-- Under distinct tags a search by tag finds the one that is there. -/
theorem find?_of_mem (htag : Function.Injective tag) (h : k ∈ kinds) :
    (kinds.find? fun j => tag j = tag k) = some k := by
  cases hf : kinds.find? fun j => tag j = tag k with
  | none =>
    have hne := List.find?_eq_none.mp hf k h
    simp only [decide_true, not_true_eq_false] at hne
  | some j =>
    have hj : decide (tag j = tag k) = true := List.find?_some (p := fun j => tag j = tag k) hf
    rw [htag (of_decide_eq_true hj)]

theorem find?_of_not_mem (htag : Function.Injective tag) (h : k ∉ kinds) :
    (kinds.find? fun j => tag j = tag k) = none := by
  apply List.find?_eq_none.mpr
  intro j hj heq
  exact h (htag (of_decide_eq_true heq) ▸ hj)

end Find

/-- A format for the objects of a family of classes: one word that names the
class, and a payload in the layout of the class. -/
structure TaggedFormat (ω κ α : Type*) where
  /-- The class of an object. -/
  kind : α → κ
  /-- The word that names a class. -/
  tag : κ → ω
  tag_injective : Function.Injective tag
  /-- What an object writes behind its tag. -/
  payload : α → List ω
  /-- What a fresh object of a class reads. -/
  read : κ → Reader ω α
  reads : ∀ a, Reads (read (kind a)) (payload a) a

/-- Read one word; an exhausted buffer yields a default. -/
def Reader.word {ω : Type*} (d : ω) : Reader ω ω
  | [] => (d, [])
  | w :: ws => (w, ws)

theorem Reads.word {ω : Type*} (d w : ω) : Reads (Reader.word d) [w] w := fun _ => rfl

namespace TaggedFormat

variable {ω α : Type u} {κ : Type v} (F : TaggedFormat ω κ α)

/-- Write an object: its tag, then its payload. -/
def write (a : α) : List ω := F.tag (F.kind a) :: F.payload a

/-- What is rebuilt of one of the classes is an object of that class. -/
def Rebuilds (kinds : List κ) : Prop := ∀ k ∈ kinds, Yields (F.read k) fun a => F.kind a = k

variable [DecidableEq ω] (d : ω) (kinds : List κ)

/-- Read a tag and then an object of that class, if the class is one of the given. -/
def readKnown : Reader ω (Option α) := do
  let w ← Reader.word d
  match kinds.find? fun k => F.tag k = w with
  | some k => some <$> F.read k
  | none => return none

/-- An object of a known class is read back. -/
theorem reads_known {a : α} (h : F.kind a ∈ kinds) :
    Reads (F.readKnown d kinds) (F.write a) (some a) := by
  change Reads _ ([F.tag (F.kind a)] ++ F.payload a) _
  apply (Reads.word d _).bind
  rw [find?_of_mem F.tag_injective h]
  exact (F.reads a).map some

/-- Of an object of an unknown class only the tag is taken. -/
theorem reads_unknown {a : α} (h : F.kind a ∉ kinds) :
    Reads (F.readKnown d kinds) [F.tag (F.kind a)] none := by
  apply (Reads.word d _).bind_pure
  rw [find?_of_not_mem F.tag_injective h]
  exact Reads.pure none

/-- A reader of objects takes a word, and what the object it found accounts for. -/
theorem spends_known (h : ∀ k ∈ kinds, Spends (F.read k) fun a => (F.payload a).length) :
    Spends (F.readKnown d kinds) fun a => 1 + a.elim 0 fun a => (F.payload a).length := by
  intro ws
  have hword : ws.length ≤ (Reader.word d ws).2.length + 1 := by
    cases ws with
    | nil => exact Nat.zero_le _
    | cons w ws => exact Nat.le_refl _
  rw [readKnown, Reader.bind_apply]
  cases hf : kinds.find? fun k => F.tag k = (Reader.word d ws).1 with
  | none =>
    change _ ≤ (Reader.word d ws).2.length + _
    exact hword
  | some k =>
    have hread : (Reader.word d ws).2.length ≤ (F.read k (Reader.word d ws).2).2.length +
        (F.payload (F.read k (Reader.word d ws).2).1).length :=
      h k (List.mem_of_find?_eq_some hf) (Reader.word d ws).2
    change _ ≤ (F.read k (Reader.word d ws).2).2.length +
      (1 + (F.payload (F.read k (Reader.word d ws).2).1).length)
    omega

/-- A reader of objects of known classes finds no others. -/
theorem yields_known (h : F.Rebuilds kinds) :
    Yields (F.readKnown d kinds) fun a => ∀ x ∈ a, F.kind x ∈ kinds := by
  refine (Yields.any (Reader.word d)).bind fun w _ => ?_
  cases hf : kinds.find? fun k => F.tag k = w with
  | none => exact Yields.pure (by simp)
  | some k =>
    have hk := List.mem_of_find?_eq_some hf
    refine (h k hk).map fun a ha x hx => ?_
    rw [← Option.some.inj hx, ha]
    exact hk

variable [DecidableEq κ]

omit [DecidableEq ω] in
private theorem length_flatMap_write (xs : List α) :
    (xs.flatMap F.write).length = xs.length +
      ((xs.filter fun a => F.kind a ∈ kinds).map fun a => (F.payload a).length).sum +
      ((xs.filter fun a => F.kind a ∉ kinds).map fun a => (F.payload a).length).sum := by
  induction xs with
  | nil => rfl
  | cons a xs ih =>
    by_cases h : F.kind a ∈ kinds
    · simp only [List.flatMap_cons, List.length_append, ih, write, List.length_cons,
        List.filter_cons, h, decide_true, if_true, not_true_eq_false, decide_false,
        Bool.false_eq_true, if_false, List.map_cons, List.sum_cons]
      omega
    · simp only [List.flatMap_cons, List.length_append, ih, write, List.length_cons,
        List.filter_cons, h, decide_false, not_false_eq_true, decide_true, if_true,
        Bool.false_eq_true, if_false, List.map_cons, List.sum_cons]
      omega

/-- **Where a tagged list survives classes its reader does not know.** The
reader finds the objects of the known classes, and the end of the list, exactly
when every object of an unknown class has an empty payload. -/
theorem collect_known_iff (h : ∀ k ∈ kinds, Spends (F.read k) fun a => (F.payload a).length)
    (xs : List α) (rest : List ω) :
    (F.readKnown d kinds).collect xs.length (xs.flatMap F.write ++ rest) =
        (xs.filter fun a => F.kind a ∈ kinds, rest) ↔
      ∀ a ∈ xs, F.kind a ∈ kinds ∨ F.payload a = [] := by
  constructor
  · intro hread a ha
    by_contra hnot
    obtain ⟨hkind, hpayload⟩ := not_or.mp hnot
    have hspent := (F.spends_known d kinds h).collect xs.length (xs.flatMap F.write ++ rest)
    rw [hread, List.length_append, F.length_flatMap_write kinds xs] at hspent
    -- the reader had no round left for the payload of the unknown object
    have hmem : (F.payload a).length ∈
        (xs.filter fun a => F.kind a ∉ kinds).map fun a => (F.payload a).length :=
      List.mem_map_of_mem (List.mem_filter.mpr ⟨ha, decide_eq_true hkind⟩)
    have hle := List.le_sum_of_mem hmem
    have hpos := List.length_pos_of_ne_nil hpayload
    dsimp only at hspent
    omega
  · intro hall
    let dec : α → Option α := fun a => if F.kind a ∈ kinds then some a else none
    have hreads : ∀ a ∈ xs, Reads (F.readKnown d kinds) (F.write a) (dec a) := by
      intro a ha
      by_cases hkind : F.kind a ∈ kinds
      · simp only [dec, hkind, if_true]
        exact F.reads_known d kinds hkind
      · have hempty := (hall a ha).resolve_left hkind
        simp only [dec, hkind, if_false, write, hempty]
        exact F.reads_unknown d kinds hkind
    have hdec : xs.filterMap dec = xs.filter fun a => F.kind a ∈ kinds := by
      rw [← List.filterMap_eq_filter]
      apply List.filterMap_congr
      intro a _
      simp only [dec, Option.guard_apply, decide_eq_true_eq]
    rw [← hdec]
    exact Reads.collect hreads rest

end TaggedFormat

end Reactive
