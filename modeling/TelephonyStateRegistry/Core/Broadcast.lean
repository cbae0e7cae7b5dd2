import Mathlib.Data.List.Basic

/-!
# A cell that is written and announced in two phases

Producers write a shared cell and announce what they wrote in a later step; in
between, other producers may write and announce. One watcher sees the
announcements that reach it, and may be shown the cell itself. Two facts about
a watcher that misses nothing are proved here. If producers take turns, it has
seen the cell whenever nothing is left to announce. If they do not, the last
thing it saw is either the cell or the last announcement.
-/

namespace Reactive

/-- A cell with the values that are written but not yet announced, in the order
of their writes, and what was announced and seen last. -/
structure Cell (V : Type*) where
  value : V
  pending : List V
  told : Option V
  seen : Option V

namespace Cell

variable {V : Type*}

/-- What can happen to a cell. -/
inductive Event (V : Type*)
  | idle
  | write (v : V)
  | announce (v : V)
  | miss (v : V)
  | refresh

/-- The transitions of a cell. An announcement takes some pending value, not
necessarily the oldest; the watcher may miss it. -/
inductive Step : Cell V → Event V → Cell V → Prop
  | idle (c : Cell V) : Step c .idle c
  | write (c : Cell V) (v : V) :
    Step c (.write v) { c with value := v, pending := c.pending ++ [v] }
  | announce (c : Cell V) (before : List V) (v : V) (after : List V)
    (h : c.pending = before ++ v :: after) :
    Step c (.announce v) { c with pending := before ++ after, told := some v, seen := some v }
  | miss (c : Cell V) (before : List V) (v : V) (after : List V)
    (h : c.pending = before ++ v :: after) :
    Step c (.miss v) { c with pending := before ++ after, told := some v }
  | refresh (c : Cell V) : Step c .refresh { c with seen := some c.value }

/-- The watcher is not passed over. -/
def Event.Reaches : Event V → Prop
  | miss _ => False
  | _ => True

/-- A write that waits for its turn. -/
def Event.InTurn (c : Cell V) : Event V → Prop
  | write _ => c.pending = []
  | _ => True

/-- At most the current value is left to announce. -/
def Serial (c : Cell V) : Prop := c.pending = [] ∨ c.pending = [c.value]

/-- With nothing left to announce, the watcher has seen the current value. -/
def UpToDate (c : Cell V) : Prop := c.pending = [] → c.seen = some c.value

/-- With nothing left to announce, the watcher saw last either the current value
or the last announcement. -/
def Settled (c : Cell V) : Prop := c.pending = [] → c.seen = c.told ∨ c.seen = some c.value

private theorem announced_of_serial {c : Cell V} (hc : c.Serial) {before after : List V} {v : V}
    (h : c.pending = before ++ v :: after) : v = c.value ∧ before ++ after = [] := by
  rcases hc with hp | hp
  · rw [hp] at h
    exact absurd h.symm (by simp)
  · rw [hp] at h
    cases before with
    | nil =>
      obtain ⟨hv, hafter⟩ := List.cons.inj h
      exact ⟨hv.symm, hafter.symm⟩
    | cons w before => exact absurd (List.cons.inj h).2.symm (by simp)

/-- Producers that take turns leave at most the current value to announce. -/
theorem Serial.step {c c' : Cell V} {e : Event V} (hc : c.Serial) (hstep : Step c e c')
    (hturn : e.InTurn c) : c'.Serial := by
  cases hstep with
  | idle => exact hc
  | write v =>
    have hnil : c.pending = [] := hturn
    exact Or.inr (by simp only [hnil, List.nil_append])
  | announce before v after h => exact Or.inl (announced_of_serial hc h).2
  | miss before v after h => exact Or.inl (announced_of_serial hc h).2
  | refresh => exact hc

/-- A watcher that misses nothing keeps up with producers that take turns. -/
theorem UpToDate.step {c c' : Cell V} {e : Event V} (h : c.UpToDate) (hc : c.Serial)
    (hstep : Step c e c') (hreach : e.Reaches) : c'.UpToDate := by
  intro hnil
  cases hstep with
  | idle => exact h hnil
  | write v => exact absurd hnil (by simp)
  | announce before v after hp => rw [(announced_of_serial hc hp).1]
  | miss before v after hp => exact hreach.elim
  | refresh => rfl

/-- A watcher that misses nothing last saw the cell or the last announcement. -/
theorem Settled.step {c c' : Cell V} {e : Event V} (h : c.Settled) (hstep : Step c e c')
    (hreach : e.Reaches) : c'.Settled := by
  intro hnil
  cases hstep with
  | idle => exact h hnil
  | write v => exact absurd hnil (by simp)
  | announce before v after hp => exact Or.inl rfl
  | miss before v after hp => exact hreach.elim
  | refresh => exact Or.inr rfl

end Cell

end Reactive
