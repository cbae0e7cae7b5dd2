import TelephonyStateRegistry.Core.SharedTable

/-!
# Calls on a table, request by request

A call on a table holds the lock of the table from its start to its end, but the
provider may serve other clients between two of its requests. Here a call is
taken apart into what it does to the table and the requests that follow. Made
without interruption the parts amount to one step of the table. A client needs
the keys of its entries and the keys that it is about to withdraw, and each
request is for a key that it needs or is going to need.
-/

namespace Reactive

/-- Where a call on a table stands. -/
inductive Phase (ε κ ρ : Type*)
  | idle
  /-- The first entry of its key waits for its registration. -/
  | adding (e : ε)
  /-- Keys are withdrawn that no entry has any more. -/
  | withdrawing (ks : List κ) (result : ρ)

/-- A table with the call that is under way on it. -/
structure Client (ε κ ρ : Type*) where
  table : List ε
  phase : Phase ε κ ρ

/-- What a client does next: enter a call, or make a request of the one it is in. -/
inductive ClientStep (ε κ ρ σ : Type*)
  | enter (call : TableCall ε)
  | request (p : Provider σ κ ρ)

namespace Sharing

variable {ε κ ρ σ : Type*} [DecidableEq κ] [DecidableEq ρ] (T : Sharing ε κ ρ)

/-- Enter a call, up to its first request; a call has to wait for the one before it. -/
def enter (call : TableCall ε) (c : Client ε κ ρ) : Client ε κ ρ × Option ρ :=
  match c.phase with
  | .idle =>
    match call with
    | .subscribe same e =>
      match T.standing same (T.key e) .diff c.table with
      | .same => (c, some T.already)
      | .keySame => (⟨c.table ++ [e], .idle⟩, some T.success)
      | .diff => (⟨c.table, .adding e⟩, none)
    | .release drop =>
      if c.table.isEmpty then (c, some T.success)
      else (⟨c.table.filter fun e => !drop e,
        .withdrawing (T.affected (c.table.filter drop)) T.success⟩, none)
  | _ => (c, none)

/-- The next request of a call, or its end. -/
def request (p : Provider σ κ ρ) (s : Client ε κ ρ × σ) : (Client ε κ ρ × σ) × Option ρ :=
  let table := s.1.table
  match s.1.phase with
  | .idle => (s, none)
  | .adding e =>
    let (result, provider) := p.add (T.key e) s.2
    if result = T.success then ((⟨table ++ [e], .idle⟩, provider), some T.success)
    else ((⟨table, .idle⟩, provider), some result)
  | .withdrawing [] result => ((⟨table, .idle⟩, s.2), some result)
  | .withdrawing (k :: ks) result =>
    if table.any fun e => T.key e = k then ((⟨table, .withdrawing ks result⟩, s.2), none)
    else
      let (r, provider) := p.remove k s.2
      if r = T.success then ((⟨table, .withdrawing ks result⟩, provider), none)
      else if T.stops then ((⟨table, .idle⟩, provider), some r)
      else ((⟨table, .withdrawing ks r⟩, provider), none)

/-- A client and its provider as a machine over the parts of calls. -/
def requests : Mealy (Client ε κ ρ × σ) (ClientStep ε κ ρ σ) (Option ρ) where
  step s input := match input with
    | .enter call =>
      let (c, result) := T.enter call s.1
      ((c, s.2), result)
    | .request p => T.request p s

/-! ## Without interruption -/

section Uninterrupted

variable (p : Provider σ κ ρ)

private theorem requests_withdraw (table : List ε) (ks : List κ) (result : ρ) (s : σ) :
    ∃ n, T.requests.run (⟨table, .withdrawing ks result⟩, s) (List.replicate n (.request p)) =
        (⟨table, .idle⟩, (T.withdraw p table ks result s).2) ∧
      (T.requests.outs (⟨table, .withdrawing ks result⟩, s)
        (List.replicate n (.request p))).getLast? =
        some (some (T.withdraw p table ks result s).1) := by
  have hcons : ∀ {t t' : Client ε κ ρ × σ} {a : ρ × σ}, T.request p t = (t', none) →
      (∃ n, T.requests.run t' (List.replicate n (.request p)) = (⟨table, .idle⟩, a.2) ∧
        (T.requests.outs t' (List.replicate n (.request p))).getLast? = some (some a.1)) →
      ∃ n, T.requests.run t (List.replicate n (.request p)) = (⟨table, .idle⟩, a.2) ∧
        (T.requests.outs t (List.replicate n (.request p))).getLast? = some (some a.1) := by
    rintro t t' a ht ⟨n, hrun, houts⟩
    have hnext : T.requests.next t (.request p) = t' := congrArg Prod.fst ht
    refine ⟨n + 1, ?_, ?_⟩
    · rw [List.replicate_succ, Mealy.run_cons, hnext, hrun]
    · rw [List.replicate_succ, Mealy.outs_cons, hnext, List.getLast?_cons, houts]
      rfl
  induction ks generalizing result s with
  | nil => exact ⟨1, rfl, rfl⟩
  | cons k ks ih =>
    rw [withdraw]
    by_cases hkept : (table.any fun e => T.key e = k) = true
    · rw [if_pos hkept]
      exact hcons (by simp only [request, hkept, if_true]) (ih result s)
    · rw [if_neg hkept]
      dsimp only
      by_cases hr : (p.remove k s).1 = T.success
      · rw [if_pos hr]
        exact hcons (by simp only [request, hkept, hr, if_true, if_false, Bool.false_eq_true])
          (ih result _)
      · rw [if_neg hr]
        by_cases hstops : T.stops = true
        · rw [if_pos hstops]
          have hstep : T.request p (⟨table, .withdrawing (k :: ks) result⟩, s) =
              ((⟨table, .idle⟩, (p.remove k s).2), some (p.remove k s).1) := by
            simp only [request, hkept, hr, hstops, if_true, if_false, Bool.false_eq_true]
          exact ⟨1, congrArg Prod.fst hstep,
            congrArg (fun o : (Client ε κ ρ × σ) × Option ρ => some o.2) hstep⟩
        · rw [if_neg hstops]
          exact hcons (by simp only [request, hkept, hr, hstops, if_false, Bool.false_eq_true])
            (ih _ _)

/-- Entered in an idle state and made without interruption, a call is one step
of the table. -/
theorem requests_uninterrupted (call : TableCall ε) (table : List ε) (s : σ) :
    ∃ n, T.requests.run (⟨table, .idle⟩, s) (.enter call :: List.replicate n (.request p)) =
        (⟨(T.machine.next (table, s) (p, call)).1, .idle⟩,
          (T.machine.next (table, s) (p, call)).2) ∧
      (T.requests.outs (⟨table, .idle⟩, s)
        (.enter call :: List.replicate n (.request p))).getLast? =
        some (some (T.machine.out (table, s) (p, call))) := by
  cases call with
  | subscribe same e =>
    simp only [Mealy.next, Mealy.out, machine, subscribe]
    cases hs : T.standing same (T.key e) .diff table with
    | same =>
      have henter : T.enter (.subscribe same e) ⟨table, .idle⟩ =
          (⟨table, .idle⟩, some T.already) := by simp only [enter, hs]
      exact ⟨0, congrArg (fun o : Client ε κ ρ × Option ρ => (o.1, s)) henter,
        congrArg (fun o : Client ε κ ρ × Option ρ => some o.2) henter⟩
    | keySame =>
      have henter : T.enter (.subscribe same e) ⟨table, .idle⟩ =
          (⟨table ++ [e], .idle⟩, some T.success) := by simp only [enter, hs]
      exact ⟨0, congrArg (fun o : Client ε κ ρ × Option ρ => (o.1, s)) henter,
        congrArg (fun o : Client ε κ ρ × Option ρ => some o.2) henter⟩
    | diff =>
      have henter : T.requests.next (⟨table, .idle⟩, s) (.enter (.subscribe same e)) =
          (⟨table, .adding e⟩, s) := by simp only [Mealy.next, requests, enter, hs]
      refine ⟨1, ?_, ?_⟩
      · rw [Mealy.run_cons, henter]
        simp only [List.replicate_one, Mealy.run_cons, Mealy.run_nil, Mealy.next, requests, request]
        split <;> rfl
      · rw [Mealy.outs_cons, henter]
        simp only [List.replicate_one, Mealy.outs_cons, Mealy.outs_nil, Mealy.out, requests,
          request, List.getLast?_cons_cons, List.getLast?_singleton]
        split <;> rfl
  | release drop =>
    simp only [Mealy.next, Mealy.out, machine, release]
    by_cases hempty : table.isEmpty = true
    · have henter : T.enter (.release drop) ⟨table, .idle⟩ =
          (⟨table, .idle⟩, some T.success) := by simp only [enter, hempty, if_true]
      rw [if_pos hempty]
      exact ⟨0, congrArg (fun o : Client ε κ ρ × Option ρ => (o.1, s)) henter,
        congrArg (fun o : Client ε κ ρ × Option ρ => some o.2) henter⟩
    · have henter : T.requests.next (⟨table, .idle⟩, s) (.enter (.release drop)) =
          (⟨table.filter fun e => !drop e,
            .withdrawing (T.affected (table.filter drop)) T.success⟩, s) := by
        simp only [Mealy.next, requests, enter, hempty, if_false, Bool.false_eq_true]
      rw [if_neg hempty]
      obtain ⟨n, hrun, houts⟩ := T.requests_withdraw p (table.filter fun e => !drop e)
        (T.affected (table.filter drop)) T.success s
      refine ⟨n, ?_, ?_⟩
      · rw [Mealy.run_cons, henter, hrun]
      · rw [Mealy.outs_cons, henter, List.getLast?_cons, houts]
        rfl

end Uninterrupted

/-! ## The keys of the table -/

omit [DecidableEq ρ] in
/-- A call that is entered brings no new key into the table. -/
theorem key_of_enter {call : TableCall ε} {c : Client ε κ ρ} {k : κ}
    (h : ∃ e ∈ (T.enter call c).1.table, T.key e = k) : ∃ e ∈ c.table, T.key e = k := by
  obtain ⟨table, phase⟩ := c
  cases phase with
  | adding e => exact h
  | withdrawing ks result => exact h
  | idle =>
    cases call with
    | subscribe same e =>
      rcases T.standing_cases same (T.key e) .diff table (by decide) with
        ⟨hs, -⟩ | ⟨-, ⟨hs, d, hd, hkey⟩ | ⟨hs, -⟩⟩ <;> simp only [enter, hs] at h
      · exact h
      · obtain ⟨c, hc, hck⟩ := h
        rcases List.mem_append.mp hc with hc | hc
        · exact ⟨c, hc, hck⟩
        · rw [List.mem_singleton.mp hc, ← hkey] at hck
          exact ⟨d, hd, hck⟩
      · exact h
    | release drop =>
      rw [enter] at h
      dsimp only at h
      split at h
      · exact h
      · obtain ⟨e, he, hkey⟩ := h
        exact ⟨e, (List.mem_filter.mp he).1, hkey⟩

omit [DecidableEq ρ] in
/-- What a subscription that is entered finds. -/
theorem enter_subscribe (same : ε → Bool) (e : ε) {c : Client ε κ ρ} (h : c.phase = .idle) :
    ((∃ d ∈ c.table, same d = true) ∧
      (T.enter (.subscribe same e) c).2 = some T.already) ∨
    (((∀ d ∈ c.table, same d = false) ∧ ∃ d ∈ c.table, T.key d = T.key e) ∧
      (T.enter (.subscribe same e) c).2 = some T.success) ∨
    ((∀ d ∈ c.table, T.key d ≠ T.key e) ∧ (T.enter (.subscribe same e) c).2 = none) := by
  obtain ⟨table, phase⟩ := c
  obtain rfl : phase = .idle := h
  rcases T.standing_cases same (T.key e) .diff table (by decide) with
    ⟨hs, hsame⟩ | ⟨hall, ⟨hs, hkey⟩ | ⟨hs, hfree⟩⟩ <;> simp only [enter, hs]
  · exact Or.inl ⟨hsame, trivial⟩
  · exact Or.inr (Or.inl ⟨⟨hall, hkey⟩, trivial⟩)
  · exact Or.inr (Or.inr ⟨hfree, trivial⟩)

/-- The request for a registration ends its call. -/
theorem request_adding (p : Provider σ κ ρ) {s : Client ε κ ρ × σ} {e : ε}
    (h : s.1.phase = .adding e) :
    let (result, provider) := p.add (T.key e) s.2
    T.request p s =
      if result = T.success then ((⟨s.1.table ++ [e], .idle⟩, provider), some T.success)
      else ((⟨s.1.table, .idle⟩, provider), some result) := by
  obtain ⟨⟨table, phase⟩, w⟩ := s
  obtain rfl : phase = .adding e := h
  rfl

/-- Any other request leaves the table, and withdraws no key of it. -/
theorem request_other (p : Provider σ κ ρ) {s : Client ε κ ρ × σ}
    (h : ∀ e, s.1.phase ≠ .adding e) :
    (T.request p s).1.1.table = s.1.table ∧
      ((T.request p s).1.2 = s.2 ∨
        ∃ k, (∀ e ∈ s.1.table, T.key e ≠ k) ∧ (T.request p s).1.2 = (p.remove k s.2).2) := by
  obtain ⟨⟨table, phase⟩, w⟩ := s
  cases phase with
  | idle => exact ⟨rfl, Or.inl rfl⟩
  | adding e => exact absurd rfl (h e)
  | withdrawing ks result =>
    cases ks with
    | nil => exact ⟨rfl, Or.inl rfl⟩
    | cons k ks =>
      by_cases hkept : (table.any fun e => T.key e = k) = true
      · simp only [request, hkept, if_true]
        exact ⟨trivial, Or.inl trivial⟩
      · have hfree := T.free_of_not_kept hkept
        simp only [request, hkept, if_false, Bool.false_eq_true]
        split_ifs <;> exact ⟨rfl, Or.inr ⟨k, hfree, rfl⟩⟩

/-! ## The keys that a client needs -/

/-- The keys of the entries, and those that are still to be withdrawn. -/
def Needs (c : Client ε κ ρ) (k : κ) : Prop :=
  (∃ e ∈ c.table, T.key e = k) ∨ ∃ ks result, c.phase = .withdrawing ks result ∧ k ∈ ks

/-- No key is withdrawn twice in one call. -/
def WithdrawsOnce (c : Client ε κ ρ) : Prop :=
  ∀ ks result, c.phase = .withdrawing ks result → ks.Nodup

omit [DecidableEq κ] [DecidableEq ρ] in
private theorem needs_of_idle {table : List ε} {k : κ}
    (h : T.Needs (⟨table, .idle⟩ : Client ε κ ρ) k) : ∃ e ∈ table, T.key e = k := by
  rcases h with h | ⟨ks, result, hphase, -⟩
  · exact h
  · cases hphase

omit [DecidableEq ρ] in
/-- A call that is entered needs no new keys. -/
theorem needs_enter {call : TableCall ε} {c : Client ε κ ρ} {k : κ}
    (h : T.Needs (T.enter call c).1 k) : T.Needs c k := by
  rcases h with h | ⟨ks, result, hphase, hk⟩
  · exact Or.inl (T.key_of_enter h)
  · obtain ⟨table, phase⟩ := c
    cases phase with
    | adding e => cases hphase
    | withdrawing js r => exact Or.inr ⟨ks, result, hphase, hk⟩
    | idle =>
      cases call with
      | subscribe same e =>
        simp only [enter] at hphase
        split at hphase <;> cases hphase
      | release drop =>
        rw [enter] at hphase
        dsimp only at hphase
        split at hphase
        · cases hphase
        · cases hphase
          obtain ⟨e, he, hkey⟩ := T.mem_affected.mp hk
          exact Or.inl ⟨e, (List.mem_filter.mp he).1, hkey⟩

omit [DecidableEq ρ] in
theorem WithdrawsOnce.enter {c : Client ε κ ρ} (h : WithdrawsOnce c) (call : TableCall ε) :
    WithdrawsOnce (T.enter call c).1 := by
  obtain ⟨table, phase⟩ := c
  cases phase with
  | adding e => exact h
  | withdrawing ks result => exact h
  | idle =>
    cases call with
    | subscribe same e =>
      simp only [Sharing.enter]
      split <;>
      · intro ks result hphase
        cases hphase
    | release drop =>
      simp only [Sharing.enter]
      split
      · intro ks result hphase
        cases hphase
      · intro ks result hphase
        cases hphase
        exact ((List.perm_insertionSort _ _).nodup_iff).mpr (List.nodup_dedup _)

theorem WithdrawsOnce.request {s : Client ε κ ρ × σ} (h : WithdrawsOnce s.1)
    (p : Provider σ κ ρ) : WithdrawsOnce (T.request p s).1.1 := by
  obtain ⟨⟨table, phase⟩, w⟩ := s
  cases phase with
  | idle => exact nofun
  | adding e =>
    simp only [Sharing.request]
    split <;> exact nofun
  | withdrawing ks result =>
    cases ks with
    | nil => exact nofun
    | cons k ks =>
      have hks := (List.nodup_cons.mp (h _ _ rfl)).2
      simp only [Sharing.request]
      split_ifs
      · rintro js r hphase
        cases hphase
        exact hks
      · rintro js r hphase
        cases hphase
        exact hks
      · exact nofun
      · rintro js r hphase
        cases hphase
        exact hks

/-- What a request can do: nothing to the provider, a registration of a key of
which the client has no entry yet, or the removal of a key that it does not need
any more. -/
theorem request_cases (p : Provider σ κ ρ) {s : Client ε κ ρ × σ} (h : WithdrawsOnce s.1) :
    ((T.request p s).1.2 = s.2 ∧ ∀ k, T.Needs (T.request p s).1.1 k → T.Needs s.1 k) ∨
    (∃ e, s.1.phase = .adding e ∧ (T.request p s).1.2 = (p.add (T.key e) s.2).2 ∧
      ∀ k, T.Needs (T.request p s).1.1 k →
        T.Needs s.1 k ∨ (k = T.key e ∧ (p.add (T.key e) s.2).1 = T.success)) ∨
    (∃ k, T.Needs s.1 k ∧ (T.request p s).1.2 = (p.remove k s.2).2 ∧
      ∀ j, T.Needs (T.request p s).1.1 j → T.Needs s.1 j ∧ j ≠ k) := by
  obtain ⟨⟨table, phase⟩, w⟩ := s
  cases phase with
  | idle => exact Or.inl ⟨rfl, fun k hk => hk⟩
  | adding e =>
    right
    left
    refine ⟨e, rfl, ?_⟩
    simp only [request]
    split
    · rename_i hadd
      refine ⟨rfl, ?_⟩
      intro k hk
      obtain ⟨d, hd, hdk⟩ := T.needs_of_idle hk
      rcases List.mem_append.mp hd with hd | hd
      · exact Or.inl (Or.inl ⟨d, hd, hdk⟩)
      · rw [List.mem_singleton.mp hd] at hdk
        exact Or.inr ⟨hdk.symm, hadd⟩
    · refine ⟨rfl, ?_⟩
      intro k hk
      exact Or.inl (Or.inl (T.needs_of_idle hk))
  | withdrawing ks result =>
    cases ks with
    | nil =>
      refine Or.inl ⟨rfl, ?_⟩
      intro k hk
      exact Or.inl (T.needs_of_idle hk)
    | cons k ks =>
      have hnodup := (List.nodup_cons.mp (h _ _ rfl)).1
      have htail : ∀ {r : ρ} {j : κ}, T.Needs (⟨table, .withdrawing ks r⟩ : Client ε κ ρ) j →
          (∃ e ∈ table, T.key e = j) ∨ j ∈ ks := by
        rintro r j (hj | ⟨js, r', hphase, hj⟩)
        · exact Or.inl hj
        · cases hphase
          exact Or.inr hj
      have hmore : ∀ {j : κ}, j ∈ k :: ks →
          T.Needs (⟨table, .withdrawing (k :: ks) result⟩ : Client ε κ ρ) j := fun hj =>
        Or.inr ⟨_, _, rfl, hj⟩
      by_cases hkept : (table.any fun e => T.key e = k) = true
      · simp only [request, hkept, if_true]
        refine Or.inl ⟨trivial, ?_⟩
        intro j hj
        exact (htail hj).elim Or.inl fun hj => hmore (List.mem_cons_of_mem _ hj)
      · have hfree := T.free_of_not_kept hkept
        have hgone : ∀ {j : κ}, ((∃ e ∈ table, T.key e = j) ∨ j ∈ ks) →
            T.Needs (⟨table, .withdrawing (k :: ks) result⟩ : Client ε κ ρ) j ∧ j ≠ k := by
          rintro j (⟨e, he, rfl⟩ | hj)
          · exact ⟨Or.inl ⟨e, he, rfl⟩, hfree e he⟩
          · refine ⟨hmore (List.mem_cons_of_mem _ hj), ?_⟩
            rintro rfl
            exact hnodup hj
        refine Or.inr (Or.inr ⟨k, hmore List.mem_cons_self, ?_⟩)
        simp only [request, hkept, if_false, Bool.false_eq_true]
        split_ifs
        · exact ⟨rfl, fun j hj => hgone (htail hj)⟩
        · exact ⟨rfl, fun j hj => hgone (Or.inl (T.needs_of_idle hj))⟩
        · exact ⟨rfl, fun j hj => hgone (htail hj)⟩

/-! ## A provider that holds what its clients need -/

omit [DecidableEq ρ] in
/-- Entering a call changes nothing about the keys that are needed. -/
theorem needs_enter_iff (call : TableCall ε) (c : Client ε κ ρ) (k : κ) :
    T.Needs (T.enter call c).1 k ↔ T.Needs c k := by
  refine ⟨T.needs_enter, fun h => ?_⟩
  obtain ⟨table, phase⟩ := c
  cases phase with
  | adding e => exact h
  | withdrawing ks result => exact h
  | idle =>
    obtain ⟨e, he, hkey⟩ := T.needs_of_idle h
    cases call with
    | subscribe same d =>
      simp only [enter]
      split
      · exact Or.inl ⟨e, he, hkey⟩
      · exact Or.inl ⟨e, List.mem_append_left _ he, hkey⟩
      · exact Or.inl ⟨e, he, hkey⟩
    | release drop =>
      simp only [enter]
      split
      · exact Or.inl ⟨e, he, hkey⟩
      · cases hdrop : drop e with
        | false =>
          exact Or.inl ⟨e, List.mem_filter.mpr ⟨he, by rw [hdrop, Bool.not_false]⟩, hkey⟩
        | true =>
          exact Or.inr ⟨_, _, rfl, T.mem_affected.mpr ⟨e, List.mem_filter.mpr ⟨he, hdrop⟩, hkey⟩⟩

/-- The entry that waits for its registration is the first of its key. -/
def AddsNew (c : Client ε κ ρ) : Prop :=
  ∀ e, c.phase = .adding e → ∀ d ∈ c.table, T.key d ≠ T.key e

omit [DecidableEq ρ] in
variable {T} in
theorem AddsNew.enter {c : Client ε κ ρ} (h : T.AddsNew c) (call : TableCall ε) :
    T.AddsNew (T.enter call c).1 := by
  obtain ⟨table, phase⟩ := c
  cases phase with
  | adding e => exact h
  | withdrawing ks result => exact h
  | idle =>
    cases call with
    | subscribe same e =>
      rcases T.standing_cases same (T.key e) .diff table (by decide) with
        ⟨hs, -⟩ | ⟨-, ⟨hs, -⟩ | ⟨hs, hnew⟩⟩ <;> simp only [Sharing.enter, hs]
      · intro d hphase
        cases hphase
      · intro d hphase
        cases hphase
      · intro d hphase
        cases hphase
        exact hnew
    | release drop =>
      simp only [Sharing.enter]
      split <;>
      · intro d hphase
        cases hphase

variable {T} in
theorem AddsNew.request (p : Provider σ κ ρ) (s : Client ε κ ρ × σ) :
    T.AddsNew (T.request p s).1.1 := by
  obtain ⟨⟨table, phase⟩, w⟩ := s
  cases phase with
  | idle =>
    intro d hphase
    cases hphase
  | adding e =>
    simp only [Sharing.request]
    split <;>
    · intro d hphase
      cases hphase
  | withdrawing ks result =>
    cases ks with
    | nil =>
      intro d hphase
      cases hphase
    | cons k ks =>
      simp only [Sharing.request]
      split_ifs <;>
      · intro d hphase
        cases hphase

variable {T} in
/-- A request makes one call on the provider, or none. -/
theorem request_invariant {p : Provider σ κ ρ} {s : Client ε κ ρ × σ} {I : σ → Prop}
    (hadd : ∀ k, I (p.add k s.2).2) (hremove : ∀ k, I (p.remove k s.2).2) (hs : I s.2) :
    I (T.request p s).1.2 := by
  obtain ⟨⟨table, phase⟩, w⟩ := s
  cases phase with
  | idle => exact hs
  | adding e =>
    simp only [Sharing.request]
    split <;> exact hadd _
  | withdrawing ks result =>
    cases ks with
    | nil => exact hs
    | cons k ks =>
      simp only [Sharing.request]
      split_ifs
      · exact hs
      · exact hremove k
      · exact hremove k
      · exact hremove k

/-- What a provider holds after a request that it is asked in a given state. -/
structure Holding (p : Provider σ κ ρ) (holds : κ → σ → Prop) (t : σ) : Prop where
  add_other : ∀ {j k}, j ≠ k → (holds j (p.add k t).2 ↔ holds j t)
  add_failed : ∀ k, (p.add k t).1 ≠ T.success → (holds k (p.add k t).2 ↔ holds k t)
  remove_other : ∀ {j k}, j ≠ k → (holds j (p.remove k t).2 ↔ holds j t)
  remove_failed : ∀ k, (p.remove k t).1 ≠ T.success → (holds k (p.remove k t).2 ↔ holds k t)
  removed : ∀ k, (p.remove k t).1 = T.success → ¬holds k (p.remove k t).2

/-- It holds what a client needs, and nothing else. -/
def Exact (holds : κ → σ → Prop) (s : Client ε κ ρ × σ) : Prop :=
  ∀ k, holds k s.2 ↔ T.Needs s.1 k

/-- A key whose registration is answered with success is held, and one that no entry has is
withdrawn. -/
def Granted (p : Provider σ κ ρ) (holds : κ → σ → Prop) (s : Client ε κ ρ × σ) : Prop :=
  match s.1.phase with
  | .adding e => (p.add (T.key e) s.2).1 = T.success → holds (T.key e) (p.add (T.key e) s.2).2
  | .withdrawing (k :: _) _ =>
    (∀ e ∈ s.1.table, T.key e ≠ k) → (p.remove k s.2).1 = T.success
  | _ => True

omit [DecidableEq κ] [DecidableEq ρ] in
private theorem needs_withdrawing {table : List ε} {ks : List κ} {result : ρ} {k : κ} :
    T.Needs (⟨table, .withdrawing ks result⟩ : Client ε κ ρ) k ↔
      (∃ e ∈ table, T.key e = k) ∨ k ∈ ks := by
  refine or_congr_right ⟨?_, fun hk => ⟨ks, result, rfl, hk⟩⟩
  rintro ⟨_, _, hphase, hk⟩
  cases hphase
  exact hk

omit [DecidableEq κ] [DecidableEq ρ] in
private theorem needs_idle {table : List ε} {k : κ} :
    T.Needs (⟨table, .idle⟩ : Client ε κ ρ) k ↔ ∃ e ∈ table, T.key e = k :=
  ⟨T.needs_of_idle, Or.inl⟩

/-- A request leaves exactly what is needed if and only if it is granted. -/
theorem exact_request_iff {p : Provider σ κ ρ} {holds : κ → σ → Prop} {s : Client ε κ ρ × σ}
    (h : T.Holding p holds s.2) (honce : WithdrawsOnce s.1) (hexact : T.Exact holds s) :
    T.Exact holds (T.request p s).1 ↔ T.Granted p holds s := by
  obtain ⟨⟨table, phase⟩, w⟩ := s
  cases phase with
  | idle => exact iff_of_true hexact trivial
  | adding e =>
    have hbefore (k : κ) : holds k w ↔ ∃ d ∈ table, T.key d = k := by
      rw [hexact k]
      refine or_iff_left ?_
      rintro ⟨_, _, hphase, -⟩
      cases hphase
    simp only [request, Granted]
    split
    · rename_i hadd
      rw [imp_iff_right hadd]
      constructor
      · intro hafter
        exact (hafter (T.key e)).mpr
          (Or.inl ⟨e, List.mem_append_right _ (List.mem_singleton.mpr rfl), rfl⟩)
      · intro hheld k
        rw [needs_idle]
        by_cases hk : k = T.key e
        · subst hk
          exact iff_of_true hheld
            ⟨e, List.mem_append_right _ (List.mem_singleton.mpr rfl), rfl⟩
        · rw [h.add_other hk, hbefore k]
          simp only [List.mem_append, List.mem_singleton, or_and_right, exists_or,
            exists_eq_left, Ne.symm hk, or_false]
    · rename_i hadd
      refine iff_of_true (fun k => ?_) fun hsuccess => absurd hsuccess hadd
      rw [needs_idle]
      by_cases hk : k = T.key e
      · subst hk
        exact (h.add_failed _ hadd).trans (hbefore _)
      · exact (h.add_other hk).trans (hbefore k)
  | withdrawing ks result =>
    have hbefore (k : κ) : holds k w ↔ (∃ d ∈ table, T.key d = k) ∨ k ∈ ks :=
      (hexact k).trans T.needs_withdrawing
    cases ks with
    | nil =>
      refine iff_of_true (fun k => ?_) trivial
      rw [request, needs_idle]
      exact (hbefore k).trans (or_iff_left List.not_mem_nil)
    | cons k ks =>
      have hnodup := (List.nodup_cons.mp (honce _ _ rfl)).1
      simp only [Granted]
      by_cases hkept : (table.any fun e => T.key e = k) = true
      · obtain ⟨e, he, hkey⟩ := List.any_eq_true.mp hkept
        have hkey : T.key e = k := of_decide_eq_true hkey
        refine iff_of_true (fun j => ?_) fun hfree => absurd hkey (hfree e he)
        simp only [request, hkept, if_true]
        rw [needs_withdrawing]
        refine (hbefore j).trans ?_
        rw [List.mem_cons]
        refine ⟨?_, Or.imp_right Or.inr⟩
        rintro (hj | rfl | hj)
        · exact Or.inl hj
        · exact Or.inl ⟨e, he, hkey⟩
        · exact Or.inr hj
      · have hfree := T.free_of_not_kept hkept
        rw [imp_iff_right hfree]
        have hheld : holds k w := (hbefore k).mpr (Or.inr List.mem_cons_self)
        have hnone : ¬∃ e ∈ table, T.key e = k := fun ⟨e, he, hkey⟩ => hfree e he hkey
        simp only [request, hkept, Bool.false_eq_true, if_false]
        by_cases hr : (p.remove k w).1 = T.success
        · refine iff_of_true (fun j => ?_) hr
          rw [if_pos hr, needs_withdrawing]
          by_cases hj : j = k
          · subst hj
            exact iff_of_false (h.removed j hr) fun hneed => hneed.elim hnone hnodup
          · rw [h.remove_other hj, hbefore j, List.mem_cons, or_iff_right hj]
        · refine iff_of_false (fun hafter => ?_) hr
          have hstays : holds k (p.remove k w).2 := (h.remove_failed k hr).mpr hheld
          rw [if_neg hr] at hafter
          split at hafter
          · exact hnone ((T.needs_idle).mp ((hafter k).mp hstays))
          · exact ((T.needs_withdrawing).mp ((hafter k).mp hstays)).elim hnone hnodup

end Sharing

end Reactive
