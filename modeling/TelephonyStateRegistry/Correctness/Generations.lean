import TelephonyStateRegistry.Client.ProxyCache

/-!
# The cached proxy follows the generations of the service

Deaths, restarts and late notifications interleave with the steps of `GetProxy`. One
invariant keeps the cache from going stale: a proxy is cached together with a recipient
that either watches its live incarnation or is still owed the notification.
-/

namespace TelephonyStateRegistry

open Reactive

/-- A recipient watches an incarnation that is alive, or its notification is pending. -/
def ProxyCache.Watched (s : ProxyCache) (w : DeathWatch) : Prop :=
  (w ∈ s.watches ∧ s.alive = some w.remote) ∨ w ∈ s.pending

/-- What every state of the client keeps. -/
structure ProxyCache.Follows (s : ProxyCache) : Prop where
  /-- A `GetProxy` under way has found no proxy. -/
  connecting : s.connecting ≠ .idle → s.proxy = none
  watched : ∀ obj dr, s.connecting = .watched obj dr → s.Watched ⟨obj, dr⟩
  /-- A cached proxy is watched by the recipient that is kept with it. -/
  proxied : ∀ i, s.proxy = some i → ∃ dr, s.deathRecipient = some dr ∧ s.Watched ⟨i, dr⟩

namespace ProxyCache

variable {s : ProxyCache} {w : DeathWatch}

theorem Follows.start : ProxyCache.start.Follows where
  connecting h := absurd rfl h
  watched _ _ h := by cases h
  proxied _ h := by cases h

private theorem Watched.died (h : s.Watched w) : s.died.Watched w := by
  refine Or.inr (List.mem_append.mpr ?_)
  rcases h with ⟨hmem, halive⟩ | hmem
  · exact Or.inr (List.mem_filter.mpr ⟨hmem, decide_eq_true halive⟩)
  · exact Or.inl hmem

private theorem Watched.restarted (h : s.Watched w) : s.restarted.Watched w := by
  rw [ProxyCache.restarted]
  cases halive : s.alive with
  | some i => exact h
  | none =>
    rcases h with ⟨-, hsome⟩ | hmem
    · rw [halive] at hsome
      cases hsome
    · exact Or.inr hmem

private theorem Follows.of_watched {s' : ProxyCache} (h : s.Follows)
    (hconnecting : s'.connecting = s.connecting) (hproxy : s'.proxy = s.proxy)
    (hrecipient : s'.deathRecipient = s.deathRecipient)
    (hwatched : ∀ w, s.Watched w → s'.Watched w) : s'.Follows where
  connecting hne := by
    rw [hproxy]
    exact h.connecting (hconnecting ▸ hne)
  watched obj dr heq := hwatched _ (h.watched obj dr (hconnecting ▸ heq))
  proxied i hi := by
    obtain ⟨dr, hdr, hw⟩ := h.proxied i (hproxy ▸ hi)
    exact ⟨dr, hrecipient.trans hdr, hwatched _ hw⟩

private theorem Follows.getProxy (h : s.Follows) (sam : Bool)
    (obj : Option Nat) : (s.getProxy sam obj).1.Follows := by
  unfold ProxyCache.getProxy
  cases hproxy : s.proxy with
  | some i => exact h
  | none =>
    dsimp only
    split_ifs
    · exact h
    · cases obj with
      | none => exact h
      | some obj =>
        dsimp only
        refine ⟨fun _ => rfl, fun _ _ heq => ?_, fun i hi => ?_⟩
        · cases heq
        · cases hi

private theorem Follows.addDeathRecipient {isProxyObject : Nat → Bool} {obj : Nat}
    (h : s.Follows) (hobj : isProxyObject obj = true) (hfound : s.connecting = .found obj)
    (accepted : Bool) : (s.addDeathRecipient isProxyObject accepted obj).1.Follows := by
  have hnone : s.proxy = none := h.connecting fun hidle => by
    rw [hfound] at hidle
    cases hidle
  have hproxied (i : Nat) (hi : s.proxy = some i) : False := by
    rw [hnone] at hi
    cases hi
  simp only [ProxyCache.addDeathRecipient, hobj, Bool.true_eq_false, if_false]
  split_ifs with haccepted
  · refine ⟨fun _ => hnone, ?_, fun i hi => (hproxied i hi).elim⟩
    rintro obj' dr' heq
    cases heq
    exact Or.inl ⟨List.mem_cons_self, haccepted.2⟩
  · exact ⟨fun _ => hnone, fun _ _ heq => Connecting.noConfusion heq,
      fun i hi => (hproxied i hi).elim⟩

private theorem Follows.connect {obj dr : Nat} (h : s.Follows)
    (hwatched : s.connecting = .watched obj dr) (ifaceCast : Bool) :
    (s.connect ifaceCast obj dr).1.Follows where
  connecting hne := absurd rfl hne
  watched _ _ heq := Connecting.noConfusion heq
  proxied i hi := by
    obtain ⟨-, hi⟩ := Option.ite_none_right_eq_some.mp hi
    cases hi
    exact ⟨dr, rfl, h.watched obj dr hwatched⟩

/-- A notification discards the proxy of its own incarnation alone. -/
theorem onRemoteDied_proxy (s : ProxyCache) (remote : Option Nat) :
    (s.onRemoteDied remote).proxy = if s.proxy = remote then none else s.proxy := by
  rw [onRemoteDied]
  split_ifs with hnull hproxy hsame hsame' hsame'' <;> simp_all

private theorem Follows.onRemoteDied (h : s.Follows) (hidle : s.connecting = .idle)
    (remote : Option Nat) : (s.onRemoteDied remote).Follows := by
  rw [ProxyCache.onRemoteDied]
  split_ifs
  · exact h
  · exact h
  · refine ⟨fun _ => rfl, ?_, fun i hi => by cases hi⟩
    intro obj dr heq
    have hwatched : s.connecting = .watched obj dr := heq
    rw [hidle] at hwatched
    cases hwatched
  · exact h

private theorem Follows.notified {index : Nat} (h : s.Follows) (hidle : s.connecting = .idle)
    (hw : s.pending[index]? = some w) :
    (({ s with pending := s.pending.eraseIdx index } : ProxyCache).onRemoteDied
      (some w.remote)).Follows := by
  let s' : ProxyCache := { s with pending := s.pending.eraseIdx index }
  by_cases hproxy : s.proxy = some w.remote
  · have hnone : (s'.onRemoteDied (some w.remote)).proxy = none := by
      rw [onRemoteDied_proxy]
      exact if_pos hproxy
    have hfree : (s'.onRemoteDied (some w.remote)).connecting = .idle := by
      rw [ProxyCache.onRemoteDied]
      split_ifs <;> exact hidle
    refine ⟨fun hne => absurd hfree hne, ?_, ?_⟩
    · intro obj dr heq
      rw [hfree] at heq
      cases heq
    · intro i hi
      rw [hnone] at hi
      cases hi
  · have hfollows : s'.Follows := by
      refine ⟨fun hne => absurd hidle hne, ?_, ?_⟩
      · intro obj dr heq
        have hwatched : s.connecting = .watched obj dr := heq
        rw [hidle] at hwatched
        cases hwatched
      · intro i hi
        obtain ⟨dr, hdr, hlive | hmem⟩ := h.proxied i hi
        · exact ⟨dr, hdr, Or.inl hlive⟩
        · refine ⟨dr, hdr, Or.inr (List.mem_eraseIdx_iff_getElem?.mpr ?_)⟩
          obtain ⟨j, hj⟩ := List.mem_iff_getElem?.mp hmem
          refine ⟨j, ?_, hj⟩
          rintro rfl
          rw [hw] at hj
          cases hj
          exact hproxy hi
    exact hfollows.onRemoteDied hidle (some w.remote)

private theorem Follows.restarted (h : s.Follows) : s.restarted.Follows := by
  have hkept : s.restarted.connecting = s.connecting ∧ s.restarted.proxy = s.proxy ∧
      s.restarted.deathRecipient = s.deathRecipient := by
    rw [ProxyCache.restarted]
    cases s.alive <;> exact ⟨rfl, rfl, rfl⟩
  exact h.of_watched hkept.1 hkept.2.1 hkept.2.2 fun _ => Watched.restarted

/-- Every step keeps the invariant, if the objects are remote. -/
theorem Follows.next {isProxyObject : Nat → Bool} (hobj : ∀ i, isProxyObject i = true)
    (h : s.Follows) (event : ProxyEvent) : ((proxyCache isProxyObject).next s event).Follows := by
  cases hconnecting : s.connecting with
  | idle =>
    cases event <;> simp only [Mealy.next, proxyCache, hconnecting]
    case getProxy sam obj => exact h.getProxy sam obj
    case notified index =>
      cases hw : s.pending[index]? with
      | none => exact h
      | some w =>
        have hnotified := h.notified hconnecting hw
        rw [hconnecting] at hnotified
        exact hnotified
    case notifiedAgain remote =>
      split_ifs
      · exact h
      · exact h.onRemoteDied hconnecting remote
    case died => exact h.of_watched rfl rfl rfl fun _ => Watched.died
    case restarted => exact h.restarted
    all_goals exact h
  | found obj =>
    cases event <;> simp only [Mealy.next, proxyCache, hconnecting]
    case addDeathRecipient accepted => exact h.addDeathRecipient (hobj obj) hconnecting accepted
    case died => exact h.of_watched rfl rfl rfl fun _ => Watched.died
    case restarted => exact h.restarted
    all_goals exact h
  | watched obj dr =>
    cases event <;> simp only [Mealy.next, proxyCache, hconnecting]
    case connect ifaceCast => exact h.connect hconnecting ifaceCast
    case died => exact h.of_watched rfl rfl rfl fun _ => Watched.died
    case restarted => exact h.restarted
    all_goals exact h

private theorem returned_eq (isProxyObject : Nat → Bool) (s : ProxyCache) {event : ProxyEvent}
    {v : Option Nat} (hout : (proxyCache isProxyObject).out s event = some v) :
    v = none ∨ v = ((proxyCache isProxyObject).next s event).proxy := by
  cases hconnecting : s.connecting with
  | idle =>
    cases event <;> simp only [Mealy.out, Mealy.next, proxyCache, hconnecting] at hout ⊢
    case getProxy sam obj =>
      revert hout
      unfold ProxyCache.getProxy
      cases hproxy : s.proxy with
      | some i =>
        intro hout
        cases hout
        exact Or.inr hproxy.symm
      | none =>
        dsimp only
        split_ifs
        · intro hout
          cases hout
          exact Or.inl rfl
        · cases obj with
          | none =>
            intro hout
            cases hout
            exact Or.inl rfl
          | some obj =>
            intro hout
            cases hout
    case notified index => cases hw : s.pending[index]? <;> simp [hw] at hout
    case notifiedAgain remote => split_ifs at hout
    all_goals cases hout
  | found obj =>
    cases event <;> simp only [Mealy.out, Mealy.next, proxyCache, hconnecting] at hout ⊢
    case addDeathRecipient accepted =>
      revert hout
      unfold ProxyCache.addDeathRecipient
      dsimp only
      split_ifs
      · intro hout
        cases hout
      · intro hout
        cases hout
      · intro hout
        cases hout
        exact Or.inl rfl
    all_goals cases hout
  | watched obj dr =>
    cases event <;> simp only [Mealy.out, Mealy.next, proxyCache, hconnecting] at hout ⊢
    case connect ifaceCast =>
      cases hout
      exact Or.inr rfl
    all_goals cases hout

private theorem Follows.live (h : s.Follows) (hpending : s.pending = []) :
    s.proxy = none ∨ s.proxy = s.alive := by
  cases hproxy : s.proxy with
  | none => exact Or.inl rfl
  | some i =>
    obtain ⟨dr, -, ⟨-, halive⟩ | hmem⟩ := h.proxied i hproxy
    · exact Or.inr halive.symm
    · rw [hpending] at hmem
      cases hmem

private theorem kept_of_ne (isProxyObject : Nat → Bool) {i : Nat} (hproxy : s.proxy = some i) :
    (∀ index w, s.pending[index]? = some w → w.remote ≠ i →
      ((proxyCache isProxyObject).next s (.notified index)).proxy = some i) ∧
    ∀ remote, remote ≠ some i →
      ((proxyCache isProxyObject).next s (.notifiedAgain remote)).proxy = some i := by
  constructor
  · intro index w hw hne
    cases hconnecting : s.connecting
    case idle =>
      simp only [Mealy.next, proxyCache, hconnecting, hw]
      rw [onRemoteDied_proxy]
      dsimp only
      rw [if_neg, hproxy]
      rw [hproxy]
      exact fun heq => hne (Option.some.inj heq).symm
    all_goals simpa only [Mealy.next, proxyCache, hconnecting] using hproxy
  · intro remote hne
    cases hconnecting : s.connecting
    case idle =>
      simp only [Mealy.next, proxyCache, hconnecting]
      split_ifs
      · exact hproxy
      · rw [onRemoteDied_proxy, hproxy, if_neg fun heq => hne heq.symm]
    all_goals simpa only [Mealy.next, proxyCache, hconnecting] using hproxy

end ProxyCache

/-- The cached proxy denotes an incarnation that is watched by the recipient kept with
it, no notification of another incarnation discards it, and without pending notifications
`GetProxy` returns null or the live incarnation. -/
theorem proxy_follows_generations (isProxyObject : Nat → Bool)
    (hobj : ∀ i, isProxyObject i = true) (events : List ProxyEvent) :
    let client := proxyCache isProxyObject
    let s := client.run ProxyCache.start events
    (∀ i, s.proxy = some i →
      (∃ dr, s.deathRecipient = some dr ∧ s.Watched ⟨i, dr⟩) ∧
      (∀ index w, s.pending[index]? = some w → w.remote ≠ i →
        (client.next s (.notified index)).proxy = some i) ∧
      ∀ remote, remote ≠ some i →
        (client.next s (.notifiedAgain remote)).proxy = some i) ∧
    ∀ event v, client.out s event = some v → (client.next s event).pending = [] →
      v = none ∨ v = (client.next s event).alive := by
  intro client s
  have hfollows : s.Follows :=
    Mealy.invariant (I := ProxyCache.Follows) client
      (fun _ event h => ProxyCache.Follows.next hobj h event) ProxyCache.Follows.start events
  refine ⟨fun i hproxy => ⟨hfollows.proxied i hproxy, ProxyCache.kept_of_ne _ hproxy⟩, ?_⟩
  intro event v hout hpending
  rcases ProxyCache.returned_eq isProxyObject s hout with hnone | hproxy
  · exact Or.inl hnone
  · rw [hproxy]
    exact (hfollows.next hobj event).live hpending

/-- A notification of the first incarnation that is processed after the reconnection to
the second one. -/
theorem proxy_follows_generations_reconnected :
    let client := proxyCache fun _ => true
    let s := client.run ProxyCache.start
      [.getProxy true (some 0), .addDeathRecipient true, .connect true, .died, .restarted,
        .notified 0, .getProxy true (some 1), .addDeathRecipient true, .connect true]
    s.proxy = some 1 ∧ (client.next s (.notifiedAgain (some 0))).proxy = some 1 ∧
      (client.next s (.getProxy true none)).alive = some 1 := by
  intro client s
  have hproxy : s.proxy = some 1 := rfl
  obtain ⟨hkept, hreturned⟩ := proxy_follows_generations (fun _ => true) (fun _ => rfl)
    [.getProxy true (some 0), .addDeathRecipient true, .connect true, .died, .restarted,
      .notified 0, .getProxy true (some 1), .addDeathRecipient true, .connect true]
  refine ⟨hproxy, (hkept 1 hproxy).2.2 (some 0) (by decide), ?_⟩
  rcases hreturned (.getProxy true none) (some 1) rfl rfl with hnone | halive
  · cases hnone
  · exact halive.symm

end TelephonyStateRegistry
