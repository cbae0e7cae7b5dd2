import TelephonyStateRegistry.Correctness.FanOut
import TelephonyStateRegistry.Correctness.Membership

/-!
# Whom an update of the service reaches

If the service holds what the front ends need, an update outside the call states makes its
callback on a process once for each pair in the table that the update is for, and on no
other account.
-/

namespace TelephonyStateRegistry

open Reactive

variable {P : Platform}

/-- Whether an update is for a pair of a process. -/
def Update.isFor (u : Update P) (env : Env) (m : ObserverMask) (process : Process) (k : Pair) :
    Bool :=
  k.eventType = .event m && u.slotMatches k.slotId &&
    (m ≠ .voipCallState || env.verifyAccessToken process.tokenId .manageCallForDevices ≠ .denied)

/-- The callbacks on a process, by the pairs of the records. -/
def pairsCalled (process : Process) (m : ObserverMask) (ds : List (Delivery P)) : List Pair :=
  (ds.filter fun d => d.record.tokenId = process.tokenId && d.record.pid = process.pid).map
    fun d => ⟨d.record.slotId, .event m⟩

section Service

variable {process : Process} {s : Service P} {u : Update P} {m : ObserverMask}
  {callback : Callback P}

private theorem update_deliveries (hx : P.ExtAbsent) (hm : m.isCallState = false)
    (hp : u.payload m = some callback) (hnull : ∀ slotId, u ≠ .networkState slotId none)
    {env : Env} (hacc : u.accepted env) (s : Service P) :
    (u.function.run env s).2.deliveries =
      (s.stateRecords.filter (u.addresses env m)).map fun record => ⟨record, callback⟩ := by
  have hlive : u.live env (u.function.writeTo s).caches =
      fun record => if u.addresses env m record then some callback else none := by
    funext record
    exact live_of_addresses hx hm hp hnull env _ record
  have hrun := congrArg (fun r => r.2.deliveries) (Update.run_of_accepted hacc s)
  dsimp only at hrun
  rw [hrun, Update.deliveries, hlive]
  exact deliveriesOf_filter _ _ _

private theorem addresses_own (hm : m.isCallState = false) (hp : u.payload m = some callback)
    (env : Env) {record : Record} (ho : record.telephonyObserver ≠ none) {k : Pair}
    (hkey : record.key = process.key P k) :
    u.addresses env m record = u.isFor env m process k := by
  have hmask : record.mask = k.eventType.toUint32t P := congrArg Key.mask hkey
  have hslot : record.slotId = k.slotId := congrArg Key.slotId hkey
  have htoken : record.tokenId = process.tokenId := congrArg Key.tokenId hkey
  have hevent : P.contains record.mask m = true ↔ k.eventType = .event m := by
    rw [hmask]
    refine ⟨TelephonyUpdateEventType.eq_of_contains, fun h => ?_⟩
    rw [h]
    exact (P.contains_mask m m).mpr rfl
  rw [Bool.eq_iff_iff, addresses_iff hm hp, Record.listensTo_iff, hevent, hslot]
  simp only [Update.isFor, Bool.and_eq_true, Bool.or_eq_true, decide_eq_true_eq,
    Record.canManageCallForDevices, htoken, ite_eq_right_iff, Bool.false_eq_true, imp_false]
  constructor
  · rintro ⟨⟨hmatches, -, hevent⟩, hmanage⟩
    exact ⟨⟨hevent, hmatches⟩, not_or_of_imp hmanage⟩
  · rintro ⟨⟨hevent, hmatches⟩, hmanage⟩
    exact ⟨⟨hmatches, ho, hevent⟩, fun hvoip => hmanage.resolve_left fun hne => hne hvoip⟩

private theorem pairsCalled_update (hx : P.ExtAbsent) (hm : m.isCallState = false)
    (hp : u.payload m = some callback) (hnull : ∀ slotId, u ≠ .networkState slotId none)
    {env : Env} (hacc : u.accepted env) (hown : s.KeepsOwn process) {ks : List Pair}
    (hnodup : ks.Nodup) (hks : ∀ k, s.registered (process.key P k) ≠ none ↔ k ∈ ks) :
    (pairsCalled process m (u.function.run env s).2.deliveries).Perm
      (ks.filter (u.isFor env m process)) := by
  let own : Record → Bool := fun record =>
    record.tokenId = process.tokenId && record.pid = process.pid
  let pairOf : Record → Pair := fun record => ⟨record.slotId, .event m⟩
  have hlist : pairsCalled process m (u.function.run env s).2.deliveries =
      ((s.stateRecords.filter (u.addresses env m)).filter own).map pairOf := by
    rw [pairsCalled, update_deliveries hx hm hp hnull hacc, List.filter_map, List.map_map]
    rfl
  -- the pair of a record of the process, if the update is for it
  have hpair : ∀ record ∈ s.stateRecords, own record = true →
      u.addresses env m record = true → record.key = process.key P (pairOf record) ∧
        u.isFor env m process (pairOf record) = true := by
    intro record hrecord hprocess haddressed
    simp only [own, Bool.and_eq_true, decide_eq_true_eq] at hprocess
    obtain ⟨ho, k, hk⟩ := hown.own record hrecord hprocess.1 hprocess.2
    rw [addresses_own hm hp env ho hk] at haddressed
    have hevent : k.eventType = .event m := by
      simp only [Update.isFor, Bool.and_eq_true, decide_eq_true_eq] at haddressed
      exact haddressed.1.1
    have hsame : pairOf record = k := by
      have hslot : record.slotId = k.slotId := congrArg Key.slotId hk
      cases k
      simp only [pairOf, hslot, Pair.mk.injEq, true_and]
      exact hevent.symm
    rw [hsame]
    exact ⟨hk, haddressed⟩
  rw [hlist]
  refine (List.perm_ext_iff_of_nodup ?_ (hnodup.filter _)).mpr fun k => ?_
  · refine List.Nodup.map_on ?_ ((List.Nodup.of_map _ hown.wellKeyed).filter _ |>.filter _)
    intro r hr r' hr' heq
    obtain ⟨hr, hprocess⟩ := List.mem_filter.mp hr
    obtain ⟨hr', hprocess'⟩ := List.mem_filter.mp hr'
    obtain ⟨hr, haddressed⟩ := List.mem_filter.mp hr
    obtain ⟨hr', haddressed'⟩ := List.mem_filter.mp hr'
    have hkey := (hpair r hr hprocess haddressed).1
    have hkey' := (hpair r' hr' hprocess' haddressed').1
    rw [heq] at hkey
    exact List.inj_on_of_nodup_map hown.wellKeyed hr hr' (hkey.trans hkey'.symm)
  · rw [List.mem_map, List.mem_filter, ← hks]
    constructor
    · rintro ⟨record, hrecord, rfl⟩
      obtain ⟨hrecord, hprocess⟩ := List.mem_filter.mp hrecord
      obtain ⟨hrecord, haddressed⟩ := List.mem_filter.mp hrecord
      obtain ⟨hkey, hfor⟩ := hpair record hrecord hprocess haddressed
      refine ⟨fun hnone => ?_, hfor⟩
      exact Service.registered_eq_none.mp hnone (List.mem_map.mpr ⟨record, hrecord, hkey⟩)
    · rintro ⟨hsome, hfor⟩
      obtain ⟨record, hrecord⟩ := Option.ne_none_iff_exists'.mp hsome
      obtain ⟨hmem, hkey⟩ := Service.mem_of_registered hrecord
      have htoken : record.tokenId = process.tokenId := congrArg Key.tokenId hkey
      have hpid : record.pid = process.pid := congrArg Key.pid hkey
      have hslot : record.slotId = k.slotId := congrArg Key.slotId hkey
      have ho := (hown.own record hmem htoken hpid).1
      refine ⟨record, List.mem_filter.mpr ⟨List.mem_filter.mpr ⟨hmem, ?_⟩, ?_⟩, ?_⟩
      · rw [addresses_own hm hp env ho hkey]
        exact hfor
      · simp only [own, htoken, hpid, decide_true, Bool.and_self]
      · simp only [Update.isFor, Bool.and_eq_true, decide_eq_true_eq] at hfor
        cases k
        simp only [pairOf, hslot, Pair.mk.injEq, true_and]
        exact hfor.1.1.symm

end Service

/-- **An update reaches the processes that listen.** In every run of the processes whose steps
are granted, an accepted update outside the call states makes its own callback once for each
pair in the table of a process that it is for, on that process, and no other callback on it. -/
theorem updates_reach_listeners (hx : P.ExtAbsent) {ι : Type} [DecidableEq ι]
    (A : Parties ι) (steps : List (NetworkStep P A))
    (hgranted : (network P A).Along Network.Granted (Network.start P A) steps) {env : Env}
    {u : Update P} {m : ObserverMask} {callback : Callback P} (hm : m.isCallState = false)
    (hp : u.payload m = some callback) (hnull : ∀ slotId, u ≠ .networkState slotId none)
    (hacc : u.accepted env) :
    let s := (network P A).run (Network.start P A) steps
    let ds := (network P A).out s (.serves env (.update u))
    (∀ d ∈ ds, d.callback = callback) ∧ ∀ i, (s.client i).phase = .idle →
      (pairsCalled (A.process i) m ds).Perm
        ((((s.client i).table.map (A.frontEnd i).sharing.key).dedup).filter
          (u.isFor env m (A.process i))) := by
  intro s ds
  obtain ⟨hkept, hexact⟩ : s.Kept ∧ s.Exact := Network.exact_run hgranted
  have hpairs (i : ι) (hidle : (s.client i).phase = .idle) (k : Pair) :
      (s.remote i).Holds (A.process i) k ↔
        k ∈ ((s.client i).table.map (A.frontEnd i).sharing.key).dedup := by
    rw [List.mem_dedup, List.mem_map]
    refine (hexact i k).trans (or_iff_left ?_)
    rintro ⟨ks, result, hphase, -⟩
    rw [hidle] at hphase
    cases hphase
  have hds : ds = s.service.elim [] fun p => (u.function.run env p.2).2.deliveries := rfl
  rw [hds]
  cases hservice : s.service with
  | none =>
    refine ⟨fun d hd => absurd hd List.not_mem_nil, fun i hidle => ?_⟩
    have hnone : ((s.client i).table.map (A.frontEnd i).sharing.key).dedup = [] := by
      refine List.eq_nil_iff_forall_not_mem.mpr fun k hk => ?_
      obtain ⟨n, t, ht, -⟩ := (hpairs i hidle k).mpr hk
      cases hservice.symm.trans ht
    rw [hnone]
    exact List.Perm.refl _
  | some nt =>
    obtain ⟨n, t⟩ := nt
    refine ⟨fun d hd => ?_, fun i hidle => ?_⟩
    · change d ∈ (u.function.run env t).2.deliveries at hd
      rw [update_deliveries hx hm hp hnull hacc] at hd
      obtain ⟨record, -, rfl⟩ := List.mem_map.mp hd
      rfl
    · refine pairsCalled_update hx hm hp hnull hacc (hkept.own i n t hservice) (List.nodup_dedup _)
        fun k => ?_
      exact (Remote.holds_iff (w := s.remote i) hservice).symm.trans (hpairs i hidle k)

/-- Two processes with JS code. -/
def twoApps : Parties Bool where
  process := fun
    | true => ⟨"app", 1, 1, 1, ""⟩
    | false => ⟨"game", 2, 2, 2, ""⟩
  frontEnd _ := napi .dualSim
  apart := by
    intro i j hne
    cases i <;> cases j
    · exact absurd rfl hne
    · decide
    · decide
    · exact absurd rfl hne

/-- The processes listen on different slots, and their calls take turns. An update of the first
slot is for one of them. -/
theorem sim_state_reaches_app :
    let link : Pair → Link := fun _ => .native
    let on (env : Pointer) (slotId : Int) (ref : Pointer) : (napi .dualSim).Call :=
      (fun _ => Nat.beq, .registerEventListener ⟨env, .event .simState, slotId, ref, ref⟩)
    let s := (network .dualSim twoApps).run (Network.start .dualSim twoApps)
      [.enter true (on 1 0 2), .enter false (on 1 1 2), .request false link, .request true link]
    let ds := (network .dualSim twoApps).out s (.serves .native (.update (.simState 0 1 2 3)))
    (∀ d ∈ ds, d.callback = .onSimStateUpdated 0 1 2 3) ∧ ∀ i, (s.client i).phase = .idle →
      (pairsCalled (twoApps.process i) .simState ds).Perm
        ((((s.client i).table.map (napi .dualSim).sharing.key).dedup).filter
          ((Update.simState 0 1 2 3 : Update .dualSim).isFor .native .simState
            (twoApps.process i))) := by
  intro link on s ds
  refine updates_reach_listeners Platform.dualSim_extAbsent twoApps _ ?_ rfl rfl nofun
    (show (Update.simState 0 1 2 3 : Update .dualSim).accepted .native by decide)
  exact ⟨trivial, trivial, fun _ _ => rfl, fun _ _ => rfl, trivial⟩

end TelephonyStateRegistry
