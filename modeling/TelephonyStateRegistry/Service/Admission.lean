import TelephonyStateRegistry.Core.KeyedList
import TelephonyStateRegistry.Service.Notify
import TelephonyStateRegistry.Service.Register

/-!
# What registration and removal do

The gates of the two operations are collected into one condition each. Behind
them a registration either appends its own record or meets the stored one, and
a removal erases the first record with the key; in front of them nothing
changes. Later modules never unfold the two operations.
-/

namespace TelephonyStateRegistry

open Reactive

variable {P : Platform}

/-- The comparison of the scan loops is equality of keys. -/
theorem Record.matchesKey_iff {record : Record} {k : Key} :
    record.matchesKey k = true ↔ record.key = k := by
  cases k
  simp only [Record.matchesKey, Record.key, Bool.and_eq_true, beq_iff_eq, Key.mk.injEq, and_assoc]

theorem Record.matchesKey_eq_decide (k : Key) :
    (fun record : Record => record.matchesKey k) = fun record => decide (record.key = k) := by
  funext record
  rw [Bool.eq_iff_iff, Record.matchesKey_iff, decide_eq_true_eq]

/-- The record stored under a key. -/
def Service.registered (s : Service P) (k : Key) : Option Record :=
  lookup Record.key s.stateRecords k

theorem Service.registered_eq_none {s : Service P} {k : Key} :
    s.registered k = none ↔ k ∉ s.stateRecords.map Record.key := lookup_eq_none

theorem Service.mem_of_registered {s : Service P} {k : Key} {record : Record}
    (h : s.registered k = some record) : record ∈ s.stateRecords ∧ record.key = k :=
  mem_of_lookup h

/-- A scan that finds the key stops with the stored record. -/
theorem scanRecords_of_some {k : Key} {records : List Record} {record : Record}
    (h : lookup Record.key records k = some record) (last : Record) :
    scanRecords k last records = (record, true) := by
  induction records generalizing last with
  | nil => cases h
  | cons head records ih =>
    rw [scanRecords]
    by_cases hk : head.key = k
    · rw [if_pos (Record.matchesKey_iff.mpr hk)]
      have hhead : lookup Record.key (head :: records) k = some head := by
        simp only [lookup, List.find?_cons, hk, decide_true]
      rw [Option.some.inj (hhead.symm.trans h)]
    · rw [if_neg (mt Record.matchesKey_iff.mp hk)]
      refine ih ?_ head
      simpa only [lookup, List.find?_cons, hk, decide_false] using h

/-- A scan that does not find the key reports so, whatever it leaves in the local record. -/
theorem scanRecords_of_none {k : Key} {records : List Record}
    (h : lookup Record.key records k = none) (last : Record) :
    (scanRecords k last records).2 = false := by
  induction records generalizing last with
  | nil => rfl
  | cons head records ih =>
    obtain ⟨hk, hks⟩ := not_or.mp (mt List.mem_cons.mpr (lookup_eq_none.mp h))
    rw [scanRecords, if_neg (mt Record.matchesKey_iff.mp (Ne.symm hk))]
    exact ih (lookup_eq_none.mpr hks) head

/-- The two checks that a registration and its removal share. -/
def Checked (P : Platform) (env : Env) (mask : BitVec 32) : Prop :=
  checkCallerIsSystemApp P env mask = true ∧ checkPermission P env mask = true

instance (P : Platform) (env : Env) (mask : BitVec 32) : Decidable (Checked P env mask) :=
  inferInstanceAs (Decidable (_ ∧ _))

/-- The code of the shared check that fails. -/
def checkCode (P : Platform) (env : Env) (mask : BitVec 32) : ReturnCode :=
  if checkCallerIsSystemApp P env mask = false then .telephonyErrIllegalUseOfSystemApi
  else .telephonyStateRegistryPermissionDenied

theorem checkCode_ne (env : Env) (mask : BitVec 32) :
    checkCode P env mask ≠ .telephonySuccess ∧
      checkCode P env mask ≠ .telephonyStateUnregistryDataNotExist := by
  unfold checkCode
  split <;> exact ⟨by decide, by decide⟩

/-- A registration that passes all four gates. -/
def Registration.admitted (P : Platform) (env : Env) (r : Registration) : Prop :=
  Checked P env r.mask ∧ isMultiSimsCapabilitySupported P env r.slotId = true ∧
    registrableSlot P r.slotId = true

instance (P : Platform) (env : Env) (r : Registration) : Decidable (r.admitted P env) :=
  inferInstanceAs (Decidable (_ ∧ _))

/-- What the caller must hold for a callback of one event. -/
def Env.satisfies (env : Env) : ObserverMask → Prop
  | .networkState => env.checkPermission .getNetworkInfo = true
  | .cellInfo =>
    env.checkPermission .cellLocation = true ∧ env.checkCallerIsSystemApp = true
  | .cfuIndicator => env.checkCallerIsSystemApp = true
  | .voiceMailMsgIndicator => env.checkCallerIsSystemApp = true
  | .ccallState => env.checkPermission .manageCallForDevices = true
  | .voipCallState => env.checkPermission .manageCallForDevices = true
  | .simActiveState => env.checkPermission .setTelephonyState = true
  | _ => True

theorem requires_iff {mask : BitVec 32} {m : ObserverMask} {answer : Bool} :
    requires P mask m answer = true ↔ (P.contains mask m = true → answer = true) := by
  unfold requires
  by_cases hm : P.contains mask m = true
  · rw [if_pos ((P.and_mask_ne_zero _ _).mpr hm)]
    simp only [hm, true_imp_iff]
  · rw [if_neg (mt (P.and_mask_ne_zero _ _).mp hm)]
    exact ⟨fun _ hm' => absurd hm' hm, fun _ => rfl⟩

/-- The shared checks demand what every event of the mask requires, and nothing else. -/
theorem checked_iff {env : Env} {mask : BitVec 32} :
    Checked P env mask ↔ ∀ m, P.contains mask m = true → env.satisfies m := by
  simp only [Checked, checkCallerIsSystemApp, checkPermission, Bool.and_eq_true, requires_iff]
  constructor
  · rintro ⟨⟨⟨hcell, hcfu⟩, hvoice⟩, ⟨⟨⟨hnet, hloc⟩, hcc⟩, hsim⟩, hvoip⟩ m hm
    cases m with
    | networkState => exact hnet hm
    | cellInfo => exact ⟨hloc hm, hcell hm⟩
    | cfuIndicator => exact hcfu hm
    | voiceMailMsgIndicator => exact hvoice hm
    | ccallState => exact hcc hm
    | voipCallState => exact hvoip hm
    | simActiveState => exact hsim hm
    | _ => trivial
  · intro h
    exact ⟨⟨⟨fun hm => (h .cellInfo hm).2, h .cfuIndicator⟩, h .voiceMailMsgIndicator⟩,
      ⟨⟨⟨h .networkState, fun hm => (h .cellInfo hm).1⟩, h .ccallState⟩, h .simActiveState⟩,
      h .voipCallState⟩

/-- The record that carries exactly the arguments of a registration. -/
def Registration.record (r : Registration) : Record where
  bundleName := r.bundleName
  tokenId := r.tokenId
  uid := r.uid
  pid := r.pid
  mask := r.mask
  slotId := r.slotId
  appIdentifier := r.appIdentifier
  telephonyObserver := r.telephonyObserver

/-- The record that an admitted registration ends up with: the stored one if
its key is present, its own otherwise. -/
def Registration.subscriber (r : Registration) (s : Service P) : Record :=
  (s.registered r.key).getD r.record

/-- The registry behind an admitted registration. -/
def Registration.recordsAfter (r : Registration) (s : Service P) : List Record :=
  if (s.registered r.key).isSome then s.stateRecords else s.stateRecords ++ [r.record]

theorem Registration.subscriber_key (r : Registration) (s : Service P) :
    (r.subscriber s).key = r.key := by
  unfold subscriber
  cases h : s.registered r.key with
  | none => rfl
  | some record => exact (Service.mem_of_registered h).2

theorem Registration.subscriber_mem (r : Registration) (s : Service P) :
    r.subscriber s ∈ r.recordsAfter s := by
  unfold subscriber recordsAfter
  cases h : s.registered r.key with
  | none => exact List.mem_append_right _ (List.mem_singleton_self _)
  | some record => exact (Service.mem_of_registered h).1

/-- An admitted registration stores its record unless the key is present, and
replays to the record now stored. -/
theorem registerStateChange_of_admitted {env : Env} {r : Registration} (h : r.admitted P env)
    (s : Service P) :
    registerStateChange env r s =
      if r.isUpdate then
        (⟨(updateData env (r.subscriber s) s.caches).2, r.recordsAfter s⟩,
          ⟨.telephonySuccess, (updateData env (r.subscriber s) s.caches).1.map
            (Delivery.mk (r.subscriber s)), []⟩)
      else ({ s with stateRecords := r.recordsAfter s }, .code .telephonySuccess) := by
  obtain ⟨⟨happ, hperm⟩, hsims, hslot⟩ := h
  simp only [registerStateChange, happ, hperm, hsims, hslot, Bool.true_eq_false, if_false]
  cases hk : s.registered r.key with
  | none =>
    -- all eight members of the local record are overwritten
    have hscan := scanRecords_of_none hk {}
    simp only [hscan, Bool.false_eq_true, if_false, Registration.subscriber,
      Registration.recordsAfter, hk, Option.isSome_none, Option.getD_none]
    rfl
  | some record =>
    have hscan := scanRecords_of_some hk {}
    simp only [hscan, if_true, Registration.subscriber, Registration.recordsAfter, hk,
      Option.isSome_some, Option.getD_some]

/-- The code of a registration that some gate rejects. -/
def Registration.rejection (P : Platform) (env : Env) (r : Registration) : ReturnCode :=
  if Checked P env r.mask then .telephonySuccess else checkCode P env r.mask

/-- A rejected registration does nothing but return its code. -/
theorem registerStateChange_of_not_admitted {env : Env} {r : Registration}
    (h : ¬r.admitted P env) (s : Service P) :
    registerStateChange env r s = (s, .code (r.rejection P env)) := by
  unfold registerStateChange Registration.rejection checkCode Checked
  by_cases happ : checkCallerIsSystemApp P env r.mask = true
  · by_cases hperm : checkPermission P env r.mask = true
    · by_cases hsims : isMultiSimsCapabilitySupported P env r.slotId = true
      · have hslot : registrableSlot P r.slotId = false :=
          Bool.eq_false_iff.mpr fun hslot => h ⟨⟨happ, hperm⟩, hsims, hslot⟩
        simp only [happ, hperm, hsims, hslot, Bool.true_eq_false, if_false, and_self, if_true]
      · simp only [happ, hperm, hsims, Bool.true_eq_false, if_false, and_self, if_true]
    · simp only [happ, hperm, Bool.true_eq_false, if_false, Bool.false_eq_true, and_false, if_true]
  · simp only [happ, Bool.false_eq_true, false_and, if_false, if_true]

/-- A registration is answered with success unless a check rejects its caller. -/
theorem registerStateChange_success_iff (env : Env) (r : Registration) (s : Service P) :
    (registerStateChange env r s).2.result = .telephonySuccess ↔ Checked P env r.mask := by
  by_cases hadm : r.admitted P env
  · refine iff_of_true ?_ hadm.1
    rw [registerStateChange_of_admitted hadm]
    split <;> rfl
  · rw [registerStateChange_of_not_admitted hadm]
    simp only [Output.code, Registration.rejection, ite_eq_left_iff,
      (checkCode_ne env r.mask).1, imp_false, not_not]

theorem registerStateChange_stateRecords (env : Env) (r : Registration) (s : Service P) :
    (registerStateChange env r s).1.stateRecords =
      if r.admitted P env then r.recordsAfter s else s.stateRecords := by
  by_cases h : r.admitted P env
  · rw [registerStateChange_of_admitted h, if_pos h]
    split <;> rfl
  · rw [registerStateChange_of_not_admitted h, if_neg h]

/-- An admitted registration under an absent key adds that key; nothing else changes. -/
theorem registered_register (env : Env) (r : Registration) (s : Service P) (k : Key) :
    (registerStateChange env r s).1.registered k =
      if r.admitted P env ∧ k = r.key then some (r.subscriber s) else s.registered k := by
  unfold Service.registered
  rw [registerStateChange_stateRecords]
  by_cases hadm : r.admitted P env
  · simp only [hadm, if_true, true_and]
    unfold Registration.recordsAfter Registration.subscriber
    cases hk : s.registered r.key with
    | none =>
      simp only [Option.isSome_none, Bool.false_eq_true, if_false, Option.getD_none]
      exact lookup_append_singleton (Service.registered_eq_none.mp hk) k
    | some record =>
      simp only [Option.isSome_some, if_true, Option.getD_some]
      split
      · rename_i h
        exact h ▸ hk
      · rfl
  · simp only [hadm, false_and, if_false]

/-- A removal that passes its checks erases the first record with the key. -/
theorem unregisterStateChange_of_checked {env : Env} {k : Key} (h : Checked P env k.mask)
    (s : Service P) :
    unregisterStateChange env k s =
      ({ s with stateRecords := s.stateRecords.eraseP fun record => decide (record.key = k) },
        .code (if (s.registered k).isSome then .telephonySuccess
          else .telephonyStateUnregistryDataNotExist)) := by
  have hany : (s.stateRecords.any fun record => decide (record.key = k)) =
      (s.registered k).isSome := by
    rw [Service.registered, lookup, List.isSome_find?]
  simp only [unregisterStateChange, h.1, h.2, Bool.true_eq_false, if_false,
    Record.matchesKey_eq_decide, hany]

/-- A removal that fails a check does nothing but return the code of the check. -/
theorem unregisterStateChange_of_not_checked {env : Env} {k : Key}
    (h : ¬Checked P env k.mask) (s : Service P) :
    unregisterStateChange env k s = (s, .code (checkCode P env k.mask)) := by
  unfold unregisterStateChange checkCode
  by_cases happ : checkCallerIsSystemApp P env k.mask = true
  · have hperm : checkPermission P env k.mask = false :=
      Bool.eq_false_iff.mpr fun hperm => h ⟨happ, hperm⟩
    simp only [happ, hperm, Bool.true_eq_false, if_false, if_true]
  · simp only [happ, if_true]

theorem unregisterStateChange_stateRecords (env : Env) (k : Key) (s : Service P) :
    (unregisterStateChange env k s).1.stateRecords =
      if Checked P env k.mask then s.stateRecords.eraseP fun record => decide (record.key = k)
      else s.stateRecords := by
  by_cases h : Checked P env k.mask
  · rw [unregisterStateChange_of_checked h, if_pos h]
  · rw [unregisterStateChange_of_not_checked h, if_neg h]

/-- A removal that does not succeed under a key leaves that key alone. -/
theorem registered_unregister_of_ne {env : Env} {k j : Key} {s : Service P}
    (h : j = k → (unregisterStateChange env k s).2.result ≠ .telephonySuccess) :
    (unregisterStateChange env k s).1.registered j = s.registered j := by
  by_cases hc : Checked P env k.mask
  · rw [unregisterStateChange_of_checked hc] at h ⊢
    by_cases hj : j = k
    · have hnone : s.registered k = none := by
        simpa only [Output.code, ite_eq_left_iff, Bool.not_eq_true, Option.isSome_eq_false_iff,
          Option.isNone_iff_eq_none, ne_eq, reduceCtorEq, imp_false, not_not] using h hj
      subst hj
      have hfresh := Service.registered_eq_none.mp hnone
      rw [Service.registered, List.eraseP_of_forall_not, Service.registered]
      exact fun record hr hk => hfresh (List.mem_map.mpr ⟨record, hr, of_decide_eq_true hk⟩)
    · exact lookup_eraseP_ne _ hj
  · rw [unregisterStateChange_of_not_checked hc]

theorem unregisterStateChange_caches (env : Env) (k : Key) (s : Service P) :
    (unregisterStateChange env k s).1.caches = s.caches := by
  by_cases h : Checked P env k.mask
  · rw [unregisterStateChange_of_checked h]
  · rw [unregisterStateChange_of_not_checked h]

theorem unregisterStateChange_deliveries (env : Env) (k : Key) (s : Service P) :
    (unregisterStateChange env k s).2.deliveries = [] := by
  by_cases h : Checked P env k.mask
  · rw [unregisterStateChange_of_checked h]
    rfl
  · rw [unregisterStateChange_of_not_checked h]
    rfl

end TelephonyStateRegistry
