import TelephonyStateRegistry.Core.Locks
import TelephonyStateRegistry.Service.Run

/-!
# The entry points of the service and its lock

`lock_` guards the caches and the registry. Each public function takes it in scopes
of its own, after the checks that need no lock: an update first exclusively and then
shared, a registration exclusively, a query shared. `Dump` writes a report under the
shared lock, in which it asks the queries for the state of the slots.
-/

namespace TelephonyStateRegistry

open Reactive

variable {P : Platform}

/-- `ServiceRunningState`. -/
inductive ServiceRunningState
  | stateStopped
  | stateRunning
  deriving DecidableEq, Repr

/-- The number of a running state. -/
def ServiceRunningState.value : ServiceRunningState → Int
  | stateStopped => 0
  | stateRunning => 1

/-- The members of the service: what the lock guards, the running state, and the
times of the last start. -/
structure ServiceMembers (P : Platform) where
  guarded : Service P
  state : ServiceRunningState
  bindStartTime : Int
  bindEndTime : Int

/-- The texts for the states of a slot. -/
structure EnumConvert where
  getSimState : Int → String
  getCardType : Int → String
  getLockReason : Int → String
  getCallState : Int → String
  getCellularDataConnectionState : Int → String
  getCellularDataFlow : Int → String
  getCellularDataConnectionNetworkType : Int → String

/-- What other components answer during a call of an entry point. -/
structure SystemAnswers where
  env : Env
  /-- The clock at the start and at the end of `OnStart`. -/
  startTime : Int
  endTime : Int
  /-- Whether `DelayedSingleton::GetInstance` returns the service. -/
  getInstance : Bool
  /-- `CoreServiceClient::HasSimCard`. -/
  hasSimCard : Int → Bool
  enumConvert : EnumConvert
  /-- Whether `dprintf` writes the report. -/
  dprintf : Bool

/-- Whether an update writes a cache, and so has an exclusive section. -/
def Update.hasExclusiveSection : Update P → Bool
  | iccAccount | voipCallState _ => false
  | _ => true

/-- An update with its lock. -/
def Update.locked (u : Update P) (env : Env) (s : Service P) : Locked (Service P × Output P) :=
  match u.function.guard env with
  | some result => pure (s, .code result)
  | none => do
    let s ←
      if u.hasExclusiveSection then .holding .exclusive (pure (u.function.writeTo s))
      else pure (u.function.writeTo s)
    .holding .shared (pure (u.function.notify env s))

/-- `RegisterStateChange` with its lock, which it takes behind its four gates. -/
def registerStateChangeLocked (env : Env) (r : Registration) (s : Service P) :
    Locked (Service P × Output P) :=
  if checkCallerIsSystemApp P env r.mask = false ∨ checkPermission P env r.mask = false ∨
      isMultiSimsCapabilitySupported P env r.slotId = false ∨
      registrableSlot P r.slotId = false then
    pure (registerStateChange env r s)
  else .holding .exclusive (pure (registerStateChange env r s))

/-- `UnregisterStateChange` with its lock, which it takes behind its two checks. -/
def unregisterStateChangeLocked (env : Env) (k : Key) (s : Service P) :
    Locked (Service P × Output P) :=
  if checkCallerIsSystemApp P env k.mask = false ∨ checkPermission P env k.mask = false then
    pure (unregisterStateChange env k s)
  else .holding .exclusive (pure (unregisterStateChange env k s))

/-- A query of one slot with its lock. -/
def query (get : Service P → Int → Int) (slotId : Int) (s : Service P) : Locked Int :=
  .holding .shared (pure (get s slotId))

/-- `SIM_SLOT_2`. -/
def simSlot2 : Int := 2

/-- The slots of a report: the number of the third one is left out. -/
def dumpedSlots (P : Platform) : List Int :=
  (List.range P.simSlotCount.toNat).map fun i => if (i : Int) ≥ simSlot2 then (i : Int) + 1 else i

/-- The lines of a report about one slot. -/
def showSlot (X : EnumConvert) (slot : Int) (s : Service P) : Locked String := do
  let simState ← query getSimState slot s
  let cardType ← query getCardType slot s
  let lockReason ← query getLockReason slot s
  let callState ← query getCallState slot s
  let dataConnectionState ← query getCellularDataConnectionState slot s
  let dataFlow ← query getCellularDataFlow slot s
  let networkType ← query getCellularDataConnectionNetworkType slot s
  pure ("SlotId = " ++ toString slot ++ "\nSimState = " ++ X.getSimState simState ++
    "\nCardType = " ++ X.getCardType cardType ++
    "\nLockReason = " ++ X.getLockReason lockReason ++
    "\nCallState = " ++ X.getCallState callState ++
    "\nCellularDataConnectionState = " ++ X.getCellularDataConnectionState dataConnectionState ++
    "\nCellularDataFlow = " ++ X.getCellularDataFlow dataFlow ++
    "\nCellularDataConnectionNetworkType = " ++
      X.getCellularDataConnectionNetworkType networkType ++ "\n")

/-- The loop over the slots, with `WhetherHasSimCard`. -/
def showSlots (X : EnumConvert) (hasSimCard : Int → Bool) (s : Service P) :
    List Int → Locked String
  | [] => pure ""
  | slot :: slots => do
    let shown ← if hasSimCard slot then showSlot X slot s else pure ""
    let rest ← showSlots X hasSimCard s slots
    pure (shown ++ rest)

/-- `ShowTelephonyChangeState`. -/
def showTelephonyChangeState (X : SystemAnswers) (m : ServiceMembers P) : Locked String :=
  if X.getInstance = false then pure ""
  else do
    let slots ← showSlots X.enumConvert X.hasSimCard m.guarded (dumpedSlots P)
    pure ("TelephonyStateRegistry BindStartTime = " ++ toString m.bindStartTime ++
      "\nTelephonyStateRegistry BindEndTime = " ++ toString m.bindEndTime ++
      "\nTelephonyStateRegistry BindSpendTime = " ++
        toString (m.bindEndTime - m.bindStartTime) ++
      "\nTelephonyStateRegistry ServiceRunningState = " ++ toString m.state.value ++ "\n" ++ slots)

/-- The title of a record in the report, by the first event that it listens for. -/
def registerTitle (P : Platform) (item : Record) : String :=
  if item.isExistStateListener (P.mask .dataConnectionState) then
    "CellularDataConnectState Register: "
  else if item.isExistStateListener (P.mask .dataFlow) then "CellularDataFlow Register: "
  else if item.isExistStateListener (P.mask .callState) then "CallState Register: "
  else if item.isExistStateListener (P.mask .simState) then "SimState Register: "
  else if item.isExistStateListener (P.mask .signalStrengths) then "SignalInfo Register: "
  else if item.isExistStateListener (P.mask .cellInfo) then "CellInfo Register: "
  else if item.isExistStateListener (P.mask .networkState) then "NetworkState Register: "
  else if item.isExistStateListener (P.mask .callStateEx) then "CallStateEx Register: "
  else "Unknown Subscriber: "

/-- `ShowTelephonyStateRegistryInfo`. -/
def showTelephonyStateRegistryInfo (P : Platform) (stateRecords : List Record) : String :=
  "registrations: count= " ++ toString stateRecords.length ++ "\n" ++
    String.join (stateRecords.map fun item =>
      registerTitle P item ++ "\n    \x7b package: " ++ item.bundleName ++
        " pid: " ++ toString item.pid ++ " mask: " ++ toString item.mask.toNat ++
        " slotId: " ++ toString item.slotId ++ " \x7d\n")

/-- `TelephonyStateRegistryDumpHelper::Dump`, which looks at no argument. -/
def dumpHelper (X : SystemAnswers) (m : ServiceMembers P) : Locked String := do
  let shown ← showTelephonyChangeState X m
  pure (shown ++ showTelephonyStateRegistryInfo P m.guarded.stateRecords)

/-- The public functions of the service. -/
inductive EntryPoint (P : Platform)
  | onStart
  | onStop
  | update (u : Update P)
  | registerStateChange (r : Registration)
  | unregisterStateChange (k : Key)
  | dump (fd : Int) (args : List U16String)
  | getBindStartTime
  | getBindEndTime
  | getBindSpendTime
  | getServiceRunningState
  | getSimState (slotId : Int)
  | getCallState (slotId : Int)
  | getCardType (slotId : Int)
  | getCellularDataConnectionState (slotId : Int)
  | getCellularDataFlow (slotId : Int)
  | getCellularDataConnectionNetworkType (slotId : Int)
  | getLockReason (slotId : Int)

/-- What an entry point returns. -/
inductive Reply (P : Platform)
  | void
  | output (output : Output P)
  | int (value : Int)
  | text (value : String)
  /-- `Dump`: what it printed, and whether it succeeded. -/
  | dumped (result : String) (success : Bool)

/-- `OnStart`. The thread that it starts publishes common events and takes no lock. -/
def onStart (X : SystemAnswers) (m : ServiceMembers P) : Locked (ServiceMembers P) :=
  let m := { m with bindStartTime := X.startTime }
  .holding .exclusive (pure (
    if m.state = .stateRunning then m
    else { m with state := .stateRunning, bindEndTime := X.endTime }))

/-- `OnStop`. -/
def onStop (m : ServiceMembers P) : Locked (ServiceMembers P) :=
  .holding .exclusive (pure { m with state := .stateStopped })

/-- `Dump`. -/
def dump (X : SystemAnswers) (fd : Int) (m : ServiceMembers P) : Locked (Reply P) :=
  if fd < 0 then pure (.dumped "" false)
  else .holding .shared do
    let result ← dumpHelper X m
    pure (if X.dprintf then .dumped result true else .dumped "" false)

/-- The guarded members after an operation on them. -/
def ServiceMembers.withGuarded (m : ServiceMembers P) (p : Locked (Service P × Output P)) :
    Locked (ServiceMembers P × Reply P) := do
  let (guarded, output) ← p
  pure ({ m with guarded }, .output output)

/-- A call of an entry point. -/
def EntryPoint.run (X : SystemAnswers) (m : ServiceMembers P) :
    EntryPoint P → Locked (ServiceMembers P × Reply P)
  | onStart => do return (← TelephonyStateRegistry.onStart X m, .void)
  | onStop => do return (← TelephonyStateRegistry.onStop m, .void)
  | update u => m.withGuarded (u.locked X.env m.guarded)
  | registerStateChange r => m.withGuarded (registerStateChangeLocked X.env r m.guarded)
  | unregisterStateChange k => m.withGuarded (unregisterStateChangeLocked X.env k m.guarded)
  | dump fd _ => do return (m, ← TelephonyStateRegistry.dump X fd m)
  | getBindStartTime => pure (m, .text (toString m.bindStartTime))
  | getBindEndTime => pure (m, .text (toString m.bindEndTime))
  | getBindSpendTime => pure (m, .text (toString (m.bindEndTime - m.bindStartTime)))
  | getServiceRunningState => pure (m, .int m.state.value)
  | getSimState slotId => do
    return (m, .int (← query TelephonyStateRegistry.getSimState slotId m.guarded))
  | getCallState slotId => do
    return (m, .int (← query TelephonyStateRegistry.getCallState slotId m.guarded))
  | getCardType slotId => do
    return (m, .int (← query TelephonyStateRegistry.getCardType slotId m.guarded))
  | getCellularDataConnectionState slotId => do
    return (m, .int
      (← query TelephonyStateRegistry.getCellularDataConnectionState slotId m.guarded))
  | getCellularDataFlow slotId => do
    return (m, .int (← query TelephonyStateRegistry.getCellularDataFlow slotId m.guarded))
  | getCellularDataConnectionNetworkType slotId => do
    return (m, .int
      (← query TelephonyStateRegistry.getCellularDataConnectionNetworkType slotId m.guarded))
  | getLockReason slotId => do
    return (m, .int (← query TelephonyStateRegistry.getLockReason slotId m.guarded))

/-- An entry point that changes the guarded members, as an operation of the service. -/
def EntryPoint.op : EntryPoint P → Option (Op P)
  | update u => some (.update u)
  | registerStateChange r => some (.register r)
  | unregisterStateChange k => some (.unregister k)
  | _ => none

/-- With its lock an entry point does to the guarded members what the operation does. -/
theorem EntryPoint.run_guarded (X : SystemAnswers) (m : ServiceMembers P) (entry : EntryPoint P) :
    (entry.run X m).value.1.guarded =
      (entry.op.map fun op => (op.run X.env m.guarded).1).getD m.guarded := by
  cases entry with
  | onStart =>
    simp only [run, TelephonyStateRegistry.onStart]
    change (ite _ _ _ : ServiceMembers P).guarded = m.guarded
    split <;> rfl
  | update u =>
    simp only [run, ServiceMembers.withGuarded, Update.locked, op, Option.map_some,
      Option.getD_some, Op.run, LockedUpdate.run]
    cases u.function.guard X.env with
    | some result => rfl
    | none => cases u <;> rfl
  | registerStateChange r =>
    simp only [run, ServiceMembers.withGuarded, registerStateChangeLocked]
    split <;> rfl
  | unregisterStateChange k =>
    simp only [run, ServiceMembers.withGuarded, unregisterStateChangeLocked]
    split <;> rfl
  | _ => rfl

end TelephonyStateRegistry
