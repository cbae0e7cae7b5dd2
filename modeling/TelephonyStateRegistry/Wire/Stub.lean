import TelephonyStateRegistry.Wire.Format
import TelephonyStateRegistry.Service.Update

/-!
# The list handlers of the stub

`TelephonyStateRegistryStub` reads the lists of the two updates that carry them
with loops of its own. They differ from those of the observer in what they do
with a size beyond the limit, which becomes zero here.
-/

namespace TelephonyStateRegistry

open Reactive

variable {P : Platform}

/-- `parseSignalInfos`, with `ParseLteNrSignalInfos`. -/
def WireFormat.parseSignalInfos (W : WireFormat P) (size : Int) :
    Reader Word (List P.SignalInformation) :=
  (W.signals.readKnown 0#32 signalTypes).collect size.toNat

/-- `OnUpdateSignalInfo`: the update that it makes; without one it returns
`TELEPHONY_ERR_FAIL`. -/
def WireFormat.onUpdateSignalInfo (W : WireFormat P) : Reader Word (Option (Update P)) := do
  let slotId ← readInt32
  let size ← readInt32
  let size := if size > W.maxSignalNum then 0 else size
  if size < 0 then return none
  else
    let result ← W.parseSignalInfos size
    return some (.signalInfo slotId (result.map some))

/-- `OnUpdateCellInfo`: the update that it makes; without one it returns
`TELEPHONY_ERR_FAIL`. -/
def WireFormat.onUpdateCellInfo (W : WireFormat P) : Reader Word (Option (Update P)) := do
  let slotId ← readInt32
  let size ← readInt32
  let size := if size > W.maxCellNum then 0 else size
  if size ≤ 0 then return none
  else
    let cells ← (W.cells.readKnown 0#32 cellTypes).collect size.toNat
    return some (.cellInfo slotId (cells.map some))

end TelephonyStateRegistry
