import TelephonyStateRegistry.Wire.StateNotify

/-!
# A service between two interfaces

Producers reach the service through its stub, and the service reaches observers
of other processes through their proxies. What it is told it has read from one
parcel, and what it tells goes into another.
-/

namespace TelephonyStateRegistry

open Reactive

variable {P : Platform}

/-- What an observer of another process is told of a callback that is sent: of a
network state the copy that its parcel rebuilds, of a null one what an exhausted
parcel is taken for. An empty cell list is not sent. -/
def WireFormat.told (W : WireFormat P) : Callback P → Option (List (Callback P))
  | .onCellInfoUpdated _ [] => none
  | .onNetworkStateUpdated slotId (some n) =>
    some [.onNetworkStateUpdated slotId (some (P.parcelCopy n))]
  | .onNetworkStateUpdated slotId none =>
    some ((W.unmarshalling []).1.toList.map fun n => .onNetworkStateUpdated slotId (some n))
  | callback => some [callback]

end TelephonyStateRegistry
