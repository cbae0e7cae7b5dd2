import TelephonyStateRegistry.Client.AniDispatch
import TelephonyStateRegistry.Core.KeyedList
import TelephonyStateRegistry.Correctness.Delivered

/-!
# The calls that both script front ends report

The JS front end makes a call state from the native one. The ArkTS front end
takes the native number for that of a call state.
-/

namespace TelephonyStateRegistry

open Reactive

variable {P : Platform}

/-- The value that JS listeners are given for an update. -/
private def CallUpdate.jsValue (K : Payloads P) : CallUpdate → Option (Value String)
  | onCallStateUpdated _ callState phoneNumber =>
    (K.toUtf8 phoneNumber).map (.callState (wrapCallState callState))
  | onCallStateUpdatedEx _ callStateEx => some (.callStateEx (wrapCallStateEx callStateEx))

end TelephonyStateRegistry
