import TelephonyStateRegistry.Core.KeyMap
import TelephonyStateRegistry.Core.Mealy
import TelephonyStateRegistry.Service.Record
import TelephonyStateRegistry.Service.Platform
import TelephonyStateRegistry.Service.State
import TelephonyStateRegistry.Service.Update
import TelephonyStateRegistry.Service.Notify
import TelephonyStateRegistry.Service.Register
import TelephonyStateRegistry.Interpretation.Replay
import TelephonyStateRegistry.Core.KeyedList
import TelephonyStateRegistry.Service.Run
import TelephonyStateRegistry.Interpretation.Live
import TelephonyStateRegistry.Service.Admission
import TelephonyStateRegistry.Interpretation.Outcome
import TelephonyStateRegistry.Correctness.Registry
import TelephonyStateRegistry.Correctness.Mediation
import TelephonyStateRegistry.Correctness.Noninterference
import TelephonyStateRegistry.Correctness.History
import TelephonyStateRegistry.Correctness.Query
import TelephonyStateRegistry.Correctness.Subscription
import TelephonyStateRegistry.Concurrent.System
import TelephonyStateRegistry.Concurrent.Reports
import TelephonyStateRegistry.Concurrent.Watcher
import TelephonyStateRegistry.Correctness.Payloads
import TelephonyStateRegistry.Correctness.Convergence
import TelephonyStateRegistry.Correctness.Rejection
import TelephonyStateRegistry.Core.Parcel
import TelephonyStateRegistry.Correctness.Provenance
import TelephonyStateRegistry.Wire.Format
import TelephonyStateRegistry.Wire.Observer
import TelephonyStateRegistry.Correctness.RoundTrip
import TelephonyStateRegistry.Correctness.Unsupported
import TelephonyStateRegistry.Client.Cj
import TelephonyStateRegistry.Client.Napi
import TelephonyStateRegistry.Client.Ani
import TelephonyStateRegistry.Correctness.Backing
import TelephonyStateRegistry.Client.FrontEnd
import TelephonyStateRegistry.Client.ObserverClient
import TelephonyStateRegistry.Client.Host
import TelephonyStateRegistry.Correctness.SharedClient
import TelephonyStateRegistry.Client.Session
import TelephonyStateRegistry.Correctness.Restart
import TelephonyStateRegistry.Core.Interleaving
import TelephonyStateRegistry.Client.Neighbours
import TelephonyStateRegistry.Correctness.Isolation
import TelephonyStateRegistry.Client.Dispatch
import TelephonyStateRegistry.Correctness.Delivery
import TelephonyStateRegistry.Client.Threads
import TelephonyStateRegistry.Correctness.Silence
import TelephonyStateRegistry.Correctness.FanOut
import TelephonyStateRegistry.Wire.StateNotify
import TelephonyStateRegistry.Correctness.Replies
import TelephonyStateRegistry.Core.Loops
import TelephonyStateRegistry.Correctness.Serving
import TelephonyStateRegistry.Correctness.Scopes
import TelephonyStateRegistry.Client.Payloads
import TelephonyStateRegistry.Client.AniDispatch
import TelephonyStateRegistry.Correctness.SameCalls
import TelephonyStateRegistry.Client.CjDispatch
import TelephonyStateRegistry.Correctness.SamePayloads
import TelephonyStateRegistry.Core.Correspondence
import TelephonyStateRegistry.Client.CjObserver
import TelephonyStateRegistry.Client.LifeCycle
import TelephonyStateRegistry.Correctness.SameLifeCycle
import TelephonyStateRegistry.Core.Withdrawals
import TelephonyStateRegistry.Correctness.Removal
import TelephonyStateRegistry.Client.Unsubscription
import TelephonyStateRegistry.Correctness.Unsubscription
import TelephonyStateRegistry.Correctness.Uniqueness
import TelephonyStateRegistry.Correctness.Commutation
import TelephonyStateRegistry.Core.Locks
import TelephonyStateRegistry.Service.EntryPoints
import TelephonyStateRegistry.Correctness.LockDiscipline
import TelephonyStateRegistry.Client.ProxyCache
import TelephonyStateRegistry.Correctness.Generations
import TelephonyStateRegistry.Client.CjCallbacks
import TelephonyStateRegistry.Correctness.Reentrance
import TelephonyStateRegistry.Core.Ledger
import TelephonyStateRegistry.Client.Accounts
import TelephonyStateRegistry.Correctness.Ownership
import TelephonyStateRegistry.Client.Replays
import TelephonyStateRegistry.Correctness.Newcomers
import TelephonyStateRegistry.Client.Device
import TelephonyStateRegistry.Core.Flow
import TelephonyStateRegistry.Correctness.EndToEnd
import TelephonyStateRegistry.Correctness.Reporting
import TelephonyStateRegistry.Client.CjQueue
import TelephonyStateRegistry.Correctness.Stream
import TelephonyStateRegistry.Client.Network
import TelephonyStateRegistry.Correctness.Membership
import TelephonyStateRegistry.Correctness.Audience
import TelephonyStateRegistry.Client.AniBridge
import TelephonyStateRegistry.Client.AniFlavors
import TelephonyStateRegistry.Correctness.Flavors
import TelephonyStateRegistry.Correctness.SameValues
import TelephonyStateRegistry.Correctness.References
import TelephonyStateRegistry.Client.Scripts
import TelephonyStateRegistry.Core.Counterparts
import TelephonyStateRegistry.Core.Frames
import TelephonyStateRegistry.Correctness.Dumped
import TelephonyStateRegistry.Correctness.Portability
import TelephonyStateRegistry.Correctness.Linearization
import TelephonyStateRegistry.Correctness.Relay
