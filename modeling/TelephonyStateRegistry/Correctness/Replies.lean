import TelephonyStateRegistry.Wire.StateNotify

/-!
# Requests and their replies

What a request leaves behind is decided in two places: by what its handler makes
of the fields, and by the operation it calls. Two laws are compared with the
handlers. A dispatched request should get its one code, and a malformed one
should change nothing.
-/

namespace TelephonyStateRegistry

open Reactive

variable {P : Platform}

/-- The code that a request comes to: that of the operation that was called, or
the error for which it was rejected before. -/
def Outcome.code : Outcome P → Option ReplyCode
  | .undispatched => none
  | .rejected error => some (.decode error)
  | .served _ output => some (.service output.result)

/-- Under `NO_ERROR` the reply consists of the code of the request. -/
def Handled.AnsweredOnce (handled : Handled P) : Prop :=
  handled.result = .noError → ∃ code, handled.outcome.code = some code ∧ handled.reply = [code]

/-- Most handlers answer whatever the operation does. -/
theorem Handling.run_answered (env : Env) (s : Service P) (op : Op P) :
    ((Handling.answered op).run env s).AnsweredOnce := fun _ => ⟨_, rfl, rfl⟩

/-- A rejection that is returned needs no reply. -/
theorem Handling.run_reject (env : Env) (s : Service P) (error : DecodeError)
    (reply : List ReplyCode) :
    ((Handling.reject error reply (.decode error)).run env s).AnsweredOnce := by
  intro h
  cases h

/-- The fields under which the handler of a code fills the reply as it should. -/
def StateNotifyFormat.Replies (S : StateNotifyFormat P) (fields : MessageParcel) :
    StateNotifyInterfaceCode → Prop
  | .signalInfo => declaredSize fields < 0
  | .cellInfo => ¬(1 ≤ declaredSize fields ∧ declaredSize fields ≤ S.maxCellNum)
  | .addObserver => S.carriedObserver fields ≠ none
  | _ => True

variable {S : StateNotifyFormat P} {env : Env} {caller : Process} {s : Service P}

private theorem listUpdate_answered_iff (u : Option (Update P)) :
    ((Handling.ofListUpdate u).run env s).AnsweredOnce ↔ u = none := by
  cases u with
  | none => exact ⟨fun _ => rfl, fun _ => Handling.run_reject env s _ _⟩
  | some u =>
    constructor
    · intro h
      obtain ⟨code, -, hreply⟩ := h rfl
      cases hreply
    · intro h
      cases h

/-- **Every request that a handler finishes gets its code, but for three.** A
reply stays empty behind a signal list of no negative length and behind a cell
list of a length within the limits, and it holds the error twice behind a
registration without an observer. -/
theorem answered_once_iff (code : StateNotifyInterfaceCode) {data : MessageParcel}
    (h : S.Addressed data) :
    (S.onRemoteRequest env caller ⟨S.interfaceCode code, data⟩ s).AnsweredOnce ↔
      S.Replies (S.fields data) code := by
  rw [S.onRemoteRequest_registered code h]
  generalize S.fields data = fields
  cases code with
  | signalInfo =>
    rw [StateNotifyFormat.memberFunc, Reader.map_apply, listUpdate_answered_iff,
      S.onUpdateSignalInfo_fst, StateNotifyFormat.Replies]
    split <;> simp only [*, reduceCtorEq]
  | cellInfo =>
    rw [StateNotifyFormat.memberFunc, Reader.map_apply, listUpdate_answered_iff,
      S.onUpdateCellInfo_fst, StateNotifyFormat.Replies]
    split <;> simp only [*, reduceCtorEq, and_self, not_true_eq_false, not_false_eq_true]
  | addObserver =>
    rw [StateNotifyFormat.memberFunc, S.onRegisterStateChange_fst, StateNotifyFormat.Replies]
    cases S.carriedObserver fields with
    | none =>
      simp only [ne_eq, not_true_eq_false, iff_false]
      intro hanswered
      obtain ⟨code, -, hreply⟩ := hanswered rfl
      cases hreply
    | some callback =>
      simp only [ne_eq, reduceCtorEq, not_false_eq_true, iff_true]
      exact Handling.run_answered env s _
  | netWorkState =>
    rw [StateNotifyFormat.memberFunc, S.onUpdateNetworkState_fst]
    refine iff_of_true ?_ trivial
    cases (S.unmarshalling (readInt32 fields).2).1 with
    | none => exact Handling.run_reject env s _ _
    | some networkState => exact Handling.run_answered env s _
  | voipCallState =>
    rw [StateNotifyFormat.memberFunc, S.onUpdateVoIPCallState_fst]
    refine iff_of_true ?_ trivial
    split
    · exact Handling.run_answered env s _
    · exact Handling.run_reject env s _ _
  | simState | callState | callStateForId | cellularDataState | cellularDataFlow
  | removeObserver | cfuIndicator | voiceMailMsgIndicator | iccAccountChange | simActivrState =>
    exact iff_of_true (Handling.run_answered env s _) trivial

/-- A process of which nothing is known. -/
def unknownCaller : Process := ⟨"", 0, 0, 0, ""⟩

theorem call_state_request_answered :
    let S := StateNotifyFormat.dualSim
    let data := (S.requestOf .callState [writeInt32 1, S.string16.write []]).data
    S.Addressed data ∧
      ((S.onRemoteRequest .native unknownCaller ⟨S.interfaceCode .callState, data⟩
        (Service.init _)).AnsweredOnce ↔ S.Replies (S.fields data) .callState) := by
  intro S data
  have h : S.Addressed data := (S.requestOf_addressed .callState _).1
  exact ⟨h, answered_once_iff .callState h⟩

/-- A signal list is refused for want of a permission, and the reply is empty. -/
theorem refused_signal_list_unanswered :
    let S := StateNotifyFormat.dualSim
    let data := (S.requestOf .signalInfo [writeInt32 0, writeInt32 1, S.signals.write "g"]).data
    let handled := S.onRemoteRequest .application unknownCaller ⟨S.interfaceCode .signalInfo, data⟩
      (Service.init _)
    S.Addressed data ∧ handled.result = .noError ∧ handled.reply = [] ∧
      handled.outcome.code = some (.service .telephonyStateRegistryPermissionDenied) ∧
      ¬handled.AnsweredOnce := by
  intro S data handled
  have h : S.Addressed data := (S.requestOf_addressed .signalInfo _).1
  have hresult : handled.result = .noError := by decide
  have hreply : handled.reply = [] := by decide
  refine ⟨h, hresult, hreply, by decide, ?_⟩
  intro hanswered
  obtain ⟨code, -, hcode⟩ := hanswered hresult
  rw [hreply] at hcode
  cases hcode

/-- The fields that do not make a request with a code. -/
def StateNotifyFormat.MalformedFields (S : StateNotifyFormat P) (fields : MessageParcel) :
    StateNotifyInterfaceCode → Prop
  | .signalInfo => ¬(0 ≤ declaredSize fields ∧ declaredSize fields ≤ S.maxSignalNum)
  | .cellInfo => ¬(1 ≤ declaredSize fields ∧ declaredSize fields ≤ S.maxCellNum)
  | .addObserver => S.carriedObserver fields = none
  | .netWorkState => (S.unmarshalling (readInt32 fields).2).1 = none
  | .voipCallState => ¬S.InRange (S.readVoIPCallStateInfo fields).1
  | _ => False

/-- The requests that are not well formed. -/
inductive StateNotifyFormat.Malformed (S : StateNotifyFormat P) : Request → Prop
  | descriptor {request : Request} (h : ¬S.Addressed request.data) : Malformed S request
  | code {request : Request} (h : ∀ code, S.interfaceCode code ≠ request.code) :
    Malformed S request
  | fields {code : StateNotifyInterfaceCode} {data : MessageParcel}
    (h : S.MalformedFields (S.fields data) code) : Malformed S ⟨S.interfaceCode code, data⟩

/-- The calls on observers during a request. -/
def Outcome.deliveries : Outcome P → List (Delivery P)
  | .served _ output => output.deliveries
  | _ => []

/-- The common events that a request publishes. -/
def Outcome.events : Outcome P → List CommonEvent
  | .served _ output => output.events
  | _ => []

/-- A request that the service took for an update. -/
def Outcome.AcceptedUpdate (env : Env) : Outcome P → Prop
  | .served (.update u) _ => u.accepted env
  | _ => False

/-- Nothing of a request is left in the service or was seen outside it. -/
def Handled.ChangesNothing (env : Env) (s : Service P) (handled : Handled P) : Prop :=
  handled.service = s ∧ handled.outcome.deliveries = [] ∧ handled.outcome.events = [] ∧
    ¬handled.outcome.AcceptedUpdate env

/-- A rejected request changes nothing. -/
theorem Handling.reject_changesNothing (env : Env) (s : Service P) (error : DecodeError)
    (reply : List ReplyCode) (result : StubResult) :
    ((Handling.reject error reply result).run env s).ChangesNothing env s :=
  ⟨rfl, rfl, rfl, not_false⟩

/-- A request for an update changes nothing exactly when the update is refused. -/
theorem Handling.update_changesNothing_iff (u : Update P) (reply : ReturnCode → List ReplyCode) :
    ((Handling.serve (.update u) reply).run env s).ChangesNothing env s ↔ ¬u.accepted env := by
  constructor
  · intro h
    exact h.2.2.2
  · intro hrefused
    obtain ⟨result, hguard⟩ := Option.ne_none_iff_exists'.mp hrefused
    have hrun : u.function.run env s = (s, .code result) := by
      rw [LockedUpdate.run, hguard]
    simp only [Handling.run, Op.run, hrun]
    exact ⟨rfl, rfl, rfl, hrefused⟩

/-- A signal list beyond the limit, for a slot that exists and by a caller that
may update. -/
def StateNotifyFormat.Overlong (S : StateNotifyFormat P) (env : Env) (request : Request) : Prop :=
  S.Addressed request.data ∧ request.code = S.interfaceCode .signalInfo ∧
    S.maxSignalNum < declaredSize (S.fields request.data) ∧
    P.verifySlotId (readInt32 (S.fields request.data)).1 = true ∧
    env.checkPermission .setTelephonyState = true

private theorem slotGuard_eq_none_iff (slotId : Int) :
    slotGuard P slotId env = none ↔
      P.verifySlotId slotId = true ∧ env.checkPermission .setTelephonyState = true := by
  rw [slotGuard, setTelephonyStateGuard]
  cases P.verifySlotId slotId <;> cases env.checkPermission .setTelephonyState <;>
    simp only [Bool.false_eq_true, if_true, if_false, reduceCtorEq, and_self, and_false, false_and]

private theorem malformed_rejected {code : StateNotifyInterfaceCode} {fields : MessageParcel}
    (h : S.MalformedFields fields code) (hcode : code ≠ .signalInfo) :
    ∃ error reply result,
      (S.memberFunc caller code fields).1 = Handling.reject error reply result := by
  cases code with
  | signalInfo => exact absurd rfl hcode
  | cellInfo =>
    rw [StateNotifyFormat.MalformedFields] at h
    rw [StateNotifyFormat.memberFunc, Reader.map_apply, S.onUpdateCellInfo_fst, if_neg h]
    exact ⟨_, _, _, rfl⟩
  | addObserver =>
    rw [StateNotifyFormat.MalformedFields] at h
    rw [StateNotifyFormat.memberFunc, S.onRegisterStateChange_fst, h]
    exact ⟨_, _, _, rfl⟩
  | netWorkState =>
    rw [StateNotifyFormat.MalformedFields] at h
    rw [StateNotifyFormat.memberFunc, S.onUpdateNetworkState_fst, h]
    exact ⟨_, _, _, rfl⟩
  | voipCallState =>
    rw [StateNotifyFormat.MalformedFields] at h
    rw [StateNotifyFormat.memberFunc, S.onUpdateVoIPCallState_fst, if_neg h]
    exact ⟨_, _, _, rfl⟩
  | simState | callState | callStateForId | cellularDataState | cellularDataFlow
  | removeObserver | cfuIndicator | voiceMailMsgIndicator | iccAccountChange | simActivrState =>
    exact absurd h not_false

private theorem malformed_signalInfo {data : MessageParcel} (haddressed : S.Addressed data)
    (h : S.MalformedFields (S.fields data) .signalInfo) :
    ((Handling.ofListUpdate (S.onUpdateSignalInfo (S.fields data)).1).run env s).ChangesNothing
        env s ↔ ¬S.Overlong env ⟨S.interfaceCode .signalInfo, data⟩ := by
  rw [StateNotifyFormat.MalformedFields] at h
  rw [S.onUpdateSignalInfo_fst]
  by_cases hneg : declaredSize (S.fields data) < 0
  · have hshort : ¬S.maxSignalNum < declaredSize (S.fields data) := by
      have hmax := S.maxSignalNum_nonneg
      omega
    rw [if_pos hneg]
    exact iff_of_true (Handling.reject_changesNothing env s _ _ _)
      fun hover => hshort hover.2.2.1
  · have hlong : S.maxSignalNum < declaredSize (S.fields data) := by omega
    rw [if_neg hneg, Handling.ofListUpdate, Handling.update_changesNothing_iff]
    apply not_congr
    exact (slotGuard_eq_none_iff _).trans
      ⟨fun hguard => ⟨haddressed, rfl, hlong, hguard⟩, fun hover => hover.2.2.2⟩

/-- **A malformed request changes nothing, but for the long signal lists.** A
list longer than the limit is taken for an empty one, which the service then
reports; every other malformed request is rejected before the service is called. -/
theorem malformed_changes_nothing_iff {request : Request} (h : S.Malformed request) :
    (S.onRemoteRequest env caller request s).ChangesNothing env s ↔ ¬S.Overlong env request := by
  by_cases hdispatched : S.Addressed request.data ∧ ∃ code, S.interfaceCode code = request.code
  · obtain ⟨haddressed, code, hcode⟩ := hdispatched
    have hfields : S.MalformedFields (S.fields request.data) code := by
      cases h with
      | descriptor h => exact absurd haddressed h
      | code h => exact absurd hcode (h code)
      | fields h => rwa [S.interfaceCode_injective hcode]
    obtain ⟨_, data⟩ := request
    subst hcode
    rw [S.onRemoteRequest_registered code haddressed]
    by_cases hsignal : code = .signalInfo
    · subst hsignal
      exact malformed_signalInfo haddressed hfields
    · obtain ⟨error, reply, result, hreject⟩ := malformed_rejected hfields hsignal
      rw [hreject]
      exact iff_of_true (Handling.reject_changesNothing env s error reply result)
        fun hover => hsignal (S.interfaceCode_injective hover.2.1)
  · have hundispatched : ¬S.Addressed request.data ∨
        ∀ code, S.interfaceCode code ≠ request.code := by
      rcases not_and_or.mp hdispatched with haddressed | hcode
      · exact Or.inl haddressed
      · exact Or.inr (not_exists.mp hcode)
    have hnothing : (S.onRemoteRequest env caller request s).service = s ∧
        (S.onRemoteRequest env caller request s).outcome = .undispatched :=
      S.onRemoteRequest_undispatched hundispatched
    obtain ⟨hservice, houtcome⟩ := hnothing
    refine iff_of_true ⟨hservice, ?_⟩ fun hover => hdispatched ⟨hover.1, _, hover.2.1.symm⟩
    rw [houtcome]
    exact ⟨rfl, rfl, not_false⟩

/-- A registration without an observer is malformed, and changes nothing. -/
theorem empty_registration_changes_nothing :
    let S := StateNotifyFormat.dualSim
    let request := S.requestOf .addObserver
      [writeInt32 0, writeInt32 4, writeBool true, writeInt32 0]
    S.Malformed request ∧
      ((S.onRemoteRequest .native unknownCaller request (Service.init _)).ChangesNothing .native
        (Service.init _) ↔ ¬S.Overlong .native request) := by
  intro S request
  have hfields : S.fields request.data =
      [writeInt32 0, writeInt32 4, writeBool true, writeInt32 0].flatten :=
    (S.requestOf_addressed .addObserver _).2
  have hmalformed : S.Malformed request := by
    apply StateNotifyFormat.Malformed.fields
    rw [StateNotifyFormat.MalformedFields]
    change S.carriedObserver (S.fields request.data) = none
    rw [hfields]
    rfl
  exact ⟨hmalformed, malformed_changes_nothing_iff hmalformed⟩

/-- A list of 101 signals, where 100 are allowed, empties the cache. -/
theorem overlong_signal_list_accepted :
    let S := StateNotifyFormat.dualSim
    let request := S.requestOf .signalInfo [writeInt32 0, writeInt32 101]
    let s := (machine _).next (Service.init Platform.dualSim)
      (.native, .update (.signalInfo 0 [some "g"]))
    let handled := S.onRemoteRequest .native unknownCaller request s
    S.Malformed request ∧ s.caches.signalInfos.read 0 = [some "g"] ∧
      handled.service.caches.signalInfos.read 0 = [] ∧ handled.outcome.events ≠ [] ∧
      ¬handled.ChangesNothing .native s := by
  intro S request s handled
  have hfields : S.fields request.data = [writeInt32 0, writeInt32 101].flatten :=
    (S.requestOf_addressed .signalInfo _).2
  have hmalformed : S.Malformed request := by
    apply StateNotifyFormat.Malformed.fields
    rw [StateNotifyFormat.MalformedFields]
    change ¬(0 ≤ declaredSize (S.fields request.data) ∧ _)
    rw [hfields]
    decide
  have hevents : handled.outcome.events ≠ [] := by decide
  exact ⟨hmalformed, rfl, rfl, hevents, fun hnothing => hevents hnothing.2.2.1⟩

end TelephonyStateRegistry
