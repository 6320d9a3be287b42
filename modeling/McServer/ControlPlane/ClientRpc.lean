import McServer.ControlPlane.World
import McServer.Protocol.JsonRpc
import Mathlib.Data.List.ReduceOption
import Mathlib.Data.List.Forall2

set_option autoImplicit false

namespace McServer.ControlPlane

open Domain Store Protocol Protocol.JsonRpc

def ApplicationError.message : ApplicationError → String
  | .validation source => s!"invalid request: {source.message}"
  | .notFound => "server not found"
  | .serverHasActiveInstance => "server still has an active instance"
  | .generationConflict none actual => s!"generation conflict: expected None, actual {actual}"
  | .generationConflict (some expected) actual =>
      s!"generation conflict: expected Some({expected}), actual {actual}"
  | .concurrentUpdate => "server was updated concurrently"
  | .repository _ => "persistence failed"
  | .timestamp _ => "timestamp generation failed"

inductive RpcDispatchError where
  | methodNotFound
  | invalidParams (detail : String)
  | application (source : ApplicationError)
  | serverInstanceNotFound
  | serialization

def detailed (detail : String) : Value := .object [("detail", .string detail)]

def RpcDispatchError.intoErrorObject : RpcDispatchError → ErrorObject
  | .methodNotFound => { code := ErrorCode.methodNotFound, message := "Method not found" }
  | .invalidParams detail =>
      ErrorObject.withData { code := ErrorCode.invalidParams, message := "Invalid params" } (detailed detail)
  | .application (.validation error) =>
      ErrorObject.withData { code := ErrorCode.invalidParams, message := "Invalid params" }
        (detailed error.message)
  | .application .notFound => { code := ErrorCode.notFound, message := "Server not found" }
  | .serverInstanceNotFound => { code := ErrorCode.notFound, message := "Server instance not found" }
  | .application (.generationConflict expected actual) =>
      ErrorObject.withData { code := ErrorCode.conflict, message := "Resource conflict" }
        (detailed (ApplicationError.generationConflict expected actual).message)
  | .application .concurrentUpdate =>
      ErrorObject.withData { code := ErrorCode.conflict, message := "Resource conflict" }
        (detailed ApplicationError.concurrentUpdate.message)
  | .application .serverHasActiveInstance =>
      ErrorObject.withData { code := ErrorCode.conflict, message := "Resource conflict" }
        (detailed ApplicationError.serverHasActiveInstance.message)
  | .application (.repository (.conflict detail)) =>
      ErrorObject.withData { code := ErrorCode.conflict, message := "Resource conflict" }
        (detailed (ApplicationError.repository (.conflict detail)).message)
  | .application _ => { code := ErrorCode.internalError, message := "Internal error" }
  | .serialization => { code := ErrorCode.internalError, message := "Internal error" }

structure ClientRpcHandler (S : Type) where
  dispatch : String → Value → StateM S (Except RpcDispatchError Value)
  requestError : Value → String

def invalidRequest : ErrorObject := { code := ErrorCode.invalidRequest, message := "Invalid Request" }

def structured : Value → Bool
  | .null | .array _ | .object _ => true
  | _ => false

namespace ClientRpcHandler

variable {S : Type} (handler : ClientRpcHandler S)

def handleSingle (value : Value) : StateM S (Option Value) :=
  match Request.deserialize value with
  | none =>
    return some (Response.failure .null
      (invalidRequest.withData (detailed (handler.requestError value)))).toValue
  | some request =>
    if request.jsonrpc ≠ version ∨ request.method.isEmpty ∨ ¬request.id.isValid then
      return some (Response.failure (request.id.responseId.getD .null) invalidRequest).toValue
    else if ¬structured request.params then
      return request.id.responseId.map fun id =>
        (Response.failure id { code := ErrorCode.invalidParams, message := "Invalid params" }).toValue
    else do
      let result ← handler.dispatch request.method request.params
      if request.id.isNotification then return none
      else
        match result with
        | .ok result => return some (Response.success (request.id.responseId.getD .null) result).toValue
        | .error error =>
          return some (Response.failure (request.id.responseId.getD .null) error.intoErrorObject).toValue

def handleRequests (responses : List Value) : List Value → StateM S (List Value)
  | [] => return responses
  | request :: requests => do
    match ← handler.handleSingle request with
    | some response => handleRequests (responses ++ [response]) requests
    | none => handleRequests responses requests

def handleValue : Value → StateM S (Option Value)
  | .array [] => return some (Response.failure .null invalidRequest).toValue
  | .array requests => do
    let responses ← handler.handleRequests [] requests
    if responses.isEmpty then return none else return some (.array responses)
  | request => handler.handleSingle request

end ClientRpcHandler

def members : Value → List Value
  | .array values => values
  | value => [value]

def wellFormedNotification (member : Value) : Bool :=
  (member.get "jsonrpc").bind Value.asStr = some version ∧
    ((member.get "method").bind Value.asStr).any (¬·.isEmpty) ∧ (member.get "id").isNone

def ownId (member : Value) : Value :=
  match member.get "id" with
  | some (.string id) => .string id
  | some (.number id) => .number id
  | _ => .null

structure RepliesWith (id response : Value) : Prop where
  version : response.get "jsonrpc" = some (.string "2.0")
  resultOrError : (response.get "result").isSome ≠ (response.get "error").isSome
  id : response.get "id" = some id

def together (responses : List Value) : Option Value :=
  if responses = [] then none else some (.array responses)

def Answers (value : Value) (output : Option Value) : Prop :=
  match value with
  | .array [] => ∃ response, output = some response ∧ RepliesWith .null response ∧
      (response.get "error").bind (·.get "code") = some (.number (Number.ofInt64 ErrorCode.invalidRequest))
  | .array requests => ∃ responses,
      List.Forall₂ (fun request => RepliesWith (ownId request))
        (requests.filter fun request => ¬wellFormedNotification request) responses ∧
      output = together responses
  | request =>
    if wellFormedNotification request then output = none
    else ∃ response, output = some response ∧ RepliesWith (ownId request) response

-- The values whose id the server reads as the client means it. In an object the version and the
-- method have to be strings if there is an id that can be returned, and must not both be if the id is of
-- another kind; and an array is not read as a request.
def PlainlyIdentified : Value → Prop
  | .object fields =>
    let typed := ((fields.lookup "jsonrpc").bind Value.asStr).isSome ∧
      ((fields.lookup "method").bind Value.asStr).isSome
    match fields.lookup "id" with
    | none | some .null => True
    | some (.string _) | some (.number _) => typed
    | some _ => ¬typed
  | .array [.string jsonrpc, .string method] | .array [.string jsonrpc, .string method, _] =>
      jsonrpc ≠ version ∨ method.isEmpty
  | .array [.string _, .string _, _, id] => id = .null
  | _ => True

def Served (member : Value) (outcome : Option Value) : Prop :=
  if wellFormedNotification member then outcome = none
  else ∃ response, outcome = some response ∧ RepliesWith (ownId member) response

theorem answered_with {S A : Type} (value : A) (state : S) : (pure value : StateM S A) state = (value, state) := rfl

theorem repliesWith_success (id wanted result : Value) :
    RepliesWith wanted (Response.success id result).toValue ↔ id = wanted := by
  constructor
  · intro replies
    simpa [List.lookup_cons] using replies.id
  · rintro rfl
    constructor <;> simp [List.lookup_cons, version]

theorem repliesWith_failure (id wanted : Value) (error : ErrorObject) :
    RepliesWith wanted (Response.failure id error).toValue ↔ id = wanted := by
  constructor
  · intro replies
    simpa [List.lookup_cons] using replies.id
  · rintro rfl
    constructor <;> simp [List.lookup_cons, version]

section Single

attribute [local simp] Request.deserialize PlainlyIdentified ownId

variable {S : Type} (handler : ClientRpcHandler S) (state : S) {value : Value} {request : Request}

def callable (request : Request) : Bool :=
  request.jsonrpc = version ∧ ¬request.method.isEmpty ∧ request.id.isValid

theorem handleSingle_unread (unread : Request.deserialize value = none) :
    ∃ response, (handler.handleSingle value state).1 = some response ∧
      ∀ wanted, RepliesWith wanted response ↔ .null = wanted := by
  simp only [ClientRpcHandler.handleSingle, unread]
  exact ⟨_, rfl, fun wanted => repliesWith_failure _ _ _⟩

theorem callable_iff :
    callable request ↔ ¬(request.jsonrpc ≠ version ∨ request.method.isEmpty ∨ ¬request.id.isValid) := by
  simp [callable, not_or]

theorem handleSingle_read (reads : Request.deserialize value = some request) :
    handler.handleSingle value =
      if ¬callable request then
        pure (some (Response.failure (request.id.responseId.getD .null) invalidRequest).toValue)
      else if ¬structured request.params then
        pure (request.id.responseId.map fun id =>
          (Response.failure id { code := ErrorCode.invalidParams, message := "Invalid params" }).toValue)
      else (do
        let result ← handler.dispatch request.method request.params
        if request.id.isNotification then return none
        else
          match result with
          | .ok result => return some (Response.success (request.id.responseId.getD .null) result).toValue
          | .error error =>
            return some (Response.failure (request.id.responseId.getD .null) error.intoErrorObject).toValue) := by
  simp only [ClientRpcHandler.handleSingle, reads, callable_iff, not_not]

theorem handleSingle_refused (reads : Request.deserialize value = some request) (refused : ¬callable request) :
    ∃ response, (handler.handleSingle value state).1 = some response ∧
      ∀ wanted, RepliesWith wanted response ↔ request.id.responseId.getD .null = wanted := by
  rw [handleSingle_read handler reads, if_pos refused]
  exact ⟨_, rfl, fun wanted => repliesWith_failure _ _ _⟩

theorem handleSingle_silent (reads : Request.deserialize value = some request) (calls : callable request)
    (missing : request.id = .missing) : (handler.handleSingle value state).1 = none := by
  rw [handleSingle_read handler reads]
  by_cases shaped : structured request.params
  · rcases called : handler.dispatch request.method request.params state with ⟨result, next⟩
    simp [calls, shaped, missing, RequestId.isNotification, bind, StateT.bind, answered_with, called]
  · simp [calls, shaped, missing, RequestId.responseId, answered_with]

theorem handleSingle_answered {id : Value} (reads : Request.deserialize value = some request)
    (calls : callable request) (present : request.id = .present id) :
    ∃ response, (handler.handleSingle value state).1 = some response ∧
      ∀ wanted, RepliesWith wanted response ↔ id = wanted := by
  rw [handleSingle_read handler reads]
  by_cases shaped : structured request.params
  · rcases called : handler.dispatch request.method request.params state with ⟨result, next⟩
    simp only [calls, shaped, not_true_eq_false, if_false, present, RequestId.isNotification,
      RequestId.responseId, Bool.false_eq_true, Option.getD_some, bind, StateT.bind, called]
    cases result with
    | ok result => exact ⟨_, rfl, fun wanted => repliesWith_success _ _ _⟩
    | error error => exact ⟨_, rfl, fun wanted => repliesWith_failure _ _ _⟩
  · simp only [calls, shaped, present, RequestId.responseId]
    exact ⟨_, rfl, fun wanted => repliesWith_failure _ _ _⟩

theorem handleSingle_without_id (reads : Request.deserialize value = some request)
    (missing : request.id = .missing) :
    if callable request then (handler.handleSingle value state).1 = none
    else ∃ response, (handler.handleSingle value state).1 = some response ∧
      ∀ wanted, RepliesWith wanted response ↔ .null = wanted := by
  by_cases calls : callable request
  · simpa [calls] using handleSingle_silent handler state reads calls missing
  · simpa [calls, missing, RequestId.responseId] using handleSingle_refused handler state reads calls

theorem handleSingle_with_id {id : Value} (reads : Request.deserialize value = some request)
    (present : request.id = .present id) :
    ∃ response, (handler.handleSingle value state).1 = some response ∧
      ∀ wanted, RepliesWith wanted response ↔ id = wanted := by
  by_cases calls : callable request
  · exact handleSingle_answered handler state reads calls present
  · simpa [present, RequestId.responseId] using handleSingle_refused handler state reads calls

theorem served_of_reply {outcome : Option Value} {id : Value}
    (replies : ∃ response, outcome = some response ∧ ∀ wanted, RepliesWith wanted response ↔ id = wanted)
    (owed : wellFormedNotification value = false) : Served value outcome ↔ id = ownId value := by
  obtain ⟨response, rfl, exact⟩ := replies
  simp [Served, owed, exact]

theorem not_served_of_silence {outcome : Option Value} (silent : outcome = none)
    (owed : wellFormedNotification value = false) : ¬Served value outcome := by
  simp [Served, owed, silent]

theorem handleSingle_untyped {fields : List (String × Value)}
    (untyped : (fields.lookup "jsonrpc").bind Value.asStr = none ∨
      (fields.lookup "method").bind Value.asStr = none) :
    Served (.object fields) (handler.handleSingle (.object fields) state).1 ↔
      PlainlyIdentified (.object fields) := by
  have unread : Request.deserialize (.object fields) = none := by
    rcases untyped with absent | absent
    · simp [Request.deserialize, absent]
    · cases version : (fields.lookup "jsonrpc").bind Value.asStr <;> simp [Request.deserialize, absent, version]
  have owed : wellFormedNotification (.object fields) = false := by
    rcases untyped with absent | absent <;> simp [wellFormedNotification, Value.get, absent]
  have typed : ¬(((fields.lookup "jsonrpc").bind Value.asStr).isSome ∧
      ((fields.lookup "method").bind Value.asStr).isSome) := by
    rcases untyped with absent | absent <;> simp [absent]
  rw [served_of_reply (handleSingle_unread handler state unread) owed]
  simp only [PlainlyIdentified, ownId, Value.get, typed]
  cases fields.lookup "id" with
  | none => simp
  | some id => cases id <;> simp

theorem handleSingle_typed {fields : List (String × Value)} {jsonrpc method : String}
    (version : (fields.lookup "jsonrpc").bind Value.asStr = some jsonrpc)
    (called : (fields.lookup "method").bind Value.asStr = some method) :
    Served (.object fields) (handler.handleSingle (.object fields) state).1 ↔
      PlainlyIdentified (.object fields) := by
  cases id : fields.lookup "id" with
  | none =>
    have reads : Request.deserialize (.object fields) =
        some { jsonrpc, method, params := (fields.lookup "params").getD .null, id := .missing } := by
      simp [Request.deserialize, version, called, id]
    have outcome := handleSingle_without_id handler state reads rfl
    have plain : PlainlyIdentified (.object fields) := by simp [PlainlyIdentified, id]
    have notified : wellFormedNotification (.object fields) =
        callable { jsonrpc, method, params := (fields.lookup "params").getD .null, id := .missing } := by
      simp [wellFormedNotification, callable, Value.get, version, called, id, RequestId.isValid]
    simp only [plain, iff_true]
    split at outcome
    · next calls => simpa [Served, notified, calls] using outcome
    · next refused =>
      rw [served_of_reply outcome (by simpa [notified] using refused)]
      simp [ownId, Value.get, id]
  | some id' =>
    have reads : Request.deserialize (.object fields) =
        some { jsonrpc, method, params := (fields.lookup "params").getD .null, id := .present id' } := by
      simp [Request.deserialize, version, called, id]
    rw [served_of_reply (handleSingle_with_id handler state reads rfl) (by
      simp [wellFormedNotification, Value.get, id])]
    cases id' <;> simp [PlainlyIdentified, ownId, Value.get, id, version, called]

theorem handleSingle_positional {items : List Value} (reads : Request.deserialize (.array items) = some request)
    (missing : request.id = .missing) :
    Served (.array items) (handler.handleSingle (.array items) state).1 ↔
      request.jsonrpc ≠ version ∨ request.method.isEmpty := by
  have owed : wellFormedNotification (.array items) = false := by simp [wellFormedNotification, Value.get]
  have outcome := handleSingle_without_id handler state reads missing
  by_cases calls : callable request
  · simp only [calls, if_true] at outcome
    have header : request.jsonrpc = version ∧ ¬request.method.isEmpty := by
      simp only [callable, decide_eq_true_eq] at calls
      exact ⟨calls.1, calls.2.1⟩
    simp [not_served_of_silence outcome owed, header]
  · simp only [calls] at outcome
    rw [served_of_reply outcome owed]
    have header : request.jsonrpc ≠ version ∨ request.method.isEmpty := by
      by_contra sound
      exact calls (by simpa [callable, missing, RequestId.isValid, not_or] using sound)
    exact iff_of_true (by simp [ownId, Value.get]) header

theorem handleSingle_array (items : List Value) :
    Served (.array items) (handler.handleSingle (.array items) state).1 ↔ PlainlyIdentified (.array items) := by
  have owed : wellFormedNotification (.array items) = false := by simp [wellFormedNotification, Value.get]
  have own : ownId (.array items) = .null := by simp [ownId, Value.get]
  unfold PlainlyIdentified
  split
  · simp_all
  · next jsonrpc method same =>
    obtain rfl : items = [.string jsonrpc, .string method] := by simpa using same
    have reads : Request.deserialize (.array [.string jsonrpc, .string method]) =
      some { jsonrpc, method, params := .null, id := .missing } := rfl
    exact handleSingle_positional handler state reads rfl
  · next jsonrpc method params same =>
    obtain rfl : items = [.string jsonrpc, .string method, params] := by simpa using same
    have reads : Request.deserialize (.array [.string jsonrpc, .string method, params]) =
      some { jsonrpc, method, params, id := .missing } := rfl
    exact handleSingle_positional handler state reads rfl
  · next jsonrpc method params id same =>
    obtain rfl : items = [.string jsonrpc, .string method, params, id] := by simpa using same
    rw [served_of_reply (handleSingle_with_id handler state rfl rfl) owed, own]
  · next two three four =>
    have unread : Request.deserialize (.array items) = none := by
      unfold Request.deserialize
      split <;> simp_all
      exact (four _ _ _ _ rfl rfl rfl rfl).elim
    rw [served_of_reply (handleSingle_unread handler state unread) owed, own]
    simp

theorem handleSingle_served (value : Value) :
    Served value (handler.handleSingle value state).1 ↔ PlainlyIdentified value := by
  cases value with
  | object fields =>
    cases version : (fields.lookup "jsonrpc").bind Value.asStr with
    | none => exact handleSingle_untyped handler state (.inl version)
    | some jsonrpc =>
      cases called : (fields.lookup "method").bind Value.asStr with
      | none => exact handleSingle_untyped handler state (.inr called)
      | some method => exact handleSingle_typed handler state version called
  | array items => exact handleSingle_array handler state items
  | _ =>
    rw [served_of_reply (handleSingle_unread handler state rfl) (by simp [wellFormedNotification, Value.get])]
    simp [PlainlyIdentified, ownId, Value.get]

theorem handleSingle_notified (notified : wellFormedNotification value) :
    (handler.handleSingle value state).1 = none := by
  have plain : PlainlyIdentified value := by
    cases value with
    | object fields =>
      have absent : fields.lookup "id" = none := by
        simp only [wellFormedNotification, Value.get, decide_eq_true_eq, Option.isNone_iff_eq_none] at notified
        exact notified.2.2
      simp [PlainlyIdentified, absent]
    | _ => simp [wellFormedNotification, Value.get] at notified
  simpa [Served, notified] using (handleSingle_served handler state value).mpr plain

end Single

section Batches

variable {S : Type} (handler : ClientRpcHandler S)

def outcomes : List Value → S → List (Option Value)
  | [], _ => []
  | member :: rest, state =>
    let handled := handler.handleSingle member state
    handled.1 :: outcomes rest handled.2

theorem handleRequests_outcomes (responses requests : List Value) (state : S) :
    (handler.handleRequests responses requests state).1 =
      responses ++ (outcomes handler requests state).reduceOption := by
  induction requests generalizing responses state with
  | nil => simp [ClientRpcHandler.handleRequests, outcomes, answered_with]
  | cons request rest ih =>
    rcases handled : handler.handleSingle request state with ⟨outcome, next⟩
    cases outcome with
    | none => simp [ClientRpcHandler.handleRequests, outcomes, bind, StateT.bind, handled, ih]
    | some response => simp [ClientRpcHandler.handleRequests, outcomes, bind, StateT.bind, handled, ih]

theorem outcomes_related {relation : Value → Option Value → Prop} (members : List Value) (state : S)
    (each : ∀ member ∈ members, ∀ state, relation member (handler.handleSingle member state).1) :
    List.Forall₂ relation members (outcomes handler members state) := by
  induction members generalizing state with
  | nil => simp [outcomes]
  | cons member rest ih =>
    exact .cons (each member (by simp) state) (ih _ fun member mem => each member (by simp [mem]))

theorem length_reduceOption_le {owed : Value → Bool} {members : List Value} {results : List (Option Value)}
    (silent : List.Forall₂ (fun member outcome => owed member = false → outcome = none) members results) :
    results.reduceOption.length ≤ (members.filter owed).length := by
  induction silent with
  | nil => simp
  | @cons member outcome members results here _ ih =>
    by_cases owes : owed member
    · cases outcome <;> simp [owes] <;> omega
    · simp [owes, here (by simpa using owes), ih]

theorem aligned_iff {owed : Value → Bool} {relation : Value → Value → Prop} {members : List Value}
    {results : List (Option Value)}
    (silent : List.Forall₂ (fun member outcome => owed member = false → outcome = none) members results) :
    List.Forall₂ relation (members.filter owed) results.reduceOption ↔
      List.Forall₂ (fun member outcome => if owed member then
        ∃ response, outcome = some response ∧ relation member response else outcome = none) members results := by
  induction silent with
  | nil => simp
  | @cons member outcome members results here rest ih =>
    by_cases owes : owed member
    · cases outcome with
      | none =>
        have short := length_reduceOption_le rest
        simp only [owes, List.filter_cons_of_pos, List.reduceOption_cons_of_none, List.forall₂_cons, if_true,
          reduceCtorEq, false_and, exists_false, iff_false]
        intro fits
        have equal := fits.length_eq
        simp only [List.length_cons] at equal
        omega
      | some response => simp [owes, ih]
    · simp [owes, here (by simpa using owes), ih]

theorem served_iff (members : List Value) (state : S) :
    List.Forall₂ Served members (outcomes handler members state) ↔
      ∀ member ∈ members, PlainlyIdentified member := by
  induction members generalizing state with
  | nil => simp [outcomes]
  | cons member rest ih => simp [outcomes, handleSingle_served, ih]

theorem handleRequests_fits (requests : List Value) (state : S) :
    List.Forall₂ (fun request => RepliesWith (ownId request))
        (requests.filter fun request => ¬wellFormedNotification request)
        (handler.handleRequests [] requests state).1 ↔
      ∀ member ∈ requests, PlainlyIdentified member := by
  rw [← served_iff handler requests state, handleRequests_outcomes, List.nil_append, aligned_iff]
  · show _ ↔ List.Forall₂ (fun member outcome => Served member outcome) _ _
    simp [Served]
  · refine outcomes_related handler requests state fun member _ state free => ?_
    exact handleSingle_notified handler state (by simpa using free)

theorem handleValue_batch (request : Value) (rest : List Value) (state : S) :
    (handler.handleValue (.array (request :: rest)) state).1 =
      together (handler.handleRequests [] (request :: rest) state).1 := by
  rcases handled : handler.handleRequests [] (request :: rest) state with ⟨responses, next⟩
  cases responses <;>
    simp [ClientRpcHandler.handleValue, together, bind, StateT.bind, handled, answered_with]

theorem together_injective : Function.Injective together := by
  intro first second same
  by_cases none : first = [] <;> by_cases other : second = [] <;> simp_all [together]

theorem handleValue_answers_iff (value : Value) (state : S) :
    Answers value (handler.handleValue value state).1 ↔ ∀ member ∈ members value, PlainlyIdentified member := by
  cases value with
  | array requests =>
    cases requests with
    | nil =>
      simp only [Answers, ClientRpcHandler.handleValue, members, List.not_mem_nil, false_implies, implies_true,
        iff_true]
      exact ⟨_, rfl, (repliesWith_failure _ _ _).mpr rfl, rfl⟩
    | cons request rest =>
      rw [members, ← handleRequests_fits handler (request :: rest) state, handleValue_batch]
      -- The output tells what the responses are.
      constructor
      · rintro ⟨responses, fits, output⟩
        rwa [together_injective output]
      · intro fits
        exact ⟨_, fits, rfl⟩
  | _ => simpa [Answers, Served, ClientRpcHandler.handleValue, members] using handleSingle_served handler state _

def ClientRpcHandler.noting : ClientRpcHandler (S × List (String × Value)) where
  dispatch method params := fun (state, calls) =>
    let called := handler.dispatch method params state
    (called.1, called.2, calls ++ [(method, params)])
  requestError := handler.requestError

def requested (member : Value) : Option (String × Value) :=
  (Request.deserialize member).bind fun request =>
    if callable request ∧ structured request.params then some (request.method, request.params) else none

theorem handleSingle_calls (value : Value) (state : S) (calls : List (String × Value)) :
    (handler.noting.handleSingle value (state, calls)).2.2 = calls ++ (requested value).toList := by
  cases reads : Request.deserialize value with
  | none => simp [ClientRpcHandler.handleSingle, requested, reads, answered_with]
  | some request =>
    rw [handleSingle_read handler.noting reads]
    by_cases sound : callable request
    · by_cases shaped : structured request.params
      · rcases called : handler.dispatch request.method request.params state with ⟨result | result, next⟩ <;>
          cases notified : request.id.isNotification <;>
          simp [ClientRpcHandler.noting, requested, reads, sound, shaped, bind, StateT.bind, answered_with,
            called]
      · simp [requested, reads, sound, shaped, answered_with]
    · simp [requested, reads, sound, answered_with]

theorem handleRequests_calls (responses requests : List Value) (state : S) (calls : List (String × Value)) :
    (handler.noting.handleRequests responses requests (state, calls)).2.2 =
      calls ++ requests.filterMap requested := by
  induction requests generalizing responses state calls with
  | nil => simp [ClientRpcHandler.handleRequests, answered_with]
  | cons request rest ih =>
    have here := handleSingle_calls handler request state calls
    rcases handled : handler.noting.handleSingle request (state, calls) with ⟨outcome, next, noted⟩
    simp only [handled] at here
    cases outcome <;> cases asked : requested request <;>
      simp [ClientRpcHandler.handleRequests, bind, StateT.bind, handled, ih, here, asked]

theorem handleValue_calls (value : Value) (state : S) :
    (handler.noting.handleValue value (state, [])).2.2 = (members value).filterMap requested := by
  have alone (member : Value) : [member].filterMap requested = (requested member).toList := by
    cases asked : requested member <;> simp [asked]
  cases value with
  | array requests =>
    cases requests with
    | nil => simp [ClientRpcHandler.handleValue, members, answered_with]
    | cons request rest =>
      have calls := handleRequests_calls handler [] (request :: rest) state []
      rcases handled : handler.noting.handleRequests [] (request :: rest) (state, []) with ⟨responses, next, noted⟩
      rw [handled] at calls
      cases responses <;>
        simpa [ClientRpcHandler.handleValue, members, bind, StateT.bind, handled, answered_with] using calls
  | _ => simp only [ClientRpcHandler.handleValue, members, handleSingle_calls, alone, List.nil_append]

end Batches

theorem responses_match_requests_iff {S : Type} (handler : ClientRpcHandler S) (value : Value) (state : S) :
    (handler.noting.handleValue value (state, [])).2.2 = (members value).filterMap requested ∧
      (Answers value (handler.handleValue value state).1 ↔
        ∀ member ∈ members value, PlainlyIdentified member) :=
  ⟨handleValue_calls handler value state, handleValue_answers_iff handler value state⟩

namespace Sample

def handler : ClientRpcHandler Unit where
  dispatch method params := pure <|
    match method, params with
    | "system.ping", .null | "system.ping", .array [] | "system.ping", .object [] =>
      .ok (.object [("status", .string "ok"), ("version", .string "0.3.0")])
    | "system.ping", _ => .error (.invalidParams "this method does not accept params")
    | _, _ => .error .methodNotFound
  requestError _ := "invalid type"

def objectId : Value :=
  .object [("id", .object []), ("jsonrpc", .string "2.0"), ("method", .string "system.ping")]

end Sample

theorem invalid_id_is_returned :
    (Sample.handler.handleValue Sample.objectId ()).1 =
        some (Response.failure (.object []) invalidRequest).toValue ∧
      ¬Answers Sample.objectId (Sample.handler.handleValue Sample.objectId ()).1 := by
  have output : (Sample.handler.handleValue Sample.objectId ()).1 =
      some (Response.failure (.object []) invalidRequest).toValue := rfl
  refine ⟨output, ?_⟩
  rw [output]
  simp [Answers, Sample.objectId, wellFormedNotification, ownId, Value.get, List.lookup_cons, repliesWith_failure]

end McServer.ControlPlane
