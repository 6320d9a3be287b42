import Mathlib.Data.List.Basic

set_option autoImplicit false

namespace McServer.Protocol

inductive Number where
  | posInt (value : UInt64)
  | negInt (value : Int64)
  | float (bits : UInt64)
  deriving DecidableEq

-- The first field of a name is the one that an object holds.
inductive Value where
  | null
  | bool (value : Bool)
  | number (value : Number)
  | string (value : String)
  | array (values : List Value)
  | object (fields : List (String × Value))

def Value.get (value : Value) (name : String) : Option Value :=
  match value with
  | .object fields => fields.lookup name
  | _ => none

def Value.asStr : Value → Option String
  | .string value => some value
  | _ => none

namespace JsonRpc

def version : String := "2.0"

inductive RequestId where
  | missing
  | present (value : Value)

namespace RequestId

def isNotification : RequestId → Bool
  | .missing => true
  | .present _ => false

def responseId : RequestId → Option Value
  | .missing => none
  | .present value => some value

def isValid : RequestId → Bool
  | .missing | .present .null | .present (.number _) | .present (.string _) => true
  | .present _ => false

end RequestId

structure Request where
  jsonrpc : String
  method : String
  params : Value
  id : RequestId

-- What the derived `Deserialize` makes of a value: an object is read by the names of its fields and
-- an array by their order; fields that have a default may be left out.
def Request.deserialize : Value → Option Request
  | .object fields => do
    let jsonrpc ← (fields.lookup "jsonrpc").bind Value.asStr
    let method ← (fields.lookup "method").bind Value.asStr
    let id := match fields.lookup "id" with
      | none => RequestId.missing
      | some value => .present value
    some { jsonrpc, method, params := (fields.lookup "params").getD .null, id }
  | .array [.string jsonrpc, .string method] => some { jsonrpc, method, params := .null, id := .missing }
  | .array [.string jsonrpc, .string method, params] => some { jsonrpc, method, params, id := .missing }
  | .array [.string jsonrpc, .string method, params, id] => some { jsonrpc, method, params, id := .present id }
  | _ => none

structure ErrorObject where
  code : Int64
  message : String
  data : Option Value := none

def ErrorObject.withData (error : ErrorObject) (data : Value) : ErrorObject := { error with data := some data }

structure Response where
  jsonrpc : String
  result : Option Value
  error : Option ErrorObject
  id : Value

def Response.success (id result : Value) : Response :=
  { jsonrpc := version, result := some result, error := none, id }

def Response.failure (id : Value) (error : ErrorObject) : Response :=
  { jsonrpc := version, result := none, error := some error, id }

def Number.ofInt64 (value : Int64) : Number :=
  if value < 0 then .negInt value else .posInt value.toUInt64

def ErrorObject.toValue (error : ErrorObject) : Value :=
  .object ([("code", .number (Number.ofInt64 error.code))] ++ (error.data.map fun data => ("data", data)).toList ++
    [("message", .string error.message)])

def Response.toValue (response : Response) : Value :=
  .object ((response.error.map fun error => ("error", error.toValue)).toList ++
    [("id", response.id), ("jsonrpc", .string response.jsonrpc)] ++
    (response.result.map fun result => ("result", result)).toList)

section Fields

variable (id : Value)

@[simp] theorem Response.get_success (result : Value) (name : String) :
    (Response.success id result).toValue.get name =
      [("id", id), ("jsonrpc", .string version), ("result", result)].lookup name := rfl

@[simp] theorem Response.get_failure (error : ErrorObject) (name : String) :
    (Response.failure id error).toValue.get name =
      [("error", error.toValue), ("id", id), ("jsonrpc", .string version)].lookup name := rfl

end Fields

namespace ErrorCode

def parseError : Int64 := -32700
def invalidRequest : Int64 := -32600
def methodNotFound : Int64 := -32601
def invalidParams : Int64 := -32602
def internalError : Int64 := -32603
def conflict : Int64 := -32001
def notFound : Int64 := -32004

end ErrorCode

end JsonRpc

end McServer.Protocol
