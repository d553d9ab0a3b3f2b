import Refactoring.Json.Reader
import Refactoring.Json.Decoder

/-!
# Messages

What the language server and the client send each other.  A message with an id and a method is a
request, one with an id alone is a response, and one without an id needs no answer.
-/

namespace Refactoring

/-- A message as it arrives; a member may be there and `null`. -/
structure Message where
  id : Option Json
  method : String
  params : Option Json
  result : Option Json
  error : Option Json
  deriving Repr

/-- The error of a failed request. -/
structure RpcError where
  code : Int
  message : String
  data : Option Json
  deriving Repr

namespace RpcError

/-- Reads the error of a failed request. -/
def decode : Json.Decoder RpcError :=
  Json.Record.decoder "struct JsonRpcError" <|
    RpcError.mk <$> .required "code" Json.Decoder.int64 <*>
      .required "message" Json.Decoder.text <*> .optional "data" Json.Decoder.any

/-- The parts of an error that are set. -/
def toJson (e : RpcError) : Json :=
  .objectOf [("code", some (.number (.int e.code))), ("message", some (.string e.message)),
    ("data", e.data)]

/-- The error in words. -/
def text (e : RpcError) : String := s!"{e.message} (code {e.code})"

end RpcError

namespace Message

/-- The message of a JSON value; a method that is no text counts as none. -/
def ofJson (value : Json) : Message where
  id := value.get? "id"
  method := ((value.get? "method").bind Json.string?).getD ""
  params := value.get? "params"
  result := value.get? "result"
  error := value.get? "error"

/-- The message of a text, or what is wrong with the text. -/
def parse (content : String) : Except String Message := (Json.ofText content).map ofJson

/-- The server asks something and expects an answer. -/
def isServerRequest (m : Message) : Bool := m.id.isSome && m.method != ""

/-- The error of a failed request, if it has its shape. -/
def rpcError? (m : Message) : Option RpcError :=
  m.error.bind fun error => (RpcError.decode error).toOption

/-- What a response says: its result, or its error in words. -/
def outcome (m : Message) : Except String Json :=
  match m.rpcError?, m.error with
  | some error, _ => .error ("LSP Error: " ++ error.text)
  | none, some error => .error ("LSP Error: " ++ error.compact)
  | none, none => .ok (m.result.getD .null)

/-- The number of the request that a response answers, if it has one. -/
def answers? (m : Message) : Option Nat :=
  if m.isServerRequest then none else m.id.bind Json.natural?

end Message

/-- The content of a request. -/
def requestContent (id : Nat) (method : String) (params : Json) : Json :=
  .object [("jsonrpc", .string "2.0"), ("id", .ofNat id), ("method", .string method),
    ("params", params)]

/-- The content of a notification. -/
def notificationContent (method : String) (params : Json) : Json :=
  .object [("jsonrpc", .string "2.0"), ("method", .string method), ("params", params)]

/-! ### Answers to the server -/

/-- A successful answer. -/
def resultContent (id : Json) (result : Json) : Json :=
  .object [("jsonrpc", .string "2.0"), ("id", id), ("result", result)]

/-- A refusal. -/
def errorContent (id : Json) (error : RpcError) : Json :=
  .object [("jsonrpc", .string "2.0"), ("id", id), ("error", error.toJson)]

/-- The code for a method that is not there. -/
def methodNotFound : Int := -32601

/-- Requests that only need to be acknowledged. -/
def acknowledged : List String :=
  ["client/registerCapability", "client/unregisterCapability", "window/workDoneProgress/create"]

/-- The answer to a request of the server.  Edits are declined, because they reach the files only
through the host; there is no configuration; other requests are unknown. -/
def Message.reply (m : Message) : Json :=
  let id := m.id.getD .null
  if m.method = "workspace/applyEdit" then
    resultContent id (.object [("applied", .bool false),
      ("failureReason", .string "The client does not apply server-initiated edits")])
  else if m.method = "workspace/configuration" then
    let items := ((m.params.bind (·.get? "items")).bind Json.array?).getD []
    resultContent id (.array (items.map fun _ => .null))
  else if acknowledged.contains m.method then resultContent id .null
  else errorContent id ⟨methodNotFound, "Unhandled method " ++ m.method, none⟩

end Refactoring
