import Refactoring.Rpc.Message
import Refactoring.Session.Initialize
import Refactoring.Session.System
import Refactoring.Wire.Request
import Refactoring.Wire.Session

/-!
# Requests to the server

A request takes a number, waits under it, is written and gets its response; `null` as the result
stands for nothing.  A session begins with the introduction of both sides and ends when the client
has told the server to shut down and to exit.
-/

namespace Refactoring.Session

variable {α : Type}

/-- Sends a request and gives the result. -/
def send (method : String) (params : Json) : Session Json := do
  let id ← system .allocate
  let _ ← system (.register id)
  of (system (.write (requestContent id method params)))
  of (system (.await id method))

/-- The result of a request, if there is one. -/
def request (method : String) (params : Json) (decoder : Json.Decoder α) : Session (Option α) := do
  let result ← send method params
  match Json.Decoder.optional decoder result with
  | .ok value => return value
  | .error fault => throw (.of s!"Malformed {method} response: {fault.message}")

/-- Sends a notification. -/
def notify (method : String) (params : Json) : Session Unit :=
  of (system (.write (notificationContent method params)))

/-- Introduces the client to the server, which introduces itself. -/
def introduce (config : ServerConfig) (root : Uri) : Session Introduction := do
  let process ← system .processId
  let params := initializeParams (.ofNat process) root config.initializationOptions
  let some introduction ← request "initialize" params Introduction.decode
    | throw (.of s!"Empty initialize response from {config.name}")
  notify "initialized" (.object [])
  return introduction

/-- Tells the server to shut down and then to exit. -/
def shutdown : Session Unit := do
  let _ ← request "shutdown" .null Json.Decoder.any
  notify "exit" .null

/-- The edit of a rename. -/
def rename (r : RenameRequest) : Session (Option WorkspaceEdit) :=
  request "textDocument/rename" r.toJson WorkspaceEdit.decode

/-- Runs a command on the server. -/
def executeCommand (r : CommandRequest) : Session (Option Json) :=
  request "workspace/executeCommand" r.toJson Json.Decoder.any

/-- Tells the server that a document was opened. -/
def didOpen (d : OpenedDocument) : Session Unit := notify "textDocument/didOpen" d.toJson

/-- The edit of a refactoring. -/
def refactorEdit (r : EditRequest) : Session (Option RefactoringResult) :=
  request "java/getRefactorEdit" r.toJson RefactoringResult.decode

/-- The destinations of a move. -/
def moveDestinations (r : MoveRequest) : Session (Option DestinationList) :=
  request "java/getMoveDestinations" r.toJson DestinationList.decode

/-- The edit of a move. -/
def move (r : MoveRequest) : Session (Option RefactoringResult) :=
  request "java/move" r.toJson RefactoringResult.decode

/-- The symbols of the workspace. -/
def searchSymbols (q : SymbolQuery) : Session (List Symbol) := do
  let symbols ← request "java/searchSymbols" q.toJson (Json.Decoder.list Symbol.decode)
  return symbols.getD []

/-- A connected client as it is shown to a developer. -/
def shown (config : ServerConfig) : String :=
  "LspClient \x7b server: " ++ Text.quoted config.name ++ " \x7d"

end Refactoring.Session
