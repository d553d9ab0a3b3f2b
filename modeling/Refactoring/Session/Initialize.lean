import Refactoring.Wire.Action

/-!
# The first request

What the client tells the server about itself: where the workspace is and what the client can do
with edits.
-/

namespace Refactoring.Session

open Json

/-- A capability that can be registered later. -/
def registrable (more : List (String × Json)) : Json :=
  .object (("dynamicRegistration", .bool true) :: more)

/-- Marks for what is supported. -/
def supported (names : List String) : List (String × Json) := names.map (·, .bool true)

/-- The code actions that can be given as values. -/
def actionKinds : List String :=
  ["refactor", "refactor.extract", "refactor.inline", "refactor.rewrite"]

/-- What the client can do with a workspace. -/
def workspaceCapabilities : Json :=
  .object [("applyEdit", .bool true),
    ("workspaceEdit", .object [("documentChanges", .bool true),
      ("resourceOperations", .strings ["create", "rename", "delete"])]),
    ("symbol", registrable []), ("executeCommand", registrable []),
    ("workspaceFolders", .bool true),
    ("fileOperations", registrable (supported ["didRename", "willRename"]))]

/-- What the client can do with a document. -/
def documentCapabilities : Json :=
  .object [
    ("synchronization",
      registrable (supported ["willSave", "willSaveWaitUntil", "didSave"])),
    ("codeAction", registrable [("codeActionLiteralSupport",
      .object [("codeActionKind", .object [("valueSet", .strings actionKinds)])])]),
    ("rename", registrable (supported ["prepareSupport"]))]

/-- What the client can do; positions count UTF-16 code units. -/
def capabilities : Json :=
  .object [("workspace", workspaceCapabilities), ("textDocument", documentCapabilities),
    ("general", .object [("positionEncodings", .strings ["utf-16"])])]

/-- The parameters of the first request. -/
def initializeParams (process : Json) (root : Uri) (options : Option Json) : Json :=
  .objectOf [("processId", some process), ("rootUri", some root.toJson),
    ("initializationOptions", options), ("capabilities", some capabilities),
    ("trace", some (.string "off")),
    ("workspaceFolders", some (.array [.object [("uri", root.toJson),
      ("name", .string "workspace")]])),
    ("clientInfo", some (.object [("name", .string "refactor-client"),
      ("version", .string "0.1.0")]))]

end Refactoring.Session
