import Refactoring.Flow.Refactor

/-!
# Commands by name

The host carries out refactorings by the names of commands.  Two commands are built in; the host
can register more, and a command that it registers under a built-in name takes its place.
-/

namespace Refactoring

/-- Starts a rename; the argument is its position. -/
def renameCommand : String := "java.action.rename"

/-- Carries out a refactoring; the arguments are its name, its selection and what the server has
attached to it. -/
def applyCommand : String := "java.action.applyRefactoringCommand"

/-- The commands that are built in. -/
def builtInCommands : List String := [renameCommand, applyCommand]

/-- Starts a rename at the position in the first argument, if it is one. -/
def runRename (arguments : List Json) : Flow Outcome :=
  match arguments.head?.bind fun first => (RenamePosition.decode first).toOption with
  | none => pure .nothingToDo
  | some position => do
    triggerRename position
    return .applied

/-- What the server has attached, from the argument for it. -/
def attachedInfo : Option Json → Except Problem CommandInfo
  | none | some .null => .ok .empty
  | some value => argument CommandInfo.decode value

/-- Carries out the refactoring that the arguments describe. -/
def runApply : List Json → Flow Outcome
  | .string name :: rest => do
    let info ← ExceptT.mk (pure (attachedInfo rest[1]?))
    applyRefactoring name (rest.head?.getD .null) info
  | _ => throw (.invalidArguments (applyCommand ++ " expects a refactoring name"))

/-- Commands that the host has registered. -/
structure Client where
  hosted : List String
  deriving Repr, DecidableEq

namespace Client

/-- Whom a client works with. -/
inductive Collaborator where
  | server
  | editor
  deriving Repr, DecidableEq

/-- A client for the given collaborators; it needs both. -/
def new (given : List Collaborator) : Except String Client :=
  if Collaborator.server ∉ given then
    .error "A language server is required to build a RefactorClient"
  else if Collaborator.editor ∉ given then
    .error "An editor is required to build a RefactorClient"
  else .ok ⟨[]⟩

/-- Registers a command of the host. -/
def register (client : Client) (name : String) : Client := ⟨name :: client.hosted⟩

/-- The names of all commands, each once, in order. -/
def commands (client : Client) : List String :=
  (builtInCommands ++ client.hosted).eraseDups.mergeSort fun a b => decide (a ≤ b)

/-- The client as it is shown to a developer. -/
def shown (client : Client) : String :=
  let names := ", ".intercalate (client.commands.map Text.quoted)
  "RefactorClient \x7b commands: [" ++ names ++ "] \x7d"

/-- Carries out a command. -/
def execute (client : Client) (command : String) (arguments : List Json) : Flow Outcome :=
  if client.hosted.contains command then ExceptT.mk (ask (.hosted command arguments))
  else if command = renameCommand then runRename arguments
  else if command = applyCommand then runApply arguments
  else throw (.unknownCommand command)

/-- Starts a rename. -/
def rename (client : Client) (position : RenamePosition) : Flow Outcome :=
  client.execute renameCommand [position.toJson]

/-- Carries out a refactoring by its name. -/
def applyRefactoring (client : Client) (kind : String) (params : Json) (info : Option Json) :
    Flow Outcome :=
  client.execute applyCommand (.string kind :: params :: info.toList)

end Client
end Refactoring
