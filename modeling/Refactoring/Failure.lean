import Refactoring.Text.Position

/-!
# Failures

What went wrong, told from the outermost circumstance to the cause; and the ways in which a
refactoring ends.
-/

namespace Refactoring

/-- Circumstances from the outside in, the cause last. -/
structure Failure where
  texts : List String
  deriving Repr, DecidableEq

namespace Failure

/-- A bare cause. -/
def of (text : String) : Failure := ⟨[text]⟩

/-- The same failure under a further circumstance. -/
def within (text : String) (f : Failure) : Failure := ⟨text :: f.texts⟩

/-- All of it on one line. -/
def text (f : Failure) : String := ": ".intercalate f.texts

/-- The outermost circumstance. -/
def headline (f : Failure) : String := f.texts.headD ""

end Failure

/-- How a refactoring ended that did not fail. -/
inductive Outcome where
  /-- An edit was applied or a command ran. -/
  | applied
  /-- The user dismissed a picker. -/
  | cancelled
  /-- There was nothing to do. -/
  | nothingToDo
  deriving Repr, DecidableEq

/-- Why a refactoring failed. -/
inductive Problem where
  /-- The files to be moved lie in several directories. -/
  | differentDirectories
  /-- There is nowhere to move to. -/
  | noDestinations (message : String)
  /-- The server answered with a message for the user. -/
  | server (message : String)
  /-- There is no editor to take formatting options from. -/
  | noActiveEditor
  | unsupported (refactoring : String)
  | unknownCommand (name : String)
  | invalidArguments (message : String)
  /-- The request to the server failed. -/
  | transport (failure : Failure)
  /-- The editor failed. -/
  | editor (failure : Failure)
  deriving Repr, DecidableEq

namespace Problem

/-- The message for files in several directories. -/
def differentDirectoriesMessage : String :=
  "Moving files of different directories are not supported. " ++
  "Please make sure they are from the same directory."

/-- The wording of a problem. -/
def message : Problem → String
  | differentDirectories => differentDirectoriesMessage
  | noDestinations text => text
  | server text => text
  | noActiveEditor => "No active editor"
  | unsupported name => "Unsupported refactoring: " ++ name
  | unknownCommand name => "Unknown command: " ++ name
  | invalidArguments text => "Invalid arguments: " ++ text
  | transport failure => "Language server request failed: " ++ failure.text
  | editor failure => "Editor operation failed: " ++ failure.text

/-- Whether the user has already been shown the message. -/
def isReported : Problem → Bool
  | differentDirectories | noDestinations _ | server _ => true
  | _ => false

end Problem
end Refactoring
