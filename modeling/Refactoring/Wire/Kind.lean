import Refactoring.Json.Decoder

/-!
# Kinds of refactorings and moves
-/

namespace Refactoring

open Json

/-- The refactorings that the server knows. -/
inductive RefactoringKind where
  | extractVariable
  | extractVariableAllOccurrence
  | extractConstant
  | extractMethod
  | extractField
  | assignField
  | convertVariableToField
  | invertVariable
  | introduceParameter
  | convertAnonymousClassToNestedCommand
  | moveTypeToNewFile
  | moveFile
  | moveInstanceMethod
  | moveStaticMember
  | moveType
  deriving Repr, DecidableEq

namespace RefactoringKind

/-- Every kind, in the order in which messages list them. -/
def all : List RefactoringKind :=
  [extractVariable, extractVariableAllOccurrence, extractConstant, extractMethod, extractField,
    assignField, convertVariableToField, invertVariable, introduceParameter,
    convertAnonymousClassToNestedCommand, moveTypeToNewFile, moveFile, moveInstanceMethod,
    moveStaticMember, moveType]

/-- The name of a kind on the wire. -/
def name : RefactoringKind → String
  | extractVariable => "extractVariable"
  | extractVariableAllOccurrence => "extractVariableAllOccurrence"
  | extractConstant => "extractConstant"
  | extractMethod => "extractMethod"
  | extractField => "extractField"
  | assignField => "assignField"
  | convertVariableToField => "convertVariableToField"
  | invertVariable => "invertVariable"
  | introduceParameter => "introduceParameter"
  | convertAnonymousClassToNestedCommand => "convertAnonymousClassToNestedCommand"
  | moveTypeToNewFile => "moveTypeToNewFile"
  | moveFile => "moveFile"
  | moveInstanceMethod => "moveInstanceMethod"
  | moveStaticMember => "moveStaticMember"
  | moveType => "moveType"

/-- The kind of a name. -/
def ofName? (name : String) : Option RefactoringKind := all.find? (·.name == name)

/-- Every kind is found by its name. -/
@[simp] theorem ofName?_name (kind : RefactoringKind) : ofName? kind.name = some kind := by
  cases kind <;> decide +kernel

/-- Kinds whose edit the server computes in one request. -/
def isEdit : RefactoringKind → Bool
  | moveFile | moveInstanceMethod | moveStaticMember | moveType => false
  | _ => true

/-- Kinds that introduce a field, which can be initialised in several places. -/
def introducesField : RefactoringKind → Bool
  | extractField | convertVariableToField => true
  | _ => false

/-- Reads a kind. -/
def decode : Decoder RefactoringKind := Decoder.choice all name

/-- A kind as its name. -/
def toJson (kind : RefactoringKind) : Json := .string kind.name

end RefactoringKind

/-- What a move request relocates. -/
inductive MoveKind where
  | moveResource
  | moveInstanceMethod
  | moveStaticMember
  | moveTypeToClass
  deriving Repr, DecidableEq

namespace MoveKind

/-- Every kind, in the order in which messages list them. -/
def all : List MoveKind := [moveResource, moveInstanceMethod, moveStaticMember, moveTypeToClass]

/-- The name of a kind on the wire. -/
def name : MoveKind → String
  | moveResource => "moveResource"
  | moveInstanceMethod => "moveInstanceMethod"
  | moveStaticMember => "moveStaticMember"
  | moveTypeToClass => "moveTypeToClass"

/-- Reads a kind. -/
def decode : Decoder MoveKind := Decoder.choice all name

/-- A kind as its name. -/
def toJson (kind : MoveKind) : Json := .string kind.name

end MoveKind
end Refactoring
