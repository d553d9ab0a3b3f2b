import Refactoring.Proofs.Except
import Refactoring.Proofs.Flow.Calls

/-!
# Errands

What a service does is settled before its first call: its name and its arguments either lead to an
error or to one of a few errands.  A move of a type is an errand that goes on as another one.
-/

namespace Refactoring

/-- What is done for a service. -/
inductive Errand where
  /-- There is nothing to ask for. -/
  | ended (result : Except Problem Outcome)
  | moveFiles (uris : List Uri)
  | moveInstanceMethod (selection : Selection) (info : CommandInfo)
  | moveStaticMember (selection : Selection) (info : CommandInfo)
  | moveTypeToPackage (selection : Selection) (info : CommandInfo)
  | moveTypeToClass (selection : Selection) (info : CommandInfo)
  /-- Lets the user choose where a type moves to. -/
  | moveType (selection : Selection) (info : CommandInfo)
  /-- Has the server compute an edit and applies it. -/
  | edit (kind : RefactoringKind) (selection : Selection) (info : CommandInfo)
  | rename (position : RenamePosition)
  /-- Carries out a result that is already there. -/
  | carryOut (saving : Bool) (result : Option RefactoringResult)

namespace Errand

/-- How an errand is done. -/
def flow : Errand → Flow Outcome
  | ended result => ExceptT.mk (pure result)
  | moveFiles uris => Refactoring.moveFiles uris
  | moveInstanceMethod selection info => Refactoring.moveInstanceMethod selection info
  | moveStaticMember selection info => Refactoring.moveStaticMember selection info
  | moveTypeToPackage selection info => Refactoring.moveTypeToPackage selection info
  | moveTypeToClass selection info => Refactoring.moveTypeToClass selection info
  | moveType selection info => Refactoring.moveType selection info
  | edit kind selection info => computeAndApply kind selection info
  | rename position => do
    triggerRename position
    return .applied
  | carryOut saving result => Refactoring.carryOut saving result

/-- The errand for a refactoring that needs a selection. -/
def ofKind (kind : RefactoringKind) (selection : Selection) (info : CommandInfo) : Errand :=
  match kind with
  | .moveInstanceMethod => .moveInstanceMethod selection info
  | .moveStaticMember => .moveStaticMember selection info
  | .moveType => .moveType selection info
  | kind => .edit kind selection info

/-- The errand for a value, or an error. -/
def ofExcept {α : Type} (value : Except Problem α) (errand : α → Errand) : Errand :=
  match value with
  | .ok value => errand value
  | .error problem => .ended (.error problem)

/-- The errand for a refactoring that a code action offers. -/
def ofRefactoring (name : String) (params : Json) (info : CommandInfo) : Errand :=
  match RefactoringKind.ofName? name with
  | none => .ended (.error (.unsupported name))
  | some kind =>
    if kind = .moveFile then ofExcept info.movedFile fun uri => .moveFiles [uri]
    else ofExcept (argument Selection.decode params) fun selection => ofKind kind selection info

/-- The errand for the arguments of the command that starts a rename. -/
def ofRename (arguments : List Json) : Errand :=
  match arguments.head?.bind fun first => (RenamePosition.decode first).toOption with
  | none => .ended (.ok .nothingToDo)
  | some position => .rename position

/-- The errand for the arguments of the command that carries out a refactoring. -/
def ofApply : List Json → Errand
  | .string name :: rest =>
    ofExcept (attachedInfo rest[1]?) fun info => ofRefactoring name (rest.head?.getD .null) info
  | _ => .ended (.error (.invalidArguments (applyCommand ++ " expects a refactoring name")))

/-- The errand for a command that is built in. -/
def ofCommand (name : String) (arguments : List Json) : Errand :=
  if name = renameCommand then ofRename arguments
  else if name = applyCommand then ofApply arguments
  else .ended (.error (.unknownCommand name))

/-- The same value goes on, or the same error ends it. -/
theorem flow_ofExcept {α : Type} (value : Except Problem α) (errand : α → Errand) :
    (ofExcept value errand).flow =
      ExceptT.mk (pure value) >>= fun value => (errand value).flow := by
  cases value <;> rfl

theorem flow_ofKind (kind : RefactoringKind) (selection : Selection) (info : CommandInfo) :
    (ofKind kind selection info).flow =
      match kind with
      | .moveInstanceMethod => Refactoring.moveInstanceMethod selection info
      | .moveStaticMember => Refactoring.moveStaticMember selection info
      | .moveType => Refactoring.moveType selection info
      | kind => computeAndApply kind selection info := by
  cases kind <;> rfl

theorem flow_ofRefactoring (name : String) (params : Json) (info : CommandInfo) :
    (ofRefactoring name params info).flow = applyRefactoring name params info := by
  unfold ofRefactoring applyRefactoring
  cases RefactoringKind.ofName? name with
  | none => rfl
  | some kind =>
    dsimp only
    split
    · exact flow_ofExcept _ _
    · rw [flow_ofExcept]
      simp only [flow_ofKind]
      rfl

theorem flow_ofRename (arguments : List Json) :
    (ofRename arguments).flow = runRename arguments := by
  unfold ofRename runRename
  cases arguments.head?.bind fun first => (RenamePosition.decode first).toOption with
  | none => rfl
  | some position => rfl

theorem flow_ofApply (arguments : List Json) : (ofApply arguments).flow = runApply arguments := by
  cases arguments with
  | nil => rfl
  | cons first rest =>
    cases first with
    | string name =>
      rw [ofApply, runApply, flow_ofExcept]
      simp only [flow_ofRefactoring]
    | _ => rfl

theorem flow_ofCommand {client : Client} {name : String} (own : name ∉ client.hosted)
    (arguments : List Json) : (ofCommand name arguments).flow = client.execute name arguments := by
  have hown : ¬ client.hosted.contains name := by simpa using own
  rw [ofCommand, Client.execute, if_neg hown]
  by_cases hrename : name = renameCommand
  · rw [if_pos hrename, if_pos hrename, flow_ofRename]
  · rw [if_neg hrename, if_neg hrename]
    by_cases happly : name = applyCommand
    · rw [if_pos happly, if_pos happly, flow_ofApply]
    · rw [if_neg happly, if_neg happly]
      rfl

end Errand

/-- The errand of a service. -/
def Service.errand : Service → Errand
  | .command _ name arguments _ => .ofCommand name arguments
  | .refactoring name params info => .ofRefactoring name params info
  | .moveFiles uris => .moveFiles uris
  | .moveInstanceMethod selection info => .moveInstanceMethod selection info
  | .moveStaticMember selection info => .moveStaticMember selection info
  | .moveType selection info => .moveType selection info
  | .moveTypeToPackage selection info => .moveTypeToPackage selection info
  | .moveTypeToClass selection info => .moveTypeToClass selection info
  | .rename position => .rename position
  | .carryOut saving result => .carryOut saving result

/-- A service does its errand and nothing else. -/
theorem Service.flow_eq (service : Service) : service.flow = service.errand.flow := by
  cases service with
  | command client name arguments own => exact (Errand.flow_ofCommand own arguments).symm
  | refactoring name params info => exact (Errand.flow_ofRefactoring name params info).symm
  | _ => rfl

/-- A rename only brings up a document and hands over to the host. -/
theorem presents_rename (position : RenamePosition) :
    (Errand.rename position).flow.Within fun call => call.role = .presenting := by
  refine .bind (.lift ?_) fun _ => .pure _
  exact within_triggerRename (fun _ => rfl) (fun _ => rfl) (fun _ _ => rfl) position

/-! ## Refusals -/

/-- A problem with the command itself or with its arguments. -/
def Problem.refuses : Problem → Bool
  | unsupported _ | unknownCommand _ | invalidArguments _ => true
  | _ => false

theorem refuses_argument {α : Type} {decoder : Json.Decoder α} {value : Json} {problem : Problem}
    (h : argument decoder value = .error problem) : problem.refuses := by
  obtain ⟨fault, -, rfl⟩ := mapError_eq_error.mp h
  rfl

theorem refuses_movedFile {info : CommandInfo} {problem : Problem}
    (h : info.movedFile = .error problem) : problem.refuses := by
  unfold CommandInfo.movedFile at h
  split at h
  · cases h
    rfl
  · obtain ⟨fault, -, rfl⟩ := mapError_eq_error.mp h
    rfl

theorem refuses_attachedInfo {value : Option Json} {problem : Problem}
    (h : attachedInfo value = .error problem) : problem.refuses := by
  unfold attachedInfo at h
  split at h
  · cases h
  · cases h
  · exact refuses_argument h

namespace Errand

/-- If there is nothing to ask for, then there is nothing to do or it is refused. -/
def IsSound : Errand → Prop
  | ended (.ok outcome) => outcome = .nothingToDo
  | ended (.error problem) => problem.refuses
  | _ => True

theorem isSound_ofExcept {α : Type} {value : Except Problem α} {errand : α → Errand}
    (hvalue : ∀ problem, value = .error problem → problem.refuses)
    (herrand : ∀ value, (errand value).IsSound) : (ofExcept value errand).IsSound := by
  cases value with
  | ok value => exact herrand value
  | error problem => exact hvalue problem rfl

theorem isSound_ofKind (kind : RefactoringKind) (selection : Selection) (info : CommandInfo) :
    (ofKind kind selection info).IsSound := by
  cases kind <;> trivial

theorem isSound_ofRefactoring (name : String) (params : Json) (info : CommandInfo) :
    (ofRefactoring name params info).IsSound := by
  unfold ofRefactoring
  cases RefactoringKind.ofName? name with
  | none => rfl
  | some kind =>
    dsimp only
    split
    · exact isSound_ofExcept (fun _ => refuses_movedFile) fun _ => trivial
    · exact isSound_ofExcept (fun _ => refuses_argument) fun _ => isSound_ofKind _ _ _

theorem isSound_ofRename (arguments : List Json) : (ofRename arguments).IsSound := by
  unfold ofRename
  cases arguments.head?.bind fun first => (RenamePosition.decode first).toOption with
  | none => rfl
  | some position => trivial

theorem isSound_ofApply (arguments : List Json) : (ofApply arguments).IsSound := by
  unfold ofApply
  split
  · exact isSound_ofExcept (fun _ => refuses_attachedInfo) fun _ => isSound_ofRefactoring _ _ _
  · rfl

theorem isSound_ofCommand (name : String) (arguments : List Json) :
    (ofCommand name arguments).IsSound := by
  unfold ofCommand
  split
  · exact isSound_ofRename arguments
  · split
    · exact isSound_ofApply arguments
    · rfl

end Errand

theorem Service.isSound_errand (service : Service) : service.errand.IsSound := by
  cases service with
  | command client name arguments own => exact Errand.isSound_ofCommand name arguments
  | refactoring name params info => exact Errand.isSound_ofRefactoring name params info
  | _ => trivial

/-! ## Moves of types -/

/-- The errand that a type moves by. -/
def TypeDestination.errand (selection : Selection) (info : CommandInfo) :
    TypeDestination → Errand
  | newFile => .edit .moveTypeToNewFile selection info
  | package => .moveTypeToPackage selection info
  | insideClass => .moveTypeToClass selection info

/-- What the user is asked when a type moves. -/
def typeQuestion : String := "What would you like to do?"

/-- The user chooses where a type moves to. -/
def CommandInfo.typeChoice (info : CommandInfo) (reply : Except Failure (Option Nat)) : CallEvent :=
  ⟨.pick (info.typeDestinations.map TypeDestination.row) typeQuestion, reply⟩

/-- These calls show what an errand comes to: a move of a type comes to the errand for the
destination that the user chooses, and all other errands come to what they are. -/
def Errand.ComesTo : Errand → List CallEvent → Errand → Prop
  | moveType selection info, events, errand =>
    ∃ i destination, info.typeDestinations[i]? = some destination ∧
      events = [info.typeChoice (.ok (some i))] ∧ errand = destination.errand selection info
  | errand, events, errand' => events = [] ∧ errand' = errand

theorem moveType_eq (selection : Selection) (info : CommandInfo) :
    moveType selection info =
      if info.typeDestinations.isEmpty then pure .nothingToDo
      else Flow.choose info.typeDestinations TypeDestination.row typeQuestion >>=
        fun
          | none => pure .cancelled
          | some destination => (destination.errand selection info).flow := by
  unfold moveType
  dsimp only
  congr 2
  funext choice
  rcases choice with _ | _ | _ | _ <;> rfl

/-- A move of a type ends at the latest with the choice, or it goes on as the errand for the
destination that was chosen. -/
theorem runs_moveType {selection : Selection} {info : CommandInfo} {events : List CallEvent}
    {result : Except Problem Outcome} (h : Flow.Runs (moveType selection info) events result) :
    events = [] ∨
      (∃ reply, (∀ i, reply = .ok (some i) → info.typeDestinations[i]? = none) ∧
        events = [info.typeChoice reply]) ∨
      ∃ i destination rest, info.typeDestinations[i]? = some destination ∧
        events = info.typeChoice (.ok (some i)) :: rest ∧
        Flow.Runs (destination.errand selection info).flow rest result := by
  rw [moveType_eq] at h
  split at h
  · exact .inl (Flow.runs_pure.mp h).1
  · right
    obtain ⟨reply, rest, rfl, ⟨failure, rfl, rfl, -⟩ | ⟨hdismisses, hrest⟩ |
      ⟨i, destination, rfl, hi, hrest⟩⟩ := Flow.runs_choose_cases _ _ _ h
    · exact .inl ⟨.error failure, nofun, rfl⟩
    · obtain ⟨rfl, -⟩ := Flow.runs_pure.mp hrest
      refine .inl ⟨reply, ?_, rfl⟩
      rintro i rfl
      cases hdismisses with
      | absent hi => simpa using hi
    · exact .inr ⟨i, destination, rest, hi, rfl, hrest⟩

/-- Whatever the errand for a destination can do follows the choice of the destination. -/
theorem runs_moveType_of_choice {selection : Selection} {info : CommandInfo} {i : Nat}
    {destination : TypeDestination} (hi : info.typeDestinations[i]? = some destination)
    {rest : List CallEvent} {result : Except Problem Outcome}
    (h : Flow.Runs (destination.errand selection info).flow rest result) :
    Flow.Runs (moveType selection info) (info.typeChoice (.ok (some i)) :: rest) result := by
  have hsome : ¬ info.typeDestinations.isEmpty := by
    intro hempty
    rw [List.isEmpty_iff.mp hempty] at hi
    cases hi
  rw [moveType_eq, if_neg hsome]
  refine (Flow.runs_choose_bind _ _ _).mpr ⟨.ok (some i), rest, rfl, ?_⟩
  simpa only [Option.bind_some, hi] using h

end Refactoring
