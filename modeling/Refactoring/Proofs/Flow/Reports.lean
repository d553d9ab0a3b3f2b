import Refactoring.Proofs.Flow.Errands

/-!
# What the user is shown of a problem

A problem that counts as reported has been shown to the user, once and in its own words, and no
other error is ever shown.  The law is kept by every way of putting flows together, so that it is
enough to look at the places where something is shown.
-/

namespace Refactoring

/-! ## The law -/

/-- The errors that were shown, in order. -/
def errorsShown (events : List CallEvent) : List String :=
  events.filterMap fun event =>
    match event.1 with
    | .showError message => some message
    | _ => none

/-- The errors that are to be shown by the end of a flow. -/
def errorsDue {α : Type} : Except Problem α → List String
  | .error problem => if problem.isReported then [problem.message] else []
  | .ok _ => []

theorem errorsShown_append (events later : List CallEvent) :
    errorsShown (events ++ later) = errorsShown events ++ errorsShown later :=
  List.filterMap_append

/-- A refusal does not count as reported. -/
theorem isReported_of_refuses {problem : Problem} (h : problem.refuses) :
    problem.isReported = false := by
  cases problem with
  | unsupported | unknownCommand | invalidArguments => rfl
  | _ => cases h

/-- A call that shows no error. -/
def Call.IsQuiet (call : Call) : Prop := ∀ message, call ≠ .showError message

/-- A dialogue that shows no error. -/
def Quiet {α : Type} (dialogue : Dialogue α) : Prop :=
  ∀ events value, Program.Runs dialogue events value → errorsShown events = []

/-- A flow that shows what it is to show. -/
def Flow.Reports {α : Type} (flow : Flow α) : Prop :=
  ∀ events result, Flow.Runs flow events result → errorsShown events = errorsDue result

/-! ## Dialogues -/

/-- A dialogue whose calls show no error shows none. -/
theorem Quiet.of_within {α : Type} {dialogue : Dialogue α} (h : Within Call.IsQuiet dialogue) :
    Quiet dialogue := by
  intro events value hruns
  rw [errorsShown, List.filterMap_eq_nil_iff]
  rintro ⟨call, reply⟩ hevent
  cases call with
  | showError message => exact absurd rfl (h events value hruns _ hevent message)
  | _ => rfl

theorem Quiet.ask {call : Call} (h : call.IsQuiet) : Quiet (Refactoring.ask call) :=
  .of_within (.ask h)

/-! ## Flows -/

namespace Flow.Reports

variable {α β : Type}

theorem pure (value : α) : Reports (Pure.pure value : Flow α) := by
  intro events result h
  obtain ⟨rfl, rfl⟩ := runs_pure.mp h
  rfl

/-- A problem that is thrown must not be one that counts as reported. -/
theorem throw {problem : Problem} (h : problem.isReported = false) :
    Reports (MonadExcept.throw problem : Flow α) := by
  intro events result hruns
  obtain ⟨rfl, rfl⟩ := runs_throw.mp hruns
  rw [errorsDue, h]
  rfl

/-- A value that is there already, or a refusal. -/
theorem mk_pure {value : Except Problem α}
    (h : ∀ problem, value = .error problem → problem.refuses) :
    Reports (ExceptT.mk (Pure.pure value) : Flow α) := by
  intro events result hruns
  obtain ⟨rfl, rfl⟩ := runs_mk_pure.mp hruns
  cases result with
  | ok value => rfl
  | error problem =>
    rw [errorsDue, isReported_of_refuses (h problem rfl)]
    rfl

/-- A problem that is reported must be one that counts as reported. -/
theorem report {problem : Problem} (h : problem.isReported) :
    Reports (Flow.report problem : Flow α) := by
  intro events result hruns
  obtain ⟨rfl, rfl⟩ := runs_report.mp hruns
  rw [errorsDue, if_pos h]
  rfl

theorem lift {dialogue : Dialogue α} (h : Quiet dialogue) : Reports (liftM dialogue : Flow α) := by
  intro events result hruns
  obtain ⟨value, hfirst, rfl⟩ := runs_lift.mp hruns
  exact h events value hfirst

/-- The problem that a failure turns into must not count as reported. -/
theorem orElse {problem : Failure → Problem} {dialogue : Dialogue (Except Failure α)}
    (hproblem : ∀ failure, (problem failure).isReported = false) (h : Quiet dialogue) :
    Reports (Flow.orElse problem dialogue) := by
  intro events result hruns
  obtain ⟨reply, hfirst, rfl⟩ := runs_orElse.mp hruns
  rw [h events reply hfirst]
  cases reply with
  | ok value => rfl
  | error failure =>
    rw [mapError_error, errorsDue, hproblem failure]
    rfl

/-- Nothing comes after a problem that is thrown. -/
theorem throw_bind {problem : Problem} (h : problem.isReported = false) (next : α → Flow β) :
    Reports (MonadExcept.throw problem >>= next) := throw h

/-- Nothing comes after a problem that is reported. -/
theorem report_bind {problem : Problem} (h : problem.isReported) (next : α → Flow β) :
    Reports (Flow.report problem >>= next) := report h

theorem bind {flow : Flow α} {next : α → Flow β} (h : Reports flow)
    (hnext : ∀ value, Reports (next value)) : Reports (flow >>= next) := by
  intro events result hruns
  rcases runs_bind.mp hruns with ⟨problem, hfirst, rfl⟩ | ⟨before, after, value, rfl, hfirst, hrest⟩
  · exact h events _ hfirst
  · rw [errorsShown_append, h before _ hfirst, hnext value after result hrest]
    rfl

/-- Asking the server. -/
theorem server {dialogue : Dialogue (Except Failure α)} (h : Quiet dialogue) :
    Reports (Flow.server dialogue) :=
  orElse (fun _ => rfl) h

/-- Asking the editor. -/
theorem editor {dialogue : Dialogue (Except Failure α)} (h : Quiet dialogue) :
    Reports (Flow.editor dialogue) :=
  orElse (fun _ => rfl) h

/-- Letting the user choose. -/
theorem choose (values : List α) (row : α → PickItem) (placeholder : String) :
    Reports (Flow.choose values row placeholder) := by
  refine bind (bind (editor ?_) fun _ => pure _) fun _ => pure _
  exact .ask nofun

end Flow.Reports

open Refactoring.Flow (Reports)

/-! ## Results of the server -/

theorem quiet_saveTouched (edit : WorkspaceEdit) : Quiet edit.saveTouched :=
  .of_within (within_saveDocuments (fun _ => nofun) (fun _ => nofun) edit.touched)

theorem reports_applyEdit (saving : Bool) (edit : Option WorkspaceEdit) :
    Reports (applyEdit saving edit) := by
  cases edit with
  | none => exact .pure _
  | some edit =>
    refine .bind (.editor (.ask nofun)) fun accepted => ?_
    cases accepted with
    | false =>
      refine .throw_bind ?_ _
      rfl
    | true =>
      cases saving with
      | false => exact .pure _
      | true => exact .bind (.lift (quiet_saveTouched edit)) fun _ => .pure _

theorem reports_runCommand (command : Option Command) : Reports (runCommand command) := by
  cases command with
  | none => exact .pure _
  | some command => exact .bind (.editor (.ask nofun)) fun _ => .pure _

theorem reports_carryOut_result (saving : Bool) (result : RefactoringResult) :
    Reports (result.carryOut saving) := by
  unfold RefactoringResult.carryOut
  cases result.errorMessage with
  | some message => exact .report_bind rfl _
  | none =>
    refine .bind (reports_applyEdit saving result.edit) fun edited => ?_
    exact .bind (reports_runCommand result.command) fun ran => .pure _

theorem reports_carryOut (saving : Bool) (result : Option RefactoringResult) :
    Reports (carryOut saving result) := by
  cases result with
  | none => exact .pure _
  | some result => exact reports_carryOut_result saving result

/-! ## Moves -/

theorem reports_orReport (whenEmpty : String) (offer : DestinationList) :
    Reports (offer.orReport whenEmpty) := by
  unfold DestinationList.orReport
  cases offer.errorMessage with
  | some message => exact .report_bind rfl _
  | none =>
    cases offer.destinations.isEmpty with
    | true => exact .report_bind rfl _
    | false => exact .pure _

/-- An offer without anything of the right shape is reported like an empty one, and not again. -/
theorem reports_offered {α : Type} (query : MoveRequest) (shape : Destination → Option α)
    (whenEmpty : String) : Reports (offered query shape whenEmpty) := by
  refine .bind (.server (.ask nofun)) fun offer => ?_
  refine .bind (reports_orReport whenEmpty _) fun destinations => ?_
  by_cases hempty : (destinations.filterMap shape).isEmpty
  · rw [if_pos hempty]
    exact .report_bind rfl _
  · rw [if_neg hempty]
    exact .pure _

theorem reports_commit (saving : Bool) (request : MoveRequest) :
    Reports (request.commit saving) :=
  .bind (.server (.ask nofun)) fun _ => reports_carryOut saving _

theorem reports_pickPackage (query : MoveRequest) (placeholder : String) :
    Reports (pickPackage query placeholder) := by
  refine .bind (reports_offered query _ _) fun packages => ?_
  refine .bind (.lift (.of_within (within_withPlaces (fun _ => nofun) packages))) fun places => ?_
  exact .bind (.choose _ _ _) fun _ => .pure _

theorem reports_moveFiles (uris : List Uri) : Reports (moveFiles uris) := by
  unfold moveFiles
  cases Uri.haveCommonParent uris with
  | false => exact .report_bind rfl _
  | true =>
    refine .bind (reports_pickPackage _ _) fun choice => ?_
    cases choice with
    | none => exact .pure _
    | some package =>
      have hquiet : Within Call.IsQuiet (movable? package uris) :=
        within_movable? (fun _ => nofun) (fun _ => nofun) package uris
      refine .bind (.lift (.of_within hquiet)) fun moving => ?_
      cases moving with
      | none => exact .pure _
      | some moving => exact reports_commit true _

theorem reports_moveTypeToPackage (selection : Selection) (info : CommandInfo) :
    Reports (moveTypeToPackage selection info) := by
  refine .bind (reports_pickPackage _ _) fun choice => ?_
  cases choice with
  | none => exact .pure _
  | some package => exact reports_commit true _

theorem reports_moveInstanceMethod (selection : Selection) (info : CommandInfo) :
    Reports (moveInstanceMethod selection info) := by
  refine .bind (reports_offered _ _ _) fun targets => .bind (.choose _ _ _) fun choice => ?_
  cases choice with
  | none => exact .pure _
  | some target => exact reports_commit false _

theorem reports_selectTargetClass (placeholder : String) (excluded : List String)
    (project : Option String) : Reports (selectTargetClass placeholder excluded project) := by
  refine .bind (.server (.ask nofun)) fun symbols => ?_
  by_cases hempty : (symbols.filter (Symbol.isCandidate excluded)).isEmpty
  · dsimp only
    rw [if_pos hempty]
    exact .report_bind rfl _
  · dsimp only
    rw [if_neg hempty]
    exact .choose _ _ _

theorem reports_moveStaticMember (selection : Selection) (info : CommandInfo) :
    Reports (moveStaticMember selection info) := by
  refine .bind (reports_selectTargetClass _ _ _) fun choice => ?_
  cases choice with
  | none => exact .pure _
  | some target => exact reports_commit false _

theorem reports_moveTypeToClass (selection : Selection) (info : CommandInfo) :
    Reports (moveTypeToClass selection info) := by
  refine .bind (reports_selectTargetClass _ _ _) fun choice => ?_
  cases choice with
  | none => exact .pure _
  | some target => exact reports_commit false _

/-! ## Refactorings by name -/

theorem reports_initializationScope (kind : RefactoringKind) (info : CommandInfo) :
    Reports (initializationScope kind info) := by
  unfold initializationScope
  cases kind.introducesField with
  | false => exact .pure _
  | true =>
    rcases info.initializedScopes.getD [] with _ | ⟨scope, _ | ⟨other, scopes⟩⟩
    · exact .pure _
    · exact .pure _
    · exact .bind (.choose _ _ _) fun _ => .pure _

theorem reports_computeAndApply (kind : RefactoringKind) (selection : Selection)
    (info : CommandInfo) : Reports (computeAndApply kind selection info) := by
  refine .bind (.lift (.ask nofun)) fun options => ?_
  cases options with
  | none =>
    refine .throw ?_
    rfl
  | some options =>
    refine .bind (reports_initializationScope kind info) fun arguments => ?_
    cases arguments with
    | none => exact .pure _
    | some arguments =>
      exact .bind (.server (.ask nofun)) fun result => reports_carryOut false result

theorem reports_moveType (selection : Selection) (info : CommandInfo) :
    Reports (moveType selection info) := by
  unfold moveType
  by_cases hempty : info.typeDestinations.isEmpty
  · dsimp only
    rw [if_pos hempty]
    exact .pure _
  · dsimp only
    rw [if_neg hempty]
    refine .bind (.choose _ _ _) fun choice => ?_
    cases choice with
    | none => exact .pure _
    | some destination =>
      cases destination with
      | newFile => exact reports_computeAndApply _ selection info
      | package => exact reports_moveTypeToPackage selection info
      | insideClass => exact reports_moveTypeToClass selection info

theorem reports_applyRefactoring (name : String) (params : Json) (info : CommandInfo) :
    Reports (applyRefactoring name params info) := by
  unfold applyRefactoring
  cases RefactoringKind.ofName? name with
  | none =>
    refine .throw ?_
    rfl
  | some kind =>
    by_cases hfile : kind = .moveFile
    · dsimp only
      rw [if_pos hfile]
      exact .bind (.mk_pure fun _ => refuses_movedFile) fun uri => reports_moveFiles [uri]
    · dsimp only
      rw [if_neg hfile]
      refine .bind (.mk_pure fun _ => refuses_argument) fun selection => ?_
      cases kind with
      | moveInstanceMethod => exact reports_moveInstanceMethod selection info
      | moveStaticMember => exact reports_moveStaticMember selection info
      | moveType => exact reports_moveType selection info
      | _ => exact reports_computeAndApply _ selection info

theorem quiet_triggerRename (position : RenamePosition) : Quiet (triggerRename position) :=
  .of_within <|
    within_triggerRename (fun _ => nofun) (fun _ => nofun) (fun _ _ => nofun) position

/-! ## Commands -/

theorem reports_runRename (arguments : List Json) : Reports (runRename arguments) := by
  unfold runRename
  cases arguments.head?.bind fun first => (RenamePosition.decode first).toOption with
  | none => exact .pure _
  | some position => exact .bind (.lift (quiet_triggerRename position)) fun _ => .pure _

theorem reports_runApply (arguments : List Json) : Reports (runApply arguments) := by
  unfold runApply
  split
  · exact .bind (.mk_pure fun _ => refuses_attachedInfo) fun info =>
      reports_applyRefactoring _ _ info
  · refine .throw ?_
    rfl

/-- What a command of the host shows is its own affair. -/
theorem reports_execute (client : Client) {command : String} (h : command ∉ client.hosted)
    (arguments : List Json) : Reports (client.execute command arguments) := by
  unfold Client.execute
  rw [if_neg (by simpa using h)]
  split
  · exact reports_runRename arguments
  · split
    · exact reports_runApply arguments
    · refine .throw ?_
      rfl

/-! ## Services -/

theorem Service.reports (service : Service) : Reports service.flow := by
  cases service with
  | command client name arguments own => exact reports_execute client own arguments
  | refactoring name params info => exact reports_applyRefactoring name params info
  | moveFiles uris => exact reports_moveFiles uris
  | moveInstanceMethod selection info => exact reports_moveInstanceMethod selection info
  | moveStaticMember selection info => exact reports_moveStaticMember selection info
  | moveType selection info => exact reports_moveType selection info
  | moveTypeToPackage selection info => exact reports_moveTypeToPackage selection info
  | moveTypeToClass selection info => exact reports_moveTypeToClass selection info
  | rename position => exact .bind (.lift (quiet_triggerRename position)) fun _ => .pure _
  | carryOut saving result => exact reports_carryOut saving result

/-- Whatever the server and the host reply, a run that ends in a problem which counts as reported
has shown one error, which is the message of that problem, and every other run has shown none. -/
theorem Service.errorsShown_eq {service : Service} {events : List CallEvent}
    {result : Except Problem Outcome} (h : Flow.Runs service.flow events result) :
    errorsShown events =
      match result with
      | .error problem => if problem.isReported then [problem.message] else []
      | .ok _ => [] := by
  rw [service.reports events result h]
  cases result <;> rfl

/-- Files can only move to a package, but the server offers nothing but a field. -/
def fieldOffered : List CallEvent :=
  [⟨.moveDestinations (filesQuery [.localResource ["A"]]),
      .ok (some ⟨none, [.classTarget ⟨"", "field", "Type", true, false⟩]⟩)⟩,
    ⟨.showError noPackages, ()⟩]

/-- An offer of nothing that fits is reported once. -/
theorem Service.errorsShown_eq_fieldOffered :
    Flow.Runs (Service.flow (.moveFiles [.localResource ["A"]])) fieldOffered
        (.error (.noDestinations noPackages)) ∧
      errorsShown fieldOffered = [noPackages] := by
  have hruns : Flow.Runs (Service.flow (.moveFiles [.localResource ["A"]])) fieldOffered
      (.error (.noDestinations noPackages)) := .ask (.ask (.done _))
  exact ⟨hruns, Service.errorsShown_eq hruns⟩

end Refactoring
