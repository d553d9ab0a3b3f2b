import Refactoring.Proofs.Except
import Refactoring.Proofs.Flow.Calls

/-!
# What becomes of a result

A result of the server is carried out in stages: the edit, the documents that it touched, the
command.  The calls that this takes are described without the flow that makes them, and the two
agree.
-/

namespace Refactoring

/-! ## The calls for a result -/

/-- The calls that try to save a document.  Whether it can be opened decides whether saving is
tried, and nothing depends on how that goes. -/
inductive SaveAttempt (uri : Uri) : List CallEvent → Prop
  | made {document : Document} {reply : Except Failure Bool} :
      SaveAttempt uri [⟨.openDocument uri, .ok (some document)⟩, ⟨.saveDocument uri, reply⟩]
  | missing : SaveAttempt uri [⟨.openDocument uri, .ok none⟩]
  | failed {failure : Failure} : SaveAttempt uri [⟨.openDocument uri, .error failure⟩]

/-- The calls that try to save documents, one after the other. -/
inductive SaveAttempts : List Uri → List CallEvent → Prop
  | done : SaveAttempts [] []
  | next {uri : Uri} {rest : List Uri} {first later : List CallEvent}
      (hfirst : SaveAttempt uri first) (hlater : SaveAttempts rest later) :
      SaveAttempts (uri :: rest) (first ++ later)

/-- The calls for an edit that the host accepts. -/
inductive EditAccepted : Bool → Option WorkspaceEdit → List CallEvent → Prop
  | absent {saving : Bool} : EditAccepted saving none []
  | unsaved {edit : WorkspaceEdit} : EditAccepted false (some edit) [⟨.applyEdit edit, .ok true⟩]
  | saved {edit : WorkspaceEdit} {events : List CallEvent}
      (hsaves : SaveAttempts edit.touched events) :
      EditAccepted true (some edit) (⟨.applyEdit edit, .ok true⟩ :: events)

/-- The call for an edit that the host does not accept, and the problem that this is. -/
inductive EditRefused : Option WorkspaceEdit → List CallEvent → Problem → Prop
  | failed {edit : WorkspaceEdit} {failure : Failure} :
      EditRefused (some edit) [⟨.applyEdit edit, .error failure⟩] (.editor failure)
  | rejected {edit : WorkspaceEdit} :
      EditRefused (some edit) [⟨.applyEdit edit, .ok false⟩]
        (.editor (.of "The editor rejected the edit"))

/-- The call for a command that runs. -/
inductive CommandRan : Option Command → List CallEvent → Prop
  | absent : CommandRan none []
  | ran {command : Command} {reply : Option Json} :
      CommandRan (some command)
        [⟨.runCommand command.name (command.arguments.getD []), .ok reply⟩]

/-- The call for a command that fails. -/
inductive CommandFailed : Option Command → List CallEvent → Failure → Prop
  | failed {command : Command} {failure : Failure} :
      CommandFailed (some command)
        [⟨.runCommand command.name (command.arguments.getD []), .error failure⟩] failure

/-- The calls that carry out what the server has sent, and how that ends. -/
inductive CarriesOut (saving : Bool) :
    Option RefactoringResult → List CallEvent → Except Problem Outcome → Prop
  | nothing : CarriesOut saving none [] (.ok .nothingToDo)
  /-- An error message is shown and nothing else is done. -/
  | refused {sent : RefactoringResult} {message : String}
      (hmessage : sent.errorMessage = some message) :
      CarriesOut saving (some sent) [⟨.showError message, ()⟩] (.error (.server message))
  /-- Without the edit nothing is saved, and no command runs. -/
  | unedited {sent : RefactoringResult} {edited : List CallEvent} {problem : Problem}
      (hmessage : sent.errorMessage = none) (hedit : EditRefused sent.edit edited problem) :
      CarriesOut saving (some sent) edited (.error problem)
  /-- A command fails when the edit and the saves are done. -/
  | uncommanded {sent : RefactoringResult} {edited ran : List CallEvent} {failure : Failure}
      (hmessage : sent.errorMessage = none) (hedit : EditAccepted saving sent.edit edited)
      (hcommand : CommandFailed sent.command ran failure) :
      CarriesOut saving (some sent) (edited ++ ran) (.error (.editor failure))
  | completed {sent : RefactoringResult} {edited ran : List CallEvent}
      (hmessage : sent.errorMessage = none) (hedit : EditAccepted saving sent.edit edited)
      (hcommand : CommandRan sent.command ran) :
      CarriesOut saving (some sent) (edited ++ ran)
        (.ok (if sent.edit.isSome || sent.command.isSome then .applied else .nothingToDo))

/-! ## The flows that make them -/

section Runs

variable {events : List CallEvent} {saving : Bool}

theorem runs_saveDocument {uri : Uri} :
    (∃ saved, Program.Runs (saveDocument uri) events saved) ↔ SaveAttempt uri events := by
  constructor
  · rintro ⟨saved, h⟩
    obtain ⟨opened, rest, rfl, hopened⟩ := Program.runs_ask.mp h
    rcases opened with failure | _ | document
    · obtain ⟨rfl, -⟩ := Program.runs_done.mp hopened
      exact .failed
    · obtain ⟨rfl, -⟩ := Program.runs_done.mp hopened
      exact .missing
    · obtain ⟨reply, rest, rfl, hreply⟩ := Program.runs_ask.mp hopened
      cases reply with
      | ok saved =>
        obtain ⟨rfl, -⟩ := Program.runs_done.mp hreply
        exact .made
      | error failure =>
        obtain ⟨rfl, -⟩ := Program.runs_done.mp hreply
        exact .made
  · rintro (_ | _ | _)
    case made document reply =>
      cases reply with
      | ok saved => exact ⟨saved, .ask (.ask (.done saved))⟩
      | error failure => exact ⟨false, .ask (.ask (.done false))⟩
    case missing => exact ⟨false, .ask (.done false)⟩
    case failed failure => exact ⟨false, .ask (.done false)⟩

theorem runs_saveDocuments {uris : List Uri} :
    (∃ saved, Program.Runs (saveDocuments uris) events saved) ↔ SaveAttempts uris events := by
  induction uris generalizing events with
  | nil =>
    constructor
    · rintro ⟨saved, h⟩
      obtain ⟨rfl, -⟩ := Program.runs_done.mp h
      exact .done
    · rintro ⟨⟩
      exact ⟨[], .done []⟩
  | cons uri rest ih =>
    constructor
    · rintro ⟨saved, h⟩
      obtain ⟨first, later, value, rfl, hfirst, h⟩ := Program.runs_bind.mp h
      obtain ⟨later, last, others, rfl, hlater, h⟩ := Program.runs_bind.mp h
      obtain ⟨rfl, -⟩ := Program.runs_done.mp h
      rw [List.append_nil]
      exact .next (runs_saveDocument.mp ⟨value, hfirst⟩) (ih.mp ⟨others, hlater⟩)
    · rintro (_ | ⟨hfirst, hlater⟩)
      rename_i first later
      obtain ⟨value, hfirst⟩ := runs_saveDocument.mpr hfirst
      obtain ⟨others, hlater⟩ := ih.mpr hlater
      exact ⟨_, Program.runs_bind.mpr ⟨first, later, value, rfl, hfirst,
        Program.runs_bind.mpr ⟨later, [], others, by simp, hlater, .done _⟩⟩⟩

/-- Saving what an edit touched never ends a flow. -/
theorem runs_saveTouched {edit : WorkspaceEdit} {value : Bool} {result : Except Problem Bool} :
    Flow.Runs (liftM edit.saveTouched >>= fun _ => pure value) events result ↔
      SaveAttempts edit.touched events ∧ result = .ok value := by
  rw [Flow.runs_lift_bind]
  constructor
  · rintro ⟨before, after, saved, rfl, hsaves, hrest⟩
    obtain ⟨rfl, rfl⟩ := Flow.runs_pure.mp hrest
    rw [List.append_nil]
    exact ⟨runs_saveDocuments.mp ⟨saved, hsaves⟩, rfl⟩
  · rintro ⟨h, rfl⟩
    obtain ⟨saved, hsaves⟩ := runs_saveDocuments.mpr h
    exact ⟨events, [], saved, by simp, hsaves, Flow.runs_pure.mpr ⟨rfl, rfl⟩⟩

theorem runs_applyEdit {edit : Option WorkspaceEdit} {result : Except Problem Bool} :
    Flow.Runs (applyEdit saving edit) events result ↔
      (EditAccepted saving edit events ∧ result = .ok edit.isSome) ∨
        ∃ problem, EditRefused edit events problem ∧ result = .error problem := by
  cases edit with
  | none =>
    rw [applyEdit, Flow.runs_pure]
    constructor
    · rintro ⟨rfl, rfl⟩
      exact .inl ⟨.absent, rfl⟩
    · rintro (⟨⟨⟩, rfl⟩ | ⟨problem, ⟨⟩, rfl⟩)
      exact ⟨rfl, rfl⟩
  | some edit =>
    constructor
    · intro h
      obtain ⟨reply, rest, rfl, hreply⟩ := Program.runs_ask.mp h
      rcases reply with failure | _ | _
      · obtain ⟨rfl, rfl⟩ := Program.runs_done.mp hreply
        exact .inr ⟨_, .failed, rfl⟩
      · obtain ⟨rfl, rfl⟩ := Program.runs_done.mp hreply
        exact .inr ⟨_, .rejected, rfl⟩
      · cases saving with
        | false =>
          obtain ⟨rfl, rfl⟩ := Program.runs_done.mp hreply
          exact .inl ⟨.unsaved, rfl⟩
        | true =>
          obtain ⟨hsaves, rfl⟩ := runs_saveTouched.mp hreply
          exact .inl ⟨.saved hsaves, rfl⟩
    · rintro (⟨_ | _ | hsaves, rfl⟩ | ⟨problem, _ | _, rfl⟩)
      · exact .ask (.done _)
      · exact .ask (runs_saveTouched.mpr ⟨hsaves, rfl⟩)
      · exact .ask (.done _)
      · exact .ask (.done _)

theorem runs_runCommand {command : Option Command} {result : Except Problem Bool} :
    Flow.Runs (runCommand command) events result ↔
      (CommandRan command events ∧ result = .ok command.isSome) ∨
        ∃ failure, CommandFailed command events failure ∧ result = .error (.editor failure) := by
  cases command with
  | none =>
    rw [runCommand, Flow.runs_pure]
    constructor
    · rintro ⟨rfl, rfl⟩
      exact .inl ⟨.absent, rfl⟩
    · rintro (⟨⟨⟩, rfl⟩ | ⟨failure, ⟨⟩, rfl⟩)
      exact ⟨rfl, rfl⟩
  | some command =>
    constructor
    · intro h
      obtain ⟨reply, rest, rfl, hreply⟩ := Program.runs_ask.mp h
      cases reply with
      | error failure =>
        obtain ⟨rfl, rfl⟩ := Program.runs_done.mp hreply
        exact .inr ⟨failure, .failed, rfl⟩
      | ok reply =>
        obtain ⟨rfl, rfl⟩ := Program.runs_done.mp hreply
        exact .inl ⟨.ran, rfl⟩
    · rintro (⟨⟨⟩, rfl⟩ | ⟨failure, ⟨⟩, rfl⟩)
      · exact .ask (.done _)
      · exact .ask (.done _)

/-- The edit and then the command, when there is no error message. -/
theorem runs_edit_command {sent : RefactoringResult} (hmessage : sent.errorMessage = none)
    {result : Except Problem Outcome} :
    Flow.Runs (do
        let edited ← applyEdit saving sent.edit
        let ran ← runCommand sent.command
        return if edited || ran then .applied else .nothingToDo) events result ↔
      CarriesOut saving (some sent) events result := by
  rw [Flow.runs_bind]
  constructor
  · rintro (⟨problem, h, rfl⟩ | ⟨edited, later, value, rfl, h, hrest⟩)
    · rcases runs_applyEdit.mp h with ⟨-, hvalue⟩ | ⟨_, hedit, hproblem⟩
      · cases hvalue
      · cases hproblem
        exact .unedited hmessage hedit
    · rcases runs_applyEdit.mp h with ⟨hedit, hvalue⟩ | ⟨_, -, hproblem⟩
      · cases hvalue
        rcases Flow.runs_bind.mp hrest with
          ⟨problem, hcommand, rfl⟩ | ⟨ran, last, value, rfl, hcommand, hlast⟩
        · rcases runs_runCommand.mp hcommand with ⟨-, hvalue⟩ | ⟨failure, hfailed, hproblem⟩
          · cases hvalue
          · cases hproblem
            exact .uncommanded hmessage hedit hfailed
        · rcases runs_runCommand.mp hcommand with ⟨hran, hvalue⟩ | ⟨_, -, hproblem⟩
          · cases hvalue
            obtain ⟨rfl, rfl⟩ := Flow.runs_pure.mp hlast
            rw [List.append_nil]
            exact .completed hmessage hedit hran
          · cases hproblem
      · cases hproblem
  · intro h
    cases h with
    | refused h =>
      rw [hmessage] at h
      cases h
    | unedited _ hedit => exact .inl ⟨_, runs_applyEdit.mpr (.inr ⟨_, hedit, rfl⟩), rfl⟩
    | uncommanded _ hedit hfailed =>
      exact .inr ⟨_, _, _, rfl, runs_applyEdit.mpr (.inl ⟨hedit, rfl⟩),
        Flow.runs_bind.mpr (.inl ⟨_, runs_runCommand.mpr (.inr ⟨_, hfailed, rfl⟩), rfl⟩)⟩
    | @completed _ edited ran _ hedit hran =>
      exact .inr ⟨edited, ran, _, rfl, runs_applyEdit.mpr (.inl ⟨hedit, rfl⟩),
        Flow.runs_bind.mpr (.inr ⟨ran, [], _, by simp, runs_runCommand.mpr (.inl ⟨hran, rfl⟩),
          Flow.runs_pure.mpr ⟨rfl, rfl⟩⟩)⟩

/-- Results are carried out as described, and whatever is described can happen. -/
theorem runs_carryOut {sent : Option RefactoringResult} {result : Except Problem Outcome} :
    Flow.Runs (carryOut saving sent) events result ↔ CarriesOut saving sent events result := by
  cases sent with
  | none =>
    rw [carryOut, Flow.runs_pure]
    constructor
    · rintro ⟨rfl, rfl⟩
      exact .nothing
    · rintro ⟨⟩
      exact ⟨rfl, rfl⟩
  | some sent =>
    rw [carryOut, RefactoringResult.carryOut]
    cases hmessage : sent.errorMessage with
    | none => exact runs_edit_command hmessage
    | some message =>
      constructor
      · intro h
        obtain ⟨rfl, rfl⟩ := Flow.runs_report.mp h
        exact .refused hmessage
      · intro h
        cases h with
        | refused h =>
          obtain rfl := Option.some.inj (hmessage.symm.trans h)
          exact .ask (.done _)
        | unedited h => exact absurd (hmessage.symm.trans h) nofun
        | uncommanded h => exact absurd (hmessage.symm.trans h) nofun
        | completed h => exact absurd (hmessage.symm.trans h) nofun

end Runs

/-! ## Which calls these are -/

/-- The calls that carry out a result. -/
def Call.concludes : Call → Bool
  | showError _ | applyEdit _ | openDocument _ | saveDocument _ | runCommand _ _ => true
  | _ => false

section Concluding

variable {edit : Option WorkspaceEdit} {command : Option Command} {events : List CallEvent}

theorem SaveAttempts.concludes {uris : List Uri} (h : SaveAttempts uris events) :
    ∀ event ∈ events, event.1.concludes := by
  induction h with
  | done => simp
  | next hfirst _ ih =>
    rw [List.forall_mem_append]
    refine ⟨?_, ih⟩
    cases hfirst <;> simp [Call.concludes]

theorem EditAccepted.concludes {saving : Bool} (h : EditAccepted saving edit events) :
    ∀ event ∈ events, event.1.concludes := by
  cases h with
  | absent => simp
  | unsaved => simp [Call.concludes]
  | saved hsaves =>
    rw [List.forall_mem_cons]
    exact ⟨rfl, hsaves.concludes⟩

theorem EditRefused.concludes {problem : Problem} (h : EditRefused edit events problem) :
    ∀ event ∈ events, event.1.concludes := by
  cases h <;> simp [Call.concludes]

theorem CommandRan.concludes (h : CommandRan command events) :
    ∀ event ∈ events, event.1.concludes := by
  cases h <;> simp [Call.concludes]

theorem CommandFailed.concludes {failure : Failure} (h : CommandFailed command events failure) :
    ∀ event ∈ events, event.1.concludes := by
  cases h
  simp [Call.concludes]

theorem CarriesOut.concludes {saving : Bool} {sent : Option RefactoringResult}
    {result : Except Problem Outcome} (h : CarriesOut saving sent events result) :
    ∀ event ∈ events, event.1.concludes := by
  cases h with
  | nothing => simp
  | refused => simp [Call.concludes]
  | unedited _ hedit => exact hedit.concludes
  | uncommanded _ hedit hfailed =>
    exact List.forall_mem_append.mpr ⟨hedit.concludes, hfailed.concludes⟩
  | completed _ hedit hran =>
    exact List.forall_mem_append.mpr ⟨hedit.concludes, hran.concludes⟩

/-- Nothing else is called to carry out a result. -/
theorem concludes_carryOut (saving : Bool) (sent : Option RefactoringResult) :
    (carryOut saving sent).Within fun call => call.concludes :=
  fun _ _ h => (runs_carryOut.mp h).concludes

end Concluding
end Refactoring
