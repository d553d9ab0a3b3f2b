import Refactoring.Proofs.Edit.Events
import Refactoring.Proofs.Flow.Errands
import Refactoring.Proofs.Flow.Requests

/-!
# When documents are saved

Every run of a service either ends before the server has sent a result, and then nothing is edited
or saved, or it carries out the one result that it has received.  Only moves to a package save what
the result touched.
-/

namespace Refactoring

open Refactoring.Flow (Runs)

/-! ## Receiving a result -/

/-- What the server has sent for a refactoring in its reply to a call. -/
def received? : CallEvent → Option (Option RefactoringResult)
  | ⟨.refactorEdit _, .ok sent⟩ => some sent
  | ⟨.move _, .ok sent⟩ => some sent
  | _ => none

/-- A result is received in reply to a call that commits the server, and only then. -/
theorem received?_eq_none {event : CallEvent} (h : event.1.role ≠ .committing) :
    received? event = none := by
  obtain ⟨call, reply⟩ := event
  cases call with
  | refactorEdit | move => exact absurd rfl h
  | _ => rfl

/-- These calls end with the one that the server has sent a result in reply to. -/
inductive Receives : List CallEvent → Option RefactoringResult → Prop
  | mk {earlier : List CallEvent} {event : CallEvent} {sent : Option RefactoringResult}
      (hearlier : ∀ other ∈ earlier, other.1.role = .consulting ∨ other.1.role = .choosing)
      (hsent : received? event = some sent) :
      Receives (earlier ++ [event]) sent

theorem Receives.single {event : CallEvent} {sent : Option RefactoringResult}
    (h : received? event = some sent) : Receives [event] sent :=
  @Receives.mk [] event sent (by simp) h

theorem Receives.after {passed before : List CallEvent} {sent : Option RefactoringResult}
    (hpassed : ∀ event ∈ passed, event.1.role = .consulting ∨ event.1.role = .choosing)
    (h : Receives before sent) :
    Receives (passed ++ before) sent := by
  cases h with
  | mk hearlier hsent =>
    rw [← List.append_assoc]
    exact .mk (List.forall_mem_append.mpr ⟨hpassed, hearlier⟩) hsent

/-- A dialogue of one call, in reply to which the server sends a result. -/
def AsksForResult (dialogue : Dialogue (Except Failure (Option RefactoringResult))) : Prop :=
  ∀ events reply, Program.Runs dialogue events reply →
    ∃ event, events = [event] ∧ event.1.role = .committing ∧ received? event = reply.toOption

theorem asksForResult_move (request : MoveRequest) : AsksForResult (ask (.move request)) := by
  intro events reply h
  obtain rfl := Program.runs_request.mp h
  exact ⟨_, rfl, rfl, by cases reply <;> rfl⟩

theorem asksForResult_refactorEdit (request : EditRequest) :
    AsksForResult (ask (.refactorEdit request)) := by
  intro events reply h
  obtain rfl := Program.runs_request.mp h
  exact ⟨_, rfl, rfl, by cases reply <;> rfl⟩

/-- Without a result a flow ends in the failure of the call for it; with a result it goes on in any
way in which that can be carried out. -/
theorem runs_received {dialogue : Dialogue (Except Failure (Option RefactoringResult))}
    (h : AsksForResult dialogue) {saving : Bool} {events : List CallEvent}
    {result : Except Problem Outcome}
    (hruns : Runs (Flow.server dialogue >>= carryOut saving) events result) :
    ∃ event, event.1.role = .committing ∧
      ((∃ failure, events = [event] ∧ received? event = none ∧
          result = .error (.transport failure)) ∨
        ∃ sent after, events = event :: after ∧ received? event = some sent ∧
          CarriesOut saving sent after result ∧
          ∀ after' result', CarriesOut saving sent after' result' →
            Runs (Flow.server dialogue >>= carryOut saving) (event :: after') result') := by
  rcases Flow.runs_bind.mp hruns with
    ⟨problem, hfirst, rfl⟩ | ⟨before, after, sent, rfl, hfirst, hrest⟩
  · obtain ⟨reply, hreply, hproblem⟩ := Flow.runs_orElse.mp hfirst
    obtain ⟨event, rfl, hrole, hreceived⟩ := h events reply hreply
    cases reply with
    | ok sent => cases hproblem
    | error failure =>
      cases hproblem
      exact ⟨event, hrole, .inl ⟨failure, rfl, hreceived, rfl⟩⟩
  · obtain ⟨reply, hreply, hsent⟩ := Flow.runs_orElse.mp hfirst
    obtain ⟨event, rfl, hrole, hreceived⟩ := h before reply hreply
    cases reply with
    | error failure => cases hsent
    | ok sent =>
      cases hsent
      exact ⟨event, hrole, .inr ⟨sent, after, rfl, hreceived, runs_carryOut.mp hrest,
        fun after' result' hcarries => Flow.runs_bind.mpr (.inr ⟨[event], after', sent, rfl, hfirst,
          runs_carryOut.mpr hcarries⟩)⟩⟩

/-- These calls end before the server has sent a result. -/
def Unreceived (events : List CallEvent) : Prop :=
  ∀ event ∈ events,
    received? event = none ∧ event.1.role ≠ .presenting ∧ event.1.role ≠ .changing

theorem unreceived_of_prepares {events : List CallEvent}
    (h : ∀ event ∈ events, event.1.role = .consulting ∨ event.1.role = .choosing) :
    Unreceived events := by
  intro event hevent
  rcases h event hevent with hrole | hrole
  all_goals
    refine ⟨received?_eq_none ?_, ?_⟩
    · rw [hrole]
      nofun
    · rw [hrole]
      exact ⟨nofun, nofun⟩

/-- A flow that carries out the result that it receives, in any way that this can go. -/
def Flow.Settles (saving : Bool) (flow : Flow Outcome) : Prop :=
  ∀ events result, Runs flow events result →
    Unreceived events ∨ ∃ before sent after, events = before ++ after ∧ Receives before sent ∧
      CarriesOut saving sent after result ∧
      ∀ after' result', CarriesOut saving sent after' result' →
        Runs flow (before ++ after') result'

namespace Flow.Settles

variable {α : Type} {saving : Bool} {query : Option MoveRequest}

/-- A flow that stops on the way to the server. -/
theorem of_prepares {flow : Flow Outcome} (h : flow.Within (Call.Prepares query)) :
    Settles saving flow := fun events result hruns =>
  .inl (unreceived_of_prepares fun event hevent => (h events result hruns event hevent).role_eq)

theorem bind {flow : Flow α} {next : α → Flow Outcome} (h : flow.Within (Call.Prepares query))
    (hnext : ∀ value, Settles saving (next value)) : Settles saving (flow >>= next) := by
  intro events result hruns
  have hroles {passed} {value} (hfirst : Runs flow passed value) (event) (hevent : event ∈ passed) :
      event.1.role = .consulting ∨ event.1.role = .choosing :=
    (h passed value hfirst event hevent).role_eq
  rcases runs_bind.mp hruns with ⟨problem, hfirst, rfl⟩ | ⟨passed, rest, value, rfl, hfirst, hrest⟩
  · exact .inl (unreceived_of_prepares (hroles hfirst))
  · rcases hnext value rest result hrest with
      hearly | ⟨before, sent, after, rfl, hreceives, hcarries, hall⟩
    · have hpassed := unreceived_of_prepares (hroles hfirst)
      exact .inl (List.forall_mem_append.mpr ⟨hpassed, hearly⟩)
    · refine .inr ⟨passed ++ before, sent, after, by rw [List.append_assoc],
        hreceives.after (hroles hfirst), hcarries, fun after' result' hcarries' => ?_⟩
      rw [List.append_assoc]
      exact runs_bind.mpr (.inr ⟨passed, before ++ after', value, rfl, hfirst,
        hall after' result' hcarries'⟩)

/-- A flow that asks the server for a result carries it out. -/
theorem received {dialogue : Dialogue (Except Failure (Option RefactoringResult))}
    (h : AsksForResult dialogue) : Settles saving (Flow.server dialogue >>= carryOut saving) := by
  intro events result hruns
  obtain ⟨event, hrole, ⟨failure, rfl, hnone, -⟩ | ⟨sent, after, rfl, hsent, hcarries, hall⟩⟩ :=
    runs_received h hruns
  · left
    intro other hother
    obtain rfl := List.mem_singleton.mp hother
    rw [hrole]
    exact ⟨hnone, nofun, nofun⟩
  · exact .inr ⟨[event], sent, after, rfl, .single hsent, hcarries, hall⟩

theorem commit (saving : Bool) (request : MoveRequest) :
    Settles saving (request.commit saving) := received (asksForResult_move request)

theorem edit (saving : Bool) (request : EditRequest) :
    Settles saving (Flow.server (ask (.refactorEdit request)) >>= carryOut saving) :=
  received (asksForResult_refactorEdit request)

end Flow.Settles

/-- A flow that asks for one result settles on what becomes of it. -/
theorem Flow.Requests.settles {saving : Bool} {query : Option MoveRequest} {good : Call → Prop}
    {flow : Flow Outcome} (h : flow.Requests saving query good) : flow.Settles saving := by
  induction h with
  | stops h => exact .of_prepares h
  | prepares hfirst _ ih => exact .bind hfirst ih
  | moves => exact .commit saving _
  | edits => exact .edit saving _

/-! ## Services -/

/-- Whether what an errand touches is saved. -/
def Errand.saves : Errand → Bool
  | moveFiles _ | moveTypeToPackage _ _ => true
  | carryOut saving _ => saving
  | _ => false

/-- How an errand comes by a result: it is given with the errand, or the server sends it. -/
inductive Errand.Obtains : Errand → List CallEvent → Option RefactoringResult → Prop
  | given {saving : Bool} {sent : Option RefactoringResult} :
      Obtains (.carryOut saving sent) [] sent
  | received {errand : Errand} {before : List CallEvent} {sent : Option RefactoringResult}
      (h : Receives before sent) : Obtains errand before sent

/-- These calls end before there is a result.  A rename goes on in the host, and there is none. -/
def Errand.EndsEarly (errand : Errand) (events : List CallEvent) : Prop :=
  ∀ event ∈ events, received? event = none ∧ event.1.role ≠ .changing ∧
    (event.1.role = .presenting → ∃ position, errand = .rename position)

theorem Unreceived.endsEarly {events : List CallEvent} (h : Unreceived events) (errand : Errand) :
    errand.EndsEarly events := by
  intro event hevent
  obtain ⟨hreceived, hpresents, hchanges⟩ := h event hevent
  exact ⟨hreceived, hchanges, fun hrole => absurd hrole hpresents⟩

/-- An errand that a move of a type comes to. -/
theorem TypeDestination.settles (destination : TypeDestination) (selection : Selection)
    (info : CommandInfo) :
    (destination.errand selection info).flow.Settles (destination.errand selection info).saves := by
  cases destination with
  | newFile => exact (requests_computeAndApply _ selection info).settles
  | package => exact (requests_moveTypeToPackage selection info).settles
  | insideClass => exact (requests_moveTypeToClass selection info).settles

/-- A run of an errand that carries out a result: it shows what the errand comes to, it comes by the
result, and then it makes the calls for the result, which can go in any way. -/
def Errand.Completes (errand : Errand) (events : List CallEvent)
    (result : Except Problem Outcome) : Prop :=
  ∃ real choice before sent after, events = choice ++ before ++ after ∧
    errand.ComesTo choice real ∧ real.Obtains before sent ∧
    CarriesOut real.saves sent after result ∧
    ∀ after' result', CarriesOut real.saves sent after' result' →
      Runs errand.flow (choice ++ before ++ after') result'

variable {events : List CallEvent} {result : Except Problem Outcome}

theorem Flow.Settles.completes {errand : Errand} (hsame : errand.ComesTo [] errand)
    (hsettles : errand.flow.Settles errand.saves) (h : Runs errand.flow events result) :
    errand.EndsEarly events ∨ errand.Completes events result := by
  rcases hsettles events result h with hearly | ⟨before, sent, after, rfl, hreceives, hcarries, hall⟩
  · exact .inl (hearly.endsEarly errand)
  · exact .inr ⟨errand, [], before, sent, after, rfl, hsame, .received hreceives, hcarries, hall⟩

theorem moveType_completes {selection : Selection} {info : CommandInfo}
    (h : Runs (moveType selection info) events result) :
    (Errand.moveType selection info).EndsEarly events ∨
      (Errand.moveType selection info).Completes events result := by
  have hchoice (reply) : Unreceived [info.typeChoice reply] := by
    refine unreceived_of_prepares fun event hevent => ?_
    obtain rfl := List.mem_singleton.mp hevent
    exact .inr rfl
  rcases runs_moveType h with rfl | ⟨reply, -, rfl⟩ | ⟨i, destination, rest, hi, rfl, hrest⟩
  · exact .inl (List.forall_mem_nil _)
  · exact .inl ((hchoice reply).endsEarly _)
  · rcases destination.settles selection info rest result hrest with
      hearly | ⟨before, sent, after, rfl, hreceives, hcarries, hall⟩
    · have hchosen := hchoice (.ok (some i))
      exact .inl (Unreceived.endsEarly (List.forall_mem_append.mpr ⟨hchosen, hearly⟩) _)
    · refine .inr ⟨destination.errand selection info, [info.typeChoice (.ok (some i))], before, sent,
        after, rfl, ⟨i, destination, hi, rfl, rfl⟩, .received hreceives, hcarries, ?_⟩
      exact fun after' result' hcarries' => runs_moveType_of_choice hi (hall after' result' hcarries')

theorem Errand.completes {errand : Errand} (h : Runs errand.flow events result) :
    errand.EndsEarly events ∨ errand.Completes events result := by
  cases errand with
  | ended value =>
    have hstops : Flow.Within (Call.Prepares none) (Errand.flow (.ended value)) := .mk_pure value
    exact (Flow.Settles.of_prepares hstops).completes ⟨rfl, rfl⟩ h
  | moveFiles uris => exact (requests_moveFiles uris).settles.completes ⟨rfl, rfl⟩ h
  | moveInstanceMethod selection info =>
    exact (requests_moveInstanceMethod selection info).settles.completes ⟨rfl, rfl⟩ h
  | moveStaticMember selection info =>
    exact (requests_moveStaticMember selection info).settles.completes ⟨rfl, rfl⟩ h
  | moveTypeToPackage selection info =>
    exact (requests_moveTypeToPackage selection info).settles.completes ⟨rfl, rfl⟩ h
  | moveTypeToClass selection info =>
    exact (requests_moveTypeToClass selection info).settles.completes ⟨rfl, rfl⟩ h
  | edit kind selection info =>
    exact (requests_computeAndApply kind selection info).settles.completes ⟨rfl, rfl⟩ h
  | moveType selection info => exact moveType_completes h
  | rename position =>
    left
    intro event hevent
    have hrole := presents_rename position events result h event hevent
    refine ⟨received?_eq_none ?_, ?_, fun _ => ⟨position, rfl⟩⟩
    · rw [hrole]
      nofun
    · rw [hrole]
      nofun
  | carryOut saving sent =>
    exact .inr ⟨.carryOut saving sent, [], [], sent, events, rfl, ⟨rfl, rfl⟩, .given,
      runs_carryOut.mp h, fun after' result' hcarries => runs_carryOut.mpr hcarries⟩

/-- A run of a service either ends early, and nothing has been edited or saved, or it carries out a
result that it has come by.  What it then does depends on the result and the replies alone: it shows
the error message and does nothing else, or has the edit applied; if that is accepted and the errand
moves files or a type to a package, it tries to save each document that the edit touched, once and
in order; and then it runs the command. -/
theorem Service.endsEarly_or_carriesOut {service : Service} (h : Runs service.flow events result) :
    service.errand.EndsEarly events ∨
      ∃ errand choice before sent after, events = choice ++ before ++ after ∧
        service.errand.ComesTo choice errand ∧ errand.Obtains before sent ∧
        CarriesOut errand.saves sent after result ∧
        (∀ after' result', CarriesOut errand.saves sent after' result' →
          Runs service.flow (choice ++ before ++ after') result') ∧
        ∀ edit ∈ sent.bind RefactoringResult.edit, edit.touched.Nodup := by
  rw [service.flow_eq] at h ⊢
  rcases Errand.completes h with
    hearly | ⟨errand, choice, before, sent, after, hevents, hcomes, hobtains, hcarries, hall⟩
  · exact .inl hearly
  · exact .inr ⟨errand, choice, before, sent, after, hevents, hcomes, hobtains, hcarries, hall,
      fun edit _ => edit.nodup_touched⟩

/-- A package that has a path but no URI. -/
def packageWithPath : PackageNode := ⟨"b", none, some "b", none, false, false⟩

/-- A file is renamed, and another one is edited. -/
def renameAndEdit : WorkspaceEdit where
  changes := none
  documentChanges := some (.operations [
    .operation (.rename (.localResource ["A"]) (.localResource ["b", "A"]) none none),
    .edit ⟨.localResource ["C"], none, []⟩])
  annotations := none

/-- What the server sends for the move: the edit and a command. -/
def editAndCommand : RefactoringResult :=
  ⟨some renameAndEdit, some ⟨"Title", "command", none⟩, none⟩

/-- A file moves to a package.  The host does not save it, cannot open the other document, and fails
to run the command. -/
def moveToPackage : List CallEvent :=
  let query := filesQuery [.localResource ["A"]]
  [⟨.moveDestinations query, .ok (some ⟨none, [.package packageWithPath]⟩)⟩,
    ⟨.pick [packageWithPath.row (some "b")] (filesPlaceholder [.localResource ["A"]]),
      .ok (some 0)⟩,
    ⟨.move (query.withDestination (.package packageWithPath)).updatingReferences,
      .ok (some editAndCommand)⟩,
    ⟨.applyEdit renameAndEdit, .ok true⟩,
    ⟨.openDocument (.localResource ["b", "A"]), .ok (some ⟨.localResource ["b", "A"], ""⟩)⟩,
    ⟨.saveDocument (.localResource ["b", "A"]), .ok false⟩,
    ⟨.openDocument (.localResource ["C"]), .ok none⟩,
    ⟨.runCommand "command" [], .error (.of "failed")⟩]

theorem runs_moveToPackage : Runs (Service.flow (.moveFiles [.localResource ["A"]])) moveToPackage
    (.error (.editor (.of "failed"))) := by
  have htouched : renameAndEdit.touched = [.localResource ["b", "A"], .localResource ["C"]] := by
    decide +kernel
  have hsaves : SaveAttempts renameAndEdit.touched ((moveToPackage.drop 4).take 3) := by
    rw [htouched]
    exact .next .made (.next .missing .done)
  have hcommand : CommandFailed editAndCommand.command (moveToPackage.drop 7) (.of "failed") :=
    .failed
  exact .ask (.ask (.ask (runs_carryOut.mpr
    (@CarriesOut.uncommanded true editAndCommand _ _ _ rfl (.saved hsaves) hcommand))))

/-- The failure of the command comes after the edit and the attempts to save. -/
theorem Service.carriesOut_moveToPackage :
    Runs (Service.flow (.moveFiles [.localResource ["A"]])) moveToPackage
        (.error (.editor (.of "failed"))) ∧
      ∃ before sent after, moveToPackage = before ++ after ∧ Receives before sent ∧
        CarriesOut true sent after (.error (.editor (.of "failed"))) := by
  refine ⟨runs_moveToPackage, ?_⟩
  rcases Service.endsEarly_or_carriesOut runs_moveToPackage with
    hearly | ⟨errand, choice, before, sent, after, hevents, hcomes, hobtains, hcarries, -⟩
  · have hchanges := hearly ⟨.applyEdit renameAndEdit, .ok true⟩ (by simp [moveToPackage])
    exact absurd rfl hchanges.2.1
  · obtain ⟨rfl, rfl⟩ := hcomes
    cases hobtains with
    | received hreceives => exact ⟨before, sent, after, hevents, hreceives, hcarries⟩

end Refactoring
