import Refactoring.Proofs.Flow.Errands
import Refactoring.Proofs.Flow.Requests

/-!
# What is asked to choose from

Before something moves, the server is asked where it can move to.  A flow asks so once at most: what
comes before the query asks for nothing, and so does what comes behind it.
-/

namespace Refactoring

open Refactoring.Flow (Runs)

/-- A call that asks the server what there is to choose from. -/
def Call.isQuery : Call → Bool
  | moveDestinations _ | searchSymbols _ => true
  | _ => false

/-- What the server was asked to choose from, in order. -/
def queries (events : List CallEvent) : List Call := (events.map (·.1)).filter Call.isQuery

section Lists

variable {events later : List CallEvent}

@[simp] theorem queries_append : queries (events ++ later) = queries events ++ queries later := by
  rw [queries, List.map_append, List.filter_append]
  rfl

theorem queries_eq_nil (h : ∀ event ∈ events, event.1.isQuery = false) : queries events = [] := by
  rw [queries, List.filter_eq_nil_iff]
  intro call hcall
  obtain ⟨event, hevent, rfl⟩ := List.mem_map.mp hcall
  simp [h event hevent]

end Lists

/-! ## One query -/

theorem Call.not_isQuery_of_concludes {call : Call} (h : call.concludes) :
    call.isQuery = false := by
  cases call with
  | showError | applyEdit | openDocument | saveDocument | runCommand => rfl
  | _ => cases h

/-- A flow that asks for nothing to choose from. -/
abbrev Flow.QueriesNothing {α : Type} (flow : Flow α) : Prop :=
  flow.Within fun call => call.isQuery = false

/-- A flow that asks once at most what there is to choose from. -/
def Flow.QueriesOnce {α : Type} (flow : Flow α) : Prop :=
  ∀ events result, Runs flow events result → (queries events).length ≤ 1

namespace Flow.QueriesOnce

variable {α β : Type}

theorem of_nothing {flow : Flow α} (h : flow.QueriesNothing) : flow.QueriesOnce := by
  intro events result hruns
  rw [queries_eq_nil (h events result hruns)]
  exact Nat.zero_le 1

/-- One request to the server. -/
theorem server (call : Call) {dialogue : Dialogue (Except Failure α)}
    (h : ∀ events reply, Program.Runs dialogue events reply → events.map (·.1) = [call]) :
    (Flow.server dialogue).QueriesOnce := by
  intro events result hruns
  obtain ⟨reply, hreply, -⟩ := runs_orElse.mp hruns
  rw [queries, h events reply hreply]
  exact List.length_filter_le _ _

/-- What comes behind the query asks for nothing more. -/
theorem bind_nothing {first : Flow α} {next : α → Flow β} (h : first.QueriesOnce)
    (hnext : ∀ value, (next value).QueriesNothing) : (first >>= next).QueriesOnce := by
  intro events result hruns
  rcases runs_bind.mp hruns with ⟨problem, hfirst, rfl⟩ | ⟨before, after, value, rfl, hfirst, hrest⟩
  · exact h events _ hfirst
  · rw [queries_append, queries_eq_nil (hnext value after result hrest), List.append_nil]
    exact h before _ hfirst

/-- What comes before the query asks for nothing. -/
theorem nothing_bind {first : Flow α} {next : α → Flow β} (h : first.QueriesNothing)
    (hnext : ∀ value, (next value).QueriesOnce) : (first >>= next).QueriesOnce := by
  intro events result hruns
  rcases runs_bind.mp hruns with ⟨problem, hfirst, rfl⟩ | ⟨before, after, value, rfl, hfirst, hrest⟩
  · exact of_nothing h events _ hfirst
  · rw [queries_append, queries_eq_nil (h before _ hfirst), List.nil_append]
    exact hnext value after result hrest

end Flow.QueriesOnce

open Refactoring.Flow (QueriesNothing QueriesOnce)

theorem queriesNothing_carryOut (saving : Bool) (sent : Option RefactoringResult) :
    QueriesNothing (carryOut saving sent) :=
  (concludes_carryOut saving sent).mono fun _ => Call.not_isQuery_of_concludes

theorem queriesNothing_commit (saving : Bool) (request : MoveRequest) :
    QueriesNothing (request.commit saving) :=
  .bind (.orElse (.ask rfl)) fun sent => queriesNothing_carryOut saving sent

theorem queriesNothing_report_bind {α β : Type} (problem : Problem) (next : α → Flow β) :
    QueriesNothing (Flow.report problem >>= next) :=
  .report_bind (by rfl) next

theorem queriesOnce_offered {α : Type} (query : MoveRequest) (shape : Destination → Option α)
    (whenEmpty : String) : QueriesOnce (offered query shape whenEmpty) := by
  refine .bind_nothing (.server (.moveDestinations query) fun events reply h => ?_) fun offer => ?_
  · rw [Program.runs_request.mp h]
    rfl
  · refine .bind (within_orReport (fun _ => rfl) whenEmpty _) fun destinations => ?_
    by_cases hempty : (destinations.filterMap shape).isEmpty
    · rw [if_pos hempty]
      exact queriesNothing_report_bind _ _
    · rw [if_neg hempty]
      exact .pure _

theorem queriesOnce_pickPackage (query : MoveRequest) (question : String) :
    QueriesOnce (pickPackage query question) := by
  refine .bind_nothing (queriesOnce_offered _ _ _) fun packages => ?_
  refine .bind (.lift (within_withPlaces (fun _ => rfl) packages)) fun places => ?_
  exact .bind (.choose rfl) fun choice => .pure _

theorem queriesOnce_selectTargetClass (question : String) (excluded : List String)
    (project : Option String) : QueriesOnce (selectTargetClass question excluded project) := by
  refine .bind_nothing (.server (.searchSymbols (allSymbols project)) fun events reply h => ?_)
    fun symbols => ?_
  · rw [Program.runs_request.mp h]
    rfl
  · dsimp only
    split
    · exact queriesNothing_report_bind _ _
    · exact .choose rfl

theorem queriesOnce_moveFiles (uris : List Uri) : QueriesOnce (moveFiles uris) := by
  unfold moveFiles
  cases Uri.haveCommonParent uris with
  | false => exact .of_nothing (queriesNothing_report_bind _ _)
  | true =>
    refine .bind_nothing (queriesOnce_pickPackage _ _) fun choice => ?_
    cases choice with
    | none => exact .pure _
    | some package =>
      refine .bind (.lift (within_movable? (fun _ => rfl) (fun _ => rfl) package uris))
        fun moving => ?_
      cases moving with
      | none => exact .pure _
      | some moving => exact queriesNothing_commit _ _

theorem queriesOnce_moveTypeToPackage (selection : Selection) (info : CommandInfo) :
    QueriesOnce (moveTypeToPackage selection info) := by
  refine .bind_nothing (queriesOnce_pickPackage _ _) fun choice => ?_
  cases choice with
  | none => exact .pure _
  | some package => exact queriesNothing_commit _ _

theorem queriesOnce_moveInstanceMethod (selection : Selection) (info : CommandInfo) :
    QueriesOnce (moveInstanceMethod selection info) := by
  refine .bind_nothing (queriesOnce_offered _ _ _) fun targets => ?_
  refine .bind (.choose rfl) fun choice => ?_
  cases choice with
  | none => exact .pure _
  | some target => exact queriesNothing_commit _ _

theorem queriesOnce_moveStaticMember (selection : Selection) (info : CommandInfo) :
    QueriesOnce (moveStaticMember selection info) := by
  refine .bind_nothing (queriesOnce_selectTargetClass _ _ _) fun choice => ?_
  cases choice with
  | none => exact .pure _
  | some target => exact queriesNothing_commit _ _

theorem queriesOnce_moveTypeToClass (selection : Selection) (info : CommandInfo) :
    QueriesOnce (moveTypeToClass selection info) := by
  refine .bind_nothing (queriesOnce_selectTargetClass _ _ _) fun choice => ?_
  cases choice with
  | none => exact .pure _
  | some target => exact queriesNothing_commit _ _

theorem queriesNothing_initializationScope (kind : RefactoringKind) (info : CommandInfo) :
    QueriesNothing (initializationScope kind info) := by
  unfold initializationScope
  cases kind.introducesField with
  | false => exact .pure _
  | true =>
    rcases info.initializedScopes.getD [] with _ | ⟨scope, _ | ⟨other, scopes⟩⟩
    · exact .pure _
    · exact .pure _
    · exact .bind (.choose rfl) fun choice => .pure _

theorem queriesNothing_computeAndApply (kind : RefactoringKind) (selection : Selection)
    (info : CommandInfo) : QueriesNothing (computeAndApply kind selection info) := by
  refine .bind (.lift (.ask rfl)) fun options => ?_
  cases options with
  | none => exact .throw _
  | some options =>
    refine .bind (queriesNothing_initializationScope kind info) fun arguments => ?_
    cases arguments with
    | none => exact .pure _
    | some arguments => exact .bind (.orElse (.ask rfl)) fun sent => queriesNothing_carryOut _ sent

theorem TypeDestination.queriesOnce (destination : TypeDestination) (selection : Selection)
    (info : CommandInfo) : QueriesOnce (destination.errand selection info).flow := by
  cases destination with
  | newFile => exact .of_nothing (queriesNothing_computeAndApply _ selection info)
  | package => exact queriesOnce_moveTypeToPackage selection info
  | insideClass => exact queriesOnce_moveTypeToClass selection info

theorem queriesOnce_moveType (selection : Selection) (info : CommandInfo) :
    QueriesOnce (moveType selection info) := by
  rw [moveType_eq]
  split
  · exact .of_nothing (.pure _)
  · refine .nothing_bind (.choose rfl) fun choice => ?_
    cases choice with
    | none => exact .of_nothing (.pure _)
    | some destination => exact destination.queriesOnce selection info

theorem Errand.queriesOnce (errand : Errand) : QueriesOnce errand.flow := by
  cases errand with
  | ended result => exact .of_nothing (.mk_pure result)
  | moveFiles uris => exact queriesOnce_moveFiles uris
  | moveInstanceMethod selection info => exact queriesOnce_moveInstanceMethod selection info
  | moveStaticMember selection info => exact queriesOnce_moveStaticMember selection info
  | moveTypeToPackage selection info => exact queriesOnce_moveTypeToPackage selection info
  | moveTypeToClass selection info => exact queriesOnce_moveTypeToClass selection info
  | moveType selection info => exact queriesOnce_moveType selection info
  | edit kind selection info =>
    exact .of_nothing (queriesNothing_computeAndApply kind selection info)
  | rename position =>
    refine .of_nothing ((presents_rename position).mono fun call hrole => ?_)
    cases call with
    | moveDestinations | searchSymbols => cases hrole
    | _ => rfl
  | carryOut saving sent => exact .of_nothing (queriesNothing_carryOut saving sent)

end Refactoring
