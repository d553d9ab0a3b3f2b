import Refactoring.Proofs.Flow.Results

/-!
# Flows that ask for one result

On its way to the server a flow consults the server and the host and lets the user choose.  Then it
asks the server for one result and carries it out.
-/

namespace Refactoring

open Refactoring.Flow (Runs)

/-! ## Consulting -/

/-- A call that only consults and asks for no destinations but those of a query. -/
def Call.Consults (query : Option MoveRequest) : Call → Prop
  | moveDestinations other => query = some other
  | call => call.role = .consulting

theorem Call.consults_showError (query : Option MoveRequest) (message : String) :
    (Call.showError message).Consults query := rfl

theorem Call.Consults.role_eq {query : Option MoveRequest} {call : Call} (h : call.Consults query) :
    call.role = .consulting := by
  cases call with
  | moveDestinations other => rfl
  | _ => exact h

section Consulting

variable (query : Option MoveRequest)

theorem consults_offered {α : Type} (query : MoveRequest) (shape : Destination → Option α)
    (whenEmpty : String) : (offered query shape whenEmpty).Within (Call.Consults (some query)) :=
  within_offered (by rfl) (Call.consults_showError _) shape whenEmpty

theorem consults_withPlaces (nodes : List PackageNode) :
    Within (Call.Consults query) (withPlaces nodes) :=
  within_withPlaces (fun _ => rfl) nodes

theorem consults_movable? (package : PackageNode) (uris : List Uri) :
    Within (Call.Consults query) (movable? package uris) :=
  within_movable? (fun _ => rfl) (fun _ => rfl) package uris

end Consulting

/-! ## Preparing -/

/-- A call on the way to a result: it consults someone, or it has the user choose. -/
def Call.Prepares (query : Option MoveRequest) (call : Call) : Prop :=
  call.Consults query ∨ call.role = .choosing

theorem Call.Prepares.role_eq {query : Option MoveRequest} {call : Call}
    (h : call.Prepares query) : call.role = .consulting ∨ call.role = .choosing :=
  h.imp_left Consults.role_eq

theorem Call.not_prepares_move (query : Option MoveRequest) {request : MoveRequest} :
    ¬ (Call.move request).Prepares query := by
  rintro (h | h) <;> cases h

theorem prepares_offered {α : Type} (query : MoveRequest) (shape : Destination → Option α)
    (whenEmpty : String) : (offered query shape whenEmpty).Within (Call.Prepares (some query)) :=
  (consults_offered query shape whenEmpty).mono fun _ => .inl

section Preparing

variable (query : Option MoveRequest)

theorem prepares_report_bind {α β : Type} (problem : Problem) (next : α → Flow β) :
    (Flow.report problem >>= next).Within (Call.Prepares query) :=
  .report_bind (.inl (Call.consults_showError query _)) _

theorem prepares_choose {α : Type} (values : List α) (row : α → PickItem) (placeholder : String) :
    (Flow.choose values row placeholder).Within (Call.Prepares query) := .choose (.inr rfl)

theorem prepares_movable? (package : PackageNode) (uris : List Uri) :
    Within (Call.Prepares query) (movable? package uris) :=
  (consults_movable? query package uris).mono fun _ => .inl

theorem prepares_pickPackage (query : MoveRequest) (placeholder : String) :
    (pickPackage query placeholder).Within (Call.Prepares (some query)) := by
  refine .bind (prepares_offered query _ _) fun packages => ?_
  refine .bind (.lift ?_) fun places => ?_
  · exact (consults_withPlaces _ packages).mono fun _ => .inl
  · exact .bind (prepares_choose _ _ _ _) fun choice => .pure _

theorem prepares_selectTargetClass (placeholder : String) (excluded : List String)
    (project : Option String) :
    (selectTargetClass placeholder excluded project).Within (Call.Prepares query) := by
  refine .bind (.orElse (.ask (.inl rfl))) fun symbols => ?_
  dsimp only
  split
  · exact prepares_report_bind query _ _
  · exact prepares_choose query _ _ _

theorem prepares_initializationScope (kind : RefactoringKind) (info : CommandInfo) :
    (initializationScope kind info).Within (Call.Prepares query) := by
  unfold initializationScope
  cases kind.introducesField with
  | false => exact .pure _
  | true =>
    rcases info.initializedScopes.getD [] with _ | ⟨scope, _ | ⟨other, scopes⟩⟩
    · exact .pure _
    · exact .pure _
    · exact .bind (prepares_choose query _ _ _) fun choice => .pure _

end Preparing

/-! ## Requests -/

/-- A move of what a query is about. -/
def Call.MovesAs (query : MoveRequest) (call : Call) : Prop :=
  ∃ request, call = .move request ∧ request.kind = query.kind ∧
    request.selection = query.selection ∧ request.sources = query.sources

/-- A flow that prepares and then asks the server for one result, which it carries out; it may stop
on the way.  The call for the result is a good one. -/
inductive Flow.Requests (saving : Bool) (query : Option MoveRequest) (good : Call → Prop) :
    Flow Outcome → Prop
  | stops {flow : Flow Outcome} (h : flow.Within (Call.Prepares query)) :
      Requests saving query good flow
  | prepares {α : Type} {first : Flow α} {next : α → Flow Outcome}
      (hfirst : first.Within (Call.Prepares query))
      (hnext : ∀ value, Requests saving query good (next value)) :
      Requests saving query good (first >>= next)
  | moves {request : MoveRequest} (h : good (.move request)) :
      Requests saving query good (request.commit saving)
  | edits {request : EditRequest} (h : good (.refactorEdit request)) :
      Requests saving query good
        (Flow.server (ask (.refactorEdit request)) >>= carryOut saving)

/-- What such a flow calls is on the way to the result, for the result, or to carry it out. -/
theorem Flow.Requests.within {saving : Bool} {query : Option MoveRequest} {good : Call → Prop}
    {flow : Flow Outcome} (h : flow.Requests saving query good) :
    flow.Within fun call =>
      call.Prepares query ∨ call.role = .committing ∧ good call ∨ call.concludes := by
  have hcarry (sent) := (concludes_carryOut saving sent).mono
    fun call (hcall : call.concludes) =>
      show call.Prepares query ∨ call.role = .committing ∧ good call ∨ call.concludes from
        .inr (.inr hcall)
  induction h with
  | stops h => exact h.mono fun _ => .inl
  | prepares hfirst _ ih => exact .bind (hfirst.mono fun _ => .inl) ih
  | moves h => exact .bind (.orElse (.ask (.inr (.inl ⟨rfl, h⟩)))) hcarry
  | edits h => exact .bind (.orElse (.ask (.inr (.inl ⟨rfl, h⟩)))) hcarry

/-! ## The flows -/

theorem requests_moveFiles (uris : List Uri) :
    (moveFiles uris).Requests true (some (filesQuery uris)) fun _ => True := by
  unfold moveFiles
  cases Uri.haveCommonParent uris with
  | false => exact .stops (prepares_report_bind _ _ _)
  | true =>
    refine .prepares (prepares_pickPackage _ _) fun choice => ?_
    cases choice with
    | none => exact .stops (.pure _)
    | some package =>
      refine .prepares (.lift (prepares_movable? _ package uris)) fun moving => ?_
      cases moving with
      | none => exact .stops (.pure _)
      | some moving => exact .moves trivial

theorem requests_moveTypeToPackage (selection : Selection) (info : CommandInfo) :
    (moveTypeToPackage selection info).Requests true (some (selectionQuery .moveResource selection))
      (Call.MovesAs (selectionQuery .moveResource selection)) := by
  refine .prepares (prepares_pickPackage _ _) fun choice => ?_
  cases choice with
  | none => exact .stops (.pure _)
  | some package => exact .moves ⟨_, rfl, rfl, rfl, rfl⟩

theorem requests_moveInstanceMethod (selection : Selection) (info : CommandInfo) :
    (moveInstanceMethod selection info).Requests false
      (some (selectionQuery .moveInstanceMethod selection))
      (Call.MovesAs (selectionQuery .moveInstanceMethod selection)) := by
  refine .prepares (prepares_offered _ _ _) fun targets => ?_
  refine .prepares (prepares_choose _ _ _ _) fun choice => ?_
  cases choice with
  | none => exact .stops (.pure _)
  | some target => exact .moves ⟨_, rfl, rfl, rfl, rfl⟩

theorem requests_moveStaticMember (selection : Selection) (info : CommandInfo) :
    (moveStaticMember selection info).Requests false none fun _ => True := by
  refine .prepares (prepares_selectTargetClass _ _ _ _) fun choice => ?_
  cases choice with
  | none => exact .stops (.pure _)
  | some target => exact .moves trivial

theorem requests_moveTypeToClass (selection : Selection) (info : CommandInfo) :
    (moveTypeToClass selection info).Requests false none fun _ => True := by
  refine .prepares (prepares_selectTargetClass _ _ _ _) fun choice => ?_
  cases choice with
  | none => exact .stops (.pure _)
  | some target => exact .moves trivial

theorem requests_computeAndApply (kind : RefactoringKind) (selection : Selection)
    (info : CommandInfo) :
    (computeAndApply kind selection info).Requests false none fun _ => True := by
  refine .prepares (.lift (.ask (.inl rfl))) fun options => ?_
  cases options with
  | none => exact .stops (.throw _)
  | some options =>
    refine .prepares (prepares_initializationScope _ kind info) fun arguments => ?_
    cases arguments with
    | none => exact .stops (.pure _)
    | some arguments => exact .edits trivial

end Refactoring
