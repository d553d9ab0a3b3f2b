import Refactoring.Proofs.Flow.Choices

/-!
# Moves repeat their queries

A move that was preceded by a query for destinations is a move of what the query was about.  Only a
move of files leaves out sources, and only those whose names are taken in the package.
-/

namespace Refactoring

open Refactoring.Flow (Runs)

variable {events : List CallEvent} {result : Except Problem Outcome}

/-! ## What a flow queries -/

namespace Flow.Requests

variable {saving : Bool} {query : Option MoveRequest} {good : Call → Prop} {flow : Flow Outcome}

/-- Destinations are asked for with the query only. -/
theorem query_eq (h : flow.Requests saving query good) (hruns : Runs flow events result)
    {other : MoveRequest} {reply : Except Failure (Option DestinationList)}
    (hmem : (⟨.moveDestinations other, reply⟩ : CallEvent) ∈ events) : query = some other := by
  rcases h.within events result hruns _ hmem with (hconsults | hrole) | ⟨hrole, -⟩ | hconcludes
  · exact hconsults
  · cases hrole
  · cases hrole
  · cases hconcludes

/-- A move is requested with a good call only. -/
theorem good_of_mem (h : flow.Requests saving query good) (hruns : Runs flow events result)
    {request : MoveRequest} {reply : Except Failure (Option RefactoringResult)}
    (hmem : (⟨.move request, reply⟩ : CallEvent) ∈ events) : good (.move request) := by
  rcases h.within events result hruns _ hmem with (hconsults | hrole) | ⟨-, hgood⟩ | hconcludes
  · cases hconsults
  · cases hrole
  · exact hgood
  · cases hconcludes

end Flow.Requests

/-- The files that move are those that the package admits. -/
theorem moveFiles_admitted {uris : List Uri} (h : Runs (moveFiles uris) events result)
    {request : MoveRequest} {reply : Except Failure (Option RefactoringResult)}
    (hmem : (⟨.move request, reply⟩ : CallEvent) ∈ events) :
    ∃ package checks moving, checks <:+: events ∧ package.Admits uris checks moving ∧
      request = filesMove moving package := by
  obtain ⟨before, after, rfl⟩ := List.append_of_mem hmem
  unfold moveFiles at h
  split at h
  · exact absurd h (Flow.Runs.not_past (prepares_report_bind none _ _) (Call.not_prepares_move _))
  · obtain ⟨passed, rest, choice, rfl, -, hrest⟩ :=
      h.past (prepares_pickPackage _ _) (Call.not_prepares_move _)
    cases choice with
    | none => exact absurd hrest (Flow.Runs.not_past (.pure _) (Call.not_prepares_move none))
    | some package =>
      have hcommitted : Call.move request ∈
          commitments (rest ++ (⟨.move request, reply⟩ : CallEvent) :: after) :=
        mem_commitments (List.mem_append_right _ List.mem_cons_self) rfl
      obtain ⟨checks, moving, hchecks, hadmits, hmoved | ⟨-, hnone, -⟩⟩ := runs_moveTo hrest
      · rw [hmoved, List.mem_singleton] at hcommitted
        rw [List.append_assoc]
        exact ⟨package, checks, moving, hchecks.isInfix.trans List.infix_append_right, hadmits,
          Call.move.inj hcommitted⟩
      · rw [hnone] at hcommitted
        cases hcommitted

/-! ## Services -/

/-- The sources of a move are those of the query, or of the files those that the package admits. -/
def Errand.KeepsSources :
    Errand → List CallEvent → (query : MoveRequest) → (request : MoveRequest) → Prop
  | moveFiles uris, events, query, request =>
    ∃ package checks moving, request.destination = some (.package package) ∧
      checks <:+: events ∧ package.Admits uris checks moving ∧
      query.sources = uris.map Uri.text ∧ request.sources = moving.map Uri.text
  | _, _, query, request => request.sources = query.sources

/-- A move after a query is a move of what the query was about. -/
def Errand.RepeatsQuery (errand : Errand) (events : List CallEvent) : Prop :=
  ∀ query reply request reply', (⟨.moveDestinations query, reply⟩ : CallEvent) ∈ events →
    (⟨.move request, reply'⟩ : CallEvent) ∈ events →
    request.kind = query.kind ∧ request.selection = query.selection ∧
      errand.KeepsSources events query request

theorem repeatsQuery_moveFiles {uris : List Uri} (h : Runs (moveFiles uris) events result) :
    (Errand.moveFiles uris).RepeatsQuery events := by
  intro query reply request reply' hquery hrequest
  obtain rfl := Option.some.inj ((requests_moveFiles uris).query_eq h hquery)
  obtain ⟨package, checks, moving, hchecks, hadmits, rfl⟩ := moveFiles_admitted h hrequest
  exact ⟨rfl, rfl, package, checks, moving, rfl, hchecks, hadmits, rfl, rfl⟩

section Errands

variable {errand : Errand} {saving : Bool}

/-- Nothing is repeated without a query. -/
theorem repeatsQuery_of_not_queries
    (h : ∀ query reply, (⟨.moveDestinations query, reply⟩ : CallEvent) ∉ events) :
    errand.RepeatsQuery events :=
  fun query reply _ _ hquery _ => absurd hquery (h query reply)

theorem Flow.Requests.repeatsQuery_of_none {good : Call → Prop}
    (h : errand.flow.Requests saving none good) (hruns : Runs errand.flow events result) :
    errand.RepeatsQuery events :=
  repeatsQuery_of_not_queries fun _ _ hquery => nomatch h.query_eq hruns hquery

/-- A move as the query says repeats it, if no sources may be left out. -/
theorem Flow.Requests.repeatsQuery {query : MoveRequest}
    (h : errand.flow.Requests saving (some query) (Call.MovesAs query))
    (hruns : Runs errand.flow events result)
    (hkeeps : ∀ request : MoveRequest, request.sources = query.sources →
      errand.KeepsSources events query request) :
    errand.RepeatsQuery events := by
  intro other reply request reply' hquery hrequest
  obtain rfl := Option.some.inj (h.query_eq hruns hquery)
  obtain ⟨_, heq, hkind, hselection, hsources⟩ := h.good_of_mem hruns hrequest
  obtain rfl := Call.move.inj heq
  exact ⟨hkind, hselection, hkeeps request hsources⟩

end Errands

theorem TypeDestination.repeatsQuery {destination : TypeDestination} {selection : Selection}
    {info : CommandInfo} (h : Runs (destination.errand selection info).flow events result) :
    (destination.errand selection info).RepeatsQuery events := by
  cases destination with
  | newFile => exact (requests_computeAndApply _ selection info).repeatsQuery_of_none h
  | package => exact (requests_moveTypeToPackage selection info).repeatsQuery h fun _ => id
  | insideClass => exact (requests_moveTypeToClass selection info).repeatsQuery_of_none h

theorem repeatsQuery_moveType {selection : Selection} {info : CommandInfo}
    (h : Runs (moveType selection info) events result) :
    (Errand.moveType selection info).RepeatsQuery events := by
  intro query reply request reply' hquery hrequest
  rcases runs_moveType h with rfl | ⟨_, -, rfl⟩ | ⟨i, destination, rest, hi, rfl, hrest⟩
  · cases hquery
  · cases List.mem_singleton.mp hquery
  · have hquery' : (⟨.moveDestinations query, reply⟩ : CallEvent) ∈ rest := by
      rcases List.mem_cons.mp hquery with hfirst | hlater
      · cases hfirst
      · exact hlater
    have hrequest' : (⟨.move request, reply'⟩ : CallEvent) ∈ rest := by
      rcases List.mem_cons.mp hrequest with hfirst | hlater
      · cases hfirst
      · exact hlater
    obtain ⟨hkind, hselection, hsources⟩ :=
      destination.repeatsQuery hrest query reply request reply' hquery' hrequest'
    refine ⟨hkind, hselection, ?_⟩
    cases destination <;> exact hsources

theorem Errand.repeatsQuery {errand : Errand} (h : Runs errand.flow events result) :
    errand.RepeatsQuery events := by
  cases errand with
  | ended value =>
    obtain ⟨rfl, -⟩ := Flow.runs_mk_pure.mp h
    exact repeatsQuery_of_not_queries fun _ _ => List.not_mem_nil
  | moveFiles uris => exact repeatsQuery_moveFiles h
  | moveInstanceMethod selection info =>
    exact (requests_moveInstanceMethod selection info).repeatsQuery h fun _ => id
  | moveStaticMember selection info =>
    exact (requests_moveStaticMember selection info).repeatsQuery_of_none h
  | moveTypeToPackage selection info =>
    exact (requests_moveTypeToPackage selection info).repeatsQuery h fun _ => id
  | moveTypeToClass selection info =>
    exact (requests_moveTypeToClass selection info).repeatsQuery_of_none h
  | moveType selection info => exact repeatsQuery_moveType h
  | edit kind selection info =>
    exact (requests_computeAndApply kind selection info).repeatsQuery_of_none h
  | rename position =>
    exact repeatsQuery_of_not_queries fun _ _ hquery =>
      nomatch presents_rename position _ _ h _ hquery
  | carryOut saving sent =>
    exact repeatsQuery_of_not_queries fun _ _ hquery =>
      nomatch concludes_carryOut saving sent _ _ h _ hquery

/-- Wherever a run of a service lets the user choose and a row is chosen, the rows stand for the
candidates of its errand, one by one and in order, and the candidate of that row is the one that is
taken: the server is committed to it and to nothing else, or the errand goes on as that branch.
Every move repeats the kind, the selection and the sources of a query before it, but that files
whose names are taken in the package stay. -/
theorem Service.honours_choices {service : Service} (h : Runs service.flow events result) :
    (∀ before items question i after,
      events = before ++ ⟨.pick items question, .ok (some i)⟩ :: after → i < items.length →
      service.errand.TakesChosen before items i after result) ∧
    service.errand.RepeatsQuery events := by
  rw [service.flow_eq] at h
  constructor
  · rintro before items question i after rfl hi
    exact Errand.takesChosen h hi
  · exact Errand.repeatsQuery h

/-- Two packages of different projects that look the same to the user. -/
def lookalikes : PackageNode × PackageNode :=
  (⟨"p", none, some "p", some "first", false, false⟩,
    ⟨"p", none, some "p", some "second", false, false⟩)

/-- The server offers a field and two packages that look the same, and the second row is chosen. -/
def secondChosen : List CallEvent :=
  [⟨.moveDestinations (filesQuery [.localResource ["A"]]),
      .ok (some ⟨none, [.classTarget ⟨"", "field", "Type", true, false⟩, .package lookalikes.1,
        .package lookalikes.2]⟩)⟩,
    ⟨.pick [lookalikes.1.row (some "p"), lookalikes.2.row (some "p")]
      (filesPlaceholder [.localResource ["A"]]), .ok (some 1)⟩,
    ⟨.move (filesMove [.localResource ["A"]] lookalikes.2), .ok none⟩]

/-- The move is to the package of the second row. -/
theorem Service.honours_choices_secondChosen :
    Runs (Service.flow (.moveFiles [.localResource ["A"]])) secondChosen (.ok .nothingToDo) ∧
      (Errand.moveFiles [.localResource ["A"]]).TakesChosen (secondChosen.take 1)
        [lookalikes.1.row (some "p"), lookalikes.2.row (some "p")] 1 (secondChosen.drop 2)
        (.ok .nothingToDo) ∧
      (Errand.moveFiles [.localResource ["A"]]).RepeatsQuery secondChosen := by
  have hruns : Runs (Service.flow (.moveFiles [.localResource ["A"]])) secondChosen
      (.ok .nothingToDo) := .ask (.ask (.ask (.done _)))
  obtain ⟨htakes, hrepeats⟩ := Service.honours_choices hruns
  exact ⟨hruns, htakes _ _ _ _ _ rfl (by decide), hrepeats⟩

end Refactoring
