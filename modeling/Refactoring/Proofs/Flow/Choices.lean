import Mathlib.Data.List.Forall2
import Refactoring.Proofs.Flow.Errands
import Refactoring.Proofs.Flow.Moves

/-!
# Choices

A picker shows one row for each candidate, and the answer is the number of a row.  What the server
is then committed to is the candidate of that row, however the candidates were selected and whatever
they look like; and a move repeats the query that its candidates came from.
-/

namespace Refactoring

open Refactoring.Flow (Runs)

/-! ## Candidates -/

/-- What a row of a picker stands for. -/
inductive Candidate where
  | destination (destination : Destination)
  /-- A scope in which a field can be initialised. -/
  | scope (scope : String)
  /-- A way for a type to move. -/
  | branch (destination : TypeDestination)

/-- The row that a candidate is shown as; for the place of a package it matters what was asked. -/
inductive Candidate.ShownAs (before : List CallEvent) : Candidate → PickItem → Prop
  | package {node : PackageNode} {place : Option String} (hplace : node.PlacedAt before place) :
      ShownAs before (.destination (.package node)) (node.row place)
  | classTarget {target : ClassTarget} :
      ShownAs before (.destination (.classTarget target)) target.row
  | symbol {symbol : Symbol} : ShownAs before (.destination (.symbol symbol)) symbol.row
  | scope {scope : String} : ShownAs before (.scope scope) (.labelled scope)
  | branch {destination : TypeDestination} :
      ShownAs before (.branch destination) destination.row

theorem Candidate.ShownAs.mono {before later : List CallEvent} {candidate : Candidate}
    {item : PickItem} (h : candidate.ShownAs before item) (hsubset : before ⊆ later) :
    candidate.ShownAs later item := by
  cases h with
  | package hplace => exact .package (hplace.mono hsubset)
  | classTarget => exact .classTarget
  | symbol => exact .symbol
  | scope => exact .scope
  | branch => exact .branch

namespace Errand

/-- The query for destinations that an errand makes. -/
def query? : Errand → Option MoveRequest
  | moveFiles uris => some (filesQuery uris)
  | moveTypeToPackage selection _ => some (selectionQuery .moveResource selection)
  | moveInstanceMethod selection _ => some (selectionQuery .moveInstanceMethod selection)
  | _ => none

/-- The destinations that an errand lets the user choose from. -/
def accepts : Errand → Destination → Bool
  | moveInstanceMethod _ _, destination => destination.classTarget?.isSome
  | _, destination => destination.package?.isSome

/-- The project that an errand searches for symbols, and the names that it leaves out. -/
def search? : Errand → Option (Option String × List String)
  | moveStaticMember _ info => some (info.projectName, info.excludedTargets)
  | moveTypeToClass _ info =>
    some (info.projectName, info.excludedTargets ++ info.ownName?.toList)
  | _ => none

/-- The candidates among which an errand lets the user choose after some calls. -/
inductive Offers : Errand → List CallEvent → List Candidate → Prop
  | queried {errand : Errand} {before : List CallEvent} {query : MoveRequest}
      {offer : DestinationList} (hquery : errand.query? = some query)
      (hoffer : ⟨.moveDestinations query, .ok (some offer)⟩ ∈ before) :
      Offers errand before ((offer.destinations.filter errand.accepts).map .destination)
  | searched {errand : Errand} {before : List CallEvent} {project : Option String}
      {excluded : List String} {symbols : List Symbol}
      (hsearch : errand.search? = some (project, excluded))
      (hsymbols : ⟨.searchSymbols (allSymbols project), .ok symbols⟩ ∈ before) :
      Offers errand before
        ((symbols.filter (Symbol.isCandidate excluded)).map fun s => .destination (.symbol s))
  | scopes {kind : RefactoringKind} {selection : Selection} {info : CommandInfo}
      {before : List CallEvent} :
      Offers (.edit kind selection info) before ((info.initializedScopes.getD []).map .scope)
  | branches {selection : Selection} {info : CommandInfo} :
      Offers (.moveType selection info) [] (info.typeDestinations.map .branch)
  | inBranch {selection : Selection} {info : CommandInfo} {i : Nat}
      {destination : TypeDestination} {before : List CallEvent} {candidates : List Candidate}
      (hi : info.typeDestinations[i]? = some destination)
      (hoffers : Offers (destination.errand selection info) before candidates) :
      Offers (.moveType selection info) (info.typeChoice (.ok (some i)) :: before) candidates

/-- What an errand does with the candidate that was chosen: it moves to the destination, if any
file is left to move; it asks for the edit with the scope; or it goes on as the branch. -/
inductive Takes : Errand → Candidate → List CallEvent → Except Problem Outcome → Prop
  | moved {errand : Errand} {destination : Destination} {request : MoveRequest}
      {after : List CallEvent} {result : Except Problem Outcome}
      (hmoved : commitments after = [.move request])
      (hdestination : request.destination = some destination) :
      Takes errand (.destination destination) after result
  | stayed {uris : List Uri} {package : PackageNode} {checks after : List CallEvent}
      (hchecks : checks <+: after) (hnone : package.Admits uris checks [])
      (hstayed : commitments after = []) :
      Takes (.moveFiles uris) (.destination (.package package)) after (.ok .nothingToDo)
  | given {errand : Errand} {scope : String} {request : EditRequest} {after : List CallEvent}
      {result : Except Problem Outcome} (hgiven : commitments after = [.refactorEdit request])
      (harguments : request.arguments = [.string scope]) :
      Takes errand (.scope scope) after result
  | branched {selection : Selection} {info : CommandInfo} {destination : TypeDestination}
      {after : List CallEvent} {result : Except Problem Outcome}
      (h : Runs (destination.errand selection info).flow after result) :
      Takes (.moveType selection info) (.branch destination) after result

/-- The rows that were shown after some calls stand for the candidates of an errand, and the one
with a number is taken, before anything else is. -/
def TakesChosen (errand : Errand) (before : List CallEvent) (items : List PickItem) (i : Nat)
    (after : List CallEvent) (result : Except Problem Outcome) : Prop :=
  ∃ candidates chosen, errand.Offers before candidates ∧
    List.Forall₂ (Candidate.ShownAs before) candidates items ∧ candidates[i]? = some chosen ∧
    commitments before = [] ∧ errand.Takes chosen after result

variable {errand : Errand} {before after : List CallEvent} {items : List PickItem}
  {placeholder question : String} {i : Nat} {result : Except Problem Outcome}

/-- Rows and candidates that are made of the same values go together. -/
theorem TakesChosen.of_values {α : Type} {values : List α} {candidate : α → Candidate}
    {row : α → PickItem} {value : α} (hoffers : errand.Offers before (values.map candidate))
    (hshown : ∀ value ∈ values, (candidate value).ShownAs before (row value))
    (hvalue : values[i]? = some value) (hbefore : commitments before = [])
    (htakes : errand.Takes (candidate value) after result) :
    errand.TakesChosen before (values.map row) i after result := by
  refine ⟨values.map candidate, candidate value, hoffers, ?_, ?_, hbefore, htakes⟩
  · rw [List.forall₂_map_left_iff, List.forall₂_map_right_iff, List.forall₂_same]
    exact hshown
  · rw [List.getElem?_map, hvalue]
    rfl

end Errand

/-! ## The choice in a run -/

/-- A flow that lets the user choose nothing more. -/
abbrev Flow.Decided {α : Type} (flow : Flow α) : Prop :=
  flow.Within fun call => call.role ≠ .choosing

variable {before after : List CallEvent} {items : List PickItem} {placeholder question : String}
  {i : Nat} {result : Except Problem Outcome}

theorem decided_carryOut (saving : Bool) (sent : Option RefactoringResult) :
    (carryOut saving sent).Decided :=
  (concludes_carryOut saving sent).mono fun _ h => (Call.concludes_role h).2

theorem decided_commit (saving : Bool) (request : MoveRequest) :
    (request.commit saving).Decided :=
  .bind (.orElse (.ask nofun)) fun sent => decided_carryOut saving sent

theorem decided_report_bind {α β : Type} (problem : Problem) (next : α → Flow β) :
    (Flow.report problem >>= next).Decided := .report_bind nofun _

theorem Flow.Decided.not_runs {flow : Flow Outcome} (h : flow.Decided)
    {reply : Except Failure (Option Nat)} :
    ¬ Runs flow (before ++ ⟨.pick items question, reply⟩ :: after) result :=
  Flow.Runs.not_past h fun hrole => hrole rfl

theorem Call.not_consults_pick {query : Option MoveRequest} :
    ¬ (Call.pick items question).Consults query := nofun

theorem commitments_of_consults {query : Option MoveRequest} {α : Type} {flow : Flow α}
    (h : flow.Within (Call.Consults query)) {value : Except Problem α}
    (hruns : Runs flow before value) : commitments before = [] :=
  commitments_eq_nil fun event hevent => (h before value hruns event hevent).not_committing

/-- At the only choice of a flow the row that is chosen stands for the value in its place. -/
theorem runs_at_choice {α : Type} {values : List α} {row : α → PickItem}
    {next : Option α → Flow Outcome}
    (h : Runs (Flow.choose values row placeholder >>= next)
      (before ++ ⟨.pick items question, .ok (some i)⟩ :: after) result)
    (hi : i < items.length) (hnext : ∀ choice, (next choice).Decided) :
    before = [] ∧ items = values.map row ∧
      ∃ value, values[i]? = some value ∧ Runs (next (some value)) after result := by
  obtain ⟨reply, rest, hevents, hreply⟩ := (Flow.runs_choose_bind _ _ _).mp h
  cases before with
  | nil =>
    obtain ⟨hfirst, rfl⟩ := List.cons.inj hevents
    cases hfirst
    rw [List.length_map] at hi
    have hvalue : values[i]? = some values[i] := List.getElem?_eq_getElem hi
    simp only [Option.bind_some, hvalue] at hreply
    exact ⟨rfl, rfl, values[i], hvalue, hreply⟩
  | cons first before =>
    obtain ⟨rfl, rfl⟩ := List.cons.inj hevents
    cases reply with
    | error failure => simp at hreply
    | ok choice => exact absurd hreply (hnext _).not_runs

/-! ## Choices of destinations -/

theorem package_of_package? {destination : Destination} {node : PackageNode}
    (h : destination.package? = some node) : .package node = destination := by
  cases destination with
  | package other => exact congrArg Destination.package (Option.some.inj h).symm
  | _ => cases h

theorem classTarget_of_classTarget? {destination : Destination} {target : ClassTarget}
    (h : destination.classTarget? = some target) : .classTarget target = destination := by
  cases destination with
  | classTarget other => exact congrArg Destination.classTarget (Option.some.inj h).symm
  | _ => cases h

/-- What is wrapped up again is what was let through. -/
theorem map_filterMap_shape {α : Type} {shape : Destination → Option α} {wrap : α → Destination}
    (hwrap : ∀ destination value, shape destination = some value → wrap value = destination)
    (destinations : List Destination) :
    (destinations.filterMap shape).map wrap =
      destinations.filter fun destination => (shape destination).isSome := by
  induction destinations with
  | nil => rfl
  | cons destination destinations ih =>
    cases hshape : shape destination with
    | none => simp [hshape, ih]
    | some value => simp [hshape, ih, hwrap destination value hshape]

/-- The destinations of one shape are the ones that are accepted. -/
theorem Errand.Offers.of_shape {errand : Errand} {query : MoveRequest} {offer : DestinationList}
    {α : Type} {shape : Destination → Option α} {wrap : α → Destination}
    (hwrap : ∀ destination value, shape destination = some value → wrap value = destination)
    (haccepts : errand.accepts = fun destination => (shape destination).isSome)
    (hquery : errand.query? = some query)
    (hoffer : ⟨.moveDestinations query, .ok (some offer)⟩ ∈ before) :
    errand.Offers before
      ((offer.destinations.filterMap shape).map fun value => .destination (wrap value)) := by
  have hcandidates := congrArg (List.map Candidate.destination)
    (map_filterMap_shape hwrap offer.destinations)
  rw [List.map_map, ← haccepts] at hcandidates
  exact hcandidates ▸ .queried hquery hoffer

/-- The packages stay the ones that are accepted when they are listed with their places. -/
theorem Errand.Offers.of_places {errand : Errand} {query : MoveRequest} {offer : DestinationList}
    {places : List (PackageNode × Option String)}
    (haccepts : errand.accepts = fun destination => destination.package?.isSome)
    (hquery : errand.query? = some query)
    (hoffer : ⟨.moveDestinations query, .ok (some offer)⟩ ∈ before)
    (hnodes : places.map Prod.fst = offer.destinations.filterMap Destination.package?) :
    errand.Offers before (places.map fun entry => .destination (.package entry.1)) := by
  have hshape : errand.Offers before _ :=
    .of_shape (fun _ _ => package_of_package?) haccepts hquery hoffer
  rw [← hnodes, List.map_map] at hshape
  exact hshape

theorem takesChosen_moveInstanceMethod {selection : Selection} {info : CommandInfo}
    (h : Runs (moveInstanceMethod selection info)
      (before ++ ⟨.pick items question, .ok (some i)⟩ :: after) result) (hi : i < items.length) :
    (Errand.moveInstanceMethod selection info).TakesChosen before items i after result := by
  obtain ⟨passed, rest, targets, rfl, hoffered, hrest⟩ :=
    Flow.Runs.past (consults_offered _ _ _) Call.not_consults_pick h
  obtain ⟨rfl, rfl, target, htarget, hnext⟩ := runs_at_choice hrest hi (by
    rintro (_ | target)
    · exact .pure _
    · exact decided_commit _ _)
  obtain ⟨offer, hoffer, rfl⟩ := runs_offered hoffered
  rw [List.append_nil]
  exact .of_values (.of_shape (fun _ _ => classTarget_of_classTarget?) rfl rfl hoffer)
    (fun _ _ => .classTarget) htarget (commitments_of_consults (consults_offered _ _ _) hoffered)
    (.moved (commitments_commit hnext) rfl)

/-- At the choice of a package. -/
theorem runs_at_packageChoice {query : MoveRequest} {next : Option PackageNode → Flow Outcome}
    (h : Runs (pickPackage query placeholder >>= next)
      (before ++ ⟨.pick items question, .ok (some i)⟩ :: after) result)
    (hi : i < items.length) (hnext : ∀ choice, (next choice).Decided) :
    ∃ asked told offer places entry, before = asked ++ told ∧ commitments before = [] ∧
      Runs (offered query Destination.package? noPackages) asked (.ok (places.map Prod.fst)) ∧
      Program.Runs (withPlaces (places.map Prod.fst)) told places ∧
      (⟨.moveDestinations query, .ok (some offer)⟩ : CallEvent) ∈ asked ∧
      places.map Prod.fst = offer.destinations.filterMap Destination.package? ∧
      items = places.map (fun entry => entry.1.row entry.2) ∧ places[i]? = some entry ∧
      Runs (next (some entry.1)) after result := by
  rw [pickPackage, bind_assoc] at h
  obtain ⟨asked, rest, packages, rfl, hoffered, hrest⟩ :=
    Flow.Runs.past (consults_offered _ _ _) Call.not_consults_pick h
  rw [bind_assoc] at hrest
  obtain ⟨told, last, places, rfl, htold, hlast⟩ :=
    hrest.past (Flow.Within.lift (consults_withPlaces none packages)) Call.not_consults_pick
  rw [bind_assoc] at hlast
  obtain ⟨rfl, rfl, entry, hentry, hchosen⟩ := runs_at_choice hlast hi fun choice => by
    rw [pure_bind]
    exact hnext _
  rw [pure_bind] at hchosen
  obtain ⟨places', htold, hvalue⟩ := Flow.runs_lift.mp htold
  cases hvalue
  obtain ⟨offer, hoffer, hpackages⟩ := runs_offered hoffered
  obtain ⟨rfl, -⟩ := runs_withPlaces htold
  rw [List.append_nil]
  refine ⟨asked, told, offer, places, entry, rfl, ?_, hoffered, htold, hoffer, hpackages, rfl,
    hentry, hchosen⟩
  rw [commitments_append, commitments_of_consults (consults_offered _ _ _) hoffered,
    List.nil_append]
  exact commitments_eq_nil fun event hevent =>
    (consults_withPlaces none _ _ _ htold event hevent).not_committing

theorem takesChosen_package {errand : Errand} {query : MoveRequest}
    {next : Option PackageNode → Flow Outcome} (hquery : errand.query? = some query)
    (haccepts : errand.accepts = fun destination => destination.package?.isSome)
    (h : Runs (pickPackage query placeholder >>= next)
      (before ++ ⟨.pick items question, .ok (some i)⟩ :: after) result)
    (hi : i < items.length) (hnext : ∀ choice, (next choice).Decided)
    (htakes : ∀ node, Runs (next (some node)) after result →
      errand.Takes (.destination (.package node)) after result) :
    errand.TakesChosen before items i after result := by
  obtain ⟨asked, told, offer, places, entry, rfl, hnone, -, htold, hoffer, hpackages, rfl, hentry,
    hchosen⟩ := runs_at_packageChoice h hi hnext
  obtain ⟨-, hplaced⟩ := runs_withPlaces htold
  have hoffers :=
    Errand.Offers.of_places haccepts hquery (List.mem_append_left told hoffer) hpackages
  refine .of_values hoffers (fun entry hmem => ?_) hentry hnone (htakes entry.1 hchosen)
  exact .package ((hplaced entry hmem).mono (List.subset_append_right _ _))

theorem takesChosen_moveTypeToPackage {selection : Selection} {info : CommandInfo}
    (h : Runs (moveTypeToPackage selection info)
      (before ++ ⟨.pick items question, .ok (some i)⟩ :: after) result) (hi : i < items.length) :
    (Errand.moveTypeToPackage selection info).TakesChosen before items i after result := by
  refine takesChosen_package rfl rfl h hi ?_ fun node hnode => ?_
  · rintro (_ | node)
    · exact .pure _
    · exact decided_commit _ _
  · exact .moved (commitments_commit hnode) rfl

theorem decided_moveTo (package : PackageNode) (uris : List Uri) : Flow.Decided (do
    let some moving ← movable? package uris | return .nothingToDo
    (filesMove moving package).commit true) := by
  refine .bind (.lift ?_) fun moving => ?_
  · exact (consults_movable? none package uris).mono fun _ hcall => by simp [hcall.role_eq]
  · cases moving with
    | none => exact .pure _
    | some moving => exact decided_commit _ _

theorem takesChosen_moveFiles {uris : List Uri}
    (h : Runs (moveFiles uris) (before ++ ⟨.pick items question, .ok (some i)⟩ :: after) result)
    (hi : i < items.length) :
    (Errand.moveFiles uris).TakesChosen before items i after result := by
  unfold moveFiles at h
  split at h
  · exact absurd h (decided_report_bind _ _).not_runs
  · refine takesChosen_package rfl rfl h hi ?_ fun package hpackage => ?_
    · rintro (_ | package)
      · exact .pure _
      · exact decided_moveTo package uris
    · obtain ⟨checks, moving, hchecks, hadmits, hmoved | ⟨rfl, hnone, rfl⟩⟩ := runs_moveTo hpackage
      · exact .moved hmoved rfl
      · exact .stayed hchecks hadmits hnone

/-! ## Choices of classes, scopes and branches -/

/-- At the choice of a class. -/
theorem takesChosen_class {errand : Errand} {excluded : List String} {project : Option String}
    {next : Option Symbol → Flow Outcome} (hsearch : errand.search? = some (project, excluded))
    (h : Runs (selectTargetClass placeholder excluded project >>= next)
      (before ++ ⟨.pick items question, .ok (some i)⟩ :: after) result)
    (hi : i < items.length) (hnext : ∀ choice, (next choice).Decided)
    (htakes : ∀ symbol, Runs (next (some symbol)) after result →
      errand.Takes (.destination (.symbol symbol)) after result) :
    errand.TakesChosen before items i after result := by
  have hconsults : (Flow.server (ask (.searchSymbols (allSymbols project)))).Within
      (Call.Consults none) := .orElse (.ask rfl)
  rw [selectTargetClass, bind_assoc] at h
  obtain ⟨asked, rest, symbols, rfl, hasked, hrest⟩ := h.past hconsults Call.not_consults_pick
  dsimp only at hrest
  split at hrest
  · exact absurd hrest (decided_report_bind _ _).not_runs
  · obtain ⟨rfl, rfl, symbol, hsymbol, hchosen⟩ := runs_at_choice hrest hi hnext
    rw [List.append_nil]
    obtain ⟨reply, hreply, hsymbols⟩ := Flow.runs_orElse.mp hasked
    obtain rfl := Program.runs_request.mp hreply
    cases reply with
    | error failure => cases hsymbols
    | ok found =>
      cases hsymbols
      exact .of_values (.searched hsearch (List.mem_singleton_self _)) (fun _ _ => .symbol) hsymbol
        (commitments_of_consults hconsults hasked) (htakes symbol hchosen)

theorem takesChosen_moveStaticMember {selection : Selection} {info : CommandInfo}
    (h : Runs (moveStaticMember selection info)
      (before ++ ⟨.pick items question, .ok (some i)⟩ :: after) result) (hi : i < items.length) :
    (Errand.moveStaticMember selection info).TakesChosen before items i after result := by
  refine takesChosen_class rfl h hi ?_ fun symbol hsymbol => ?_
  · rintro (_ | symbol)
    · exact .pure _
    · exact decided_commit _ _
  · exact .moved (commitments_commit hsymbol) rfl

theorem takesChosen_moveTypeToClass {selection : Selection} {info : CommandInfo}
    (h : Runs (moveTypeToClass selection info)
      (before ++ ⟨.pick items question, .ok (some i)⟩ :: after) result) (hi : i < items.length) :
    (Errand.moveTypeToClass selection info).TakesChosen before items i after result := by
  refine takesChosen_class rfl h hi ?_ fun symbol hsymbol => ?_
  · rintro (_ | symbol)
    · exact .pure _
    · exact decided_commit _ _
  · exact .moved (commitments_commit hsymbol) rfl

/-- At the choice of a scope, which only several scopes lead to. -/
theorem runs_at_scopeChoice {kind : RefactoringKind} {info : CommandInfo}
    {next : Option (List Json) → Flow Outcome}
    (h : Runs (initializationScope kind info >>= next)
      (before ++ ⟨.pick items question, .ok (some i)⟩ :: after) result)
    (hi : i < items.length) (hnext : ∀ choice, (next choice).Decided) :
    before = [] ∧ items = (info.initializedScopes.getD []).map .labelled ∧
      ∃ scope, (info.initializedScopes.getD [])[i]? = some scope ∧
        Runs (next (some [.string scope])) after result := by
  unfold initializationScope at h
  cases hkind : kind.introducesField with
  | false =>
    rw [hkind] at h
    exact absurd h (hnext _).not_runs
  | true =>
    rw [hkind] at h
    generalize info.initializedScopes.getD [] = scopes at h ⊢
    rcases scopes with _ | ⟨scope, _ | ⟨other, scopes⟩⟩
    · exact absurd h (hnext _).not_runs
    · exact absurd h (hnext _).not_runs
    · rw [Bool.not_true, if_neg Bool.false_ne_true, bind_assoc] at h
      obtain ⟨hbefore, hitems, chosen, hchosen, hrest⟩ := runs_at_choice h hi fun choice => by
        rw [pure_bind]
        exact hnext _
      exact ⟨hbefore, hitems, chosen, hchosen, hrest⟩

theorem takesChosen_computeAndApply {kind : RefactoringKind} {selection : Selection}
    {info : CommandInfo}
    (h : Runs (computeAndApply kind selection info)
      (before ++ ⟨.pick items question, .ok (some i)⟩ :: after) result) (hi : i < items.length) :
    (Errand.edit kind selection info).TakesChosen before items i after result := by
  have hconsults : Flow.Within (Call.Consults none) (liftM (ask .formattingOptions)) :=
    .lift (.ask rfl)
  obtain ⟨asked, rest, options, rfl, hasked, hrest⟩ := h.past hconsults Call.not_consults_pick
  cases options with
  | none => exact absurd hrest (Flow.Decided.not_runs (.throw _))
  | some options =>
    obtain ⟨rfl, rfl, scope, hscope, hchosen⟩ := runs_at_scopeChoice hrest hi (by
      rintro (_ | arguments)
      · exact .pure _
      · exact .bind (.orElse (.ask nofun)) fun sent => decided_carryOut false sent)
    rw [List.append_nil]
    exact .of_values .scopes (fun _ _ => .scope) hscope (commitments_of_consults hconsults hasked)
      (.given (commitments_edit hchosen) rfl)

/-- What a branch takes is taken by the move of the type. -/
theorem Errand.Takes.of_branch {selection : Selection} {info : CommandInfo}
    {destination : TypeDestination} {chosen : Candidate}
    (h : (destination.errand selection info).Takes chosen after result) :
    (Errand.moveType selection info).Takes chosen after result := by
  cases destination
  all_goals
    cases h with
    | moved hmoved hdestination => exact .moved hmoved hdestination
    | given hgiven harguments => exact .given hgiven harguments

/-- The errand that a move of a type goes on as takes what is chosen then. -/
theorem TypeDestination.takesChosen {selection : Selection} {info : CommandInfo}
    {destination : TypeDestination}
    (h : Runs (destination.errand selection info).flow
      (before ++ ⟨.pick items question, .ok (some i)⟩ :: after) result) (hi : i < items.length) :
    (destination.errand selection info).TakesChosen before items i after result := by
  cases destination with
  | newFile => exact takesChosen_computeAndApply h hi
  | package => exact takesChosen_moveTypeToPackage h hi
  | insideClass => exact takesChosen_moveTypeToClass h hi

theorem takesChosen_moveType {selection : Selection} {info : CommandInfo}
    (h : Runs (moveType selection info)
      (before ++ ⟨.pick items question, .ok (some i)⟩ :: after) result) (hi : i < items.length) :
    (Errand.moveType selection info).TakesChosen before items i after result := by
  rcases runs_moveType h with
    hevents | ⟨reply, hnone, hevents⟩ | ⟨j, destination, rest, hj, hevents, hrest⟩
  · simp at hevents
  · cases before with
    | nil =>
      cases hevents
      rw [List.length_map] at hi
      exact absurd (hnone i rfl) (by simpa using hi)
    | cons first before => simp at hevents
  · cases before with
    | nil =>
      cases hevents
      exact .of_values .branches (fun _ _ => .branch) hj rfl (.branched hrest)
    | cons first before =>
      obtain ⟨rfl, rfl⟩ := List.cons.inj hevents
      obtain ⟨candidates, chosen, hoffers, hshown, hchosen, hnone, htakes⟩ :=
        destination.takesChosen hrest hi
      refine ⟨candidates, chosen, .inBranch hj hoffers, ?_, hchosen, ?_, htakes.of_branch⟩
      · exact hshown.imp fun _ _ h => h.mono (List.subset_cons_self _ _)
      · exact hnone

theorem Errand.takesChosen {errand : Errand}
    (h : Runs errand.flow (before ++ ⟨.pick items question, .ok (some i)⟩ :: after) result)
    (hi : i < items.length) : errand.TakesChosen before items i after result := by
  cases errand with
  | ended _ => exact absurd h (Flow.Decided.not_runs (.mk_pure _))
  | moveFiles uris => exact takesChosen_moveFiles h hi
  | moveInstanceMethod selection info => exact takesChosen_moveInstanceMethod h hi
  | moveStaticMember selection info => exact takesChosen_moveStaticMember h hi
  | moveTypeToPackage selection info => exact takesChosen_moveTypeToPackage h hi
  | moveTypeToClass selection info => exact takesChosen_moveTypeToClass h hi
  | moveType selection info => exact takesChosen_moveType h hi
  | edit kind selection info => exact takesChosen_computeAndApply h hi
  | rename position =>
    exact absurd h (Flow.Runs.not_past (presents_rename position) nofun)
  | carryOut saving sent => exact absurd h (decided_carryOut saving sent).not_runs

end Refactoring
