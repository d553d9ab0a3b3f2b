import Refactoring.Proofs.Flow.Saving

/-!
# How runs go

Until the one request for a result, a flow inquires what there is to choose from and has the user
choose.  A run ends there, with a problem, with nothing to do or with a picker that is dismissed; or
the server fails to send a result; or it sends one, and that is carried out.
-/

namespace Refactoring

open Refactoring.Flow (Runs)

/-! ## On the way to a result -/

/-- A call that finds out what there is to choose from, or that lets the user choose. -/
def Call.inquires : Call → Bool
  | moveDestinations _ | searchSymbols _ | formattingOptions | relativePath _ | pick _ _ => true
  | _ => false

theorem Call.role_of_inquires {call : Call} (h : call.inquires) :
    call.role = .consulting ∨ call.role = .choosing := by
  cases call with
  | pick => exact .inr rfl
  | moveDestinations | searchSymbols | formattingOptions | relativePath => exact .inl rfl
  | _ => cases h

/-- A problem that comes up with what others reply or with the files that are to move. -/
def Problem.arises : Problem → Bool
  | differentDirectories | noDestinations _ | server _ | transport _ | editor _ => true
  | _ => false

/-- Calls that commit no one and change nothing. -/
abbrev Preliminary (events : List CallEvent) : Prop :=
  ∀ event ∈ events, event.1.role = .consulting ∨ event.1.role = .choosing

theorem preliminary_singleton {event : CallEvent}
    (h : event.1.role = .consulting ∨ event.1.role = .choosing) : Preliminary [event] :=
  List.forall_mem_singleton.mpr h

theorem preliminary_of_inquires {events : List CallEvent}
    (h : ∀ event ∈ events, event.1.inquires) : Preliminary events :=
  fun event hevent => Call.role_of_inquires (h event hevent)

/-- A flow that only inquires until it has a value; what ends it before that is a problem that comes
up on the way. -/
def Flow.Inquires {α : Type} (flow : Flow α) : Prop :=
  ∀ events result, Runs flow events result →
    match result with
    | .ok _ => ∀ event ∈ events, event.1.inquires
    | .error problem => problem.arises ∧ Preliminary events

namespace Flow.Inquires

variable {α β : Type}

theorem pure (value : α) : Inquires (Pure.pure value : Flow α) := by
  intro events result h
  obtain ⟨rfl, rfl⟩ := runs_pure.mp h
  exact List.forall_mem_nil _

theorem report {problem : Problem} (h : problem.arises) :
    Inquires (Flow.report problem : Flow α) := by
  intro events result hruns
  obtain ⟨rfl, rfl⟩ := runs_report.mp hruns
  exact ⟨h, preliminary_singleton (.inl rfl)⟩

/-- Nothing comes after a problem that is reported. -/
theorem report_bind {problem : Problem} (h : problem.arises) (next : α → Flow β) :
    Inquires (Flow.report problem >>= next) := report h

theorem lift {dialogue : Dialogue α} (h : Refactoring.Within (fun call => call.inquires) dialogue) :
    Inquires (liftM dialogue : Flow α) := by
  intro events result hruns
  obtain ⟨value, hfirst, rfl⟩ := runs_lift.mp hruns
  exact h events value hfirst

/-- Asking the server. -/
theorem server {dialogue : Dialogue (Except Failure α)}
    (h : Refactoring.Within (fun call => call.inquires) dialogue) :
    Inquires (Flow.server dialogue) := by
  intro events result hruns
  obtain ⟨reply, hfirst, rfl⟩ := runs_orElse.mp hruns
  have hinquires := h events reply hfirst
  cases reply with
  | ok value => exact hinquires
  | error failure => exact ⟨rfl, preliminary_of_inquires hinquires⟩

theorem bind {flow : Flow α} {next : α → Flow β} (h : Inquires flow)
    (hnext : ∀ value, Inquires (next value)) : Inquires (flow >>= next) := by
  intro events result hruns
  rcases runs_bind.mp hruns with ⟨problem, hfirst, rfl⟩ | ⟨before, after, value, rfl, hfirst, hrest⟩
  · exact h events _ hfirst
  · have hbefore : ∀ event ∈ before, event.1.inquires := h before _ hfirst
    have hafter := hnext value after result hrest
    cases result with
    | ok value => exact List.forall_mem_append.mpr ⟨hbefore, hafter⟩
    | error problem =>
      exact ⟨hafter.1, List.forall_mem_append.mpr ⟨preliminary_of_inquires hbefore, hafter.2⟩⟩

end Flow.Inquires

open Refactoring.Flow (Inquires)

theorem inquires_orReport (whenEmpty : String) (offer : DestinationList) :
    Inquires (offer.orReport whenEmpty) := by
  unfold DestinationList.orReport
  cases offer.errorMessage with
  | some message => exact .report_bind rfl _
  | none =>
    cases offer.destinations.isEmpty with
    | true => exact .report_bind rfl _
    | false => exact .pure _

theorem inquires_offered {α : Type} (query : MoveRequest) (shape : Destination → Option α)
    (whenEmpty : String) : Inquires (offered query shape whenEmpty) := by
  refine .bind (.server (.ask rfl)) fun offer => ?_
  refine .bind (inquires_orReport whenEmpty _) fun destinations => ?_
  by_cases hempty : (destinations.filterMap shape).isEmpty
  · rw [if_pos hempty]
    exact .report_bind rfl _
  · rw [if_neg hempty]
    exact .pure _

theorem inquires_withPlaces (nodes : List PackageNode) :
    Inquires (liftM (withPlaces nodes) : Flow (List (PackageNode × Option String))) :=
  .lift (within_withPlaces (fun _ => rfl) nodes)

/-! ## Courses -/

/-- How a run can go that asks the server for one result. -/
inductive Course (saving : Bool) : List CallEvent → Except Problem Outcome → Prop
  /-- A problem comes up on the way. -/
  | failed {events : List CallEvent} {problem : Problem} (hevents : Preliminary events)
      (hproblem : problem.arises) : Course saving events (.error problem)
  /-- There turns out to be nothing to do. -/
  | idle {events : List CallEvent} (hevents : Preliminary events) :
      Course saving events (.ok .nothingToDo)
  | dismissed {asked : List CallEvent} {items : List PickItem} {question : String}
      {reply : Except Failure (Option Nat)} (hasked : ∀ event ∈ asked, event.1.inquires)
      (hreply : Dismisses items reply) :
      Course saving (asked ++ [⟨.pick items question, reply⟩]) (.ok .cancelled)
  /-- The server does not send a result. -/
  | lost {asked : List CallEvent} {event : CallEvent} {failure : Failure}
      (hasked : Preliminary asked) (hrole : event.1.role = .committing)
      (hnone : received? event = none) :
      Course saving (asked ++ [event]) (.error (.transport failure))
  | received {before after : List CallEvent} {sent : Option RefactoringResult}
      {result : Except Problem Outcome} (hreceives : Receives before sent)
      (hcarries : CarriesOut saving sent after result) : Course saving (before ++ after) result

theorem CarriesOut.ne_cancelled {saving : Bool} {sent : Option RefactoringResult}
    {events : List CallEvent} {result : Except Problem Outcome}
    (h : CarriesOut saving sent events result) : result ≠ .ok .cancelled := by
  cases h with
  | completed => split <;> nofun
  | _ => nofun

/-- Calls that a run makes before it takes a course.  If it is cancelled, they must inquire. -/
theorem Course.after {saving : Bool} {passed events : List CallEvent}
    {result : Except Problem Outcome} (h : Course saving events result)
    (hpassed : Preliminary passed)
    (hcancelled : result = .ok .cancelled → ∀ event ∈ passed, event.1.inquires) :
    Course saving (passed ++ events) result := by
  cases h with
  | failed hevents hproblem =>
    exact .failed (List.forall_mem_append.mpr ⟨hpassed, hevents⟩) hproblem
  | idle hevents => exact .idle (List.forall_mem_append.mpr ⟨hpassed, hevents⟩)
  | dismissed hasked hreply =>
    rw [← List.append_assoc]
    exact .dismissed (List.forall_mem_append.mpr ⟨hcancelled rfl, hasked⟩) hreply
  | lost hasked hrole hnone =>
    rw [← List.append_assoc]
    exact .lost (List.forall_mem_append.mpr ⟨hpassed, hasked⟩) hrole hnone
  | received hreceives hcarries =>
    rw [← List.append_assoc]
    exact .received (hreceives.after hpassed) hcarries

/-- A flow all of whose runs go this way. -/
def Flow.Follows (saving : Bool) (flow : Flow Outcome) : Prop :=
  ∀ events result, Runs flow events result → Course saving events result

namespace Flow.Follows

variable {α : Type} {saving : Bool}

theorem idle : Follows saving (pure .nothingToDo) := by
  intro events result h
  obtain ⟨rfl, rfl⟩ := runs_pure.mp h
  exact .idle (List.forall_mem_nil _)

theorem report_bind {problem : Problem} (h : problem.arises) (next : α → Flow Outcome) :
    Follows saving (Flow.report problem >>= next) := by
  intro events result hruns
  obtain ⟨rfl, rfl⟩ := runs_report.mp hruns
  exact .failed (preliminary_singleton (.inl rfl)) h

theorem bind {flow : Flow α} {next : α → Flow Outcome} (h : Inquires flow)
    (hnext : ∀ value, Follows saving (next value)) : Follows saving (flow >>= next) := by
  intro events result hruns
  rcases runs_bind.mp hruns with ⟨problem, hfirst, rfl⟩ | ⟨before, after, value, rfl, hfirst, hrest⟩
  · obtain ⟨hproblem, hevents⟩ := h events _ hfirst
    exact .failed hevents hproblem
  · have hbefore : ∀ event ∈ before, event.1.inquires := h before _ hfirst
    exact (hnext value after result hrest).after (preliminary_of_inquires hbefore) fun _ => hbefore

/-- A flow that is cancelled if no row is chosen. -/
theorem choose {values : List α} {row : α → PickItem} {question : String}
    {next : Option α → Flow Outcome} (hnone : next none = pure .cancelled)
    (hnext : ∀ value, Follows saving (next (some value))) :
    Follows saving (Flow.choose values row question >>= next) := by
  intro events result hruns
  obtain ⟨reply, rest, rfl, ⟨failure, rfl, rfl, rfl⟩ | ⟨hdismisses, hrest⟩ |
    ⟨i, value, rfl, -, hrest⟩⟩ := runs_choose_cases _ _ _ hruns
  · exact .failed (preliminary_singleton (.inr rfl)) rfl
  · rw [hnone] at hrest
    obtain ⟨rfl, rfl⟩ := runs_pure.mp hrest
    exact @Course.dismissed saving [] _ _ _ (List.forall_mem_nil _) hdismisses
  · exact @Course.after saving [_] _ _ (hnext value rest result hrest)
      (preliminary_singleton (.inr rfl)) fun _ => List.forall_mem_singleton.mpr rfl

/-- Consulting others where the flow is not cancelled any more. -/
theorem lift_bind {dialogue : Dialogue α} {next : α → Flow Outcome}
    (h : Refactoring.Within (fun call => call.role = .consulting) dialogue)
    (hnext : ∀ value, Follows saving (next value))
    (hkept : ∀ value events, ¬ Runs (next value) events (.ok .cancelled)) :
    Follows saving (liftM dialogue >>= next) := by
  intro events result hruns
  obtain ⟨passed, rest, value, rfl, hfirst, hrest⟩ := runs_lift_bind.mp hruns
  have hpassed : Preliminary passed := fun event hevent => .inl (h passed _ hfirst event hevent)
  refine (hnext value rest result hrest).after hpassed ?_
  rintro rfl
  exact absurd hrest (hkept value rest)

/-- A flow that asks the server for a result and carries it out. -/
theorem received {dialogue : Dialogue (Except Failure (Option RefactoringResult))}
    (h : AsksForResult dialogue) : Follows saving (Flow.server dialogue >>= carryOut saving) := by
  intro events result hruns
  obtain ⟨event, hrole, ⟨failure, rfl, hnone, rfl⟩ | ⟨sent, after, rfl, hsent, hcarries, -⟩⟩ :=
    runs_received h hruns
  · exact @Course.lost saving [] _ _ (List.forall_mem_nil _) hrole hnone
  · exact @Course.received saving [event] _ _ _ (.single hsent) hcarries

theorem commit (request : MoveRequest) : Follows saving (request.commit saving) :=
  received (asksForResult_move request)

end Flow.Follows

open Refactoring.Flow (Follows)

/-! ## The flows -/

theorem not_cancelled_commit {saving : Bool} {request : MoveRequest} {events : List CallEvent} :
    ¬ Runs (request.commit saving) events (.ok .cancelled) := by
  intro h
  obtain ⟨event, -, ⟨failure, -, -, hresult⟩ | ⟨sent, after, -, -, hcarries, -⟩⟩ :=
    runs_received (asksForResult_move request) h
  · cases hresult
  · exact hcarries.ne_cancelled rfl

/-- The choice of a package is the last thing before what comes next. -/
theorem pickPackage_bind {query : MoveRequest} {question : String}
    (next : Option PackageNode → Flow Outcome) :
    pickPackage query question >>= next =
      offered query Destination.package? noPackages >>= fun packages =>
        liftM (withPlaces packages) >>= fun places =>
          Flow.choose places (fun entry => entry.1.row entry.2) question >>= fun choice =>
            next (choice.map (·.1)) := by
  simp only [pickPackage, bind_assoc, pure_bind]

theorem follows_pickPackage_bind {saving : Bool} {query : MoveRequest} {question : String}
    {next : Option PackageNode → Flow Outcome} (hnone : next none = pure .cancelled)
    (hnext : ∀ package, Follows saving (next (some package))) :
    Follows saving (pickPackage query question >>= next) := by
  rw [pickPackage_bind]
  refine .bind (inquires_offered _ _ _) fun packages => ?_
  exact .bind (inquires_withPlaces packages) fun places => .choose hnone fun entry => hnext entry.1

theorem follows_selectTargetClass_bind {saving : Bool} {question : String} {excluded : List String}
    {project : Option String} {next : Option Symbol → Flow Outcome}
    (hnone : next none = pure .cancelled) (hnext : ∀ symbol, Follows saving (next (some symbol))) :
    Follows saving (selectTargetClass question excluded project >>= next) := by
  rw [selectTargetClass, bind_assoc]
  refine .bind (.server (.ask rfl)) fun symbols => ?_
  dsimp only
  split
  · exact .report_bind rfl _
  · exact .choose hnone hnext

theorem follows_moveFiles (uris : List Uri) : Follows true (moveFiles uris) := by
  unfold moveFiles
  cases Uri.haveCommonParent uris with
  | false => exact .report_bind rfl _
  | true =>
    refine follows_pickPackage_bind rfl fun package => ?_
    refine .lift_bind ((consults_movable? none package uris).mono fun _ => Call.Consults.role_eq)
      (fun moving => ?_) fun moving events h => ?_
    · cases moving with
      | none => exact .idle
      | some moving => exact .commit _
    · cases moving with
      | none => cases (Flow.runs_pure.mp h).2
      | some moving => exact not_cancelled_commit h

theorem follows_moveTypeToPackage (selection : Selection) (info : CommandInfo) :
    Follows true (moveTypeToPackage selection info) :=
  follows_pickPackage_bind rfl fun _ => .commit _

theorem follows_moveInstanceMethod (selection : Selection) (info : CommandInfo) :
    Follows false (moveInstanceMethod selection info) :=
  .bind (inquires_offered _ _ _) fun _ => .choose rfl fun _ => .commit _

theorem follows_moveStaticMember (selection : Selection) (info : CommandInfo) :
    Follows false (moveStaticMember selection info) :=
  follows_selectTargetClass_bind rfl fun _ => .commit _

theorem follows_moveTypeToClass (selection : Selection) (info : CommandInfo) :
    Follows false (moveTypeToClass selection info) :=
  follows_selectTargetClass_bind rfl fun _ => .commit _

theorem follows_initializationScope_bind {saving : Bool} {kind : RefactoringKind}
    {info : CommandInfo} {next : Option (List Json) → Flow Outcome}
    (hnone : next none = pure .cancelled)
    (hnext : ∀ arguments, Follows saving (next (some arguments))) :
    Follows saving (initializationScope kind info >>= next) := by
  unfold initializationScope
  cases kind.introducesField with
  | false => exact hnext _
  | true =>
    rcases info.initializedScopes.getD [] with _ | ⟨scope, _ | ⟨other, scopes⟩⟩
    · exact hnext _
    · exact hnext _
    · rw [Bool.not_true, if_neg Bool.false_ne_true, bind_assoc]
      exact .choose hnone fun _ => hnext _

/-- Without an active editor an edit is not asked for. -/
theorem runs_computeAndApply {kind : RefactoringKind} {selection : Selection} {info : CommandInfo}
    {events : List CallEvent} {result : Except Problem Outcome}
    (h : Runs (computeAndApply kind selection info) events result) :
    events = [⟨.formattingOptions, none⟩] ∧ result = .error .noActiveEditor ∨
      Course false events result := by
  obtain ⟨asked, rest, options, rfl, hasked, hrest⟩ := Flow.runs_lift_bind.mp h
  obtain rfl := Program.runs_request.mp hasked
  cases options with
  | none =>
    obtain ⟨rfl, rfl⟩ := Flow.runs_throw.mp hrest
    exact .inl ⟨rfl, rfl⟩
  | some options =>
    right
    have hcourse := follows_initializationScope_bind rfl
      (fun _ => .received (asksForResult_refactorEdit _)) rest result hrest
    exact hcourse.after (preliminary_singleton (.inl rfl)) fun _ =>
      List.forall_mem_singleton.mpr rfl

/-! ## Errands -/

/-- Whether the server is asked for the result of an errand. -/
def Errand.asksServer : Errand → Bool
  | ended _ | rename _ | carryOut _ _ => false
  | _ => true

/-- The calls for an errand when there is no active editor: whether there is one has been asked, and
before that the user has at most been asked where a type moves to. -/
inductive Errand.Inactive : Errand → List CallEvent → Prop
  | edit {kind : RefactoringKind} {selection : Selection} {info : CommandInfo} :
      Inactive (.edit kind selection info) [⟨.formattingOptions, none⟩]
  | chosen {selection : Selection} {info : CommandInfo} {i : Nat}
      (hi : info.typeDestinations[i]? = some .newFile) :
      Inactive (.moveType selection info)
        [info.typeChoice (.ok (some i)), ⟨.formattingOptions, none⟩]

/-- How a run of an errand can go. -/
inductive Errand.Course : Errand → List CallEvent → Except Problem Outcome → Prop
  | ended (result : Except Problem Outcome) : Course (.ended result) [] result
  | requested {errand : Errand} {events : List CallEvent} {result : Except Problem Outcome}
      (hasks : errand.asksServer) (h : Refactoring.Course errand.saves events result) :
      Course errand events result
  /-- A type moves on as the user has chosen. -/
  | branched {selection : Selection} {info : CommandInfo} {i : Nat}
      {destination : TypeDestination} {rest : List CallEvent} {result : Except Problem Outcome}
      (hi : info.typeDestinations[i]? = some destination)
      (h : Refactoring.Course (destination.errand selection info).saves rest result) :
      Course (.moveType selection info) (info.typeChoice (.ok (some i)) :: rest) result
  /-- There is no editor to take formatting options from. -/
  | inactive {errand : Errand} {events : List CallEvent} (h : errand.Inactive events) :
      Course errand events (.error .noActiveEditor)
  /-- A rename counts as applied, whatever becomes of it. -/
  | renamed {position : RenamePosition} {events : List CallEvent}
      (h : ∀ event ∈ events, event.1.role = .presenting) :
      Course (.rename position) events (.ok .applied)
  | given {saving : Bool} {sent : Option RefactoringResult} {events : List CallEvent}
      {result : Except Problem Outcome} (h : CarriesOut saving sent events result) :
      Course (.carryOut saving sent) events result

theorem course_branch {selection : Selection} {info : CommandInfo} {i : Nat}
    {destination : TypeDestination} (hi : info.typeDestinations[i]? = some destination)
    {rest : List CallEvent} {result : Except Problem Outcome}
    (h : Runs (destination.errand selection info).flow rest result) :
    (Errand.moveType selection info).Course (info.typeChoice (.ok (some i)) :: rest) result := by
  cases destination with
  | newFile =>
    rcases runs_computeAndApply h with ⟨rfl, rfl⟩ | hcourse
    · exact .inactive (.chosen hi)
    · exact .branched hi hcourse
  | package => exact .branched hi (follows_moveTypeToPackage selection info _ _ h)
  | insideClass => exact .branched hi (follows_moveTypeToClass selection info _ _ h)

theorem course_moveType {selection : Selection} {info : CommandInfo} {events : List CallEvent}
    {result : Except Problem Outcome} (h : Runs (moveType selection info) events result) :
    (Errand.moveType selection info).Course events result := by
  rw [moveType_eq] at h
  split at h
  · exact .requested rfl (Follows.idle _ _ h)
  · obtain ⟨reply, rest, rfl, ⟨failure, rfl, rfl, rfl⟩ | ⟨hdismisses, hrest⟩ |
      ⟨i, destination, rfl, hi, hrest⟩⟩ := Flow.runs_choose_cases _ _ _ h
    · exact .requested rfl (.failed (preliminary_singleton (.inr rfl)) rfl)
    · obtain ⟨rfl, rfl⟩ := Flow.runs_pure.mp hrest
      exact .requested rfl (@Course.dismissed _ [] _ _ _ (List.forall_mem_nil _) hdismisses)
    · exact course_branch hi hrest

theorem Errand.course {errand : Errand} {events : List CallEvent}
    {result : Except Problem Outcome} (h : Runs errand.flow events result) :
    errand.Course events result := by
  cases errand with
  | ended value =>
    obtain ⟨rfl, rfl⟩ := Flow.runs_mk_pure.mp h
    exact .ended _
  | moveFiles uris => exact .requested rfl (follows_moveFiles uris _ _ h)
  | moveInstanceMethod selection info =>
    exact .requested rfl (follows_moveInstanceMethod selection info _ _ h)
  | moveStaticMember selection info =>
    exact .requested rfl (follows_moveStaticMember selection info _ _ h)
  | moveTypeToPackage selection info =>
    exact .requested rfl (follows_moveTypeToPackage selection info _ _ h)
  | moveTypeToClass selection info =>
    exact .requested rfl (follows_moveTypeToClass selection info _ _ h)
  | moveType selection info => exact course_moveType h
  | edit kind selection info =>
    rcases runs_computeAndApply h with ⟨rfl, rfl⟩ | hcourse
    · exact .inactive .edit
    · exact .requested rfl hcourse
  | rename position =>
    have hpresents := presents_rename position events result h
    obtain ⟨before, after, value, -, -, hrest⟩ := Flow.runs_lift_bind.mp h
    obtain ⟨-, rfl⟩ := Flow.runs_pure.mp hrest
    exact .renamed hpresents
  | carryOut saving sent => exact .given (runs_carryOut.mp h)

end Refactoring
