import Refactoring.Proofs.Flow.Choices
import Refactoring.Proofs.Flow.Courses

/-!
# Dismissed pickers

A run that is cancelled ends with the picker that was dismissed, and until then it has only
inquired.  The number of a row that is not there is a dismissal like any other: two runs that only
differ in how a picker was dismissed make the same calls and end in the same way.
-/

namespace Refactoring

open Refactoring.Flow (Runs)

/-! ## Runs that are alike -/

/-- The same call with the same reply, or the same picker that is dismissed both times. -/
inductive AlikeEvents : CallEvent → CallEvent → Prop
  | same (event : CallEvent) : AlikeEvents event event
  | dismissed {items : List PickItem} {question : String}
      {reply reply' : Except Failure (Option Nat)} (h : Dismisses items reply)
      (h' : Dismisses items reply') :
      AlikeEvents ⟨.pick items question, reply⟩ ⟨.pick items question, reply'⟩

/-- As long as the same calls are made, they are replied to alike. -/
def RepliedAlike : List CallEvent → List CallEvent → Prop
  | event :: rest, event' :: rest' =>
    event.1 = event'.1 → AlikeEvents event event' ∧ RepliedAlike rest rest'
  | _, _ => True

/-- A dialogue that goes on in the same way after replies that are alike. -/
def Steady {α : Type} : Dialogue α → Prop
  | .done _ => True
  | .ask call next =>
    (∀ reply reply', AlikeEvents ⟨call, reply⟩ ⟨call, reply'⟩ → next reply = next reply') ∧
      ∀ reply, Steady (next reply)

namespace Steady

variable {α β : Type} {dialogue : Dialogue α} {events events' : List CallEvent} {value value' : α}

/-- Runs of a steady dialogue that are replied to alike make the same calls and have the same
value. -/
theorem runs_eq (h : Steady dialogue) (hruns : Program.Runs dialogue events value)
    (hruns' : Program.Runs dialogue events' value') (halike : RepliedAlike events events') :
    events.map (·.1) = events'.map (·.1) ∧ value = value' := by
  induction dialogue generalizing events events' with
  | done last =>
    obtain ⟨rfl, rfl⟩ := Program.runs_done.mp hruns
    obtain ⟨rfl, rfl⟩ := Program.runs_done.mp hruns'
    exact ⟨rfl, rfl⟩
  | ask call next ih =>
    obtain ⟨reply, rest, rfl, hrest⟩ := Program.runs_ask.mp hruns
    obtain ⟨reply', rest', rfl, hrest'⟩ := Program.runs_ask.mp hruns'
    obtain ⟨hevents, hlater⟩ := halike rfl
    -- Both replies lead on to one dialogue, of which both rests are runs.
    rw [← h.1 reply reply' hevents] at hrest'
    obtain ⟨hcalls, hvalue⟩ := ih reply (h.2 reply) hrest hrest' hlater
    exact ⟨congrArg (call :: ·) hcalls, hvalue⟩

/-- In place of a dismissal there can be any other. -/
theorem runs_dismissed (h : Steady dialogue) {before after : List CallEvent}
    {items : List PickItem} {question : String} {reply reply' : Except Failure (Option Nat)}
    (hreply : Dismisses items reply) (hreply' : Dismisses items reply')
    (hruns : Program.Runs dialogue (before ++ ⟨.pick items question, reply⟩ :: after) value) :
    Program.Runs dialogue (before ++ ⟨.pick items question, reply'⟩ :: after) value := by
  induction before generalizing dialogue with
  | nil =>
    cases dialogue with
    | done last => cases hruns
    | ask call next =>
      obtain ⟨reply, rest, hevents, hrest⟩ := Program.runs_ask.mp hruns
      obtain ⟨hcall, rfl⟩ := List.cons.inj hevents
      cases hcall
      rw [h.1 _ _ (.dismissed hreply hreply')] at hrest
      exact .ask hrest
  | cons first before ih =>
    cases dialogue with
    | done last => cases hruns
    | ask call next =>
      obtain ⟨reply, rest, hevents, hrest⟩ := Program.runs_ask.mp hruns
      obtain ⟨rfl, rfl⟩ := List.cons.inj hevents
      exact .ask (ih (h.2 reply) hrest)

theorem bind {next : α → Dialogue β} (h : Steady dialogue)
    (hnext : ∀ value, Steady (next value)) : Steady (dialogue >>= next) := by
  induction dialogue with
  | done value => exact hnext value
  | ask call rest ih =>
    constructor
    · intro reply reply' halike
      exact congrArg (Program.bind · next) (h.1 reply reply' halike)
    · exact fun reply => ih reply (h.2 reply)

/-- Only at a choice there are different replies that are alike. -/
theorem of_within (h : Within (fun call => call.role ≠ .choosing) dialogue) :
    Steady dialogue := by
  induction dialogue with
  | done value => trivial
  | ask call next ih =>
    have hcall : call.role ≠ .choosing := by
      obtain ⟨events, value, hruns⟩ :=
        Program.exists_runs Call.nonempty_reply (Program.ask call next)
      obtain ⟨reply, rest, rfl, -⟩ := Program.runs_ask.mp hruns
      exact h _ _ hruns _ List.mem_cons_self
    constructor
    · intro reply reply' halike
      cases halike with
      | same => rfl
      | dismissed => exact absurd rfl hcall
    · intro reply
      exact ih reply fun events value hruns event hevent =>
        h _ _ (.ask hruns) event (List.mem_cons_of_mem _ hevent)

end Steady

/-- A flow that goes on in the same way after replies that are alike. -/
def Flow.Steady {α : Type} (flow : Flow α) : Prop := Refactoring.Steady flow.run

namespace Flow.Steady

variable {α β : Type}

theorem bind {flow : Flow α} {next : α → Flow β} (h : Steady flow)
    (hnext : ∀ value, Steady (next value)) : Steady (flow >>= next) := by
  refine Refactoring.Steady.bind h fun value => ?_
  cases value with
  | ok value => exact hnext value
  | error problem => trivial

theorem of_decided {flow : Flow α} (h : flow.Decided) : Steady flow := .of_within h

theorem pure (value : α) : Steady (Pure.pure value : Flow α) := trivial

/-- A row that is not there is no row. -/
theorem choose (values : List α) (row : α → PickItem) (question : String) :
    Steady (Flow.choose values row question) := by
  rw [choose_eq]
  have hends {reply : Except Failure (Option Nat)} (h : Dismisses (values.map row) reply) :
      (Flow.editor (.done reply) >>= fun choice => Pure.pure (choice.bind fun i => values[i]?)) =
        (Pure.pure none : Flow (Option α)) := by
    cases h with
    | none => rfl
    | @absent i hi =>
      have hvalue : values[i]? = none := by simpa using hi
      exact congrArg (fun value => (Pure.pure value : Flow (Option α))) hvalue
  constructor
  · intro reply reply' halike
    cases halike with
    | same => rfl
    | dismissed h h' => exact (hends h).trans (hends h').symm
  · intro reply
    cases reply <;> trivial

end Flow.Steady

open Refactoring.Flow (Decided)

/-! ## The flows -/

theorem decided_of_consults {α : Type} {query : Option MoveRequest} {flow : Flow α}
    (h : flow.Within (Call.Consults query)) : flow.Decided :=
  h.mono fun call hcall => by simp [hcall.role_eq]

theorem steady_commit (saving : Bool) (request : MoveRequest) : (request.commit saving).Steady :=
  .of_decided (decided_commit saving request)

theorem steady_pickPackage (query : MoveRequest) (question : String) :
    (pickPackage query question).Steady := by
  refine .bind (.of_decided (decided_of_consults (consults_offered _ _ _))) fun packages => ?_
  refine .bind (.of_decided (decided_of_consults (.lift (consults_withPlaces none packages))))
    fun places => ?_
  exact .bind (.choose _ _ _) fun choice => .pure _

theorem steady_selectTargetClass (question : String) (excluded : List String)
    (project : Option String) : (selectTargetClass question excluded project).Steady := by
  refine .bind (.of_decided (.orElse (.ask nofun))) fun symbols => ?_
  dsimp only
  split
  · exact .of_decided (decided_report_bind _ _)
  · exact .choose _ _ _

theorem steady_initializationScope (kind : RefactoringKind) (info : CommandInfo) :
    (initializationScope kind info).Steady := by
  unfold initializationScope
  cases kind.introducesField with
  | false => exact .pure _
  | true =>
    rcases info.initializedScopes.getD [] with _ | ⟨scope, _ | ⟨other, scopes⟩⟩
    · exact .pure _
    · exact .pure _
    · exact .bind (.choose _ _ _) fun choice => .pure _

theorem steady_moveFiles (uris : List Uri) : (moveFiles uris).Steady := by
  unfold moveFiles
  cases Uri.haveCommonParent uris with
  | false => exact .of_decided (decided_report_bind _ _)
  | true =>
    refine .bind (steady_pickPackage _ _) fun choice => ?_
    cases choice with
    | none => exact .pure _
    | some package =>
      refine .bind (.of_decided (decided_of_consults (.lift (consults_movable? none package uris))))
        fun moving => ?_
      cases moving with
      | none => exact .pure _
      | some moving => exact steady_commit _ _

theorem steady_moveTypeToPackage (selection : Selection) (info : CommandInfo) :
    (moveTypeToPackage selection info).Steady := by
  refine .bind (steady_pickPackage _ _) fun choice => ?_
  cases choice with
  | none => exact .pure _
  | some package => exact steady_commit _ _

theorem steady_moveInstanceMethod (selection : Selection) (info : CommandInfo) :
    (moveInstanceMethod selection info).Steady := by
  refine .bind (.of_decided (decided_of_consults (consults_offered _ _ _))) fun targets => ?_
  refine .bind (.choose _ _ _) fun choice => ?_
  cases choice with
  | none => exact .pure _
  | some target => exact steady_commit _ _

theorem steady_moveStaticMember (selection : Selection) (info : CommandInfo) :
    (moveStaticMember selection info).Steady := by
  refine .bind (steady_selectTargetClass _ _ _) fun choice => ?_
  cases choice with
  | none => exact .pure _
  | some target => exact steady_commit _ _

theorem steady_moveTypeToClass (selection : Selection) (info : CommandInfo) :
    (moveTypeToClass selection info).Steady := by
  refine .bind (steady_selectTargetClass _ _ _) fun choice => ?_
  cases choice with
  | none => exact .pure _
  | some target => exact steady_commit _ _

theorem steady_computeAndApply (kind : RefactoringKind) (selection : Selection)
    (info : CommandInfo) : (computeAndApply kind selection info).Steady := by
  refine .bind (.of_decided (.lift (.ask nofun))) fun options => ?_
  cases options with
  | none => exact .of_decided (.throw _)
  | some options =>
    refine .bind (steady_initializationScope kind info) fun arguments => ?_
    cases arguments with
    | none => exact .pure _
    | some arguments =>
      exact .of_decided (.bind (.orElse (.ask nofun)) fun sent => decided_carryOut false sent)

theorem TypeDestination.steady (destination : TypeDestination) (selection : Selection)
    (info : CommandInfo) : (destination.errand selection info).flow.Steady := by
  cases destination with
  | newFile => exact steady_computeAndApply _ selection info
  | package => exact steady_moveTypeToPackage selection info
  | insideClass => exact steady_moveTypeToClass selection info

theorem steady_moveType (selection : Selection) (info : CommandInfo) :
    (moveType selection info).Steady := by
  rw [moveType_eq]
  split
  · exact .pure _
  · refine .bind (.choose _ _ _) fun choice => ?_
    cases choice with
    | none => exact .pure _
    | some destination => exact destination.steady selection info

theorem Errand.steady (errand : Errand) : errand.flow.Steady := by
  cases errand with
  | ended value => trivial
  | moveFiles uris => exact steady_moveFiles uris
  | moveInstanceMethod selection info => exact steady_moveInstanceMethod selection info
  | moveStaticMember selection info => exact steady_moveStaticMember selection info
  | moveTypeToPackage selection info => exact steady_moveTypeToPackage selection info
  | moveTypeToClass selection info => exact steady_moveTypeToClass selection info
  | moveType selection info => exact steady_moveType selection info
  | edit kind selection info => exact steady_computeAndApply kind selection info
  | rename position =>
    have hdecided : (Errand.rename position).flow.Decided :=
      (presents_rename position).mono fun call hcall => by simp [hcall]
    exact Flow.Steady.of_decided hdecided
  | carryOut saving sent => exact Flow.Steady.of_decided (decided_carryOut saving sent)

/-! ## Cancelled runs -/

/-- These calls inquire and then let the user choose, which the user declines. -/
inductive EndsDismissed : List CallEvent → Prop
  | mk {asked : List CallEvent} {items : List PickItem} {question : String}
      {reply : Except Failure (Option Nat)} (hasked : ∀ event ∈ asked, event.1.inquires)
      (hreply : Dismisses items reply) : EndsDismissed (asked ++ [⟨.pick items question, reply⟩])

variable {events : List CallEvent} {result : Except Problem Outcome}

theorem Course.endsDismissed {saving : Bool} (h : Course saving events (.ok .cancelled)) :
    EndsDismissed events := by
  cases h with
  | dismissed hasked hreply => exact .mk hasked hreply
  | received _ hcarries => exact absurd rfl hcarries.ne_cancelled

theorem EndsDismissed.after {event : CallEvent} (h : EndsDismissed events)
    (hevent : event.1.inquires) : EndsDismissed (event :: events) := by
  cases h with
  | mk hasked hreply =>
    exact .mk (List.forall_mem_cons.mpr ⟨hevent, hasked⟩) hreply

theorem Errand.Course.endsDismissed {errand : Errand} (hsound : errand.IsSound)
    (h : errand.Course events (.ok .cancelled)) : EndsDismissed events := by
  cases h with
  | ended => cases hsound
  | requested _ hcourse => exact hcourse.endsDismissed
  | branched _ hbranch => exact hbranch.endsDismissed.after rfl
  | given hcarries => exact absurd rfl hcarries.ne_cancelled

/-- A run of a service that is cancelled ends with a dismissed picker, and before that it has only
inquired.  The picker can as well be dismissed in any other way, a row that is not there included.
And any two runs that are replied to alike, where pickers may be dismissed in different ways, make
the same calls and end in the same way. -/
theorem Service.dismissals_alike {service : Service} (h : Runs service.flow events result) :
    (result = .ok .cancelled → EndsDismissed events) ∧
      (∀ before items question reply reply' after,
        events = before ++ ⟨.pick items question, reply⟩ :: after →
        Dismisses items reply → Dismisses items reply' →
        Runs service.flow (before ++ ⟨.pick items question, reply'⟩ :: after) result) ∧
      ∀ events' result', Runs service.flow events' result' → RepliedAlike events events' →
        events.map (·.1) = events'.map (·.1) ∧ result = result' := by
  rw [service.flow_eq] at h ⊢
  refine ⟨?_, ?_, ?_⟩
  · rintro rfl
    exact (Errand.course h).endsDismissed service.isSound_errand
  · rintro before items question reply reply' after rfl hreply hreply'
    exact service.errand.steady.runs_dismissed hreply hreply' h
  · intro events' result' h' halike
    exact service.errand.steady.runs_eq h h' halike

/-- A file is to move, and the picker with the only package is replied to in this way. -/
def onePackageOffered (reply : Except Failure (Option Nat)) : List CallEvent :=
  [⟨.moveDestinations (filesQuery [.localResource ["A"]]),
      .ok (some ⟨none, [.package packageWithPath]⟩)⟩,
    ⟨.pick [packageWithPath.row (some "b")] (filesPlaceholder [.localResource ["A"]]), reply⟩]

/-- The eighth of one row is no row. -/
theorem Service.dismissals_alike_onePackageOffered :
    Runs (Service.flow (.moveFiles [.localResource ["A"]])) (onePackageOffered (.ok none))
        (.ok .cancelled) ∧
      EndsDismissed (onePackageOffered (.ok none)) ∧
      Runs (Service.flow (.moveFiles [.localResource ["A"]])) (onePackageOffered (.ok (some 7)))
        (.ok .cancelled) ∧
      (onePackageOffered (.ok none)).map (·.1) = (onePackageOffered (.ok (some 7))).map (·.1) := by
  have hruns : Runs (Service.flow (.moveFiles [.localResource ["A"]]))
      (onePackageOffered (.ok none)) (.ok .cancelled) := .ask (.ask (.done _))
  have habsent : Dismisses [packageWithPath.row (some "b")] (.ok (some 7)) := .absent (by decide)
  have halike : RepliedAlike (onePackageOffered (.ok none)) (onePackageOffered (.ok (some 7))) :=
    fun _ => ⟨.same _, fun _ => ⟨.dismissed .none habsent, trivial⟩⟩
  obtain ⟨hends, hother, hsame⟩ := Service.dismissals_alike hruns
  have hruns' := hother ((onePackageOffered (.ok none)).take 1) [packageWithPath.row (some "b")]
    (filesPlaceholder [.localResource ["A"]]) (.ok none) (.ok (some 7)) [] rfl .none habsent
  exact ⟨hruns, hends rfl, hruns', (hsame _ _ hruns' halike).1⟩

end Refactoring
