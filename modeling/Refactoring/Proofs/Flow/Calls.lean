import Refactoring.Proofs.Flow.Runs

/-!
# What flows ask for

Calls have roles: most of them only consult someone, and few commit the server to something or
change a document.  A part of a flow that only consults can be passed over when a run is searched
for a call in another role.
-/

namespace Refactoring

/-- What a call is made for. -/
inductive Call.Role where
  /-- To learn something or to tell it. -/
  | consulting
  /-- To have the user choose. -/
  | choosing
  /-- To have the server say what a refactoring does. -/
  | committing
  /-- To bring something up in the host. -/
  | presenting
  /-- To change documents. -/
  | changing
  deriving Repr, DecidableEq

/-- The role of a call.  A command that the host has registered may change anything. -/
def Call.role : Call → Role
  | moveDestinations _ | searchSymbols _ | showError _ | showWarning _ | formattingOptions
  | relativePath _ | fileExists _ => .consulting
  | pick _ _ => .choosing
  | refactorEdit _ | move _ => .committing
  | openDocument _ | showDocument _ | runCommand _ _ => .presenting
  | applyEdit _ | saveDocument _ | hosted _ _ => .changing

/-! ## Calls of a kind -/

/-- A dialogue that only makes calls of a kind, whatever is replied. -/
def Within {α : Type} (kind : Call → Prop) (dialogue : Dialogue α) : Prop :=
  ∀ events value, Program.Runs dialogue events value → ∀ event ∈ events, kind event.1

/-- A flow that only makes calls of a kind. -/
def Flow.Within {α : Type} (kind : Call → Prop) (flow : Flow α) : Prop :=
  ∀ events result, Runs flow events result → ∀ event ∈ events, kind event.1

namespace Within

variable {α β : Type} {kind : Call → Prop}

theorem pure (value : α) : Within kind (Pure.pure value : Dialogue α) := by
  intro events result h
  obtain ⟨rfl, -⟩ := Program.runs_done.mp h
  simp

theorem ask {call : Call} (h : kind call) : Within kind (Refactoring.ask call) := by
  intro events reply hruns
  obtain rfl := Program.runs_request.mp hruns
  simpa using h

theorem bind {dialogue : Dialogue α} {next : α → Dialogue β} (h : Within kind dialogue)
    (hnext : ∀ value, Within kind (next value)) : Within kind (dialogue >>= next) := by
  intro events result hruns event hevent
  obtain ⟨before, after, value, rfl, hfirst, hrest⟩ := Program.runs_bind.mp hruns
  rcases List.mem_append.mp hevent with hevent | hevent
  · exact h before value hfirst event hevent
  · exact hnext value after result hrest event hevent

theorem mono {kind' : Call → Prop} {dialogue : Dialogue α} (h : Within kind dialogue)
    (himp : ∀ call, kind call → kind' call) : Within kind' dialogue :=
  fun events value hruns event hevent => himp _ (h events value hruns event hevent)

end Within

namespace Flow.Within

variable {α β : Type} {kind : Call → Prop}

theorem mono {kind' : Call → Prop} {flow : Flow α} (h : Within kind flow)
    (himp : ∀ call, kind call → kind' call) : Within kind' flow :=
  fun events result hruns event hevent => himp _ (h events result hruns event hevent)

/-- A value that is there already, or a problem. -/
theorem mk_pure (value : Except Problem α) :
    Within kind (ExceptT.mk (Pure.pure value) : Flow α) := by
  intro events result h
  obtain ⟨rfl, -⟩ := runs_mk_pure.mp h
  simp

theorem pure (value : α) : Within kind (Pure.pure value : Flow α) := mk_pure (.ok value)

theorem throw (problem : Problem) : Within kind (MonadExcept.throw problem : Flow α) :=
  mk_pure (.error problem)

theorem lift {dialogue : Dialogue α} (h : Refactoring.Within kind dialogue) :
    Within kind (liftM dialogue : Flow α) := by
  intro events result hruns
  obtain ⟨value, hfirst, -⟩ := runs_lift.mp hruns
  exact h events value hfirst

/-- Asking the server or the editor. -/
theorem orElse {problem : Failure → Problem} {dialogue : Dialogue (Except Failure α)}
    (h : Refactoring.Within kind dialogue) : Within kind (Flow.orElse problem dialogue) := by
  intro events result hruns
  obtain ⟨reply, hfirst, -⟩ := runs_orElse.mp hruns
  exact h events reply hfirst

theorem report {problem : Problem} (h : kind (.showError problem.message)) :
    Within kind (Flow.report problem : Flow α) := by
  intro events result hruns
  obtain ⟨rfl, -⟩ := runs_report.mp hruns
  simpa using h

theorem bind {flow : Flow α} {next : α → Flow β} (h : Within kind flow)
    (hnext : ∀ value, Within kind (next value)) : Within kind (flow >>= next) := by
  intro events result hruns event hevent
  rcases runs_bind.mp hruns with ⟨problem, hfirst, rfl⟩ | ⟨before, after, value, rfl, hfirst, hrest⟩
  · exact h events _ hfirst event hevent
  · rcases List.mem_append.mp hevent with hevent | hevent
    · exact h before _ hfirst event hevent
    · exact hnext value after result hrest event hevent

/-- Nothing comes after a problem that is reported. -/
theorem report_bind {problem : Problem} (h : kind (.showError problem.message))
    (next : α → Flow β) : Within kind (Flow.report problem >>= next) := report h

theorem choose {values : List α} {row : α → PickItem} {placeholder : String}
    (h : kind (.pick (values.map row) placeholder)) :
    Within kind (Flow.choose values row placeholder) :=
  bind (bind (orElse (.ask h)) fun _ => pure _) fun _ => pure _

end Flow.Within

/-! ## The dialogues in flows -/

section Dialogues

variable {kind : Call → Prop}

theorem within_saveDocument (hopen : ∀ uri, kind (.openDocument uri))
    (hsave : ∀ uri, kind (.saveDocument uri)) (uri : Uri) : Within kind (saveDocument uri) := by
  refine .bind (.ask (hopen uri)) fun opened => ?_
  rcases opened with _ | _ | document
  · exact .pure _
  · exact .pure _
  · refine .bind (.ask (hsave uri)) fun saved => ?_
    cases saved with
    | ok saved => exact .pure _
    | error failure => exact .pure _

theorem within_saveDocuments (hopen : ∀ uri, kind (.openDocument uri))
    (hsave : ∀ uri, kind (.saveDocument uri)) (uris : List Uri) :
    Within kind (saveDocuments uris) := by
  induction uris with
  | nil => exact .pure _
  | cons uri rest ih =>
    exact .bind (within_saveDocument hopen hsave uri) fun _ => .bind ih fun _ => .pure _

theorem within_shownPlace (hpath : ∀ uri, kind (.relativePath uri)) (node : PackageNode) :
    Within kind node.shownPlace := by
  unfold PackageNode.shownPlace
  cases node.uri? with
  | none => exact .pure _
  | some uri => exact .bind (.ask (hpath uri)) fun _ => .pure _

theorem within_withPlaces (hpath : ∀ uri, kind (.relativePath uri)) (nodes : List PackageNode) :
    Within kind (withPlaces nodes) := by
  induction nodes with
  | nil => exact .pure _
  | cons node rest ih =>
    exact .bind (within_shownPlace hpath node) fun _ => .bind ih fun _ => .pure _

theorem within_withoutDuplicates (hexists : ∀ path, kind (.fileExists path))
    (directory : Disk.FilePath) (uris : List Uri) :
    Within kind (withoutDuplicates directory uris) := by
  induction uris with
  | nil => exact .pure _
  | cons uri rest ih =>
    unfold withoutDuplicates
    cases uri.fileName? with
    | none => exact .bind (.pure _) fun _ => .bind ih fun _ => .pure _
    | some name =>
      refine .bind (.ask (hexists _)) fun _ => ?_
      exact .bind (.pure _) fun _ => .bind ih fun _ => .pure _

theorem within_movable? (hexists : ∀ path, kind (.fileExists path))
    (hwarning : ∀ message, kind (.showWarning message)) (package : PackageNode)
    (uris : List Uri) : Within kind (movable? package uris) := by
  unfold movable?
  cases package.directory? with
  | none => exact .pure _
  | some directory =>
    refine .bind (within_withoutDuplicates hexists directory uris) fun found => ?_
    obtain ⟨names, rest⟩ := found
    cases names with
    | nil => exact .pure _
    | cons name names => exact .bind (.ask (hwarning _)) fun _ => .pure _

theorem within_orReport (hshow : ∀ message, kind (.showError message)) (whenEmpty : String)
    (offer : DestinationList) : (offer.orReport whenEmpty).Within kind := by
  unfold DestinationList.orReport
  cases offer.errorMessage with
  | some message => exact .report_bind (hshow _) _
  | none =>
    cases offer.destinations.isEmpty with
    | true => exact .report_bind (hshow _) _
    | false => exact .pure _

theorem within_offered {α : Type} {query : MoveRequest} (hquery : kind (.moveDestinations query))
    (hshow : ∀ message, kind (.showError message)) (shape : Destination → Option α)
    (whenEmpty : String) : (offered query shape whenEmpty).Within kind := by
  refine .bind (.orElse (.ask hquery)) fun offer => ?_
  refine .bind (within_orReport hshow whenEmpty _) fun destinations => ?_
  by_cases hempty : (destinations.filterMap shape).isEmpty
  · rw [if_pos hempty]
    exact .report_bind (hshow _) _
  · rw [if_neg hempty]
    exact .pure _

theorem within_triggerRename (hopen : ∀ uri, kind (.openDocument uri))
    (hshow : ∀ document, kind (.showDocument document))
    (hrun : ∀ name arguments, kind (.runCommand name arguments)) (position : RenamePosition) :
    Within kind (triggerRename position) := by
  unfold triggerRename
  cases Uri.parse position.uri with
  | error fault => exact .pure _
  | ok uri =>
    refine .bind (.ask (hopen uri)) fun opened => ?_
    rcases opened with _ | _ | document
    · exact .pure _
    · exact .pure _
    · refine .bind (.ask (hshow document)) fun shown => ?_
      cases shown with
      | error failure => exact .pure _
      | ok => exact .bind (.ask (hrun _ _)) fun _ => .pure _

end Dialogues

/-! ## Searching a run -/

namespace Flow.Runs

variable {α β : Type} {kind : Call → Prop} {before after : List CallEvent} {event : CallEvent}

/-- A call that the first part of a flow does not make is made by what comes behind it. -/
theorem past {first : Flow α} {next : α → Flow β} {result : Except Problem β}
    (hfirst : first.Within kind) (hevent : ¬ kind event.1)
    (h : Runs (first >>= next) (before ++ event :: after) result) :
    ∃ passed rest value, before = passed ++ rest ∧ Runs first passed (.ok value) ∧
      Runs (next value) (rest ++ event :: after) result := by
  rcases runs_bind.mp h with ⟨problem, hruns, -⟩ | ⟨passed, later, value, hsplit, hruns, hnext⟩
  · exact absurd (hfirst _ _ hruns event (by simp)) hevent
  · rcases List.append_eq_append_iff.mp hsplit with ⟨more, rfl, hlater⟩ | ⟨rest, rfl, rfl⟩
    · cases more with
      | nil => exact ⟨before, [], value, by simp, by simpa using hruns, by simpa [hlater] using hnext⟩
      | cons other more =>
        obtain ⟨rfl, -⟩ := List.cons.inj hlater
        exact absurd (hfirst _ _ hruns event (by simp)) hevent
    · exact ⟨passed, rest, value, rfl, hruns, hnext⟩

/-- A flow does not make a call that is of no kind it keeps to. -/
theorem not_past {flow : Flow α} {result : Except Problem α} (hflow : flow.Within kind)
    (hevent : ¬ kind event.1) : ¬ Runs flow (before ++ event :: after) result :=
  fun h => hevent (hflow _ _ h event (by simp))

end Flow.Runs

end Refactoring
