import Refactoring.Proofs.Flow.Applied
import Refactoring.Proofs.Text.Addressable

/-!
# How a rename is started

A rename opens its document, shows it and has the host start, each only if the step before has come
to something.  Wherever it stops, nobody is told: it has brought up a document and done nothing
else.
-/

namespace Refactoring

open Refactoring.Flow (Runs)

variable {events : List CallEvent} {arguments : List Json} {position : RenamePosition}
  {result : Except Problem Outcome}

/-- The ways that starting a rename in a document can go: the document is not there, it cannot be
shown, or the host is to start, whatever it replies. -/
inductive RenameCourse (uri : Uri) (offset : Nat) : List CallEvent → Prop
  | unopened (opened : Except Failure (Option Document))
      (hopened : ∀ document, opened ≠ .ok (some document)) :
      RenameCourse uri offset [⟨.openDocument uri, opened⟩]
  | unshown (document : Document) (failure : Failure) :
      RenameCourse uri offset
        [⟨.openDocument uri, .ok (some document)⟩, ⟨.showDocument document, .error failure⟩]
  | started (document : Document) (reply : Except Failure (Option Json)) :
      RenameCourse uri offset
        [⟨.openDocument uri, .ok (some document)⟩, ⟨.showDocument document, .ok ()⟩,
          ⟨.runCommand hostRename [.string uri.text, (document.positionAt offset).toJson], reply⟩]

theorem renameCourse_of_runs {uri : Uri} {value : Unit}
    (h : Program.Runs (startRename position uri) events value) :
    RenameCourse uri position.offset events := by
  obtain ⟨opened, events, rfl, hopened⟩ := Program.runs_ask.mp h
  rcases opened with failure | _ | document
  · obtain ⟨rfl, -⟩ := Program.runs_done.mp hopened
    exact .unopened _ nofun
  · obtain ⟨rfl, -⟩ := Program.runs_done.mp hopened
    exact .unopened _ nofun
  · obtain ⟨shown, events, rfl, hshown⟩ := Program.runs_ask.mp hopened
    rcases shown with failure | ⟨⟩
    · obtain ⟨rfl, -⟩ := Program.runs_done.mp hshown
      exact .unshown document failure
    · obtain ⟨reply, events, rfl, hran⟩ := Program.runs_ask.mp hshown
      obtain ⟨rfl, -⟩ := Program.runs_done.mp hran
      exact .started document reply

/-- A rename trigger makes no call if its URI is none, and starts a rename otherwise. -/
theorem runs_triggerRename_cases {value : Unit}
    (h : Program.Runs (triggerRename position) events value) :
    events = [] ∨
      ∃ uri, Uri.parse position.uri = .ok uri ∧ RenameCourse uri position.offset events := by
  unfold triggerRename at h
  cases huri : Uri.parse position.uri with
  | error fault =>
    rw [huri] at h
    exact .inl (Program.runs_done.mp h).1
  | ok uri =>
    rw [huri] at h
    exact .inr ⟨uri, rfl, renameCourse_of_runs h⟩

/-- The command makes no call if its argument is no position, and never fails. -/
theorem Flow.Runs.rename_cases (h : Runs (Errand.ofRename arguments).flow events result) :
    (∃ outcome, result = .ok outcome) ∧ (events = [] ∨ ∃ position uri,
      renamePosition? arguments = some position ∧ Uri.parse position.uri = .ok uri ∧
        RenameCourse uri position.offset events) := by
  unfold Errand.ofRename at h
  rw [← renamePosition?] at h
  cases hposition : renamePosition? arguments with
  | none =>
    rw [hposition] at h
    obtain ⟨rfl, rfl⟩ := Flow.runs_pure.mp h
    exact ⟨⟨_, rfl⟩, .inl rfl⟩
  | some position =>
    rw [hposition] at h
    obtain ⟨before, after, value, rfl, htrigger, hend⟩ := Flow.runs_lift_bind.mp h
    obtain ⟨rfl, rfl⟩ := Flow.runs_pure.mp hend
    rw [List.append_nil]
    refine ⟨⟨_, rfl⟩, (runs_triggerRename_cases htrigger).imp_right ?_⟩
    rintro ⟨uri, huri, hcourse⟩
    exact ⟨position, uri, rfl, huri, hcourse⟩

theorem RenameCourse.presents {uri : Uri} {offset : Nat} (h : RenameCourse uri offset events) :
    ∀ event ∈ events, event.1.role = .presenting := by
  cases h <;> simp [Call.role]

/-- The command of a rename never fails, and only opens and shows a document and runs a command of
the host.  If the host is to start the rename, then at last and once, in a document that has been
opened and shown, and at the greatest addressable offset that is not above the one asked for. -/
theorem Client.execute_rename {client : Client} (own : renameCommand ∉ client.hosted)
    (h : Runs (client.execute renameCommand arguments) events result) :
    (∃ outcome, result = .ok outcome) ∧ (∀ event ∈ events, event.1.role = .presenting) ∧
      ∀ name sent reply, ⟨.runCommand name sent, reply⟩ ∈ events →
        ∃ position uri document place, renamePosition? arguments = some position ∧
          Uri.parse position.uri = .ok uri ∧ name = hostRename ∧
          sent = [.string uri.text, Position.toJson place] ∧
          events = [⟨.openDocument uri, .ok (some document)⟩, ⟨.showDocument document, .ok ()⟩,
            ⟨.runCommand name sent, reply⟩] ∧
          IsGreatest {offset | Text.Addressable document.text.toList offset ∧
            offset ≤ position.offset} (Text.offsetAt document.text.toList place) := by
  rw [← Errand.flow_ofCommand own, Errand.ofCommand, if_pos rfl] at h
  obtain ⟨hresult, rfl | ⟨position, uri, hposition, huri, hcourse⟩⟩ := h.rename_cases
  · exact ⟨hresult, by simp, by simp⟩
  · refine ⟨hresult, hcourse.presents, fun name sent reply hran => ?_⟩
    cases hcourse with
    | unopened => simp at hran
    | unshown => simp at hran
    | started document reply' =>
      obtain ⟨⟨rfl, rfl⟩, rfl⟩ := by simpa using hran
      exact ⟨position, uri, document, document.positionAt position.offset, hposition, huri, rfl,
        rfl, rfl, Text.isGreatest_offsetAt_positionAt document.text.toList position.offset⟩

/-- A place in the middle of a character of two units, in a document named in a roundabout way. -/
def withinCharacter : List Json :=
  [.object [("uri", .string "file:///src/../A.java"), ("offset", .ofNat 4)]]

/-- The document has two lines, with a pair of line breaks between them. -/
def twoLines : Document := ⟨.localResource ["A.java"], "a\r\n😀"⟩

/-- The rename starts in front of the character, and the host fails to carry it out. -/
def renameInFront : List CallEvent :=
  [⟨.openDocument (.localResource ["A.java"]), .ok (some twoLines)⟩,
    ⟨.showDocument twoLines, .ok ()⟩,
    ⟨.runCommand hostRename [.string "file:///A.java", Position.toJson ⟨1, 0⟩],
      .error (.of "failed")⟩]

theorem Client.execute_rename_withinCharacter :
    Runs ((Client.mk []).execute renameCommand withinCharacter) renameInFront (.ok .applied) ∧
      (∀ event ∈ renameInFront, event.1.role = .presenting) ∧
      ∃ place, Position.toJson place = Position.toJson ⟨1, 0⟩ ∧
        IsGreatest {offset | Text.Addressable twoLines.text.toList offset ∧ offset ≤ 4}
          (Text.offsetAt twoLines.text.toList place) := by
  have hruns : Runs ((Client.mk []).execute renameCommand withinCharacter) renameInFront
      (.ok .applied) := .ask (.ask (.ask (.done _)))
  obtain ⟨-, hpresents, hran⟩ := Client.execute_rename List.not_mem_nil hruns
  obtain ⟨position, uri, document, place, hposition, -, -, hsent, hevents, hgreatest⟩ :=
    hran _ _ _ (List.mem_of_mem_getLast? rfl)
  obtain rfl : ⟨"file:///src/../A.java", 4⟩ = position := Option.some.inj hposition
  have hdocument : twoLines = document := by
    simp only [renameInFront, List.cons.injEq, Sigma.mk.injEq, Call.showDocument.injEq] at hevents
    exact hevents.2.1.1
  subst hdocument
  obtain ⟨-, hplace⟩ := by simpa using hsent
  exact ⟨hruns, hpresents, place, hplace.symm, hgreatest⟩

end Refactoring
