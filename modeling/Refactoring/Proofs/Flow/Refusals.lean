import Refactoring.Proofs.Flow.Courses

/-!
# Refused commands

A command is looked at as a whole before the first call is made for it, so that nothing has happened
if it is refused.  That there is no active editor turns out later, but before the server is asked
for anything.
-/

namespace Refactoring

open Refactoring.Flow (Runs)

variable {saving : Bool} {errand : Errand} {sent : Option RefactoringResult}
  {events : List CallEvent} {problem : Problem}

/-! ## Problems of the courses -/

theorem EditRefused.arises {edit : Option WorkspaceEdit} (h : EditRefused edit events problem) :
    problem.arises := by
  cases h <;> rfl

theorem CarriesOut.arises (h : CarriesOut saving sent events (.error problem)) :
    problem.arises := by
  cases h with
  | refused => rfl
  | unedited _ hedit => exact hedit.arises
  | uncommanded => rfl

theorem Course.arises (h : Course saving events (.error problem)) : problem.arises := by
  cases h with
  | failed _ hproblem => exact hproblem
  | lost => rfl
  | received _ hcarries => exact hcarries.arises

/-- A problem comes up on the way, or it is there before the first call, or it is that no editor is
active. -/
theorem Errand.Course.error_cases (h : errand.Course events (.error problem)) :
    problem.arises ∨ (errand = .ended (.error problem) ∧ events = []) ∨
      (problem = .noActiveEditor ∧ errand.Inactive events) := by
  cases h with
  | ended => exact .inr (.inl ⟨rfl, rfl⟩)
  | requested _ hcourse => exact .inl hcourse.arises
  | branched _ hcourse => exact .inl hcourse.arises
  | inactive hinactive => exact .inr (.inr ⟨rfl, hinactive⟩)
  | given hcarries => exact .inl hcarries.arises

/-! ## Commands -/

theorem Problem.not_arises_of_refuses (h : problem.refuses) : ¬ problem.arises := by
  cases problem with
  | unsupported | unknownCommand | invalidArguments => nofun
  | _ => cases h

/-- A command that is refused has made no call, whatever its arguments are.  One that ends because
no editor is active has asked for the formatting options of the editor and for nothing else, except
that a move of a type has had the user choose a new file before. -/
theorem Client.execute_refused {client : Client} {name : String} {arguments : List Json}
    (own : name ∉ client.hosted)
    (h : Runs (client.execute name arguments) events (.error problem)) :
    (problem.refuses → events = []) ∧
      (problem = .noActiveEditor → (Errand.ofCommand name arguments).Inactive events) := by
  rw [← Errand.flow_ofCommand own] at h
  have hsound := Errand.isSound_ofCommand name arguments
  rcases (Errand.course h).error_cases with harises | ⟨hended, rfl⟩ | ⟨rfl, hinactive⟩
  · constructor
    · exact fun hrefuses => absurd harises (Problem.not_arises_of_refuses hrefuses)
    · rintro rfl
      cases harises
  · rw [hended] at hsound
    constructor
    · exact fun _ => rfl
    · rintro rfl
      cases hsound
  · exact ⟨nofun, fun _ => hinactive⟩

/-- A place at the beginning of a document. -/
def documentStart : Json := .object [("line", .ofNat 0), ("character", .ofNat 0)]

/-- The arguments for a move of the type at the beginning of a document, which can only go to a new
file. -/
def typeToNewFile : List Json :=
  [.string "moveType",
    .object [("textDocument", .object [("uri", .string "file:///A.java")]),
      ("range", .object [("start", documentStart), ("end", documentStart)]),
      ("context", .object [("diagnostics", .array [])])],
    .object [("supportedDestinationKinds", .array [.string "newFile"])]]

/-- A new file is chosen, but there is no active editor. -/
def newFileChosen : List CallEvent :=
  [⟨.pick [TypeDestination.newFile.row] typeQuestion, .ok (some 0)⟩, ⟨.formattingOptions, none⟩]

/-- That there is no active editor turns out behind the choice. -/
theorem Client.execute_refused_newFileChosen :
    Runs ((Client.mk []).execute applyCommand typeToNewFile) newFileChosen
        (.error .noActiveEditor) ∧
      (Errand.ofCommand applyCommand typeToNewFile).Inactive newFileChosen := by
  have hruns : Runs ((Client.mk []).execute applyCommand typeToNewFile) newFileChosen
      (.error .noActiveEditor) := .ask (.ask (.done _))
  exact ⟨hruns, (Client.execute_refused List.not_mem_nil hruns).2 rfl⟩

end Refactoring
