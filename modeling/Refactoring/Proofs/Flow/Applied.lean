import Refactoring.Proofs.Flow.Courses

/-!
# When something was applied

A refactoring that the server computes counts as applied if the host has accepted an edit or run a
command.  A rename counts as applied as soon as its position can be read: whatever fails on the way
to it is passed over.
-/

namespace Refactoring

open Refactoring.Flow (Runs)

variable {saving : Bool} {errand : Errand} {sent : Option RefactoringResult}
  {events : List CallEvent} {result : Except Problem Outcome} {outcome : Outcome}

/-! ## Effects -/

/-- Whether a reply says that the host has applied an edit or has run a command. -/
def takesEffect : CallEvent → Bool
  | ⟨.applyEdit _, .ok accepted⟩ => accepted
  | ⟨.runCommand _ _, .ok _⟩ => true
  | _ => false

/-- Something has taken effect. -/
def Effective (events : List CallEvent) : Prop := ∃ event ∈ events, takesEffect event

theorem effective_append {later : List CallEvent} :
    Effective (events ++ later) ↔ Effective events ∨ Effective later := by
  simp only [Effective, List.mem_append, or_and_right, exists_or]

theorem effective_cons {event : CallEvent} :
    Effective (event :: events) ↔ takesEffect event ∨ Effective events := by
  simp only [Effective, List.mem_cons, or_and_right, exists_or, exists_eq_left]

theorem not_effective_nil : ¬ Effective [] := by
  rintro ⟨event, hevent, -⟩
  cases hevent

/-- Only what is brought up in the host or changes documents takes effect. -/
theorem not_takesEffect {event : CallEvent} (hpresents : event.1.role ≠ .presenting)
    (hchanges : event.1.role ≠ .changing) : ¬ takesEffect event := by
  obtain ⟨call, reply⟩ := event
  cases call with
  | applyEdit => exact absurd rfl hchanges
  | runCommand => exact absurd rfl hpresents
  | _ => nofun

theorem Preliminary.not_effective (h : Preliminary events) : ¬ Effective events := by
  rintro ⟨event, hevent, heffect⟩
  rcases h event hevent with hrole | hrole
  all_goals exact not_takesEffect (by simp [hrole]) (by simp [hrole]) heffect

theorem Receives.not_effective (h : Receives events sent) : ¬ Effective events := by
  cases h with
  | @mk earlier event _ hearlier hsent =>
    have hevent : ¬ takesEffect event := by
      unfold received? at hsent
      split at hsent
      · nofun
      · nofun
      · cases hsent
    rw [effective_append, effective_cons]
    rintro (hbefore | hlast | hnone)
    · exact Preliminary.not_effective hearlier hbefore
    · exact hevent hlast
    · exact not_effective_nil hnone

/-! ## Results of the server -/

theorem EditAccepted.effective_iff {edit : Option WorkspaceEdit}
    (h : EditAccepted saving edit events) : Effective events ↔ edit.isSome := by
  cases h with
  | absent => simp [not_effective_nil]
  | unsaved => simp [effective_cons, takesEffect]
  | saved => simp [effective_cons, takesEffect]

theorem CommandRan.effective_iff {command : Option Command} (h : CommandRan command events) :
    Effective events ↔ command.isSome := by
  cases h with
  | absent => simp [not_effective_nil]
  | ran => simp [effective_cons, takesEffect]

theorem CarriesOut.applied_iff_effective (h : CarriesOut saving sent events (.ok outcome)) :
    outcome = .applied ↔ Effective events := by
  cases h with
  | nothing => simp [not_effective_nil]
  | completed _ hedit hcommand =>
    rw [effective_append, hedit.effective_iff, hcommand.effective_iff, ← Bool.or_eq_true]
    split <;> simp_all

theorem Course.applied_iff_effective (h : Course saving events (.ok outcome)) :
    outcome = .applied ↔ Effective events := by
  cases h with
  | idle hevents => simp [Preliminary.not_effective hevents]
  | @dismissed asked items question reply hasked _ =>
    have hlast : Preliminary [⟨.pick items question, reply⟩] := preliminary_singleton (.inr rfl)
    have hevents := List.forall_mem_append.mpr ⟨preliminary_of_inquires hasked, hlast⟩
    simp [Preliminary.not_effective hevents]
  | received hreceives hcarries =>
    rw [hcarries.applied_iff_effective, effective_append]
    simp [hreceives.not_effective]

/-! ## Errands -/

/-- Whether an errand is a rename, which counts as applied whatever becomes of it. -/
def Errand.isRename : Errand → Bool
  | rename _ => true
  | _ => false

theorem Errand.not_isRename_of_asksServer (h : errand.asksServer) : ¬ errand.isRename := by
  cases errand with
  | rename => cases h
  | _ => nofun

theorem Errand.Course.applied_iff_effective (hsound : errand.IsSound)
    (h : errand.Course events (.ok outcome)) :
    outcome = .applied ↔ Effective events ∨ errand.isRename := by
  cases h with
  | ended =>
    obtain rfl : outcome = .nothingToDo := hsound
    simp [not_effective_nil, isRename]
  | requested hasks hcourse =>
    simp [hcourse.applied_iff_effective, not_isRename_of_asksServer hasks]
  | branched hi hbranch =>
    rw [hbranch.applied_iff_effective, effective_cons]
    simp [CommandInfo.typeChoice, takesEffect, isRename]
  | renamed => simp [isRename]
  | given hcarries => simp [hcarries.applied_iff_effective, isRename]

/-! ## Commands -/

/-- The position in the arguments of a rename. -/
def renamePosition? (arguments : List Json) : Option RenamePosition :=
  arguments.head?.bind fun first => (RenamePosition.decode first).toOption

theorem Errand.not_isRename_ofExcept {α : Type} {value : Except Problem α} {errand : α → Errand}
    (h : ∀ value, ¬ (errand value).isRename) : ¬ (ofExcept value errand).isRename := by
  cases value with
  | ok value => exact h value
  | error problem => nofun

theorem Errand.not_isRename_ofRefactoring (name : String) (params : Json) (info : CommandInfo) :
    ¬ (ofRefactoring name params info).isRename := by
  unfold ofRefactoring
  cases RefactoringKind.ofName? name with
  | none => nofun
  | some kind =>
    dsimp only
    split
    · exact not_isRename_ofExcept fun _ => nofun
    · exact not_isRename_ofExcept fun _ => by cases kind <;> nofun

theorem Errand.isRename_ofCommand (name : String) (arguments : List Json) :
    (ofCommand name arguments).isRename ↔
      name = renameCommand ∧ (renamePosition? arguments).isSome := by
  by_cases hname : name = renameCommand
  · rw [ofCommand, if_pos hname, ofRename, ← renamePosition?]
    cases renamePosition? arguments <;> simp [hname, isRename]
  · rw [ofCommand, if_neg hname]
    split
    · unfold ofApply
      split
      · simp [hname, not_isRename_ofExcept fun _ => not_isRename_ofRefactoring _ _ _]
      · simp [hname, isRename]
    · simp [hname, isRename]

/-- A command that is built in and does not fail counts as applied if and only if the host has
accepted an edit or run a command, or if it is a rename whose position can be read. -/
theorem Client.applied_iff {client : Client} {name : String} {arguments : List Json}
    (own : name ∉ client.hosted) (h : Runs (client.execute name arguments) events (.ok outcome)) :
    outcome = .applied ↔
      (∃ event ∈ events, takesEffect event) ∨
        (name = renameCommand ∧ (renamePosition? arguments).isSome) := by
  rw [← Errand.flow_ofCommand own] at h
  rw [(Errand.course h).applied_iff_effective (Errand.isSound_ofCommand name arguments),
    Errand.isRename_ofCommand]
  rfl

/-- A position in something that is no URI. -/
def positionNowhere : List Json := [.object [("uri", .string "Foo.java"), ("offset", .ofNat 0)]]

theorem runs_positionNowhere :
    Runs ((Client.mk []).execute renameCommand positionNowhere) [] (.ok .applied) := .done _

/-- The rename counts as applied because of its position. -/
theorem Client.applied_iff_positionNowhere :
    Runs ((Client.mk []).execute renameCommand positionNowhere) [] (.ok .applied) ∧
      (renamePosition? positionNowhere).isSome := by
  refine ⟨runs_positionNowhere, ?_⟩
  rcases (Client.applied_iff List.not_mem_nil runs_positionNowhere).mp rfl with
    ⟨event, hevent, -⟩ | ⟨-, hposition⟩
  · cases hevent
  · exact hposition

/-- A command that counts as applied need not have changed or run anything. -/
theorem Client.not_forall_takesEffect :
    ¬ ∀ (client : Client) (name : String) (arguments : List Json) (events : List CallEvent),
        name ∈ builtInCommands → name ∉ client.hosted →
        Runs (client.execute name arguments) events (.ok .applied) →
        ∃ event ∈ events, takesEffect event := by
  intro h
  obtain ⟨event, hevent, -⟩ :=
    h ⟨[]⟩ renameCommand positionNowhere [] (.head _) List.not_mem_nil runs_positionNowhere
  cases hevent

end Refactoring
