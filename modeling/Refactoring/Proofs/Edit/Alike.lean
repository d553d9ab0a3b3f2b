import Refactoring.Edit.Apply
import Refactoring.Proofs.Disk.Alike

/-!
# Changes to trees that hold the same

A change does not tell apart two trees that hold the same at every place: it is carried out on both,
or it fails on both for the same reason, or it crashes on both.  So changes come to the same on the
two.
-/

namespace Refactoring

open Disk (FilePath)

variable {disk disk' : Disk}

/-! ## Attempts -/

/-- Two attempts come out alike: they leave trees that hold the same, and give the same reason if
they fail. -/
inductive Attempt.Alike : Attempt → Attempt → Prop where
  | done {disk disk' : Disk} (h : disk.Alike disk') : Alike (.done disk) (.done disk')
  | failed {disk disk' : Disk} (h : disk.Alike disk') (reason : Failure) :
      Alike (.failed disk reason) (.failed disk' reason)
  | crashed : Alike .crashed .crashed

namespace Disk.Alike

theorem withPath (h : disk.Alike disk') (uri : Uri) {attempt attempt' : FilePath → Attempt}
    (hattempt : ∀ path, (attempt path).Alike (attempt' path)) :
    (withPath disk uri attempt).Alike (withPath disk' uri attempt') := by
  unfold Refactoring.withPath
  split
  · exact hattempt _
  · exact .failed h _

theorem of (h : disk.Alike disk') {outcome outcome' : Except Disk.Error Disk}
    (houtcome : SameOutcome outcome outcome') :
    (Attempt.of disk outcome).Alike (Attempt.of disk' outcome') := by
  cases houtcome with
  | ok hleft => exact .done hleft
  | error e => exact .failed h _

theorem withParent (h : disk.Alike disk') (path : FilePath) {attempt attempt' : Disk → Attempt}
    (hattempt : ∀ made made', Disk.Alike made made' → (attempt made).Alike (attempt' made')) :
    (withParent disk path attempt).Alike (withParent disk' path attempt') := by
  obtain ⟨hmade, hresult⟩ := h.makeParent path
  unfold Refactoring.withParent
  generalize disk.makeParent path = left at *
  generalize disk'.makeParent path = left' at *
  obtain ⟨made, result⟩ := left
  obtain ⟨made', result'⟩ := left'
  obtain rfl : result = result' := hresult
  cases result with
  | ok => exact hattempt made made' hmade
  | error e => exact .failed hmade _

theorem applyTextEdits (h : disk.Alike disk') (path : FilePath) (edits : List TextEdit) :
    (applyTextEdits disk path edits).Alike (applyTextEdits disk' path edits) := by
  unfold Refactoring.applyTextEdits
  rw [h.readText]
  split
  · exact .failed h _
  · split
    · exact .crashed
    · rename_i changed hchanged
      have hwrite := h.write path (Utf8.encode changed)
      generalize disk.write path (Utf8.encode changed) = outcome at *
      generalize disk'.write path (Utf8.encode changed) = outcome' at *
      cases hwrite with
      | ok hleft => exact .done hleft
      | error e => exact .failed h _

theorem createFile (h : disk.Alike disk') (path : FilePath) (options : Option TargetOptions) :
    (createFile disk path options).Alike (createFile disk' path options) := by
  unfold Refactoring.createFile
  rw [h.pathExists]
  split
  · split
    · exact .done h
    · exact .failed h _
  · exact h.withParent path fun made made' hmade => hmade.of (hmade.write path [])

theorem renameFile (h : disk.Alike disk') (old new : FilePath) (options : Option TargetOptions) :
    (renameFile disk old new options).Alike (renameFile disk' old new options) := by
  unfold Refactoring.renameFile
  rw [h.pathExists]
  split
  · split
    · exact .done h
    · exact .failed h _
  · exact h.withParent new fun made made' hmade => hmade.of (hmade.rename old new)

theorem deleteFile (h : disk.Alike disk') (path : FilePath) (options : Option DeleteOptions) :
    (deleteFile disk path options).Alike (deleteFile disk' path options) := by
  unfold Refactoring.deleteFile
  rw [h.pathExists, h.isDirectory]
  split
  · split
    · exact .done h
    · exact .failed h _
  · split
    · split
      · obtain ⟨hleft, hresult⟩ := h.removeAll path
        generalize disk.removeAll path = left at *
        generalize disk'.removeAll path = left' at *
        obtain ⟨removed, result⟩ := left
        obtain ⟨removed', result'⟩ := left'
        obtain rfl : result = result' := hresult
        cases result with
        | ok => exact .done hleft
        | error e => exact .failed hleft _
      · exact h.of (h.removeDirectory path)
    · exact h.of (h.removeFile path)

/-- A change does not tell apart two trees that hold the same. -/
theorem apply (h : disk.Alike disk') (change : Change) :
    (change.apply disk).Alike (change.apply disk') := by
  cases change with
  | entry uri edits => exact h.withPath uri fun path => h.applyTextEdits path edits
  | step step =>
    cases step with
    | edit e => exact h.withPath e.uri fun path => h.applyTextEdits path e.edits
    | operation operation =>
      cases operation with
      | create uri options note => exact h.withPath uri fun path => h.createFile path options
      | rename old new options note =>
        exact h.withPath old fun old => h.withPath new fun new => h.renameFile old new options
      | delete uri options => exact h.withPath uri fun path => h.deleteFile path options

end Disk.Alike

/-! ## Reports and runs -/

/-- Two reports tell the same: that as many changes were carried out, or that the same ones have
failed for the same reasons, in whatever order. -/
inductive Report.Same : Report → Report → Prop where
  | applied (count : Nat) : Same (.applied count) (.applied count)
  | failed {failures failures' : List (Uri × Failure)} (h : failures.Perm failures') :
      Same (.failed failures) (.failed failures')
  | crashed : Same .crashed .crashed

namespace Report.Same

variable {report report' : Report}

theorem refl (report : Report) : report.Same report := by
  cases report with
  | applied count => exact .applied count
  | failed failures => exact .failed (List.Perm.refl failures)
  | crashed => exact .crashed

theorem symm (h : report.Same report') : report'.Same report := by
  cases h with
  | applied count => exact .applied count
  | failed h => exact .failed h.symm
  | crashed => exact .crashed

theorem trans {report'' : Report} (h : report.Same report') (h' : report'.Same report'') :
    report.Same report'' := by
  cases h with
  | applied count => exact h'
  | failed h =>
    cases h' with
    | failed h' => exact .failed (h.trans h')
  | crashed => exact h'

theorem addDone (h : report.Same report') : report.addDone.Same report'.addDone := by
  cases h with
  | applied count => exact .applied (count + 1)
  | failed h => exact .failed h
  | crashed => exact .crashed

theorem addFailure (h : report.Same report') (target : Uri) (reason : Failure) :
    (report.addFailure target reason).Same (report'.addFailure target reason) := by
  cases h with
  | applied count => exact .refl _
  | failed h => exact .failed (h.cons _)
  | crashed => exact .crashed

end Report.Same

/-- It does not matter which of two failures comes first, -/
theorem Report.addFailure_swap (report : Report) (target target' : Uri) (reason reason' : Failure) :
    ((report.addFailure target reason).addFailure target' reason').Same
      ((report.addFailure target' reason').addFailure target reason) := by
  cases report with
  | applied count => exact .failed (.swap _ _ _)
  | failed failures => exact .failed (.swap _ _ _)
  | crashed => exact .crashed

/-- nor whether a success comes before a failure. -/
theorem Report.addFailure_addDone (report : Report) (target : Uri) (reason : Failure) :
    (report.addDone).addFailure target reason = (report.addFailure target reason).addDone := by
  cases report <;> rfl

/-- Two runs come to the same. -/
def SameResult (result result' : Disk × Report) : Prop :=
  Disk.Alike result.1 result'.1 ∧ result.2.Same result'.2

namespace SameResult

variable {result result' : Disk × Report}

theorem refl (result : Disk × Report) : SameResult result result := ⟨.refl _, .refl _⟩

theorem symm (h : SameResult result result') : SameResult result' result := ⟨h.1.symm, h.2.symm⟩

theorem trans {result'' : Disk × Report} (h : SameResult result result')
    (h' : SameResult result' result'') : SameResult result result'' :=
  ⟨h.1.trans h'.1, h.2.trans h'.2⟩

end SameResult

/-- Changes come to the same on trees that hold the same. -/
theorem Disk.Alike.applyChanges (h : disk.Alike disk') (changes : List Change) :
    SameResult (applyChanges changes disk) (applyChanges changes disk') := by
  induction changes generalizing disk disk' with
  | nil => exact ⟨h, .refl _⟩
  | cons change rest ih =>
    have hattempt := h.apply change
    rw [Refactoring.applyChanges, Refactoring.applyChanges]
    generalize change.apply disk = attempt at *
    generalize change.apply disk' = attempt' at *
    cases hattempt with
    | done hnext =>
      obtain ⟨hlast, hreport⟩ := ih hnext
      exact ⟨hlast, hreport.addDone⟩
    | failed hnext reason =>
      obtain ⟨hlast, hreport⟩ := ih hnext
      exact ⟨hlast, hreport.addFailure change.target reason⟩
    | crashed => exact ⟨h, .crashed⟩

end Refactoring
