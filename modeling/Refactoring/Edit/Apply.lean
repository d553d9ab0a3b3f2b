import Refactoring.Disk.Operations
import Refactoring.Edit.Splice
import Refactoring.Failure

/-!
# Edits carried out on a disk

A workspace edit is a list of changes: first its entries by document, then its steps.  Every change
is attempted on the disk that the ones before have left, whether they succeeded or not, and the
failures are reported together.
-/

namespace Refactoring

open Disk (FilePath)

/-- What came of one change. -/
inductive Attempt where
  | done (disk : Disk)
  | failed (disk : Disk) (reason : Failure)
  /-- The edits overlap and do not fit the text; the disk is as before. -/
  | crashed
  deriving Repr, DecidableEq

/-- A failure of the disk without further circumstances. -/
def Failure.ofDisk (e : Disk.Error) : Failure := .of e.message

/-- The path of a document on disk. -/
def localPath (uri : Uri) : Except Failure FilePath :=
  match uri.filePath? with
  | some path => .ok path
  | none => .error (.of ("Not a file URI: " ++ uri.text))

/-- Changes the text of a file. -/
def applyTextEdits (disk : Disk) (path : FilePath) (edits : List TextEdit) : Attempt :=
  match disk.readText path with
  | .error e => .failed disk ((Failure.ofDisk e).within ("Failed to read " ++ Disk.shown path))
  | .ok text =>
    match Text.applyEdits? edits text with
    | none => .crashed
    | some changed =>
      match disk.write path (Utf8.encode changed) with
      | .ok disk => .done disk
      | .error e => .failed disk ((Failure.ofDisk e).within ("Failed to write " ++ Disk.shown path))

/-- Goes on with the path of a document, or fails without it. -/
def withPath (disk : Disk) (uri : Uri) (attempt : FilePath → Attempt) : Attempt :=
  match localPath uri with
  | .ok path => attempt path
  | .error reason => .failed disk reason

/-- The attempt of an operation that changes nothing when it fails. -/
def Attempt.of (disk : Disk) : Except Disk.Error Disk → Attempt
  | .ok disk => .done disk
  | .error e => .failed disk (.ofDisk e)

/-- Makes the directory that a path lies in and goes on. -/
def withParent (disk : Disk) (path : FilePath) (attempt : Disk → Attempt) : Attempt :=
  match disk.makeParent path with
  | (disk, .ok ()) => attempt disk
  | (disk, .error e) => .failed disk (.ofDisk e)

/-- An option that counts as off when it is not given. -/
def isSet {α : Type} (options : Option α) (option : α → Option Bool) : Bool :=
  ((options.bind option).getD false)

/-- Creates an empty file. -/
def createFile (disk : Disk) (path : FilePath) (options : Option TargetOptions) : Attempt :=
  if disk.pathExists path && !isSet options (·.overwrite) then
    if isSet options (·.ignoreIfExists) then .done disk
    else .failed disk (.of "File already exists")
  else withParent disk path fun disk => .of disk (disk.write path [])

/-- Moves a file or directory. -/
def renameFile (disk : Disk) (old new : FilePath) (options : Option TargetOptions) : Attempt :=
  if disk.pathExists new && !isSet options (·.overwrite) then
    if isSet options (·.ignoreIfExists) then .done disk
    else .failed disk (.of s!"Target {Disk.shown new} already exists")
  else withParent disk new fun disk => .of disk (disk.rename old new)

/-- Takes away a file, or a directory with what is in it if `recursive` is set. -/
def deleteFile (disk : Disk) (path : FilePath) (options : Option DeleteOptions) : Attempt :=
  if !disk.pathExists path then
    if isSet options (·.ignoreIfNotExists) then .done disk
    else .failed disk (.of "File does not exist")
  else if disk.isDirectory path then
    if isSet options (·.recursive) then
      match disk.removeAll path with
      | (disk, .ok ()) => .done disk
      | (disk, .error e) => .failed disk (.ofDisk e)
    else .of disk (disk.removeDirectory path)
  else .of disk (disk.removeFile path)

/-- Carries out a file operation. -/
def FileOperation.apply (disk : Disk) : FileOperation → Attempt
  | .create uri options _ => withPath disk uri fun path => createFile disk path options
  | .rename old new options _ =>
    withPath disk old fun old => withPath disk new fun new => renameFile disk old new options
  | .delete uri options => withPath disk uri fun path => deleteFile disk path options

/-- One change of a workspace edit. -/
inductive Change where
  | entry (uri : Uri) (edits : List TextEdit)
  | step (change : DocumentChange)
  deriving Repr, DecidableEq

namespace Change

/-- The document that a failed change is reported under; a rename goes by its old URI. -/
def target : Change → Uri
  | entry uri _ => uri
  | step (.edit e) => e.uri
  | step (.operation (.create uri _ _)) => uri
  | step (.operation (.rename old _ _ _)) => old
  | step (.operation (.delete uri _)) => uri

/-- The documents that a change names. -/
def documents : Change → List Uri
  | step (.operation (.rename old new _ _)) => [old, new]
  | other => [other.target]

/-- Attempts a change. -/
def apply (disk : Disk) : Change → Attempt
  | entry uri edits => withPath disk uri fun path => applyTextEdits disk path edits
  | step (.edit e) => withPath disk e.uri fun path => applyTextEdits disk path e.edits
  | step (.operation o) => o.apply disk

end Change

/-- The changes of a workspace edit in order. -/
def WorkspaceEdit.allChanges (edit : WorkspaceEdit) : List Change :=
  edit.entries.map (fun e => .entry e.1 e.2) ++ edit.steps.map .step

/-- What came of a list of changes. -/
inductive Report where
  /-- All changes were carried out; how many there were. -/
  | applied (count : Nat)
  /-- Some changes failed: their targets and reasons in order. -/
  | failed (failures : List (Uri × Failure))
  /-- A change crashed, and those after it were not attempted. -/
  | crashed
  deriving Repr, DecidableEq

namespace Report

/-- The report with one more change carried out in front. -/
def addDone : Report → Report
  | applied count => applied (count + 1)
  | other => other

/-- The report with one more failure in front. -/
def addFailure (target : Uri) (reason : Failure) : Report → Report
  | applied _ => failed [(target, reason)]
  | failed failures => failed ((target, reason) :: failures)
  | crashed => crashed

/-- The failures on one line. -/
def failureText (failures : List (Uri × Failure)) : String :=
  s!"Failed to apply edits to {failures.length} files: " ++
    ", ".intercalate (failures.map fun (target, reason) => target.text ++ ": " ++ reason.text)

/-- What is told of a report. -/
def outcome : Report → Except Failure Unit
  | applied _ => .ok ()
  | failed failures => .error (.of (failureText failures))
  | crashed => .error (.of "task panicked")

end Report

/-- Attempts changes one after the other. -/
def applyChanges : List Change → Disk → Disk × Report
  | [], disk => (disk, .applied 0)
  | change :: rest, disk =>
    match change.apply disk with
    | .done disk => let (disk, report) := applyChanges rest disk; (disk, report.addDone)
    | .failed disk reason =>
      let (disk, report) := applyChanges rest disk
      (disk, report.addFailure change.target reason)
    | .crashed => (disk, .crashed)

/-- Carries out a workspace edit. -/
def WorkspaceEdit.apply (edit : WorkspaceEdit) (disk : Disk) : Disk × Report :=
  applyChanges edit.allChanges disk

end Refactoring
