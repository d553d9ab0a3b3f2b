import Refactoring.Settings.Store
import Refactoring.Terminal.Arguments
import Refactoring.Terminal.Host

/-!
# The command line

One run of the program: it opens the workspace, starts the server, carries out one refactoring from
the terminal and tells how it ended.  What goes wrong before the refactoring ends the run at once;
otherwise the server is told to shut down, whatever came of the refactoring.
-/

namespace Refactoring

/-- A cause on its own lines, indented; with a number if there are several. -/
def Failure.causeLine (numbered : Bool) (place : Nat) (text : String) : String :=
  let lead := if numbered then
    String.ofList (List.replicate (5 - (toString place).length) ' ') ++ toString place ++ ": "
    else "    "
  let indent := if numbered then "       " else "    "
  "\n" ++ lead ++ ("\n" ++ indent).intercalate (text.splitOn "\n")

/-- A failure with its causes below it. -/
def Failure.report (f : Failure) : String :=
  match f.texts.tail with
  | [] => f.headline
  | causes =>
    let numbered := causes.length > 1
    f.headline ++ "\n\nCaused by:" ++
      String.join (causes.zipIdx.map fun (text, place) => causeLine numbered place text)

namespace CommandLine

/-- How a run ends: the exit code and what is written to the output. -/
structure Ending where
  exitCode : Nat
  output : String
  deriving Repr, DecidableEq

/-- The line that tells how a refactoring ended. -/
def outcomeLine : Outcome → String
  | .applied => "✅ Refactoring applied\n"
  | .cancelled => "Cancelled\n"
  | .nothingToDo => "Nothing to do\n"

/-- The directory of the workspace. -/
def openWorkspace (given : Option String) : Session Disk.FilePath := do
  let path ← match given with
    | some path => pure (Utf8.encode path)
    | none => system .workingDirectory
  Session.onDisk s!"Workspace {Disk.shown path} does not exist" (system (.canonical path))

/-- The configuration of a workspace, or else the standard one.  The directory that it lies in also
takes the log. -/
def configuration (workspace : Disk.FilePath) : Work ClientConfig := do
  let root := Settings.rootOf workspace
  match ← system (.makeDirectory root) with
  | .ok () => pure ()
  | .error e => system (.tell s!"Warning: Failed to initialize logging: {e.message}")
  match ← system (.configuration root) with
  | .ok config => return config
  | .error reason =>
    system (.tell s!"Warning: Failed to read configuration, using defaults: {reason.text}")
    return .standard

/-- The document that a word names: by a URI of a local file, or by a path from the workspace. -/
def documentOf (workspace : Disk.FilePath) (word : String) : Session Uri := do
  match (Uri.parse word).toOption.filter (·.scheme == "file") with
  | some uri => return uri
  | none =>
    let path := Disk.FilePath.join workspace (Utf8.encode word)
    let place ← Session.onDisk s!"File {Disk.shown path} does not exist" (system (.canonical path))
    return Uri.ofFilePath place

/-- Opens a document on the server. -/
def openOnServer (uri : Uri) : Session Unit := do
  let some path := uri.filePath? | throw (.of s!"Not a file URI: {uri.text}")
  let text ← Session.onDisk s!"Failed to read {Disk.shown path}" (system (.readText path))
  Session.didOpen ⟨uri, "java", 1, text⟩

/-- A JSON value given as the value of an option. -/
def jsonOption (name text : String) : Session Json :=
  ExceptT.mk <| pure <| (Json.ofText text).mapError fun fault =>
    (Failure.of fault).within s!"Invalid --{name} JSON"

/-- The document of a selection, if it names one. -/
def selectedDocument? (params : Json) : Option Uri := do
  let text ← ((← params.get? "textDocument").get? "uri").bind Json.string?
  (Uri.parse text).toOption

/-- Carries out a job. -/
def perform (terminal : Terminal) : Job → Session (Except Problem Outcome)
  | .rename document offset => do
    let uri ← documentOf terminal.workspace document
    openOnServer uri
    ExceptT.lift <| terminal.perform ((⟨[]⟩ : Client).rename ⟨uri.text, offset⟩).run
  | .apply kind context info => do
    let params ← jsonOption "context" context
    let info ← info.mapM (jsonOption "info")
    if let some uri := selectedDocument? params then openOnServer uri
    ExceptT.lift <| terminal.perform ((⟨[]⟩ : Client).applyRefactoring kind params info).run
  | .moveFiles files => do
    let uris ← files.mapM (documentOf terminal.workspace)
    ExceptT.lift <| terminal.perform (moveFiles uris).run

/-- Carries out what the user wants in a session with the server. -/
def session (wanted : Invocation) : Session (Except Problem Outcome) := do
  let workspace ← openWorkspace wanted.workspace
  let config ← configuration workspace
  let server := { config.server with command := wanted.server.getD config.server.command }
  Session.of (system (.startServer server))
  let _ ← Session.introduce server (Uri.ofDirectoryPath workspace)
  let result ← perform ⟨workspace, config.formatting⟩ wanted.job
  Session.ignoring Session.shutdown
  return result

/-- Tells the user an error and ends. -/
def fail (text : String) : Work Ending := do
  system (.tell ("Error: " ++ text))
  return ⟨1, ""⟩

/-- One run of the program.  A problem that the user was shown is not told again. -/
def run (wanted : Invocation) : Work Ending := do
  match ← (session wanted).run with
  | .error reason => fail reason.report
  | .ok (.error problem) => if problem.isReported then return ⟨1, ""⟩ else fail problem.message
  | .ok (.ok outcome) => return ⟨0, outcomeLine outcome⟩

end CommandLine
end Refactoring
