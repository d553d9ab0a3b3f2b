import Mathlib.Algebra.Group.Nat.Defs
import Refactoring.Proofs.Flow.Runs
import Refactoring.Proofs.Text.Addressable
import Refactoring.Proofs.Wire.Places
import Refactoring.Session.Stage
import Refactoring.Terminal.Host

/-!
# Two ways to rename from a terminal

A rename reaches the terminal at an offset, as what follows the extraction of something, or through
the trigger, which has opened the document and hands on its URI with a position.  Both open the
document, ask for a name and have the server rename, and both pass over failures.  The trigger hands
on the URI as its normalised text, so the two differ if that is not read as the same URI.
-/

namespace Refactoring

open Json

/-! ## Arguments that are written and read -/

theorem word32_ofNat {n : Nat} (h : n < 2 ^ 32) : Decoder.word32 (.ofNat n) = .ok n := by
  have hinteger : Decoder.integer "u32" 0 4294967295 (.ofNat n) = .ok (n : Int) :=
    integer_eq_ok.mpr ⟨rfl, by omega, by omega⟩
  rw [Decoder.word32, hinteger]
  rfl

theorem Position.decode_toJson {p : Position} (hline : p.line < 2 ^ 32)
    (hcharacter : p.character < 2 ^ 32) : decode p.toJson = .ok p := by
  refine decoder_object_eq_ok.mpr ?_
  simp only [Record.reads_seq, Record.reads_map]
  exact ⟨_, Record.read_required_eq_ok.mpr ⟨_, rfl, word32_ofNat hline⟩,
    _, Record.read_required_eq_ok.mpr ⟨_, rfl, word32_ofNat hcharacter⟩, rfl⟩

theorem RenamePosition.decode_toJson {position : RenamePosition}
    (h : position.offset < 2 ^ 32) : decode position.toJson = .ok position := by
  refine decoder_object_eq_ok.mpr ?_
  simp only [Record.reads_seq, Record.reads_map]
  exact ⟨_, Record.read_required_eq_ok.mpr ⟨_, rfl, rfl⟩,
    _, Record.read_required_eq_ok.mpr ⟨_, rfl, word32_ofNat h⟩, rfl⟩

theorem HostCommand.parse_renameCommand {position : RenamePosition} (h : position.offset < 2 ^ 32) :
    parse renameCommand [position.toJson] = .ok (.renameAt position) := by
  have hname : renameCommand ≠ hostRename := by decide
  have hparse : parse renameCommand [position.toJson] =
      (decoded RenamePosition.decode position.toJson).map renameAt := by
    unfold parse
    rw [if_neg hname, if_pos rfl]
  rw [hparse, decoded, RenamePosition.decode_toJson h]
  rfl

theorem Uri.decode_string_eq_ok {text : String} {uri : Uri} :
    Uri.decode (.string text) = .ok uri ↔ Uri.parse text = .ok uri := by
  rw [Uri.decode, Uri.ofText_eq_ok]

/-- A rename by the command of the host is one under the URI that its text is read as. -/
theorem HostCommand.parse_hostRename {uri : Uri} {text : String} {place : Position}
    (hline : place.line < 2 ^ 32) (hcharacter : place.character < 2 ^ 32)
    (huri : Uri.parse text = .ok uri) :
    parse hostRename [.string text, place.toJson] = .ok (.rename uri place) := by
  have huri : Uri.decode (.string text) = .ok uri := Uri.decode_string_eq_ok.mpr huri
  rw [parse, if_pos rfl]
  change (decoded Uri.decode (.string text) >>= fun uri => decoded Position.decode place.toJson >>=
    fun place => pure (rename uri place)) = _
  rw [decoded, huri, decoded, Position.decode_toJson hline hcharacter]
  rfl

theorem HostCommand.exists_parse_hostRename {text : String}
    (huri : ∀ uri, Uri.parse text ≠ .ok uri) (place : Json) :
    ∃ failure, parse hostRename [.string text, place] = .error failure := by
  have huri : ∃ fault, Uri.decode (.string text) = .error fault := by
    cases hdecode : Uri.decode (.string text) with
    | error fault => exact ⟨fault, rfl⟩
    | ok uri => exact absurd (Uri.decode_string_eq_ok.mp hdecode) (huri uri)
  obtain ⟨fault, hfault⟩ := huri
  refine ⟨.of fault.message, ?_⟩
  rw [parse, if_pos rfl]
  rw [decoded, hfault]
  rfl

/-! ## Sessions and dialogues -/

/-- A program without a result stays the same if one is added and taken away again. -/
theorem Program.bind_done_bind_done {Q α : Type} {R : Q → Type} (p : Program Q R Unit) (value : α) :
    (p.bind fun _ => done value).bind (fun _ => done ()) = p := by
  rw [bind_assoc]
  exact bind_done p

namespace Session

variable {α β : Type}

theorem run_mk_pure_bind (value : α) (next : α → Session β) :
    (ExceptT.mk (pure (.ok value)) >>= next).run = (next value).run := rfl

theorem run_mk_error_bind (failure : Failure) (next : α → Session β) :
    (ExceptT.mk (pure (.error failure)) >>= next).run = .done (.error failure) := rfl

theorem run_ignoring_bind (session : Session Unit) (next : Unit → Session β) :
    (session.ignoring >>= next).run = session.run.bind fun _ => (next ()).run :=
  Program.bind_assoc session.run _ _

/-- What a session is made into does not matter if its end is passed over. -/
theorem run_bind_pure_bind (session : Session α) (value : β) :
    (session >>= fun _ => pure value).run.bind (fun _ => .done ()) =
      session.run.bind fun _ => .done () := by
  refine (Program.bind_assoc session.run _ _).trans ?_
  congr 1
  funext reply
  cases reply <;> rfl

end Session

namespace Terminal

theorem perform_ask_bind {α : Type} (t : Terminal) (call : Call) (next : call.Reply → Dialogue α) :
    t.perform (ask call >>= next) = (t.answer call).bind fun reply => t.perform (next reply) := rfl

theorem answer_showDocument (t : Terminal) (document : Document) :
    t.answer (.showDocument document) = .done (.ok ()) := rfl

theorem answer_runCommand (t : Terminal) (name : String) (arguments : List Json) :
    t.answer (.runCommand name arguments) = (executeCommand name arguments).run := rfl

/-- Goes on at a position in the document of `uri`, if it is there; failures are passed over. -/
def goInto {α : Type} (uri : Uri) (offset : Nat) (goOn : Position → Session α) : Work Unit :=
  (openDocument uri).run.bind fun
    | .ok (some document) => (goOn (document.positionAt offset)).run.bind fun _ => .done ()
    | _ => .done ()

theorem goInto_congr {α β : Type} {uri : Uri} {offset : Nat} {goOn : Position → Session α}
    {goOn' : Position → Session β}
    (h : ∀ text, (goOn (Text.positionAt text offset)).run.bind (fun _ => .done ()) =
      ((goOn' (Text.positionAt text offset)).run.bind fun _ => .done () : Work Unit)) :
    goInto uri offset goOn = goInto uri offset goOn' := by
  unfold goInto
  congr 1
  funext opened
  rcases opened with failure | _ | document
  · rfl
  · rfl
  · exact h document.text.toList

theorem run_executeCommand_renameCommand {position : RenamePosition}
    (h : position.offset < 2 ^ 32) :
    (executeCommand renameCommand [position.toJson]).run =
      (renameAt position).run.bind fun _ => .done (.ok none) := by
  rw [executeCommand, HostCommand.parse_renameCommand h, Session.run_mk_pure_bind]
  exact Session.run_ignoring_bind (renameAt position) _

theorem run_executeCommand_hostRename {uri : Uri} {text : String} {place : Position}
    (hline : place.line < 2 ^ 32) (hcharacter : place.character < 2 ^ 32)
    (huri : Uri.parse text = .ok uri) :
    (executeCommand hostRename [.string text, place.toJson]).run.bind (fun _ => .done ()) =
      (rename uri place).run.bind fun _ => .done () := by
  rw [executeCommand, HostCommand.parse_hostRename hline hcharacter huri, Session.run_mk_pure_bind]
  exact Session.run_bind_pure_bind (rename uri place) none

section Uris

variable {position : RenamePosition} {uri : Uri}

theorem run_renameAt (huri : Uri.parse position.uri = .ok uri) :
    (renameAt position).run.bind (fun _ => .done ()) =
      goInto uri position.offset (rename uri) := by
  unfold renameAt goInto
  rw [huri]
  refine (Program.bind_assoc (openDocument uri).run _ _).trans ?_
  congr 1
  funext opened
  rcases opened with failure | _ | document <;> rfl

theorem perform_triggerRename (t : Terminal) (huri : Uri.parse position.uri = .ok uri) :
    t.perform (triggerRename position) = goInto uri position.offset fun place =>
      executeCommand hostRename [.string uri.text, place.toJson] := by
  unfold triggerRename startRename
  rw [huri]
  dsimp only
  rw [perform_ask_bind]
  unfold goInto
  congr 1
  funext opened
  rcases opened with failure | _ | document
  · rfl
  · rfl
  · dsimp only
    rw [perform_ask_bind, answer_showDocument, Program.done_bind]
    dsimp only
    rw [perform_ask_bind, answer_runCommand]
    rfl

end Uris

theorem goInto_eq_done {α : Type} {uri : Uri} (hpath : uri.filePath? = none) (offset : Nat)
    (goOn : Position → Session α) : goInto uri offset goOn = .done () := by
  unfold goInto openDocument
  rw [hpath]
  rfl

/-- A document that is there is gone into with its text. -/
theorem runs_goInto_iff {α : Type} {uri : Uri} {path : Disk.FilePath}
    (hpath : uri.filePath? = some path) {offset : Nat} {goOn : Position → Session α} {text : String}
    {events : List (Program.Event SystemCall SystemCall.Reply)} :
    Program.Runs (goInto uri offset goOn) (⟨.readText path, .ok text⟩ :: events) () ↔
      Program.Runs ((goOn (Text.positionAt text.toList offset)).run.bind fun _ => .done ())
        events () := by
  unfold goInto openDocument
  rw [hpath]
  constructor
  · intro h
    obtain ⟨_, _, ⟨⟩, h⟩ := Program.runs_ask.mp h
    exact h
  · intro h
    exact .ask h

/-- A request for a rename that cannot be written. -/
def unwritten (content : Json) : List (Program.Event SystemCall SystemCall.Reply) :=
  [⟨.enter "New name", .ok "n"⟩, ⟨.allocate, 0⟩, ⟨.register 0, ()⟩,
    ⟨.write content, .error (.of "failed")⟩]

/-- The request for a rename at the beginning of a document. -/
def requested (uri : Uri) : Json :=
  requestContent 0 "textDocument/rename" (RenameRequest.toJson ⟨uri, .origin, "n", none⟩)

theorem runs_unwritten_iff {uri : Uri} {content : Json} :
    Program.Runs ((rename uri .origin).run.bind fun _ => .done ()) (unwritten content) () ↔
      content = requested uri := by
  constructor
  · intro h
    obtain ⟨_, _, ⟨⟩, h⟩ := Program.runs_ask.mp h
    obtain ⟨_, _, ⟨⟩, h⟩ := Program.runs_ask.mp h
    obtain ⟨_, _, ⟨⟩, h⟩ := Program.runs_ask.mp h
    obtain ⟨_, _, ⟨⟩, h⟩ := Program.runs_ask.mp h
    rfl
  · rintro rfl
    exact .ask (.ask (.ask (.ask (.done _))))

/-- Where a text is the URI of a document, the normalised text is read as a URI with the same
text. -/
def KeepsName (text : String) : Prop :=
  ∀ uri, Uri.parse text = .ok uri → uri.filePath?.isSome →
    ∃ again, Uri.parse uri.text = .ok again ∧ again.text = uri.text

theorem keepsName_iff {text : String} : KeepsName text ↔
    (Uri.parse text).toOption.all fun uri =>
      uri.filePath?.isNone || (Uri.parse uri.text).toOption.map Uri.text = some uri.text := by
  unfold KeepsName
  cases Uri.parse text with
  | error fault => simp [Except.toOption]
  | ok uri =>
    cases hpath : uri.filePath? <;> cases hagain : Uri.parse uri.text <;>
      simp [Except.toOption, hpath, hagain]

instance (text : String) : Decidable (KeepsName text) := decidable_of_iff _ keepsName_iff.symm

/-- The URI of a request. -/
def sentUri? (content : Json) : Option Json := do
  let params ← content.get? "params"
  let document ← params.get? "textDocument"
  document.get? "uri"

theorem sentUri?_requested (uri : Uri) : sentUri? (requested uri) = some (.string uri.text) := rfl

theorem requested_inj {uri other : Uri} (h : requested uri = requested other) :
    uri.text = other.text := by
  have hsent := sentUri?_requested uri
  rw [h, sentUri?_requested] at hsent
  exact (Json.string.inj (Option.some.inj hsent)).symm

/-- Of the URI only the text is sent. -/
theorem rename_congr {uri other : Uri} (h : uri.text = other.text) (place : Position) :
    rename uri place = rename other place := by
  have hjson (name : String) : RenameRequest.toJson ⟨uri, place, name, none⟩ =
      RenameRequest.toJson ⟨other, place, name, none⟩ := by
    rw [RenameRequest.toJson, RenameRequest.toJson, documentJson, documentJson, Uri.toJson,
      Uri.toJson, h]
  unfold rename Session.rename
  simp only [hjson]

/-! ## Agreement -/

section Agreement

variable {position : RenamePosition} {uri : Uri}

theorem goInto_executeCommand (hoffset : position.offset < 2 ^ 32) {again : Uri}
    (hagain : Uri.parse uri.text = .ok again) :
    (goInto uri position.offset fun place =>
      executeCommand hostRename [.string uri.text, place.toJson]) =
        goInto uri position.offset (rename again) := by
  refine goInto_congr fun text => ?_
  have hplace := Text.positionAt_le text position.offset
  exact run_executeCommand_hostRename (hplace.1.trans_lt hoffset) (hplace.2.trans_lt hoffset) hagain

/-- A URI that cannot be read again is refused before a name is asked for. -/
theorem not_runs_unwritten (hagain : ∀ again, Uri.parse uri.text ≠ .ok again) (place : Json)
    (content : Json) :
    ¬ Program.Runs
      ((executeCommand hostRename [.string uri.text, place]).run.bind fun _ => .done ())
      (unwritten content) () := by
  obtain ⟨failure, hparse⟩ := HostCommand.exists_parse_hostRename hagain place
  rw [executeCommand, hparse, Session.run_mk_error_bind]
  intro h
  obtain ⟨hevents, -⟩ := Program.runs_done.mp h
  cases hevents

/-- A document is gone into in the same way if and only if the URI that the rename is sent under has
kept its text. -/
theorem goInto_eq_iff (hoffset : position.offset < 2 ^ 32) {path : Disk.FilePath}
    (hpath : uri.filePath? = some path) :
    (goInto uri position.offset (rename uri) = goInto uri position.offset fun place =>
        executeCommand hostRename [.string uri.text, place.toJson]) ↔
      ∃ again, Uri.parse uri.text = .ok again ∧ again.text = uri.text := by
  constructor
  · intro h
    have hruns : Program.Runs (goInto uri position.offset (rename uri))
        (⟨.readText path, .ok ""⟩ :: unwritten (requested uri)) () :=
      (runs_goInto_iff hpath).mpr (runs_unwritten_iff.mpr rfl)
    rw [h] at hruns
    cases hparse : Uri.parse uri.text with
    | error fault =>
      have hagain (again : Uri) : Uri.parse uri.text ≠ .ok again := by rw [hparse]; nofun
      exact absurd ((runs_goInto_iff hpath).mp hruns) (not_runs_unwritten hagain _ _)
    | ok again =>
      rw [goInto_executeCommand hoffset hparse] at hruns
      have hsame := runs_unwritten_iff.mp ((runs_goInto_iff hpath).mp hruns)
      exact ⟨again, rfl, (requested_inj hsame).symm⟩
  · rintro ⟨again, hagain, htext⟩
    rw [goInto_executeCommand hoffset hagain]
    exact congrArg _ (funext (rename_congr htext.symm))

/-- The two ways are the same work if and only if the URI keeps its text. -/
theorem run_renameAt_eq_iff (t : Terminal) (hoffset : position.offset < 2 ^ 32) :
    (renameAt position).run.bind (fun _ => .done ()) = t.perform (triggerRename position) ↔
      KeepsName position.uri := by
  cases huri : Uri.parse position.uri with
  | error fault =>
    refine iff_of_true ?_ fun uri h => ?_
    · unfold renameAt triggerRename
      rw [huri]
      rfl
    · rw [huri] at h
      cases h
  | ok uri =>
    rw [run_renameAt huri, perform_triggerRename t huri]
    have hkeeps : KeepsName position.uri ↔ (uri.filePath?.isSome →
        ∃ again, Uri.parse uri.text = .ok again ∧ again.text = uri.text) := by
      unfold KeepsName
      rw [huri]
      exact ⟨fun h => h uri rfl, fun h other hother => by cases hother; exact h⟩
    rw [hkeeps]
    cases hpath : uri.filePath? with
    | none =>
      rw [goInto_eq_done hpath, goInto_eq_done hpath]
      exact iff_of_true rfl nofun
    | some path =>
      rw [goInto_eq_iff hoffset hpath]
      exact ⟨fun h _ => h, fun h => h rfl⟩

end Agreement

end Terminal

namespace Stage

variable {α β : Type} (work : Work α) (f : α → β)

/-! What is made of the result at the end makes no difference to a stage. -/

theorem advance_bind_done (s : Stage) :
    advance (work.bind fun value => .done (f value)) s =
      ((advance work s).1.bind fun value => .done (f value), (advance work s).2) := by
  induction work generalizing s with
  | done value => rfl
  | ask call next ih =>
    rw [Program.ask_bind, advance, advance]
    split
    · rfl
    · exact ih _ _

theorem alternate_bind_done (turns : Nat) (s : Stage) :
    alternate advance turns (work.bind fun value => .done (f value)) s =
      ((alternate advance turns work s).1.bind fun value => .done (f value),
        (alternate advance turns work s).2) := by
  induction turns generalizing work s with
  | zero => rfl
  | succ turns ih =>
    rw [alternate, advance_bind_done]
    exact ih _ _

theorem run_bind_done (s : Stage) :
    s.run (work.bind fun value => .done (f value)) = (f (s.run work).1, (s.run work).2) := by
  unfold run
  rw [alternate_bind_done]
  dsimp only
  rw [Program.run_bind]
  rfl

end Stage

namespace Terminal

/-- A rename at an offset never fails.  Provided that the URI keeps its text, it leaves the stage as
the trigger of the same rename does: the disk, what the server has been sent, what the user has been
asked and the screen.  The two are the same work, whatever is replied, exactly under this
proviso. -/
theorem renames_alike (t : Terminal) {position : RenamePosition}
    (hoffset : position.offset < 2 ^ 32) :
    (∀ s : Stage, (s.run (executeCommand renameCommand [position.toJson]).run).1 = .ok none) ∧
      (KeepsName position.uri → ∀ s : Stage,
        (s.run (executeCommand renameCommand [position.toJson]).run).2 =
          (s.run (t.perform (triggerRename position))).2) ∧
      ((executeCommand renameCommand [position.toJson]).run =
          ((t.perform (triggerRename position)).bind fun _ => .done (.ok none)) ↔
        KeepsName position.uri) := by
  have hwork : (executeCommand renameCommand [position.toJson]).run =
      ((renameAt position).run.bind fun _ => .done ()).bind fun _ => .done (.ok none) := by
    rw [run_executeCommand_renameCommand hoffset, Program.bind_assoc]
    rfl
  have halike := run_renameAt_eq_iff t hoffset
  rw [hwork]
  refine ⟨fun s => ?_, fun hkeeps s => ?_, fun h => ?_, fun hkeeps => ?_⟩
  · rw [Stage.run_bind_done]
  · rw [Stage.run_bind_done, halike.mpr hkeeps]
  · refine halike.mp ?_
    rw [← Program.bind_done_bind_done ((renameAt position).run.bind _), h,
      Program.bind_done_bind_done]
  · rw [halike.mpr hkeeps]

/-- A position in a document that is named in a roundabout way. -/
def inSource : RenamePosition := ⟨"file:///src/../A.java", 4⟩

theorem renames_alike_inSource : inSource.offset < 2 ^ 32 ∧ KeepsName inSource.uri ∧
    (executeCommand renameCommand [inSource.toJson]).run =
      ((perform ⟨[], 4, true⟩ (triggerRename inSource)).bind fun _ => .done (.ok none)) := by
  have hoffset : inSource.offset < 2 ^ 32 := by decide
  have hkeeps : KeepsName inSource.uri := by decide +kernel
  obtain ⟨-, -, halike⟩ := renames_alike ⟨[], 4, true⟩ hoffset
  exact ⟨hoffset, hkeeps, halike.mpr hkeeps⟩

/-- A position in a document on a drive; the tab disappears from its URI, and the dot stays. -/
def behindTab : RenamePosition := ⟨"file:/C:\t./A.java", 0⟩

/-- A disk with this document, a user who types a name, and a server that only listens. -/
def withDrive : Stage where
  disk := ⟨[([[67, 58]], .directory), ([[67, 58], Utf8.encode "A.java"], .file [])]⟩
  directory := [47]
  connection := .start
  installed := []
  executables := []
  peer := .start []
  started := none
  user := some [.type "n"]
  screen := []

/-- The rename at an offset is requested under a URI with the dot, the trigger's under one without
it. -/
theorem not_forall_renames_alike :
    ¬ ∀ (t : Terminal) (position : RenamePosition) (s : Stage), position.offset < 2 ^ 32 →
      (s.run (executeCommand renameCommand [position.toJson]).run).2.peer.inbox =
        (s.run (t.perform (triggerRename position))).2.peer.inbox := by
  intro h
  have hsent := h ⟨[], 4, true⟩ behindTab withDrive (by decide)
  let sent (content : Json) := (sentUri? content).bind Json.string?
  have hoffset :
      (withDrive.run (executeCommand renameCommand [behindTab.toJson]).run).2.peer.inbox.map sent =
        [some "file:///C:/./A.java"] := by
    decide +kernel
  have htrigger :
      (withDrive.run (perform ⟨[], 4, true⟩ (triggerRename behindTab))).2.peer.inbox.map sent =
        [some "file:///C:/A.java"] := by
    decide +kernel
  rw [hsent, htrigger] at hoffset
  exact absurd hoffset (by decide)

end Terminal
end Refactoring
