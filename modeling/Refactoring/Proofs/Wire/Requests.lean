import Refactoring.Proofs.Wire.Actions
import Refactoring.Proofs.Wire.Edits
import Refactoring.Rpc.Message
import Refactoring.Settings.Config
import Refactoring.Wire.Request

/-!
# Requests, destinations and configurations are read again

Whatever the client reads, be it a request, a result, an offer of destinations, what is attached to
a code action, an error or its configuration, is read again from what is written of it.  The three
shapes of a destination are told apart by what they require: only packages have a display name, and
only class targets have a binding key.
-/

namespace Refactoring

open Json

/-! ## Kinds -/

theorem RefactoringKind.stable : Stable RefactoringKind.decode RefactoringKind.toJson :=
  .choice ofName?_name

theorem MoveKind.stable : Stable MoveKind.decode MoveKind.toJson :=
  .choice fun kind => by cases kind <;> decide +kernel

/-! ## Destinations -/

theorem PackageNode.decode_toJson (node : PackageNode) : decode node.toJson = .ok node := by
  obtain ⟨name, uri, path, project, own, parent⟩ := node
  cases uri <;> cases path <;> cases project <;> rfl

theorem ClassTarget.decode_toJson (target : ClassTarget) : decode target.toJson = .ok target := rfl

theorem ClassTarget.decode_package_ne_ok (target : ClassTarget) (node : PackageNode) :
    PackageNode.decode target.toJson ≠ .ok node := nofun

theorem Symbol.decode_package_ne_ok (symbol : Symbol) (node : PackageNode) :
    PackageNode.decode symbol.toJson ≠ .ok node := by
  refine decoder_objectOf_ne_ok "displayName" (fun s h => ?_) (by simp)
  simp only [Record.reads_seq, Record.reads_map] at h
  exact ⟨_, _, _, h⟩

theorem Symbol.decode_classTarget_ne_ok (symbol : Symbol) (target : ClassTarget) :
    ClassTarget.decode symbol.toJson ≠ .ok target := by
  refine decoder_objectOf_ne_ok "bindingKey" (fun s h => ?_) (by simp)
  simp only [Record.reads_seq, Record.reads_map] at h
  exact ⟨_, _, _, h⟩

theorem Destination.decode_package (node : PackageNode) :
    decode (package node).toJson = .ok (package node) :=
  firstOf_cons_eq_ok.mpr <| .inl <| map_eq_ok.mpr ⟨node, node.decode_toJson, rfl⟩

theorem Destination.decode_classTarget (target : ClassTarget) :
    decode (classTarget target).toJson = .ok (classTarget target) := by
  refine firstOf_cons_eq_ok.mpr <| .inr ⟨fun other hother => ?_, ?_⟩
  · obtain ⟨node, hnode, -⟩ := map_eq_ok.mp hother
    exact target.decode_package_ne_ok node hnode
  · exact firstOf_cons_eq_ok.mpr <| .inl <| map_eq_ok.mpr ⟨target, target.decode_toJson, rfl⟩

/-- A symbol that is read again is read as a symbol where any destination could be. -/
theorem Destination.decode_symbol {s : Symbol} (h : Symbol.decode s.toJson = .ok s) :
    decode (symbol s).toJson = .ok (symbol s) := by
  refine firstOf_cons_eq_ok.mpr <| .inr ⟨fun other hother => ?_, ?_⟩
  · obtain ⟨node, hnode, -⟩ := map_eq_ok.mp hother
    exact s.decode_package_ne_ok node hnode
  refine firstOf_cons_eq_ok.mpr <| .inr ⟨fun other hother => ?_, ?_⟩
  · obtain ⟨target, htarget, -⟩ := map_eq_ok.mp hother
    exact s.decode_classTarget_ne_ok target htarget
  · exact firstOf_cons_eq_ok.mpr <| .inl <| map_eq_ok.mpr ⟨s, h, rfl⟩

theorem Destination.stable : Stable decode toJson where
  again {j destination} hj h := by
    obtain ⟨decoder, hdecoder, h⟩ := exists_of_firstOf h
    simp only [List.mem_cons, List.not_mem_nil, or_false] at hdecoder
    rcases hdecoder with rfl | rfl | rfl
    · obtain ⟨node, -, rfl⟩ := map_eq_ok.mp h
      exact decode_package node
    · obtain ⟨target, -, rfl⟩ := map_eq_ok.mp h
      exact decode_classTarget target
    · obtain ⟨s, hs, rfl⟩ := map_eq_ok.mp h
      exact decode_symbol (Symbol.stable.again hj hs)
  ne_null {_ destination} _ _ := by
    cases destination <;> nofun

/-! ## Moves and searches -/

theorem MoveRequest.stable : Stable MoveRequest.decode MoveRequest.toJson := by
  refine .record (fun _ => objectOf_eq _) fun hs h => ?_
  simp only [Record.reads_seq, Record.reads_map] at h ⊢
  obtain ⟨kind, hkind, sources, hsources, selection, hselection, destination, hdestination, update,
    hupdate, rfl⟩ := h
  exact ⟨_, MoveKind.stable.required hs hkind (by simp),
    _, Stable.text.list.required hs hsources (by simp; rfl),
    _, Selection.stable.nullable hs hselection (.inr (by simp)),
    _, Destination.stable.optional hs hdestination (.inl (by simp)),
    _, Stable.flag.optional hs hupdate (.inl (by simp)), rfl⟩

theorem DestinationList.stable : Stable DestinationList.decode DestinationList.toJson := by
  refine .record (fun _ => objectOf_eq _) fun hs h => ?_
  simp only [Record.reads_seq, Record.reads_map] at h ⊢
  obtain ⟨message, hmessage, destinations, hdestinations, rfl⟩ := h
  exact ⟨_, Stable.text.optional hs hmessage (.inl (by simp)),
    _, Destination.stable.list.withDefault rfl hs hdestinations (by simp), rfl⟩

theorem SymbolQuery.stable : Stable SymbolQuery.decode SymbolQuery.toJson := by
  refine .record (fun _ => objectOf_eq _) fun hs h => ?_
  simp only [Record.reads_seq, Record.reads_map] at h ⊢
  obtain ⟨query, hquery, project, hproject, count, hcount, source, hsource, rfl⟩ := h
  exact ⟨_, Stable.text.required hs hquery (by simp),
    _, Stable.text.optional hs hproject (.inl (by simp)),
    _, Stable.word32.optional hs hcount (.inl (by simp)),
    _, Stable.flag.optional hs hsource (.inl (by simp)), rfl⟩

/-! ## Refactorings -/

theorem EditRequest.stable : Stable EditRequest.decode EditRequest.toJson := by
  refine .record (fun _ => objectOf_eq _) fun hs h => ?_
  simp only [Record.reads_seq, Record.reads_map] at h ⊢
  obtain ⟨kind, hkind, selection, hselection, options, hoptions, arguments, harguments, rfl⟩ := h
  refine ⟨_, RefactoringKind.stable.required hs hkind (by simp),
    _, Selection.stable.required hs hselection (by simp),
    _, FormattingOptions.stable.required hs hoptions (by simp), arguments, ?_, rfl⟩
  -- Without arguments nothing is written, and nothing written stands for no arguments.
  cases arguments with
  | nil => exact Record.read_withDefault_eq_ok.mpr (.inr ⟨by simp [sourceOf], rfl⟩)
  | cons argument arguments => exact Stable.items.withDefault rfl hs harguments (by simp)

theorem RefactoringResult.stable : Stable RefactoringResult.decode RefactoringResult.toJson := by
  refine .record (fun _ => objectOf_eq _) fun hs h => ?_
  simp only [Record.reads_seq, Record.reads_map] at h ⊢
  obtain ⟨edit, hedit, command, hcommand, message, hmessage, rfl⟩ := h
  exact ⟨_, WorkspaceEdit.stable.optional hs hedit (.inl (by simp)),
    _, Command.stable.optional hs hcommand (.inl (by simp)),
    _, Stable.text.optional hs hmessage (.inl (by simp)), rfl⟩

theorem RenamePosition.stable : Stable RenamePosition.decode RenamePosition.toJson := by
  refine .record (fun _ => rfl) fun hs h => ?_
  simp only [Record.reads_seq, Record.reads_map] at h ⊢
  obtain ⟨uri, huri, offset, hoffset, rfl⟩ := h
  exact ⟨_, Stable.text.required hs huri rfl, _, Stable.word32.required hs hoffset rfl, rfl⟩

theorem CommandInfo.stable : Stable CommandInfo.decode CommandInfo.toJson := by
  have htexts : Stable (Decoder.list Decoder.text) .strings := Stable.text.list
  refine .record (fun _ => rfl) fun hs h => ?_
  simp only [Record.reads_seq, Record.reads_map] at h ⊢
  obtain ⟨uri, huri, scopes, hscopes, name, hname, enclosing, henclosing, member, hmember, project,
    hproject, kinds, hkinds, rfl⟩ := h
  exact ⟨_, Stable.text.optional hs huri (.inr rfl), _, htexts.optional hs hscopes (.inr rfl),
    _, Stable.text.optional hs hname (.inr rfl), _, Stable.text.optional hs henclosing (.inr rfl),
    _, Stable.word32.optional hs hmember (.inr rfl), _, Stable.text.optional hs hproject (.inr rfl),
    _, htexts.optional hs hkinds (.inr rfl), rfl⟩

/-! ## Errors and configurations -/

theorem RpcError.stable : Stable RpcError.decode RpcError.toJson := by
  have hcode : Stable Decoder.int64 fun value => .number (.int value) := Stable.integer ..
  refine .record (fun _ => objectOf_eq _) fun hs h => ?_
  simp only [Record.reads_seq, Record.reads_map] at h ⊢
  obtain ⟨code, hcoded, message, hmessage, data, hdata, rfl⟩ := h
  exact ⟨_, hcode.required hs hcoded (by simp), _, Stable.text.required hs hmessage (by simp),
    _, Stable.any.optional hs hdata (.inl (by simp)), rfl⟩

theorem FormattingConfig.stable : Stable FormattingConfig.decode FormattingConfig.toJson := by
  refine .record (fun _ => rfl) fun hs h => ?_
  simp only [Record.reads_seq, Record.reads_map] at h ⊢
  obtain ⟨size, hsize, spaces, hspaces, rfl⟩ := h
  exact ⟨_, Stable.word32.required hs hsize rfl, _, Stable.flag.required hs hspaces rfl, rfl⟩

theorem ServerConfig.stable : Stable ServerConfig.decode ServerConfig.toJson := by
  refine .record (fun _ => rfl) fun hs h => ?_
  simp only [Record.reads_seq, Record.reads_map] at h ⊢
  obtain ⟨name, hname, command, hcommand, arguments, harguments, options, hoptions, rfl⟩ := h
  exact ⟨_, Stable.text.required hs hname rfl, _, Stable.text.required hs hcommand rfl,
    _, Stable.text.list.withDefault rfl hs harguments rfl,
    _, Stable.any.optional hs hoptions (.inr (by simp)), rfl⟩

theorem ClientConfig.stable : Stable ClientConfig.decode ClientConfig.toJson := by
  refine .record (fun _ => rfl) fun hs h => ?_
  simp only [Record.reads_seq, Record.reads_map] at h ⊢
  obtain ⟨server, hserver, formatting, hformatting, rfl⟩ := h
  exact ⟨_, ServerConfig.stable.required hs hserver rfl,
    _, FormattingConfig.stable.withDefault rfl hs hformatting rfl, rfl⟩

/-! ## Everything the client reads -/

/-- What the decoder reads from the value is read again from what is written of it. -/
def Json.ReadAgain {α : Type} (j : Json) (decoder : Decoder α) (write : α → Json) : Prop :=
  ∀ value, decoder j = .ok value → decoder (write value) = .ok value

/-- What is read is read again from what is written of it, provided that the URIs in it are
normalised once and for all.  A destination of any shape is read back in its own shape; a symbol is
subject to the same proviso, because it has a URI. -/
theorem decode_again {j : Json} (hj : j.Settled) :
    j.ReadAgain EditRequest.decode EditRequest.toJson ∧
    j.ReadAgain RefactoringResult.decode RefactoringResult.toJson ∧
    j.ReadAgain WorkspaceEdit.decode WorkspaceEdit.toJson ∧
    j.ReadAgain DocumentChanges.decode DocumentChanges.toJson ∧
    j.ReadAgain Command.decode Command.toJson ∧
    j.ReadAgain MoveRequest.decode MoveRequest.toJson ∧
    j.ReadAgain DestinationList.decode DestinationList.toJson ∧
    j.ReadAgain Destination.decode Destination.toJson ∧
    j.ReadAgain SymbolQuery.decode SymbolQuery.toJson ∧
    j.ReadAgain RenamePosition.decode RenamePosition.toJson ∧
    j.ReadAgain CommandInfo.decode CommandInfo.toJson ∧
    j.ReadAgain RpcError.decode RpcError.toJson ∧
    j.ReadAgain ClientConfig.decode ClientConfig.toJson ∧
    (∀ node, Destination.decode (Destination.package node).toJson = .ok (.package node)) ∧
    (∀ target,
      Destination.decode (Destination.classTarget target).toJson = .ok (.classTarget target)) ∧
    ∀ s, Symbol.decode j = .ok s →
      Destination.decode (Destination.symbol s).toJson = .ok (.symbol s) :=
  ⟨fun _ => EditRequest.stable.again hj, fun _ => RefactoringResult.stable.again hj,
    fun _ => WorkspaceEdit.stable.again hj, fun _ => DocumentChanges.stable.again hj,
    fun _ => Command.stable.again hj, fun _ => MoveRequest.stable.again hj,
    fun _ => DestinationList.stable.again hj, fun _ => Destination.stable.again hj,
    fun _ => SymbolQuery.stable.again hj, fun _ => RenamePosition.stable.again hj,
    fun _ => CommandInfo.stable.again hj, fun _ => RpcError.stable.again hj,
    fun _ => ClientConfig.stable.again hj, Destination.decode_package,
    Destination.decode_classTarget,
    fun _ h => Destination.decode_symbol (Symbol.stable.again hj h)⟩

/-- A result whose edit moves a file that it names in a roundabout way. -/
def roundabout : Json :=
  .object [("edit", .object [("documentChanges", .array [.object [("kind", .string "rename"),
    ("oldUri", .string "file:///src/../A.java"), ("newUri", .string "file:///B.java")]])]),
    ("command", .null)]

theorem decode_again_roundabout : roundabout.Settled ∧
    ∃ result, RefactoringResult.decode roundabout = .ok result ∧
      RefactoringResult.decode result.toJson = .ok result := by
  have hsettled : roundabout.Settled := by decide +kernel
  have hread : ∃ result, RefactoringResult.decode roundabout = .ok result := ⟨_, rfl⟩
  obtain ⟨result, hresult⟩ := hread
  obtain ⟨-, hagain, -⟩ := decode_again hsettled
  exact ⟨hsettled, result, hresult, hagain result hresult⟩

end Refactoring
