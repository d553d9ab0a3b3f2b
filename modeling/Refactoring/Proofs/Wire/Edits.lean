import Mathlib.Data.List.Nodup
import Refactoring.Proofs.Wire.Places
import Refactoring.Wire.Edit

/-!
# Workspace edits are read again

Text edits, file operations and workspace edits are read again from what is written of them.  A list
of changes is first read as text edits alone; a list that is not has a file operation among its
steps, and what is written of this one is no text edit either, so that the reading stays.
-/

namespace Refactoring

open Json

/-! ## Text edits -/

theorem TextEdit.stable : Stable TextEdit.decode TextEdit.toJson := by
  refine .record (fun _ => rfl) fun hs h => ?_
  simp only [Record.reads_seq, Record.reads_map] at h ⊢
  obtain ⟨range, hrange, newText, hnewText, rfl⟩ := h
  exact ⟨_, Range.stable.required hs hrange rfl, _, Stable.text.required hs hnewText rfl, rfl⟩

theorem stable_versionedDocument : Stable versionedDocument fun document =>
    .object [("uri", document.1.toJson),
      ("version", (document.2.map fun version => .number (.int version)).getD .null)] := by
  refine .record (fun _ => rfl) fun hs h => ?_
  simp only [Record.reads_seq, Record.reads_map] at h ⊢
  obtain ⟨uri, huri, version, hversion, rfl⟩ := h
  exact ⟨_, Uri.stable.required hs huri rfl,
    _, (Stable.integer ..).nullable hs hversion (.inr rfl), rfl⟩

theorem DocumentEdit.stable : Stable DocumentEdit.decode DocumentEdit.toJson := by
  have hedit : Stable (Decoder.firstOf "OneOf" [TextEdit.decode]) TextEdit.toJson :=
    .firstOf_cons TextEdit.stable .firstOf_nil nofun
  refine .record (fun _ => rfl) fun hs h => ?_
  simp only [Record.reads_seq, Record.reads_map] at h ⊢
  obtain ⟨document, hdocument, edits, hedits, rfl⟩ := h
  exact ⟨_, stable_versionedDocument.required hs hdocument rfl,
    _, hedit.list.required hs hedits rfl, rfl⟩

/-! ## File operations -/

theorem TargetOptions.stable (type : String) :
    Stable (TargetOptions.decode type) TargetOptions.toJson := by
  refine .record (fun _ => objectOf_eq _) fun hs h => ?_
  simp only [Record.reads_seq, Record.reads_map] at h ⊢
  obtain ⟨overwrite, hoverwrite, ignore, hignore, rfl⟩ := h
  exact ⟨_, Stable.flag.nullable hs hoverwrite (.inl (by simp)),
    _, Stable.flag.nullable hs hignore (.inl (by simp)), rfl⟩

theorem DeleteOptions.stable : Stable DeleteOptions.decode DeleteOptions.toJson := by
  refine .record (fun _ => objectOf_eq _) fun hs h => ?_
  simp only [Record.reads_seq, Record.reads_map] at h ⊢
  obtain ⟨recursive, hrecursive, ignore, hignore, note, hnote, rfl⟩ := h
  exact ⟨_, Stable.flag.nullable hs hrecursive (.inl (by simp)),
    _, Stable.flag.nullable hs hignore (.inl (by simp)),
    _, Stable.text.nullable hs hnote (.inl (by simp)), rfl⟩

theorem FileOperation.mem_operationKinds {kind : Json} {fields : Record FileOperation}
    (h : FileOperation.fieldsOf kind = .ok fields) : ∃ name, (name, fields) ∈ operationKinds := by
  unfold FileOperation.fieldsOf at h
  cases kind with
  | string text =>
    dsimp only at h
    split at h
    · rename_i name found hfound
      cases h
      exact ⟨name, List.mem_of_find?_eq_some hfound⟩
    · cases h
  | _ =>
    dsimp only at h
    split at h
    · rename_i name found hfound
      cases h
      obtain ⟨place, -, hplace⟩ := Option.bind_eq_some_iff.mp hfound
      exact ⟨name, List.mem_of_getElem? hplace⟩
    · cases h

/-- A file operation is read from the fields that belong to its kind. -/
theorem FileOperation.exists_fields {j : Json} {operation : FileOperation} (hj : j.Settled)
    (h : FileOperation.decode j = .ok operation) : ∃ name fields s,
      (name, fields) ∈ operationKinds ∧ s.Settled ∧ fields.Reads s (· = operation) := by
  unfold FileOperation.decode at h
  split at h
  · rename_i members
    split at h
    · cases h
    · rename_i kind hkind
      obtain ⟨fields, hfields, hread⟩ := bind_eq_ok.mp h
      obtain ⟨name, hname⟩ := FileOperation.mem_operationKinds hfields
      have hs : (sourceOf (members.filter (·.1 ≠ "kind"))).Settled :=
        fun _ hm => hj.value (List.mem_of_mem_filter hm)
      exact ⟨name, fields, _, hname, hs, operation, mapError_eq_ok.mp hread, rfl⟩
  · rename_i kind items
    obtain ⟨fields, hfields, hread⟩ := bind_eq_ok.mp h
    obtain ⟨name, hname⟩ := FileOperation.mem_operationKinds hfields
    obtain ⟨s, hs, hread⟩ :=
      exists_source_of_items (fun item hitem => hj.item (List.mem_cons_of_mem _ hitem)) hread
    exact ⟨name, fields, s, hname, hs, operation, hread, rfl⟩
  · cases h

/-- An operation of a kind is read from the members besides it. -/
theorem FileOperation.decode_objectOf {name : String} {fields : Record FileOperation}
    (hfields : FileOperation.fieldsOf (.string name) = .ok fields)
    {members : List (String × Option Json)} (hmembers : ∀ m ∈ members, m.1 ≠ "kind")
    {operation : FileOperation} (h : fields.Reads (sourceOf (present members)) (· = operation)) :
    FileOperation.decode (.objectOf (("kind", some (.string name)) :: members)) =
      .ok operation := by
  obtain ⟨_, hread, rfl⟩ := h
  have hkind : member? (present (("kind", some (.string name)) :: members)) "kind" =
      some (.string name) := by simp
  have hothers : (present (("kind", some (.string name)) :: members)).filter (·.1 ≠ "kind") =
      present members := by
    refine (List.filter_cons_of_neg (by simp)).trans (List.filter_eq_self.mpr fun m hm => ?_)
    simpa using hmembers _ (mem_present.mp hm)
  rw [objectOf_eq]
  unfold FileOperation.decode
  dsimp only
  rw [hkind]
  dsimp only
  rw [hfields, hothers]
  exact mapError_eq_ok.mpr hread

theorem FileOperation.stable : Stable FileOperation.decode FileOperation.toJson where
  again {j operation} hj h := by
    obtain ⟨kind, fields, s, hkind, hs, hread⟩ := FileOperation.exists_fields hj h
    simp only [operationKinds, List.mem_cons, Prod.mk.injEq, List.not_mem_nil, or_false] at hkind
    rcases hkind with ⟨rfl, rfl⟩ | ⟨rfl, rfl⟩ | ⟨rfl, rfl⟩
    · simp only [createFields, Record.reads_seq, Record.reads_map] at hread
      obtain ⟨uri, huri, options, hoptions, note, hnote, rfl⟩ := hread
      refine FileOperation.decode_objectOf rfl (by simp) ?_
      simp only [createFields, Record.reads_seq, Record.reads_map]
      exact ⟨_, Uri.stable.required hs huri (by simp),
        _, (TargetOptions.stable _).nullable hs hoptions (.inl (by simp)),
        _, Stable.text.nullable hs hnote (.inl (by simp)), rfl⟩
    · simp only [renameFields, Record.reads_seq, Record.reads_map] at hread
      obtain ⟨old, hold, new, hnew, options, hoptions, note, hnote, rfl⟩ := hread
      refine FileOperation.decode_objectOf rfl (by simp) ?_
      simp only [renameFields, Record.reads_seq, Record.reads_map]
      exact ⟨_, Uri.stable.required hs hold (by simp), _, Uri.stable.required hs hnew (by simp),
        _, (TargetOptions.stable _).nullable hs hoptions (.inl (by simp)),
        _, Stable.text.nullable hs hnote (.inl (by simp)), rfl⟩
    · simp only [deleteFields, Record.reads_seq, Record.reads_map] at hread
      obtain ⟨uri, huri, options, hoptions, rfl⟩ := hread
      refine FileOperation.decode_objectOf rfl (by simp) ?_
      simp only [deleteFields, Record.reads_seq, Record.reads_map]
      exact ⟨_, Uri.stable.required hs huri (by simp),
        _, DeleteOptions.stable.nullable hs hoptions (.inl (by simp)), rfl⟩
  ne_null {_ operation} _ _ := by
    cases operation <;> nofun

/-! ## Lists of changes -/

/-- What is written of the edits of a document is no file operation. -/
theorem DocumentEdit.decode_operation_ne_ok (edit : DocumentEdit) (operation : FileOperation) :
    FileOperation.decode edit.toJson ≠ .ok operation := nofun

/-- What is written of a file operation is no edit of a document. -/
theorem FileOperation.decode_edit_ne_ok (operation : FileOperation) (edit : DocumentEdit) :
    DocumentEdit.decode operation.toJson ≠ .ok edit := by
  have hmissing {members : List (String × Option Json)}
      (hnone : ∀ m ∈ members, m.1 ≠ "textDocument") :
      DocumentEdit.decode (.objectOf members) ≠ .ok edit := by
    refine decoder_objectOf_ne_ok "textDocument" (fun s h => ?_) hnone
    simp only [Record.reads_seq, Record.reads_map] at h
    exact ⟨_, _, _, h⟩
  cases operation <;> exact hmissing (by simp)

theorem DocumentChange.stable : Stable DocumentChange.decode DocumentChange.toJson := by
  have hedit : Stable (Decoder.map DocumentChange.edit DocumentEdit.decode) DocumentChange.toJson :=
    DocumentEdit.stable.map fun _ => rfl
  refine .firstOf_cons (FileOperation.stable.map fun _ => rfl)
    (.firstOf_cons hedit .firstOf_nil nofun) ?_
  rintro later hlater j value - h other hother
  obtain rfl := List.mem_singleton.mp hlater
  obtain ⟨edit, -, rfl⟩ := map_eq_ok.mp h
  obtain ⟨operation, hoperation, -⟩ := map_eq_ok.mp hother
  exact edit.decode_operation_ne_ok operation hoperation

theorem DocumentChange.decode_edit_of_eq_ok {j : Json} {edit : DocumentEdit}
    (h : DocumentChange.decode j = .ok (.edit edit)) : DocumentEdit.decode j = .ok edit := by
  obtain ⟨decoder, hdecoder, h⟩ := exists_of_firstOf h
  rcases List.mem_pair.mp hdecoder with rfl | rfl
  · obtain ⟨operation, -, ⟨⟩⟩ := map_eq_ok.mp h
  · obtain ⟨_, h, ⟨⟩⟩ := map_eq_ok.mp h
    exact h

/-- Items that are read as text edits, and as nothing else, are text edits. -/
theorem exists_edits {items : List Json} {changes : List DocumentChange}
    (h : List.Forall₂ (fun item change => DocumentChange.decode item = .ok change) items changes)
    (hnone : ∀ operation, DocumentChange.operation operation ∉ changes) :
    ∃ edits, List.Forall₂ (fun item edit => DocumentEdit.decode item = .ok edit) items edits := by
  induction h with
  | nil => exact ⟨[], .nil⟩
  | @cons item change items changes hchange _ ih =>
    obtain ⟨edits, hedits⟩ := ih fun operation hmem => hnone operation (List.mem_cons_of_mem _ hmem)
    cases change with
    | edit edit => exact ⟨edit :: edits, .cons (DocumentChange.decode_edit_of_eq_ok hchange) hedits⟩
    | operation operation => exact absurd List.mem_cons_self (hnone operation)

theorem DocumentChanges.stable : Stable DocumentChanges.decode DocumentChanges.toJson := by
  have hoperations : Stable (Decoder.map DocumentChanges.operations
      (Decoder.list DocumentChange.decode)) DocumentChanges.toJson :=
    DocumentChange.stable.list.map fun _ => rfl
  refine .firstOf_cons (DocumentEdit.stable.list.map fun _ => rfl)
    (.firstOf_cons hoperations .firstOf_nil nofun) ?_
  rintro later hlater j value hnot h other hother
  obtain rfl := List.mem_singleton.mp hlater
  obtain ⟨changes, hchanges, rfl⟩ := map_eq_ok.mp h
  obtain ⟨edits, hedits, -⟩ := map_eq_ok.mp hother
  cases j with
  | array items =>
    -- There is an operation among the changes, and it is no text edit when it is written.
    have hoperation : ∃ operation, DocumentChange.operation operation ∈ changes := by
      by_contra hnone
      obtain ⟨edits, hedits⟩ := exists_edits (mapM_eq_ok.mp hchanges) (not_exists.mp hnone)
      exact hnot _ (map_eq_ok.mpr ⟨edits, mapM_eq_ok.mpr hedits, rfl⟩)
    obtain ⟨operation, hoperation⟩ := hoperation
    obtain ⟨edit, -, hedit⟩ := exists_of_forall₂ (mapM_eq_ok.mp hedits).flip
      (List.mem_map_of_mem hoperation)
    exact operation.decode_edit_ne_ok edit hedit
  | _ => cases hchanges

/-! ## Workspace edits -/

/-- Sets the edits of a document as they are read. -/
def readEntry (entries : List (Uri × List TextEdit)) (m : String × Json) :
    Decoded (List (Uri × List TextEdit)) := do
  let uri ← Uri.ofText m.1
  let edits ← Decoder.list TextEdit.decode m.2
  return setEntry entries uri edits

/-- Reads edits by document where there are some. -/
def entriesDecoder : Decoder (List (Uri × List TextEdit))
  | .object members => members.foldlM readEntry []
  | other => Decoder.wrongType other "map"

theorem changesDecoder_eq : changesDecoder = Decoder.optional entriesDecoder := by
  funext j
  cases j with
  | object members =>
    change (members.foldlM readEntry [] >>= fun entries => pure (some entries)) =
      (members.foldlM readEntry []).map some
    cases members.foldlM readEntry [] <;> rfl
  | _ => rfl

/-- Edits by document that are read again: the documents are different, and each of them and its
edits are read again. -/
structure EntriesAgain (entries : List (Uri × List TextEdit)) : Prop where
  nodup : (entries.map (·.1)).Nodup
  again : ∀ entry ∈ entries, Uri.parse entry.1.text = .ok entry.1 ∧
    Decoder.list TextEdit.decode (.list TextEdit.toJson entry.2) = .ok entry.2

theorem setEntry_of_not_mem {entries : List (Uri × List TextEdit)} {uri : Uri}
    (h : uri ∉ entries.map (·.1)) (edits : List TextEdit) :
    setEntry entries uri edits = entries ++ [(uri, edits)] := by
  rw [setEntry, if_neg]
  simpa using h

theorem map_fst_setEntry {entries : List (Uri × List TextEdit)} {uri : Uri}
    (h : uri ∈ entries.map (·.1)) (edits : List TextEdit) :
    (setEntry entries uri edits).map (·.1) = entries.map (·.1) := by
  rw [setEntry, if_pos (by simpa using h), List.map_map]
  refine List.map_congr_left fun entry _ => ?_
  by_cases heq : entry.1 = uri
  · simp [heq]
  · simp [heq]

theorem mem_setEntry {entries : List (Uri × List TextEdit)} {uri : Uri} {edits : List TextEdit}
    {entry : Uri × List TextEdit} (h : entry ∈ setEntry entries uri edits) :
    entry = (uri, edits) ∨ entry ∈ entries := by
  rw [setEntry] at h
  split at h
  · obtain ⟨old, hold, rfl⟩ := List.mem_map.mp h
    split
    · exact .inl rfl
    · exact .inr hold
  · exact (List.mem_append.mp h).symm.imp_left List.mem_singleton.mp

theorem EntriesAgain.setEntry {entries : List (Uri × List TextEdit)} (h : EntriesAgain entries)
    {uri : Uri} (huri : Uri.parse uri.text = .ok uri) {edits : List TextEdit}
    (hedits : Decoder.list TextEdit.decode (.list TextEdit.toJson edits) = .ok edits) :
    EntriesAgain (setEntry entries uri edits) where
  nodup := by
    by_cases hmem : uri ∈ entries.map (·.1)
    · rw [map_fst_setEntry hmem]
      exact h.nodup
    · rw [setEntry_of_not_mem hmem, List.map_append]
      exact List.Nodup.append h.nodup (List.nodup_singleton uri)
        (List.disjoint_singleton.mpr hmem)
  again entry hentry := by
    rcases mem_setEntry hentry with rfl | hentry
    · exact ⟨huri, hedits⟩
    · exact h.again entry hentry

/-- What is read by document is read again. -/
theorem entriesAgain_of_foldlM {members : List (String × Json)} (hj : (object members).Settled)
    {before entries : List (Uri × List TextEdit)} (hbefore : EntriesAgain before)
    (h : members.foldlM readEntry before = .ok entries) : EntriesAgain entries := by
  induction members generalizing before with
  | nil =>
    cases h
    exact hbefore
  | cons m members ih =>
    have hrest : (object members).Settled := fun text htext =>
      hj text (List.mem_cons_of_mem _ (List.mem_append_right _ htext))
    rw [List.foldlM_cons] at h
    obtain ⟨next, hnext, h⟩ := bind_eq_ok.mp h
    obtain ⟨uri, huri, hnext⟩ := bind_eq_ok.mp hnext
    obtain ⟨edits, hedits, ⟨⟩⟩ := bind_eq_ok.mp hnext
    have hm : (m.1, m.2) ∈ m :: members := List.mem_cons_self
    refine ih hrest (hbefore.setEntry ?_ ?_) h
    · exact hj.name hm (Uri.ofText_eq_ok.mp huri)
    · exact TextEdit.stable.list.again (hj.value hm) hedits

/-- Entries for different documents are set one after the other. -/
theorem foldlM_readEntry (before : List (Uri × List TextEdit))
    {entries : List (Uri × List TextEdit)} (h : EntriesAgain (before ++ entries)) :
    (entries.map fun (uri, edits) => (uri.text, Json.list TextEdit.toJson edits)).foldlM readEntry
      before = .ok (before ++ entries) := by
  induction entries generalizing before with
  | nil =>
    rw [List.append_nil]
    rfl
  | cons entry entries ih =>
    obtain ⟨uri, edits⟩ := entry
    obtain ⟨huri, hedits⟩ := h.again (uri, edits) (by simp)
    have hnew : uri ∉ before.map (·.1) := by
      have hnodup := h.nodup
      rw [List.map_append, List.nodup_append'] at hnodup
      exact fun hmem => hnodup.2.2 hmem (by simp)
    have hnext : readEntry before (uri.text, Json.list TextEdit.toJson edits) =
        .ok (before ++ [(uri, edits)]) := by
      rw [← setEntry_of_not_mem hnew edits]
      exact bind_eq_ok.mpr ⟨uri, Uri.ofText_eq_ok.mpr huri, bind_eq_ok.mpr ⟨edits, hedits, rfl⟩⟩
    rw [List.append_cons] at h ⊢
    rw [List.map_cons, List.foldlM_cons]
    exact bind_eq_ok.mpr ⟨_, hnext, ih _ h⟩

theorem stable_entries : Stable entriesDecoder fun entries =>
    .object (entries.map fun (uri, edits) => (uri.text, .list TextEdit.toJson edits)) where
  again {j entries} hj h := by
    cases j with
    | object members =>
      have hnone : EntriesAgain [] := ⟨List.nodup_nil, List.forall_mem_nil _⟩
      exact foldlM_readEntry [] (entriesAgain_of_foldlM hj hnone h)
    | _ => cases h
  ne_null _ _ := nofun

theorem ChangeAnnotation.stable : Stable ChangeAnnotation.decode ChangeAnnotation.toJson := by
  refine .record (fun _ => objectOf_eq _) fun hs h => ?_
  simp only [Record.reads_seq, Record.reads_map] at h ⊢
  obtain ⟨label, hlabel, confirm, hconfirm, description, hdescription, rfl⟩ := h
  exact ⟨_, Stable.text.required hs hlabel (by simp),
    _, Stable.flag.nullable hs hconfirm (.inl (by simp)),
    _, Stable.text.nullable hs hdescription (.inl (by simp)), rfl⟩

theorem stable_annotations : Stable annotationsDecoder fun annotations =>
    .object (annotations.map fun (name, annotation) => (name, annotation.toJson)) where
  again {j annotations} hj h := by
    cases j with
    | object members => exact (Stable.named ChangeAnnotation.stable (fun _ hm => hj.value hm) h).1
    | _ => cases h
  ne_null _ _ := nofun

theorem WorkspaceEdit.stable : Stable WorkspaceEdit.decode WorkspaceEdit.toJson := by
  refine .record (fun _ => objectOf_eq _) fun hs h => ?_
  simp only [Record.reads_seq, Record.reads_map, changesDecoder_eq] at h ⊢
  obtain ⟨changes, hchanges, steps, hsteps, annotations, hannotations, rfl⟩ := h
  exact ⟨_, stable_entries.optional hs hchanges (.inl (by simp)),
    _, DocumentChanges.stable.nullable hs hsteps (.inl (by simp)),
    _, stable_annotations.nullable hs hannotations (.inl (by simp)), rfl⟩

end Refactoring
