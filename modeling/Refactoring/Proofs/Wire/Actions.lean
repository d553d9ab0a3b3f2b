import Refactoring.Proofs.Wire.Places
import Refactoring.Wire.Action

/-!
# Selections, commands, options and symbols are read again

What requests are about is read again from what is written of it.  Selections and formatting options
leave room for more members, so that they are only read from objects; what the members of formatting
options mean is decided by their names.
-/

namespace Refactoring

open Json

/-! ## Diagnostics -/

theorem Json.Stable.int32 : Stable Decoder.int32 .ofInt := Stable.integer ..

theorem NumberOrText.stable : Stable NumberOrText.decode NumberOrText.toJson := by
  have htext : Stable (Decoder.map NumberOrText.text Decoder.text) NumberOrText.toJson :=
    Stable.text.map fun _ => rfl
  refine .firstOf_cons (Stable.int32.map fun _ => rfl) (.firstOf_cons htext .firstOf_nil nofun) ?_
  -- A text is no number.
  rintro later hlater j value - h other hother
  obtain rfl := List.mem_singleton.mp hlater
  obtain ⟨text, -, rfl⟩ := map_eq_ok.mp h
  cases hother

theorem RelatedInformation.stable :
    Stable RelatedInformation.decode RelatedInformation.toJson := by
  refine .record (fun _ => rfl) fun hs h => ?_
  simp only [Record.reads_seq, Record.reads_map] at h ⊢
  obtain ⟨location, hlocation, message, hmessage, rfl⟩ := h
  exact ⟨_, Location.stable.required hs hlocation rfl, _, Stable.text.required hs hmessage rfl, rfl⟩

theorem stable_codeDescription :
    Stable (Record.decoder "struct CodeDescription" (.required "href" Uri.decode))
      fun href => .object [("href", href.toJson)] := by
  refine .record (fun _ => rfl) fun hs h => ?_
  obtain ⟨uri, huri, rfl⟩ := h
  exact ⟨_, Uri.stable.required hs huri rfl, rfl⟩

theorem Diagnostic.stable : Stable Diagnostic.decode Diagnostic.toJson := by
  refine .record (fun _ => objectOf_eq _) fun hs h => ?_
  simp only [Record.reads_seq, Record.reads_map] at h ⊢
  obtain ⟨range, hrange, severity, hseverity, code, hcode, description, hdescription, source,
    hsource, message, hmessage, related, hrelated, tags, htags, data, hdata, rfl⟩ := h
  exact ⟨_, Range.stable.required hs hrange (by simp),
    _, Stable.int32.nullable hs hseverity (.inl (by simp)),
    _, NumberOrText.stable.nullable hs hcode (.inl (by simp)),
    _, stable_codeDescription.nullable hs hdescription (.inl (by simp)),
    _, Stable.text.nullable hs hsource (.inl (by simp)),
    _, Stable.text.required hs hmessage (by simp),
    _, RelatedInformation.stable.list.nullable hs hrelated (.inl (by simp)),
    _, Stable.int32.list.nullable hs htags (.inl (by simp)),
    _, Stable.any.nullable hs hdata (.inl (by simp)), rfl⟩

/-! ## Selections and commands -/

theorem SelectionContext.stable : Stable SelectionContext.decode SelectionContext.toJson := by
  refine .record (fun _ => objectOf_eq _) fun hs h => ?_
  simp only [Record.reads_seq, Record.reads_map] at h ⊢
  obtain ⟨diagnostics, hdiagnostics, only, honly, trigger, htrigger, rfl⟩ := h
  exact ⟨_, Diagnostic.stable.list.required hs hdiagnostics (by simp),
    _, Stable.text.list.nullable hs honly (.inl (by simp; rfl)),
    _, Stable.int32.nullable hs htrigger (.inl (by simp)), rfl⟩

/-- The tokens of a selection are read like its fields. -/
theorem Selection.decode_object_eq_ok {members : List (String × Json)} {selection : Selection} :
    Selection.decode (.object members) = .ok selection ↔
      (Selection.fields <*> .optional "workDoneToken" NumberOrText.decode <*>
        .optional "partialResultToken" NumberOrText.decode).Reads (sourceOf members)
          (· = selection) := by
  have hdecode : Selection.decode (.object members) = (do
    let selection ← Selection.fields.ofMembers members
    let workToken ← tokenIn "workDoneToken" members
    let partialToken ← tokenIn "partialResultToken" members
    return selection workToken partialToken) := rfl
  simp only [hdecode, bind_eq_ok, tokenIn, Record.ofMembers, mapError_eq_ok, Record.reads_seq]
  constructor
  · rintro ⟨make, hmake, work, hwork, partly, hpartly, ⟨⟩⟩
    exact ⟨make, hmake, work, hwork, partly, hpartly, rfl⟩
  · rintro ⟨make, hmake, work, hwork, partly, hpartly, rfl⟩
    exact ⟨make, hmake, work, hwork, partly, hpartly, rfl⟩

theorem Selection.stable : Stable Selection.decode Selection.toJson where
  again {j selection} hj h := by
    cases j with
    | object members =>
      have hs : (sourceOf members).Settled := fun _ hm => hj.value hm
      rw [Selection.decode_object_eq_ok] at h
      rw [Selection.toJson, objectOf_eq, Selection.decode_object_eq_ok]
      simp only [Selection.fields, Record.reads_seq, Record.reads_map] at h ⊢
      obtain ⟨document, hdocument, range, hrange, context, hcontext, work, hwork, partly, hpartly,
        rfl⟩ := h
      exact ⟨_, stable_document.required hs hdocument (by simp),
        _, Range.stable.required hs hrange (by simp),
        _, SelectionContext.stable.required hs hcontext (by simp),
        _, NumberOrText.stable.optional hs hwork (.inl (by simp)),
        _, NumberOrText.stable.optional hs hpartly (.inl (by simp)), rfl⟩
    | _ => cases h
  ne_null _ _ := nofun

theorem Command.stable : Stable Command.decode Command.toJson := by
  refine .record (fun _ => objectOf_eq _) fun hs h => ?_
  simp only [Record.reads_seq, Record.reads_map] at h ⊢
  obtain ⟨title, htitle, name, hname, arguments, harguments, rfl⟩ := h
  exact ⟨_, Stable.text.required hs htitle (by simp), _, Stable.text.required hs hname (by simp),
    _, Stable.items.nullable hs harguments (.inl (by simp)), rfl⟩

theorem Symbol.stable : Stable Symbol.decode Symbol.toJson := by
  refine .record (fun _ => objectOf_eq _) fun hs h => ?_
  simp only [Record.reads_seq, Record.reads_map] at h ⊢
  obtain ⟨name, hname, kind, hkind, tags, htags, deprecated, hdeprecated, location, hlocation,
    container, hcontainer, rfl⟩ := h
  exact ⟨_, Stable.text.required hs hname (by simp), _, Stable.int32.required hs hkind (by simp),
    _, Stable.int32.list.nullable hs htags (.inl (by simp)),
    _, Stable.flag.nullable hs hdeprecated (.inl (by simp)),
    _, Location.stable.required hs hlocation (by simp),
    _, Stable.text.nullable hs hcontainer (.inl (by simp)), rfl⟩

/-! ## Formatting options -/

theorem FormattingValue.stable : Stable FormattingValue.decode FormattingValue.toJson := by
  have htext : Stable (Decoder.map FormattingValue.text Decoder.text) FormattingValue.toJson :=
    Stable.text.map fun _ => rfl
  have hnumber : Stable (Decoder.map FormattingValue.number Decoder.int32) FormattingValue.toJson :=
    Stable.int32.map fun _ => rfl
  -- What is written of each alternative is of another type of JSON values.
  have hnumbers : Stable (Decoder.firstOf "FormattingProperty"
      [Decoder.map .number Decoder.int32, Decoder.map .text Decoder.text])
      FormattingValue.toJson := by
    refine .firstOf_cons hnumber (.firstOf_cons htext .firstOf_nil nofun) ?_
    rintro later hlater j value - h other hother
    obtain rfl := List.mem_singleton.mp hlater
    obtain ⟨text, -, rfl⟩ := map_eq_ok.mp h
    cases hother
  refine .firstOf_cons (Stable.flag.map fun _ => rfl) hnumbers ?_
  rintro later hlater j value - h other hother
  rcases List.mem_pair.mp hlater with rfl | rfl
  · obtain ⟨number, -, rfl⟩ := map_eq_ok.mp h
    cases hother
  · obtain ⟨text, -, rfl⟩ := map_eq_ok.mp h
    cases hother

/-- The members that have no meaning of their own. -/
def propertiesAmong (members : List (String × Json)) : List (String × Json) :=
  members.filter fun m => !FormattingOptions.fields.names.contains m.1

theorem FormattingOptions.decode_object_eq_ok {members : List (String × Json)}
    {options : FormattingOptions} : FormattingOptions.decode (.object members) = .ok options ↔
      FormattingOptions.fields.Reads (sourceOf members) fun make =>
        ∃ properties, (propertiesAmong members).mapM
          (fun m => do return (m.1, ← FormattingValue.decode m.2)) = .ok properties ∧
            make properties = options := by
  have hdecode : FormattingOptions.decode (.object members) = (do
    let make ← FormattingOptions.fields.ofMembers members
    let properties ← (propertiesAmong members).mapM fun m => do
      return (m.1, ← FormattingValue.decode m.2)
    return make properties) := rfl
  rw [hdecode, bind_eq_ok]
  refine exists_congr fun make => and_congr mapError_eq_ok ?_
  rw [bind_eq_ok]
  refine exists_congr fun properties => and_congr_right fun _ => ?_
  exact ⟨fun h => Except.ok.inj h, congrArg Except.ok⟩

theorem names_formattingFields : FormattingOptions.fields.names =
    ["tabSize", "insertSpaces", "trimTrailingWhitespace", "insertFinalNewline",
      "trimFinalNewlines"] := rfl

/-- The members that have a meaning of their own are told apart by their names. -/
theorem propertiesAmong_present {front own back : List (String × Option Json)}
    (hfront : ∀ m ∈ front, m.1 ∈ FormattingOptions.fields.names)
    (hown : ∀ m ∈ own, m.1 ∉ FormattingOptions.fields.names)
    (hback : ∀ m ∈ back, m.1 ∈ FormattingOptions.fields.names) :
    propertiesAmong (present (front ++ own ++ back)) = present own := by
  have hnone {known : List (String × Option Json)}
      (h : ∀ m ∈ known, m.1 ∈ FormattingOptions.fields.names) :
      propertiesAmong (present known) = [] := by
    refine List.filter_eq_nil_iff.mpr fun m hm => ?_
    simpa using h _ (mem_present.mp hm)
  have hall : propertiesAmong (present own) = present own := by
    refine List.filter_eq_self.mpr fun m hm => ?_
    simpa using hown _ (mem_present.mp hm)
  rw [propertiesAmong, present_append, present_append, List.filter_append, List.filter_append,
    ← propertiesAmong, ← propertiesAmong, ← propertiesAmong, hnone hfront, hall, hnone hback,
    List.nil_append, List.append_nil]

/-- The properties among formatting options, as they are written. -/
def shownProperties (properties : List (String × FormattingValue)) : List (String × Option Json) :=
  properties.map fun (name, value) => (name, some value.toJson)

theorem FormattingOptions.toJson_eq (options : FormattingOptions) : options.toJson =
    .object (present
      ([("tabSize", some (.ofNat options.tabSize)),
          ("insertSpaces", some (.bool options.insertSpaces))] ++
        shownProperties options.properties ++
        [("trimTrailingWhitespace", options.trimTrailingWhitespace.map .bool),
          ("insertFinalNewline", options.insertFinalNewline.map .bool),
          ("trimFinalNewlines", options.trimFinalNewlines.map .bool)])) := rfl

/-- The names of properties that were read have no meaning of their own. -/
theorem not_mem_names_of_shown {members : List (String × Json)}
    {properties : List (String × FormattingValue)}
    (hnames : ∀ property ∈ properties, ∃ m ∈ propertiesAmong members, m.1 = property.1) :
    ∀ m ∈ shownProperties properties, m.1 ∉ FormattingOptions.fields.names := by
  intro m hm
  obtain ⟨property, hproperty, rfl⟩ := List.mem_map.mp hm
  obtain ⟨m, hm, hname⟩ := hnames property hproperty
  rw [← hname]
  simpa using (List.mem_filter.mp hm).2

theorem FormattingOptions.stable : Stable FormattingOptions.decode FormattingOptions.toJson where
  again {j options} hj h := by
    cases j with
    | object members =>
      have hs : (sourceOf members).Settled := fun _ hm => hj.value hm
      rw [FormattingOptions.decode_object_eq_ok] at h
      rw [FormattingOptions.toJson_eq, FormattingOptions.decode_object_eq_ok]
      simp only [FormattingOptions.fields, Record.reads_seq, Record.reads_map] at h ⊢
      obtain ⟨tabSize, htabSize, insertSpaces, hinsertSpaces, trim, htrim, insert, hinsert, trimFinal,
        htrimFinal, properties, hproperties, rfl⟩ := h
      obtain ⟨hagain, hnames⟩ := FormattingValue.stable.named
        (fun m hm => hj.value (List.mem_of_mem_filter hm)) hproperties
      have hown := not_mem_names_of_shown hnames
      have hskip (name : String) (hname : name ∈ FormattingOptions.fields.names)
          (rest : List (String × Option Json)) :
          member? (present (shownProperties properties ++ rest)) name =
            member? (present rest) name := by
        refine member?_present_append_of_ne fun m hm heq => ?_
        exact hown m hm (heq ▸ hname)
      refine ⟨_, Stable.word32.required hs htabSize (by simp),
        _, Stable.flag.required hs hinsertSpaces (by simp),
        _, Stable.flag.nullable hs htrim (.inl ?_),
        _, Stable.flag.nullable hs hinsert (.inl ?_),
        _, Stable.flag.nullable hs htrimFinal (.inl ?_), _, ?_, rfl⟩
      · simp [hskip "trimTrailingWhitespace" (by decide)]
      · simp [hskip "insertFinalNewline" (by decide)]
      · simp [hskip "trimFinalNewlines" (by decide)]
      · rw [propertiesAmong_present (by simp [names_formattingFields]) hown
          (by simp [names_formattingFields]), shownProperties, present_map_some]
        exact hagain
    | _ => cases h
  ne_null _ _ := nofun

end Refactoring
