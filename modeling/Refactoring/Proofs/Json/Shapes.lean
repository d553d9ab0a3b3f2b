import Refactoring.Json.Schema
import Refactoring.Proofs.Json.Printed

/-!
# What is printed in a shape is read back

The readers that check a shape read back what is printed of values that have it.
-/

namespace Refactoring.Json.Schema

variable {rest text : List Char}

/-- A value that the shape accepts is read back. -/
def Accepts (schema : Schema) (depth : Nat) (value : Json) : Prop :=
  ReadsBack (fun fuel => schema.readAs fuel depth) value

theorem readAs_blank (fuel depth : Nat) (schema : Schema) (text : List Char) :
    schema.readAs (fuel + 1) depth (' ' :: text) = schema.readAs (fuel + 1) depth text := by
  have hblank : skipBlanks (' ' :: text) = skipBlanks text := rfl
  rw [readAs.eq_def, readAs.eq_def]
  dsimp only
  rw [hblank]

/-- A text that was printed of a value that the shape accepts is read as this value. -/
theorem Accepts.read_pretty {schema : Schema} {value : Json} (h : schema.Accepts 128 value) :
    schema.read value.pretty = .ok value := by
  have hread : schema.readAs _ 128 _ = _ :=
    h 0 (fuelFor (prettyAt 0 value).toList) [] (length_le_fuelFor _) nofun
  rw [List.append_nil] at hread
  unfold read pretty depthLimit
  dsimp only
  rw [hread, ok_bind]
  rfl

/-- Members are read back from their lines if the shape has a field for each of them. -/
theorem readNamed_lines {depth : Nat} {fields : List (String × Bool × Schema)}
    (known : List (String × Json)) {members : List (String × Json)}
    (h : ∀ m ∈ members, ∃ field, fields.find? (·.1 == m.1) = some field ∧
      field.2.2.Accepts depth m.2)
    (hkeys : ((known ++ members).map (·.1)).Nodup)
    (hmissing : firstMissing? fields (known ++ members) = none)
    (first : Bool) (level fuel : Nat)
    (hfuel : (linesFrom level '\x7d' first (prettyMembers (level + 1) members)).length ≤ fuel)
    (rest : List Char) :
    readNamed fuel depth fields known first
        (linesFrom level '\x7d' first (prettyMembers (level + 1) members) ++ rest) =
      .ok (known ++ members, rest) := by
  obtain ⟨fuel, rfl⟩ := Nat.exists_eq_add_one.mpr
    ((length_linesFrom_pos _ _ _ _).trans_le hfuel)
  induction members generalizing known first fuel with
  | nil =>
    rw [List.append_nil] at hmissing ⊢
    rw [prettyMembers, readNamed, nextKey_end, ok_bind]
    dsimp only
    rw [hmissing]
  | cons m members ih =>
    obtain ⟨key, value⟩ := m
    obtain ⟨⟨name, optional, schema⟩, hfind, haccepts⟩ := h _ List.mem_cons_self
    rw [prettyMembers] at hfuel ⊢
    obtain ⟨hline, hlines⟩ := length_of_linesFrom hfuel
    rw [toList_member] at hline
    obtain ⟨fuel, rfl⟩ := Nat.exists_eq_add_one.mpr (Nat.lt_of_lt_of_le (Nat.succ_pos _) hline)
    have hvalue : schema.readAs (fuel + 1) depth _ = _ :=
      haccepts (level + 1) (fuel + 1) _ (by simp at hline ⊢; omega)
        (behind_linesFrom level '\x7d' (prettyMembers (level + 1) members) rest)
    have hrest := ih (known ++ [(key, value)]) (fun m hm => h m (List.mem_cons_of_mem _ hm))
      (by simpa using hkeys) (by simpa using hmissing) false fuel hlines
    rw [readNamed, nextKey_line first level (toList_member _ _ _), ok_bind]
    simp only [List.append_assoc, List.cons_append]
    rw [readString_escaped, ok_bind]
    dsimp only
    rw [hfind]
    dsimp only
    rw [if_neg (not_any_of_nodup hkeys), readColon_colon, ok_bind, readAs_blank, hvalue, ok_bind,
      hrest]
    simp

/-- A record is read back if its members are and none is missing. -/
theorem accepts_record {depth : Nat} {type : String} {fields : List (String × Bool × Schema)}
    {members : List (String × Json)}
    (h : ∀ m ∈ members, ∃ field, fields.find? (·.1 == m.1) = some field ∧
      field.2.2.Accepts (depth + 1) m.2)
    (hkeys : (members.map (·.1)).Nodup) (hmissing : firstMissing? fields members = none) :
    (record type fields).Accepts (depth + 2) (.object members) := by
  have hopens : Opens (.object members) (· = '\x7b') :=
    fun level => ⟨'\x7b', _, toList_object level _, rfl, rfl⟩
  refine readsBack_of_succ hopens fun level fuel rest hfuel hrest => ?_
  rw [toList_object] at hfuel ⊢
  rw [List.cons_append, readAs, skipBlanks_of_not_blank rfl]
  change (readNamed fuel (depth + 1) fields [] true _).map _ = _
  rw [readNamed_lines [] h hkeys hmissing true level fuel
    (Nat.le_of_succ_le_succ hfuel)]
  rfl

/-- Any value that can be read back is accepted as it is. -/
theorem accepts_any {depth : Nat} {value : Json} (h : Legible depth value) :
    any.Accepts (depth + 1) value := by
  refine readsBack_of_succ h.opens fun level fuel rest hfuel hrest => ?_
  obtain ⟨c, text, htext, hblank, -⟩ := h.opens level
  have hread : readValue _ (depth + 1) _ = _ :=
    h.readsBack level (fuelFor ((prettyAt level value).toList ++ rest)) rest
      (by simp [fuelFor]; omega) hrest
  rw [htext, List.cons_append] at hread ⊢
  rw [readAs, skipBlanks_of_not_blank hblank]
  exact hread

theorem scalar_of_decoder {decoder : Decoder Json} {wanted : String} {value : Json}
    (h : Scalar value) (hdecoder : decoder value = .ok value) (level : Nat) (hrest : Behind rest) :
    scalar decoder wanted ((prettyAt level value).toList ++ rest) = .ok (value, rest) := by
  obtain ⟨c, text, htext, hblank, harray, -, hobject⟩ := h.opens level
  have hread := h.readScalar level hrest
  rw [htext, List.cons_append] at hread ⊢
  unfold scalar
  split
  · simp_all
  · simp_all
  · rw [hread]
    dsimp only
    rw [hdecoder]

theorem accepts_of_scalar {schema : Schema} (decoder : Decoder Json) (wanted : String)
    {depth : Nat} {value : Json} (h : Scalar value) (hdecoder : decoder value = .ok value)
    (hschema : ∀ fuel text,
      schema.readAs (fuel + 1) depth text = scalar decoder wanted (skipBlanks text)) :
    schema.Accepts depth value := by
  refine readsBack_of_succ h.opens fun level fuel rest hfuel hrest => ?_
  obtain ⟨c, text, htext, hblank, -⟩ := h.opens level
  rw [hschema, htext, List.cons_append, skipBlanks_of_not_blank hblank, ← List.cons_append,
    ← htext]
  exact scalar_of_decoder h hdecoder level hrest

theorem accepts_string (depth : Nat) (s : String) : string.Accepts depth (.string s) :=
  accepts_of_scalar (Decoder.map .string Decoder.text) "a string" (.string s) rfl
    fun fuel text => by rw [readAs]

theorem accepts_flag (depth : Nat) (b : Bool) : flag.Accepts depth (.bool b) :=
  accepts_of_scalar (Decoder.map .bool Decoder.flag) "a boolean" (.bool b) rfl
    fun fuel text => by rw [readAs]

theorem accepts_word32 (depth : Nat) {n : Nat} (hn : n < 2 ^ 32) :
    word32.Accepts depth (.ofNat n) := by
  refine accepts_of_scalar (Decoder.map .ofNat Decoder.word32) "u32"
    (.ofNat (by unfold maxWord; omega)) ?_ fun fuel text => by rw [readAs]
  rw [ofNat, Decoder.map, Decoder.word32, Decoder.integer, if_pos (by omega)]
  rfl

/-- Texts are read back from their lines. -/
theorem readTexts_lines {depth : Nat} (items : List String) (first : Bool) (level fuel : Nat)
    (hfuel : (linesFrom level ']' first (prettyItems (level + 1) (items.map .string))).length ≤
      fuel)
    (rest : List Char) :
    readTexts fuel depth first
        (linesFrom level ']' first (prettyItems (level + 1) (items.map .string)) ++ rest) =
      .ok (items.map .string, rest) := by
  obtain ⟨fuel, rfl⟩ := Nat.exists_eq_add_one.mpr
    ((length_linesFrom_pos _ _ _ _).trans_le hfuel)
  induction items generalizing first fuel with
  | nil =>
    rw [List.map_nil, prettyItems, readTexts, nextItem_end]
    rfl
  | cons item items ih =>
    rw [List.map_cons, prettyItems] at hfuel ⊢
    obtain ⟨c, text, htext, hblank, -, hc, -⟩ := (Scalar.string item).opens (level + 1)
    obtain ⟨hline, hlines⟩ := length_of_linesFrom hfuel
    obtain ⟨fuel, rfl⟩ := Nat.exists_eq_add_one.mpr (Nat.lt_of_lt_of_le (by simp [htext]) hline)
    have hitem : string.readAs (fuel + 1) depth _ = _ :=
      accepts_string depth item (level + 1) (fuel + 1) _ hline
        (behind_linesFrom level ']' (prettyItems (level + 1) (items.map .string)) rest)
    rw [readTexts, nextItem_line hblank hc first level htext, ok_bind]
    dsimp only
    rw [← htext, hitem, ok_bind, ih false fuel hlines]
    rfl

theorem accepts_strings (depth : Nat) (items : List String) :
    strings.Accepts (depth + 2) (Json.strings items) := by
  have hopens : Opens (Json.strings items) (· = '[') :=
    fun level => ⟨'[', _, toList_array level _, rfl, rfl⟩
  refine readsBack_of_succ hopens fun level fuel rest hfuel hrest => ?_
  rw [Json.strings, toList_array] at hfuel ⊢
  rw [List.cons_append, readAs, skipBlanks_of_not_blank rfl]
  change (readTexts fuel (depth + 1) true _).map _ = _
  rw [readTexts_lines items true level fuel (Nat.le_of_succ_le_succ hfuel)]
  rfl

end Refactoring.Json.Schema
