import Refactoring.Text.Utf8

/-!
# The bytes of texts

The bytes of a text are those of its characters, one after the other.  A line feed is the only
character with the byte 10 in it, and a character below 128 is its own byte; so lines can be found
in bytes, and texts of such characters can be cut anywhere.  The bytes of texts are in the order of
the texts.
-/

namespace Refactoring.Utf8

theorem encode_eq_flatMap (text : String) :
    encode text = text.toList.flatMap String.utf8EncodeChar := by
  rw [encode, String.toUTF8_eq_toByteArray, ← String.utf8Encode_toList, List.utf8Encode,
    List.toList_data_toByteArray]

@[simp] theorem encode_ofList (text : List Char) :
    encode (String.ofList text) = text.flatMap String.utf8EncodeChar := by
  rw [encode_eq_flatMap, String.toList_ofList]

@[simp] theorem encode_append (a b : String) : encode (a ++ b) = encode a ++ encode b := by
  simp [encode_eq_flatMap]

theorem encode_eq_nil {text : String} : encode text = [] ↔ text = "" := by
  rw [encode_eq_flatMap, List.flatMap_eq_nil_iff, ← String.toList_eq_nil_iff,
    List.eq_nil_iff_forall_not_mem]
  simp

/-- A byte below 128 in the bytes of a character is the character itself. -/
theorem toNat_eq_of_mem_utf8EncodeChar {c : Char} {b : UInt8} (h : b ∈ String.utf8EncodeChar c)
    (hb : b.toNat < 128) : c.toNat = b.toNat := by
  have hc : c.toNat = c.val.toNat := rfl
  dsimp only [String.utf8EncodeChar] at h
  split at h
  · simp only [List.mem_cons, List.not_mem_nil, or_false] at h
    rw [h, UInt8.toNat_ofNat']
    omega
  · -- The bytes of all other characters begin at 128.
    exfalso
    split at h
    · simp only [List.mem_cons, List.not_mem_nil, or_false] at h
      rcases h with rfl | rfl <;> rw [UInt8.toNat_ofNat'] at hb <;> omega
    · split at h
      · simp only [List.mem_cons, List.not_mem_nil, or_false] at h
        rcases h with rfl | rfl | rfl <;> rw [UInt8.toNat_ofNat'] at hb <;> omega
      · simp only [List.mem_cons, List.not_mem_nil, or_false] at h
        rcases h with rfl | rfl | rfl | rfl <;> rw [UInt8.toNat_ofNat'] at hb <;> omega

/-- The byte of a line feed is in the bytes of texts with a line feed only. -/
theorem newline_mem_encode {text : String} : 10 ∈ encode text ↔ '\n' ∈ text.toList := by
  rw [encode_eq_flatMap, List.mem_flatMap]
  constructor
  · rintro ⟨c, hc, hb⟩
    have hn : c.toNat = 10 := toNat_eq_of_mem_utf8EncodeChar hb (by decide)
    obtain rfl : c = '\n' := Char.toNat_inj.mp hn
    exact hc
  · exact fun h => ⟨'\n', h, by decide⟩

/-- A character below 128 is its own byte. -/
theorem utf8EncodeChar_of_lt {c : Char} (h : c.toNat < 128) :
    String.utf8EncodeChar c = [UInt8.ofNat c.toNat] := by
  have hc : c.val.toNat ≤ 127 := by
    have : c.toNat = c.val.toNat := rfl
    omega
  unfold String.utf8EncodeChar
  exact if_pos hc

/-- The bytes of a text of characters below 128. -/
theorem encode_ofList_of_lt {text : List Char} (h : ∀ c ∈ text, c.toNat < 128) :
    encode (String.ofList text) = text.map fun c => UInt8.ofNat c.toNat := by
  rw [encode_ofList]
  induction text with
  | nil => rfl
  | cons c rest ih =>
    rw [List.flatMap_cons, utf8EncodeChar_of_lt (h c (by simp)), ih fun d hd => h d (by simp [hd])]
    rfl

/-- Cutting the bytes of characters below 128 cuts the text. -/
theorem exists_of_prefix_encode {text : List Char} (h : ∀ c ∈ text, c.toNat < 128)
    {bytes : List UInt8} (hp : bytes <+: encode (String.ofList text)) :
    ∃ front, front <+: text ∧ bytes = encode (String.ofList front) := by
  rw [encode_ofList_of_lt h] at hp
  obtain ⟨front, hf, rfl⟩ := List.prefix_map_iff.mp hp
  exact ⟨front, hf, (encode_ofList_of_lt fun c hc => h c (hf.subset hc)).symm⟩

/-! ## The order of bytes -/

/-- Numbers are compared digit by digit; the last three digits are to the base 64. -/
theorem digits_lt {v w : Nat} (h : v < w) :
    v / 262144 < w / 262144 ∨ v / 262144 = w / 262144 ∧
      (v / 4096 % 64 < w / 4096 % 64 ∨ v / 4096 % 64 = w / 4096 % 64 ∧
        (v / 64 % 64 < w / 64 % 64 ∨ v / 64 % 64 = w / 64 % 64 ∧ v % 64 < w % 64)) := by
  rcases Nat.lt_or_ge (v / 4096) (w / 4096) with hupper | hupper
  · omega
  · omega

/-- The bytes of a smaller character are smaller, whatever follows. -/
theorem utf8EncodeChar_append_lt {c d : Char} (h : c < d) (x y : List UInt8) :
    String.utf8EncodeChar c ++ x < String.utf8EncodeChar d ++ y := by
  have hlt : c.val.toNat < d.val.toNat := h
  have hdigits := digits_lt hlt
  have hsize : d.val.toNat < 0x110000 := by
    rcases d.valid with hd | ⟨-, hd⟩
    · exact Nat.lt_trans hd (by decide)
    · exact hd
  dsimp only [String.utf8EncodeChar]
  generalize c.val.toNat = v, d.val.toNat = w at *
  repeat' split
  -- With fewer bytes the first one is smaller; with as many, the first one that differs.
  all_goals
    simp only [List.cons_append, List.nil_append, List.cons_lt_cons_iff, UInt8.lt_iff_toNat_lt,
      ← UInt8.toNat_inj, UInt8.toNat_ofNat']
    simp (disch := omega) only [Nat.mod_eq_of_lt]
    omega

/-- Texts are in the order of their bytes. -/
theorem encode_lt_encode {a b : String} (h : a < b) : encode a < encode b := by
  rw [encode_eq_flatMap, encode_eq_flatMap]
  have hlex : a.toList < b.toList := String.lt_iff.mp h
  generalize a.toList = x, b.toList = y at hlex
  induction hlex with
  | @nil c rest =>
    rw [List.flatMap_nil, List.flatMap_cons]
    cases hc : String.utf8EncodeChar c with
    | nil => exact absurd (congrArg List.length hc) (by simp [Nat.ne_of_gt c.utf8Size_pos])
    | cons first more => exact List.nil_lt_cons _ _
  | rel hcd => exact utf8EncodeChar_append_lt hcd _ _
  | cons _ ih => exact List.append_left_lt ih

theorem encode_lt_encode_iff {a b : String} : encode a < encode b ↔ a < b := by
  refine ⟨fun h => ?_, encode_lt_encode⟩
  rcases Std.lt_trichotomy a b with hab | rfl | hba
  · exact hab
  · exact absurd h (List.lt_irrefl _)
  · exact absurd h (List.lt_asymm (encode_lt_encode hba))

theorem encode_le_encode_iff {a b : String} : encode a ≤ encode b ↔ a ≤ b := by
  rw [← List.not_lt, encode_lt_encode_iff, String.not_lt]

end Refactoring.Utf8
