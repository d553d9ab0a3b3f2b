/-!
# Blank characters

The characters with the Unicode property `White_Space`, and texts without them at either end.
-/

namespace Refactoring.Text

/-- The code points with the property `White_Space`. -/
def isBlank (c : Char) : Bool :=
  (0x09 ≤ c.toNat && c.toNat ≤ 0x0D) || c.toNat == 0x20 || c.toNat == 0x85 || c.toNat == 0xA0 ||
  c.toNat == 0x1680 || (0x2000 ≤ c.toNat && c.toNat ≤ 0x200A) || c.toNat == 0x2028 ||
  c.toNat == 0x2029 || c.toNat == 0x202F || c.toNat == 0x205F || c.toNat == 0x3000

/-- Drops what satisfies `p` from both ends. -/
def stripBoth (p : Char → Bool) (text : List Char) : List Char :=
  ((text.dropWhile p).reverse.dropWhile p).reverse

/-- Drops blank characters from both ends. -/
def trim (text : List Char) : List Char := stripBoth isBlank text

/-- Cuts a text in two around the first place where `mark` begins. -/
def splitOnce (mark : List Char) : List Char → Option (List Char × List Char)
  | [] => if mark.isEmpty then some ([], []) else none
  | c :: rest =>
    if mark.isPrefixOf (c :: rest) then some ([], (c :: rest).drop mark.length)
    else (splitOnce mark rest).map fun (before, behind) => (c :: before, behind)

/-- The two parts around the mark make up the text. -/
theorem splitOnce_eq_some {mark text before behind : List Char}
    (h : splitOnce mark text = some (before, behind)) : text = before ++ mark ++ behind := by
  induction text generalizing before behind with
  | nil =>
    simp only [splitOnce] at h
    split at h
    · simp_all
    · simp at h
  | cons c rest ih =>
    simp only [splitOnce] at h
    split at h
    · rename_i hp
      obtain ⟨tail, ht⟩ := List.isPrefixOf_iff_prefix.1 hp
      simp only [Option.some.injEq, Prod.mk.injEq] at h
      obtain ⟨rfl, rfl⟩ := h
      rw [← ht]
      simp
    · simp only [Option.map_eq_some_iff, Prod.mk.injEq, Prod.exists] at h
      obtain ⟨b, d, hs, rfl, rfl⟩ := h
      simp [ih hs]

end Refactoring.Text
