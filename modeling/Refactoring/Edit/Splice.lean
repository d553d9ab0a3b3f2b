import Refactoring.Wire.Edit

/-!
# Text edits applied to a text

Every range is resolved in the text as it was.  The edits are then carried out from the last start
to the first, so that the places of the others stay valid, and edits with the same start keep their
order.  Edits that overlap can leave a range that does not fit the changed text; carrying it out is
then impossible.
-/

namespace Refactoring.Text

/-- Cuts a text at a byte index, which must lie between two characters. -/
def splitAtByte? : List Char → Nat → Option (List Char × List Char)
  | text, 0 => some ([], text)
  | [], _ + 1 => none
  | c :: rest, n + 1 =>
    if c.utf8Size ≤ n + 1 then
      (splitAtByte? rest (n + 1 - c.utf8Size)).map fun (front, back) => (c :: front, back)
    else none

/-- New text for the bytes from `start` to `stop` of a text. -/
structure Splice where
  start : Nat
  stop : Nat
  newText : List Char
  deriving Repr, DecidableEq

/-- Carries out one replacement, if both ends lie between characters of the text. -/
def Splice.apply? (s : Splice) (text : List Char) : Option (List Char) := do
  let (front, rest) ← splitAtByte? text s.start
  let (_, back) ← splitAtByte? rest (s.stop - s.start)
  some (front ++ s.newText ++ back)

/-- The place of an edit in a text; an end before the start counts as the start. -/
def resolve (text : List Char) (edit : TextEdit) : Splice :=
  let start := (locate text edit.range.start).byte
  ⟨start, max (locate text edit.range.stop).byte start, edit.newText.toList⟩

/-- The replacements of some edits in the order of their starts. -/
def resolveAll (text : List Char) (edits : List TextEdit) : List Splice :=
  (edits.map (resolve text)).mergeSort fun a b => a.start ≤ b.start

/-- Carries out replacements from the last to the first. -/
def spliceAll? (splices : List Splice) (text : List Char) : Option (List Char) :=
  splices.foldr (fun s changed => changed.bind s.apply?) (some text)

/-- A text with edits applied; `none` if a range no longer fits. -/
def applyEdits? (edits : List TextEdit) (text : String) : Option String :=
  (spliceAll? (resolveAll text.toList edits) text.toList).map String.ofList

/-- The two parts of a cut make up the text. -/
theorem append_of_splitAtByte? {text front back : List Char} {n : Nat}
    (h : splitAtByte? text n = some (front, back)) : front ++ back = text := by
  induction text generalizing n front back with
  | nil =>
    cases n with
    | zero => simp_all [splitAtByte?]
    | succ n => simp [splitAtByte?] at h
  | cons c rest ih =>
    cases n with
    | zero => simp_all [splitAtByte?]
    | succ n =>
      simp only [splitAtByte?] at h
      split at h
      · simp only [Option.map_eq_some_iff, Prod.mk.injEq, Prod.exists] at h
        obtain ⟨f, b, hs, rfl, rfl⟩ := h
        simp [ih hs]
      · simp at h

end Refactoring.Text
