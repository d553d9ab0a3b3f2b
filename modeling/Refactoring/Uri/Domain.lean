import Refactoring.Uri.Domain.Direction
import Refactoring.Uri.Domain.Label

/-!
# Domains

The name of a host on the web, in the form that only has ASCII characters.  `ascii?` maps and
composes the whole name, checks each label, and last the directions in which the labels are written.
-/

namespace Refactoring.Uri.Domain

/-- The labels of a name. -/
def labels? (name : List Char) : Option (List Label) := do
  let mapped ← name.mapM fun c => mapped? c.toNat
  ((composed mapped.flatten).splitOn '.'.toNat).mapM Label.ofLetters?

/-- Whether labels may stand beside each other: once one of them turns, all have to keep to one
direction. -/
def directionsAgree (labels : List Label) : Bool :=
  !labels.any (hasTurn ·.letters) || labels.all (keepsDirection ·.letters)

/-- The form of a name that only has ASCII characters. -/
def ascii? (name : List Char) : Option (List Char) := do
  let labels ← labels? name
  guard (directionsAgree labels)
  some (".".toList.intercalate (labels.map (·.ascii)))

/-- A label may not be empty behind the mark of the encoded form. -/
example : ascii? "xn--".toList = none := by decide +kernel

end Refactoring.Uri.Domain
