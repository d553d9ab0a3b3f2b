import Refactoring.Number.Binary64

/-!
# JSON values

Members of an object keep the order in which they were first seen.  An integer that fits into 64
bits, with or without a sign, is kept exactly; every other number is a floating-point number.
-/

namespace Refactoring

/-- A number of a JSON value. -/
inductive Json.Number where
  | int (value : Int)
  | float (value : Binary64)
  deriving DecidableEq, Repr, Inhabited

/-- A JSON value. -/
inductive Json where
  | null
  | bool (value : Bool)
  | number (value : Json.Number)
  | string (value : String)
  | array (items : List Json)
  | object (members : List (String × Json))
  deriving Repr, Inhabited, BEq

namespace Json

/-- The value of a member among the members of an object. -/
def member? (members : List (String × Json)) (key : String) : Option Json :=
  (members.find? (·.1 == key)).map (·.2)

/-- Sets a member; a new one comes last, a known one keeps its place. -/
def setMember (members : List (String × Json)) (key : String) (value : Json) :
    List (String × Json) :=
  if members.any (·.1 == key) then
    members.map fun m => if m.1 == key then (key, value) else m
  else members ++ [(key, value)]

/-- The value of a member, if this is an object with that member. -/
def get? : Json → String → Option Json
  | object members, key => member? members key
  | _, _ => none

/-- The text, if this is one. -/
def string? : Json → Option String
  | string s => some s
  | _ => none

/-- The items, if this is an array. -/
def array? : Json → Option (List Json)
  | array items => some items
  | _ => none

/-- The natural number below 2⁶⁴, if this is one. -/
def natural? : Json → Option Nat
  | number (.int value) => if 0 ≤ value then some value.toNat else none
  | _ => none

/-- A natural number. -/
def ofNat (n : Nat) : Json := number (.int n)

/-- A list of texts. -/
def strings (items : List String) : Json := array (items.map string)

/-- The members that are present. -/
def objectOf (members : List (String × Option Json)) : Json :=
  object (members.filterMap fun (key, value) => value.map (key, ·))

/-- A member just set is found. -/
theorem member?_setMember_self (members : List (String × Json)) (key : String) (value : Json) :
    member? (setMember members key value) key = some value := by
  unfold setMember member?
  split
  · rename_i h
    induction members with
    | nil => simp at h
    | cons m rest ih =>
      by_cases hm : m.1 = key
      · simp [hm]
      · have hm' : (m.1 == key) = false := by simp [hm]
        simp only [List.map_cons, hm', Bool.false_eq_true, if_false, List.find?_cons]
        exact ih (by simpa [hm'] using h)
  · rename_i h
    simp only [Bool.not_eq_true] at h
    have : members.find? (·.1 == key) = none := by
      rw [List.find?_eq_none]
      intro x hx
      have := List.any_eq_false.1 h x hx
      simpa using this
    simp [List.find?_append, this]

end Json
end Refactoring
