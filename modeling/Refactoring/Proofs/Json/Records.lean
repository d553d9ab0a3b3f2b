import Refactoring.Proofs.Except
import Refactoring.Json.Decoder

/-!
# Records are read field by field

A record is read if all its fields are, each from the member with its name.  `Record.Reads` says so
for records that are put together from fields, so that reading one comes apart into reading these.
-/

namespace Refactoring.Json

/-! ## Members -/

section Members

variable {members rest : List (String × Json)} {key other : String} {value : Json}

theorem mem_of_member?_eq_some (h : member? members key = some value) : (key, value) ∈ members := by
  obtain ⟨⟨found, _⟩, hfind, rfl⟩ := Option.map_eq_some_iff.mp h
  obtain rfl : found = key := by simpa using List.find?_some hfind
  exact List.mem_of_find?_eq_some hfind

@[simp] theorem member?_nil : member? [] key = none := rfl

@[simp] theorem member?_cons_self : member? ((key, value) :: rest) key = some value := by
  simp [member?]

@[simp] theorem member?_cons_of_ne (h : other ≠ key) :
    member? ((other, value) :: rest) key = member? rest key := by
  rw [member?, List.find?_cons_of_neg (by simpa using h)]
  rfl

end Members

/-- The members that are present. -/
def present (members : List (String × Option Json)) : List (String × Json) :=
  members.filterMap fun (key, value) => value.map (key, ·)

section Present

variable {members rest : List (String × Option Json)} {key other : String} {value : Option Json}

theorem objectOf_eq (members : List (String × Option Json)) :
    objectOf members = .object (present members) := rfl

theorem present_append : present (members ++ rest) = present members ++ present rest :=
  List.filterMap_append

theorem mem_present {m : String × Json} : m ∈ present members ↔ (m.1, some m.2) ∈ members := by
  rw [present, List.mem_filterMap]
  constructor
  · rintro ⟨⟨key, value⟩, hmem, hm⟩
    obtain ⟨value, rfl, rfl⟩ := Option.map_eq_some_iff.mp hm
    exact hmem
  · exact fun h => ⟨_, h, rfl⟩

theorem present_map_some {α : Type} {write : α → Json} (values : List (String × α)) :
    present (values.map fun (name, value) => (name, some (write value))) =
      values.map fun (name, value) => (name, write value) := by
  rw [present, List.filterMap_map]
  exact congrFun List.filterMap_eq_map _

@[simp] theorem member?_present_nil : member? (present []) key = none := rfl

@[simp] theorem member?_present_cons_self :
    member? (present ((key, value) :: rest)) key = value.or (member? (present rest) key) := by
  cases value with
  | none => rfl
  | some value => exact member?_cons_self

@[simp] theorem member?_present_cons_of_ne (h : other ≠ key) :
    member? (present ((other, value) :: rest)) key = member? (present rest) key := by
  cases value with
  | none => rfl
  | some value => exact member?_cons_of_ne h

theorem member?_present_append_of_ne (h : ∀ m ∈ members, m.1 ≠ key) :
    member? (present (members ++ rest)) key = member? (present rest) key := by
  induction members with
  | nil => rfl
  | cons m members ih =>
    obtain ⟨hm, hmembers⟩ := List.forall_mem_cons.mp h
    rw [List.cons_append, member?_present_cons_of_ne hm, ih hmembers]

theorem member?_present_eq_none (h : ∀ m ∈ members, m.1 ≠ key) :
    member? (present members) key = none := by
  rw [← List.append_nil members, member?_present_append_of_ne h]
  rfl

end Present

/-! ## Fields -/

/-- What shows for a field is the member with its name. -/
theorem Source.map_find? (s : Source) (name : String) :
    (s.find? name).map (·.2) = member? s.members name := by
  have hplace (members : List (String × Json)) (n : Nat) :
      ((members.zipIdx n).find? (·.1.1 == name)).map (·.1.2) = member? members name := by
    induction members generalizing n with
    | nil => rfl
    | cons m rest ih =>
      obtain ⟨key, value⟩ := m
      rw [List.zipIdx_cons]
      by_cases hkey : key = name
      · subst hkey
        simp
      · rw [member?_cons_of_ne hkey, List.find?_cons_of_neg (by simpa using hkey), ih]
  rw [Source.find?, Option.map_map, ← hplace s.members 0]
  rfl

namespace Record

variable {α β : Type} {s : Source} {name type : String} {decoder : Decoder α} {value : α}

theorem read_fieldOr_eq_ok {absent : Source → Option α} :
    (fieldOr name absent decoder).read s = .ok value ↔
      (∃ shown, member? s.members name = some shown ∧ decoder shown = .ok value) ∨
        member? s.members name = none ∧ absent s = some value := by
  rw [← s.map_find?, fieldOr]
  dsimp only
  cases s.find? name with
  | none => cases absent s <;> simp
  | some found =>
    obtain ⟨place, shown⟩ := found
    simp [mapError_eq_ok]

theorem read_required_eq_ok : (required name decoder).read s = .ok value ↔
    ∃ shown, member? s.members name = some shown ∧ decoder shown = .ok value := by
  rw [required, read_fieldOr_eq_ok]
  simp

theorem read_withDefault_eq_ok {standard : α} :
    (withDefault name standard decoder).read s = .ok value ↔
      (∃ shown, member? s.members name = some shown ∧ decoder shown = .ok value) ∨
        member? s.members name = none ∧ value = standard := by
  rw [withDefault, read_fieldOr_eq_ok, Option.some_inj, eq_comm (a := standard)]

/-- Nothing is read from `null`, and only from it. -/
theorem optional_eq_ok {j : Json} {value : Option α} : decoder.optional j = .ok value ↔
    j = .null ∧ value = none ∨ j ≠ .null ∧ ∃ a, decoder j = .ok a ∧ some a = value := by
  cases j with
  | null => simp [Decoder.optional, eq_comm]
  | _ =>
    rw [Decoder.optional, map_eq_ok]
    · simp
    · nofun

/-- A field without a value is absent or `null`. -/
theorem read_optional_eq_ok {value : Option α} : (optional name decoder).read s = .ok value ↔
    (∃ shown, member? s.members name = some shown ∧ shown ≠ .null ∧
        ∃ a, decoder shown = .ok a ∧ some a = value) ∨
      (member? s.members name).getD .null = .null ∧ value = none := by
  rw [optional, read_withDefault_eq_ok]
  cases member? s.members name with
  | none => simp
  | some shown => simp [optional_eq_ok, or_comm]

/-- Where places do not count, there is no difference to an optional field. -/
theorem read_nullable (hs : s.positional = false) :
    (nullable name decoder).read s = (optional name decoder).read s := by
  rw [nullable, optional, withDefault, fieldOr, fieldOr]
  simp [hs]

theorem read_optional_of_read_nullable {value : Option α}
    (h : (nullable name decoder).read s = .ok value) :
    (optional name decoder).read s = .ok value := by
  cases hs : s.positional with
  | false => rwa [read_nullable hs] at h
  | true =>
    rw [optional, withDefault, read_fieldOr_eq_ok]
    rcases read_fieldOr_eq_ok.mp h with hshown | ⟨-, habsent⟩
    · exact .inl hshown
    · rw [hs] at habsent
      cases habsent

/-! ## Groups of fields -/

/-- The record is read from the source, with a result of this kind. -/
def Reads (r : Record α) (s : Source) (P : α → Prop) : Prop := ∃ a, r.read s = .ok a ∧ P a

/-- Nothing is read where a field is missing that has to be there. -/
theorem not_reads_required (h : member? s.members name = none) (P : α → Prop) :
    ¬ (required name decoder).Reads s P := by
  rintro ⟨value, hread, -⟩
  obtain ⟨shown, hshown, -⟩ := read_required_eq_ok.mp hread
  rw [h] at hshown
  cases hshown

theorem reads_map {f : α → β} {r : Record α} {P : β → Prop} :
    (f <$> r).Reads s P ↔ r.Reads s fun a => P (f a) := by
  have hread : (f <$> r).read s = (r.read s).map f := rfl
  unfold Reads
  rw [hread]
  cases r.read s with
  | error e => simp [Except.map]
  | ok a => simp [Except.map]

theorem read_seq_eq_ok {f : Record (α → β)} {r : Record α} {value : β} :
    (f <*> r).read s = .ok value ↔
      ∃ g, f.read s = .ok g ∧ ∃ a, r.read s = .ok a ∧ g a = value := by
  change (f.apply r).read s = .ok value ↔ _
  rw [apply]
  dsimp only
  cases f.read s with
  | error e => cases r.read s <;> simp
  | ok g => cases r.read s <;> simp

theorem reads_seq {f : Record (α → β)} {r : Record α} {P : β → Prop} :
    (f <*> r).Reads s P ↔ f.Reads s fun g => r.Reads s fun a => P (g a) := by
  constructor
  · rintro ⟨_, hread, hP⟩
    obtain ⟨g, hg, a, ha, rfl⟩ := read_seq_eq_ok.mp hread
    exact ⟨g, hg, a, ha, hP⟩
  · rintro ⟨g, hg, a, ha, hP⟩
    exact ⟨g a, read_seq_eq_ok.mpr ⟨g, hg, a, ha, rfl⟩, hP⟩

end Record

end Refactoring.Json
