import Mathlib.Data.Option.Basic
import Refactoring.Proofs.Json.Stability

/-!
# The same JSON value

Two values are the same if they agree wherever one can go in them, by keys and by places: in which
order the members of an object are written makes no difference.  What a record is written as is the
same as the object that it was read from if nothing in the object was left out, made up or passed
over.
-/

namespace Refactoring.Json

/-! ## Paths -/

/-- A step into a value. -/
inductive Step where
  | key (name : String)
  | place (i : Nat)

/-- What a path leads to. -/
def at? : Json → List Step → Option Json
  | j, [] => some j
  | j, .key name :: path => (j.get? name).bind fun value => value.at? path
  | j, .place i :: path => (j.array?.bind (·[i]?)).bind fun item => item.at? path

/-- A value without what is in it. -/
def outline : Json → Json
  | array _ => array []
  | object _ => object []
  | j => j

/-- The values agree wherever a path leads. -/
def Same (j k : Json) : Prop := ∀ path, (j.at? path).map outline = (k.at? path).map outline

namespace Same

variable {j k : Json}

theorem refl (j : Json) : j.Same j := fun _ => rfl

theorem outline_eq (h : j.Same k) : j.outline = k.outline := Option.some.inj (h [])

/-- Only an object is the same as an object. -/
theorem exists_object {members : List (String × Json)} (h : (object members).Same k) :
    ∃ others, k = object others := by
  cases k with
  | object others => exact ⟨others, rfl⟩
  | _ => cases h.outline_eq

end Same

/-- Objects are the same if they have the same keys with the same values. -/
theorem same_object_iff {members others : List (String × Json)} :
    (object members).Same (object others) ↔
      ∀ key, Option.Rel Same (member? members key) (member? others key) := by
  constructor
  · intro h key
    have hpath (path : List Step) :
        ((member? members key).bind fun value => value.at? path).map outline =
          ((member? others key).bind fun value => value.at? path).map outline :=
      h (.key key :: path)
    cases hvalue : member? members key with
    | none =>
      cases hother : member? others key with
      | none => exact .none
      | some other => simpa [hvalue, hother, at?] using hpath []
    | some value =>
      cases hother : member? others key with
      | none => simpa [hvalue, hother, at?] using hpath []
      | some other =>
        rw [hvalue, hother] at hpath
        exact .some hpath
  · intro h path
    rcases path with _ | ⟨name | i, path⟩
    · rfl
    · have hkey := h name
      rw [at?, at?, get?, get?]
      generalize member? members name = value at hkey ⊢
      generalize member? others name = other at hkey ⊢
      cases hkey with
      | none => rfl
      | some hsame => exact hsame path
    · rfl

/-! ## Members that are written -/

section Written

variable {fields : List (String × Option Json)} {members : List (String × Json)}

theorem member?_present_of_mem (hnames : (fields.map Prod.fst).Nodup)
    {field : String × Option Json} (hfield : field ∈ fields) :
    member? (present fields) field.1 = field.2 := by
  induction fields with
  | nil => cases hfield
  | cons first rest ih =>
    obtain ⟨key, value⟩ := first
    rw [List.map_cons, List.nodup_cons] at hnames
    rcases List.mem_cons.mp hfield with rfl | hfield
    · have hnone : member? (present rest) key = none :=
        member?_present_eq_none fun other hother hkey =>
          hnames.1 (List.mem_map.mpr ⟨other, hother, hkey⟩)
      rw [member?_present_cons_self, hnone, Option.or_none]
    · have hkey : key ≠ field.1 := fun hkey =>
        hnames.1 (List.mem_map.mpr ⟨field, hfield, hkey.symm⟩)
      rw [member?_present_cons_of_ne hkey, ih hnames.2 hfield]

/-- What is written of some fields is the same as an object if each field is, and if there is
nothing else in the object. -/
theorem same_objectOf_iff (hnames : (fields.map Prod.fst).Nodup) :
    (objectOf fields).Same (object members) ↔
      (∀ field ∈ fields, Option.Rel Same field.2 (member? members field.1)) ∧
        ∀ key, (member? members key).isSome → key ∈ fields.map Prod.fst := by
  rw [objectOf_eq, same_object_iff]
  constructor
  · intro h
    refine ⟨fun field hfield => ?_, fun key hkey => ?_⟩
    · rw [← member?_present_of_mem hnames hfield]
      exact h field.1
    · by_contra hother
      have hnone : member? (present fields) key = none :=
        member?_present_eq_none fun field hfield hname =>
          hother (hname ▸ List.mem_map_of_mem hfield)
      have hrel := h key
      rw [hnone] at hrel
      cases hvalue : member? members key with
      | none => simp [hvalue] at hkey
      | some value =>
        rw [hvalue] at hrel
        cases hrel
  · rintro ⟨hfields, hkeys⟩ key
    by_cases hkey : key ∈ fields.map Prod.fst
    · obtain ⟨field, hfield, rfl⟩ := List.mem_map.mp hkey
      rw [member?_present_of_mem hnames hfield]
      exact hfields field hfield
    · have hnone : member? members key = none :=
        Option.not_isSome_iff_eq_none.mp fun hsome => hkey (hkeys key hsome)
      have hwritten : member? (present fields) key = none :=
        member?_present_eq_none fun field hfield hname =>
          hkey (hname ▸ List.mem_map_of_mem hfield)
      rw [hnone, hwritten]
      exact .none

end Written

/-! ## Objects that are spelled out -/

/-- No condition on a value. -/
def Anything (_ : Json) : Prop := True

/-- An object that has all members of the first kind, each with a value that satisfies its
condition, and none but these and members of the second kind, which are not `null`. -/
def Spells (always : List (String × (Json → Prop))) (sometimes : List String) (j : Json) : Prop :=
  ∃ members, j = .object members ∧
    (∀ field ∈ always, ∃ value, member? members field.1 = some value ∧ field.2 value) ∧
    (∀ key ∈ sometimes, member? members key ≠ some .null) ∧
    ∀ key, (member? members key).isSome → key ∈ always.map Prod.fst ++ sometimes

section Spelled

variable {fields : List (String × Option Json)} {members : List (String × Json)}
  {always : List (String × (Json → Prop))} {sometimes : List String}

theorem spells_object_iff : (object members).Spells always sometimes ↔
    (∀ field ∈ always, ∃ value, member? members field.1 = some value ∧ field.2 value) ∧
      (∀ key ∈ sometimes, member? members key ≠ some .null) ∧
      ∀ key, (member? members key).isSome → key ∈ always.map Prod.fst ++ sometimes := by
  constructor
  · rintro ⟨_, ⟨⟩, h⟩
    exact h
  · exact fun h => ⟨members, rfl, h⟩

/-- What is written of some fields is the same as an object if that spells them out, provided that a
field of the first kind is kept under its condition, and one of the second kind unless it is
`null`. -/
theorem same_objectOf_iff_spells (hnames : (fields.map Prod.fst).Nodup)
    (hkinds : ∀ name, name ∈ fields.map Prod.fst ↔ name ∈ always.map Prod.fst ++ sometimes)
    (halways : ∀ field ∈ fields, ∀ holds, (field.1, holds) ∈ always →
      (Option.Rel Same field.2 (member? members field.1) ↔
        ∃ value, member? members field.1 = some value ∧ holds value))
    (hsometimes : ∀ field ∈ fields, field.1 ∈ sometimes →
      (Option.Rel Same field.2 (member? members field.1) ↔ member? members field.1 ≠ some .null)) :
    (objectOf fields).Same (object members) ↔ (object members).Spells always sometimes := by
  rw [same_objectOf_iff hnames, spells_object_iff]
  constructor
  · rintro ⟨hfields, hkeys⟩
    refine ⟨fun entry hentry => ?_, fun name hname => ?_, fun key hkey => ?_⟩
    · obtain ⟨⟨_, value⟩, hfield, rfl⟩ := List.mem_map.mp <| (hkinds entry.1).mpr <|
        List.mem_append_left _ (List.mem_map_of_mem hentry)
      exact (halways _ hfield entry.2 hentry).mp (hfields _ hfield)
    · obtain ⟨⟨_, value⟩, hfield, rfl⟩ := List.mem_map.mp <| (hkinds name).mpr <|
        List.mem_append_right _ hname
      exact (hsometimes _ hfield hname).mp (hfields _ hfield)
    · exact (hkinds key).mp (hkeys key hkey)
  · rintro ⟨hpresent, hnull, hkeys⟩
    refine ⟨fun field hfield => ?_, fun key hkey => (hkinds key).mpr (hkeys key hkey)⟩
    rcases List.mem_append.mp ((hkinds field.1).mp (List.mem_map_of_mem hfield)) with hkind | hkind
    · obtain ⟨⟨name, holds⟩, hentry, rfl⟩ := List.mem_map.mp hkind
      exact (halways field hfield holds hentry).mpr (hpresent _ hentry)
    · exact (hsometimes field hfield hkind).mpr (hnull _ hkind)

end Spelled

/-- What is written of a value that was read is the same as what it was read from, under a
condition. -/
structure SameIf {α : Type} (decoder : Decoder α) (write : α → Json) (holds : Json → Prop) :
    Prop where
  iff : ∀ {j : Json} {value : α}, decoder j = .ok value → ((write value).Same j ↔ holds j)

namespace SameIf

variable {α : Type} {decoder : Decoder α} {write : α → Json} {holds : Json → Prop}

/-- The condition carries over to a field that has to be there. -/
theorem rel_required_iff (h : SameIf decoder write holds) {name : String} {s : Source} {value : α}
    (hread : (Record.required name decoder).read s = .ok value) :
    Option.Rel Same (some (write value)) (member? s.members name) ↔
      ∃ shown, member? s.members name = some shown ∧ holds shown := by
  obtain ⟨shown, hshown, hvalue⟩ := Record.read_required_eq_ok.mp hread
  rw [hshown, Option.rel_some_some, h.iff hvalue]
  simp

/-- A record is only spelled out by an object. -/
theorem record {type : String} {r : Record α} {fields : α → List (String × Option Json)}
    {always : List (String × (Json → Prop))} {sometimes : List String}
    (hwrite : ∀ value, write value = objectOf (fields value))
    (h : ∀ {members : List (String × Json)} {value : α}, r.Reads (sourceOf members) (· = value) →
      ((objectOf (fields value)).Same (object members) ↔
        (object members).Spells always sometimes)) :
    SameIf (Record.decoder type r) write (Spells always sometimes) where
  iff {j value} hread := by
    rw [hwrite]
    cases j with
    | object members => exact h (decoder_object_eq_ok.mp hread)
    | _ =>
      refine iff_of_false (fun hsame => ?_) ?_
      · obtain ⟨others, hother⟩ := hsame.exists_object
        cases hother
      · rintro ⟨members, hmembers, -⟩
        cases hmembers

end SameIf

/-- A value is only read from what it is written as. -/
structure Literal {α : Type} (decoder : Decoder α) (write : α → Json) : Prop where
  eq : ∀ {j : Json} {value : α}, decoder j = .ok value → j = write value

namespace Literal

variable {α : Type} {decoder : Decoder α} {write : α → Json} {name : String} {s : Source}

theorem text : Literal Decoder.text .string where
  eq {j value} h := by
    cases j with
    | string => exact congrArg string (Except.ok.inj h)
    | _ => cases h

theorem flag : Literal Decoder.flag .bool where
  eq {j value} h := by
    cases j with
    | bool => exact congrArg bool (Except.ok.inj h)
    | _ => cases h

theorem int32 : Literal Decoder.int32 fun value => .number (.int value) where
  eq h := (integer_eq_ok.mp h).1

theorem word32 : Literal Decoder.word32 .ofNat where
  eq h := by
    obtain ⟨read, hread, rfl⟩ := map_eq_ok.mp h
    obtain ⟨rfl, hlow, -⟩ := integer_eq_ok.mp hread
    rw [ofNat, Int.toNat_of_nonneg hlow]

theorem list (h : Literal decoder write) : Literal (Decoder.list decoder) (Json.list write) where
  eq {j values} hread := by
    cases j with
    | array items =>
      have hitems : List.Forall₂ (fun item value => decoder item = .ok value) items values :=
        mapM_eq_ok.mp hread
      have hsame : List.Forall₂ (· = ·) items (values.map write) :=
        List.forall₂_map_right_iff.mpr (hitems.imp fun _ _ => h.eq)
      rw [List.forall₂_eq_eq_eq] at hsame
      exact congrArg array hsame
    | _ => cases hread

/-- So what is written is always the same. -/
theorem sameIf (h : Literal decoder write) : SameIf decoder write Anything where
  iff hread := by
    rw [h.eq hread]
    exact iff_of_true (.refl _) trivial

/-! What is written of a field that can be left out is what it was read from, if it was read from
anything. -/

theorem rel_withDefault_iff (h : Literal decoder write) {standard value : α}
    (hread : (Record.withDefault name standard decoder).read s = .ok value) :
    Option.Rel Same (some (write value)) (member? s.members name) ↔
      ∃ shown, member? s.members name = some shown ∧ Anything shown := by
  rcases Record.read_withDefault_eq_ok.mp hread with ⟨shown, hshown, hvalue⟩ | ⟨hnone, -⟩
  · rw [hshown, h.eq hvalue]
    exact iff_of_true (.some (.refl _)) ⟨_, rfl, trivial⟩
  · rw [hnone]
    exact iff_of_false nofun nofun

theorem rel_optional_iff (h : Literal decoder write) {value : Option α}
    (hread : (Record.optional name decoder).read s = .ok value) :
    Option.Rel Same (value.map write) (member? s.members name) ↔
      member? s.members name ≠ some .null := by
  rcases Record.read_optional_eq_ok.mp hread with ⟨shown, hshown, hne, a, ha, rfl⟩ | ⟨hnull, rfl⟩
  · rw [hshown]
    refine iff_of_true ?_ fun hnull => hne (Option.some.inj hnull)
    rw [h.eq ha]
    exact .some (.refl _)
  · cases hmember : member? s.members name with
    | none => exact iff_of_true .none nofun
    | some shown =>
      obtain rfl : shown = .null := by simpa [hmember] using hnull
      exact iff_of_false nofun fun h => h rfl

end Literal

end Refactoring.Json
