import Refactoring.Proofs.Json.Records
import Refactoring.Wire.Uri

/-!
# What is written is read again

A decoder is stable under a way of writing its values if a value that was read is read again from
what is written of it.  Values are not read as they were written: members are dropped or filled in,
`null` stands for what is absent, and the same value can be written in several ways.  Stability is
put together like the decoders: for lists from their items, for fields from their values, and for
records from their fields.

A URI is written with its normalised text, which has to stay as it is when it is normalised again.
`Json.Settled` asks this of the texts of a JSON value.
-/

namespace Refactoring.Json

/-! ## Texts that are normalised once -/

mutual

/-- The texts of a JSON value, among them the names of members. -/
def texts : Json → List String
  | .string text => [text]
  | .array items => textsOfItems items
  | .object members => textsOfMembers members
  | _ => []

@[inherit_doc texts]
def textsOfItems : List Json → List String
  | [] => []
  | item :: rest => item.texts ++ textsOfItems rest

@[inherit_doc texts]
def textsOfMembers : List (String × Json) → List String
  | [] => []
  | (key, value) :: rest => key :: (value.texts ++ textsOfMembers rest)

end

/-- Where a text of the value is a URI, its normalised text is a URI with the same normalised
text. -/
def Settled (j : Json) : Prop :=
  ∀ text ∈ j.texts, ∀ uri, Uri.parse text = .ok uri → Uri.parse uri.text = .ok uri

theorem settled_iff {j : Json} : j.Settled ↔ ∀ text ∈ j.texts,
    (Uri.parse text).toOption.all fun uri => (Uri.parse uri.text).toOption = some uri := by
  refine forall₂_congr fun text _ => ?_
  cases Uri.parse text with
  | ok uri =>
    cases hagain : Uri.parse uri.text <;> simp [Except.toOption, hagain]
  | error fault => simp [Except.toOption]

instance (j : Json) : Decidable j.Settled := decidable_of_iff _ settled_iff.symm

/-- A line break behind a drive is gone from the normalised text, and the dots lead further. -/
example : ¬ (string "file:/C:\n..").Settled := by decide +kernel

section Settled

variable {items : List Json} {members : List (String × Json)} {j : Json} {key : String}

theorem texts_subset_of_mem_items (h : j ∈ items) : j.texts ⊆ textsOfItems items := by
  induction items with
  | nil => cases h
  | cons item rest ih =>
    rw [textsOfItems]
    rcases List.mem_cons.mp h with rfl | h
    · exact List.subset_append_left _ _
    · exact List.Subset.trans (ih h) (List.subset_append_right _ _)

theorem texts_subset_of_mem_members (h : (key, j) ∈ members) :
    key :: j.texts ⊆ textsOfMembers members := by
  induction members with
  | nil => cases h
  | cons m rest ih =>
    obtain ⟨other, value⟩ := m
    rw [textsOfMembers]
    rcases List.mem_cons.mp h with h | h
    · cases h
      exact List.cons_subset_cons _ (List.subset_append_left _ _)
    · have hrest : textsOfMembers rest ⊆ value.texts ++ textsOfMembers rest :=
        List.subset_append_right _ _
      exact List.Subset.trans (ih h) (List.subset_cons_of_subset _ hrest)

theorem Settled.item (h : (array items).Settled) (hj : j ∈ items) : j.Settled :=
  fun text ht => h text (texts_subset_of_mem_items hj ht)

theorem Settled.value (h : (object members).Settled) (hj : (key, j) ∈ members) : j.Settled :=
  fun text ht => h text (texts_subset_of_mem_members hj (List.mem_cons_of_mem _ ht))

theorem Settled.name (h : (object members).Settled) (hj : (key, j) ∈ members) {uri : Uri}
    (huri : Uri.parse key = .ok uri) : Uri.parse uri.text = .ok uri :=
  h key (texts_subset_of_mem_members hj List.mem_cons_self) uri huri

end Settled

/-- All members of a source are settled. -/
def Source.Settled (s : Source) : Prop := ∀ m ∈ s.members, m.2.Settled

theorem Source.Settled.shown {s : Source} (h : s.Settled) {name : String} {shown : Json}
    (hshown : member? s.members name = some shown) : shown.Settled :=
  h _ (mem_of_member?_eq_some hshown)

/-- The members of an object as a source. -/
def sourceOf (members : List (String × Json)) : Source := ⟨members, .missingField, false⟩

theorem integer_eq_ok {name : String} {low high : Int} {j : Json} {value : Int} :
    Decoder.integer name low high j = .ok value ↔
      j = .number (.int value) ∧ low ≤ value ∧ value ≤ high := by
  constructor
  · intro h
    unfold Decoder.integer at h
    split at h
    · split at h
      · rename_i hrange
        cases h
        exact ⟨rfl, hrange⟩
      · cases h
    · cases h
  · rintro ⟨rfl, hrange⟩
    exact if_pos hrange

/-! ## Stable decoders -/

/-- A value that was read is read again from what is written of it, and it is written as `null` only
if it was read from `null`. -/
structure Stable {α : Type} (decoder : Decoder α) (write : α → Json) : Prop where
  again : ∀ {j : Json} {value : α}, j.Settled → decoder j = .ok value →
    decoder (write value) = .ok value
  ne_null : ∀ {j : Json} {value : α}, decoder j = .ok value → j ≠ .null → write value ≠ .null

namespace Stable

variable {α β : Type} {decoder : Decoder α} {write : α → Json}

/-- Values are read from all that is written of them. -/
theorem of_lawful (h : ∀ value, decoder (write value) = .ok value)
    (hnull : ∀ value, write value ≠ .null) : Stable decoder write where
  again _ _ := h _
  ne_null _ _ := hnull _

theorem any : Stable Decoder.any fun j => j where
  again _ _ := rfl
  ne_null h hj := by
    cases h
    exact hj

theorem text : Stable Decoder.text .string := of_lawful (fun _ => rfl) nofun

theorem flag : Stable Decoder.flag .bool := of_lawful (fun _ => rfl) nofun

theorem integer (name : String) (low high : Int) :
    Stable (Decoder.integer name low high) fun value => .number (.int value) where
  again _ h := by
    obtain ⟨-, hrange⟩ := integer_eq_ok.mp h
    exact integer_eq_ok.mpr ⟨rfl, hrange⟩
  ne_null _ _ := nofun

theorem word32 : Stable Decoder.word32 .ofNat where
  again {j value} _ h := by
    obtain ⟨read, hread, rfl⟩ := map_eq_ok.mp h
    obtain ⟨-, hlow, hhigh⟩ := integer_eq_ok.mp hread
    refine map_eq_ok.mpr ⟨read, integer_eq_ok.mpr ⟨?_, hlow, hhigh⟩, rfl⟩
    rw [ofNat, Int.toNat_of_nonneg hlow]
  ne_null _ _ := nofun

/-- Values that are found by their names are written as these. -/
theorem choice {values : List α} {name : α → String}
    (h : ∀ value, values.find? (name · == name value) = some value) :
    Stable (Decoder.choice values name) fun value => .string (name value) := by
  refine of_lawful (fun value => ?_) nofun
  rw [Decoder.choice, Decoder.named, h]

theorem list (h : Stable decoder write) : Stable (Decoder.list decoder) (Json.list write) where
  again {j values} hj hread := by
    cases j with
    | array items =>
      have hitems : ∀ item ∈ items, item.Settled := fun item hitem => hj.item hitem
      have hread : List.Forall₂ (fun item value => decoder item = .ok value) items values :=
        mapM_eq_ok.mp hread
      refine mapM_eq_ok.mpr ?_
      rw [List.forall₂_map_left_iff, List.forall₂_same]
      intro value hvalue
      obtain ⟨item, hitem, hdecoded⟩ := exists_of_forall₂ hread hvalue
      exact h.again (hitems item hitem) hdecoded
    | _ => cases hread
  ne_null _ _ := nofun

/-- The items of an array that can be anything. -/
theorem items : Stable (Decoder.list Decoder.any) .array := by
  have hwrite : Json.list (fun j => j) = .array := by
    funext items
    rw [Json.list, List.map_id']
  exact hwrite ▸ any.list

/-- The values of members with any names; the names stay. -/
theorem named (h : Stable decoder write) {members : List (String × Json)}
    (hmembers : ∀ m ∈ members, m.2.Settled) {values : List (String × α)}
    (hread : members.mapM (fun m => do return (m.1, ← decoder m.2)) = .ok values) :
    (values.map fun (name, value) => (name, write value)).mapM
        (fun m => do return (m.1, ← decoder m.2)) = .ok values ∧
      ∀ value ∈ values, ∃ m ∈ members, m.1 = value.1 := by
  have hread := mapM_eq_ok.mp hread
  have hvalues (value : String × α) (hvalue : value ∈ values) :
      ∃ m ∈ members, m.1 = value.1 ∧ decoder (write value.2) = .ok value.2 := by
    obtain ⟨m, hm, hnamed⟩ := exists_of_forall₂ hread hvalue
    obtain ⟨_, hdecoded, ⟨⟩⟩ := bind_eq_ok.mp hnamed
    exact ⟨m, hm, rfl, h.again (hmembers m hm) hdecoded⟩
  constructor
  · rw [mapM_eq_ok, List.forall₂_map_left_iff, List.forall₂_same]
    intro value hvalue
    obtain ⟨-, -, -, hagain⟩ := hvalues value hvalue
    exact bind_eq_ok.mpr ⟨value.2, hagain, rfl⟩
  · intro value hvalue
    obtain ⟨m, hm, hname, -⟩ := hvalues value hvalue
    exact ⟨m, hm, hname⟩

/-- Values that are read are changed before they are written. -/
theorem map {f : α → β} {change : β → Json} (h : Stable decoder write)
    (hchange : ∀ value, change (f value) = write value) :
    Stable (Decoder.map f decoder) change where
  again {j value} hj hread := by
    obtain ⟨value, hvalue, rfl⟩ := map_eq_ok.mp hread
    rw [hchange]
    exact map_eq_ok.mpr ⟨value, h.again hj hvalue, rfl⟩
  ne_null {j value} hread hj := by
    obtain ⟨value, hvalue, rfl⟩ := map_eq_ok.mp hread
    rw [hchange]
    exact h.ne_null hvalue hj

end Stable

/-! ## Alternatives -/

section Alternatives

variable {α : Type} {type : String} {decoder : Decoder α} {decoders : List (Decoder α)}
  {write : α → Json} {j : Json} {value : α}

theorem firstOf_nil_ne_ok : Decoder.firstOf type [] j ≠ .ok value := nofun

/-- An alternative that does not accept a value leaves it to the others. -/
theorem firstOf_cons_eq_ok : Decoder.firstOf type (decoder :: decoders) j = .ok value ↔
    decoder j = .ok value ∨
      (∀ other, decoder j ≠ .ok other) ∧ Decoder.firstOf type decoders j = .ok value := by
  rw [Decoder.firstOf, Decoder.firstOf, List.findSome?_cons]
  cases decoder j with
  | ok other => simp [Except.toOption]
  | error fault => simp [Except.toOption]

theorem exists_of_firstOf (h : Decoder.firstOf type decoders j = .ok value) :
    ∃ decoder ∈ decoders, decoder j = .ok value := by
  induction decoders with
  | nil => exact absurd h firstOf_nil_ne_ok
  | cons decoder decoders ih =>
    rcases firstOf_cons_eq_ok.mp h with h | ⟨-, h⟩
    · exact ⟨decoder, List.mem_cons_self, h⟩
    · obtain ⟨later, hlater, h⟩ := ih h
      exact ⟨later, List.mem_cons_of_mem _ hlater, h⟩

theorem Stable.firstOf_nil : Stable (Decoder.firstOf type []) write where
  again _ h := absurd h firstOf_nil_ne_ok
  ne_null h := absurd h firstOf_nil_ne_ok

/-- What a later alternative reads must not be read by an earlier one from what is written of it. -/
theorem Stable.firstOf_cons (h : Stable decoder write)
    (hrest : Stable (Decoder.firstOf type decoders) write)
    (hpasses : ∀ later ∈ decoders, ∀ {j : Json} {value : α}, (∀ other, decoder j ≠ .ok other) →
      later j = .ok value → ∀ other, decoder (write value) ≠ .ok other) :
    Stable (Decoder.firstOf type (decoder :: decoders)) write where
  again hj hread := by
    rw [firstOf_cons_eq_ok] at hread ⊢
    rcases hread with hread | ⟨hnot, hread⟩
    · exact .inl (h.again hj hread)
    · obtain ⟨later, hlater, haccepts⟩ := exists_of_firstOf hread
      exact .inr ⟨hpasses later hlater hnot haccepts, hrest.again hj hread⟩
  ne_null hread := by
    rcases firstOf_cons_eq_ok.mp hread with hread | ⟨-, hread⟩
    · exact h.ne_null hread
    · exact hrest.ne_null hread

end Alternatives

/-! ## Fields and records -/

section Fields

variable {α : Type} {s : Source} {members : List (String × Json)} {name type : String}
  {decoder : Decoder α} {write : α → Json}

theorem Stable.required (h : Stable decoder write) (hs : s.Settled) {value : α}
    (hread : (Record.required name decoder).read s = .ok value)
    (hshown : member? members name = some (write value)) :
    (Record.required name decoder).read (sourceOf members) = .ok value := by
  obtain ⟨shown, hfound, hdecoded⟩ := Record.read_required_eq_ok.mp hread
  exact Record.read_required_eq_ok.mpr ⟨_, hshown, h.again (hs.shown hfound) hdecoded⟩

theorem Stable.withDefault (h : Stable decoder write) {standard : α}
    (hstandard : decoder (write standard) = .ok standard) (hs : s.Settled) {value : α}
    (hread : (Record.withDefault name standard decoder).read s = .ok value)
    (hshown : member? members name = some (write value)) :
    (Record.withDefault name standard decoder).read (sourceOf members) = .ok value := by
  refine Record.read_withDefault_eq_ok.mpr (.inl ⟨_, hshown, ?_⟩)
  rcases Record.read_withDefault_eq_ok.mp hread with ⟨shown, hfound, hdecoded⟩ | ⟨-, rfl⟩
  · exact h.again (hs.shown hfound) hdecoded
  · exact hstandard

/-- An optional field may be written as `null` or not at all where it has no value. -/
theorem Stable.optional (h : Stable decoder write) (hs : s.Settled) {value : Option α}
    (hread : (Record.optional name decoder).read s = .ok value)
    (hshown : member? members name = value.map write ∨
      member? members name = some ((value.map write).getD .null)) :
    (Record.optional name decoder).read (sourceOf members) = .ok value := by
  refine Record.read_optional_eq_ok.mpr ?_
  rcases Record.read_optional_eq_ok.mp hread with ⟨shown, hfound, hne, a, ha, rfl⟩ | ⟨-, rfl⟩
  · refine .inl ⟨write a, ?_, h.ne_null ha hne, a, h.again (hs.shown hfound) ha, rfl⟩
    rcases hshown with hshown | hshown <;> exact hshown
  · refine .inr ⟨?_, rfl⟩
    rcases hshown with hshown | hshown <;>
      rw [show member? (sourceOf members).members name = _ from hshown] <;>
      rfl

theorem Stable.nullable (h : Stable decoder write) (hs : s.Settled) {value : Option α}
    (hread : (Record.nullable name decoder).read s = .ok value)
    (hshown : member? members name = value.map write ∨
      member? members name = some ((value.map write).getD .null)) :
    (Record.nullable name decoder).read (sourceOf members) = .ok value := by
  rw [Record.read_nullable rfl]
  exact h.optional hs (Record.read_optional_of_read_nullable hread) hshown

theorem exists_source_of_items {r : Record α} {items : List Json} {value : α}
    (hitems : ∀ item ∈ items, item.Settled) (h : Record.ofItems type r items = .ok value) :
    ∃ s, s.Settled ∧ r.read s = .ok value := by
  obtain ⟨read, hread, hrest⟩ := bind_eq_ok.mp h
  have hvalue : read = value := by
    split at hrest
    · cases hrest
    · cases hrest
      rfl
  subst hvalue
  exact ⟨_, fun m hm => hitems m.2 (List.of_mem_zip hm).2, mapError_eq_ok.mp hread⟩

/-- A record is read from the members of an object or from the items of an array. -/
theorem exists_source {r : Record α} {j : Json} {value : α} (hj : j.Settled)
    (h : Record.decoder type r j = .ok value) : ∃ s, s.Settled ∧ r.read s = .ok value := by
  cases j with
  | object members => exact ⟨sourceOf members, fun _ hm => hj.value hm, mapError_eq_ok.mp h⟩
  | array items => exact exists_source_of_items (fun _ hitem => hj.item hitem) h
  | _ => cases h

theorem decoder_object_eq_ok {r : Record α} {value : α} :
    Record.decoder type r (.object members) = .ok value ↔
      r.Reads (sourceOf members) (· = value) := by
  constructor
  · exact fun h => ⟨value, mapError_eq_ok.mp h, rfl⟩
  · rintro ⟨_, hread, rfl⟩
    exact mapError_eq_ok.mpr hread

/-- A record that requires a field is not read where there is no member with its name. -/
theorem decoder_objectOf_ne_ok (name : String) {r : Record α} {value : α}
    (hfield : ∀ s, r.Reads s (· = value) →
      ∃ (β : Type) (field : Decoder β) (P : β → Prop), (Record.required name field).Reads s P)
    {members : List (String × Option Json)} (hnone : ∀ m ∈ members, m.1 ≠ name) :
    Record.decoder type r (.objectOf members) ≠ .ok value := by
  intro h
  rw [objectOf_eq] at h
  obtain ⟨_, _, P, hread⟩ := hfield _ (decoder_object_eq_ok.mp h)
  exact Record.not_reads_required (member?_present_eq_none hnone) P hread

/-- A record is stable if it is read again from what is written of it. -/
theorem Stable.record {r : Record α} {shown : α → List (String × Json)}
    (hwrite : ∀ value, write value = .object (shown value))
    (h : ∀ {s : Source} {value : α}, s.Settled → r.Reads s (· = value) →
      r.Reads (sourceOf (shown value)) (· = value)) : Stable (Record.decoder type r) write where
  again {j value} hj hread := by
    obtain ⟨s, hs, hread⟩ := exists_source hj hread
    rw [hwrite, decoder_object_eq_ok]
    exact h hs ⟨value, hread, rfl⟩
  ne_null _ _ := by
    rw [hwrite]
    nofun

end Fields

end Refactoring.Json
