import Refactoring.Proofs.Json.Same
import Refactoring.Proofs.Wire.Places
import Refactoring.Wire.Move

/-!
# Destinations that are sent back as they came

A destination is read into the shape that it fits and written in that shape again.  What is written
is what was read if it was spelled out: as an object with both marks of a package or a class target,
with no member that the shape does not have and none that is `null`, and with URIs that are
normalised.
-/

namespace Refactoring

open Json

/-! ## Spelled out -/

/-- A text that stays as it is when it is normalised as a URI. -/
def Uri.SpelledOut (j : Json) : Prop :=
  ∃ text, j = .string text ∧ ∀ uri, Uri.parse text = .ok uri → uri.text = text

def Position.SpelledOut : Json → Prop := Spells [("line", Anything), ("character", Anything)] []

def Range.SpelledOut : Json → Prop :=
  Spells [("start", Position.SpelledOut), ("end", Position.SpelledOut)] []

def Location.SpelledOut : Json → Prop :=
  Spells [("uri", Uri.SpelledOut), ("range", Range.SpelledOut)] []

def Symbol.SpelledOut : Json → Prop :=
  Spells [("name", Anything), ("kind", Anything), ("location", Location.SpelledOut)]
    ["tags", "deprecated", "containerName"]

def PackageNode.SpelledOut : Json → Prop :=
  Spells [("displayName", Anything), ("isDefaultPackage", Anything),
    ("isParentOfSelectedFile", Anything)] ["uri", "path", "project"]

def ClassTarget.SpelledOut : Json → Prop :=
  Spells [("bindingKey", Anything), ("name", Anything), ("type", Anything), ("isField", Anything),
    ("isSelected", Anything)] []

/-- A value that is spelled out for the shape that it was read in. -/
def Destination.SpelledOut : Destination → Json → Prop
  | package _ => PackageNode.SpelledOut
  | classTarget _ => ClassTarget.SpelledOut
  | symbol _ => Symbol.SpelledOut

/-! ## What is written is what was read -/

theorem Uri.sameIf : SameIf Uri.decode Uri.toJson Uri.SpelledOut where
  iff {j uri} h := by
    cases j with
    | string text =>
      have huri : Uri.parse text = .ok uri := Uri.ofText_eq_ok.mp h
      constructor
      · intro hsame
        refine ⟨text, rfl, fun other hother => ?_⟩
        obtain rfl : uri = other := Except.ok.inj (huri.symm.trans hother)
        exact Json.string.inj hsame.outline_eq
      · rintro ⟨_, ⟨⟩, hnormal⟩
        rw [Uri.toJson, hnormal uri huri]
        exact .refl _
    | _ => cases h

theorem Position.sameIf : SameIf Position.decode Position.toJson Position.SpelledOut := by
  have hwrite (p : Position) : p.toJson = objectOf
      [("line", some (.ofNat p.line)), ("character", some (.ofNat p.character))] := rfl
  refine SameIf.record hwrite fun h => ?_
  simp only [Record.reads_seq, Record.reads_map] at h
  obtain ⟨line, hline, character, hcharacter, rfl⟩ := h
  refine same_objectOf_iff_spells (by simp) (by simp) ?_ (by simp)
  simpa using ⟨Literal.word32.sameIf.rel_required_iff hline,
    Literal.word32.sameIf.rel_required_iff hcharacter⟩

theorem Range.sameIf : SameIf Range.decode Range.toJson Range.SpelledOut := by
  have hwrite (r : Range) : r.toJson = objectOf
      [("start", some r.start.toJson), ("end", some r.stop.toJson)] := rfl
  refine SameIf.record hwrite fun h => ?_
  simp only [Record.reads_seq, Record.reads_map] at h
  obtain ⟨start, hstart, stop, hstop, rfl⟩ := h
  refine same_objectOf_iff_spells (by simp) (by simp) ?_ (by simp)
  simpa using ⟨Position.sameIf.rel_required_iff hstart, Position.sameIf.rel_required_iff hstop⟩

theorem Location.sameIf : SameIf Location.decode Location.toJson Location.SpelledOut := by
  have hwrite (l : Location) : l.toJson = objectOf
      [("uri", some l.uri.toJson), ("range", some l.range.toJson)] := rfl
  refine SameIf.record hwrite fun h => ?_
  simp only [Record.reads_seq, Record.reads_map] at h
  obtain ⟨uri, huri, range, hrange, rfl⟩ := h
  refine same_objectOf_iff_spells (by simp) (by simp) ?_ (by simp)
  simpa using ⟨Uri.sameIf.rel_required_iff huri, Range.sameIf.rel_required_iff hrange⟩

theorem Symbol.sameIf : SameIf Symbol.decode Symbol.toJson Symbol.SpelledOut := by
  refine SameIf.record (fun _ => rfl) fun h => ?_
  simp only [Record.reads_seq, Record.reads_map] at h
  obtain ⟨name, hname, kind, hkind, tags, htags, deprecated, hdeprecated, location, hlocation,
    container, hcontainer, rfl⟩ := h
  rw [Record.read_nullable rfl] at htags hdeprecated hcontainer
  have hkinds : Literal (Decoder.list Decoder.int32) (.list .ofInt) := Literal.int32.list
  refine same_objectOf_iff_spells (by simp) (fun name => by simp; tauto) ?_ ?_
  · simpa using ⟨Literal.text.sameIf.rel_required_iff hname,
      Literal.int32.sameIf.rel_required_iff hkind, Location.sameIf.rel_required_iff hlocation⟩
  · simpa using ⟨hkinds.rel_optional_iff htags, Literal.flag.rel_optional_iff hdeprecated,
      Literal.text.rel_optional_iff hcontainer⟩

theorem PackageNode.sameIf :
    SameIf PackageNode.decode PackageNode.toJson PackageNode.SpelledOut := by
  refine SameIf.record (fun _ => rfl) fun h => ?_
  simp only [Record.reads_seq, Record.reads_map] at h
  obtain ⟨name, hname, uri, huri, path, hpath, project, hproject, own, hown, parent, hparent,
    rfl⟩ := h
  refine same_objectOf_iff_spells (by simp) (fun name => by simp; tauto) ?_ ?_
  · simpa using ⟨Literal.text.sameIf.rel_required_iff hname,
      Literal.flag.rel_withDefault_iff hown, Literal.flag.rel_withDefault_iff hparent⟩
  · simpa using ⟨Literal.text.rel_optional_iff huri, Literal.text.rel_optional_iff hpath,
      Literal.text.rel_optional_iff hproject⟩

theorem ClassTarget.sameIf :
    SameIf ClassTarget.decode ClassTarget.toJson ClassTarget.SpelledOut := by
  have hwrite (target : ClassTarget) : target.toJson = objectOf
      [("bindingKey", some (.string target.bindingKey)), ("name", some (.string target.name)),
        ("type", some (.string target.typeName)), ("isField", some (.bool target.isField)),
        ("isSelected", some (.bool target.isSelected))] := rfl
  refine SameIf.record hwrite fun h => ?_
  simp only [Record.reads_seq, Record.reads_map] at h
  obtain ⟨key, hkey, name, hname, type, htype, isField, hfield, selected, hselected, rfl⟩ := h
  refine same_objectOf_iff_spells (by simp) (by simp) ?_ (by simp)
  simpa using ⟨Literal.text.sameIf.rel_required_iff hkey,
    Literal.text.sameIf.rel_required_iff hname, Literal.text.sameIf.rel_required_iff htype,
    Literal.flag.rel_withDefault_iff hfield, Literal.flag.rel_withDefault_iff hselected⟩

/-! ## Destinations -/

namespace Destination

/-- What is read from a value among destinations of any shape, or among symbols. -/
inductive ReadFrom (j : Json) : Destination → Prop
  | offered {destination : Destination} (h : decode j = .ok destination) : ReadFrom j destination
  | found {s : Symbol} (h : Symbol.decode j = .ok s) : ReadFrom j (symbol s)

variable {j : Json} {destination : Destination}

theorem same_iff_of_decode (h : decode j = .ok destination) :
    destination.toJson.Same j ↔ destination.SpelledOut j := by
  obtain ⟨decoder, hdecoder, h⟩ := exists_of_firstOf h
  simp only [List.mem_cons, List.not_mem_nil, or_false] at hdecoder
  rcases hdecoder with rfl | rfl | rfl
  · obtain ⟨node, hnode, rfl⟩ := map_eq_ok.mp h
    exact PackageNode.sameIf.iff hnode
  · obtain ⟨target, htarget, rfl⟩ := map_eq_ok.mp h
    exact ClassTarget.sameIf.iff htarget
  · obtain ⟨s, hs, rfl⟩ := map_eq_ok.mp h
    exact Symbol.sameIf.iff hs

/-- A destination is written as what it was read from if and only if that was spelled out. -/
theorem ReadFrom.same_iff (h : destination.ReadFrom j) :
    destination.toJson.Same j ↔ destination.SpelledOut j := by
  cases h with
  | offered h => exact same_iff_of_decode h
  | found h => exact Symbol.sameIf.iff h

end Destination
end Refactoring
