import Refactoring.Proofs.Disk.Operations

/-!
# Documents on disk

A URI leads to a place, and there may be a file, a directory or nothing.  When a tree extends to
another one, a document changes only if something happens at its place.
-/

namespace Refactoring

open Disk

namespace Uri

variable {disk disk' : Disk}

/-- There is something where a URI leads. -/
def ExistsOn (disk : Disk) (uri : Uri) : Prop :=
  ∃ path, uri.filePath? = some path ∧ disk.pathExists path

/-- There is a file where a URI leads. -/
def IsFileOn (disk : Disk) (uri : Uri) : Prop :=
  ∃ path content, uri.filePath? = some path ∧ disk.read path = .ok content

/-- There is a directory where a URI leads. -/
def IsDirectoryOn (disk : Disk) (uri : Uri) : Prop :=
  ∃ path, uri.filePath? = some path ∧ disk.isDirectory path

/-- A URI leads to a place, whether or not there is anything. -/
def ReachableOn (disk : Disk) (uri : Uri) : Prop :=
  ∃ path place, uri.filePath? = some path ∧ disk.locate path = .ok place

/-- The place that a URI leads to. -/
def place? (uri : Uri) : Option Place := uri.filePath?.map placeOf

/-- Different ones among some URIs lead to different places. -/
def Distinct (uris : List Uri) : Prop :=
  ∀ uri ∈ uris, ∀ other ∈ uris, uri.place? ≠ none → uri.place? = other.place? → uri = other

theorem place?_of_locate {uri : Uri} {path : FilePath} {place : Place}
    (hpath : uri.filePath? = some path) (h : disk.locate path = .ok place) :
    uri.place? = some place := by
  rw [place?, hpath, eq_placeOf_of_locate h]
  rfl

theorem existsOn_of_stat {uri : Uri} {path : FilePath} {place : Place} {node : Node}
    (hpath : uri.filePath? = some path) (h : disk.stat path = .ok (place, node)) :
    uri.ExistsOn disk :=
  ⟨path, hpath, pathExists_iff.mpr ⟨place, node, h⟩⟩

theorem ExistsOn.reachableOn {uri : Uri} (h : uri.ExistsOn disk) : uri.ReachableOn disk := by
  obtain ⟨path, hpath, hexists⟩ := h
  obtain ⟨place, node, hstat⟩ := pathExists_iff.mp hexists
  exact ⟨path, place, hpath, (stat_eq_ok.mp hstat).1⟩

/-- What is there is a file or a directory. -/
theorem ExistsOn.isFileOn_or {uri : Uri} (h : uri.ExistsOn disk) :
    uri.IsFileOn disk ∨ uri.IsDirectoryOn disk := by
  obtain ⟨path, hpath, hexists⟩ := h
  obtain ⟨place, node, hstat⟩ := pathExists_iff.mp hexists
  cases node with
  | file content => exact .inl ⟨path, content, hpath, read_eq_ok.mpr ⟨place, hstat⟩⟩
  | directory => exact .inr ⟨path, hpath, isDirectory_iff.mpr ⟨place, hstat⟩⟩

theorem IsDirectoryOn.not_isFileOn {uri : Uri} (h : uri.IsDirectoryOn disk) :
    ¬ uri.IsFileOn disk := by
  obtain ⟨path, hpath, hdir⟩ := h
  obtain ⟨place, hstat⟩ := isDirectory_iff.mp hdir
  rintro ⟨path', content, hpath', hread⟩
  obtain rfl : path = path' := Option.some.inj (hpath.symm.trans hpath')
  obtain ⟨place', hstat'⟩ := read_eq_ok.mp hread
  rw [hstat] at hstat'
  cases hstat'

/-- Where nothing stands, there is no file. -/
theorem not_isFileOn_of_get? {uri : Uri} {place : Place} (hplace : uri.place? = some place)
    (h : disk.get? place = none) : ¬ uri.IsFileOn disk := by
  rintro ⟨path, content, hpath, hread⟩
  obtain ⟨place', hstat⟩ := read_eq_ok.mp hread
  obtain ⟨hlocate, hfile, -⟩ := stat_eq_ok.mp hstat
  have hplace' := place?_of_locate hpath hlocate
  obtain rfl : place' = place := Option.some.inj (hplace'.symm.trans hplace)
  rw [h] at hfile
  cases hfile

variable {apart : List Place}

theorem ReachableOn.extend (hext : Extends apart disk disk') {uri : Uri}
    (h : uri.ReachableOn disk) : uri.ReachableOn disk' := by
  obtain ⟨path, place, hpath, hlocate⟩ := h
  exact ⟨path, place, hpath, hext.locate hlocate⟩

/-- What is there stays there, unless something happens at its place. -/
theorem ExistsOn.extend (hext : Extends apart disk disk') {uri : Uri} (h : uri.ExistsOn disk)
    (hapart : ∀ place ∈ apart, uri.place? ≠ some place) : uri.ExistsOn disk' := by
  obtain ⟨path, hpath, hexists⟩ := h
  obtain ⟨place, node, hstat⟩ := pathExists_iff.mp hexists
  have hplace := place?_of_locate hpath (stat_eq_ok.mp hstat).1
  exact existsOn_of_stat hpath (hext.stat (fun hmem => hapart place hmem hplace) hstat)

/-- A file that is there has been there before, unless something happened at its place. -/
theorem IsFileOn.of_extend (hext : Extends apart disk disk') {uri : Uri}
    (h : uri.IsFileOn disk') (hreach : uri.ReachableOn disk)
    (hapart : ∀ place ∈ apart, uri.place? ≠ some place) : uri.IsFileOn disk := by
  obtain ⟨path, content, hpath, hread⟩ := h
  obtain ⟨path', place, hpath', hlocate⟩ := hreach
  obtain rfl : path = path' := Option.some.inj (hpath.symm.trans hpath')
  obtain ⟨place', hstat⟩ := read_eq_ok.mp hread
  obtain ⟨hlocate', hfile, hwants⟩ := stat_eq_ok.mp hstat
  obtain rfl : place' = place := Except.ok.inj (hlocate'.symm.trans (hext.locate hlocate))
  have hout : place' ∉ apart := fun hmem => hapart place' hmem (place?_of_locate hpath hlocate)
  exact ⟨path, content, hpath, read_eq_ok.mpr
    ⟨place', stat_eq_ok.mpr ⟨hlocate, hext.get?_eq_file hout hfile, hwants⟩⟩⟩

end Uri

end Refactoring
