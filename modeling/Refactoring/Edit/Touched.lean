import Refactoring.Wire.Edit

/-!
# Documents that an edit touches

The documents that a workspace edit leaves behind, by their URIs after the edit: `touched` goes
through the edit and keeps a list, in which a rename or deletion takes a document out again.
Documents stand in the order in which they were first touched; the entries by document come first,
ordered by the text of their URIs.
-/

namespace Refactoring

/-- Adds a document that is not there yet. -/
def touch (touched : List Uri) (uri : Uri) : List Uri :=
  if touched.contains uri then touched else touched ++ [uri]

/-- Takes a document out. -/
def forget (touched : List Uri) (uri : Uri) : List Uri := touched.filter (· != uri)

/-- What a file operation does to the list. -/
def FileOperation.touch (touched : List Uri) : FileOperation → List Uri
  | .create uri _ _ => Refactoring.touch touched uri
  | .rename old new _ _ => Refactoring.touch (forget touched old) new
  | .delete uri _ => forget touched uri

/-- What a step of a list of changes does to the list. -/
def DocumentChange.touch (touched : List Uri) : DocumentChange → List Uri
  | .edit e => Refactoring.touch touched e.uri
  | .operation o => o.touch touched

/-- The documents with entries, ordered by the text of their URIs. -/
def WorkspaceEdit.entryUris (edit : WorkspaceEdit) : List Uri :=
  (edit.entries.map (·.1)).mergeSort fun a b => decide (a.text ≤ b.text)

/-- The documents that an edit leaves behind. -/
def WorkspaceEdit.touched (edit : WorkspaceEdit) : List Uri :=
  edit.steps.foldl DocumentChange.touch (edit.entryUris.foldl touch [])

/-- A document is added at most once. -/
theorem nodup_touch {touched : List Uri} (h : touched.Nodup) (uri : Uri) :
    (touch touched uri).Nodup := by
  unfold touch
  split
  · exact h
  · rename_i hu
    rw [List.nodup_append]
    refine ⟨h, by simp, ?_⟩
    intro a ha b hb
    simp only [List.mem_singleton] at hb
    subst hb
    rintro rfl
    exact hu (by simpa using ha)

end Refactoring
