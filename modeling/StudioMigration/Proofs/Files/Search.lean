import StudioMigration.Proofs.Files.Workspace

/-!
# Searching the directories in a directory

A search asks for some files in every directory that stands in a directory and ends with the first file there is.

* `Workspace.searchFolders` is the search.
* `IsFolder.exists_of_searchFolders` says where a search ends, `IsFolder.get?_of_searchFolders` that it passes no
  file over, and `IsFolder.searchFolders_congr` what it depends on.
* `IsFolder.mem_find_iff` says what is found below a directory, however deep it stands.
-/

namespace StudioMigration

open List
open Text.Utf8 (byteLength)

variable {ε α : Type} {path : Path} {items : List α}

/-! ## The first that is accepted -/

theorem findM?_congr {p q : α → Except ε Bool} (h : ∀ a ∈ items, p a = q a) : items.findM? p = items.findM? q := by
  induction items with
  | nil => rfl
  | cons a items ih =>
    rw [forall_mem_cons] at h
    rw [findM?, findM?, h.1, ih h.2]

theorem of_findM?_eq_some {p : α → Except ε Bool} {a : α} (h : items.findM? p = .ok (some a)) :
    a ∈ items ∧ p a = .ok true := by
  induction items with
  | nil => simp [findM?] at h
  | cons b items ih =>
    obtain ⟨holds, hb, h⟩ := bind_eq_ok_iff.1 h
    cases holds with
    | true =>
      obtain rfl := Option.some.inj (Except.ok.inj h)
      exact ⟨mem_cons_self, hb⟩
    | false => exact ⟨mem_cons_of_mem _ (ih h).1, (ih h).2⟩

theorem of_findM?_eq_none {p : α → Except ε Bool} (h : items.findM? p = .ok none) : ∀ a ∈ items, p a = .ok false := by
  induction items with
  | nil => simp
  | cons b items ih =>
    obtain ⟨holds, hb, h⟩ := bind_eq_ok_iff.1 h
    cases holds with
    | true => simp at h
    | false =>
      rw [forall_mem_cons]
      exact ⟨hb, ih h⟩

/-! ## Directories in a directory -/

theorem Path.grandchild_inj {name other file last : String}
    (h : (path.child name).child file = (path.child other).child last) : name = other ∧ file = last := by
  simpa [Path.child] using h

@[simp] theorem Path.parent_child (path : Path) (name : String) : (path.child name).parent = path := by
  simp [Path.parent, Path.child]

namespace Workspace

variable {child : Path}

variable {ws : Workspace} {loc : Location}

def folders (ws : Workspace) (path : Path) : List Path :=
  match ws.list path with
  | .ok found => (found.filter (·.2.isDirectory)).map fun x => path.child x.1
  | .error _ => []

theorem IsFolder.folders_eq (h : ws.IsFolder path loc) :
    ws.folders path = ((ws.tree.children loc).filter (·.2.isDirectory)).map fun x => path.child x.1 := by
  rw [folders, h.list]

theorem IsFolder.mem_folders_iff (h : ws.IsFolder path loc) :
    child ∈ ws.folders path ↔ ∃ name, ws.tree.get? (loc ++ [name]) = some .directory ∧ child = path.child name := by
  rw [h.folders_eq, mem_map]
  constructor
  · rintro ⟨⟨name, entry⟩, hmem, rfl⟩
    exact ⟨name, (Tree.mem_folders_iff.1 hmem).1, rfl⟩
  · rintro ⟨name, hget, rfl⟩
    exact ⟨(name, .directory), Tree.mem_folders_iff.2 ⟨hget, rfl⟩, rfl⟩

theorem exists_isFolder_of_mem_folders (h : child ∈ ws.folders path) : ∃ loc, ws.IsFolder path loc := by
  cases hlist : ws.list path with
  | ok found =>
    obtain ⟨loc, hfolder, -⟩ := exists_isFolder_of_list hlist
    exact ⟨loc, hfolder⟩
  | error fault => simp [folders, hlist] at h

/-! ## Files in them -/

def inFolders (ws : Workspace) (path : Path) (files : List String) : List Path :=
  (ws.folders path).flatMap fun folder => files.map folder.child

/-- The first of some files in the directories in a directory. -/
def searchFolders (ws : Workspace) (path : Path) (files : List String) : Except Fault (Option Path) :=
  (ws.inFolders path files).findM? ws.holds

section Search

variable {found : Path} (h : ws.IsFolder path loc) (hsound : ws.tree.Sound) {files : List String}
  (hfiles : ∀ file ∈ files, IsFileName file)

include h

theorem IsFolder.mem_inFolders_iff :
    found ∈ ws.inFolders path files ↔ ∃ name, ws.tree.get? (loc ++ [name]) = some .directory ∧
      ∃ file ∈ files, found = (path.child name).child file := by
  simp only [inFolders, mem_flatMap, h.mem_folders_iff, mem_map]
  constructor
  · rintro ⟨folder, ⟨name, hget, rfl⟩, file, hfile, rfl⟩
    exact ⟨name, hget, file, hfile, rfl⟩
  · rintro ⟨name, hget, file, hfile, rfl⟩
    exact ⟨path.child name, ⟨name, hget, rfl⟩, file, hfile, rfl⟩

theorem IsFolder.holds_grandchild {name file : String} (hname : IsFileName name) (hfile : IsFileName file)
    (hget : ws.tree.get? (loc ++ [name]) = some .directory) :
    ws.holds ((path.child name).child file) =
      if byteLength ((path.child name).child file).render ≤ maxPathLength then
        .ok (ws.tree.get? (loc ++ [name] ++ [file])).isSome
      else .error (.file .nameTooLong ((path.child name).child file).render) := by
  by_cases hshort : byteLength (path.child name).render ≤ maxPathLength
  · exact (h.child hname hshort hget).holds_child hfile
  · -- then the longer path is too long as well, whatever it leads to
    have hlonger := Path.byteLength_render_child (path.child name) hfile.ne_empty
    have hlong : maxPathLength < byteLength ((path.child name).child file).render := by omega
    obtain ⟨hnull, -, -⟩ := locate_eq_ok_iff.1 h.located
    have hnull' : ((path.child name).child file).parts.any hasNull = false := by
      simp [Path.child, hnull, hname.no_null, hfile.no_null]
    rw [if_neg (Nat.not_le.2 hlong), holds, status, locate_of_long hnull' hlong]
    rfl

include hsound hfiles

theorem IsFolder.exists_of_searchFolders (hfound : ws.searchFolders path files = .ok (some found)) :
    ∃ name file, file ∈ files ∧ found = (path.child name).child file ∧
      ws.IsFolder (path.child name) (loc ++ [name]) ∧
      byteLength ((path.child name).child file).render ≤ maxPathLength ∧
      ws.tree.get? (loc ++ [name] ++ [file]) ≠ none := by
  obtain ⟨hmem, hholds⟩ := of_findM?_eq_some hfound
  obtain ⟨name, hget, file, hfile, rfl⟩ := h.mem_inFolders_iff.1 hmem
  have hname : IsFileName name := hsound.isFileName hget (by simp)
  rw [h.holds_grandchild hname (hfiles file hfile) hget] at hholds
  split at hholds
  · rename_i hshort
    have hshorter := Path.byteLength_render_child (path.child name) (hfiles file hfile).ne_empty
    refine ⟨name, file, hfile, rfl, h.child hname (by omega) hget, hshort, ?_⟩
    rw [← Option.isSome_iff_ne_none]
    exact Except.ok.inj hholds
  · simp at hholds

theorem IsFolder.get?_of_searchFolders (hnone : ws.searchFolders path files = .ok none) {name : String}
    (hget : ws.tree.get? (loc ++ [name]) = some .directory) {file : String} (hfile : file ∈ files) :
    ws.tree.get? (loc ++ [name] ++ [file]) = none := by
  have hholds := of_findM?_eq_none hnone _ (h.mem_inFolders_iff.2 ⟨name, hget, file, hfile, rfl⟩)
  rw [h.holds_grandchild (hsound.isFileName hget (by simp)) (hfiles file hfile) hget] at hholds
  split at hholds
  · simpa using Except.ok.inj hholds
  · simp at hholds

/-- A search only depends on which directories there are and on where there are files. -/
theorem IsFolder.searchFolders_congr {ws' : Workspace} (h' : ws'.IsFolder path loc)
    (hchildren : ∀ name, ws'.tree.get? (loc ++ [name]) = ws.tree.get? (loc ++ [name]))
    (hsame : ∀ name, ∀ file ∈ files, (ws'.tree.get? (loc ++ [name] ++ [file])).isSome =
      (ws.tree.get? (loc ++ [name] ++ [file])).isSome) :
    ws'.searchFolders path files = ws.searchFolders path files := by
  unfold searchFolders inFolders
  rw [h'.folders_eq, Tree.children_congr hchildren, ← h.folders_eq]
  refine findM?_congr fun found hfound => ?_
  obtain ⟨name, hget, file, hfile, rfl⟩ := h.mem_inFolders_iff.1 hfound
  have hname : IsFileName name := hsound.isFileName hget (by simp)
  rw [h.holds_grandchild hname (hfiles file hfile) hget,
    h'.holds_grandchild hname (hfiles file hfile) ((hchildren name).trans hget), hsame name file hfile]

end Search

/-! ## Everything below a directory -/

theorem IsFolder.mem_find_iff (h : ws.IsFolder path loc) {accepts : String → Bool} {found : List (Path × Entry)}
    (hfound : ws.find path accepts = .ok found) {entry : Entry} :
    (child, entry) ∈ found ↔ ∃ names last, names.getLast? = some last ∧ accepts last ∧
      ws.tree.get? (loc ++ names) = some entry ∧ child = path.descend names := by
  simp only [find, h.located, (ws.tree.isDirectory_iff loc).2 h.isDirectory, if_true] at hfound
  obtain rfl := Except.ok.inj hfound
  rw [mem_filterMap]
  constructor
  · rintro ⟨⟨names, stands⟩, hbelow, haccepted⟩
    obtain ⟨hne, hget⟩ := (ws.tree.mem_below_iff loc).1 hbelow
    have hlast := getLast?_eq_some_getLast hne
    split at haccepted
    · rename_i hname
      obtain ⟨rfl, rfl⟩ := Prod.mk.inj (Option.some.inj haccepted)
      rw [hlast] at hname
      exact ⟨names, _, hlast, hname, hget, rfl⟩
    · simp at haccepted
  · rintro ⟨names, last, hlast, haccepted, hget, rfl⟩
    have hne : names ≠ [] := by
      rintro rfl
      simp at hlast
    refine ⟨(names, entry), (ws.tree.mem_below_iff loc).2 ⟨hne, hget⟩, if_pos ?_⟩
    rw [hlast]
    exact haccepted

end Workspace

end StudioMigration
