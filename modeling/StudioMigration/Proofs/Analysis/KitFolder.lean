import StudioMigration.Analysis.WidgetLibrary
import StudioMigration.Proofs.Analysis.Scannable

/-!
# Directories of widget kits

The search for a directory with a script and a page goes through the scripts below a directory and remembers the
directories that it has seen no page in.

* `report_firstWithPage` says that what is remembered changes nothing, as long as it is true.
* `firstKitFolder_spec` says what the search finds, and when it finds nothing.
-/

namespace StudioMigration

open List
open Text.Utf8 (byteLength)

variable {ws : Workspace} {root : Path} {loc : Location}

/-! ## The search without a memory -/

/-- The directory of the first script with a page beside it, where every directory is looked at as often as it comes
up. -/
def kitFolderOfScripts (root : Path) (ws : Workspace) : Except Fault (Option Path) := do
  let scripts ← ws.find root (hasEnding ".js")
  (scripts.map (·.1.parent)).findM? fun folder => containsEnding ".html" folder ws

/-- The invariant of the search: every directory that is remembered has no page in it. -/
theorem report_firstWithPage {passed : List Path}
    (hpassed : ∀ folder ∈ passed, containsEnding ".html" folder ws = .ok false) (folders : List Path) :
    (firstWithPage passed folders).report ws = ([], folders.findM? fun folder => containsEnding ".html" folder ws) := by
  induction folders generalizing passed with
  | nil => rfl
  | cons folder folders ih =>
    rw [firstWithPage, findM?]
    by_cases hseen : passed.contains folder
    · rw [if_pos hseen, ih hpassed, hpassed folder (by simpa using hseen)]
      rfl
    · rw [if_neg hseen, Inspection.report_ask_bind]
      cases hpage : containsEnding ".html" folder ws with
      | error fault => rfl
      | ok hasPage =>
        cases hasPage with
        | true => rfl
        | false => exact ih (forall_mem_cons.2 ⟨hpage, hpassed⟩)

theorem report_firstKitFolder (root : Path) (ws : Workspace) :
    (firstKitFolder root).report ws = ([], kitFolderOfScripts root ws) := by
  have hscripts : entriesEnding root ".js" = Inspection.ask fun ws => ws.find root (hasEnding ".js") := rfl
  rw [firstKitFolder, hscripts, Inspection.report_ask_bind, kitFolderOfScripts]
  cases ws.find root (hasEnding ".js") with
  | error fault => rfl
  | ok scripts => exact report_firstWithPage (by simp) _

/-! ## Where there is a kit -/

/-- Something with an ending stands in a directory. -/
def Tree.HoldsEnding (tree : Tree) (loc : Location) (ending : String) : Prop :=
  ∃ name, hasEnding ending name ∧ tree.get? (loc ++ [name]) ≠ none

theorem Workspace.IsFolder.exists_containsEnding {path : Path} (h : ws.IsFolder path loc) (ending : String) :
    ∃ holds, containsEnding ending path ws = .ok holds ∧ (holds ↔ ws.tree.HoldsEnding loc ending) := by
  refine ⟨_, by rw [containsEnding, h.list]; rfl, ?_⟩
  simp only [any_eq_true, Prod.exists, Tree.mem_children_iff, Tree.HoldsEnding, Option.ne_none_iff_exists']
  constructor
  · rintro ⟨name, entry, hget, hname⟩
    exact ⟨name, hname, entry, hget⟩
  · rintro ⟨name, hname, entry, hget⟩
    exact ⟨name, entry, hget, hname⟩

theorem exists_findM? {ε α : Type} {items : List α} {p : α → Except ε Bool}
    (h : ∀ a ∈ items, ∃ holds, p a = .ok holds) : ∃ found, items.findM? p = .ok found := by
  induction items with
  | nil => exact ⟨none, rfl⟩
  | cons a items ih =>
    rw [forall_mem_cons] at h
    obtain ⟨⟨holds, ha⟩, hrest⟩ := h
    rw [findM?, ha]
    cases holds with
    | true => exact ⟨some a, rfl⟩
    | false => exact ih hrest

/-- The directories of what is found with an ending are those that hold something with it. -/
theorem IsFound.mem_parents_iff {ending : String} {found : List (Path × Entry)}
    (h : IsFound ws root loc (hasEnding ending) found) {folder : Path} :
    folder ∈ found.map (·.1.parent) ↔
      ∃ names, folder = root.descend names ∧ ws.tree.HoldsEnding (loc ++ names) ending := by
  have hparent (names : Location) (name : String) : (root.descend (names ++ [name])).parent = root.descend names := by
    rw [← Path.child_descend, Path.parent_child]
  have hmap : found.map (·.1.parent) = (found.map (·.1)).map Path.parent := by simp
  rw [hmap, mem_map]
  constructor
  · rintro ⟨child, hchild, rfl⟩
    obtain ⟨names, last, hlast, hname, hthere, rfl⟩ := (h.mem_iff child).1 hchild
    obtain ⟨above, rfl⟩ := getLast?_eq_some_iff.1 hlast
    exact ⟨above, hparent above last, last, hname, by rwa [append_assoc]⟩
  · rintro ⟨names, rfl, name, hname, hthere⟩
    rw [append_assoc] at hthere
    exact ⟨_, (h.mem_iff _).2 ⟨names ++ [name], name, by simp, hname, hthere, rfl⟩, hparent names name⟩

/-- The search for a kit ends with what it would end with without a memory. It ends with no directory just if none at or
below the root holds both a script and a page. -/
theorem firstKitFolder_spec (hsound : ws.tree.Sound) (hroot : ws.locate root = .ok location)
    (hshort : ∀ names, ws.tree.get? (location ++ names) = some .directory →
      byteLength (root.descend names).render ≤ maxPathLength) :
    ∃ found, (firstKitFolder root).report ws = ([], .ok found) ∧ kitFolderOfScripts root ws = .ok found ∧
      (found = none ↔ ¬∃ names, ws.tree.get? (location ++ names) = some .directory ∧
        ws.tree.HoldsEnding (location ++ names) ".js" ∧ ws.tree.HoldsEnding (location ++ names) ".html") := by
  obtain ⟨scripts, hscripts, hfound⟩ :=
    exists_find hsound hroot (hasEnding ".js") (Workspace.resembles_refl ws fun _ => True)
  have hmem := @IsFound.mem_parents_iff ws root location _ _ hfound
  -- whatever holds a script is a directory, which can be listed
  have hpage : ∀ names, ws.tree.HoldsEnding (location ++ names) ".js" →
      ws.tree.get? (location ++ names) = some .directory ∧ ∃ holds,
        containsEnding ".html" (root.descend names) ws = .ok holds ∧
          (holds ↔ ws.tree.HoldsEnding (location ++ names) ".html") := by
    rintro names ⟨name, -, hthere⟩
    obtain ⟨entry, hget⟩ := Option.ne_none_iff_exists'.1 hthere
    have hdirectory := hsound.get?_above (by simp) hget
    have hfolder : ws.IsFolder (root.descend names) (location ++ names) :=
      ⟨Workspace.locate_descend hsound hroot hdirectory (hshort names hdirectory), hdirectory⟩
    exact ⟨hdirectory, hfolder.exists_containsEnding ".html"⟩
  obtain ⟨found, hsearch⟩ : ∃ found, kitFolderOfScripts root ws = .ok found := by
    rw [kitFolderOfScripts, hscripts]
    refine exists_findM? fun folder hfolder => ?_
    obtain ⟨names, rfl, hscript⟩ := hmem.1 hfolder
    obtain ⟨-, holds, hholds, -⟩ := hpage names hscript
    exact ⟨holds, hholds⟩
  refine ⟨found, by rw [report_firstKitFolder, hsearch], hsearch, ?_⟩
  rw [kitFolderOfScripts, hscripts, ok_bind] at hsearch
  cases found with
  | none =>
    refine iff_of_true rfl ?_
    rintro ⟨names, -, hscript, hhtml⟩
    obtain ⟨-, holds, hholds, hiff⟩ := hpage names hscript
    have hnone := of_findM?_eq_none hsearch _ (hmem.2 ⟨names, rfl, hscript⟩)
    rw [hholds, hiff.2 hhtml] at hnone
    exact absurd hnone (by simp)
  | some folder =>
    refine iff_of_false (by simp) fun hnot => hnot ?_
    obtain ⟨hfolder, htrue⟩ := of_findM?_eq_some hsearch
    obtain ⟨names, rfl, hscript⟩ := hmem.1 hfolder
    obtain ⟨hdirectory, holds, hholds, hiff⟩ := hpage names hscript
    exact ⟨names, hdirectory, hscript, hiff.1 (Except.ok.inj (hholds.symm.trans htrue))⟩

/-- Scripts without a page in one directory, and a kit in the next. -/
def kitTree : Workspace :=
  ⟨[["w", "a", "1.js"], ["w", "a", "2.js"], ["w", "b", "3.js"], ["w", "b", "4.html"]].foldl
    (fun tree file => (tree.insertDirectories file.dropLast).insert file (.file [])) Tree.empty, []⟩

theorem firstKitFolder_spec_second :
    (firstKitFolder ⟨.here, ["w"]⟩).report kitTree = ([], .ok (some ⟨.here, ["w", "b"]⟩)) := by
  have hsound : kitTree.tree.Sound := by decide +kernel
  have hroot : kitTree.locate ⟨.here, ["w"]⟩ = .ok ["w"] := rfl
  have hentries : ∀ x ∈ kitTree.tree.entries, byteLength (Path.mk .here x.1).render ≤ maxPathLength := by
    decide +kernel
  obtain ⟨found, hreport, hsearch, -⟩ := firstKitFolder_spec hsound hroot fun names hget =>
    hentries ("w" :: names, .directory) ((Tree.get?_eq_some_iff _ (by simp)).1 hget)
  have hkit : kitFolderOfScripts ⟨.here, ["w"]⟩ kitTree = .ok (some ⟨.here, ["w", "b"]⟩) := rfl
  rwa [Except.ok.inj (hsearch.symm.trans hkit)] at hreport

end StudioMigration
