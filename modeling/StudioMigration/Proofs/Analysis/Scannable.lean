import StudioMigration.Analysis.Scan
import StudioMigration.Proofs.Files.Name
import StudioMigration.Proofs.Files.Search
import StudioMigration.Proofs.Inspection

/-!
# Workspaces during a scan

While the checks run, the result file grows. Nothing else changes, so that whatever a check has found is still there
when it is read.

* `Workspace.IsScannable` says that everything in a project folder can be reached.
* `Workspace.Resembles` relates the workspace that the checks start on to those that they meet.
* `completes_find`, `completes_list` and so on say that the looks of the checks complete, and what they find in terms of
  the workspace that the checks started on.
-/

namespace StudioMigration

open List
open Text.Utf8 (Bytes byteLength)

theorem Path.child_descend (path : Path) (names : List String) (name : String) :
    (path.descend names).child name = path.descend (names ++ [name]) := by
  simp [child, descend]

theorem Path.descend_descend (path : Path) (names more : List String) :
    (path.descend names).descend more = path.descend (names ++ more) := by
  simp [descend]

theorem Path.descend_inj (path : Path) {names more : List String} :
    path.descend names = path.descend more ↔ names = more := by
  simp [descend]

namespace Workspace

variable {name : String}

/-! ## Projects that can be scanned -/

/-- What the longest name that a check looks for takes, with a slash before it. -/
def nameRoom : Nat := 26

/-- A folder in a sound tree such that the paths to everything in it can be written and leave room for one more name. -/
structure IsScannable (ws : Workspace) (folder : Path) (loc : Location) : Prop where
  sound : ws.tree.Sound
  isFolder : ws.IsFolder folder loc
  room : ∀ names, ws.tree.get? (loc ++ names) ≠ none →
    byteLength (folder.descend names).render + nameRoom ≤ maxPathLength

section IsScannable

variable {ws : Workspace} {folder : Path} {loc names : Location} (h : ws.IsScannable folder loc)

include h

theorem IsScannable.locate (hthere : ws.tree.get? (loc ++ names) ≠ none) :
    ws.locate (folder.descend names) = .ok (loc ++ names) := by
  obtain ⟨entry, hget⟩ := Option.ne_none_iff_exists'.1 hthere
  have hroom := h.room names hthere
  exact locate_descend h.sound h.isFolder.located hget (by omega)

theorem IsScannable.folder_descend (hget : ws.tree.get? (loc ++ names) = some .directory) :
    ws.IsFolder (folder.descend names) (loc ++ names) :=
  ⟨h.locate (by simp [hget]), hget⟩

theorem IsScannable.short (hthere : ws.tree.get? (loc ++ names) ≠ none) (hname : name ≠ "")
    (hroom : byteLength name < nameRoom) : byteLength ((folder.descend names).child name).render ≤ maxPathLength := by
  have hpath := h.room names hthere
  have hchild := (folder.descend names).byteLength_render_child_le hname
  omega

theorem IsScannable.locate_child (hget : ws.tree.get? (loc ++ names) = some .directory) (hname : IsFileName name)
    (hroom : byteLength name < nameRoom) :
    ws.locate ((folder.descend names).child name) = .ok (loc ++ names ++ [name]) := by
  rw [(h.folder_descend hget).locate_child hname, if_pos]
  exact h.short (by simp [hget]) hname.ne_empty hroom

theorem IsScannable.locate_top (hname : IsFileName name) (hroom : byteLength name < nameRoom) :
    ws.locate (folder.child name) = .ok (loc ++ [name]) := by
  have hget : ws.tree.get? (loc ++ []) = some .directory := by
    rw [append_nil]
    exact h.isFolder.isDirectory
  simpa [Path.descend] using h.locate_child hget hname hroom

end IsScannable

/-- Whether a folder can be scanned is read off the entries of the tree. -/
theorem isScannable_of_entries {ws : Workspace} {folder : Path} {loc : Location} (hsound : ws.tree.Sound)
    (hfolder : ws.IsFolder folder loc) (hself : byteLength folder.render + nameRoom ≤ maxPathLength)
    (hentries : ∀ x ∈ ws.tree.entries, loc <+: x.1 →
      byteLength (folder.descend (x.1.drop loc.length)).render + nameRoom ≤ maxPathLength) :
    ws.IsScannable folder loc := by
  refine ⟨hsound, hfolder, fun names hthere => ?_⟩
  by_cases hnames : names = []
  · simpa [hnames, Path.descend] using hself
  · obtain ⟨entry, hget⟩ := Option.ne_none_iff_exists'.1 hthere
    have hmem := (ws.tree.get?_eq_some_iff (by simp [hnames])).1 hget
    simpa using hentries _ hmem (prefix_append _ _)

/-! ## Other contents of files -/

/-- From one workspace to another at most the contents of files change, and not those of some files. -/
structure Resembles (base : Workspace) (fixed : Location → Prop) (ws : Workspace) : Prop where
  here : ws.here = base.here
  shape : ∀ place, ws.tree.get? place = base.tree.get? place ∨
    ∃ old new, base.tree.get? place = some (.file old) ∧ ws.tree.get? place = some (.file new)
  same : ∀ place, fixed place → ws.tree.get? place = base.tree.get? place

theorem resembles_refl (base : Workspace) (fixed : Location → Prop) : base.Resembles fixed base :=
  ⟨rfl, fun _ => .inl rfl, fun _ _ => rfl⟩

section Resembles

variable {base ws : Workspace} {fixed : Location → Prop} (h : base.Resembles fixed ws) {place : Location}

include h

theorem Resembles.get?_directory_iff :
    ws.tree.get? place = some .directory ↔ base.tree.get? place = some .directory := by
  rcases h.shape place with hsame | ⟨old, new, hold, hnew⟩
  · rw [hsame]
  · simp [hold, hnew]

theorem Resembles.get?_file_iff :
    (∃ bytes, ws.tree.get? place = some (.file bytes)) ↔ ∃ bytes, base.tree.get? place = some (.file bytes) := by
  rcases h.shape place with hsame | ⟨old, new, hold, hnew⟩
  · rw [hsame]
  · simp [hold, hnew]

theorem Resembles.isSome_get? (place : Location) : (ws.tree.get? place).isSome = (base.tree.get? place).isSome := by
  rcases h.shape place with hsame | ⟨old, new, hold, hnew⟩
  · rw [hsame]
  · simp [hold, hnew]

theorem Resembles.get?_ne_none_iff : ws.tree.get? place ≠ none ↔ base.tree.get? place ≠ none := by
  rw [← Option.isSome_iff_ne_none, ← Option.isSome_iff_ne_none, h.isSome_get?]

theorem Resembles.locate {path : Path} (hlocate : base.locate path = .ok place) : ws.locate path = .ok place :=
  locate_mono h.here (fun _ => h.get?_directory_iff.2) hlocate

theorem Resembles.isFolder {path : Path} (hfolder : base.IsFolder path place) : ws.IsFolder path place :=
  ⟨h.locate hfolder.located, h.get?_directory_iff.2 hfolder.isDirectory⟩

/-- A file that need not stay the same may get another content. -/
theorem Resembles.put {old : Bytes} (hold : base.tree.get? place = some (.file old)) (hfree : ¬fixed place)
    (bytes : Bytes) : base.Resembles fixed (ws.put place (.file bytes)) := by
  have hne : place ≠ [] := by
    rintro rfl
    simp at hold
  refine ⟨h.here, fun other => ?_, fun other hother => ?_⟩
  · rw [get?_put ws hne]
    split
    · rename_i heq
      exact .inr ⟨old, bytes, heq ▸ hold, rfl⟩
    · exact h.shape other
  · rw [get?_put ws hne, if_neg]
    · exact h.same other hother
    · rintro rfl
      exact hfree hother

end Resembles

end Workspace

/-! ## Looks that complete -/

open Inspection Workspace

section Looks

variable {base : Workspace} {fixed : Location → Prop} {path : Path} {place : Location}

theorem completes_holds (hlocate : base.locate path = .ok place) :
    (ask fun ws => ws.holds path).Completes (base.Resembles fixed)
      fun isThere => isThere = (base.tree.get? place).isSome := by
  refine completes_ask fun ws hws => ⟨_, ?_, hws.isSome_get? place⟩
  simp [holds, status_of_locate (hws.locate hlocate)]

theorem completes_isDirectory (hlocate : base.locate path = .ok place) :
    (ask fun ws => ws.isDirectory path).Completes (base.Resembles fixed)
      fun isFolder => isFolder = true ↔ base.tree.get? place = some .directory := by
  refine completes_ask fun ws hws => ⟨ws.tree.isDirectory place, ?_, ?_⟩
  · simp [Workspace.isDirectory, status_of_locate (hws.locate hlocate), Tree.isDirectory]
  · rw [ws.tree.isDirectory_iff, hws.get?_directory_iff]

theorem completes_list (hfolder : base.IsFolder path place) :
    (ask fun ws => ws.list path).Completes (base.Resembles fixed) fun found =>
      ∀ child, child ∈ (found.filter (·.2.isDirectory)).map (fun x => path.child x.1) ↔
        ∃ name, base.tree.get? (place ++ [name]) = some .directory ∧ child = path.child name := by
  refine completes_ask fun ws hws => ⟨_, (hws.isFolder hfolder).list, fun child => ?_⟩
  rw [← (hws.isFolder hfolder).folders_eq, (hws.isFolder hfolder).mem_folders_iff]
  simp only [hws.get?_directory_iff]

/-- Something that may be found below a directory. -/
structure IsFound (base : Workspace) (path : Path) (place : Location) (accepts : String → Bool)
    (found : List (Path × Entry)) : Prop where
  mem_iff : ∀ child, child ∈ found.map (·.1) ↔ ∃ names last, names.getLast? = some last ∧ accepts last ∧
    base.tree.get? (place ++ names) ≠ none ∧ child = path.descend names
  file : ∀ child entry, (child, entry) ∈ found → entry.isFile →
    ∃ names bytes, child = path.descend names ∧ base.tree.get? (place ++ names) = some (.file bytes)

/-- A search succeeds, whether or not there is a directory to search. -/
theorem exists_find (hsound : base.tree.Sound) (hlocate : base.locate path = .ok place) (accepts : String → Bool)
    {ws : Workspace} (hws : base.Resembles fixed ws) :
    ∃ found, ws.find path accepts = .ok found ∧ IsFound base path place accepts found := by
  have hlocate' := hws.locate hlocate
  by_cases hdir : base.tree.get? place = some .directory
  · have hfolder : ws.IsFolder path place := hws.isFolder ⟨hlocate, hdir⟩
    obtain ⟨found, hfound⟩ : ∃ found, ws.find path accepts = .ok found := by
      simp [find, hlocate', (ws.tree.isDirectory_iff place).2 hfolder.isDirectory]
    refine ⟨found, hfound, ⟨fun child => ?_, fun child entry hmem hfile => ?_⟩⟩
    · rw [mem_map]
      constructor
      · rintro ⟨⟨_, entry⟩, hmem, rfl⟩
        obtain ⟨names, last, hlast, haccepted, hget, rfl⟩ := (hfolder.mem_find_iff hfound).1 hmem
        exact ⟨names, last, hlast, haccepted, hws.get?_ne_none_iff.1 (by simp [hget]), rfl⟩
      · rintro ⟨names, last, hlast, haccepted, hthere, rfl⟩
        obtain ⟨entry, hget⟩ := Option.ne_none_iff_exists'.1 (hws.get?_ne_none_iff.2 hthere)
        exact ⟨(path.descend names, entry),
          (hfolder.mem_find_iff hfound).2 ⟨names, last, hlast, haccepted, hget, rfl⟩, rfl⟩
    · obtain ⟨names, last, -, -, hget, rfl⟩ := (hfolder.mem_find_iff hfound).1 hmem
      cases entry with
      | file bytes =>
        obtain ⟨old, hold⟩ := hws.get?_file_iff.1 ⟨bytes, hget⟩
        exact ⟨names, old, rfl, hold⟩
      | directory => simp [Entry.isFile] at hfile
      | fullDevice => simp [Entry.isFile] at hfile
  · -- there is nothing below what is no directory
    have hnone : ws.tree.isDirectory place = false := by
      rw [Bool.eq_false_iff, ne_eq, ws.tree.isDirectory_iff, hws.get?_directory_iff]
      exact hdir
    refine ⟨[], by simp [find, hlocate', hnone], ⟨fun child => ?_, by simp⟩⟩
    constructor
    · simp
    · rintro ⟨names, last, hlast, -, hthere, -⟩
      obtain ⟨entry, hget⟩ := Option.ne_none_iff_exists'.1 hthere
      have hne : names ≠ [] := by
        rintro rfl
        simp at hlast
      exact absurd (hsound.get?_above hne hget) hdir

theorem completes_find (hsound : base.tree.Sound) (hlocate : base.locate path = .ok place) (accepts : String → Bool) :
    (ask fun ws => ws.find path accepts).Completes (base.Resembles fixed) (IsFound base path place accepts) :=
  completes_ask fun _ => exists_find hsound hlocate accepts

theorem completes_entriesEnding (hsound : base.tree.Sound) (hlocate : base.locate path = .ok place) {ending : String}
    (hending : isPatternEnding ending = false) :
    (entriesEnding path ending).Completes (base.Resembles fixed) (IsFound base path place (hasEnding ending)) := by
  unfold entriesEnding
  rw [hending]
  exact completes_find hsound hlocate _

theorem completes_readLenient (hlocate : base.locate path = .ok place) {old : Bytes}
    (hget : base.tree.get? place = some (.file old)) :
    (ask fun ws => ws.readLenient path).Completes (base.Resembles fixed) fun text =>
      fixed place → text = Text.unifyNewlines (Text.Utf8.decodeLenient old) := by
  refine completes_ask fun ws hws => ?_
  obtain ⟨bytes, hbytes⟩ := hws.get?_file_iff.2 ⟨old, hget⟩
  refine ⟨Text.unifyNewlines (Text.Utf8.decodeLenient bytes), ?_, fun hfixed => ?_⟩
  · rw [readLenient, readBytes_of_locate (hws.locate hlocate) hbytes]
    rfl
  · rw [hws.same place hfixed, hget, Option.some.injEq, Entry.file.injEq] at hbytes
    rw [hbytes]

end Looks

/-! ## Scans that complete -/

def IsFileIn (base : Workspace) (folder : Path) (loc : Location) (path : Path) : Prop :=
  ∃ names bytes, path = folder.descend names ∧ base.tree.get? (loc ++ names) = some (.file bytes)

section Scans

variable {base : Workspace} {fixed : Location → Prop} {folder : Path} {loc up : Location}
  (hbase : base.IsScannable folder loc) (hlocate : base.locate (folder.descend up) = .ok (loc ++ up))
  {endings : List String}

include hbase hlocate

theorem completes_filesEnding {ending : String} (hending : isPatternEnding ending = false) :
    (filesEnding (folder.descend up) ending).Completes (base.Resembles fixed)
      fun files => ∀ file ∈ files, IsFileIn base folder loc file := by
  refine (completes_entriesEnding hbase.sound hlocate hending).bind fun found hfound => completes_pure ?_
  intro file hfile
  obtain ⟨⟨_, entry⟩, hmem, rfl⟩ := mem_map.1 hfile
  obtain ⟨hmem, hentry⟩ := mem_filter.1 hmem
  obtain ⟨names, bytes, rfl, hget⟩ := hfound.file _ entry hmem hentry
  refine ⟨up ++ names, bytes, folder.descend_descend up names, ?_⟩
  rwa [← append_assoc]

theorem completes_filesEndingAny (hendings : ∀ ending ∈ endings, isPatternEnding ending = false) :
    (filesEndingAny (folder.descend up) endings).Completes (base.Resembles fixed)
      fun files => ∀ file ∈ files, IsFileIn base folder loc file := by
  induction endings with
  | nil =>
    apply completes_pure
    simp
  | cons ending endings ih =>
    rw [forall_mem_cons] at hendings
    refine (completes_filesEnding hbase hlocate hendings.1).bind fun files hfiles => ?_
    refine (ih hendings.2).bind fun others hothers => completes_pure ?_
    intro file hfile
    rcases mem_append.1 hfile with hfile | hfile
    · exact hfiles file hfile
    · exact hothers file hfile

omit hlocate in
theorem completes_scanEach {α : Type} (hplain : folder.IsPlain) (scan : FileScan α) {files : List Path}
    (hfiles : ∀ file ∈ files, IsFileIn base folder loc file) :
    (scanEach scan files).Completes (base.Resembles fixed) := by
  induction files with
  | nil => exact completes_pure trivial
  | cons file files ih =>
    rw [forall_mem_cons] at hfiles
    obtain ⟨⟨names, bytes, rfl, hget⟩, hfiles⟩ := hfiles
    -- the scan goes by the written path, which leads to the same file
    have hnames : ∀ name ∈ names, IsFileName name :=
      fun name hname => hbase.sound.isFileName hget (mem_append_right _ hname)
    have hread : (scanFile scan (folder.descend names).render).Completes (base.Resembles fixed) := by
      unfold scanFile
      rw [Path.ofString_render (hplain.descend hnames)]
      refine (completes_readLenient (hbase.locate (by simp [hget])) hget).bind fun text _ => ?_
      exact completes_pure trivial
    exact hread.bind fun _ _ => (ih hfiles).bind fun _ _ => completes_pure trivial

theorem completes_scanFiles {α : Type} (hplain : folder.IsPlain)
    (hendings : ∀ ending ∈ endings, isPatternEnding ending = false) (scan : FileScan α) :
    (scanFiles (folder.descend up) endings scan).Completes (base.Resembles fixed) :=
  (completes_filesEndingAny hbase hlocate hendings).bind fun _ hfiles => completes_scanEach hbase hplain scan hfiles

end Scans

end StudioMigration
