import Mathlib.Data.List.TakeWhile
import StudioMigration.Analysis.Function
import StudioMigration.Proofs.Analysis.Arrival
import StudioMigration.Proofs.Text.Basic

/-!
# Lines on findings

A line on a finding ends with the file that it was found in. The file can be told from the line, although names of
files and directories may look like the end of another line.

* `eq_of_marked` is why: what is catalogued does not have the words that stand before the file, and a library has the
  name of the directory of its file (`folderOf_suffix`).
* `Telling` says that lines differ from file to file. It holds of the lines of all checks that list findings
  (`telling_packageLines`, `telling_dependencyLines`, `telling_declarationLines`, `telling_useLines`).
-/

namespace StudioMigration

open List Catalogue

variable {file : String} {catalogue : Catalogue}

variable {α : Type} {entry : String × String} {scan : FileScan α}

/-! ## Directories of files -/

theorem dropWhile_prefix_dropWhile {text longer : List Char} (h : text <+: longer) (p : Char → Bool) :
    text.dropWhile p <+: longer.dropWhile p := by
  obtain ⟨rest, rfl⟩ := h
  rw [dropWhile_append]
  split
  · rename_i hempty
    rw [isEmpty_iff.1 hempty]
    exact nil_prefix
  · exact prefix_append _ _

theorem takeWhile_prefix_takeWhile {text longer : List Char} (h : text <+: longer) (p : Char → Bool) :
    text.takeWhile p <+: longer.takeWhile p := by
  obtain ⟨rest, rfl⟩ := h
  rw [takeWhile_append]
  split
  · exact ( takeWhile_prefix p).trans (prefix_append _ _)
  · exact prefix_refl _

/-- The name of the directory, from its last character to its first. -/
theorem toList_folderOf (file : String) : (folderOf file).toList =
    (((file.toList.reverse.dropWhile (· != '/')).dropWhile (· == '/')).takeWhile (· != '/')).reverse := by
  unfold folderOf baseName directoryName
  generalize file.toList.reverse.dropWhile (· != '/') = rest
  dsimp only
  rw [String.toList_ofList, all_reverse]
  split
  · -- there is nothing but slashes
    rename_i hall
    have hnone : rest.dropWhile (· == '/') = [] := dropWhile_eq_nil_iff.2 (all_eq_true.1 hall)
    rw [hnone]
    cases rest with
    | nil => rfl
    | cons c rest =>
      rw [all_cons, Bool.and_eq_true, beq_iff_eq] at hall
      simp [hall.1]
  · rw [String.toList_ofList, Text.trimEndWhere, reverse_reverse, reverse_reverse]

/-- More in front of a file can only make the name of its directory longer. -/
theorem folderOf_suffix {longer : String} (h : file.toList <:+ longer.toList) :
    (folderOf file).toList <:+ (folderOf longer).toList := by
  rw [toList_folderOf, toList_folderOf, reverse_suffix]
  apply takeWhile_prefix_takeWhile
  apply dropWhile_prefix_dropWhile
  apply dropWhile_prefix_dropWhile
  exact reverse_prefix.2 h

/-! ## The file at the end of a line -/

/-- Texts in which the words before a file cannot start. -/
def NoMark (text : List Char) : Prop := ¬['(', 'F'] <:+: text

theorem NoMark.append {text rest : List Char} (h : NoMark rest) (htext : '(' ∉ text) : NoMark (text ++ rest) :=
  fun hinfix => h (Text.infix_of_infix_append_of_head rfl htext hinfix)

theorem eq_of_marked {head tail head' tail' words file file' : List Char}
    (h : head ++ (tail ++ (' ' :: '(' :: 'F' :: (words ++ file))) =
      head' ++ (tail' ++ (' ' :: '(' :: 'F' :: (words ++ file'))))
    (htail : NoMark tail) (hlength : file.length ≤ file'.length)
    (hhead : file <:+ file' → head.length ≤ head'.length) : file = file' := by
  have hsuffix : file <:+ head ++ (tail ++ (' ' :: '(' :: 'F' :: (words ++ file))) :=
    ⟨head ++ (tail ++ (' ' :: '(' :: 'F' :: words)), by simp⟩
  have hsuffix' : file' <:+ head ++ (tail ++ (' ' :: '(' :: 'F' :: (words ++ file))) :=
    ⟨head' ++ (tail' ++ (' ' :: '(' :: 'F' :: words)), by rw [h]; simp⟩
  have hends := suffix_of_suffix_length_le hsuffix hsuffix' hlength
  -- the heads may be different, but the one with the shorter file is not the longer one
  obtain ⟨more, rfl⟩ : head <+: head' :=
    prefix_of_prefix_length_le (prefix_append head _) (h ▸ prefix_append head' _) (hhead hends)
  obtain ⟨extra, rfl⟩ := hends
  have hmarks : tail ++ ' ' :: '(' :: 'F' :: words = (more ++ tail' ++ [' ']) ++ '(' :: 'F' :: (words ++ extra) := by
    have hlines : head ++ ((tail ++ ' ' :: '(' :: 'F' :: words) ++ file) =
        head ++ (((more ++ tail' ++ [' ']) ++ '(' :: 'F' :: (words ++ extra)) ++ file) := by
      simpa using h
    exact append_cancel_right (append_cancel_left hlines)
  rcases append_eq_append_iff.1 hmarks with ⟨between, -, hmark⟩ | ⟨between, rfl, hmark⟩
  · -- the words start behind the tail, and there is no room in front of them for more than the blank
    cases between with
    | nil => simp at hmark
    | cons c between =>
      have hsize := congrArg List.length hmark
      simp only [length_cons, length_append] at hsize
      obtain rfl := length_eq_zero_iff.1 (show extra.length = 0 by omega)
      rfl
  · exfalso
    match between, hmark with
    | [], hmark => simp at hmark
    | [_], hmark => simp at hmark
    | _ :: _ :: between, hmark =>
      simp only [cons_append, List.cons.injEq] at hmark
      obtain ⟨rfl, rfl, -⟩ := hmark
      exact htail ⟨more ++ tail' ++ [' '], between, by simp⟩

/-- A line from which its file can be told. What stands in front is of a length that depends on the file. -/
def Tells (size : String → Nat) (file : String) (note : Note) : Prop :=
  ∃ head tail, note.text.toList = head ++ tail ++ " (Found in: ".toList ++ file.toList ++ [')'] ∧
    head.length = size file ∧ NoMark tail

theorem Tells.file_eq {size : String → Nat}
    (hsize : ∀ file longer : String, file.toList <:+ longer.toList → size file ≤ size longer) {file' : String}
    {note : Note} (h : Tells size file note) (h' : Tells size file' note) : file = file' := by
  obtain ⟨head, tail, htext, hhead, htail⟩ := h
  obtain ⟨head', tail', htext', hhead', htail'⟩ := h'
  have heq := append_cancel_right (htext.symm.trans htext')
  simp only [append_assoc] at heq
  rw [← String.toList_inj]
  rcases Nat.le_total file.toList.length file'.toList.length with hle | hle
  · apply eq_of_marked heq htail hle
    intro hends
    rw [hhead, hhead']
    exact hsize file file' hends
  · symm
    apply eq_of_marked heq.symm htail' hle
    intro hends
    rw [hhead, hhead']
    exact hsize file' file hends

/-! ## What is catalogued -/

/-- Catalogues whose entries do not have the words before a file. -/
def Catalogue.Unmarked (catalogue : Catalogue) : Prop :=
  ∀ entry ∈ catalogue, '(' ∉ Text.lower entry.1.toList ∧ NoMark entry.2.toList

theorem unmarked_cons {names reason : List Char} {rows : List (String × String)}
    (h : (∀ name ∈ Text.variantsOf names, '(' ∉ Text.lower name) ∧ Text.hasInfix ['(', 'F'] reason = false)
    (hrest : Unmarked (.ofRows rows)) : Unmarked (.ofRows ((String.ofList names, String.ofList reason) :: rows)) := by
  rw [Unmarked, ofRows] at hrest ⊢
  rw [flatMap_cons, forall_mem_append]
  refine ⟨fun entry hentry => ?_, hrest⟩
  obtain ⟨_, hvariant, rfl⟩ := mem_map.1 hentry
  obtain ⟨name, hname, rfl⟩ := mem_map.1 hvariant
  refine ⟨?_, fun hinfix => ?_⟩
  · rw [String.toList_ofList] at hname ⊢
    exact h.1 name hname
  · rw [String.toList_ofList] at hinfix
    rw [Text.hasInfix_iff.2 hinfix] at h
    cases h.2

set_option maxRecDepth 4096 in
theorem unmarked_catalogues : Unmarked obsoleteLibraries ∧ Unmarked manualLibraries ∧ Unmarked obsoleteBlocks ∧
    Unmarked obsoleteFunctions := by
  refine ⟨?_, ?_, ?_, ?_⟩
  -- row by row, since the letters of a literal are at hand but long strings are slow to evaluate
  all_goals
    repeat apply unmarked_cons (by decide +kernel)
    simp [Unmarked, ofRows]

theorem mem_lower_of_mem {text : List Char} (h : '(' ∈ text) : '(' ∈ Text.lower text := by
  have hfrom : ∀ before, '(' ∈ Text.lowerFrom before text := by
    induction text with
    | nil => cases h
    | cons c text ih =>
      intro before
      unfold Text.lowerFrom
      rw [mem_append]
      rcases mem_cons.1 h with rfl | h
      · exact .inl (mem_singleton.2 rfl)
      · exact .inr (ih h _)
  exact hfrom []

theorem tells_finding (h : Unmarked catalogue) (hentry : entry ∈ catalogue) (file : String) :
    Tells (fun _ => 0) file (Finding.note ⟨entry.1, entry.2, file⟩) := by
  obtain ⟨hname, hreason⟩ := h entry hentry
  have hname' : '(' ∉ "- ".toList ++ entry.1.toList ++ ": ".toList := by
    have := mt mem_lower_of_mem hname
    simpa
  refine ⟨[], "- ".toList ++ entry.1.toList ++ ": ".toList ++ entry.2.toList, ?_, rfl, hreason.append hname'⟩
  simp [Finding.note, toString, String.toList_append]

theorem tells_dependency (h : Unmarked catalogue) (hentry : entry ∈ catalogue) {name : List Char}
    (hname : Text.lower name = Text.lower entry.1.toList) (file : String) :
    Tells (fun file => (folderOf file).toList.length + 2) file
      (DependencyFinding.toFinding ⟨folderOf file, String.ofList name, entry.2, file⟩).note := by
  obtain ⟨hentry, hreason⟩ := h entry hentry
  have hname' : '(' ∉ ": Dependency on ".toList ++ name ++ ": ".toList := by
    rw [← hname] at hentry
    have := mt mem_lower_of_mem hentry
    simpa
  refine ⟨"- ".toList ++ (folderOf file).toList, ": Dependency on ".toList ++ name ++ ": ".toList ++ entry.2.toList,
    ?_, ?_, hreason.append hname'⟩
  · simp [Finding.note, DependencyFinding.toFinding, toString, String.toList_append]
  · simp only [length_append]
    exact Nat.add_comm 2 _

/-! ## The lines of a check -/

variable (ws : Workspace)

/-- What is found in a file, or nothing if it cannot be read. -/
def Workspace.findings (scan : FileScan α) (file : Path) : List α :=
  (ws.foundIn scan file).toOption.getD []

theorem findings_eq_of_render_eq (scan : FileScan α) {file other : Path}
    (h : file.render = other.render) : ws.findings scan file = ws.findings scan other := by
  unfold Workspace.findings Workspace.foundIn
  rw [h]

theorem exists_of_mem_findings {ws : Workspace} {file : Path} {x : α} (h : x ∈ ws.findings scan file) :
    ∃ text, x ∈ scan file.render text := by
  unfold Workspace.findings Workspace.foundIn at h
  cases hread : ws.readLenient (Path.ofString file.render) with
  | error fault => simp [hread, Except.map, Except.toOption] at h
  | ok text => exact ⟨text, by simpa [hread, Except.map, Except.toOption] using h⟩

/-- Lines for files that are the same for no two files, unless these are written in the same way. -/
structure Telling (lines : Path → List Note) : Prop where
  same : ∀ {file other : Path}, file.render = other.render → lines file = lines other
  apart : ∀ {file other : Path} {note : Note}, note ∈ lines file → note ∈ lines other → file.render = other.render

def Workspace.lines (scan : FileScan α) (note : α → Note) (file : Path) : List Note :=
  (ws.findings scan file).map note

theorem telling_of_tells (ws : Workspace) {size : String → Nat}
    (hsize : ∀ file longer : String, file.toList <:+ longer.toList → size file ≤ size longer) {note : α → Note}
    (h : ∀ file text, ∀ x ∈ scan file text, Tells size file (note x)) : Telling (ws.lines scan note) where
  same heq := congrArg (List.map note) (findings_eq_of_render_eq ws scan heq)
  apart hfile hother := by
    obtain ⟨x, hx, rfl⟩ := mem_map.1 hfile
    obtain ⟨y, hy, heq⟩ := mem_map.1 hother
    obtain ⟨text, hx⟩ := exists_of_mem_findings hx
    obtain ⟨text', hy⟩ := exists_of_mem_findings hy
    exact (h _ _ x hx).file_eq hsize (heq ▸ h _ _ y hy)

theorem tells_of_mem_findingsFor (h : Unmarked catalogue) {names : List (List Char)} {x : Finding}
    (hx : x ∈ findingsFor catalogue file names) : Tells (fun _ => 0) file x.note := by
  obtain ⟨name, -, hx⟩ := mem_flatMap.1 hx
  obtain ⟨entry, hentry, rfl⟩ := mem_map.1 hx
  exact tells_finding h (mem_filter.1 hentry).1 file

def packageLines (catalogue : Catalogue) : Path → List Note :=
  ws.lines (scanPackage catalogue) Finding.note

theorem telling_packageLines (h : Unmarked catalogue) : Telling (packageLines ws catalogue) :=
  telling_of_tells ws (fun _ _ _ => Nat.le_refl 0) fun _ _ _ hx => tells_of_mem_findingsFor h hx

def dependencyLines : Path → List Note :=
  ws.lines (scanDependencies obsoleteLibraries) fun finding => finding.toFinding.note

theorem telling_dependencyLines : Telling (dependencyLines ws) := by
  have hsize : ∀ file longer : String, file.toList <:+ longer.toList →
      (folderOf file).toList.length + 2 ≤ (folderOf longer).toList.length + 2 :=
    fun _ _ hends => Nat.add_le_add_right (folderOf_suffix hends).length_le 2
  apply telling_of_tells ws hsize
  intro file text x hx
  obtain ⟨name, -, hx⟩ := mem_flatMap.1 hx
  obtain ⟨entry, hentry, rfl⟩ := mem_map.1 hx
  obtain ⟨hentry, hname⟩ := mem_filter.1 hentry
  exact tells_dependency unmarked_catalogues.1 hentry (beq_iff_eq.1 hname) file

/-- The lines on the declarations of function blocks in a file. -/
def declarationLines : Path → List Note :=
  ws.lines (scanDeclarations obsoleteBlocks) Finding.note

theorem telling_declarationLines : Telling (declarationLines ws) :=
  telling_of_tells ws (fun _ _ _ => Nat.le_refl 0) fun _ _ _ hx =>
    tells_of_mem_findingsFor unmarked_catalogues.2.2.1 hx

def useLines : Path → List Note :=
  ws.lines (scanUses obsoleteFunctions) Finding.note

theorem telling_useLines : Telling (useLines ws) := by
  apply telling_of_tells ws fun _ _ _ => Nat.le_refl 0
  intro file text x hx
  obtain ⟨entry, hentry, rfl⟩ := Option.map_eq_some_iff.1 (Option.mem_toList.1 hx)
  exact tells_finding unmarked_catalogues.2.2.2 (mem_of_find?_eq_some hentry) file

end StudioMigration
