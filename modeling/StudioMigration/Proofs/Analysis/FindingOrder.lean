import Mathlib.Data.List.Forall2
import StudioMigration.Proofs.Analysis.FindingLine
import StudioMigration.Proofs.Pattern.WordMatch

/-!
# The order of findings in lists

Findings about libraries and functions are listed as they come in, so that the order in which workers are done may
show in the report.

* `interchangeable_iff` says when it does not show in a single list: the lines of any two files may change places.
  Where the file can be told from each line, no more than one file may then have lines (`interchangeable_iff_oneFile`).
* `Listing.check` is a check with several such lists, and `Listing.sameReport_check_iff` says when its report is always
  the same.
* `findingReports_same_iff` is that for the checks of libraries and of functions.
-/

namespace StudioMigration

open List Inspection Catalogue

variable {files : List Path} {shown shown' : List (List Note)}

variable {α : Type} {ws : Workspace} {endings : List String} {start : Path} {scanner : Scanner}

/-! ## What is found in each file -/

theorem Workspace.Reads.unique {files' : List Path} (h : ws.Reads start endings files)
    (h' : ws.Reads start endings files') : files = files' := by
  have heq := h.found.symm.trans h'.found
  simpa using heq

theorem foundAmong_eq (h : ∀ file ∈ files, ∃ text, ws.readLenient (Path.ofString file.render) = .ok text)
    (scan : FileScan α) : ws.foundAmong scan files = .ok (files.flatMap (ws.findings scan)) := by
  induction files with
  | nil => rfl
  | cons file files ih =>
    rw [forall_mem_cons] at h
    obtain ⟨⟨text, htext⟩, hfiles⟩ := h
    have hfound : ws.foundIn scan file = .ok (ws.findings scan file) := by
      simp [Workspace.findings, Workspace.foundIn, htext, Except.map, Except.toOption]
    rw [Workspace.foundAmong, hfound, ih hfiles]
    rfl

theorem Workspace.Reads.report_arranged (h : ws.Reads start endings files) {arrange : List Path → List Path}
    (harrange : ∀ files, (arrange files).Perm files) (scan : FileScan α) :
    (arranged start arrange α endings scan).report ws = ([], .ok ((arrange files).flatMap (ws.findings scan))) := by
  refine (report_bind_ok h.found _).trans ?_
  rw [report_scanEach, foundAmong_eq fun file hfile => h.readable file ((harrange files).subset hfile)]
  rfl

/-- If nothing but the order of the files is open, a run that ends well lists what is found in each file. -/
theorem Arrival.Runs.exists_order {scan : FileScan α} {merged : List α} (h : Runs ws scan Eq files (.ok merged)) :
    ∃ order : List Path, order.Perm files ∧ merged = order.flatMap (ws.findings scan) := by
  obtain ⟨done, rfl, hfiles, hlisted⟩ := h.exists_of_ok
  refine ⟨done.map (·.1), hfiles, ?_⟩
  rw [flatMap_map]
  apply flatMap_congr
  intro x hx
  obtain ⟨found, hfound, rfl⟩ := hlisted x hx
  simp [Workspace.findings, hfound, Except.toOption]

/-! ## Orders that do not show -/

/-- Whether the lines of any two of some files may change places. -/
def Interchangeable (lines : Path → List Note) (files : List Path) : Prop :=
  ∀ file ∈ files, ∀ other ∈ files, lines file ++ lines other = lines other ++ lines file

theorem Interchangeable.flatMap_eq {lines : Path → List Note} {order : List Path} (hperm : order.Perm files)
    (h : Interchangeable lines files) : order.flatMap lines = files.flatMap lines := by
  induction hperm with
  | nil => rfl
  | cons file _ ih =>
    rw [flatMap_cons, flatMap_cons, ih]
    intro first hfirst second hsecond
    exact h first (mem_cons_of_mem _ hfirst) second (mem_cons_of_mem _ hsecond)
  | swap file other rest =>
    simp only [flatMap_cons, ← append_assoc]
    rw [h file (by simp) other (by simp)]
  | trans _ hlast ih ih' =>
    refine (ih ?_).trans (ih' h)
    intro first hfirst second hsecond
    exact h first (hlast.subset hfirst) second (hlast.subset hsecond)

/-- The order of the files does not show if and only if the lines of any two of them may change places. -/
theorem interchangeable_iff {lines : Path → List Note} :
    Interchangeable lines files ↔
      ∀ order : List Path, order.Perm files → order.flatMap lines = files.flatMap lines := by
  refine ⟨fun h order hperm => h.flatMap_eq hperm, fun h file hfile other hother => ?_⟩
  by_cases hsame : other = file
  · rw [hsame]
  · -- both files may come first, in either order
    obtain ⟨rest, hrest⟩ : ∃ rest, (file :: other :: rest).Perm files := by
      have hother' : other ∈ files.erase file := (mem_erase_of_ne hsame).2 hother
      refine ⟨(files.erase file).erase other, ?_⟩
      exact ((perm_cons_erase hother').symm.cons file).trans (perm_cons_erase hfile).symm
    have heq := (h _ hrest).trans (h _ ((List.Perm.swap file other rest).trans hrest)).symm
    simp only [flatMap_cons, ← append_assoc] at heq
    exact append_cancel_right heq

/-- Whether no two of some files have lines, unless they are written in the same way. -/
def OneFile (lines : Path → List Note) (files : List Path) : Prop :=
  ∀ file ∈ files, ∀ other ∈ files, lines file ≠ [] → lines other ≠ [] → file.render = other.render

theorem interchangeable_iff_oneFile {lines : Path → List Note} (hlines : Telling lines) :
    Interchangeable lines files ↔ OneFile lines files := by
  constructor
  · intro h file hfile other hother hne hne'
    obtain ⟨note, rest, hnotes⟩ := exists_cons_of_ne_nil hne
    obtain ⟨note', rest', hnotes'⟩ := exists_cons_of_ne_nil hne'
    have hswap := h file hfile other hother
    rw [hnotes, hnotes', cons_append, cons_append, cons.injEq] at hswap
    refine hlines.apart (hnotes ▸ mem_cons_self) ?_
    rw [hswap.1, hnotes']
    exact mem_cons_self
  · intro h file hfile other hother
    by_cases hfile' : lines file = []
    · simp [hfile']
    · by_cases hother' : lines other = []
      · simp [hother']
      · rw [hlines.same (h file hfile other hother hfile' hother')]

/-! ## Several lists -/

/-- Scanners that put together what is found in the files as it comes in. -/
abbrev Scanner.Merges (scanner : Scanner) (ws : Workspace) (start : Path) : Prop :=
  scanner.Collects ws start fun _ => Eq

/-- Whether the notes of a check are the same in whatever order the results come in. -/
def SameReport (check : Scanner → Inspection Unit) (ws : Workspace) (start : Path) : Prop :=
  ∀ scanner scanner' : Scanner, scanner.Merges ws start → scanner'.Merges ws start →
    ((check scanner).report ws).1 = ((check scanner').report ws).1

/-- Whether the notes of a check are the same up to their order. -/
def SameNotes (check : Scanner → Inspection Unit) (ws : Workspace) (start : Path) : Prop :=
  ∀ scanner scanner' : Scanner, scanner.Merges ws start → scanner'.Merges ws start →
    ((check scanner).report ws).1.Perm ((check scanner').report ws).1

/-- A scan whose findings are listed, with the line on each of them. -/
structure Listing where
  {Found : Type}
  endings : List String
  scan : FileScan Found
  note : Found → Note

namespace Listing

def lines (listing : Listing) (ws : Workspace) : Path → List Note := ws.lines listing.scan listing.note

/-- Makes the scans of some lists and goes on with the lines in each of them. -/
def runAll (scanner : Scanner) : List Listing → (List (List Note) → Inspection Unit) → Inspection Unit
  | [], rest => rest []
  | listing :: listings, rest => do
    let found ← scanner _ listing.endings listing.scan
    runAll scanner listings fun shown => rest (found.map listing.note :: shown)

def check (heading : Note) (listings : List Listing) (rest : List (List Note) → Inspection Unit)
    (scanner : Scanner) : Inspection Unit := do
  say heading
  runAll scanner listings rest

section Files

variable {placed : List (Listing × List Path)} (hreads : ∀ x ∈ placed, ws.Reads start x.1.endings x.2)

include hreads

/-- Where the files of all lists can be read, each list has the lines of its files in the order in which they come
in. -/
theorem report_runAll (h : scanner.Merges ws start) (rest : List (List Note) → Inspection Unit) : ∃ shown,
    List.Forall₂ (fun x lines => ∃ order : List Path, order.Perm x.2 ∧ lines = order.flatMap (x.1.lines ws))
      placed shown ∧
    (runAll scanner (placed.map (·.1)) rest).report ws = (rest shown).report ws := by
  induction placed generalizing rest with
  | nil => exact ⟨[], .nil, rfl⟩
  | cons x placed ih =>
    rw [forall_mem_cons] at hreads
    obtain ⟨_, hreport, hruns⟩ := h.report_of_reads hreads.1 x.1.scan
    obtain ⟨order, hperm, rfl⟩ := hruns.exists_order
    rw [map_cons, runAll, report_bind_ok hreport, map_flatMap]
    obtain ⟨shown, hshown, hrest⟩ := ih hreads.2 fun shown => rest (order.flatMap (x.1.lines ws) :: shown)
    exact ⟨_, .cons ⟨order, hperm, rfl⟩ hshown, hrest⟩

theorem report_runAll_arranged {arrange : List Path → List Path} (harrange : ∀ files, (arrange files).Perm files)
    (rest : List (List Note) → Inspection Unit) :
    (runAll (arranged start arrange) (placed.map (·.1)) rest).report ws =
      (rest (placed.map fun x => (arrange x.2).flatMap (x.1.lines ws))).report ws := by
  induction placed generalizing rest with
  | nil => rfl
  | cons x placed ih =>
    rw [forall_mem_cons] at hreads
    rw [map_cons, runAll, report_bind_ok (hreads.1.report_arranged harrange _), map_flatMap]
    exact ih hreads.2 fun shown => rest ((arrange x.2).flatMap (x.1.lines ws) :: shown)

end Files

/-- Where some file cannot be read, nothing is noted. -/
theorem notes_runAll_of_not_reads (h : scanner.Merges ws start) {listings : List Listing}
    (hnone : ∃ listing ∈ listings, ∀ files, ¬ws.Reads start listing.endings files)
    (rest : List (List Note) → Inspection Unit) : ((runAll scanner listings rest).report ws).1 = [] := by
  induction listings generalizing rest with
  | nil => simp at hnone
  | cons listing listings ih =>
    rw [runAll]
    by_cases hfirst : ∃ files, ws.Reads start listing.endings files
    · obtain ⟨files, hfiles⟩ := hfirst
      obtain ⟨found, hfound, -⟩ := h.report_of_reads hfiles listing.scan
      obtain ⟨other, hother, hnone⟩ := hnone
      obtain rfl | hother := mem_cons.1 hother
      · exact absurd hfiles (hnone files)
      · rw [report_bind_ok hfound]
        exact ih ⟨other, hother, hnone⟩ _
    · obtain ⟨fault, hfault⟩ := h.report_of_not_reads (not_exists.1 hfirst) listing.scan
      rw [report_bind_error hfault]

/-- Either the files of all lists can be read, or there is a list with a file that cannot. -/
theorem exists_placed_or_not_reads (ws : Workspace) (start : Path) (listings : List Listing) :
    (∃ placed : List (Listing × List Path), placed.map (·.1) = listings ∧
      ∀ x ∈ placed, ws.Reads start x.1.endings x.2) ∨
    ∃ listing ∈ listings, ∀ files, ¬ws.Reads start listing.endings files := by
  induction listings with
  | nil => exact .inl ⟨[], rfl, forall_mem_nil _⟩
  | cons listing listings ih =>
    by_cases hfirst : ∃ files, ws.Reads start listing.endings files
    · obtain ⟨files, hfiles⟩ := hfirst
      obtain ⟨placed, rfl, hplaced⟩ | ⟨other, hother, hnone⟩ := ih
      · exact .inl ⟨(listing, files) :: placed, rfl, forall_mem_cons.2 ⟨hfiles, hplaced⟩⟩
      · exact .inr ⟨other, mem_cons_of_mem _ hother, hnone⟩
    · exact .inr ⟨listing, mem_cons_self, not_exists.1 hfirst⟩

/-- Ways to go on with a number of lists that show all lines, and in each list in the given order. -/
structure Shows (ws : Workspace) (count : Nat) (rest : List (List Note) → Inspection Unit) : Prop where
  perm : ∀ {shown shown'}, shown.length = count → List.Forall₂ List.Perm shown shown' →
    ((rest shown).report ws).1.Perm ((rest shown').report ws).1
  inj : ∀ {shown shown'}, shown.length = count → List.Forall₂ List.Perm shown shown' →
    ((rest shown).report ws).1 = ((rest shown').report ws).1 → shown = shown'

section Reports

variable {heading : Note} {listings : List Listing} {rest : List (List Note) → Inspection Unit}
  (h : Shows ws listings.length rest)

include h

/-- Two reports of a check never differ in more than the order of the notes. -/
theorem sameNotes_check : SameNotes (check heading listings rest) ws start := by
  intro scanner scanner' hscanner hscanner'
  simp only [check, report_say_bind, perm_cons]
  obtain ⟨placed, rfl, hreads⟩ | hnone := exists_placed_or_not_reads ws start listings
  · rw [length_map] at h
    have hturn : ∀ scanner : Scanner, scanner.Merges ws start →
        ((runAll scanner (placed.map (·.1)) rest).report ws).1.Perm
          ((rest (placed.map fun x => x.2.flatMap (x.1.lines ws))).report ws).1 := by
      intro scanner hscanner
      obtain ⟨shown, hshown, hreport⟩ := report_runAll hreads hscanner rest
      rw [hreport]
      apply h.perm hshown.length_eq.symm
      rw [forall₂_map_right_iff]
      refine hshown.flip.imp fun lines x horder => ?_
      obtain ⟨order, hperm, rfl⟩ := horder
      exact hperm.flatMap_right _
    exact (hturn scanner hscanner).trans (hturn scanner' hscanner').symm
  · rw [notes_runAll_of_not_reads hscanner hnone, notes_runAll_of_not_reads hscanner' hnone]

/-- The report of a check is always the same if and only if, where all files can be read, no more than one file has
lines in each list. -/
theorem sameReport_check_iff (htelling : ∀ listing ∈ listings, Telling (listing.lines ws)) :
    SameReport (check heading listings rest) ws start ↔
      ((∀ listing ∈ listings, ∃ files, ws.Reads start listing.endings files) →
        ∀ listing ∈ listings, ∀ files, ws.Reads start listing.endings files → OneFile (listing.lines ws) files) := by
  simp only [SameReport, check, report_say_bind, cons.injEq, true_and]
  obtain ⟨placed, rfl, hreads⟩ | ⟨listing, hlisting, hnone⟩ := exists_placed_or_not_reads ws start listings
  · have hfiles : ∀ listing ∈ placed.map (·.1), ∃ files, ws.Reads start listing.endings files := by
      intro listing hlisting
      obtain ⟨x, hx, rfl⟩ := mem_map.1 hlisting
      exact ⟨x.2, hreads x hx⟩
    rw [length_map] at h
    constructor
    · intro hsame _ listing hlisting files hread
      obtain ⟨x, hx, rfl⟩ := mem_map.1 hlisting
      obtain rfl := hread.unique (hreads x hx)
      rw [← interchangeable_iff_oneFile (htelling x.1 hlisting), interchangeable_iff]
      intro order hperm
      -- taking just these files in that order is one way to collect the results
      have harrange : ∀ files, (if files = x.2 then order else files).Perm files := by
        intro files
        split
        · rename_i heq
          exact heq ▸ hperm
        · exact List.Perm.refl files
      have hnotes := hsame _ _ (collects_arranged ws start harrange fun _ _ => rfl)
        (collects_arranged ws start (fun files => List.Perm.refl files) fun _ _ => rfl)
      rw [report_runAll_arranged hreads harrange,
        report_runAll_arranged hreads fun files => List.Perm.refl files] at hnotes
      have hlists := h.inj (length_map _) ?_ hnotes
      · have hlines := map_inj_left.1 hlists x hx
        rwa [if_pos rfl] at hlines
      · rw [forall₂_map_left_iff, forall₂_map_right_iff, forall₂_same]
        exact fun other _ => (harrange other.2).flatMap_right _
    · intro hall
      have hone : ∀ x ∈ placed, Interchangeable (x.1.lines ws) x.2 := by
        intro x hx
        have hmem : x.1 ∈ placed.map (·.1) := mem_map_of_mem hx
        rw [interchangeable_iff_oneFile (htelling x.1 hmem)]
        exact hall hfiles x.1 hmem x.2 (hreads x hx)
      have hturn : ∀ scanner : Scanner, scanner.Merges ws start →
          (runAll scanner (placed.map (·.1)) rest).report ws =
            (rest (placed.map fun x => x.2.flatMap (x.1.lines ws))).report ws := by
        intro scanner hscanner
        obtain ⟨shown, hshown, hreport⟩ := report_runAll hreads hscanner rest
        have heq : shown = placed.map fun x => x.2.flatMap (x.1.lines ws) := by
          clear hreport hall hfiles hreads htelling h
          induction hshown with
          | nil => rfl
          | cons horder _ ih =>
            rw [forall_mem_cons] at hone
            obtain ⟨order, hperm, rfl⟩ := horder
            rw [map_cons, ← ih hone.2, hone.1.flatMap_eq hperm]
        rw [hreport, heq]
      intro scanner scanner' hscanner hscanner'
      rw [hturn scanner hscanner, hturn scanner' hscanner']
  · constructor
    · intro _ hfiles
      obtain ⟨files, hread⟩ := hfiles listing hlisting
      exact absurd hread (hnone files)
    · intro _ scanner scanner' hscanner hscanner'
      rw [notes_runAll_of_not_reads hscanner ⟨listing, hlisting, hnone⟩,
        notes_runAll_of_not_reads hscanner' ⟨listing, hlisting, hnone⟩]

end Reports

end Listing

/-! ## Headed lists -/

section Headed

variable {verbose : Bool} {heading remark : Note} {lines lines' : List Note} (hperm : lines.Perm lines')

include hperm

theorem headed_perm : (headed verbose heading remark lines).Perm (headed verbose heading remark lines') := by
  unfold headed
  rw [hperm.isEmpty_eq]
  split
  · exact List.Perm.refl _
  · exact hperm.cons heading

/-- A headed list can be told from what follows it, if it is known how long it is. -/
theorem headed_append_inj {rest rest' : List Note}
    (h : headed verbose heading remark lines ++ rest = headed verbose heading remark lines' ++ rest') :
    lines = lines' ∧ rest = rest' := by
  obtain ⟨hheaded, hrest⟩ := append_inj h (headed_perm hperm).length_eq
  refine ⟨?_, hrest⟩
  unfold headed at hheaded
  rw [hperm.isEmpty_eq] at hheaded
  split at hheaded
  · rename_i hempty
    obtain rfl := isEmpty_iff.1 hempty
    exact hperm.eq_nil
  · exact (cons.inj hheaded).2

end Headed

theorem headedLists_perm {verbose : Bool} (heads : List (Note × Note)) (h : List.Forall₂ List.Perm shown shown') :
    (headedLists verbose heads shown).Perm (headedLists verbose heads shown') := by
  induction h generalizing heads with
  | nil => exact List.Perm.refl _
  | cons hlines _ ih =>
    cases heads with
    | nil => exact List.Perm.refl _
    | cons head heads => exact (headed_perm hlines).append (ih heads)

theorem headedLists_append_inj {verbose : Bool} {heads : List (Note × Note)} (hlength : shown.length = heads.length)
    (h : List.Forall₂ List.Perm shown shown') {rest rest' : List Note}
    (hnotes : headedLists verbose heads shown ++ rest = headedLists verbose heads shown' ++ rest') : shown = shown' := by
  induction h generalizing heads with
  | nil => rfl
  | cons hlines _ ih =>
    cases heads with
    | nil => cases hlength
    | cons head heads =>
      simp only [headedLists, append_assoc] at hnotes
      obtain ⟨rfl, hothers⟩ := headed_append_inj hlines hnotes
      rw [ih (Nat.succ.inj hlength) hothers]

/-! ## Libraries -/

/-- No include directive fits into a single character. -/
theorem matchAt_includePattern {cursor : Cursor} (h : cursor.rest.length ≤ 1) :
    includePattern.matchAt cursor = none := by
  have hlong : ¬"#include".toList <+: cursor.rest := by
    intro hprefix
    have hlength := hprefix.length_le
    have height : "#include".toList.length = 8 := by decide
    omega
  show (Pattern.chars "#include".toList).run cursor [] _ = none
  rw [Pattern.run_chars, if_neg hlong]

theorem scanIncludes_eq_nil (catalogue : Catalogue) (file : String) (text : List Char) :
    scanIncludes catalogue file text = [] := by
  unfold scanIncludes
  rw [flatMap_eq_nil_iff]
  intro c _
  have hnone : includePattern.search [c] = none := by
    simp [Pattern.search, Pattern.searchFrom, matchAt_includePattern]
  simp [includesIn, hnone]

theorem lines_scanIncludes (ws : Workspace) (catalogue : Catalogue) (file : Path) :
    ws.lines (scanIncludes catalogue) Finding.note file = [] := by
  unfold Workspace.lines Workspace.findings Workspace.foundIn
  cases ws.readLenient (Path.ofString file.render) with
  | error fault => rfl
  | ok text => exact congrArg (map Finding.note) (scanIncludes_eq_nil catalogue file.render text)

def libraryHeading : Note := .heading "Checking for invalid libraries and dependencies..."

def libraryListings : List Listing :=
  [⟨[".pkg"], scanPackage manualLibraries, Finding.note⟩,
   ⟨[".pkg"], scanPackage obsoleteLibraries, Finding.note⟩,
   ⟨[".lby"], scanDependencies obsoleteLibraries, fun finding => finding.toFinding.note⟩,
   ⟨[".c", ".cpp", ".hpp"], scanIncludes obsoleteLibraries, Finding.note⟩]

/-- Goes on with the lines of these scans. Dependencies and include directives share a list. -/
def sayLibraries (verbose : Bool) : List (List Note) → Inspection Unit
  | [manual, obsolete, dependencies, includes] =>
    sayAll (headedLists verbose libraryHeads [obsolete, manual, dependencies ++ includes])
  | _ => pure ()

theorem inspectLibrariesWith_eq (scanner : Scanner) (verbose : Bool) :
    inspectLibrariesWith scanner verbose =
      Listing.check libraryHeading libraryListings (sayLibraries verbose) scanner := by
  simp only [inspectLibrariesWith, libraryNotes, map_append, map_map]
  rfl

theorem exists_four_of_perm (hlength : shown.length = 4) (h : List.Forall₂ List.Perm shown shown') :
    ∃ a b c d a' b' c' d', shown = [a, b, c, d] ∧
      shown' = [a', b', c', d'] ∧ a.Perm a' ∧ b.Perm b' ∧ c.Perm c' ∧ d.Perm d' := by
  rcases h with _ | ⟨ha, _ | ⟨hb, _ | ⟨hc, _ | ⟨hd, _ | _⟩⟩⟩⟩
  all_goals simp at hlength
  exact ⟨_, _, _, _, _, _, _, _, rfl, rfl, ha, hb, hc, hd⟩

theorem shows_sayLibraries (ws : Workspace) (verbose : Bool) : Listing.Shows ws 4 (sayLibraries verbose) where
  perm hlength hshown := by
    obtain ⟨manual, obsolete, dependencies, includes, manual', obsolete', dependencies', includes', rfl, rfl, hmanual,
      hobsolete, hdependencies, hincludes⟩ := exists_four_of_perm hlength hshown
    simp only [sayLibraries, report_sayAll]
    exact headedLists_perm libraryHeads (.cons hobsolete (.cons hmanual (.cons (hdependencies.append hincludes) .nil)))
  inj hlength hshown heq := by
    obtain ⟨manual, obsolete, dependencies, includes, manual', obsolete', dependencies', includes', rfl, rfl, hmanual,
      hobsolete, hdependencies, hincludes⟩ := exists_four_of_perm hlength hshown
    simp only [sayLibraries, report_sayAll] at heq
    rw [← append_nil (headedLists _ _ _), ← append_nil (headedLists _ _ [obsolete', _, _])] at heq
    have hlength : [obsolete, manual, dependencies ++ includes].length = libraryHeads.length := rfl
    have hlists := headedLists_append_inj hlength
      (.cons hobsolete (.cons hmanual (.cons (hdependencies.append hincludes) .nil))) heq
    simp only [cons.injEq, and_true] at hlists
    obtain ⟨rfl, rfl, hlast⟩ := hlists
    obtain ⟨rfl, rfl⟩ := append_inj hlast hdependencies.length_eq
    rfl

theorem telling_libraryListings (ws : Workspace) : ∀ listing ∈ libraryListings, Telling (listing.lines ws) := by
  simp only [libraryListings, forall_mem_cons]
  refine ⟨telling_packageLines ws unmarked_catalogues.2.1, telling_packageLines ws unmarked_catalogues.1,
    telling_dependencyLines ws, ⟨fun _ => ?_, fun hnote => ?_⟩, forall_mem_nil _⟩
  · exact (lines_scanIncludes ws _ _).trans (lines_scanIncludes ws _ _).symm
  · rw [Listing.lines, lines_scanIncludes] at hnote
    cases hnote

theorem inspectLibraries_same_iff (ws : Workspace) (logical : Path) (verbose : Bool) :
    SameNotes (inspectLibrariesWith · verbose) ws logical ∧
    (SameReport (inspectLibrariesWith · verbose) ws logical ↔ ∀ packages libraries sources,
      ws.Reads logical [".pkg"] packages → ws.Reads logical [".lby"] libraries →
      ws.Reads logical [".c", ".cpp", ".hpp"] sources → OneFile (packageLines ws obsoleteLibraries) packages ∧
        OneFile (packageLines ws manualLibraries) packages ∧ OneFile (dependencyLines ws) libraries) := by
  simp only [inspectLibrariesWith_eq]
  have hshows := shows_sayLibraries ws verbose
  refine ⟨Listing.sameNotes_check hshows, (Listing.sameReport_check_iff hshows (telling_libraryListings ws)).trans ?_⟩
  simp only [libraryListings, forall_mem_cons, not_mem_nil, false_implies, implies_true, and_true]
  constructor
  · intro h packages libraries sources hpkgs hlibraries hsources
    obtain ⟨hmanual, hobsolete, hdependencies, -⟩ :=
      h ⟨⟨packages, hpkgs⟩, ⟨packages, hpkgs⟩, ⟨libraries, hlibraries⟩, sources, hsources⟩
    exact ⟨hobsolete packages hpkgs, hmanual packages hpkgs, hdependencies libraries hlibraries⟩
  · rintro h ⟨⟨packages, hpkgs⟩, -, ⟨libraries, hlibraries⟩, sources, hsources⟩
    obtain ⟨hobsolete, hmanual, hdependencies⟩ := h packages libraries sources hpkgs hlibraries hsources
    refine ⟨fun files hfiles => ?_, fun files hfiles => ?_, fun files hfiles => ?_, fun files _ => ?_⟩
    · exact hpkgs.unique hfiles ▸ hmanual
    · exact hpkgs.unique hfiles ▸ hobsolete
    · exact hlibraries.unique hfiles ▸ hdependencies
    · exact fun file _ _ _ hlines _ => absurd (lines_scanIncludes ws _ file) hlines

/-! ## Functions -/

def functionHeading : Note := .heading "Checking for obsolete and deprecated FUBs and functions..."

def functionListings : List Listing :=
  [⟨[".var", ".typ"], scanDeclarations obsoleteBlocks, Finding.note⟩,
   ⟨[".st", ".c", ".cpp"], scanUses obsoleteFunctions, Finding.note⟩]

/-- Goes on with the lines of these scans. Functions with successors are looked for in the same way in any case. -/
def sayFunctions (logical : Path) (verbose : Bool) (shown : List (List Note)) : Inspection Unit := do
  sayAll (obsoleteLists verbose shown)
  inspectSuccessors logical verbose deprecatedStringFunctions deprecatedMathFunctions

theorem inspectFunctionsWith_eq (scanner : Scanner) (logical : Path) (verbose : Bool) :
    inspectFunctionsWith scanner logical verbose =
      Listing.check functionHeading functionListings (sayFunctions logical verbose) scanner := rfl

theorem all_isEmpty_of_perm (h : List.Forall₂ List.Perm shown shown') : shown.all isEmpty = shown'.all isEmpty := by
  induction h with
  | nil => rfl
  | cons hlines _ ih => rw [all_cons, all_cons, ih, hlines.isEmpty_eq]

theorem shows_sayFunctions (ws : Workspace) (logical : Path) (verbose : Bool) :
    Listing.Shows ws 2 (sayFunctions logical verbose) where
  perm _ hshown := by
    simp only [sayFunctions, report_bind_ok (report_sayAll ws _), obsoleteLists, all_isEmpty_of_perm hshown]
    exact ((headedLists_perm obsoleteHeads hshown).append_right _).append_right _
  inj {shown _} hlength hshown heq := by
    have hheads : shown.length = obsoleteHeads.length := hlength
    simp only [sayFunctions, report_bind_ok (report_sayAll ws _), obsoleteLists, append_assoc] at heq
    exact headedLists_append_inj hheads hshown heq

theorem inspectFunctions_same_iff (ws : Workspace) (logical : Path) (verbose : Bool) :
    SameNotes (inspectFunctionsWith · logical verbose) ws logical ∧
    (SameReport (inspectFunctionsWith · logical verbose) ws logical ↔ ∀ declarations sources,
      ws.Reads logical [".var", ".typ"] declarations → ws.Reads logical [".st", ".c", ".cpp"] sources →
        OneFile (declarationLines ws) declarations ∧ OneFile (useLines ws) sources) := by
  simp only [inspectFunctionsWith_eq]
  have hshows := shows_sayFunctions ws logical verbose
  have htelling : ∀ listing ∈ functionListings, Telling (listing.lines ws) := by
    simp only [functionListings, forall_mem_cons]
    exact ⟨telling_declarationLines ws, telling_useLines ws, forall_mem_nil _⟩
  refine ⟨Listing.sameNotes_check hshows, (Listing.sameReport_check_iff hshows htelling).trans ?_⟩
  simp only [functionListings, forall_mem_cons, not_mem_nil, false_implies, implies_true, and_true]
  constructor
  · intro h declarations sources hdeclarations hsources
    obtain ⟨hdeclared, hused⟩ := h ⟨⟨declarations, hdeclarations⟩, sources, hsources⟩
    exact ⟨hdeclared declarations hdeclarations, hused sources hsources⟩
  · rintro h ⟨⟨declarations, hdeclarations⟩, sources, hsources⟩
    obtain ⟨hdeclared, hused⟩ := h declarations sources hdeclarations hsources
    refine ⟨fun files hfiles => ?_, fun files hfiles => ?_⟩
    · exact hdeclarations.unique hfiles ▸ hdeclared
    · exact hsources.unique hfiles ▸ hused

/-! ## Both checks -/

/-- In whatever order the results come in, the checks of libraries and of functions give the same notes up to their
order. They give the same report if and only if, unless some file keeps them from listing anything, no more than one
file has lines in each of the lists. Include directives are never listed, and functions with successors do not depend
on any order. -/
theorem findingReports_same_iff (ws : Workspace) (logical : Path) (verbose : Bool) :
    (SameNotes (inspectLibrariesWith · verbose) ws logical ∧
      SameNotes (inspectFunctionsWith · logical verbose) ws logical) ∧
    (SameReport (inspectLibrariesWith · verbose) ws logical ↔ ∀ packages libraries sources,
      ws.Reads logical [".pkg"] packages → ws.Reads logical [".lby"] libraries →
      ws.Reads logical [".c", ".cpp", ".hpp"] sources → OneFile (packageLines ws Catalogue.obsoleteLibraries) packages ∧
        OneFile (packageLines ws Catalogue.manualLibraries) packages ∧ OneFile (dependencyLines ws) libraries) ∧
    (SameReport (inspectFunctionsWith · logical verbose) ws logical ↔ ∀ declarations sources,
      ws.Reads logical [".var", ".typ"] declarations → ws.Reads logical [".st", ".c", ".cpp"] sources →
        OneFile (declarationLines ws) declarations ∧ OneFile (useLines ws) sources) := by
  obtain ⟨hlibraryNotes, hlibraries⟩ := inspectLibraries_same_iff ws logical verbose
  obtain ⟨hfunctionNotes, hfunctions⟩ := inspectFunctions_same_iff ws logical verbose
  exact ⟨⟨hlibraryNotes, hfunctionNotes⟩, hlibraries, hfunctions⟩

/-- Two packages with the same library, and two sources with the same function. -/
def twicePlaced : Workspace where
  tree := (((((Tree.empty.insert ["L"] .directory).insert ["L", "A"] .directory).insert ["L", "A", "a.pkg"]
    (.file (Text.Utf8.encodeString "<Object>AsMc</Object>"))).insert ["L", "A", "a.st"]
    (.file (Text.Utf8.encodeString "AVT_info;"))).insert ["L", "b.pkg"]
    (.file (Text.Utf8.encodeString "<Object>AsMc</Object>"))).insert ["L", "b.st"]
    (.file (Text.Utf8.encodeString "AVT_info;"))
  here := []

/-- Taking the files in turn and taking them from the last to the first are two ways to put the results together as
they come in, and both checks then list the files in different orders. -/
theorem findingReports_differ :
    (inTurn ⟨.here, ["L"]⟩).Merges twicePlaced ⟨.here, ["L"]⟩ ∧
    (arranged ⟨.here, ["L"]⟩ reverse).Merges twicePlaced ⟨.here, ["L"]⟩ ∧
    ((inspectLibrariesWith (inTurn ⟨.here, ["L"]⟩) false).report twicePlaced).1 =
      [libraryHeading, ⟨"The following invalid libraries were found in .pkg files:", "MANDATORY", "AS6"⟩,
        ⟨"- AsMc: Supports SG3 only (Found in: L/b.pkg)", "", ""⟩,
        ⟨"- AsMc: Supports SG3 only (Found in: L/A/a.pkg)", "", ""⟩] ∧
    ((inspectLibrariesWith (arranged ⟨.here, ["L"]⟩ reverse) false).report twicePlaced).1 =
      [libraryHeading, ⟨"The following invalid libraries were found in .pkg files:", "MANDATORY", "AS6"⟩,
        ⟨"- AsMc: Supports SG3 only (Found in: L/A/a.pkg)", "", ""⟩,
        ⟨"- AsMc: Supports SG3 only (Found in: L/b.pkg)", "", ""⟩] ∧
    ((inspectFunctionsWith (inTurn ⟨.here, ["L"]⟩) ⟨.here, ["L"]⟩ false).report twicePlaced).1 ≠
      ((inspectFunctionsWith (arranged ⟨.here, ["L"]⟩ reverse) ⟨.here, ["L"]⟩ false).report twicePlaced).1 := by
  refine ⟨collects_inTurn _ _ fun _ _ => rfl, collects_arranged _ _ (fun files => files.reverse_perm) fun _ _ => rfl,
    ?_, ?_, ?_⟩
  · decide +kernel
  · decide +kernel
  · decide +kernel

end StudioMigration
