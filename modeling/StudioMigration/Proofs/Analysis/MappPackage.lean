import StudioMigration.Analysis.MappPackage
import StudioMigration.Proofs.Files.Search
import StudioMigration.Proofs.Inspection

/-!
# The check on mapp packages

* `mem_lackingPackages_iff` says what the check misses in a configuration: the packages without a package file and
  without a reference in the text of a list.
* `avoids_inspectMappPackages` and `exists_isLackingNote` say when the check reports lacking packages: if it gets to
  its end, exactly when it misses some in a configuration.
-/

namespace StudioMigration

open Inspection List

variable {needed lacking absent : List String} {ws : Workspace}

/-! ## What the check misses -/

def HasPackageFile (ws : Workspace) (config : Path) (loc : Location) (pkg : String) : Prop :=
  ∃ names, names.getLast? = some "Package.pkg" ∧ (config.descend names).parent.name = pkg ∧
    ws.tree.get? (loc ++ names) ≠ none

/-- The text of the first list in a configuration has a reference to a package. -/
def TextRefers (ws : Workspace) (config : Path) (pkg : String) : Prop :=
  ∃ list text, ws.searchFolders config packageListNames = .ok (some list) ∧
    ws.readLenient list = .ok text ∧ (referencePattern pkg).occursIn text

theorem report_firstThere (ws : Workspace) (paths : List Path) :
    (firstThere paths).report ws = ([], paths.findM? ws.holds) := by
  induction paths with
  | nil => rfl
  | cons path rest ih =>
    rw [firstThere, report_ask_bind, findM?]
    rcases ws.holds path with fault | (_ | _)
    · rfl
    · exact ih
    · rfl

theorem report_unreferenced (ws : Workspace) (list : Path) (absent : List String) :
    (unreferenced list absent).report ws =
      match ws.readLenient list with
      | .ok text => ([], .ok (absent.filter fun name => !(referencePattern name).occursIn text))
      | .error fault => ([⟨s!"Could not read {list.render}: {fault.message}", "WARNING", ""⟩], .ok absent) := by
  change (Inspection.bind (Inspection.recover (Inspection.bind (Inspection.ask _) _) _) _).report ws = _
  simp only [Inspection.ask, Inspection.bind, Inspection.recover, Inspection.report_look]
  cases ws.readLenient list <;> rfl

/-- The packages that a list does not refer to, as far as its text can be read. -/
theorem mem_unreferenced_iff {config list : Path} (hlist : ws.searchFolders config packageListNames = .ok (some list))
    (h : ((unreferenced list absent).report ws).2 = .ok lacking) (pkg : String) :
    pkg ∈ lacking ↔ pkg ∈ absent ∧ ¬TextRefers ws config pkg := by
  have hrefers : TextRefers ws config pkg ↔
      ∃ text, ws.readLenient list = .ok text ∧ (referencePattern pkg).occursIn text := by
    constructor
    · rintro ⟨other, text, hother, hread⟩
      obtain rfl := Option.some.inj (Except.ok.inj (hlist.symm.trans hother))
      exact ⟨text, hread⟩
    · rintro ⟨text, hread⟩
      exact ⟨list, text, hlist, hread⟩
  rw [hrefers]
  rw [report_unreferenced] at h
  cases hread : ws.readLenient list with
  | ok text =>
    rw [hread] at h
    obtain rfl := Except.ok.inj h
    simp [mem_filter]
  | error fault =>
    rw [hread] at h
    obtain rfl := Except.ok.inj h
    simp

section Check

variable {config : Path} {loc : Location} (hfolder : ws.IsFolder config loc)

include hfolder

theorem report_packageList? : (packageList? config).report ws = ([], ws.searchFolders config packageListNames) := by
  rw [packageList?, report_ask_bind, hfolder.list, Workspace.searchFolders, Workspace.inFolders, hfolder.folders_eq]
  exact report_firstThere ws _

theorem mem_absentPackages_iff (h : ((absentPackages config needed).report ws).2 = .ok absent)
    (pkg : String) : pkg ∈ absent ↔ pkg ∈ needed ∧ ¬HasPackageFile ws config loc pkg := by
  obtain ⟨files, hfiles, h⟩ := exists_of_report_ask_bind h
  obtain rfl := Except.ok.inj h
  rw [mem_filter]
  refine and_congr_right fun _ => ?_
  rw [Bool.not_eq_true', ← Bool.not_eq_true, contains_iff_mem, mem_map]
  refine not_congr ⟨?_, ?_⟩
  · rintro ⟨⟨path, entry⟩, hmem, rfl⟩
    obtain ⟨names, last, hlast, haccepted, hget, rfl⟩ := (hfolder.mem_find_iff hfiles).1 hmem
    obtain rfl := eq_of_beq haccepted
    exact ⟨names, hlast, rfl, by simp [hget]⟩
  · rintro ⟨names, hlast, rfl, hget⟩
    obtain ⟨entry, hget⟩ := Option.ne_none_iff_exists'.1 hget
    exact ⟨(config.descend names, entry),
      (hfolder.mem_find_iff hfiles).2 ⟨names, _, hlast, beq_self_eq_true _, hget, rfl⟩, rfl⟩

theorem mem_lackingPackages_iff (h : ((lackingPackages config needed).report ws).2 = .ok lacking) (pkg : String) :
    pkg ∈ lacking ↔ pkg ∈ needed ∧ ¬HasPackageFile ws config loc pkg ∧
      ¬TextRefers ws config pkg := by
  obtain ⟨absent, habsent, h⟩ := exists_of_report_bind h
  have hmem := mem_absentPackages_iff hfolder habsent pkg
  rw [← and_assoc, ← hmem]
  split at h
  · rename_i hempty
    obtain rfl := Except.ok.inj h
    simp [isEmpty_iff.1 hempty]
  · obtain ⟨found, hfound, h⟩ := exists_of_report_bind h
    rw [report_packageList? hfolder] at hfound
    cases found with
    | some list => exact mem_unreferenced_iff hfound h pkg
    | none =>
      obtain rfl := Except.ok.inj h
      refine (and_iff_left ?_).symm
      rintro ⟨list, text, hlist, -⟩
      exact absurd (hfound.symm.trans hlist) (by simp)

end Check

/-! ## The notes of the check -/

/-- The motion software that the check goes by. -/
def motionOfCheck (ws : Workspace) (project : Path) : MotionChoice :=
  match ws.readLenient project with
  | .ok text => motionListed text
  | .error _ => .none

/-- How the note on configurations that lack packages starts. -/
def lackingHeadline : String := "\nSome configurations are missing one or more of the required mapp folders"

/-- A note on configurations that lack packages. -/
def IsLackingNote (note : Note) : Prop := lackingHeadline.toList <+: note.text.toList

instance (note : Note) : Decidable (IsLackingNote note) := inferInstanceAs (Decidable (_ <+: _))

/-- The first two characters tell most notes from the one on lacking packages. -/
theorem not_isLackingNote {note : Note} (start : List Char) (h : note.text.toList.take 2 = start)
    (hne : start ≠ ['\n', 'S']) : ¬IsLackingNote note := by
  rintro ⟨rest, heq⟩
  rw [← heq] at h
  exact hne h.symm

theorem not_isLackingNote_services (version : PackageVersion) :
    ∀ note ∈ servicesNotes version, ¬IsLackingNote note := by
  rw [servicesNotes, forall_mem_cons]
  constructor
  · refine not_isLackingNote ['D', 'e'] ?_ (by decide)
    simp only [String.toList_append]
    rfl
  · split
    · rw [forall_mem_singleton]
      refine not_isLackingNote ['I', 't'] ?_ (by decide)
      simp only [String.toList_append]
      rfl
    · rw [forall_mem_singleton]
      refine not_isLackingNote ['T', 'h'] ?_ (by decide)
      simp only [String.toList_append]
      rfl

theorem not_isLackingNote_motion (version : PackageVersion) : ∀ note ∈ motionNotes version, ¬IsLackingNote note := by
  rw [motionNotes, forall_mem_cons, forall_mem_singleton]
  constructor
  · refine not_isLackingNote ['D', 'e'] ?_ (by decide)
    simp only [String.toList_append]
    rfl
  · refine not_isLackingNote ['\n', 'Y'] ?_ (by decide)
    simp only [String.toList_append]
    rfl

theorem avoids_versionOf (ws : Workspace) (line : List Char) : (versionOf line).Avoids ws IsLackingNote := by
  unfold versionOf
  split
  · exact avoids_pure _
  · exact avoids_throw _

theorem avoids_sayAll {notes : List Note} (h : ∀ note ∈ notes, ¬IsLackingNote note) :
    (sayAll notes).Avoids ws IsLackingNote :=
  avoids_forM fun note hnote => avoids_say (h note hnote)

theorem avoids_motionLine (ws : Workspace) (line : List Char) :
    (if (Text.hasInfix "<mappMotion ".toList line && Text.hasInfix "Version=\"5.".toList line) then do
      match ← versionOf line with
      | some version => sayAll (motionNotes version)
      | none => pure ()
    else pure () : Inspection Unit).Avoids ws IsLackingNote := by
  split
  · refine (avoids_versionOf ws line).bind fun found _ => ?_
    cases found with
    | some version => exact avoids_sayAll (not_isLackingNote_motion version)
    | none => exact avoids_pure ()
  · exact avoids_pure ()

/-- Nothing is said about lacking packages line by line. -/
theorem avoids_inspectMappLine (ws : Workspace) (line : List Char) :
    (inspectMappLine line).Avoids ws IsLackingNote := by
  -- what is said about mapp Motion follows in any case
  have hmotion := avoids_motionLine ws line
  unfold inspectMappLine
  by_cases hservices : (declares "<mapp " line || declares "<mappServices" line)
  · rw [if_pos hservices]
    refine (avoids_versionOf ws line).bind fun found _ => ?_
    cases found with
    | some version => exact (avoids_sayAll (not_isLackingNote_services version)).bind fun _ _ => hmotion
    | none => exact hmotion
  · rw [if_neg hservices]
    exact hmotion

theorem avoids_lackingPackages (ws : Workspace) (config : Path) (needed : List String) :
    (lackingPackages config needed).Avoids ws IsLackingNote := by
  refine Inspection.Avoids.bind ?_ fun absent _ => ?_
  · exact (avoids_ask _).bind fun _ _ => avoids_pure _
  · split
    · exact avoids_pure _
    · refine Inspection.Avoids.bind ?_ fun list _ => ?_
      · refine (avoids_ask _).bind fun found _ note hnote => ?_
        rw [report_firstThere] at hnote
        exact absurd hnote not_mem_nil
      · cases list with
        | none => exact avoids_pure _
        | some list =>
          intro note hnote
          rw [report_unreferenced] at hnote
          split at hnote
          · exact absurd hnote not_mem_nil
          · obtain rfl := mem_singleton.1 hnote
            refine not_isLackingNote ['C', 'o'] ?_ (by decide)
            simp only [String.toList_append]
            rfl

theorem avoids_lackingConfigurations (ws : Workspace) (configurations : List Path) (needed : List String) :
    (lackingConfigurations needed configurations).Avoids ws IsLackingNote := by
  induction configurations with
  | nil => exact avoids_pure _
  | cons config rest ih =>
    refine (avoids_lackingPackages ws config needed).bind fun lacking _ => ?_
    exact ih.bind fun others _ => avoids_pure _

/-- There is nothing to report if and only if nothing is missed in any configuration. -/
theorem lackingConfigurations_eq_nil_iff {configurations : List Path} {lacking : List (String × List String)}
    (h : ((lackingConfigurations needed configurations).report ws).2 = .ok lacking) :
    lacking = [] ↔ ∀ config ∈ configurations, ∀ missed,
      ((lackingPackages config needed).report ws).2 = .ok missed → missed = [] := by
  induction configurations generalizing lacking with
  | nil =>
    obtain rfl := Except.ok.inj h
    simp
  | cons config rest ih =>
    obtain ⟨missed, hmissed, h⟩ := exists_of_report_bind h
    obtain ⟨others, hothers, h⟩ := exists_of_report_bind h
    obtain rfl := Except.ok.inj h
    have hfirst : (∀ other, ((lackingPackages config needed).report ws).2 = .ok other → other = []) ↔
        missed = [] := by
      simp [hmissed]
    rw [forall_mem_cons, hfirst, ← ih hothers]
    cases missed <;> simp

/-- The check has nothing to say about lacking packages if it misses none in any configuration. -/
theorem avoids_inspectMappPackages {project : Path}
    (h : ∀ config ∈ ws.folders (project.parent.child "Physical"), ∀ missed, ((lackingPackages config (requiredPackages (motionOfCheck ws project))).report ws).2 = .ok missed → missed = []) :
    (inspectMappPackages project).Avoids ws IsLackingNote := by
  have hheading : ¬IsLackingNote (.heading "Checking mapp version in project file...") := by
    refine not_isLackingNote ['─', '─'] ?_ (by decide)
    simp only [Note.heading, ruler, Text.repeated, String.toList_append, String.toList_join]
    rfl
  refine (avoids_say hheading).bind fun _ _ => ?_
  refine avoids_ask_bind fun text htext => ?_
  have hmotion : motionOfCheck ws project = motionListed text := by rw [motionOfCheck, htext]
  refine (avoids_forM fun line _ => avoids_inspectMappLine ws line).bind fun _ _ => ?_
  refine avoids_ask_bind fun isDirectory _ => ?_
  split
  · refine avoids_ask_bind fun found hfound => ?_
    refine (avoids_lackingConfigurations ws _ _).bind fun lacking hlacking => ?_
    have hempty : lacking = [] := by
      refine (lackingConfigurations_eq_nil_iff hlacking).2 fun config hmem => ?_
      rw [← hmotion]
      refine h config ?_
      rw [Workspace.folders, hfound]
      exact hmem
    subst hempty
    exact avoids_pure ()
  · refine avoids_say (not_isLackingNote ['C', 'o'] ?_ (by decide))
    simp only [String.toList_append]
    rfl

theorem isLackingNote_lackingNote (lacking : List (String × List String)) : IsLackingNote (lackingNote lacking) := by
  unfold IsLackingNote lackingHeadline lackingNote
  simp only [String.toList_append, append_assoc, prefix_append]

/-- A check that gets to its end reports the packages that it misses. -/
theorem exists_isLackingNote {project : Path} (hend : ((inspectMappPackages project).report ws).2 = .ok ())
    {config : Path} (hmem : config ∈ ws.folders (project.parent.child "Physical")) {missed : List String}
    (hmissed : ((lackingPackages config (requiredPackages (motionOfCheck ws project))).report ws).2 = .ok missed)
    (hne : missed ≠ []) : ∃ note ∈ ((inspectMappPackages project).report ws).1, IsLackingNote note := by
  obtain ⟨loc, hphysical⟩ := Workspace.exists_isFolder_of_mem_folders hmem
  unfold inspectMappPackages at hend
  obtain ⟨said, hsaid, hend⟩ := exists_of_report_bind hend
  obtain ⟨text, htext, hend⟩ := exists_of_report_ask_bind hend
  obtain ⟨done, hlines, hend⟩ := exists_of_report_bind hend
  obtain ⟨isDirectory, hdir, hend⟩ := exists_of_report_ask_bind hend
  obtain rfl := Except.ok.inj (hphysical.isDirectory_eq.symm.trans hdir)
  obtain ⟨found, hfound, hend⟩ := exists_of_report_ask_bind hend
  obtain ⟨lacking, hlacking, hend⟩ := exists_of_report_bind hend
  have hsome : lacking ≠ [] := by
    intro hempty
    rw [motionOfCheck, htext] at hmissed
    refine hne ((lackingConfigurations_eq_nil_iff hlacking).1 hempty config ?_ missed hmissed)
    rw [Workspace.folders, hfound] at hmem
    exact hmem
  refine ⟨lackingNote lacking, ?_, isLackingNote_lackingNote lacking⟩
  refine mem_report_bind hsaid (mem_report_ask_bind htext ?_)
  refine mem_report_bind hlines (mem_report_ask_bind hdir ?_)
  refine mem_report_ask_bind hfound (mem_report_bind hlacking ?_)
  obtain ⟨first, others, rfl⟩ := exists_cons_of_ne_nil hsome
  exact mem_singleton_self _

end StudioMigration
