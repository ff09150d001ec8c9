import StudioMigration.Proofs.Analysis.Mirror
import StudioMigration.Proofs.Analysis.PackageVersion
import StudioMigration.Proofs.Analysis.Scannable

/-!
# Checks that run to their end

Most checks deal with whatever they cannot read. The checks on packages in the project file and on widget libraries do
not: a number with too many digits, a mapping that is no document or a description in another encoding cuts them short,
and with them all checks that follow.

* `searches_resembling` says that searches always complete, and so do the checks that only search.
* `completesIff_inspectVision`, `completesIff_inspectWidgets` and so on say when the others do.
* `completesIff_inspectProject` puts them together: the contents of a project let all checks run to their end just if
  they can be parsed, as `CanBeParsed` says.
-/

namespace StudioMigration

open List Inspection Workspace
open Text.Utf8 (Bytes byteLength)

variable {names loc : Location} {paths : List Path} {base ws : Workspace} {name : String}

/-! ## Checks that always complete -/

/-- Searches in a project raise no faults at all. -/
theorem searches_resembling {fixed : Location → Prop} {folder : Path} (hbase : base.IsScannable folder loc)
    (hplain : folder.IsPlain) {up : Location} (hlocate : base.locate (folder.descend up) = .ok (loc ++ up)) :
    Searches (base.Resembles fixed) (fun _ => False) (folder.descend up) where
  find accepts := (completes_find hbase.sound hlocate accepts).raises
  scan hendings scan := (completes_scanFiles hbase hlocate hplain hendings scan).raises

section Project

variable {fixed : Location → Prop} {folder : Path} (hbase : base.IsScannable folder loc)

include hbase

theorem Workspace.IsScannable.locate_physical : base.locate (folder.child "Physical") = .ok (loc ++ ["Physical"]) :=
  hbase.locate_top (by decide) (by decide)

theorem Workspace.IsScannable.locate_logical : base.locate (folder.child "Logical") = .ok (loc ++ ["Logical"]) :=
  hbase.locate_top (by decide) (by decide)

theorem completes_noteFolders (file name : String) :
    (noteFolders (folder.child file) name).Completes (base.Resembles fixed) := by
  unfold noteFolders
  rw [Path.parent_child]
  exact (completes_find hbase.sound hbase.locate_physical _).bind fun _ _ => completes_sayAll _

end Project

/-! ## Lines of the project file -/

def linesOf (bytes : Bytes) : List (List Char) := Text.lines (Text.unifyNewlines (Text.Utf8.decodeLenient bytes))

section Lines

variable {stays : Workspace → Prop} (line : List Char)

theorem completesIff_versionOf : (versionOf line).CompletesIff stays (versionFits line) := by
  have hfits := isOk_versionIn_iff line
  unfold versionOf
  cases hversion : versionIn line with
  | ok version =>
    rw [hversion] at hfits
    exact CompletesIff.congr (completes_pure trivial) (iff_of_true trivial (hfits.1 rfl))
  | error fault =>
    rw [hversion] at hfits
    refine (completesIff_throw fault).congr (iff_of_false not_false fun hline => ?_)
    exact absurd (hfits.2 hline) (by simp [Except.isOk, Except.toBool])

theorem completesIff_versionNotes (notes : PackageVersion → List Note) :
    (versionOf line >>= fun version =>
      match version with
      | some version => sayAll (notes version)
      | none => pure ()).CompletesIff stays (versionFits line) := by
  refine CompletesIff.congr ((completesIff_versionOf line).bind fun version _ => ?_) (and_iff_left trivial)
  cases version with
  | none => exact completes_pure trivial
  | some version => exact completes_sayAll _

theorem completesIff_ite (condition : Bool) {needed : Prop} {inspection : Inspection Unit}
    (h : inspection.CompletesIff stays needed) :
    (if condition then inspection else pure ()).CompletesIff stays (condition → needed) := by
  split
  · rename_i hcondition
    exact h.congr (by simp [hcondition])
  · rename_i hcondition
    exact CompletesIff.congr (completes_pure trivial) (by simp [hcondition])

theorem completesIff_inspectVisionLine :
    (inspectVisionLine line).CompletesIff stays (declares "<mappVision " line → versionFits line) :=
  completesIff_ite _ (completesIff_versionNotes line _)

def tellsServices : Bool := declares "<mapp " line || declares "<mappServices" line

/-- Whether a line has a version of mapp Motion that needs an upgrade. -/
def tellsMotion : Bool :=
  Text.hasInfix "<mappMotion ".toList line && Text.hasInfix "Version=\"5.".toList line

theorem completesIff_inspectMappLine :
    (inspectMappLine line).CompletesIff stays
      ((tellsServices line → versionFits line) ∧ (tellsMotion line → versionFits line)) := by
  have hmotion : (if tellsMotion line then
      versionOf line >>= fun version =>
        match version with
        | some version => sayAll (motionNotes version)
        | none => pure ()
      else pure ()).CompletesIff stays (tellsMotion line → versionFits line) :=
    completesIff_ite _ (completesIff_versionNotes line motionNotes)
  unfold inspectMappLine
  by_cases hservices : tellsServices line
  · have htold : (declares "<mapp " line || declares "<mappServices" line) := hservices
    rw [if_pos htold]
    refine ((completesIff_versionOf line).bind fun version _ => ?_).congr (and_congr_left' (by simp [hservices]))
    cases version with
    | none => exact hmotion
    | some version => exact (completes_sayAll _).bind fun _ _ => hmotion
  · have htold : ¬(declares "<mapp " line || declares "<mappServices" line) := hservices
    rw [if_neg htold]
    exact hmotion.congr (and_iff_right fun hline => absurd hline hservices).symm

end Lines

section ProjectFile

variable {fixed : Location → Prop} {folder : Path} {file : String} {bytes : Bytes}
  (hbase : base.IsScannable folder loc) (hproject : base.tree.get? (loc ++ [file]) = some (.file bytes))
  (hfixed : fixed (loc ++ [file]))

include hbase hproject hfixed

theorem completes_readProject :
    (ask fun ws => ws.readLenient (folder.child file)).Completes (base.Resembles fixed)
      fun text => text = Text.unifyNewlines (Text.Utf8.decodeLenient bytes) := by
  have hlocate : base.locate (folder.descend [file]) = .ok (loc ++ [file]) := hbase.locate (by simp [hproject])
  exact (completes_readLenient hlocate hproject).mono fun text htext => htext hfixed

theorem completes_projectLines :
    (projectLines (folder.child file)).Completes (base.Resembles fixed) fun lines => lines = linesOf bytes :=
  (completes_readProject hbase hproject hfixed).bind fun text htext => completes_pure (by rw [htext, linesOf])

theorem completesIff_inspectVision (verbose : Bool) :
    (inspectVision (folder.child file) verbose).CompletesIff (base.Resembles fixed)
      (∀ line ∈ linesOf bytes, declares "<mappVision " line → versionFits line) := by
  refine (completes_say _).bind fun _ _ => (completes_projectLines hbase hproject hfixed).bind fun lines hlines => ?_
  subst hlines
  refine ((completesIff_forM fun line _ => completesIff_inspectVisionLine line).bind fun _ _ => ?_).congr
    (and_iff_left trivial)
  split
  · exact completes_noteFolders hbase file _
  · exact completes_pure trivial

omit hproject hfixed in
theorem completesIff_inspectViewLine (file : String) (line : List Char) :
    (inspectViewLine (folder.child file) line).CompletesIff (base.Resembles fixed)
      (declares "<mappView " line → versionFits line) := by
  refine completesIff_ite _ (((completesIff_versionOf line).bind fun version _ => ?_).congr (and_iff_left trivial))
  have hcontents : (entriesEnding ((folder.child file).parent.child "Logical") ".content" >>= fun contents =>
      inspectContents (contents.map (·.1))).Completes (base.Resembles fixed) := by
    rw [Path.parent_child]
    refine (completes_entriesEnding hbase.sound hbase.locate_logical (by decide)).bind fun contents _ => ?_
    exact (raises_inspectContents _).completes
  cases version with
  | none => exact hcontents
  | some version => exact (completes_sayAll _).bind fun _ _ => hcontents

theorem completesIff_inspectView (verbose : Bool) :
    (inspectView (folder.child file) verbose).CompletesIff (base.Resembles fixed)
      (∀ line ∈ linesOf bytes, declares "<mappView " line → versionFits line) := by
  refine (completes_say _).bind fun _ _ => (completes_projectLines hbase hproject hfixed).bind fun lines hlines => ?_
  subst hlines
  refine ((completesIff_forM fun line _ => completesIff_inspectViewLine hbase file line).bind fun _ _ => ?_).congr
    (and_iff_left trivial)
  split
  · exact completes_noteFolders hbase file _
  · exact completes_pure trivial

end ProjectFile

/-! ## Package directories -/

section Packages

variable {fixed : Location → Prop} {folder : Path} (hbase : base.IsScannable folder loc)

theorem completes_firstThere (h : ∀ path ∈ paths, ∃ place, base.locate path = .ok place) :
    (firstThere paths).Completes (base.Resembles fixed) := by
  induction paths with
  | nil => exact completes_pure trivial
  | cons path paths ih =>
    rw [forall_mem_cons] at h
    obtain ⟨⟨place, hlocate⟩, h⟩ := h
    refine (completes_holds hlocate).bind fun isThere _ => ?_
    split
    · exact completes_pure trivial
    · exact ih h

include hbase

theorem completes_packageList? (hget : base.tree.get? (loc ++ names) = some .directory) :
    (packageList? (folder.descend names)).Completes (base.Resembles fixed) := by
  have hlists : ∀ name ∈ packageListNames, IsFileName name ∧ byteLength name < nameRoom := by decide
  refine (completes_list (hbase.folder_descend hget)).bind fun found hfound => completes_firstThere fun path hpath => ?_
  obtain ⟨child, hchild, hpath⟩ := mem_flatMap.1 hpath
  obtain ⟨name, hdir, rfl⟩ := (hfound child).1 hchild
  obtain ⟨list, hlist, rfl⟩ := mem_map.1 hpath
  rw [Path.child_descend]
  rw [append_assoc] at hdir
  exact ⟨_, hbase.locate_child hdir (hlists list hlist).1 (hlists list hlist).2⟩

theorem completes_lackingPackages (hget : base.tree.get? (loc ++ names) = some .directory) (needed : List String) :
    (lackingPackages (folder.descend names) needed).Completes (base.Resembles fixed) := by
  have habsent : (absentPackages (folder.descend names) needed).Completes (base.Resembles fixed) :=
    (completes_find hbase.sound (hbase.locate (by simp [hget])) _).bind fun _ _ => completes_pure trivial
  refine habsent.bind fun absent _ => ?_
  split
  · exact completes_pure trivial
  · refine (completes_packageList? hbase hget).bind fun list _ => ?_
    cases list with
    | none => exact completes_pure trivial
    | some list => exact (raises_unreferenced list absent).completes

theorem completes_lackingConfigurations (needed : List String) {configurations : List Path}
    (h : ∀ path ∈ configurations, ∃ names, path = folder.descend names ∧
      base.tree.get? (loc ++ names) = some .directory) :
    (lackingConfigurations needed configurations).Completes (base.Resembles fixed) := by
  induction configurations with
  | nil => exact completes_pure trivial
  | cons path configurations ih =>
    rw [forall_mem_cons] at h
    obtain ⟨⟨names, rfl, hget⟩, h⟩ := h
    refine (completes_lackingPackages hbase hget needed).bind fun lacking _ => ?_
    exact (ih h).bind fun others _ => completes_pure trivial

theorem completesIff_inspectMappPackages {file : String} {bytes : Bytes}
    (hproject : base.tree.get? (loc ++ [file]) = some (.file bytes)) (hfixed : fixed (loc ++ [file])) :
    (inspectMappPackages (folder.child file)).CompletesIff (base.Resembles fixed)
      (∀ line ∈ linesOf bytes, (tellsServices line → versionFits line) ∧ (tellsMotion line → versionFits line)) := by
  refine (completes_say _).bind fun _ _ => (completes_readProject hbase hproject hfixed).bind fun text htext => ?_
  subst htext
  refine ((completesIff_forM fun line _ => completesIff_inspectMappLine line).bind fun _ _ => ?_).congr
    (and_iff_left trivial)
  rw [Path.parent_child]
  refine (completes_isDirectory hbase.locate_physical).bind fun isFolder hisFolder => ?_
  split
  · rename_i hthere
    have hphysical : base.IsFolder (folder.child "Physical") (loc ++ ["Physical"]) :=
      ⟨hbase.locate_physical, hisFolder.1 hthere⟩
    refine (completes_list hphysical).bind fun found hfound => ?_
    refine (completes_lackingConfigurations hbase _ fun path hpath => ?_).bind fun lacking _ => completes_sayIf _ _
    obtain ⟨name, hget, rfl⟩ := (hfound path).1 hpath
    refine ⟨["Physical", name], (folder.child_descend ["Physical"] name), ?_⟩
    simpa using hget
  · exact completes_say _

end Packages

/-! ## Widget libraries -/

/-- The document that an entry holds, if it can be read as one. -/
def Entry.document? (entry : Entry) : Option XmlDocument :=
  if entry.isDirectory then none else (Xml.read .inspecting entry.bytes).toOption

/-- Whether an entry can be read as a text in UTF-8. -/
def Entry.isText (entry : Entry) : Bool := !entry.isDirectory && (Text.Utf8.decode entry.bytes).isOk

/-- Whether the kind of the widget library at a place can be told: its mapping, if it has one, is a document, and its
description, if it has one, is a text, which does not matter if the mapping tells the kind. -/
def tellsKind (ws : Workspace) (place : Location) : Bool :=
  let mapping := ws.tree.get? (place ++ ["WidgetLibrary.mapping"])
  let description := ws.tree.get? (place ++ ["Description.widgetlibrary"])
  mapping.all (·.document?.isSome) &&
    (mapping.any (fun entry => (entry.document?.bind kindOfMapping).isSome) || description.all Entry.isText)

/-- Where the `Widgets` directory in a `mappView` directory stands in a project. -/
def widgetsPlace (names : Location) : Location := "Logical" :: names ++ ["mappView", "Widgets"]

section Widgets

variable {fixed : Location → Prop}

section Reading

variable {path : Path} {place : Location} {entry : Entry} (hlocate : base.locate path = .ok place)
  (hfixed : fixed place) (hget : base.tree.get? place = some entry)

include hlocate hfixed hget

theorem readBytes_of_resembles (hws : base.Resembles fixed ws) :
    ws.readBytes path = if entry.isDirectory then .error (.file .isDirectory path.render) else .ok entry.bytes := by
  have hsame : ws.tree.get? place = some entry := (hws.same place hfixed).trans hget
  cases entry with
  | directory =>
    simp [Workspace.readBytes, hws.locate hlocate, bytesAt, hsame, Entry.isDirectory]
  | file bytes => exact readBytes_of_entry (hws.locate hlocate) hsame (by simp)
  | fullDevice => exact readBytes_of_entry (hws.locate hlocate) hsame (by simp)

theorem completesIff_readText :
    (ask fun ws => ws.readText path).CompletesIff (base.Resembles fixed) (entry.isText) := by
  refine completesIff_ask fun ws hws => ?_
  rw [readText, readBytes_of_resembles hlocate hfixed hget hws, Entry.isText]
  cases entry.isDirectory with
  | true => simp [Outcome]
  | false =>
    cases hdecode : Text.Utf8.decode entry.bytes with
    | ok text => simp [Outcome, hdecode, Except.isOk, Except.toBool]
    | error fault =>
      simp [Outcome, hdecode, Except.isOk, Except.toBool]

theorem completesIff_readDocument :
    (readDocument path).CompletesIff (base.Resembles fixed) (entry.document?.isSome)
      fun doc => entry.document? = some doc := by
  have hbytes : (ask fun ws => ws.readBytes path).CompletesIff (base.Resembles fixed) (entry.isDirectory = false)
      fun bytes => entry.isDirectory = false ∧ bytes = entry.bytes := by
    refine completesIff_ask fun ws hws => ?_
    rw [readBytes_of_resembles hlocate hfixed hget hws]
    cases entry.isDirectory <;> simp [Outcome]
  refine CompletesIff.congr (hbytes.bind fun bytes hread => ?_)
    (show _ ∧ (Xml.read .inspecting entry.bytes).toOption.isSome ↔ _ from ?_)
  · obtain ⟨hfile, rfl⟩ := hread
    simp only [Entry.document?, hfile]
    cases Xml.read .inspecting entry.bytes with
    | ok doc => exact CompletesIff.congr (completes_pure rfl) (by simp [Except.toOption])
    | error refusal => exact (completesIff_throw _).congr (by simp [Except.toOption])
  · cases hdir : entry.isDirectory <;> simp [Entry.document?, hdir]

end Reading

variable {folder : Path} (hbase : base.IsScannable folder loc)
  (hmapping : ∀ place, fixed (place ++ ["WidgetLibrary.mapping"]))
  (hdescription : ∀ place, fixed (place ++ ["Description.widgetlibrary"]))

include hbase hmapping hdescription

omit hmapping in
theorem completesIff_kindOfDescription (hget : base.tree.get? (loc ++ names) = some .directory) :
    (ask (fun ws => ws.holds ((folder.descend names).child "Description.widgetlibrary")) >>= fun isThere =>
      if isThere then
        kindOfDescription <$> ask fun ws => ws.readText ((folder.descend names).child "Description.widgetlibrary")
      else pure none).CompletesIff (base.Resembles fixed)
        ((base.tree.get? (loc ++ names ++ ["Description.widgetlibrary"])).all Entry.isText) := by
  have hlocate := hbase.locate_child hget (by decide : IsFileName "Description.widgetlibrary") (by decide)
  refine (completes_holds hlocate).bind fun isThere hthere => ?_
  cases hentry : base.tree.get? (loc ++ names ++ ["Description.widgetlibrary"]) with
  | none =>
    rw [hentry] at hthere
    subst hthere
    exact CompletesIff.congr (completes_pure trivial) (by simp)
  | some entry =>
    rw [hentry] at hthere
    subst hthere
    exact ((completesIff_readText hlocate (hdescription _) hentry).map _ fun _ _ => trivial).congr (by simp)

theorem completesIff_widgetKind? (hget : base.tree.get? (loc ++ names) = some .directory) :
    (widgetKind? (folder.descend names)).CompletesIff (base.Resembles fixed)
      (tellsKind base (loc ++ names)) := by
  have hlocate := hbase.locate_child hget (by decide : IsFileName "WidgetLibrary.mapping") (by decide)
  have hdescribed := completesIff_kindOfDescription hbase hdescription hget
  refine (completes_isDirectory (hbase.folder_descend hget).located).bind fun isFolder hisFolder => ?_
  rw [if_pos (hisFolder.2 hget)]
  refine (completes_holds hlocate).bind fun hasMapping hhas => ?_
  unfold tellsKind
  cases hentry : base.tree.get? (loc ++ names ++ ["WidgetLibrary.mapping"]) with
  | none =>
    -- only the description counts
    rw [hentry] at hhas
    subst hhas
    exact hdescribed.congr (by simp)
  | some entry =>
    rw [hentry] at hhas
    subst hhas
    have hread : (kindOfMapping <$> readDocument ((folder.descend names).child "WidgetLibrary.mapping")).CompletesIff
        (base.Resembles fixed) (entry.document?.isSome) fun kind => kind = entry.document?.bind kindOfMapping :=
      (completesIff_readDocument hlocate (hmapping _) hentry).map kindOfMapping fun doc hdoc => by
        simp [hdoc]
    cases hkind : entry.document?.bind kindOfMapping with
    | some kind =>
      refine (hread.bind fun mapped hmapped => ?_).congr
        (show _ ∧ True ↔ _ by simp [hkind])
      rw [hmapped, hkind]
      exact completes_pure trivial
    | none =>
      refine (hread.bind fun mapped hmapped => ?_).congr
        (show _ ∧ (base.tree.get? (loc ++ names ++ ["Description.widgetlibrary"])).all Entry.isText ↔ _ by
          simp [hkind])
      rw [hmapped, hkind]
      exact hdescribed

theorem completesIff_inspectWidgetFolders (logical : Path) (verbose : Bool) {libraries : List Path}
    (hlibraries : ∀ library ∈ libraries, ∃ names, library = folder.descend names ∧
      base.tree.get? (loc ++ names) = some .directory) :
    (inspectWidgetFolders logical verbose libraries).CompletesIff (base.Resembles fixed)
      (∀ names, folder.descend names ∈ libraries → tellsKind base (loc ++ names)) := by
  induction libraries with
  | nil => exact CompletesIff.congr (completes_pure trivial) (by simp)
  | cons library libraries ih =>
    rw [forall_mem_cons] at hlibraries
    obtain ⟨⟨names, rfl, hget⟩, hlibraries⟩ := hlibraries
    refine CompletesIff.congr ((completesIff_widgetKind? hbase hmapping hdescription hget).bind fun kind _ =>
      (completes_sayAll _).bind fun _ _ => (ih hlibraries).bind fun others _ => completes_pure trivial) ?_
    simp only [mem_cons, folder.descend_inj, and_true]
    constructor
    · rintro ⟨hfirst, hothers⟩ other (rfl | hother)
      · exact hfirst
      · exact hothers other hother
    · intro hall
      exact ⟨hall names (.inl rfl), fun other hother => hall other (.inr hother)⟩

theorem completesIff_inspectWidgetRoots (logical : Path) (verbose : Bool) {roots : List Path}
    (hroots : ∀ root ∈ roots, ∃ names, root = folder.descend names ∧
      base.tree.get? (loc ++ names) = some .directory) :
    (inspectWidgetRoots logical verbose roots).CompletesIff (base.Resembles fixed)
      (∀ names, folder.descend names ∈ roots → ∀ name,
        base.tree.get? (loc ++ names ++ [name]) = some .directory →
          tellsKind base (loc ++ names ++ [name])) := by
  induction roots with
  | nil => exact CompletesIff.congr (completes_pure trivial) (by simp)
  | cons root roots ih =>
    rw [forall_mem_cons] at hroots
    obtain ⟨⟨names, rfl, hget⟩, hroots⟩ := hroots
    refine (completes_list (hbase.folder_descend hget)).bind fun found hfound => ?_
    have hlibraries := completesIff_inspectWidgetFolders hbase hmapping hdescription logical verbose
      fun library hlibrary => by
        obtain ⟨name, hname, rfl⟩ := (hfound library).1 hlibrary
        exact ⟨names ++ [name], folder.child_descend names name, by rwa [← append_assoc]⟩
    refine CompletesIff.congr (hlibraries.bind fun current _ =>
      (ih hroots).bind fun others _ => completes_pure trivial) ?_
    simp only [hfound]
    simp only [mem_cons, folder.descend_inj, folder.child_descend, and_true]
    constructor
    · rintro ⟨hfirst, hothers⟩ other (rfl | hother) name hname
      · have htold := hfirst (other ++ [name]) ⟨name, hname, rfl⟩
        rwa [← append_assoc] at htold
      · exact hothers other hother name hname
    · intro hall
      refine ⟨?_, fun other hother => hall other (.inr hother)⟩
      rintro _ ⟨name, hname, rfl⟩
      rw [← append_assoc]
      exact hall names (.inl rfl) name hname

omit hmapping hdescription in
/-- Whether a directory stands under a short name can be asked below anything that is there. -/
theorem completes_isDirectory_child (hthere : base.tree.get? (loc ++ names) ≠ none) (hname : IsFileName name)
    (hroom : byteLength name < nameRoom) :
    (ask fun ws => ws.isDirectory ((folder.descend names).child name)).Completes (base.Resembles fixed)
      fun isFolder => isFolder = true ↔ base.tree.get? (loc ++ names ++ [name]) = some .directory := by
  by_cases hdir : base.tree.get? (loc ++ names) = some .directory
  · exact completes_isDirectory (hbase.locate_child hdir hname hroom)
  · -- below a file there is nothing, and asking for it is no fault
    have hnone : base.tree.get? (loc ++ names ++ [name]) ≠ some .directory :=
      fun hget => hdir (hbase.sound.get?_above (cons_ne_nil name []) hget)
    refine completes_ask fun ws hws => ⟨false, ?_, by simpa using hnone⟩
    obtain ⟨entry, hentry⟩ := Option.ne_none_iff_exists'.1 hthere
    have hnames : ∀ part ∈ names ++ [name], IsFileName part := by
      intro part hpart
      rcases mem_append.1 hpart with hpart | hpart
      · exact hbase.sound.isFileName hentry (mem_append_right _ hpart)
      · rwa [mem_singleton.1 hpart]
    have hshort := hbase.short hthere hname.ne_empty hroom
    rw [folder.child_descend] at hshort ⊢
    obtain ⟨found, hfound⟩ := exists_status_descend (hws.locate hbase.isFolder.located) hnames hshort
    rcases hanswer : ws.isDirectory (folder.descend (names ++ [name])) with fault | (_ | _)
    · simp [Workspace.isDirectory, hfound] at hanswer
    · rfl
    · obtain ⟨place, hplace⟩ := exists_isFolder_of_isDirectory hanswer
      rw [← folder.child_descend] at hplace
      obtain ⟨above, -, habove, hget⟩ := locate_of_locate_child hname hplace.located
      rw [hws.locate (hbase.locate hthere), Except.ok.injEq] at habove
      exact absurd (hws.get?_directory_iff.1 (habove ▸ hget)) hdir

omit hbase hmapping hdescription in
theorem completes_keepWhere {stays : Workspace → Prop} {question : Path → Workspace → Except Fault Bool}
    {accepted : Path → Prop}
    (h : ∀ path ∈ paths, (ask (question path)).Completes stays fun kept => kept = true ↔ accepted path) :
    (keepWhere question paths).Completes stays fun kept => ∀ path, path ∈ kept ↔ path ∈ paths ∧ accepted path := by
  induction paths with
  | nil =>
    apply completes_pure
    simp
  | cons path paths ih =>
    rw [forall_mem_cons] at h
    refine h.1.bind fun kept hkept => (ih h.2).bind fun others hothers => completes_pure fun other => ?_
    by_cases hpath : kept = true
    · rw [if_pos hpath]
      grind
    · rw [if_neg hpath]
      grind

omit hbase hmapping hdescription in
theorem widgetsPlace_eq (names : Location) :
    widgetsPlace names = "Logical" :: names ++ ["mappView"] ++ ["Widgets"] := by
  simp [widgetsPlace]

omit hbase hmapping hdescription in
theorem Path.child_logical_widgets (folder : Path) (names : Location) :
    ((folder.child "Logical").descend (names ++ ["mappView"])).child "Widgets" =
      folder.descend (widgetsPlace names) := by
  have hlogical := folder.descend_descend ["Logical"] (names ++ ["mappView"])
  rw [widgetsPlace_eq, ← folder.child_descend]
  exact congrArg (Path.child · "Widgets") hlogical

omit hbase hmapping hdescription in
/-- A `Widgets` directory is looked for below everything that is called `mappView`. -/
theorem IsFound.mem_widgets_iff {views : List (Path × Entry)}
    (h : IsFound base (folder.child "Logical") (loc ++ ["Logical"]) (· == "mappView") views) (root : Path) :
    root ∈ views.map (fun x => x.1.child "Widgets") ↔ ∃ names,
      base.tree.get? (loc ++ ("Logical" :: names ++ ["mappView"])) ≠ none ∧
        root = folder.descend (widgetsPlace names) := by
  constructor
  · intro hroot
    obtain ⟨view, hview, rfl⟩ := mem_map.1 hroot
    obtain ⟨below, last, hlast, haccepted, hget, hpath⟩ := (h.mem_iff view.1).1 (mem_map_of_mem hview)
    obtain ⟨names, rfl⟩ := getLast?_eq_some_iff.1 hlast
    obtain rfl : last = "mappView" := by simpa using haccepted
    refine ⟨names, by simpa using hget, ?_⟩
    rw [hpath, folder.child_logical_widgets]
  · rintro ⟨names, hget, rfl⟩
    have hmem := (h.mem_iff ((folder.child "Logical").descend (names ++ ["mappView"]))).2
      ⟨names ++ ["mappView"], "mappView", by simp, by simp, by simpa using hget, rfl⟩
    obtain ⟨view, hview, hpath⟩ := mem_map.1 hmem
    refine mem_map.2 ⟨view, hview, ?_⟩
    rw [hpath, folder.child_logical_widgets]

omit hmapping hdescription in
theorem completes_widgetRoots :
    (widgetRoots (folder.child "Logical")).Completes (base.Resembles fixed) fun roots => ∀ root, root ∈ roots ↔
      ∃ names, root = folder.descend (widgetsPlace names) ∧
        base.tree.get? (loc ++ widgetsPlace names) = some .directory := by
  refine (completes_holds hbase.locate_logical).bind fun isThere hthere => ?_
  split
  · refine (completes_find hbase.sound hbase.locate_logical _).bind fun views hviews => ?_
    have hkeep : ∀ root ∈ views.map (fun x => x.1.child "Widgets"),
        (ask fun ws => ws.isDirectory root).Completes (base.Resembles fixed) fun kept => kept = true ↔
          ∃ names, root = folder.descend names ∧ base.tree.get? (loc ++ names) = some .directory := by
      intro root hroot
      obtain ⟨names, hget, rfl⟩ := (hviews.mem_widgets_iff root).1 hroot
      rw [widgetsPlace_eq, ← folder.child_descend]
      refine (completes_isDirectory_child hbase hget (by decide) (by decide)).mono fun kept hkept => ?_
      rw [hkept, folder.child_descend, append_assoc]
      constructor
      · intro hdir
        exact ⟨_, rfl, hdir⟩
      · rintro ⟨other, hother, hdir⟩
        rwa [folder.descend_inj.1 hother]
    refine (completes_keepWhere hkeep).mono fun kept hkept root => ?_
    rw [hkept, hviews.mem_widgets_iff]
    constructor
    · rintro ⟨⟨names, -, rfl⟩, other, hother, hdir⟩
      obtain rfl := folder.descend_inj.1 hother
      exact ⟨names, rfl, hdir⟩
    · rintro ⟨names, rfl, hdir⟩
      refine ⟨⟨names, ?_, rfl⟩, _, rfl, hdir⟩
      -- what a directory stands in is there as well
      rw [widgetsPlace_eq, ← append_assoc] at hdir
      rw [hbase.sound.get?_above (cons_ne_nil _ _) hdir]
      simp
  · refine completes_pure fun root => ⟨fun hroot => absurd hroot not_mem_nil, ?_⟩
    rintro ⟨names, -, hget⟩
    have hbelow : base.tree.get? (loc ++ ["Logical"] ++ (names ++ ["mappView", "Widgets"])) =
        some .directory := by simpa [widgetsPlace] using hget
    have hlogical := hbase.sound.get?_above (by simp) hbelow
    simp_all

theorem completesIff_inspectWidgets (verbose : Bool) :
    (inspectWidgets (folder.child "Logical") verbose).CompletesIff (base.Resembles fixed)
      (∀ names name, base.tree.get? (loc ++ widgetsPlace names ++ [name]) = some .directory →
        tellsKind base (loc ++ widgetsPlace names ++ [name])) := by
  refine (completes_sayIf _ _).bind fun _ _ => (completes_widgetRoots hbase).bind fun roots hroots => ?_
  have hlibraries : (∀ names, folder.descend names ∈ roots → ∀ name,
        base.tree.get? (loc ++ names ++ [name]) = some .directory → tellsKind base (loc ++ names ++ [name])) ↔
      ∀ names name, base.tree.get? (loc ++ widgetsPlace names ++ [name]) = some .directory →
        tellsKind base (loc ++ widgetsPlace names ++ [name]) := by
    constructor
    · intro hall names name hget
      have hwidgets := hbase.sound.get?_above (cons_ne_nil name []) hget
      exact hall (widgetsPlace names) ((hroots _).2 ⟨names, rfl, hwidgets⟩) name hget
    · intro hall names hmem name hget
      obtain ⟨below, hbelow, -⟩ := (hroots _).1 hmem
      obtain rfl := folder.descend_inj.1 hbelow
      exact hall below name hget
  split
  · rename_i hempty
    rw [List.isEmpty_iff] at hempty
    exact CompletesIff.congr (completes_sayIf _ _) (iff_of_true trivial (hlibraries.1 (by simp [hempty])))
  · have hfolders : ∀ root ∈ roots, ∃ names, root = folder.descend names ∧
        base.tree.get? (loc ++ names) = some .directory := by
      intro root hroot
      obtain ⟨names, hnames⟩ := (hroots root).1 hroot
      exact ⟨widgetsPlace names, hnames⟩
    refine CompletesIff.congr ((completesIff_inspectWidgetRoots hbase hmapping hdescription _ verbose hfolders).bind
      fun current _ => completes_sayIf _ _) ?_
    exact (and_iff_left trivial).trans hlibraries

end Widgets

/-! ## All checks -/

theorem Path.join_of_isFileName (path : Path) (h : IsFileName name) : path.join name = path.child name := by
  have hplain : (Path.relative [name]).IsPlain := by
    intro part hpart
    rw [mem_singleton.1 hpart]
    exact ⟨h.ne_empty, h.ne_dot, h.no_slash⟩
  have hrender : (Path.relative [name]).render = name := by
    apply String.toList_inj.1
    rw [Path.toList_render (by simp [Path.relative]) hplain]
    simp [Path.relative, Anchor.render, Text.joinWith]
  have hread := Path.ofString_render hplain
  rw [hrender] at hread
  simp [Path.join, hread, Path.relative, Path.descend, Path.child]

/-- The places whose content can keep a check from its end. -/
inductive IsCritical (loc : Location) (file : String) : Location → Prop
  | project : IsCritical loc file (loc ++ [file])
  | mapping (place : Location) : IsCritical loc file (place ++ ["WidgetLibrary.mapping"])
  | description (place : Location) : IsCritical loc file (place ++ ["Description.widgetlibrary"])

/-- Whether a check looks for a version in a line of the project file. -/
def asksVersion (line : List Char) : Bool :=
  declares "<mappVision " line || declares "<mappView " line || tellsServices line || tellsMotion line

/-- The contents of a project keep no check from its end. -/
structure CanBeParsed (ws : Workspace) (loc : Location) (project : Bytes) : Prop where
  versions : ∀ line ∈ linesOf project, asksVersion line → versionFits line
  libraries : ∀ names name, ws.tree.get? (loc ++ widgetsPlace names ++ [name]) = some .directory →
    tellsKind ws (loc ++ widgetsPlace names ++ [name])

/-- Every check asks for its own part. -/
theorem canBeParsed_iff {project : Bytes} :
    CanBeParsed ws loc project ↔ (∀ line ∈ linesOf project, declares "<mappVision " line → versionFits line) ∧
      (∀ line ∈ linesOf project, declares "<mappView " line → versionFits line) ∧
      (∀ names name, ws.tree.get? (loc ++ widgetsPlace names ++ [name]) = some .directory →
        tellsKind ws (loc ++ widgetsPlace names ++ [name])) ∧
      ∀ line ∈ linesOf project, (tellsServices line → versionFits line) ∧ (tellsMotion line → versionFits line) := by
  have hasks : ∀ line, asksVersion line ↔ declares "<mappVision " line ∨
      declares "<mappView " line ∨ tellsServices line ∨ tellsMotion line := by
    intro line
    simp only [asksVersion, Bool.or_eq_true, or_assoc]
  constructor
  · rintro ⟨hversions, hlibraries⟩
    simp only [hasks] at hversions
    exact ⟨fun line hline hdeclares => hversions line hline (.inl hdeclares),
      fun line hline hdeclares => hversions line hline (.inr (.inl hdeclares)), hlibraries,
      fun line hline => ⟨fun htells => hversions line hline (.inr (.inr (.inl htells))),
        fun htells => hversions line hline (.inr (.inr (.inr htells)))⟩⟩
  · rintro ⟨hvision, hview, hlibraries, hpkgs⟩
    refine ⟨fun line hline hline' => ?_, hlibraries⟩
    rcases (hasks line).1 hline' with hasked | hasked | hasked | hasked
    · exact hvision line hline hasked
    · exact hview line hline hasked
    · exact (hpkgs line hline).1 hasked
    · exact (hpkgs line hline).2 hasked

/-- The checks on a project run to their end just if its contents let them. -/
theorem completesIff_inspectProject {project : String} {file : String} {bytes : Bytes}
    (hbase : base.IsScannable (Path.ofString project) loc)
    (hproject : base.tree.get? (loc ++ [file]) = some (.file bytes)) (verbose : Bool) (scanTime : Nat) :
    (inspectProject project file verbose scanTime).CompletesIff (base.Resembles (IsCritical loc file))
      (CanBeParsed base loc bytes) := by
  have hplain := Path.isPlain_ofString project
  have hfolder : Searches (base.Resembles (IsCritical loc file)) (fun _ => False) (Path.ofString project) := by
    have hlocate : base.locate ((Path.ofString project).descend []) = .ok (loc ++ []) := by
      simpa [Path.descend] using hbase.isFolder.located
    simpa [Path.descend] using searches_resembling hbase hplain hlocate
  have hphysical : Searches (base.Resembles (IsCritical loc file)) (fun _ => False)
      ((Path.ofString project).child "Physical") := searches_resembling hbase hplain hbase.locate_physical
  have hlogical : Searches (base.Resembles (IsCritical loc file)) (fun _ => False)
      ((Path.ofString project).child "Logical") := searches_resembling hbase hplain hbase.locate_logical
  have hname : IsFileName file := hbase.sound.isFileName hproject (by simp)
  have hjoin := (Path.ofString project).join_of_isFileName hname
  have hvision := completesIff_inspectVision hbase hproject IsCritical.project verbose
  have hview := completesIff_inspectView hbase hproject IsCritical.project verbose
  have hpkgs := completesIff_inspectMappPackages hbase hproject IsCritical.project
  rw [← hjoin] at hvision hview hpkgs
  -- the checks in a row; four of them have conditions
  refine CompletesIff.congr ?_ canBeParsed_iff.symm
  refine (completes_say _).bind fun _ _ => (raises_inspectNaming _ _).completes.bind fun _ _ => ?_
  refine (raises_inspectSavedVersions hfolder (by decide) verbose).completes.bind fun _ _ => ?_
  refine (raises_inspectOpcUa hphysical verbose).completes.bind fun _ _ => ?_
  refine (raises_inspectHardware hphysical verbose).completes.bind fun _ _ => ?_
  refine (raises_inspectFileDevices hphysical verbose).completes.bind fun _ _ => ?_
  refine (raises_inspectLibraries hlogical verbose).completes.bind fun _ _ => ?_
  refine (raises_inspectFunctions hlogical verbose).completes.bind fun _ _ => ?_
  refine (raises_inspectSafety ?_ ?_).completes.bind fun _ _ => ?_
  · rwa [hjoin, Path.parent_child]
  · rwa [hjoin, Path.parent_child]
  refine hvision.bind fun _ _ => hview.bind fun _ _ => ?_
  refine (completesIff_inspectWidgets hbase .mapping .description verbose).bind fun _ _ => ?_
  exact (hpkgs.bind fun _ _ => completes_say _).congr (and_iff_left trivial)

end StudioMigration
