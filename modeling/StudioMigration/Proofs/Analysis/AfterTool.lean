import StudioMigration.Proofs.Analysis.MappPackage
import StudioMigration.Proofs.Package.Placed

/-!
# The check on mapp packages after the package tool

The check and the tool decide on their own which motion software a project uses, which packages are referred to and
which package folders there are. `MotionAgrees`, `ReferencesAgree` and `FoldersAgree` say that their decisions fit
together. Then the check finds every package after a run of the tool that does not complain:

* a package that the tool has left alone for a reference is found as before (`TextRefers.of_placed`), for the list is
  written again with all its references, and other lists are not touched;
* a package whose folder was there, or was made, has a package file (`found_of_placed`).

The samples show that each of the three conditions is needed.
-/

namespace StudioMigration

open List
open Text.Utf8 (Bytes byteLength)

variable {pkg : String} {config : Path} {loc : Location} {choice : MotionChoice} {ws : Workspace}

/-! ## What the check still finds after the tool -/

theorem HasPackageFile.of_frame {changeable : Location → Prop} {ws' : Workspace}
    (h : HasPackageFile ws config loc pkg) (hframe : ws.Frame changeable ws') :
    HasPackageFile ws' config loc pkg := by
  obtain ⟨names, hlast, hname, hget⟩ := h
  exact ⟨names, hlast, hname, hframe.kept _ hget⟩

theorem hasPackageFile_beside {name : String} (hget : ws.tree.get? (loc ++ [name] ++ [pkg, "Package.pkg"]) ≠ none) :
    HasPackageFile ws config loc pkg := by
  refine ⟨[name, pkg, "Package.pkg"], rfl, ?_, by simpa using hget⟩
  simp [Path.descend, Path.parent, Path.name]

theorem isAsciiLetter_of_needed :
    ∀ pkg ∈ (neededPackages choice).map (·.1), ∀ c ∈ pkg.toList, Text.isAsciiLetter c := by
  cases choice <;> decide

theorem not_mem_packageListNames : ∀ pkg ∈ (neededPackages choice).map (·.1), pkg ∉ packageListNames := by
  cases choice <;> decide

section Placed

variable {ws' : Workspace} {name : String} (h : ConfigurationPlaced choice config loc name ws ws')
  (hsound : ws.tree.Sound) (hfolder' : ws'.IsFolder config loc)

include h

/-- Beside the list that is chosen, nothing that may be taken for a list is touched. -/
theorem get?_list_of_placed {hardware file : String} (hfile : file ∈ packageListNames)
    (hother : hardware = name → file ≠ "cpu.pkg") :
    ws'.tree.get? (loc ++ [hardware] ++ [file]) = ws.tree.get? (loc ++ [hardware] ++ [file]) := by
  by_cases hname : hardware = name
  · subst hname
    refine h.placed.outside [file] (by simpa using hother rfl) ?_
    intro pkg hpkg more heq
    obtain ⟨rfl, -⟩ := cons.inj heq
    exact not_mem_packageListNames file hpkg hfile
  · rw [append_assoc, h.elsewhere]
    intro more heq
    exact hname (cons.inj heq).1

/-- A configuration still has the same directories. -/
theorem get?_hardware_of_placed (hardware : String) :
    ws'.tree.get? (loc ++ [hardware]) = ws.tree.get? (loc ++ [hardware]) := by
  by_cases hname : hardware = name
  · subst hname
    simpa using h.placed.outside [] (by simp) (by simp)
  · refine h.elsewhere _ ?_
    intro more heq
    exact hname (cons.inj heq).1

include hsound hfolder'

/-- The check goes by the same list as before. -/
theorem searchFolders_of_placed :
    ws'.searchFolders config packageListNames = ws.searchFolders config packageListNames := by
  refine h.isFolder.searchFolders_congr hsound (by decide) hfolder' (get?_hardware_of_placed h) ?_
  intro hardware file hfile
  by_cases hchosen : hardware = name ∧ file = "cpu.pkg"
  · obtain ⟨rfl, rfl⟩ := hchosen
    obtain ⟨bytes, found, hget, -⟩ := h.placed.usable
    have hthere : ws.tree.get? (loc ++ [hardware] ++ ["cpu.pkg"]) ≠ none := by
      rw [hget]
      simp
    rw [Option.isSome_iff_ne_none.2 hthere, Option.isSome_iff_ne_none.2 (h.placed.kept _ hthere)]
  · rw [get?_list_of_placed h hfile fun hname hfile => hchosen ⟨hname, hfile⟩]

theorem TextRefers.of_placed (hletters : ∀ c ∈ pkg.toList, Text.isAsciiLetter c)
    (hrefers : ListRefers ws (loc ++ [name]) pkg) (htext : TextRefers ws config pkg) : TextRefers ws' config pkg := by
  obtain ⟨list, text, hlist, hread, hoccurs⟩ := htext
  obtain ⟨hardware, file, hfile, rfl, hhardware, hshort, hthere⟩ :=
    h.isFolder.exists_of_searchFolders hsound (by decide) hlist
  have hsame := searchFolders_of_placed h hsound hfolder'
  have hname : IsFileName hardware := hsound.isFileName hhardware.isDirectory (by simp)
  have hfileName : IsFileName file := (by decide : ∀ file ∈ packageListNames, IsFileName file) file hfile
  have hhardware' : ws'.IsFolder (config.child hardware) (loc ++ [hardware]) := by
    refine hfolder'.child hname (Workspace.locate_eq_ok_iff.1 hhardware.located).2.1 ?_
    rw [get?_hardware_of_placed h, hhardware.isDirectory]
  by_cases hchosen : hardware = name ∧ file = "cpu.pkg"
  · -- the list may have been written again
    obtain ⟨rfl, rfl⟩ := hchosen
    obtain ⟨bytes, found, hget, -⟩ := h.placed.usable
    rw [hhardware.readLenient_child hfileName hshort hget] at hread
    obtain rfl := Except.ok.inj hread
    obtain ⟨bytes', hget', hmentions⟩ := h.placed.mentions pkg hletters hrefers ⟨bytes, hget, hoccurs⟩
    exact ⟨_, _, hsame.trans hlist, hhardware'.readLenient_child hfileName hshort hget', hmentions⟩
  · have hbytes := hhardware.readBytes_congr hhardware' hfileName
      (get?_list_of_placed h hfile fun hname hfile => hchosen ⟨hname, hfile⟩)
    refine ⟨_, text, hsame.trans hlist, ?_, hoccurs⟩
    rw [Workspace.readLenient, hbytes]
    exact hread

end Placed

/-! ## Decisions -/

def referredForTool (ws : Workspace) (config : Path) (pkg : String) : Bool :=
  match ownPackageList? ws config with
  | .ok (some list) =>
    match openPackageList ws list >>= fun doc => PackageList.presence doc pkg with
    | .ok presence => presence.reference.isSome
    | .error _ => false
  | _ => false

/-- Whether the tool finds something in the place of the folder of a package. -/
def standsForTool (ws : Workspace) (config : Path) (pkg : String) : Bool :=
  match ownPackageList? ws config with
  | .ok (some list) =>
    match ws.list list.parent with
    | .ok found => found.any (·.1 == pkg)
    | .error _ => false
  | _ => false

def fileForCheck (ws : Workspace) (config : Path) (pkg : String) : Bool :=
  match ((absentPackages config [pkg]).report ws).2 with
  | .ok absent => absent.isEmpty
  | .error _ => false

def foundForCheck (ws : Workspace) (config : Path) (pkg : String) : Bool :=
  match ((lackingPackages config [pkg]).report ws).2 with
  | .ok lacking => lacking.isEmpty
  | .error _ => false

/-- The tool knows of mapp Motion in a project if the check does. -/
def MotionAgrees (ws : Workspace) (project : Path) : Prop :=
  motionOfCheck ws project = .mappMotion → motionChoice ws project = .mappMotion

/-- An element with a qualifier is listed in the document, but does not look like it in the text. -/
theorem motionInDocument_qualified :
    let text := "<p:P xmlns:p=\"x\"><p:TechnologyPackages><p:mappMotion/></p:TechnologyPackages></p:P>"
    (Xml.salvage? (Text.Utf8.encodeString text)).map motionInDocument = some .mappMotion ∧
      motionListed text.toList = .none := by
  decide +kernel

/-- The check finds the packages that the tool takes for referred to. -/
def ReferencesAgree (ws : Workspace) (project : Path) : Prop :=
  ∀ config ∈ ws.folders (project.parent.child "Physical"),
    ∀ pkg ∈ requiredPackages (motionOfCheck ws project),
      referredForTool ws config pkg → foundForCheck ws config pkg

/-- The check finds package files of the other packages whose folders the tool does not have to make. -/
def FoldersAgree (ws : Workspace) (project : Path) : Prop :=
  ∀ config ∈ ws.folders (project.parent.child "Physical"),
    ∀ pkg ∈ requiredPackages (motionOfCheck ws project), standsForTool ws config pkg →
      referredForTool ws config pkg = false → fileForCheck ws config pkg

theorem hasPackageFile_of_fileForCheck (hfolder : ws.IsFolder config loc)
    (h : fileForCheck ws config pkg) : HasPackageFile ws config loc pkg := by
  unfold fileForCheck at h
  split at h
  · rename_i absent habsent
    have hmem := mem_absentPackages_iff hfolder habsent pkg
    simpa [isEmpty_iff.1 h] using hmem
  · simp at h

theorem of_foundForCheck (hfolder : ws.IsFolder config loc) (h : foundForCheck ws config pkg) :
    HasPackageFile ws config loc pkg ∨ TextRefers ws config pkg := by
  unfold foundForCheck at h
  split at h
  · rename_i lacking hlacking
    have hmem := mem_lackingPackages_iff hfolder hlacking pkg
    rw [isEmpty_iff.1 h] at hmem
    by_contra hneither
    rw [not_or] at hneither
    exact not_mem_nil (hmem.2 ⟨mem_singleton_self _, hneither⟩)
  · simp at h

section Decisions

variable {ws' : Workspace} {name : String} (h : ConfigurationPlaced choice config loc name ws ws')
  (hsound : ws.tree.Sound)

include h hsound

theorem referredForTool_iff (pkg : String) : referredForTool ws config pkg ↔ ListRefers ws (loc ++ [name]) pkg := by
  have hown := h.ownList hsound
  obtain ⟨bytes, found, hget, hfound⟩ := h.placed.usable
  obtain ⟨doc, tag, children, hread, hobjects, hentries⟩ := PackageList.listing_eq_ok.1 hfound
  have hopen := (openPackageList_hardware hown.hardware hown.short hget).trans hread
  have hpresence : (openPackageList ws ((config.child name).child "cpu.pkg") >>= fun doc =>
      PackageList.presence doc pkg) = .ok ⟨found.any fun entry => entry.names pkg,
        ((found.filter fun entry => entry.refersTo pkg).getLast?).map (·.text)⟩ :=
    (look_presence hopen).trans (presence_of_entries hobjects hentries pkg)
  unfold referredForTool
  rw [h.chosen]
  dsimp only
  rw [hpresence]
  dsimp only
  rw [listRefers_iff hget hfound, Option.isSome_map, getLast?_isSome, any_eq_true]
  constructor
  · intro hne
    obtain ⟨entry, hmem⟩ := exists_mem_of_ne_nil _ hne
    exact ⟨entry, mem_filter.1 hmem⟩
  · rintro ⟨entry, hmem⟩
    exact ne_nil_of_mem (mem_filter.2 hmem)

theorem standsForTool_iff (pkg : String) :
    standsForTool ws config pkg ↔ ws.tree.get? (loc ++ [name] ++ [pkg]) ≠ none := by
  unfold standsForTool
  rw [h.chosen]
  dsimp only
  rw [Path.parent_child, (h.ownList hsound).hardware.list]
  rw [any_eq_true]
  constructor
  · rintro ⟨⟨other, entry⟩, hmem, hother⟩
    obtain rfl := eq_of_beq hother
    rw [(Tree.mem_children_iff _ _).1 hmem]
    simp
  · intro hget
    obtain ⟨entry, hget⟩ := Option.ne_none_iff_exists'.1 hget
    exact ⟨(pkg, entry), (Tree.mem_children_iff _ _).2 hget, beq_self_eq_true _⟩

/-- The check finds the packages that the tool has dealt with. -/
theorem found_of_placed {changeable : Location → Prop} (hframe : ws.Frame changeable ws')
    (hneeded : pkg ∈ (neededPackages choice).map (·.1))
    (hreferences : referredForTool ws config pkg → foundForCheck ws config pkg)
    (hfolders : standsForTool ws config pkg → referredForTool ws config pkg = false → fileForCheck ws config pkg) :
    HasPackageFile ws' config loc pkg ∨ TextRefers ws' config pkg := by
  cases hreferred : referredForTool ws config pkg with
  | true =>
    -- it has been left alone because of a reference, which the check still finds
    have hrefers := (referredForTool_iff h hsound pkg).1 hreferred
    refine (of_foundForCheck h.isFolder (hreferences hreferred)).imp (·.of_frame hframe) ?_
    exact TextRefers.of_placed h hsound (h.isFolder.of_frame hframe) (isAsciiLetter_of_needed pkg hneeded) hrefers
  | false =>
    refine .inl ?_
    rcases h.placed.placed pkg hneeded with hrefers | hstood | hmade
    · exact absurd ((referredForTool_iff h hsound pkg).2 hrefers) (by simp [hreferred])
    · have hfile := hfolders ((standsForTool_iff h hsound pkg).2 hstood) hreferred
      exact (hasPackageFile_of_fileForCheck h.isFolder hfile).of_frame hframe
    · exact hasPackageFile_beside hmade

end Decisions

/-! ## The check after the tool -/

/-- The tool adds the packages that the check asks for if it knows of mapp Motion. -/
theorem mem_needed_of_required {listed : MotionChoice} (h : listed = .mappMotion → choice = .mappMotion) :
    ∀ pkg ∈ requiredPackages listed, pkg ∈ (neededPackages choice).map (·.1) := by
  cases listed with
  | mappMotion =>
    rw [h rfl]
    decide
  | acp10 => cases choice <;> decide
  | none => cases choice <;> decide

/-- The check on mapp packages reports no lacking packages after a run of the package tool that does not complain, if
every configuration has a list and the two agree on the motion software, on the references and on the folders. -/
theorem inspectMappPackages_after_runPackageFolders {caller : String} {line : List String} {session after : Session}
    (hsound : session.workspace.tree.Sound) (hcalm : (runPackageFolders caller line).Calm session () after)
    {folder : String} {verbose : Bool}
    (hrequest : ((projectRequest caller packageFoldersPurpose line).exec session).1 = .ok (folder, verbose))
    {file : String} (hrequire : ((requireProject caller folder).exec session).1 = .ok file)
    (hlists : ListsThere session.workspace ((Path.ofString folder).child "Physical"))
    (hmotion : MotionAgrees session.workspace ((Path.ofString folder).child file))
    (hreferences : ReferencesAgree session.workspace ((Path.ofString folder).child file))
    (hfolders : FoldersAgree session.workspace ((Path.ofString folder).child file)) :
    ∀ note ∈ ((inspectMappPackages ((Path.ofString folder).child file)).report after.workspace).1,
      ¬IsLackingNote note := by
  obtain ⟨location, hall⟩ := exists_allPlaced_runPackageFolders hsound hcalm hrequest hrequire hlists
  obtain ⟨above, hfolder, hfile⟩ := exists_of_requireProject hrequire
  obtain ⟨entry, hget⟩ := exists_get?_of_find? hfile
  -- the project file has not changed
  have hsame : motionOfCheck after.workspace ((Path.ofString folder).child file) =
      motionOfCheck session.workspace ((Path.ofString folder).child file) := by
    rw [motionOfCheck, motionOfCheck, Workspace.readLenient, Workspace.readLenient,
      hfolder.readBytes_congr (hfolder.of_frame hall.frame) (hsound.isFileName hget (by simp))
        (get?_of_insideAll hfolder hall.frame file)]
  refine avoids_inspectMappPackages fun configuration hmem missed hmissed => ?_
  rw [Path.parent_child] at hmem
  obtain ⟨name, hdirectory, rfl⟩ := (hall.isFolder.of_frame hall.frame).mem_folders_iff.1 hmem
  rw [hall.get?_configuration] at hdirectory
  obtain ⟨hardware, hplaced⟩ := hall.placed name hdirectory
  rw [eq_nil_iff_forall_not_mem]
  intro package hpackage
  obtain ⟨hrequired, hnoFile, hnoText⟩ :=
    (mem_lackingPackages_iff (hplaced.isFolder.of_frame hall.frame) hmissed package).1 hpackage
  rw [hsame] at hrequired
  have hbefore : ((Path.ofString folder).child "Physical").child name ∈
      session.workspace.folders (((Path.ofString folder).child file).parent.child "Physical") := by
    rw [Path.parent_child]
    exact hall.isFolder.mem_folders_iff.2 ⟨name, hdirectory, rfl⟩
  rcases found_of_placed hplaced hsound hall.frame (mem_needed_of_required hmotion package hrequired)
    (hreferences _ hbefore package hrequired) (hfolders _ hbefore package hrequired) with hfound | hfound
  · exact hnoFile hfound
  · exact hnoText hfound

/-! ## Samples -/

instance (ws : Workspace) (physical : Path) : Decidable (ListsThere ws physical) :=
  inferInstanceAs (Decidable (∀ config ∈ ws.folders physical, ∃ hardware ∈ ws.folders config,
    ws.holds (hardware.child "cpu.pkg") = .ok true))

instance (ws : Workspace) (project : Path) : Decidable (MotionAgrees ws project) :=
  inferInstanceAs (Decidable (_ → _))

instance (ws : Workspace) (project : Path) : Decidable (ReferencesAgree ws project) :=
  inferInstanceAs (Decidable (∀ _ ∈ _, ∀ _ ∈ _, _ → _))

instance (ws : Workspace) (project : Path) : Decidable (FoldersAgree ws project) :=
  inferInstanceAs (Decidable (∀ _ ∈ _, ∀ _ ∈ _, _ → _ → _))

/-- A project with one configuration, and with folders beside its list. -/
def projectWithList (project list : String) (folders : List String) : Session where
  workspace := {
    tree := folders.foldl (fun tree folder => tree.insert ["M", "Physical", "Real", "PLC", folder] .directory)
      ((((((Tree.empty.insert ["M"] .directory).insert ["M", "m.apj"] (.file (Text.Utf8.encodeString project))).insert
        ["M", "Physical"] .directory).insert ["M", "Physical", "Real"] .directory).insert
          ["M", "Physical", "Real", "PLC"] .directory).insert ["M", "Physical", "Real", "PLC", "cpu.pkg"]
            (.file (Text.Utf8.encodeString list)))
    here := [] }

/-- A project whose list refers to one of the packages that it needs. -/
def oneReference : Session :=
  projectWithList "" ("<Cpu><Objects><Object Type=\"Package\" Reference=\"true\">\\mappView\\Package.pkg</Object>" ++
    "</Objects></Cpu>") []

/-- The check reports a lacking package before the tool has run, and none afterwards. -/
theorem inspectMappPackages_after_runPackageFolders_oneReference :
    (∃ note ∈ ((inspectMappPackages ((Path.ofString "M").child "m.apj")).report oneReference.workspace).1,
      IsLackingNote note) ∧
    ∀ note ∈ ((inspectMappPackages ((Path.ofString "M").child "m.apj")).report
      ((runPackageFolders "tool" ["M"]).exec oneReference).2.workspace).1, ¬IsLackingNote note := by
  have hbefore : ((inspectMappPackages ((Path.ofString "M").child "m.apj")).report oneReference.workspace).2 = .ok () ∧
      ((Path.ofString "M").child "Physical").child "Real" ∈
        oneReference.workspace.folders (((Path.ofString "M").child "m.apj").parent.child "Physical") ∧
      ((lackingPackages (((Path.ofString "M").child "Physical").child "Real") (requiredPackages
        (motionOfCheck oneReference.workspace ((Path.ofString "M").child "m.apj")))).report
          oneReference.workspace).2 = .ok ["mappServices"] := by
    decide +kernel
  have hrun : ((runPackageFolders "tool" ["M"]).exec oneReference).1 = .ok () ∧
      ((runPackageFolders "tool" ["M"]).exec oneReference).2.complaints = oneReference.complaints := by
    decide +kernel
  have hproject : ((projectRequest "tool" packageFoldersPurpose ["M"]).exec oneReference).1 = .ok ("M", false) ∧
      ((requireProject "tool" "M").exec oneReference).1 = .ok "m.apj" := by
    decide +kernel
  refine ⟨exists_isLackingNote hbefore.1 hbefore.2.1 hbefore.2.2 (by decide), ?_⟩
  exact inspectMappPackages_after_runPackageFolders (by decide +kernel) (Script.calm_of_exec hrun.1 hrun.2)
    hproject.1 hproject.2 (by decide +kernel) (by decide +kernel) (by decide +kernel) (by decide +kernel)

/-- A folder stands beside the list and is empty. -/
def hollowFolder : Session := projectWithList "" "<Cpu><Objects/></Cpu>" ["mappView"]

/-- The project file spells mapp Motion in its own way. -/
def otherSpelling : Session := projectWithList "<MappMotion/>" "<Cpu><Objects/></Cpu>" []

/-- The list has its references in single quotes. -/
def singleQuotes : Session :=
  projectWithList "" ("<Cpu><Objects><Object Type='Package' Reference='true'>\\mappServices\\Package.pkg</Object>" ++
    "<Object Type='Package' Reference='true'>\\mappView\\Package.pkg</Object></Objects></Cpu>") []

/-- The check on the project of a session reports lacking packages although the tool has run without complaints and
every configuration has a list. -/
structure StillLacking (session : Session) : Prop where
  isSound : session.workspace.tree.Sound
  isCalm : (runPackageFolders "tool" ["M"]).Calm session () ((runPackageFolders "tool" ["M"]).exec session).2
  request : ((projectRequest "tool" packageFoldersPurpose ["M"]).exec session).1 = .ok ("M", false)
  file : ((requireProject "tool" "M").exec session).1 = .ok "m.apj"
  lists : ListsThere session.workspace ((Path.ofString "M").child "Physical")
  reported : ∃ note ∈ ((inspectMappPackages ((Path.ofString "M").child "m.apj")).report
    ((runPackageFolders "tool" ["M"]).exec session).2.workspace).1, IsLackingNote note

theorem StillLacking.of_run {session : Session} {missed : List String} (hne : missed ≠ [])
    (h : session.workspace.tree.Sound ∧ ((runPackageFolders "tool" ["M"]).exec session).1 = .ok () ∧
      ((runPackageFolders "tool" ["M"]).exec session).2.complaints = session.complaints ∧
      ((projectRequest "tool" packageFoldersPurpose ["M"]).exec session).1 = .ok ("M", false) ∧
      ((requireProject "tool" "M").exec session).1 = .ok "m.apj" ∧
      ListsThere session.workspace ((Path.ofString "M").child "Physical") ∧
      ((inspectMappPackages ((Path.ofString "M").child "m.apj")).report
        ((runPackageFolders "tool" ["M"]).exec session).2.workspace).2 = .ok () ∧
      ((Path.ofString "M").child "Physical").child "Real" ∈
        ((runPackageFolders "tool" ["M"]).exec session).2.workspace.folders
          (((Path.ofString "M").child "m.apj").parent.child "Physical") ∧
      ((lackingPackages (((Path.ofString "M").child "Physical").child "Real") (requiredPackages (motionOfCheck
        ((runPackageFolders "tool" ["M"]).exec session).2.workspace ((Path.ofString "M").child "m.apj")))).report
          ((runPackageFolders "tool" ["M"]).exec session).2.workspace).2 = .ok missed) : StillLacking session := by
  obtain ⟨hsound, hvalue, hcomplaints, hreq, hfile, hlists, hend, hmem, hmissed⟩ := h
  exact ⟨hsound, Script.calm_of_exec hvalue hcomplaints, hreq, hfile, hlists,
    exists_isLackingNote hend hmem hmissed hne⟩

/-- Each of the three conditions is needed: packages are reported in three projects in which only one of them fails. -/
theorem stillLacking_samples :
    (StillLacking hollowFolder ∧ MotionAgrees hollowFolder.workspace ((Path.ofString "M").child "m.apj") ∧
      ReferencesAgree hollowFolder.workspace ((Path.ofString "M").child "m.apj")) ∧
    (StillLacking otherSpelling ∧ ReferencesAgree otherSpelling.workspace ((Path.ofString "M").child "m.apj") ∧
      FoldersAgree otherSpelling.workspace ((Path.ofString "M").child "m.apj")) ∧
    StillLacking singleQuotes ∧ MotionAgrees singleQuotes.workspace ((Path.ofString "M").child "m.apj") ∧
      FoldersAgree singleQuotes.workspace ((Path.ofString "M").child "m.apj") := by
  refine ⟨⟨?_, by decide +kernel, by decide +kernel⟩, ⟨?_, by decide +kernel, by decide +kernel⟩, ?_,
    by decide +kernel, by decide +kernel⟩
  · exact .of_run (by decide : ["mappView"] ≠ []) (by decide +kernel)
  · exact .of_run (by decide : ["mappMotion", "mappCockpit"] ≠ []) (by decide +kernel)
  · exact .of_run (by decide : ["mappServices", "mappView"] ≠ []) (by decide +kernel)

end StudioMigration
