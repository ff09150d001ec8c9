import StudioMigration.Proofs.Files.Search
import StudioMigration.Proofs.Package.Settled

/-!
# Running the package tool twice

A run settles the packages of every hardware configuration that it gets to, and a second run leaves settled
packages alone.

* `ownPackageList?_congr` says what the choice of a package list depends on.
* `exists_configurationStep` is the step for one configuration, and `settlesIn_forM_addPackages` the run over
  all of them.
-/

namespace StudioMigration

open List Xml Script
open PackageList (listing)
open Text.Utf8 (Bytes byteLength)

variable {name : String} {physical folder : Path} {loc : Location} {ws ws' : Workspace}
  {configurations : List (String × Entry)} {outcome : Except Fault Unit} {choice : MotionChoice}

/-! ## The list of a configuration -/

/-- The list that is chosen in a configuration lies in the hardware directory of a name. -/
structure OwnList (ws : Workspace) (folder : Path) (loc : Location) (name : String) : Prop where
  isFolder : ws.IsFolder folder loc
  sound : ws.tree.Sound
  hardware : ws.IsFolder (folder.child name) (loc ++ [name])
  short : byteLength ((folder.child name).child "cpu.pkg").render ≤ maxPathLength
  there : ws.tree.get? (loc ++ [name] ++ ["cpu.pkg"]) ≠ none
  chosen : ownPackageList? ws folder = .ok (some ((folder.child name).child "cpu.pkg"))

section OwnList

variable (hfolder : ws.IsFolder folder loc) (hsound : ws.tree.Sound)

include hfolder

theorem ownPackageList?_eq : ownPackageList? ws folder = ws.searchFolders folder ["cpu.pkg"] := by
  have hpaths : ws.inFolders folder ["cpu.pkg"] = ((ws.tree.children loc).filter (·.2.isDirectory)).map
      fun x => (folder.child x.1).child "cpu.pkg" := by
    rw [Workspace.inFolders, hfolder.folders_eq, flatMap_map, map_eq_flatMap]
    rfl
  simp [ownPackageList?, Workspace.searchFolders, hpaths, hfolder.isDirectory_eq, hfolder.list]

include hsound

theorem exists_ownList {list : Path} (h : ownPackageList? ws folder = .ok (some list)) :
    ∃ name, list = (folder.child name).child "cpu.pkg" ∧ OwnList ws folder loc name := by
  have hsearch := h
  rw [ownPackageList?_eq hfolder] at hsearch
  obtain ⟨name, file, hfile, rfl, hhardware, hshort, hthere⟩ :=
    hfolder.exists_of_searchFolders hsound (by decide) hsearch
  obtain rfl := mem_singleton.1 hfile
  exact ⟨name, rfl, hfolder, hsound, hhardware, hshort, hthere, h⟩

/-- The choice of a list only depends on what stands in the configuration and on where there are lists. -/
theorem ownPackageList?_congr (hfolder' : ws'.IsFolder folder loc)
    (hchildren : ∀ name, ws'.tree.get? (loc ++ [name]) = ws.tree.get? (loc ++ [name]))
    (hlists : ∀ name, (ws'.tree.get? (loc ++ [name] ++ ["cpu.pkg"])).isSome = (ws.tree.get? (loc ++ [name] ++ ["cpu.pkg"])).isSome) :
    ownPackageList? ws' folder = ownPackageList? ws folder := by
  rw [ownPackageList?_eq hfolder, ownPackageList?_eq hfolder']
  exact hfolder.searchFolders_congr hsound (by decide) hfolder' hchildren (by simpa using hlists)

end OwnList

/-- The choice of a list is the same after something has changed beside the list that is chosen. -/
theorem OwnList.of_frame (h : OwnList ws folder loc name) (hframe : ws.Frame (Below (loc ++ [name])) ws') :
    OwnList ws' folder loc name := by
  refine ⟨h.isFolder.of_frame hframe, hframe.sound h.sound, h.hardware.of_frame hframe, h.short, hframe.kept _ h.there, ?_⟩
  rw [← h.chosen]
  refine ownPackageList?_congr h.isFolder h.sound (h.isFolder.of_frame hframe) (fun other => ?_) fun other => ?_
  · refine hframe.outside _ ?_
    rintro ⟨next, rest, heq⟩
    have hlength := congrArg List.length heq
    simp at hlength
  · by_cases hother : other = name
    · subst hother
      rw [Option.isSome_iff_ne_none.2 h.there, Option.isSome_iff_ne_none.2 (hframe.kept _ h.there)]
    · rw [hframe.outside]
      rintro ⟨next, rest, heq⟩
      rw [append_assoc, append_assoc, append_cancel_left_eq] at heq
      exact hother (List.cons.inj heq).1

/-! ## One configuration -/

theorem exists_runs_addPackage (hown : OwnList ws folder loc name) {pkg : String}
    (hpkg : IsPackageName pkg) (config type : String) :
    ∃ isThere ws', (addPackage folder config pkg type).Runs ws (.ok isThere) ws' ∧
      PackageStep (folder.child name) (loc ++ [name]) pkg ws ws' := by
  obtain ⟨outcome, ws', hrun, hstep⟩ :=
    exists_runs_addListedPackage hown.hardware hown.sound hown.short hpkg config type
  unfold addPackage
  cases outcome with
  | ok isThere =>
    refine ⟨isThere, ws', (runs_say _ ws).bind ?_, hstep⟩
    refine runs_look_bind hown.chosen ?_
    exact hrun.tryCatch _
  | error fault =>
    refine ⟨false, ws', (runs_say _ ws).bind ?_, hstep⟩
    refine runs_look_bind hown.chosen ?_
    exact hrun.tryCatch_error ((runs_say _ ws').bind (runs_pure false ws'))

/-- Makes sure of some packages of a configuration. -/
def addEach (folder : Path) (config : String) (packages : List (String × String)) : Script Unit :=
  packages.forM fun (pkg, type) => do
    let _ ← addPackage folder config pkg type
    return ()

theorem exists_runs_addEach (config : String) {packages : List (String × String)}
    (hpkgs : ∀ x ∈ packages, IsPackageName x.1) (hown : OwnList ws folder loc name) :
    ∃ ws', (addEach folder config packages).Runs ws (.ok ()) ws' ∧ ws.Frame (Below (loc ++ [name])) ws' ∧
      ((∀ x ∈ packages, PackageSettled ws (folder.child name) (loc ++ [name]) x.1) → ws' = ws) ∧
      ∀ other, IsPackageName other → (∃ x ∈ packages, other = x.1) ∨
        PackageSettled ws (folder.child name) (loc ++ [name]) other →
          PackageSettled ws' (folder.child name) (loc ++ [name]) other := by
  induction packages generalizing ws with
  | nil =>
    refine ⟨ws, runs_pure () ws, .refl _ ws, fun _ => rfl, ?_⟩
    rintro other - (⟨x, hx, -⟩ | hsettled)
    · exact absurd hx not_mem_nil
    · exact hsettled
  | cons x packages ih =>
    rw [forall_mem_cons] at hpkgs
    obtain ⟨isThere, ws₁, hfirst, hstep⟩ := exists_runs_addPackage hown hpkgs.1 config x.2
    obtain ⟨ws', hrest, hframe', hsteady, hsettles⟩ := ih hpkgs.2 (hown.of_frame hstep.frame)
    refine ⟨ws', (hfirst.bind (runs_pure () ws₁)).bind hrest, hstep.frame.trans hframe', ?_, ?_⟩
    · intro hall
      rw [forall_mem_cons] at hall
      obtain rfl := hstep.steady hall.1
      exact hsteady hall.2
    · -- A package is settled by its own step or was settled before, and stays so.
      rintro other hother (⟨y, hy, rfl⟩ | hsettled)
      · rcases mem_cons.1 hy with rfl | hy
        · exact hsettles _ hother (.inr (hstep.settles _ hother (.inl rfl)))
        · exact hsettles _ hother (.inl ⟨y, hy, rfl⟩)
      · exact hsettles _ hother (.inr (hstep.settles _ hother (.inr hsettled)))

/-- The locations inside the directories of a configuration. -/
def Inside (loc : Location) (place : Location) : Prop := ∃ name, Below (loc ++ [name]) place

/-- All packages that a configuration needs are settled. -/
def ConfigurationSettled (choice : MotionChoice) (ws : Workspace) (folder : Path) (loc : Location) : Prop :=
  ∀ name, ownPackageList? ws folder = .ok (some ((folder.child name).child "cpu.pkg")) →
    ∀ x ∈ neededPackages choice, PackageSettled ws (folder.child name) (loc ++ [name]) x.1

/-- A configuration stays settled as long as nothing changes in it. -/
theorem ConfigurationSettled.congr (h : ConfigurationSettled choice ws folder loc)
    (hfolder : ws.IsFolder folder loc) (hfolder' : ws'.IsFolder folder loc) (hsound : ws.tree.Sound)
    (hsame : ∀ rest, ws'.tree.get? (loc ++ rest) = ws.tree.get? (loc ++ rest)) :
    ConfigurationSettled choice ws' folder loc := by
  intro name hown x hx bytes found hget hfound
  rw [ownPackageList?_congr hfolder hsound hfolder' (fun name => hsame [name]) fun name => by
    rw [append_assoc, hsame]] at hown
  rw [append_assoc, hsame, ← append_assoc] at hget
  rw [append_assoc, hsame, ← append_assoc]
  exact h name hown x hx bytes found hget hfound

/-- Nothing is done in a configuration without a list. -/
theorem quiet_addPackages (hown : ∀ list, ownPackageList? ws folder ≠ .ok (some list)) (choice : MotionChoice) :
    (addPackages choice folder).Quiet ws := by
  have hpkg : ∀ config pkg type, (addPackage folder config pkg type).Quiet ws := by
    intro config pkg type
    refine (quiet_say _ ws).bind fun _ => ?_
    rcases h : ownPackageList? ws folder with fault | (_ | list)
    · exact ⟨.error fault, runs_look_bind_error h _⟩
    · refine ⟨.ok false, runs_look_bind h ?_⟩
      exact (runs_say _ ws).bind (runs_pure false ws)
    · exact absurd h (hown list)
  refine (quiet_say _ ws).bind fun _ => (quiet_say _ ws).bind fun _ => ?_
  refine (quiet_look _ ws).bind fun found => ?_
  split
  · refine (quiet_forM fun x _ => ?_).bind fun _ => ?_
    · exact (hpkg _ x.1 x.2).bind fun _ => quiet_pure () ws
    · split
      · exact quiet_say _ ws
      · exact quiet_pure () ws
  · exact quiet_pure () ws

/-- The step on one configuration. It only touches what is in the directories of the configuration, which is
settled afterwards, and it does nothing if the configuration was settled before or if the step fails. -/
structure ConfigurationStep (choice : MotionChoice) (folder : Path) (loc : Location) (ws : Workspace)
    (outcome : Except Fault Unit) (ws' : Workspace) : Prop where
  runs : (addPackages choice folder).Runs ws outcome ws'
  frame : ws.Frame (Inside loc) ws'
  settles : ConfigurationSettled choice ws' folder loc
  steady : ConfigurationSettled choice ws folder loc → ws' = ws
  failing : ∀ fault, outcome = .error fault → ws' = ws

theorem exists_configurationStep (choice : MotionChoice) (hfolder : ws.IsFolder folder loc)
    (hsound : ws.tree.Sound) : ∃ outcome ws', ConfigurationStep choice folder loc ws outcome ws' := by
  by_cases hown : ∃ list, ownPackageList? ws folder = .ok (some list)
  · obtain ⟨list, hlist⟩ := hown
    obtain ⟨name, rfl, hown⟩ := exists_ownList hfolder hsound hlist
    obtain ⟨ws', hrun, hframe, hsteady, hsettles⟩ := exists_runs_addEach folder.name
      (fun _ => isPackageName_of_needed) hown
    have hdir : (ws.tree.children loc).any (·.2.isDirectory) := by
      refine any_eq_true.2 ⟨(name, .directory), ?_, rfl⟩
      exact (Tree.mem_children_iff _ _).2 hown.hardware.isDirectory
    refine ⟨.ok (), ws', ?_, hframe.mono fun _ h => ⟨name, h⟩, ?_, ?_, by simp⟩
    · unfold addPackages
      refine (runs_say _ ws).bind ((runs_say _ ws).bind ?_)
      refine runs_look_bind hfolder.list ?_
      rw [if_pos hdir]
      refine hrun.bind ?_
      split
      · exact runs_say _ ws'
      · exact runs_pure () ws'
    · intro other hother x hx
      rw [(hown.of_frame hframe).chosen] at hother
      -- the lists of two directories differ, so that the list is the one that was chosen
      obtain ⟨rfl, -⟩ := Path.grandchild_inj (Option.some.inj (Except.ok.inj hother))
      exact hsettles x.1 (isPackageName_of_needed hx) (.inl ⟨x, hx, rfl⟩)
    · intro hsettled
      exact hsteady (hsettled name hown.chosen)
  · rw [not_exists] at hown
    obtain ⟨outcome, hrun⟩ := quiet_addPackages hown choice
    exact ⟨outcome, ws, hrun, .refl _ ws, fun name h => absurd h (hown _), fun _ => rfl, fun _ _ => rfl⟩

/-! ## All configurations -/

/-- A run has an end that only depends on the workspace, touches some locations only, and leaves nothing to do for
another run. Unless it fails it leads to a workspace of some kind. -/
def SettlesIn (script : Script Unit) (ws : Workspace) (touched : Location → Prop) (settled : Workspace → Prop) : Prop :=
  ∃ outcome ws', script.Runs ws outcome ws' ∧ ws.Frame touched ws' ∧ script.Quiet ws' ∧ (outcome = .ok () → settled ws')

/-- A run that fails before it has done anything fails again. -/
theorem SettlesIn.of_runs_error {script : Script Unit} {touched : Location → Prop} {settled : Workspace → Prop}
    (fault : Fault) (h : script.Runs ws (.error fault) ws) : SettlesIn script ws touched settled :=
  ⟨_, ws, h, .refl _ ws, ⟨_, h⟩, by simp⟩

def InsideAny (loc : Location) (configurations : List (String × Entry)) (place : Location) : Prop :=
  ∃ x ∈ configurations, Inside (loc ++ [x.1]) place

theorem not_insideAny {others : List (String × Entry)} (h : ∀ x ∈ others, name ≠ x.1) (rest : Location) :
    ¬InsideAny loc others (loc ++ [name] ++ rest) := by
  rintro ⟨x, hx, inner, next, more, heq⟩
  simp only [append_assoc, append_cancel_left_eq, cons_append, nil_append, List.cons.injEq] at heq
  exact h x hx heq.1

theorem runs_addPackages_of_long (hphysical : ws.IsFolder physical loc) (hname : IsFileName name)
    (hlong : ¬byteLength (physical.child name).render ≤ maxPathLength) (choice : MotionChoice) :
    (addPackages choice (physical.child name)).Runs ws
      (.error (.file .nameTooLong (physical.child name).render)) ws := by
  have hlist : ws.list (physical.child name) = .error (.file .nameTooLong (physical.child name).render) := by
    simp [Workspace.list, hphysical.locate_child hname, hlong]
  unfold addPackages
  refine (runs_say _ ws).bind ((runs_say _ ws).bind ?_)
  exact runs_look_bind_error hlist _

/-- The run over some configurations. A second one does nothing, and unless the run fails all the
configurations are settled. -/
theorem settlesIn_forM_addPackages (choice : MotionChoice) (hdistinct : configurations.Pairwise fun x y => x.1 ≠ y.1)
    (hphysical : ws.IsFolder physical loc) (hsound : ws.tree.Sound)
    (hfolders : ∀ x ∈ configurations, ws.tree.get? (loc ++ [x.1]) = some .directory) :
    SettlesIn (configurations.forM fun (name, _) => addPackages choice (physical.child name)) ws
      (InsideAny loc configurations)
      fun ws' => ∀ x ∈ configurations, ConfigurationSettled choice ws' (physical.child x.1) (loc ++ [x.1]) := by
  induction configurations generalizing ws with
  | nil => exact ⟨_, ws, runs_pure () ws, .refl _ ws, quiet_pure () ws, by simp⟩
  | cons x configurations ih =>
    rw [pairwise_cons] at hdistinct
    rw [forall_mem_cons] at hfolders
    have hname : IsFileName x.1 := hsound.isFileName hfolders.1 (by simp)
    by_cases hshort : byteLength (physical.child x.1).render ≤ maxPathLength
    · have hfolder := hphysical.child hname hshort hfolders.1
      obtain ⟨outcome, ws₁, hstep⟩ := exists_configurationStep choice hfolder hsound
      cases outcome with
      | error fault =>
        obtain rfl := hstep.failing fault rfl
        exact .of_runs_error _ (hstep.runs.bind_error _)
      | ok done =>
        have hframe := hstep.frame
        obtain ⟨outcome, ws', hrest, hframe', hquiet, hsettled⟩ := ih hdistinct.2 (hphysical.of_frame hframe)
          (hframe.sound hsound) fun y hy => hframe.directories _ (hfolders.2 y hy)
        -- What is done to the other configurations leaves this one settled.
        have hfirst : ConfigurationSettled choice ws' (physical.child x.1) (loc ++ [x.1]) := by
          refine hstep.settles.congr (hfolder.of_frame hframe) ((hfolder.of_frame hframe).of_frame hframe')
            (hframe.sound hsound) fun rest => ?_
          exact hframe'.outside _ (not_insideAny hdistinct.1 rest)
        refine ⟨outcome, ws', hstep.runs.bind hrest, ?_, ?_, ?_⟩
        · refine (hframe.mono fun place h => ?_).trans (hframe'.mono fun place h => ?_)
          · exact ⟨x, mem_cons_self, h⟩
          · obtain ⟨y, hy, hplace⟩ := h
            exact ⟨y, mem_cons_of_mem _ hy, hplace⟩
        · obtain ⟨outcome, ws₂, hagain⟩ := exists_configurationStep choice
            ((hfolder.of_frame hframe).of_frame hframe') (hframe'.sound (hframe.sound hsound))
          obtain rfl := hagain.steady hfirst
          exact Quiet.bind ⟨outcome, hagain.runs⟩ fun _ => hquiet
        · intro hok
          exact forall_mem_cons.2 ⟨hfirst, hsettled hok⟩
    · exact .of_runs_error _ ((runs_addPackages_of_long hphysical hname hshort choice).bind_error _)

/-- The locations inside the directories of the configurations in a directory. -/
def InsideAll (ws : Workspace) (physical : Path) (place : Location) : Prop :=
  ∃ loc name, ws.locate physical = .ok loc ∧ Inside (loc ++ [name]) place

/-- All configurations in a directory are settled. -/
def AllSettled (choice : MotionChoice) (ws : Workspace) (physical : Path) : Prop :=
  ∀ loc name, ws.IsFolder physical loc → ws.tree.get? (loc ++ [name]) = some .directory →
    ConfigurationSettled choice ws (physical.child name) (loc ++ [name])

/-- What stands in the folder of a project is not inside the directories of its configurations. -/
theorem get?_of_insideAll (hfolder : ws.IsFolder folder loc)
    (hframe : ws.Frame (InsideAll ws (folder.child "Physical")) ws') (name : String) :
    ws'.tree.get? (loc ++ [name]) = ws.tree.get? (loc ++ [name]) := by
  refine hframe.outside _ ?_
  rintro ⟨deeper, config, hlocate, inner, next, more, heq⟩
  rw [hfolder.locate_child (by decide)] at hlocate
  split at hlocate
  · cases hlocate
    have hlength := congrArg List.length heq
    simp at hlength
  · exact absurd hlocate (by simp)

/-- What is inside the directories of configurations lies deep. -/
theorem InsideAny.length_le {place : Location} (h : InsideAny loc configurations place) :
    loc.length + 3 ≤ place.length := by
  obtain ⟨x, -, inner, next, more, rfl⟩ := h
  simp

theorem runs_addAllPackages (hphysical : ws.IsFolder physical loc)
    (hrun : (((ws.tree.children loc).filter fun x => x.2.isDirectory).forM fun (name, _) => addPackages choice (physical.child name) : Script Unit).Runs ws outcome ws') :
    (addAllPackages choice physical).Runs ws outcome ws' := by
  unfold addAllPackages
  refine runs_look_bind hphysical.isDirectory_eq ?_
  rw [if_pos rfl]
  refine runs_look_bind hphysical.list ?_
  cases outcome with
  | error fault => exact hrun.bind_error _
  | ok done => exact hrun.bind ((runs_say _ ws').bind (runs_say _ ws'))

/-- The run over all configurations in a directory. A second one does nothing. -/
theorem settlesIn_addAllPackages (choice : MotionChoice) (hsound : ws.tree.Sound) (physical : Path) :
    SettlesIn (addAllPackages choice physical) ws (InsideAll ws physical) fun ws' => AllSettled choice ws' physical := by
  rcases hdir : ws.isDirectory physical with fault | (_ | _)
  · exact .of_runs_error _ (runs_look_bind_error hdir _)
  · have hrun : (addAllPackages choice physical).Runs ws (.ok ()) ws := by
      refine runs_look_bind hdir ?_
      exact runs_say _ ws
    refine ⟨_, ws, hrun, .refl _ ws, ⟨_, hrun⟩, fun _ loc name hphysical => ?_⟩
    rw [hphysical.isDirectory_eq] at hdir
    exact absurd hdir (by simp)
  · obtain ⟨loc, hphysical⟩ := Workspace.exists_isFolder_of_isDirectory hdir
    obtain ⟨outcome, ws', hrun, hframe, hquiet, hsettled⟩ :=
      settlesIn_forM_addPackages choice (ws.tree.pairwise_folders loc) hphysical hsound
        fun x hx => (Tree.mem_folders_iff.1 hx).1
    -- The second run finds the same configurations.
    have hsame : ∀ name, ws'.tree.get? (loc ++ [name]) = ws.tree.get? (loc ++ [name]) := by
      refine fun name => hframe.outside _ fun hinside => ?_
      have hlength := hinside.length_le
      simp at hlength
    have hchildren : ws'.tree.children loc = ws.tree.children loc := Tree.children_congr hsame
    have hphysical' := hphysical.of_frame hframe
    refine ⟨outcome, ws', runs_addAllPackages hphysical hrun, hframe.mono ?_, ?_, ?_⟩
    · rintro place ⟨x, -, hinside⟩
      exact ⟨loc, x.1, hphysical.located, hinside⟩
    · obtain ⟨outcome', hagain⟩ := hquiet
      rw [← hchildren] at hagain
      exact ⟨outcome', runs_addAllPackages hphysical' hagain⟩
    · intro hok other name hother hget
      cases Except.ok.inj (hphysical'.located.symm.trans hother.located)
      rw [hsame] at hget
      exact hsettled hok (name, .directory) (Tree.mem_folders_iff.2 ⟨hget, rfl⟩)

/-! ## The tool -/

section Tool

variable {caller : String} {line : List String} {folder : String} {verbose : Bool} {file : String}

theorem runs_runPackageFolders
    (hreq : (projectRequest caller packageFoldersPurpose line).Runs ws (.ok (folder, verbose)) ws)
    (hfolder : ws.IsFolder (Path.ofString folder) loc)
    (hfile : ((ws.tree.children loc).map (·.1)).find? isProjectName = some file)
    (hrun : (addAllPackages (motionChoice ws ((Path.ofString folder).child file)) ((Path.ofString folder).child "Physical")).Runs ws outcome ws') :
    (runPackageFolders caller line).Runs ws outcome ws' := by
  unfold runPackageFolders
  refine hreq.bind ((runs_requireProject hfolder hfile caller).bind ?_)
  refine (runs_say _ ws).bind ((runs_say _ ws).bind ?_)
  refine runs_get_bind fun session hsession => ?_
  rw [hsession]
  exact (runs_say _ ws).bind hrun

/-- The project file is read as before if nothing has changed outside the directories of configurations. -/
theorem motionChoice_of_frame (hsound : ws.tree.Sound) (hfolder : ws.IsFolder (Path.ofString folder) loc)
    (hfile : ((ws.tree.children loc).map (·.1)).find? isProjectName = some file)
    (hfolder' : ws'.IsFolder (Path.ofString folder) loc)
    (hsame : ∀ name, ws'.tree.get? (loc ++ [name]) = ws.tree.get? (loc ++ [name])) :
    motionChoice ws' ((Path.ofString folder).child file) = motionChoice ws ((Path.ofString folder).child file) := by
  obtain ⟨entry, hget⟩ := exists_get?_of_find? hfile
  have hname : IsFileName file := hsound.isFileName hget (by simp)
  rw [motionChoice, motionChoice, hfolder.readBytes_congr hfolder' hname (hsame file)]

/-- A run of the tool. A second one does nothing, and unless the run fails all configurations of the project
are settled. -/
theorem settlesIn_runPackageFolders (caller : String) (line : List String) (hsound : ws.tree.Sound) :
    SettlesIn (runPackageFolders caller line) ws (fun _ => True) fun ws' => ∃ folder verbose file,
      (projectRequest caller packageFoldersPurpose line).Runs ws (.ok (folder, verbose)) ws ∧
      (requireProject caller folder).Runs ws (.ok file) ws ∧
      AllSettled (motionChoice ws ((Path.ofString folder).child file)) ws' ((Path.ofString folder).child "Physical") := by
  obtain ⟨req, hreq⟩ := exists_runs_projectRequest caller packageFoldersPurpose line ws.here
  rcases req with fault | ⟨folder, verbose⟩
  · exact .of_runs_error _ ((hreq ws rfl).bind_error _)
  rcases requireProject_cases ws caller folder with ⟨fault, hfault⟩ | ⟨loc, file, hfolder, hfile⟩
  · refine .of_runs_error fault ((hreq ws rfl).bind ?_)
    exact hfault.bind_error _
  obtain ⟨outcome, ws', hrun, hframe, hquiet, hsettled⟩ := settlesIn_addAllPackages
    (motionChoice ws ((Path.ofString folder).child file)) hsound ((Path.ofString folder).child "Physical")
  refine ⟨outcome, ws', runs_runPackageFolders (hreq ws rfl) hfolder hfile hrun, hframe.mono fun _ _ => trivial, ?_, fun hok =>
    ⟨folder, verbose, file, hreq ws rfl, runs_requireProject hfolder hfile caller, hsettled hok⟩⟩
  -- What stands in the folder of the project is still the same, so that the same file is found and read.
  have hfolder' := hfolder.of_frame hframe
  have hsame := get?_of_insideAll hfolder hframe
  have hfile' : ((ws'.tree.children loc).map (·.1)).find? isProjectName = some file := by
    rw [Tree.children_congr hsame, hfile]
  rw [← motionChoice_of_frame hsound hfolder hfile hfolder' hsame] at hquiet
  obtain ⟨outcome', hagain⟩ := hquiet
  exact ⟨outcome', runs_runPackageFolders (hreq ws' hframe.here) hfolder' hfile' hagain⟩

end Tool

/-- Running the tool a second time changes nothing, whatever the first run met. And the first run has done its
work: unless it failed, every configuration of the project is settled. -/
theorem runPackageFolders_twice (caller : String) (line : List String) {first second : Session}
    (hsound : first.workspace.tree.Sound)
    (hsecond : second.workspace = ((runPackageFolders caller line).exec first).2.workspace) :
    ((runPackageFolders caller line).exec second).2.workspace = second.workspace ∧
      (((runPackageFolders caller line).exec first).1 = .ok () → ∃ folder verbose file,
        ((projectRequest caller packageFoldersPurpose line).exec first).1 = .ok (folder, verbose) ∧
        ((requireProject caller folder).exec first).1 = .ok file ∧
        AllSettled (motionChoice first.workspace ((Path.ofString folder).child file)) second.workspace
          ((Path.ofString folder).child "Physical")) := by
  obtain ⟨outcome, ws', hrun, -, ⟨outcome', hagain⟩, hsettled⟩ := settlesIn_runPackageFolders caller line hsound
  obtain ⟨houtcome, hafter⟩ := hrun first rfl
  rw [hafter] at hsecond
  rw [houtcome, hsecond]
  refine ⟨(hagain second hsecond).2, fun hok => ?_⟩
  obtain ⟨folder, verbose, file, hrequest, hrequire, hall⟩ := hsettled hok
  exact ⟨folder, verbose, file, (hrequest first rfl).1, (hrequire first rfl).1, hall⟩

/-- A project with a hardware configuration whose list has one package, and with another one whose list cannot
be read. -/
def sampleConfigurations : Session where
  workspace := {
    tree := (((((((Tree.empty.insert ["M"] .directory).insert ["M", "m.apj"] (.file [])).insert
      ["M", "Physical"] .directory).insert ["M", "Physical", "Real"] .directory).insert
        ["M", "Physical", "Real", "PLC"] .directory).insert ["M", "Physical", "Real", "PLC", "cpu.pkg"]
          (.file samplePackageList)).insert ["M", "Physical", "Test"] .directory).insert
            ["M", "Physical", "Test", "PLC"] .directory |>.insert
              ["M", "Physical", "Test", "PLC", "cpu.pkg"] (.file [])
    here := [] }

theorem runPackageFolders_twice_sample :
    sampleConfigurations.workspace.tree.entries.length = 9 ∧
      ((runPackageFolders "tool" ["M"]).exec sampleConfigurations).2.workspace.tree.entries.length = 13 ∧
      ((runPackageFolders "tool" ["M"]).exec
        ((runPackageFolders "tool" ["M"]).exec sampleConfigurations).2).2.workspace =
          ((runPackageFolders "tool" ["M"]).exec sampleConfigurations).2.workspace := by
  refine ⟨by decide +kernel, by decide +kernel, ?_⟩
  exact (runPackageFolders_twice "tool" ["M"] (by decide +kernel) rfl).1

end StudioMigration
