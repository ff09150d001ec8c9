import StudioMigration.Proofs.Package.Reference
import StudioMigration.Proofs.Package.Rerun

/-!
# What a run without complaints leaves

A run of the package tool that does not complain has dealt with every package that it knows of: the package
is referred to, or something stood in the place of its folder before, or the folder has a package file now.

* `PackagesPlaced` says what was done for some packages in one hardware directory.
* `packagesPlaced_addListedPackage` is the step for one package, `PackagesPlaced.trans` puts steps together, and
  `exists_configurationPlaced_of_calm` is the run over the packages of a configuration.
* `exists_allPlaced_runPackageFolders` is the run over all configurations of a project.
-/

namespace StudioMigration

open Xml List PackageList Script Workspace
open PackageList (listing)
open Text.Utf8 (Bytes byteLength)

variable {type config name pkg : String} {physical folder hardware : Path} {choice : MotionChoice}
  {loc : Location} {session after : Session} {found : List PackageList.PackageEntry} {ws ws' : Workspace}
  {doc : XmlDocument} {packages : List (String × String)} {presence : PackageList.Presence} {bytes : Bytes}

/-! ## What a list says -/

/-- The list in a hardware directory can be used. -/
def ListUsable (ws : Workspace) (loc : Location) : Prop :=
  ∃ bytes found, ws.tree.get? (loc ++ ["cpu.pkg"]) = some (.file bytes) ∧ listing bytes = .ok found

def ListRefers (ws : Workspace) (loc : Location) (pkg : String) : Prop :=
  ∃ bytes found, ws.tree.get? (loc ++ ["cpu.pkg"]) = some (.file bytes) ∧ listing bytes = .ok found ∧
    (found.any fun entry => entry.refersTo pkg)

/-- The text of the list in a hardware directory mentions a package. -/
def ListMentions (ws : Workspace) (loc : Location) (pkg : String) : Prop :=
  ∃ bytes, ws.tree.get? (loc ++ ["cpu.pkg"]) = some (.file bytes) ∧ Mentions pkg bytes

section List

variable (hget : ws.tree.get? (loc ++ ["cpu.pkg"]) = some (.file bytes))

include hget

theorem listRefers_iff (hfound : listing bytes = .ok found) (pkg : String) :
    ListRefers ws loc pkg ↔ (found.any fun entry => entry.refersTo pkg) := by
  constructor
  · rintro ⟨bytes', found', hget', hfound', hrefers⟩
    cases Entry.file.inj (Option.some.inj (hget.symm.trans hget'))
    cases hfound.symm.trans hfound'
    exact hrefers
  · intro hrefers
    exact ⟨bytes, found, hget, hfound, hrefers⟩

theorem listMentions_iff (pkg : String) : ListMentions ws loc pkg ↔ Mentions pkg bytes := by
  constructor
  · rintro ⟨bytes', hget', hmentions⟩
    cases Entry.file.inj (Option.some.inj (hget.symm.trans hget'))
    exact hmentions
  · intro hmentions
    exact ⟨bytes, hget, hmentions⟩

end List

/-! ## Packages that are placed -/

/-- What was done for some packages in a hardware directory with a list that can be used: nothing has vanished,
nothing has changed but the list and the folders of the packages, and the list still refers to the same packages
and mentions them as before. Every package is referred to, or something stood in its place, or it has a package
file now. -/
structure PackagesPlaced (loc : Location) (packages : List String) (ws ws' : Workspace) : Prop where
  usable : ListUsable ws loc
  kept : ∀ rest, ws.tree.get? (loc ++ rest) ≠ none → ws'.tree.get? (loc ++ rest) ≠ none
  outside : ∀ rest, rest ≠ ["cpu.pkg"] → (∀ pkg ∈ packages, ∀ more, rest ≠ pkg :: more) →
    ws'.tree.get? (loc ++ rest) = ws.tree.get? (loc ++ rest)
  refers : ListUsable ws' loc → ∀ pkg, ListRefers ws' loc pkg ↔ ListRefers ws loc pkg
  mentions : ∀ pkg, (∀ c ∈ pkg.toList, Text.isAsciiLetter c) → ListRefers ws loc pkg →
    ListMentions ws loc pkg → ListMentions ws' loc pkg
  placed : ∀ pkg ∈ packages, ListRefers ws loc pkg ∨ ws.tree.get? (loc ++ [pkg]) ≠ none ∨
    ws'.tree.get? (loc ++ [pkg, "Package.pkg"]) ≠ none

section Placed

variable {packages others : List String} {ws'' : Workspace}

theorem PackagesPlaced.trans (h : PackagesPlaced loc packages ws ws')
    (h' : PackagesPlaced loc others ws' ws'') (hothers : "cpu.pkg" ∉ others) :
    PackagesPlaced loc (packages ++ others) ws ws'' where
  usable := h.usable
  kept rest hget := h'.kept rest (h.kept rest hget)
  outside rest hlist hrest := by
    rw [h'.outside rest hlist fun pkg hmem => hrest pkg (mem_append_right _ hmem),
      h.outside rest hlist fun pkg hmem => hrest pkg (mem_append_left _ hmem)]
  refers husable pkg := (h'.refers husable pkg).trans (h.refers h'.usable pkg)
  mentions pkg hletters hrefers hmentions :=
    h'.mentions pkg hletters ((h.refers h'.usable pkg).2 hrefers)
      (h.mentions pkg hletters hrefers hmentions)
  placed pkg hmem := by
    by_cases hfirst : pkg ∈ packages
    · exact (h.placed pkg hfirst).imp_right (.imp_right (h'.kept _))
    · have hlast := (mem_append.1 hmem).resolve_left hfirst
      -- the first step has not touched the folder of a package that it was not about
      have hsame : ws'.tree.get? (loc ++ [pkg]) = ws.tree.get? (loc ++ [pkg]) := by
        refine h.outside [pkg] ?_ fun other hother more heq => ?_
        · rintro heq
          exact hothers ((cons.inj heq).1 ▸ hlast)
        · exact hfirst ((cons.inj heq).1 ▸ hother)
      rcases h'.placed pkg hlast with hrefers | hstood | hfile
      · exact .inl ((h.refers h'.usable pkg).1 hrefers)
      · exact .inr (.inl (hsame ▸ hstood))
      · exact .inr (.inr hfile)

/-- Only what stands below the directory counts. -/
theorem PackagesPlaced.congr {first last : Workspace} (h : PackagesPlaced loc packages ws ws')
    (hfirst : ∀ rest, first.tree.get? (loc ++ rest) = ws.tree.get? (loc ++ rest))
    (hlast : ∀ rest, last.tree.get? (loc ++ rest) = ws'.tree.get? (loc ++ rest)) :
    PackagesPlaced loc packages first last := by
  obtain ⟨husable, hkept, houtside, hrefers, hmentions, hplaced⟩ := h
  constructor <;> simp only [ListUsable, ListRefers, ListMentions, hfirst, hlast] <;> assumption

theorem PackagesPlaced.of_listRefers (h : ListRefers ws loc pkg) : PackagesPlaced loc [pkg] ws ws where
  usable := by
    obtain ⟨bytes, found, hget, hfound, -⟩ := h
    exact ⟨bytes, found, hget, hfound⟩
  kept _ := id
  outside _ _ _ := rfl
  refers _ _ := Iff.rfl
  mentions _ _ _ := id
  placed other hmem := by
    rw [mem_singleton] at hmem
    exact .inl (hmem ▸ h)

/-- A package is placed by writing the list, or leaving it as it is, and then making the folder. -/
theorem PackagesPlaced.of_frame (hpkg : IsPackageName pkg) {bytes' : Bytes}
    (hget : ws.tree.get? (loc ++ ["cpu.pkg"]) = some (.file bytes)) (hfound : listing bytes = .ok found)
    (hlist : ws'.tree.get? (loc ++ ["cpu.pkg"]) = some (.file bytes'))
    (hsame : ∀ place, place ≠ loc ++ ["cpu.pkg"] → ws'.tree.get? place = ws.tree.get? place)
    (hentries : ∀ found', listing bytes' = .ok found' → ∀ other, (found'.any fun entry => entry.refersTo other) = found.any fun entry => entry.refersTo other)
    (hmentions : ∀ other, (∀ c ∈ other.toList, Text.isAsciiLetter c) → (found.any fun entry => entry.refersTo other) → Mentions other bytes → Mentions other bytes')
    (hframe : ws'.Frame (InPackage loc pkg) ws'')
    (hplaced : ws.tree.get? (loc ++ [pkg]) ≠ none ∨ ws''.tree.get? (loc ++ [pkg, "Package.pkg"]) ≠ none) :
    PackagesPlaced loc [pkg] ws ws'' := by
  have hlist' : ws''.tree.get? (loc ++ ["cpu.pkg"]) = some (.file bytes') := by
    rw [get?_list_of_inPackage hpkg hframe, hlist]
  refine ⟨⟨bytes, found, hget, hfound⟩, fun rest hrest => hframe.kept _ ?_, fun rest hother hrest => ?_,
    fun husable other => ?_, fun other hletters hrefers hbefore => ?_, fun other hother => ?_⟩
  · by_cases heq : rest = ["cpu.pkg"]
    · simp [heq, hlist]
    · rwa [hsame _ (by simpa using heq)]
  · rw [hframe.outside, hsame _ (by simpa using hother)]
    rintro ⟨more, heq⟩
    exact hrest pkg (by simp) more (append_cancel_left heq)
  · obtain ⟨again, found', hagain, hfound'⟩ := husable
    cases Entry.file.inj (Option.some.inj (hlist'.symm.trans hagain))
    rw [listRefers_iff hlist' hfound', listRefers_iff hget hfound, hentries found' hfound']
  · rw [listRefers_iff hget hfound] at hrefers
    rw [listMentions_iff hget] at hbefore
    rw [listMentions_iff hlist']
    exact hmentions other hletters hrefers hbefore
  · rw [mem_singleton] at hother
    exact .inr (hother ▸ hplaced)

end Placed

/-! ## One package -/

theorem exists_of_openPackageList (hfolder : ws.IsFolder hardware loc)
    (h : openPackageList ws (hardware.child "cpu.pkg") = .ok doc) :
    byteLength (hardware.child "cpu.pkg").render ≤ maxPathLength ∧
      ∃ bytes, ws.tree.get? (loc ++ ["cpu.pkg"]) = some (.file bytes) ∧ readPackageList bytes = .ok doc := by
  have hlocate := hfolder.locate_child (by decide : IsFileName "cpu.pkg")
  by_cases hshort : byteLength (hardware.child "cpu.pkg").render ≤ maxPathLength
  · refine ⟨hshort, ?_⟩
    rw [if_pos hshort] at hlocate
    by_cases hfile : ∃ bytes, ws.tree.get? (loc ++ ["cpu.pkg"]) = some (.file bytes)
    · obtain ⟨bytes, hget⟩ := hfile
      exact ⟨bytes, hget, (openPackageList_hardware hfolder hshort hget).symm.trans h⟩
    · rw [not_exists] at hfile
      obtain ⟨fault, herror⟩ := exists_openPackageList_error hlocate hfile
      rw [h] at herror
      simp at herror
  · rw [if_neg hshort] at hlocate
    simp [openPackageList, readBytes, hlocate] at h

section Package

variable (hfolder : session.workspace.IsFolder hardware loc) (hpkg : IsPackageName pkg)

include hfolder hpkg

theorem get?_packageFile (hfree : session.workspace.tree.get? (loc ++ [pkg]) = none) {made : Bool}
    (h : (ensurePackageFolder (hardware.child pkg) type).exec session = (.ok made, after)) :
    after.workspace.tree.get? (loc ++ [pkg, "Package.pkg"]) ≠ none := by
  unfold ensurePackageFolder at h
  obtain ⟨isThere, hholds, h⟩ := exec_look_bind_eq_ok h
  have hname := hpkg.isFileName
  rw [hfolder.holds_child hname, hfree] at hholds
  split at hholds
  · obtain rfl : isThere = false := (Except.ok.inj hholds).symm
    rw [if_neg Bool.false_ne_true] at h
    obtain ⟨done, middle, hmake, h⟩ := exec_bind_eq_ok h
    obtain ⟨done, written, hwrite, h⟩ := exec_bind_eq_ok h
    rw [exec_pure, Prod.mk.injEq] at h
    obtain ⟨-, rfl⟩ := h
    obtain ⟨place, hlocate, hthere⟩ := get?_of_writeBytes (exec_change_eq_ok hwrite)
    -- the path still leads into the hardware directory, since no directory has gone
    obtain ⟨inner, rfl, hinner, -⟩ := locate_of_locate_child (by decide) hlocate
    obtain ⟨above, rfl, habove, -⟩ := locate_of_locate_child hname hinner
    have hkeeps := keeps_makeDirectories (hardware.child pkg) session
    rw [hmake] at hkeeps
    have hlocated := locate_mono hkeeps.here (fun _ => hkeeps.entries _ _) hfolder.located
    obtain rfl : above = loc := Except.ok.inj (habove.symm.trans hlocated)
    rw [append_assoc] at hthere
    exact hthere
  · simp at hholds

end Package

/-- What making sure of a package has done if it has succeeded. -/
theorem exists_of_ensurePackage {list : Path} {made : Creation}
    (h : (ensurePackage list pkg type).exec session = (.ok made, after)) :
    ∃ doc added middle, openPackageList session.workspace list = .ok doc ∧ add doc pkg = .ok added ∧
      session.workspace.writeAdded list added = .ok middle.workspace ∧
      (ensurePackageFolder (list.parent.join pkg) type).exec middle = (.ok made.folder, after) ∧
      made.object = added.isSome := by
  obtain ⟨doc, hopen, h⟩ := exec_look_bind_eq_ok h
  obtain ⟨added, hadd, h⟩ := exec_look_bind_eq_ok h
  -- in the end the folder is made, and nothing is done after that
  have hfolder : ∀ {middle : Session}, ((ensurePackageFolder (list.parent.join pkg) type) >>= fun isMade =>
      pure (⟨added.isSome, isMade⟩ : Creation)).exec middle = (.ok made, after) →
        (ensurePackageFolder (list.parent.join pkg) type).exec middle = (.ok made.folder, after) ∧
          made.object = added.isSome := by
    intro middle hrun
    obtain ⟨isMade, last, hmake, hlast⟩ := exec_bind_eq_ok hrun
    obtain ⟨rfl, rfl⟩ := hlast
    exact ⟨hmake, rfl⟩
  cases added with
  | none => exact ⟨doc, none, session, hopen, hadd, rfl, hfolder h⟩
  | some edited =>
    obtain ⟨done, middle, hlist, h⟩ := exec_bind_eq_ok h
    exact ⟨doc, some edited, middle, hopen, hadd, exec_change_eq_ok hlist, hfolder h⟩

/-- A list is usable if it says how a package is listed and, if the package is not referred to, takes it. -/
theorem exists_listing_of_presence (hread : readPackageList bytes = .ok doc)
    (hpresence : PackageList.presence doc pkg = .ok presence)
    (h : presence.reference ≠ none ∨ ∃ added, PackageList.add doc pkg = .ok added) :
    ∃ found, listing bytes = .ok found := by
  cases hfound : listing bytes with
  | ok found => exact ⟨found, rfl⟩
  | error fault =>
    exfalso
    rcases presence_or_add_of_listing hread hfound pkg with ⟨fault, hfault⟩ | ⟨hnone, hadd⟩
    · rw [hpresence] at hfault
      simp at hfault
    · rw [hpresence, Except.ok.injEq] at hnone
      rcases h with hreference | ⟨added, hadded⟩
      · exact hreference (by rw [hnone])
      · rw [hadd] at hadded
        simp at hadded

theorem listRefers_of_reference (hget : ws.tree.get? (loc ++ ["cpu.pkg"]) = some (.file bytes))
    (hread : readPackageList bytes = .ok doc) (hpresence : PackageList.presence doc pkg = .ok presence)
    (h : presence.reference ≠ none) : ListRefers ws loc pkg := by
  obtain ⟨found, hfound⟩ := exists_listing_of_presence hread hpresence (.inl h)
  obtain ⟨again, tag, children, hagain, hobjects, hentries⟩ := PackageList.listing_eq_ok.1 hfound
  cases hread.symm.trans hagain
  rw [presence_of_entries hobjects hentries pkg, Except.ok.injEq] at hpresence
  refine (listRefers_iff hget hfound pkg).2 ?_
  obtain ⟨path, hpath⟩ := Option.ne_none_iff_exists'.1 h
  rw [← hpresence, Option.map_eq_some_iff] at hpath
  obtain ⟨entry, hlast, -⟩ := hpath
  obtain ⟨hmem, hrefers⟩ := mem_filter.1 (mem_of_getLast? hlast)
  exact any_eq_true.2 ⟨entry, hmem, hrefers⟩

/-- The references of a list are mentioned after a package was added if they were before. -/
theorem mentions_bytesAdded (hread : readPackageList bytes = .ok doc) (hfound : listing bytes = .ok found)
    (hpkg : IsPackageName pkg) {added : Option XmlDocument}
    (hadd : add doc pkg = .ok added) {other : String} (hletters : ∀ c ∈ other.toList, Text.isAsciiLetter c)
    (hrefers : (found.any fun entry => entry.refersTo other)) (h : Mentions other bytes) :
    Mentions other (bytesAdded bytes added) := by
  obtain ⟨again, tag, children, hagain, hobjects, hentries⟩ := listing_eq_ok.1 hfound
  cases hread.symm.trans hagain
  obtain ⟨place, hindex, hplace⟩ := objects?_eq_ok_some.1 hobjects
  have hadded := add_of_hasOwn hindex hplace hpkg.fits (hasOwn_of_entries hentries pkg)
  obtain rfl := Except.ok.inj (hadd.symm.trans hadded)
  split
  · exact h
  · exact mentions_added hplace hentries hletters hrefers _

theorem packagesPlaced_addListedPackage (hfolder : session.workspace.IsFolder hardware loc)
    (hsound : session.workspace.tree.Sound) (hpkg : IsPackageName pkg) {isThere : Bool}
    (h : (addListedPackage (hardware.child "cpu.pkg") config pkg type).exec session = (.ok isThere, after)) :
    PackagesPlaced loc [pkg] session.workspace after.workspace := by
  unfold addListedPackage at h
  obtain ⟨presence, hpresence, h⟩ := exec_look_bind_eq_ok h
  obtain ⟨doc, hopen, -⟩ := bind_eq_ok_iff.1 hpresence
  rw [look_presence hopen] at hpresence
  obtain ⟨hshort, bytes, hget, hread⟩ := exists_of_openPackageList hfolder hopen
  cases hreference : presence.reference with
  | some path =>
    simp only [hreference] at h
    obtain ⟨done, middle, hsay, h⟩ := exec_bind_eq_ok h
    rw [exec_say, Prod.mk.injEq] at hsay
    rw [exec_pure, Prod.mk.injEq] at h
    obtain ⟨-, rfl⟩ := h
    obtain ⟨-, rfl⟩ := hsay
    exact .of_listRefers (listRefers_of_reference hget hread hpresence (by simp [hreference]))
  | none =>
    simp only [hreference] at h
    obtain ⟨thereBefore, hholds, h⟩ := exec_look_bind_eq_ok h
    obtain ⟨made, middle, hensure, h⟩ := exec_bind_eq_ok h
    obtain ⟨isThere, -, h⟩ := exec_look_bind_eq_ok h
    obtain ⟨done, last, hsay, h⟩ := exec_bind_eq_ok h
    rw [exec_forM_say, Prod.mk.injEq] at hsay
    rw [exec_pure, Prod.mk.injEq] at h
    obtain ⟨-, rfl⟩ := h
    obtain ⟨-, rfl⟩ := hsay
    obtain ⟨again, added, listed, hagain, hadd, hwrite, hmake, -⟩ := exists_of_ensurePackage hensure
    cases hopen.symm.trans hagain
    obtain ⟨found, hfound⟩ := exists_listing_of_presence hread hpresence (.inr ⟨added, hadd⟩)
    rw [hpkg.join hardware] at hmake hholds
    have hpath : byteLength (hardware.child pkg).render ≤ maxPathLength := by
      by_contra hlong
      rw [hfolder.holds_child hpkg.isFileName, if_neg hlong] at hholds
      simp at hholds
    obtain ⟨ws₁, hwrite', -, hlist, hsame, hframe⟩ := exists_writeAdded hfolder hshort hget added
    obtain rfl := Except.ok.inj (hwrite.symm.trans hwrite')
    have hfolder' := hfolder.of_frame hframe
    obtain ⟨outcome, ws', hrun, hframe', -, -⟩ := exists_runs_ensurePackageFolder hfolder' (hframe.sound hsound)
      hpkg.isFileName hpath type
    obtain rfl := hrun.workspace_eq hmake
    refine .of_frame hpkg hget hfound hlist hsame (fun found' hfound' other => ?_)
      (fun other => mentions_bytesAdded hread hfound hpkg hadd) hframe' ?_
    · rw [eq_of_listing_bytesAdded hpkg hread hfound hadd hfound']
      split <;> simp [PackageList.PackageEntry.refersTo]
    -- the folder was there, or it has been made just now
    by_cases hfree : session.workspace.tree.get? (loc ++ [pkg]) = none
    · have hstill : listed.workspace.tree.get? (loc ++ [pkg]) = none := by
        rw [hsame _ (by simpa using hpkg.other), hfree]
      have hfile := get?_packageFile hfolder' hpkg hstill hmake
      exact .inr hfile
    · exact .inl hfree

/-! ## One configuration -/

theorem steady_addListedPackage (list : Path) (config pkg type : String) :
    (addListedPackage list config pkg type).Steady := by
  unfold addListedPackage
  refine steady.bind (steady.look _) fun presence => ?_
  split
  · exact steady.bind (steady.say _) fun _ => steady.pure _
  · refine steady.bind (steady.look _) fun thereBefore => ?_
    have hensure := steady.ensurePackage (fun _ => steady_change _) (fun _ _ => steady_change _) list pkg type
    refine steady.bind hensure fun made => ?_
    refine steady.bind (steady.look _) fun isThere => ?_
    exact steady.bind (steady.forM steady.say) fun _ => steady.pure _

theorem stream_packageFaultNote (config : String) (fault : Fault) :
    (packageFaultNote config fault).stream = .err := by
  unfold packageFaultNote
  split
  · exact Note.stream_error _ _
  · exact Note.stream_error _ _

theorem steady_addPackage (folder : Path) (config pkg type : String) :
    (addPackage folder config pkg type).Steady := by
  unfold addPackage
  refine steady.bind (steady.say _) fun _ => steady.bind (steady.look _) fun list => ?_
  cases list with
  | none => exact steady.bind (steady.say _) fun _ => steady.pure _
  | some list =>
    refine steady.tryCatch (steady_addListedPackage list config pkg type) fun fault => ?_
    exact steady.bind (steady.say _) fun _ => steady.pure _

theorem steady_addEach (folder : Path) (config : String) (packages : List (String × String)) :
    (addEach folder config packages).Steady :=
  steady.forM fun x => steady.bind (steady_addPackage folder config x.1 x.2) fun _ => steady.pure ()

/-- A step that does not complain has dealt with the package. -/
theorem calm_addPackage (hown : OwnList session.workspace folder loc name) {isThere : Bool}
    (hpkg : IsPackageName pkg) (h : (addPackage folder config pkg type).Calm session isThere after) :
    PackagesPlaced (loc ++ [name]) [pkg] session.workspace after.workspace := by
  obtain ⟨start, hstart, hsaid⟩ := Calm.of_say_bind (Note.stream_info _ _) h
  rw [← hstart] at hown ⊢
  obtain ⟨list, hlist, hfound⟩ := hsaid.of_look_bind
  obtain rfl := Except.ok.inj (hown.chosen.symm.trans hlist)
  have hdone := hfound.of_tryCatch_say (steady_addListedPackage _ config pkg type)
    (stream_packageFaultNote config)
  exact packagesPlaced_addListedPackage hown.hardware hown.sound hpkg hdone.exec_eq

theorem calm_addEach (hne : packages ≠ []) (hpkgs : ∀ x ∈ packages, IsPackageName x.1)
    (hown : OwnList session.workspace folder loc name) (h : (addEach folder config packages).Calm session () after) :
    PackagesPlaced (loc ++ [name]) (packages.map (·.1)) session.workspace after.workspace := by
  induction packages generalizing session with
  | nil => exact absurd rfl hne
  | cons x packages ih =>
    rw [forall_mem_cons] at hpkgs
    have hadds := steady_addPackage folder config x.1 x.2
    obtain ⟨done, middle, hfirst, hrest⟩ := h.exists_of_bind (steady.bind hadds fun _ => steady.pure ())
      fun _ => steady_addEach folder config packages
    obtain ⟨isThere, same, hadd, hdone⟩ := hfirst.exists_of_bind hadds fun _ => steady.pure ()
    obtain ⟨-, rfl⟩ := Prod.mk.inj hdone.exec_eq
    have hplaced := calm_addPackage hown hpkgs.1 hadd
    cases packages with
    | nil =>
      obtain ⟨-, rfl⟩ := Prod.mk.inj hrest.exec_eq
      exact hplaced
    | cons y packages =>
      -- the first step has only touched what lies below the hardware directory
      obtain ⟨isThere', ws', hrun, hstep⟩ := exists_runs_addPackage hown hpkgs.1 config x.2
      obtain rfl := hrun.workspace_eq hadd.exec_eq
      have hothers := ih (by simp) hpkgs.2 (hown.of_frame hstep.frame) hrest
      have hnames : "cpu.pkg" ∉ (y :: packages).map (·.1) := by
        intro hmem
        obtain ⟨z, hz, heq⟩ := mem_map.1 hmem
        exact (hpkgs.2 z hz).other heq
      exact hplaced.trans hothers hnames

theorem exists_ownPackageList?_of_calm (hne : packages ≠ [])
    (h : (addEach folder config packages).Calm session () after) :
    ∃ found, ownPackageList? session.workspace folder = .ok found := by
  obtain ⟨x, packages, rfl⟩ := exists_cons_of_ne_nil hne
  obtain ⟨done, middle, hfirst, -⟩ := exec_bind_eq_ok h.exec_eq
  obtain ⟨isThere, middle, hadd, -⟩ := exec_bind_eq_ok hfirst
  unfold addPackage at hadd
  rw [exec_bind_ok (exec_say session _)] at hadd
  obtain ⟨found, hfound, -⟩ := exec_look_bind_eq_ok hadd
  exact ⟨found, hfound⟩

def HasList (ws : Workspace) (loc : Location) : Prop :=
  ∃ name, ws.tree.get? (loc ++ [name]) = some .directory ∧ ws.tree.get? (loc ++ [name] ++ ["cpu.pkg"]) ≠ none

/-- All configurations in a directory have a directory with a list. -/
def ListsThere (ws : Workspace) (physical : Path) : Prop :=
  ∀ config ∈ ws.folders physical, ∃ hardware ∈ ws.folders config,
    ws.holds (hardware.child "cpu.pkg") = .ok true

theorem ListsThere.hasList (h : ListsThere ws physical) (hphysical : ws.IsFolder physical loc)
    (hsound : ws.tree.Sound) (hget : ws.tree.get? (loc ++ [config]) = some .directory) :
    HasList ws (loc ++ [config]) := by
  obtain ⟨hardware, hhardware, hholds⟩ := h (physical.child config)
    ((hphysical.mem_folders_iff).2 ⟨config, hget, rfl⟩)
  obtain ⟨deeper, hfolder⟩ := exists_isFolder_of_mem_folders hhardware
  obtain rfl := hphysical.location_child (hsound.isFileName hget (by simp)) hfolder
  obtain ⟨name, hdir, rfl⟩ := hfolder.mem_folders_iff.1 hhardware
  refine ⟨name, hdir, ?_⟩
  rw [hfolder.holds_grandchild (hsound.isFileName hdir (by simp)) (by decide) hdir] at hholds
  split at hholds
  · rw [← Option.isSome_iff_ne_none]
    exact Except.ok.inj hholds
  · simp at hholds

theorem exists_list_of_hasList (hfolder : ws.IsFolder folder loc) (hsound : ws.tree.Sound)
    (hlist : HasList ws loc) {found : Option Path} (h : ownPackageList? ws folder = .ok found) :
    ∃ list, found = some list := by
  cases found with
  | some list => exact ⟨list, rfl⟩
  | none =>
    exfalso
    obtain ⟨name, hdir, hthere⟩ := hlist
    rw [ownPackageList?_eq hfolder] at h
    exact hthere (hfolder.get?_of_searchFolders hsound (by decide) h hdir (mem_singleton_self _))

/-- What a run has done in a configuration: the list in one of its directories was chosen, and the packages were
placed beside it. Nothing has changed in its other directories. -/
structure ConfigurationPlaced (choice : MotionChoice) (folder : Path) (loc : Location) (name : String)
    (ws ws' : Workspace) : Prop where
  isFolder : ws.IsFolder folder loc
  chosen : ownPackageList? ws folder = .ok (some ((folder.child name).child "cpu.pkg"))
  elsewhere : ∀ rest, (∀ more, rest ≠ name :: more) → ws'.tree.get? (loc ++ rest) = ws.tree.get? (loc ++ rest)
  placed : PackagesPlaced (loc ++ [name]) ((neededPackages choice).map (·.1)) ws ws'

theorem ConfigurationPlaced.ownList (h : ConfigurationPlaced choice folder loc name ws ws')
    (hsound : ws.tree.Sound) : OwnList ws folder loc name := by
  obtain ⟨hardware, heq, hown⟩ := exists_ownList h.isFolder hsound h.chosen
  obtain ⟨rfl, -⟩ := Path.grandchild_inj heq
  exact hown

theorem ConfigurationPlaced.congr {first last : Workspace} (h : ConfigurationPlaced choice folder loc name ws ws')
    (hfolder : first.IsFolder folder loc) (hsound : ws.tree.Sound)
    (hfirst : ∀ rest, first.tree.get? (loc ++ rest) = ws.tree.get? (loc ++ rest))
    (hlast : ∀ rest, last.tree.get? (loc ++ rest) = ws'.tree.get? (loc ++ rest)) :
    ConfigurationPlaced choice folder loc name first last where
  isFolder := hfolder
  chosen := by
    rw [ownPackageList?_congr h.isFolder hsound hfolder (fun name => hfirst [name]) fun name => ?_, h.chosen]
    rw [append_assoc, hfirst]
  elsewhere rest hrest := by rw [hlast, hfirst, h.elsewhere rest hrest]
  placed := by
    refine h.placed.congr (fun rest => ?_) fun rest => ?_
    · rw [append_assoc, hfirst]
    · rw [append_assoc, hlast]

section Configuration

variable (hfolder : session.workspace.IsFolder folder loc) (hsound : session.workspace.tree.Sound)
  (hlist : HasList session.workspace loc)

include hfolder hsound hlist

theorem exists_configurationPlaced_of_calm (h : (addPackages choice folder).Calm session () after) :
    ∃ name, ConfigurationPlaced choice folder loc name session.workspace after.workspace := by
  unfold addPackages at h
  obtain ⟨ruled, hruled, h⟩ := Calm.of_say_bind (Note.stream_plain _ _) h
  obtain ⟨start, hstart, h⟩ := Calm.of_say_bind (Note.stream_info _ _) h
  rw [← hruled, ← hstart] at hfolder hsound hlist ⊢
  obtain ⟨found, hchildren, h⟩ := h.of_look_bind
  rw [hfolder.list] at hchildren
  obtain rfl := Except.ok.inj hchildren
  have hdir : (start.workspace.tree.children loc).any (·.2.isDirectory) := by
    obtain ⟨name, hname, -⟩ := hlist
    exact any_eq_true.2 ⟨(name, .directory), (Tree.mem_children_iff _ _).2 hname, rfl⟩
  rw [if_pos hdir] at h
  obtain ⟨done, last, hrun, hlast⟩ := h.exists_of_bind (steady_addEach folder folder.name _) (by
    intro done
    split
    · exact steady.say _
    · exact steady.pure ())
  -- the last note changes nothing
  have hsame : after.workspace = last.workspace := by
    have hexec := hlast.exec_eq
    split at hexec
    · exact (runs_say _ _).workspace_eq hexec
    · exact (runs_pure _ _).workspace_eq hexec
  have hne : neededPackages choice ≠ [] := by simp [neededPackages]
  obtain ⟨found, hfound⟩ := exists_ownPackageList?_of_calm hne hrun
  obtain ⟨list, rfl⟩ := exists_list_of_hasList hfolder hsound hlist hfound
  obtain ⟨name, rfl, hown⟩ := exists_ownList hfolder hsound hfound
  -- the run has only touched what lies below the hardware directory
  obtain ⟨ws', hagain, hframe, -, -⟩ := exists_runs_addEach folder.name (fun _ => isPackageName_of_needed) hown
  obtain rfl := hagain.workspace_eq hrun.exec_eq
  rw [hsame]
  refine ⟨name, hfolder, hfound, fun rest hrest => hframe.outside _ ?_, ?_⟩
  · rintro ⟨next, more, heq⟩
    rw [append_assoc, append_cancel_left_eq] at heq
    exact hrest _ heq
  · exact calm_addEach hne (fun _ => isPackageName_of_needed) hown hrun

end Configuration

/-! ## All configurations -/

theorem steady_addPackages (choice : MotionChoice) (folder : Path) : (addPackages choice folder).Steady := by
  unfold addPackages
  refine steady.bind (steady.say _) fun _ => steady.bind (steady.say _) fun _ => ?_
  refine steady.bind (steady.look _) fun found => ?_
  split
  · refine steady.bind (steady_addEach folder folder.name _) fun _ => ?_
    split
    · exact steady.say _
    · exact steady.pure ()
  · exact steady.pure ()

theorem configurationPlaced_forM {configurations : List (String × Entry)}
    (hdistinct : configurations.Pairwise fun x y => x.1 ≠ y.1)
    (hphysical : session.workspace.IsFolder physical loc) (hsound : session.workspace.tree.Sound)
    (hfolders : ∀ x ∈ configurations, session.workspace.tree.get? (loc ++ [x.1]) = some .directory)
    (hlists : ∀ x ∈ configurations, HasList session.workspace (loc ++ [x.1]))
    (h : (configurations.forM fun (name, _) => addPackages choice (physical.child name)).Calm session () after) :
    ∀ x ∈ configurations, ∃ name, ConfigurationPlaced choice (physical.child x.1) (loc ++ [x.1]) name
      session.workspace after.workspace := by
  induction configurations generalizing session with
  | nil => simp
  | cons x configurations ih =>
    rw [pairwise_cons] at hdistinct
    rw [forall_mem_cons] at hfolders hlists
    obtain ⟨done, middle, hfirst, hrest⟩ := h.exists_of_bind (steady_addPackages choice (physical.child x.1))
      fun _ => steady.forM fun y => steady_addPackages choice (physical.child y.1)
    have hname : IsFileName x.1 := hsound.isFileName hfolders.1 (by simp)
    have hshort : byteLength (physical.child x.1).render ≤ maxPathLength := by
      by_contra hlong
      have hfails := (runs_addPackages_of_long hphysical hname hlong choice session rfl).1
      rw [hfirst.exec_eq] at hfails
      simp at hfails
    have hfolder := hphysical.child hname hshort hfolders.1
    -- the first configuration is not touched again, nor are the others touched now
    obtain ⟨outcome, ws', hstep⟩ := exists_configurationStep choice hfolder hsound
    obtain rfl := hstep.runs.workspace_eq hfirst.exec_eq
    have hframe := hstep.frame
    obtain ⟨outcome', ws', hrun, hframe', -, -⟩ := settlesIn_forM_addPackages choice hdistinct.2
      (hphysical.of_frame hframe) (hframe.sound hsound) fun y hy => hframe.directories _ (hfolders.2 y hy)
    obtain rfl := hrun.workspace_eq hrest.exec_eq
    have hothers : ∀ y ∈ configurations, ∀ rest, middle.workspace.tree.get? (loc ++ [y.1] ++ rest) =
        session.workspace.tree.get? (loc ++ [y.1] ++ rest) := by
      intro y hy rest
      refine hframe.outside _ fun hinside => ?_
      have hapart : ∀ z ∈ [x], y.1 ≠ z.1 := by simpa using (hdistinct.1 y hy).symm
      exact not_insideAny hapart rest ⟨x, by simp, hinside⟩
    rw [forall_mem_cons]
    constructor
    · obtain ⟨name, hplaced⟩ := exists_configurationPlaced_of_calm hfolder hsound hlists.1 hfirst
      refine ⟨name, hplaced.congr hfolder hsound (fun _ => rfl) fun rest => ?_⟩
      exact hframe'.outside _ (not_insideAny hdistinct.1 rest)
    · intro y hy
      have hlists' : ∀ z ∈ configurations, HasList middle.workspace (loc ++ [z.1]) := by
        intro z hz
        obtain ⟨name, hdir, hthere⟩ := hlists.2 z hz
        exact ⟨name, hframe.directories _ hdir, hframe.kept _ hthere⟩
      obtain ⟨name, hplaced⟩ := ih hdistinct.2 (hphysical.of_frame hframe) (hframe.sound hsound)
        (fun z hz => hframe.directories _ (hfolders.2 z hz)) hlists' hrest y hy
      have hshort' := (locate_eq_ok_iff.1 hplaced.isFolder.located).2.1
      have hfolder' := hphysical.child (hsound.isFileName (hfolders.2 y hy) (by simp)) hshort' (hfolders.2 y hy)
      refine ⟨name, hplaced.congr hfolder' (hframe.sound hsound) (fun rest => ?_) fun _ => rfl⟩
      rw [hothers y hy rest]

/-- What a run has done in all configurations in a directory: the packages were placed, and nothing has changed
elsewhere. -/
structure AllPlaced (choice : MotionChoice) (physical : Path) (loc : Location) (ws ws' : Workspace) : Prop where
  isFolder : ws.IsFolder physical loc
  frame : ws.Frame (InsideAll ws physical) ws'
  placed : ∀ config, ws.tree.get? (loc ++ [config]) = some .directory →
    ∃ name, ConfigurationPlaced choice (physical.child config) (loc ++ [config]) name ws ws'

theorem AllPlaced.get?_configuration (h : AllPlaced choice physical loc ws ws') (config : String) :
    ws'.tree.get? (loc ++ [config]) = ws.tree.get? (loc ++ [config]) := by
  refine h.frame.outside _ ?_
  rintro ⟨deeper, other, hlocate, inner, next, more, heq⟩
  obtain rfl := Except.ok.inj (h.isFolder.located.symm.trans hlocate)
  have hlength := congrArg length heq
  simp at hlength

theorem exists_allPlaced_of_calm (hsound : session.workspace.tree.Sound)
    (hlists : ListsThere session.workspace physical) (h : (addAllPackages choice physical).Calm session () after) :
    ∃ loc, AllPlaced choice physical loc session.workspace after.workspace := by
  obtain ⟨outcome, ws', hrun, hframe, -, -⟩ := settlesIn_addAllPackages choice hsound physical
  obtain rfl := hrun.workspace_eq h.exec_eq
  unfold addAllPackages at h
  obtain ⟨isDirectory, hdir, h⟩ := h.of_look_bind
  cases isDirectory with
  | false => exact absurd h (not_calm_say (Note.stream_error _ _))
  | true =>
    obtain ⟨loc, hphysical⟩ := exists_isFolder_of_isDirectory hdir
    rw [if_pos rfl] at h
    obtain ⟨found, hfound, h⟩ := h.of_look_bind
    rw [hphysical.list] at hfound
    obtain rfl := Except.ok.inj hfound
    obtain ⟨done, last, hforM, hlast⟩ := h.exists_of_bind
      (steady.forM fun x => steady_addPackages choice (physical.child x.1))
      fun _ => steady.bind (steady.say _) fun _ => steady.say _
    -- the last notes change nothing
    obtain ⟨said, hsaid, hlast⟩ := hlast.of_say_bind (Note.stream_plain _ _)
    have hsame : after.workspace = last.workspace := by
      rw [(runs_say _ said.workspace).workspace_eq hlast.exec_eq, hsaid]
    refine ⟨loc, hphysical, hframe, fun config hget => ?_⟩
    rw [hsame]
    exact configurationPlaced_forM (Tree.pairwise_folders _ loc) hphysical hsound
      (fun x hx => (Tree.mem_folders_iff.1 hx).1) (fun x hx => hlists.hasList hphysical hsound (Tree.mem_folders_iff.1 hx).1)
      hforM (config, .directory) (Tree.mem_folders_iff.2 ⟨hget, rfl⟩)

theorem exists_allPlaced_runPackageFolders {caller : String} {line : List String}
    (hsound : session.workspace.tree.Sound) (h : (runPackageFolders caller line).Calm session () after)
    {folder : String} {verbose : Bool}
    (hreq : ((projectRequest caller packageFoldersPurpose line).exec session).1 = .ok (folder, verbose))
    {file : String} (hrequire : ((requireProject caller folder).exec session).1 = .ok file)
    (hlists : ListsThere session.workspace ((Path.ofString folder).child "Physical")) :
    ∃ loc, AllPlaced (motionChoice session.workspace ((Path.ofString folder).child file))
      ((Path.ofString folder).child "Physical") loc session.workspace after.workspace := by
  unfold runPackageFolders at h
  obtain ⟨req, asked, hasked, hlater⟩ := exec_bind_eq_ok h.exec_eq
  obtain rfl := eq_of_projectRequest hasked
  rw [hasked] at hreq
  obtain rfl := Except.ok.inj hreq
  obtain ⟨found, required, hrequired, hrest⟩ := exec_bind_eq_ok hlater
  obtain rfl := eq_of_requireProject hrequired
  rw [hrequired] at hrequire
  obtain rfl := Except.ok.inj hrequire
  -- what is left is three notes around the choice, and then the run over the configurations
  have hcalm : Calm _ required () after := ⟨hrest, h.complaints_eq⟩
  obtain ⟨first, hfirst, h⟩ := hcalm.of_say_bind (Note.stream_plain _ _)
  obtain ⟨second, hsecond, h⟩ := h.of_say_bind (Note.stream_plain _ _)
  have h := h.of_get_bind
  obtain ⟨third, hthird, h⟩ := h.of_say_bind (Note.stream_info _ _)
  rw [hsecond, hfirst] at hthird h
  rw [← hthird] at hsound hlists h ⊢
  exact exists_allPlaced_of_calm hsound hlists h

end StudioMigration
