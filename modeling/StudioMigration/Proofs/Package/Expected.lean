import StudioMigration.Proofs.Package.Placed

/-!
# What is told of a package

A package that is not referred to is listed in the end, and something stands where its folder belongs. The notes
for a package that was neither found nor listed and for a folder that is still missing are never told.

* `PackageList.isSome_of_add` says that a list takes a package just if it does not have it.
* `holds_of_ensurePackageFolder` says that there is a folder in the end.
* `addListedPackage_cases` says how the addition of a package can go.
-/

namespace StudioMigration

open Script

/-- A package is added just if the search has found none of its own. -/
theorem PackageList.isSome_of_add {doc : XmlDocument} {package : String} {presence : Presence}
    (hpresence : PackageList.presence doc package = .ok presence) {added : Option XmlDocument}
    (hadd : add doc package = .ok added) : added.isSome = !presence.isOwn := by
  unfold add at hadd
  rcases hindex : objectsIndex? doc with fault | (_ | place)
  · simp [hindex] at hadd
  · simp [hindex] at hadd
  rcases hplace : elementAt? doc place with _ | ⟨tag, children⟩
  · simp [hindex, hplace] at hadd
  have hobjects := objects?_eq_ok_some.2 ⟨place, hindex, hplace⟩
  cases hfound : entries children with
  | error fault => simp [PackageList.presence, hobjects, hfound] at hpresence
  | ok found =>
    -- the search reads all entries, so the addition comes to the same answer on those that it reads
    obtain rfl := Except.ok.inj ((presence_of_entries hobjects hfound package).symm.trans hpresence)
    simp only [hindex, hplace, hasOwn_of_entries hfound package, ok_bind] at hadd
    split at hadd
    · rename_i hown
      obtain rfl := Except.ok.inj hadd
      simp [hown]
    · rename_i hown
      split at hadd
      · simp at hadd
      · obtain rfl := Except.ok.inj hadd
        simp [hown]

/-- Where the folder of a package was to be made something stands, and a directory if it was made now. -/
theorem holds_of_ensurePackageFolder {session after : Session} {folder : Path} {type : String} {made : Bool}
    (h : (ensurePackageFolder folder type).exec session = (.ok made, after)) :
    after.workspace.holds folder = .ok true ∧ (made → after.workspace.isDirectory folder = .ok true) := by
  obtain ⟨isThere, hholds, h⟩ := exec_look_bind_eq_ok h
  cases isThere with
  | true =>
    obtain ⟨hmade, rfl⟩ := Prod.mk.inj h
    exact ⟨hholds, fun htrue => absurd (htrue ▸ hmade) (by simp)⟩
  | false =>
    obtain ⟨done, middle, -, h⟩ := exec_bind_eq_ok h
    obtain ⟨done, written, hwrite, h⟩ := exec_bind_eq_ok h
    obtain ⟨-, rfl⟩ := Prod.mk.inj h
    have hwrite := exec_change_eq_ok hwrite
    -- the package file could only be written in a directory
    obtain ⟨place, hlocate, -⟩ := Workspace.writeBytes_eq_ok hwrite
    obtain ⟨above, -, hfolder, hdir⟩ := Workspace.locate_of_locate_child (by decide) hlocate
    have hmade := Workspace.IsFolder.of_writeBytes ⟨hfolder, hdir⟩ hwrite
    exact ⟨hmade.holds_eq, fun _ => hmade.isDirectory_eq⟩

/-- A directory that a path leads to in one workspace is what it leads to in another. -/
def Workspace.KeepsFolder (folder : Path) (ws ws' : Workspace) : Prop :=
  ∀ loc, ws.IsFolder folder loc → ws'.IsFolder folder loc

theorem Workspace.Keeps.keepsFolder {ws ws' : Workspace} (h : ws.Keeps ws') (folder : Path) :
    ws.KeepsFolder folder ws' := fun _ hfolder =>
  ⟨locate_mono h.here (fun _ => h.entries _ _) hfolder.located, h.entries _ _ hfolder.isDirectory⟩

theorem within_ensurePackage_keepsFolder (folder list : Path) (package type : String) :
    (ensurePackage list package type).Within (Workspace.KeepsFolder folder) := by
  have hkeeps : Progress (Workspace.KeepsFolder folder) :=
    ⟨fun _ _ => id, fun h h' loc hfolder => h' loc (h loc hfolder)⟩
  refine hkeeps.closed.ensurePackage (fun _ => within_change hkeeps fun _ _ h => ?_)
    (fun _ _ => within_change hkeeps fun _ _ h _ hfolder => hfolder.of_writeBytes h) list package type
  exact (Workspace.keeps_makeDirectory h).keepsFolder folder

/-- After a package was made sure of, it was listed by that or before, and something stands where its folder belongs. -/
theorem of_ensurePackage {session after : Session} {list : Path} {package type : String} {doc : XmlDocument}
    (hopen : openPackageList session.workspace list = .ok doc) {presence : PackageList.Presence}
    (hpresence : PackageList.presence doc package = .ok presence) {made : Creation}
    (h : (ensurePackage list package type).exec session = (.ok made, after)) :
    made.object = !presence.isOwn ∧ after.workspace.holds (list.parent.join package) = .ok true ∧
      (made.folder ∨ session.workspace.isDirectory (list.parent.join package) = .ok true →
        after.workspace.isDirectory (list.parent.join package) = .ok true) := by
  obtain ⟨again, added, middle, hagain, hadd, -, hmake, hobject⟩ := exists_of_ensurePackage h
  obtain rfl := Except.ok.inj (hopen.symm.trans hagain)
  obtain ⟨hholds, hmade⟩ := holds_of_ensurePackageFolder hmake
  refine ⟨hobject.trans (PackageList.isSome_of_add hpresence hadd), hholds, ?_⟩
  rintro (hnew | hold)
  · exact hmade hnew
  · obtain ⟨loc, hfolder⟩ := Workspace.exists_isFolder_of_isDirectory hold
    have hkept := within_ensurePackage_keepsFolder (list.parent.join package) list package type session
    rw [h] at hkept
    exact (hkept loc hfolder).isDirectory_eq

/-- What is told of a package that is not referred to: it was or is now listed, and its folder was or is now there. -/
def expectedNotes (package : String) (folder : Path) (isOwn isMade : Bool) : List Note :=
  [if isOwn then ⟨s!"- Object in cpu.pkg: exists for {package}", "INFO", ""⟩
   else ⟨s!"- Object in cpu.pkg: created for {package}", "INFO", ""⟩] ++
  if isMade then
    [⟨s!"- Folder: created -> {folder.render}", "INFO", ""⟩,
     ⟨"- File: created -> " ++ (folder.child "Package.pkg").render, "INFO", ""⟩]
  else [⟨s!"- Folder: exists -> {folder.render}", "INFO", ""⟩]

theorem creationNotes_eq_expectedNotes (package : String) (folder : Path) {isOwn : Bool} {made : Creation}
    (h : made.object = !isOwn) :
    creationNotes package folder isOwn made true = expectedNotes package folder isOwn made.folder := by
  unfold creationNotes expectedNotes
  rw [h]
  cases isOwn <;> cases made.folder <;> rfl

end StudioMigration
