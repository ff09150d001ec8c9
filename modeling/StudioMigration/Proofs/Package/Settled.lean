import StudioMigration.Package.Folder
import StudioMigration.Proofs.Package.Entries
import StudioMigration.Proofs.Session

/-!
# Settling a package

What the tool does for one package in one hardware directory. When a package is made sure of, the package list is
written with one more object, and the folder that is made afterwards does not touch it.

* `within_ensurePackageFolder` is the frame of making the folder, and `ensurePackage_adds_object` puts it together
  with reading the list again.
* `PackageSettled` says when there is nothing left to do for a package.
* `exists_runs_addListedPackage` is the step for one package: it settles the package and unsettles no other.
-/

namespace StudioMigration

open Xml PackageList Script Workspace
open Text.Utf8 (Bytes byteLength)

variable {loc : Location}

section Ensure

variable {bytes : Bytes}

/-! ## The folder of a package -/

/-- What stands at a location still stands there. -/
def Workspace.KeepsAt (loc : Location) (ws ws' : Workspace) : Prop :=
  ∀ entry, ws.tree.get? loc = some entry → ws'.tree.get? loc = some entry

theorem Script.progress_keepsAt (loc : Location) : Progress (KeepsAt loc) :=
  ⟨fun _ _ => id, fun h h' entry hget => h' entry (h entry hget)⟩

/-- Writing a file of one name leaves the files of other names alone. -/
theorem Workspace.keepsAt_writeBytes {ws ws' : Workspace} {path : Path} {name : String} (hname : IsFileName name)
    (hother : loc.getLast? ≠ some name) (h : ws.writeBytes (path.child name) bytes = .ok ws') :
    ws.KeepsAt loc ws' := by
  obtain ⟨written, hlocate, rfl | ⟨hne, rfl⟩⟩ := writeBytes_eq_ok h
  · exact fun _ => id
  · obtain ⟨above, rfl, -, -⟩ := locate_of_locate_child hname hlocate
    intro entry hget
    rw [get?_put ws (ne_nil_of_get? hne), if_neg]
    · exact hget
    · rintro rfl
      exact hother List.getLast?_concat

section Closed

variable {P : ∀ {α : Type}, Script α → Prop} (hP : Closed P)
  (hmake : ∀ path : Path, P (change (·.makeDirectory path)))

include hP hmake

theorem Script.Closed.ensurePackageFolder (folder : Path)
    (hwrite : ∀ bytes, P (change (·.writeBytes (folder.child "Package.pkg") bytes))) (type : String) :
    P (ensurePackageFolder folder type) := by
  refine hP.bind (hP.look _) fun isThere => ?_
  split
  · exact hP.pure _
  · exact hP.bind (hP.makeDirectories hmake folder) fun _ => hP.bind (hwrite _) fun _ => hP.pure _

theorem Script.Closed.ensurePackage (hwrite : ∀ (path : Path) bytes, P (change (·.writeBytes path bytes)))
    (list : Path) (pkg type : String) : P (ensurePackage list pkg type) := by
  refine hP.bind (hP.look _) fun doc => hP.bind (hP.look _) fun added => ?_
  have hlast := hP.bind (hP.ensurePackageFolder hmake (list.parent.join pkg) (hwrite _) type) fun isMade =>
    hP.pure (⟨added.isSome, isMade⟩ : Creation)
  cases added with
  | none => exact hlast
  | some edited => exact hP.bind (hwrite _ _) fun _ => hlast

end Closed

/-- Making the folder of a package leaves everything alone but package files. -/
theorem within_ensurePackageFolder (h : loc.getLast? ≠ some "Package.pkg") (folder : Path) (type : String) :
    (ensurePackageFolder folder type).Within (KeepsAt loc) := by
  have hkeeps := progress_keepsAt loc
  refine hkeeps.closed.ensurePackageFolder (fun path => within_change hkeeps fun _ _ hmade => ?_) folder
    (fun _ => within_change hkeeps fun _ _ => keepsAt_writeBytes (by decide) h) type
  exact (keeps_makeDirectory hmade).entries loc

/-! ## The package list -/

theorem openPackageList_of_locate {ws : Workspace} {list : Path} (hlocate : ws.locate list = .ok loc)
    (hfile : ws.tree.get? loc = some (.file bytes)) : openPackageList ws list = readPackageList bytes := by
  simp [openPackageList, readBytes_of_locate hlocate hfile]

/-- A package that is added is in the list when the folder is made, and stays there. -/
theorem get?_ensurePackage {session : Session} {list : Path} {doc edited : XmlDocument} {pkg : String}
    (type : String) (hlocate : session.workspace.locate list = .ok loc) (hother : loc.getLast? ≠ some "Package.pkg")
    (hfile : session.workspace.tree.get? loc = some (.file bytes)) (hread : readPackageList bytes = .ok doc)
    (hadd : add doc pkg = .ok (some edited)) :
    ((ensurePackage list pkg type).exec session).2.workspace.tree.get? loc =
      some (.file (Text.Utf8.encode (write edited))) := by
  have hopen : (look fun ws => openPackageList ws list).exec session = (.ok doc, session) := by
    rw [exec_look, openPackageList_of_locate hlocate hfile, hread]
  have hadded : (look fun _ => add doc pkg).exec session = (.ok (some edited), session) := by
    rw [exec_look, hadd]
  have hwrite : (change fun ws => ws.writeBytes list (Text.Utf8.encode (write edited))).exec session =
      (.ok (), { session with
        workspace := session.workspace.put loc (.file (Text.Utf8.encode (write edited))) }) := by
    rw [exec_change, writeBytes_of_locate hlocate hfile]
  have hput : (session.workspace.put loc (.file (Text.Utf8.encode (write edited)))).tree.get? loc =
      some (.file (Text.Utf8.encode (write edited))) := by
    rw [get?_put _ (Tree.ne_nil_of_get? hfile (by simp)), if_pos rfl]
  have hkeeps := progress_keepsAt loc
  unfold ensurePackage
  rw [exec_bind_ok hopen, exec_bind_ok hadded]
  simp only []
  rw [exec_bind_ok hwrite]
  exact hkeeps.closed.bind (within_ensurePackageFolder hother _ type)
    (fun _ => hkeeps.closed.pure _) _ _ hput

/-- A package list with a comment before the root, an instruction behind the objects, and an object whose
name stands partly in a verbatim section. The objects are not in the namespace of the root, so that a new one
needs a qualifier of its own. -/
def samplePackageList : Bytes := Text.Utf8.encodeString
  ("<?xml version=\"1.0\"?><!-- hardware --><Cpu xmlns=\"http://br-automation.co.at/AS/Cpu\">" ++
    "<Objects xmlns=\"\"><Object Type=\"Package\" Note=\"a &lt; b\"><![CDATA[mapp]]>View</Object></Objects><?edited?></Cpu>")

/-- A session in the directory of a hardware configuration with that list. -/
def sampleHardware : Session where
  workspace :=
    ⟨(Tree.empty.insert ["PLC"] .directory).insert ["PLC", "cpu.pkg"] (.file samplePackageList), []⟩

/-- Is a package missing in a list whose declared name spaces are proper? -/
def PackageList.isAddable (name : String) (bytes : List UInt8) : Bool :=
  match readPackageList bytes with
  | .ok doc =>
    match objects? doc with
    | .ok (some (tag, children)) =>
      decide (∀ d ∈ doc.scope.inside tag, PackageList.ProperDeclaration d) &&
        (hasOwn name children).toOption == some false
    | _ => false
  | .error _ => false

end Ensure

open PackageList (listing)

variable {doc : XmlDocument} {fault : Fault} {ws' ws : Workspace} {isOwn : Bool} {pkg : String}
  {found : List PackageEntry} {added : Option XmlDocument}

/-! ## Names of packages -/

/-- A name that a package can have: it is the name of a file, a path by itself, and an entry in a list. -/
structure IsPackageName (pkg : String) : Prop where
  isFileName : IsFileName pkg
  path : Path.ofString pkg = ⟨.here, [pkg]⟩
  other : pkg ≠ "cpu.pkg"
  fits : pkg.toList.all isDocumentChar
  trimmed : Text.trim pkg.toList = pkg.toList

instance (pkg : String) : Decidable (IsPackageName pkg) :=
  decidable_of_iff (IsFileName pkg ∧ Path.ofString pkg = ⟨.here, [pkg]⟩ ∧ pkg ≠ "cpu.pkg" ∧
      pkg.toList.all isDocumentChar ∧ Text.trim pkg.toList = pkg.toList)
    ⟨fun ⟨h₁, h₂, h₃, h₄, h₅⟩ => ⟨h₁, h₂, h₃, h₄, h₅⟩, fun ⟨h₁, h₂, h₃, h₄, h₅⟩ => ⟨h₁, h₂, h₃, h₄, h₅⟩⟩

theorem isPackageName_of_needed {choice : MotionChoice} {x : String × String} (h : x ∈ neededPackages choice) :
    IsPackageName x.1 := by
  have hall : ∀ choice, ∀ x ∈ neededPackages choice, IsPackageName x.1 := by
    intro choice
    cases choice <;> decide +kernel
  exact hall choice x h

theorem IsPackageName.join (h : IsPackageName pkg) (hardware : Path) :
    (hardware.child "cpu.pkg").parent.join pkg = hardware.child pkg := by
  simp [Path.join, h.path, Path.descend, Path.parent, Path.child]

/-! ## Settled packages -/

/-- There is nothing to do for a package in a hardware directory: its list cannot be used, or refers to the
package, or has it as its own, and then its folder is there; or the folder could not be made. -/
def PackageSettled (ws : Workspace) (hardware : Path) (loc : Location) (pkg : String) : Prop :=
  ∀ bytes found, ws.tree.get? (loc ++ ["cpu.pkg"]) = some (.file bytes) → listing bytes = .ok found →
    (found.any fun entry => entry.refersTo pkg) ∨
      ((found.any fun entry => entry.names pkg) ∧ ws.tree.get? (loc ++ [pkg]) ≠ none) ∨
      maxPathLength < byteLength (hardware.child pkg).render

/-! ## The folder -/

def InPackage (loc : Location) (pkg : String) (place : Location) : Prop :=
  ∃ rest, place = loc ++ pkg :: rest

section Hardware

variable {hardware : Path} (hfolder : ws.IsFolder hardware loc) (hsound : ws.tree.Sound)

include hfolder

/-- A directory is made in a directory where nothing stands. -/
theorem runs_makeDirectories_child {name : String} (hname : IsFileName name)
    (hshort : byteLength (hardware.child name).render ≤ maxPathLength) (hfree : ws.tree.get? (loc ++ [name]) = none) :
    (makeDirectories (hardware.child name)).Runs ws (.ok ())
      (ws.put (loc ++ [name]) .directory) := by
  have hmake : ws.makeDirectory (hardware.child name) = .ok (ws.put (loc ++ [name]) .directory) := by
    simp [Workspace.makeDirectory, hfolder.locate_child hname, hshort, hfree]
  have hparts : (hardware.child name).parts.reverse = name :: hardware.parts.reverse := by
    simp [Path.child]
  have hpath : (⟨(hardware.child name).anchor, (name :: hardware.parts.reverse).reverse⟩ : Path) =
      hardware.child name := by
    simp [Path.child]
  rw [makeDirectories, hparts]
  refine Runs.tryCatch ?_ _
  rw [hpath]
  exact (runs_change hmake).tryCatch _

include hsound

/-- Making the folder of a package makes nothing else, and it is there in the end. -/
theorem exists_runs_ensurePackageFolder (hpkg : IsFileName pkg)
    (hshort : byteLength (hardware.child pkg).render ≤ maxPathLength) (type : String) :
    ∃ outcome ws', (ensurePackageFolder (hardware.child pkg) type).Runs ws outcome ws' ∧
      ws.Frame (InPackage loc pkg) ws' ∧ ws'.tree.get? (loc ++ [pkg]) ≠ none ∧
      (ws.tree.get? (loc ++ [pkg]) ≠ none → ws' = ws) := by
  have hholds := hfolder.holds_child hpkg
  rw [if_pos hshort] at hholds
  cases hget : ws.tree.get? (loc ++ [pkg]) with
  | some entry =>
    rw [hget] at hholds
    refine ⟨.ok false, ws, ?_, .refl _ ws, by simp [hget], fun _ => rfl⟩
    refine runs_look_bind hholds ?_
    exact runs_pure false ws
  | none =>
    rw [hget] at hholds
    have hmade := runs_makeDirectories_child hfolder hpkg hshort hget
    have hframe : ws.Frame (InPackage loc pkg) (ws.put (loc ++ [pkg]) .directory) :=
      frame_put hpkg hfolder.isDirectory (fun _ => rfl) ⟨[], by simp⟩
    have hthere : (ws.put (loc ++ [pkg]) .directory).tree.get? (loc ++ [pkg]) = some .directory := by
      rw [get?_put ws (by simp), if_pos rfl]
    have hinner := (hfolder.of_frame hframe).child hpkg hshort hthere
    -- The package file is written unless its path is too long; nothing can stand in its way.
    by_cases hfile : byteLength ((hardware.child pkg).child "Package.pkg").render ≤ maxPathLength
    · have hempty : (ws.put (loc ++ [pkg]) .directory).tree.get?
          (loc ++ [pkg] ++ ["Package.pkg"]) = none := by
        rw [get?_put ws (by simp), if_neg (by simp)]
        by_contra hsome
        obtain ⟨entry, hentry⟩ := Option.ne_none_iff_exists'.1 hsome
        have habove := hsound.get?_above (by simp : ["Package.pkg"] ≠ []) hentry
        rw [hget] at habove
        exact absurd habove (by simp)
      have hwrite : (ws.put (loc ++ [pkg]) .directory).writeBytes
          ((hardware.child pkg).child "Package.pkg") (Text.Utf8.encodeString (packageFileText type)) =
            .ok ((ws.put (loc ++ [pkg]) .directory).put (loc ++ [pkg] ++ ["Package.pkg"])
              (.file (Text.Utf8.encodeString (packageFileText type)))) := by
        simp only [writeBytes, hinner.locate_child (by decide : IsFileName "Package.pkg"), hfile, if_true,
          writableAt, hempty, ok_bind]
        rfl
      have hlast : (ws.put (loc ++ [pkg]) .directory).Frame (InPackage loc pkg)
          ((ws.put (loc ++ [pkg]) .directory).put (loc ++ [pkg] ++ ["Package.pkg"])
            (.file (Text.Utf8.encodeString (packageFileText type)))) := by
        refine frame_put (by decide) hthere (fun hdir => ?_) ⟨["Package.pkg"], by simp⟩
        rw [hempty] at hdir
        exact absurd hdir (by simp)
      refine ⟨.ok true, _, ?_, hframe.trans hlast, hlast.kept _ (by simp [hthere]), fun hne => absurd rfl hne⟩
      refine runs_look_bind hholds ?_
      exact hmade.bind ((runs_change hwrite).bind (runs_pure true _))
    · have hwrite : (ws.put (loc ++ [pkg]) .directory).writeBytes
          ((hardware.child pkg).child "Package.pkg") (Text.Utf8.encodeString (packageFileText type)) =
            .error (.file .nameTooLong ((hardware.child pkg).child "Package.pkg").render) := by
        simp [writeBytes, hinner.locate_child (by decide : IsFileName "Package.pkg"), hfile]
      refine ⟨.error (.file .nameTooLong ((hardware.child pkg).child "Package.pkg").render), _, ?_, hframe,
        by simp [hthere], fun hne => absurd rfl hne⟩
      refine runs_look_bind hholds ?_
      exact hmade.bind ((runs_change_error hwrite).bind_error _)

end Hardware

/-! ## One package -/

/-- The workspace after a list was written, if it has changed. -/
def Workspace.writeAdded (ws : Workspace) (list : Path) : Option XmlDocument → Except Fault Workspace
  | none => .ok ws
  | some edited => ws.writeBytes list (Text.Utf8.encode (write edited))

/-- What a list with some bytes is then. -/
def bytesAdded (bytes : Bytes) : Option XmlDocument → Bytes
  | none => bytes
  | some edited => Text.Utf8.encode (write edited)

theorem presence_of_entries {tag : XmlTag} {children : List XmlNode}
    (hobjects : objects? doc = .ok (some (tag, children))) (hfound : entries children = .ok found) (pkg : String) :
    presence doc pkg = .ok ⟨found.any fun entry => entry.names pkg,
      ((found.filter fun entry => entry.refersTo pkg).getLast?).map (·.text)⟩ := by
  simp [presence, hobjects, hfound]

/-- A list that cannot be used stops the search for a package or its addition. -/
theorem presence_or_add_of_listing {bytes : Bytes} (hread : readPackageList bytes = .ok doc)
    (h : listing bytes = .error fault) (pkg : String) :
    (∃ fault, presence doc pkg = .error fault) ∨
      presence doc pkg = .ok ⟨false, none⟩ ∧ add doc pkg = .error .noPackageList := by
  rw [listing, hread] at h
  rcases hindex : objectsIndex? doc with fault | (_ | place)
  · simp [presence, objects?, hindex]
  · simp [presence, objects?, add, hindex]
  · rcases hplace : elementAt? doc place with _ | ⟨tag, children⟩
    · simp [presence, objects?, add, hindex, hplace]
    · have hobjects := objects?_eq_ok_some.2 ⟨place, hindex, hplace⟩
      simp only [hobjects, ok_bind] at h
      simp [presence, hobjects, h]

theorem exists_openPackageList_error {list : Path} (hlocate : ws.locate list = .ok loc)
    (hget : ∀ bytes, ws.tree.get? loc ≠ some (.file bytes)) : ∃ fault, openPackageList ws list = .error fault := by
  have hempty : ∃ fault, readPackageList [] = .error fault := ⟨_, rfl⟩
  unfold openPackageList readBytes
  rw [hlocate]
  simp only [bytesAt, ok_bind]
  rcases hentry : ws.tree.get? loc with _ | (_ | bytes | _)
  · exact ⟨_, rfl⟩
  · exact ⟨_, rfl⟩
  · exact absurd hentry (hget bytes)
  · exact hempty

section Package

variable {list : Path} {type : String}

theorem quiet_ensurePackage_of_add (hopen : openPackageList ws list = .ok doc)
    (hadd : add doc pkg = .error fault) : (ensurePackage list pkg type).Quiet ws := by
  unfold ensurePackage
  exact ⟨_, runs_look_bind hopen (runs_look_bind_error hadd _)⟩

theorem exists_runs_ensurePackage {ws₁ : Workspace} {outcome : Except Fault Bool}
    (hopen : openPackageList ws list = .ok doc) (hadd : add doc pkg = .ok added)
    (hwrite : ws.writeAdded list added = .ok ws₁)
    (hfolder : (ensurePackageFolder (list.parent.join pkg) type).Runs ws₁ outcome ws') :
    ∃ outcome', (ensurePackage list pkg type).Runs ws outcome' ws' := by
  obtain ⟨outcome', hlast⟩ := hfolder.exists_bind fun made => quiet_pure (⟨added.isSome, made⟩ : Creation) ws'
  unfold ensurePackage
  refine ⟨outcome', runs_look_bind hopen (runs_look_bind hadd ?_)⟩
  cases added with
  | none =>
    obtain rfl := Except.ok.inj hwrite
    exact hlast
  | some edited => exact (runs_change hwrite).bind hlast

theorem look_presence (hopen : openPackageList ws list = .ok doc) :
    (do presence (← openPackageList ws list) pkg : Except Fault Presence) = presence doc pkg := by
  rw [hopen]
  rfl

theorem quiet_addListedPackage_of_look
    (h : ∃ fault, (do presence (← openPackageList ws list) pkg : Except Fault Presence) = .error fault)
    (config : String) : (addListedPackage list config pkg type).Quiet ws := by
  obtain ⟨fault, hlook⟩ := h
  unfold addListedPackage
  exact ⟨.error fault, runs_look_bind_error hlook _⟩

/-- A package that is referred to is left alone. -/
theorem quiet_addListedPackage_of_reference {path : String} (hopen : openPackageList ws list = .ok doc)
    (hpresence : presence doc pkg = .ok ⟨isOwn, some path⟩) (config : String) :
    (addListedPackage list config pkg type).Quiet ws := by
  refine ⟨.ok true, runs_look_bind ((look_presence hopen).trans hpresence) ?_⟩
  exact (runs_say _ ws).bind (runs_pure true ws)

/-- Nothing is done for a package whose folder cannot be looked for. -/
theorem quiet_addListedPackage_of_holds (hopen : openPackageList ws list = .ok doc)
    (hpresence : presence doc pkg = .ok ⟨isOwn, none⟩)
    (hholds : ws.holds (list.parent.join pkg) = .error fault) (config : String) :
    (addListedPackage list config pkg type).Quiet ws := by
  refine ⟨.error fault, runs_look_bind ((look_presence hopen).trans hpresence) ?_⟩
  refine runs_look_bind_error ?_ _
  exact hholds

theorem exists_runs_addListedPackage_of_ensure {thereBefore : Bool} {outcome : Except Fault Creation}
    (hopen : openPackageList ws list = .ok doc) (hpresence : presence doc pkg = .ok ⟨isOwn, none⟩)
    (hholds : ws.holds (list.parent.join pkg) = .ok thereBefore)
    (hensure : (ensurePackage list pkg type).Runs ws outcome ws') (config : String) :
    ∃ outcome', (addListedPackage list config pkg type).Runs ws outcome' ws' := by
  have hquiet : ∀ made : Creation, (do
      let there ← look fun ws => ws.holds (list.parent.join pkg)
      (creationNotes pkg (list.parent.join pkg) isOwn made there).forM say
      return there || thereBefore : Script Bool).Quiet ws' := fun made =>
    (quiet_look _ ws').bind fun there =>
      Quiet.bind ⟨_, runs_forM_say _ ws'⟩ fun _ => quiet_pure _ ws'
  obtain ⟨outcome', hlast⟩ := hensure.exists_bind hquiet
  unfold addListedPackage
  refine ⟨outcome', runs_look_bind ((look_presence hopen).trans hpresence) ?_⟩
  simp only []
  refine runs_look_bind ?_ hlast
  exact hholds

end Package

def Below (loc : Location) (place : Location) : Prop := ∃ name rest, place = loc ++ name :: rest

/-- What a step on one package leaves behind: it has only touched what lies below the hardware directory, it
has done nothing if the package was settled, and now the package is settled and so are all others that were. -/
structure PackageStep (hardware : Path) (loc : Location) (pkg : String) (ws ws' : Workspace) : Prop where
  frame : ws.Frame (Below loc) ws'
  steady : PackageSettled ws hardware loc pkg → ws' = ws
  settles : ∀ other, IsPackageName other → other = pkg ∨ PackageSettled ws hardware loc other →
    PackageSettled ws' hardware loc other

theorem PackageStep.of_settled {hardware : Path} (h : PackageSettled ws hardware loc pkg) :
    PackageStep hardware loc pkg ws ws := by
  refine ⟨.refl _ ws, fun _ => rfl, ?_⟩
  rintro other - (rfl | hother)
  · exact h
  · exact hother

/-- Making the folder of a package does not touch the list. -/
theorem get?_list_of_inPackage (hpkg : IsPackageName pkg) (hframe : ws.Frame (InPackage loc pkg) ws') :
    ws'.tree.get? (loc ++ ["cpu.pkg"]) = ws.tree.get? (loc ++ ["cpu.pkg"]) := by
  refine hframe.outside _ ?_
  rintro ⟨rest, hrest⟩
  exact hpkg.other (List.cons.inj (List.append_cancel_left hrest)).1.symm

section Step

variable {ws₁ : Workspace} {hardware : Path} (hpkg : IsPackageName pkg)
  (hshort : byteLength (hardware.child pkg).render ≤ maxPathLength) {bytes bytes' : Bytes}
  (hget : ws.tree.get? (loc ++ ["cpu.pkg"]) = some (.file bytes)) (hfound : listing bytes = .ok found)
  (hreference : (found.any fun entry => entry.refersTo pkg) = false)

include hpkg hshort hget hfound hreference

/-- A package is settled by adding it to the list, if it is not there, and then making its folder. -/
theorem packageStep (hput : ws.Frame (Below loc) ws₁) (hsame : (found.any fun entry => entry.names pkg) → ws₁ = ws)
    (hlist : ws₁.tree.get? (loc ++ ["cpu.pkg"]) = some (.file bytes'))
    (hadded : ∀ found', listing bytes' = .ok found' →
      found' = found ++ if found.any fun entry => entry.names pkg then [] else [⟨false, pkg⟩])
    (hframe : ws₁.Frame (InPackage loc pkg) ws') (hthere : ws'.tree.get? (loc ++ [pkg]) ≠ none)
    (hsame' : ws₁.tree.get? (loc ++ [pkg]) ≠ none → ws' = ws₁) : PackageStep hardware loc pkg ws ws' := by
  refine ⟨hput.trans (hframe.mono fun _ h => ⟨pkg, h⟩), fun hsettled => ?_, ?_⟩
  · rcases hsettled bytes found hget hfound with h | h | h
    · exact absurd (hreference ▸ h) Bool.false_ne_true
    · obtain rfl := hsame h.1
      exact hsame' h.2
    · exact absurd hshort (Nat.not_le.2 h)
  · intro other hother hcase again found' hagain hfound'
    rw [get?_list_of_inPackage hpkg hframe, hlist] at hagain
    cases hagain
    -- What is read of the list now is what was read of it before and the new entry.
    obtain rfl := hadded found' hfound'
    rcases hcase with rfl | hsettled
    · refine .inr (.inl ⟨?_, hthere⟩)
      cases hown : found.any fun entry => entry.names other with
      | true => rw [List.any_append, hown, Bool.true_or]
      | false => simp [PackageEntry.names]
    · have hkept : ws.tree.get? (loc ++ [other]) ≠ none → ws'.tree.get? (loc ++ [other]) ≠ none :=
        fun h => hframe.kept _ (hput.kept _ h)
      rcases hsettled bytes found hget hfound with h | h | h
      · exact .inl (by rw [List.any_append, h, Bool.true_or])
      · exact .inr (.inl ⟨by rw [List.any_append, h.1, Bool.true_or], hkept h.2⟩)
      · exact .inr (.inr h)

end Step

section AddListed

variable {hardware : Path} (hfolder : ws.IsFolder hardware loc)
  (hlist : byteLength (hardware.child "cpu.pkg").render ≤ maxPathLength) (hpkg : IsPackageName pkg)
  {bytes : Bytes} (hget : ws.tree.get? (loc ++ ["cpu.pkg"]) = some (.file bytes))

include hfolder hlist hpkg hget

omit hpkg in
theorem openPackageList_hardware : openPackageList ws (hardware.child "cpu.pkg") = readPackageList bytes := by
  refine openPackageList_of_locate ?_ hget
  rw [hfolder.locate_child (by decide), if_pos hlist]

omit hpkg in
/-- Writing the list touches nothing else. -/
theorem exists_writeAdded (added : Option XmlDocument) :
    ∃ ws₁, ws.writeAdded (hardware.child "cpu.pkg") added = .ok ws₁ ∧ (added = none → ws₁ = ws) ∧
      ws₁.tree.get? (loc ++ ["cpu.pkg"]) = some (.file (bytesAdded bytes added)) ∧
      (∀ place, place ≠ loc ++ ["cpu.pkg"] → ws₁.tree.get? place = ws.tree.get? place) ∧
      ws.Frame (Below loc) ws₁ := by
  cases added with
  | none => exact ⟨ws, rfl, fun _ => rfl, hget, fun _ _ => rfl, .refl _ ws⟩
  | some edited =>
    have hlocate : ws.locate (hardware.child "cpu.pkg") = .ok (loc ++ ["cpu.pkg"]) := by
      rw [hfolder.locate_child (by decide), if_pos hlist]
    refine ⟨_, writeBytes_of_locate hlocate hget _, by simp, ?_, fun place hplace => ?_,
      frame_put (by decide) hfolder.isDirectory (fun h => ?_) ⟨"cpu.pkg", [], rfl⟩⟩
    · rw [get?_put ws (by simp), if_pos rfl]
      rfl
    · rw [get?_put ws (by simp), if_neg hplace]
    · rw [hget] at h
      exact absurd h (by simp)

omit hfolder hlist hget in
theorem eq_of_listing_bytesAdded (hread : readPackageList bytes = .ok doc) {found' : List PackageEntry}
    (hfound : listing bytes = .ok found) (hadd : add doc pkg = .ok added)
    (h : listing (bytesAdded bytes added) = .ok found') :
    found' = found ++ if found.any fun entry => entry.names pkg then [] else [⟨false, pkg⟩] := by
  obtain ⟨again, tag, children, hagain, hobjects, hentries⟩ := listing_eq_ok.1 hfound
  cases hread.symm.trans hagain
  obtain ⟨place, hindex, hplace⟩ := objects?_eq_ok_some.1 hobjects
  have hadded := add_of_hasOwn hindex hplace hpkg.fits (hasOwn_of_entries hentries pkg)
  obtain rfl := Except.ok.inj (hadd.symm.trans hadded)
  split at h
  · simp_all [bytesAdded]
  · rw [if_neg ‹_›]
    exact listing_added hread hindex hplace hentries hpkg.fits hpkg.trimmed h

/-- Nothing is done for a package if the list cannot be used. -/
theorem quiet_addListedPackage_of_listing (h : listing bytes = .error fault) (config type : String) :
    (addListedPackage (hardware.child "cpu.pkg") config pkg type).Quiet ws := by
  have hopen := openPackageList_hardware hfolder hlist hget
  cases hread : readPackageList bytes with
  | error fault => exact quiet_addListedPackage_of_look ⟨fault, by rw [hopen, hread]; rfl⟩ config
  | ok doc =>
    rw [hread] at hopen
    rcases presence_or_add_of_listing hread h pkg with ⟨fault, hpresence⟩ | ⟨hpresence, hadd⟩
    · exact quiet_addListedPackage_of_look ⟨fault, (look_presence hopen).trans hpresence⟩ config
    · have hholds := hfolder.holds_child hpkg.isFileName
      rw [← hpkg.join hardware] at hholds
      split at hholds
      · obtain ⟨outcome, hensure⟩ := quiet_ensurePackage_of_add hopen hadd
        exact exists_runs_addListedPackage_of_ensure hopen hpresence hholds hensure config
      · exact quiet_addListedPackage_of_holds hopen hpresence hholds config

theorem exists_runs_addListedPackage_of_listing (hsound : ws.tree.Sound) (hfound : listing bytes = .ok found)
    (config type : String) :
    ∃ outcome ws', (addListedPackage (hardware.child "cpu.pkg") config pkg type).Runs ws outcome ws' ∧
      PackageStep hardware loc pkg ws ws' := by
  have hjoin := hpkg.join hardware
  have hopen := openPackageList_hardware hfolder hlist hget
  obtain ⟨doc, tag, children, hread, hobjects, hentries⟩ := listing_eq_ok.1 hfound
  rw [hread] at hopen
  have hpresence := presence_of_entries hobjects hentries pkg
  have hholds := hfolder.holds_child hpkg.isFileName
  rw [← hjoin] at hholds
  have hsettled : (found.any fun entry => entry.refersTo pkg) ∨
      maxPathLength < byteLength (hardware.child pkg).render → PackageSettled ws hardware loc pkg := by
    rintro h bytes' found' hget' hfound'
    cases Entry.file.inj (Option.some.inj (hget.symm.trans hget'))
    cases hfound.symm.trans hfound'
    exact h.imp_right .inr
  cases hreference : found.any fun entry => entry.refersTo pkg with
  | true =>
    obtain ⟨path, hpath⟩ : ∃ path,
        ((found.filter fun entry => entry.refersTo pkg).getLast?).map (·.text) = some path := by
      rw [← Option.isSome_iff_exists]
      simpa using hreference
    rw [hpath] at hpresence
    obtain ⟨outcome, hrun⟩ := quiet_addListedPackage_of_reference hopen hpresence config
    exact ⟨outcome, ws, hrun, .of_settled (hsettled (.inl hreference))⟩
  | false =>
    have hnone : (found.filter fun entry => entry.refersTo pkg) = [] := by simpa using hreference
    rw [hnone] at hpresence
    by_cases hshort : byteLength (hardware.child pkg).render ≤ maxPathLength
    · rw [if_pos (by rwa [hjoin])] at hholds
      obtain ⟨place, hindex, hplace⟩ := objects?_eq_ok_some.1 hobjects
      have hadd := add_of_hasOwn hindex hplace hpkg.fits
        (hasOwn_of_entries hentries pkg)
      obtain ⟨ws₁, hwrite, hsame, hlisted, -, hput⟩ := exists_writeAdded hfolder hlist hget
        (if found.any fun entry => entry.names pkg then none
          else some (appendAt doc place (newObject doc tag pkg)))
      obtain ⟨made, ws', hmake, hframe, hthere, hsame'⟩ := exists_runs_ensurePackageFolder
        (hfolder.of_frame hput) (hput.sound hsound) hpkg.isFileName hshort type
      obtain ⟨result, hensure⟩ := exists_runs_ensurePackage hopen hadd hwrite (hjoin.symm ▸ hmake)
      obtain ⟨outcome, hrun⟩ := exists_runs_addListedPackage_of_ensure hopen hpresence hholds hensure config
      exact ⟨outcome, ws', hrun, packageStep hpkg hshort hget hfound hreference hput (fun hown => hsame (if_pos hown))
        hlisted (fun _ => eq_of_listing_bytesAdded hpkg hread hfound hadd) hframe hthere hsame'⟩
    · rw [if_neg (by rwa [hjoin])] at hholds
      obtain ⟨outcome, hrun⟩ := quiet_addListedPackage_of_holds hopen hpresence hholds config
      exact ⟨outcome, ws, hrun, .of_settled (hsettled (.inr (Nat.lt_of_not_le hshort)))⟩

end AddListed

/-- The step on one package: whatever becomes of it, the package is settled afterwards. -/
theorem exists_runs_addListedPackage {hardware : Path} (hfolder : ws.IsFolder hardware loc)
    (hsound : ws.tree.Sound) (hlist : byteLength (hardware.child "cpu.pkg").render ≤ maxPathLength)
    (hpkg : IsPackageName pkg) (config type : String) :
    ∃ outcome ws', (addListedPackage (hardware.child "cpu.pkg") config pkg type).Runs ws outcome ws' ∧
      PackageStep hardware loc pkg ws ws' := by
  by_cases hfile : ∃ bytes, ws.tree.get? (loc ++ ["cpu.pkg"]) = some (.file bytes)
  · obtain ⟨bytes, hget⟩ := hfile
    cases hfound : listing bytes with
    | ok found =>
      exact exists_runs_addListedPackage_of_listing hfolder hlist hpkg hget hsound hfound config type
    | error fault =>
      obtain ⟨outcome, hrun⟩ := quiet_addListedPackage_of_listing hfolder hlist hpkg hget hfound config type
      refine ⟨outcome, ws, hrun, .of_settled fun bytes' found hget' hfound' => ?_⟩
      cases Entry.file.inj (Option.some.inj (hget.symm.trans hget'))
      exact absurd (hfound.symm.trans hfound') (by simp)
  · rw [not_exists] at hfile
    have hlocate : ws.locate (hardware.child "cpu.pkg") = .ok (loc ++ ["cpu.pkg"]) := by
      rw [hfolder.locate_child (by decide), if_pos hlist]
    obtain ⟨fault, hopen⟩ := exists_openPackageList_error hlocate hfile
    obtain ⟨outcome, hrun⟩ := quiet_addListedPackage_of_look ⟨fault, by rw [hopen]; rfl⟩ config
    exact ⟨outcome, ws, hrun, .of_settled fun bytes _ hget _ => absurd hget (hfile bytes)⟩

end StudioMigration
