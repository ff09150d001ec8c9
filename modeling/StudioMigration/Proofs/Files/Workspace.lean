import StudioMigration.Proofs.Except
import StudioMigration.Proofs.Files.Tree

/-!
# Paths in a workspace

Where paths lead in a workspace with a sound tree, and what the operations on files do there.

* `Workspace.locate_descend` says that a path to a directory, prolonged by the steps to something below it,
  leads there unless it gets too long.
* `Workspace.locate_mono` says that a path leads to the same place as long as the directories are still there.
-/

namespace StudioMigration

open List
open Text.Utf8 (Bytes byteLength)

variable {name : String}

def Entry.bytes : Entry → Bytes
  | .file bytes => bytes
  | _ => []

/-! ## Written paths -/

theorem Text.mem_joinWith {separator : List Char} {pieces : List (List Char)} {c : Char}
    (hc : c ∉ separator) : c ∈ Text.joinWith separator pieces ↔ ∃ piece ∈ pieces, c ∈ piece := by
  induction pieces using Text.joinWith.induct with
  | case1 => simp [Text.joinWith]
  | case2 piece => simp [Text.joinWith]
  | case3 piece pieces hne ih => simp [Text.joinWith, ih, hc]

/-- A written path has a null character if one of its components has. -/
theorem Path.hasNull_render (path : Path) : hasNull path.render = path.parts.any hasNull := by
  have hnull : Char.ofNat 0 ∈ path.render.toList ↔ ∃ part ∈ path.parts, Char.ofNat 0 ∈ part.toList := by
    have hjoined : Char.ofNat 0 ∈ (path.anchor.render ++ Text.joinStrings "/" path.parts).toList ↔
        ∃ part ∈ path.parts, Char.ofNat 0 ∈ part.toList := by
      have hanchor : Char.ofNat 0 ∉ path.anchor.render.toList := by
        cases path.anchor <;> decide
      have hslash : Char.ofNat 0 ∉ ['/'] := by decide
      simp [Text.joinStrings, Text.mem_joinWith hslash, hanchor]
    unfold Path.render
    simp only []
    split
    · rename_i hempty
      rw [beq_iff_eq] at hempty
      rw [hempty] at hjoined
      rw [← hjoined]
      decide
    · exact hjoined
  rw [Bool.eq_iff_iff]
  simpa [hasNull] using hnull

theorem byteLength_append (s t : String) : byteLength (s ++ t) = byteLength s + byteLength t := by
  simp [byteLength, Text.Utf8.encodeString, Text.Utf8.encode]

theorem byteLength_pos {s : String} (h : s ≠ "") : 0 < byteLength s := by
  obtain ⟨c, rest, hs⟩ := exists_cons_of_ne_nil (mt String.toList_eq_nil_iff.1 h)
  have hc := String.length_utf8EncodeChar c
  have hsize := c.utf8Size_pos
  simp only [byteLength, Text.Utf8.encodeString, Text.Utf8.encode, hs, flatMap_cons, length_append, hc]
  omega

theorem Text.joinWith_concat (separator piece : List Char) (pieces : List (List Char)) :
    Text.joinWith separator (pieces ++ [piece]) =
      Text.joinWith separator pieces ++ (if pieces = [] then [] else separator) ++ piece := by
  induction pieces using Text.joinWith.induct with
  | case1 => simp [Text.joinWith]
  | case2 first => simp [Text.joinWith]
  | case3 first pieces hpieces ih =>
    have hne : pieces ≠ [] := hpieces
    rw [cons_append, Text.joinWith, Text.joinWith, ih]
    · simp [hne]
    · exact hpieces
    · simp

theorem Path.render_child (path : Path) (hname : name ≠ "") :
    (path.child name).render = path.anchor.render ++ Text.joinStrings "/" path.parts ++
      (if path.parts = [] then "" else "/") ++ name := by
  have hjoined : (path.child name).anchor.render ++ Text.joinStrings "/" (path.child name).parts =
      path.anchor.render ++ Text.joinStrings "/" path.parts ++
        (if path.parts = [] then "" else "/") ++ name := by
    apply String.toList_inj.1
    simp only [Path.child, Text.joinStrings, map_append, map_cons, map_nil, Text.joinWith_concat]
    split <;> simp_all
  unfold Path.render
  rw [hjoined]
  exact if_neg (by simp [hname])

/-- Going down makes a written path no shorter. -/
theorem Path.byteLength_render_child (path : Path) (hname : name ≠ "") :
    byteLength path.render ≤ byteLength (path.child name).render := by
  have hpos := byteLength_pos hname
  rw [path.render_child hname]
  unfold Path.render
  simp only [beq_iff_eq]
  split
  · have hdot : byteLength "." = 1 := by decide
    simp only [byteLength_append]
    omega
  · simp only [byteLength_append]
    omega

/-- Going down makes a written path longer by a slash and the name at most. -/
theorem Path.byteLength_render_child_le (path : Path) (hname : name ≠ "") :
    byteLength (path.child name).render ≤ byteLength path.render + 1 + byteLength name := by
  have hslash : byteLength (if path.parts = [] then "" else "/") ≤ 1 := by
    split <;> decide
  have hempty : byteLength "" = 0 := by decide
  have hjoined : byteLength (path.anchor.render ++ Text.joinStrings "/" path.parts) ≤ byteLength path.render := by
    unfold Path.render
    simp only [beq_iff_eq]
    split
    · rename_i hnone
      rw [hnone]
      omega
    · exact Nat.le_refl _
  rw [path.render_child hname, byteLength_append, byteLength_append]
  omega

namespace Workspace

variable {entry : Entry} {bytes : Bytes}

variable {ws ws' : Workspace} {loc names : Location} {path : Path}

/-! ## Locations -/

/-- A path leads somewhere if it can be written and its steps can be followed. -/
theorem locate_eq_ok_iff :
    ws.locate path = .ok loc ↔
      path.parts.any hasNull = false ∧ byteLength path.render ≤ maxPathLength ∧
        ws.tree.follow (ws.start path.anchor) path.parts = .ok loc := by
  rw [← Path.hasNull_render]
  unfold locate reach
  split
  · rename_i hnull
    simp [hnull]
  · rename_i hnull
    split
    · rename_i hlong
      simp [Nat.not_le.2 hlong]
    · rename_i hshort
      rw [Nat.not_lt] at hshort
      rcases ws.tree.follow (ws.start path.anchor) path.parts with obstacle | reached
      · simp
      · simp [hshort, hnull]

theorem locate_of_long (hnull : path.parts.any hasNull = false) (hlong : maxPathLength < byteLength path.render) :
    ws.locate path = .error (.file .nameTooLong path.render) := by
  rw [locate, reach, Path.hasNull_render, hnull, if_neg Bool.false_ne_true, if_pos hlong]

/-- A path to a directory, prolonged by the steps to something below it, leads there. -/
theorem locate_descend (hsound : ws.tree.Sound) (hlocate : ws.locate path = .ok loc)
    (hget : ws.tree.get? (loc ++ names) = some entry)
    (hshort : byteLength (path.descend names).render ≤ maxPathLength) :
    ws.locate (path.descend names) = .ok (loc ++ names) := by
  obtain ⟨hnull, -, hfollow⟩ := locate_eq_ok_iff.1 hlocate
  refine locate_eq_ok_iff.2 ⟨?_, hshort, ?_⟩
  · have hnames : names.any hasNull = false := by
      rw [any_eq_false]
      intro name hname
      simp [(hsound.isFileName hget (mem_append_right _ hname)).no_null]
    simp [Path.descend, hnull, hnames]
  · show ws.tree.follow (ws.start path.anchor) (path.parts ++ names) = _
    rw [Tree.follow_append, hfollow]
    exact hsound.follow_eq hget

/-- One more step from a directory, whether or not something stands there. -/
theorem locate_child (hname : IsFileName name) (hlocate : ws.locate path = .ok loc)
    (hget : ws.tree.get? loc = some .directory) (hshort : byteLength (path.child name).render ≤ maxPathLength) :
    ws.locate (path.child name) = .ok (loc ++ [name]) := by
  obtain ⟨hnull, -, hfollow⟩ := locate_eq_ok_iff.1 hlocate
  refine locate_eq_ok_iff.2 ⟨?_, hshort, ?_⟩
  · simp [Path.child, hnull, hname.no_null]
  · show ws.tree.follow (ws.start path.anchor) (path.parts ++ [name]) = _
    rw [Tree.follow_append, hfollow]
    exact Tree.follow_name ws.tree hname hget

/-- A path leads to the same place as long as the directories are still there. -/
theorem locate_mono (hhere : ws'.here = ws.here) (hkept : Tree.KeepsDirectories ws.tree ws'.tree)
    (hlocate : ws.locate path = .ok loc) : ws'.locate path = .ok loc := by
  obtain ⟨hnull, hshort, hfollow⟩ := locate_eq_ok_iff.1 hlocate
  have hstart : ws'.start path.anchor = ws.start path.anchor := by simp [start, hhere]
  refine locate_eq_ok_iff.2 ⟨hnull, hshort, ?_⟩
  rw [hstart]
  exact Tree.follow_mono hkept hfollow

/-! ## Operations -/

theorem status_of_locate (hlocate : ws.locate path = .ok loc) : ws.status path = .ok (ws.tree.get? loc) := by
  simp [status, hlocate]

theorem locate_ne_nameTooLong (hshort : byteLength path.render ≤ maxPathLength)
    (hfollow : ws.tree.follow (ws.start path.anchor) path.parts ≠ .error .nameTooLong) (shown : String) :
    ws.locate path ≠ .error (.file .nameTooLong shown) := by
  unfold locate reach
  split
  · simp
  · rw [if_neg (Nat.not_lt.2 hshort)]
    rcases hsteps : ws.tree.follow (ws.start path.anchor) path.parts with obstacle | reached
    · intro heq
      simp only [Except.error.injEq, Fault.file.injEq] at heq
      exact hfollow (heq.1 ▸ hsteps)
    · simp

/-- Whether something stands below a directory can be asked without a fault, unless the path gets too
long. -/
theorem exists_status_descend (hlocate : ws.locate path = .ok loc) (hnames : ∀ name ∈ names, IsFileName name)
    (hshort : byteLength (path.descend names).render ≤ maxPathLength) :
    ∃ entry, ws.status (path.descend names) = .ok entry := by
  obtain ⟨-, -, hfollow⟩ := locate_eq_ok_iff.1 hlocate
  have hsteps : ws.tree.follow (ws.start path.anchor) (path.parts ++ names) ≠ .error .nameTooLong := by
    rw [Tree.follow_append, hfollow]
    exact ws.tree.follow_ne_nameTooLong hnames
  have hfault := @locate_ne_nameTooLong ws (path.descend names) hshort hsteps
  unfold status
  split
  · exact ⟨_, rfl⟩
  · rename_i hlong
    exact absurd hlong (hfault _)
  · exact ⟨_, rfl⟩

theorem readBytes_of_locate (hlocate : ws.locate path = .ok loc)
    (hget : ws.tree.get? loc = some (.file bytes)) : ws.readBytes path = .ok bytes := by
  simp [readBytes, hlocate, bytesAt, hget]

theorem readBytes_of_entry (hlocate : ws.locate path = .ok loc) (hget : ws.tree.get? loc = some entry)
    (hentry : entry ≠ .directory) : ws.readBytes path = .ok entry.bytes := by
  rcases entry with _ | bytes | _
  · exact absurd rfl hentry
  · exact readBytes_of_locate hlocate hget
  · simp [readBytes, hlocate, bytesAt, hget, Entry.bytes]

theorem readBytes_of_status (h : ws.status path = .ok (some (.file bytes))) : ws.readBytes path = .ok bytes := by
  unfold status at h
  split at h
  · rename_i loc hlocate
    exact readBytes_of_locate hlocate (Except.ok.inj h)
  · simp at h
  · simp at h

theorem writeBytes_of_locate {old : Bytes} (hlocate : ws.locate path = .ok loc)
    (hget : ws.tree.get? loc = some (.file old)) (bytes : Bytes) :
    ws.writeBytes path bytes = .ok (ws.put loc (.file bytes)) := by
  simp [writeBytes, hlocate, writableAt, hget]

/-! ## Putting an entry -/

theorem get?_put (ws : Workspace) (hne : loc ≠ []) (entry : Entry) (other : Location) :
    (ws.put loc entry).tree.get? other = if other = loc then some entry else ws.tree.get? other :=
  Tree.get?_insert ws.tree hne entry other

theorem keepsDirectories_put (hne : loc ≠ []) (hkept : ws.tree.get? loc = some .directory → entry = .directory) :
    Tree.KeepsDirectories ws.tree (ws.put loc entry).tree := by
  intro place hplace
  rw [get?_put ws hne]
  split
  · rename_i heq
    rw [hkept (heq ▸ hplace)]
  · exact hplace

/-- Unless a directory is hidden, paths lead where they led before. -/
theorem locate_put (hne : loc ≠ []) (hkept : ws.tree.get? loc = some .directory → entry = .directory)
    {reached : Location} (hlocate : ws.locate path = .ok reached) : (ws.put loc entry).locate path = .ok reached := by
  have hhere : (ws.put loc entry).here = ws.here := rfl
  exact locate_mono hhere (keepsDirectories_put hne hkept) hlocate

/-- A path with a last step leads into a directory that the path before it leads to. -/
theorem locate_of_locate_child (hname : IsFileName name) (h : ws.locate (path.child name) = .ok loc) :
    ∃ above, loc = above ++ [name] ∧ ws.locate path = .ok above ∧ ws.tree.get? above = some .directory := by
  obtain ⟨hnull, hshort, hfollow⟩ := locate_eq_ok_iff.1 h
  have hparts : (path.child name).parts = path.parts ++ [name] := rfl
  rw [hparts, Tree.follow_append] at hfollow
  rw [hparts, any_append, Bool.or_eq_false_iff] at hnull
  cases habove : ws.tree.follow (ws.start path.anchor) path.parts with
  | error obstacle =>
    have hstart : ws.start (path.child name).anchor = ws.start path.anchor := rfl
    rw [hstart, habove] at hfollow
    exact absurd hfollow (by simp [Except.bind])
  | ok above =>
    have hstep : ws.tree.follow above [name] = .ok loc := by
      have hstart : ws.start (path.child name).anchor = ws.start path.anchor := rfl
      rw [hstart, habove] at hfollow
      exact hfollow
    have hlocate : ws.locate path = .ok above :=
      locate_eq_ok_iff.2 ⟨hnull.1, Nat.le_trans (Path.byteLength_render_child path hname.ne_empty) hshort, habove⟩
    -- The last step is only taken from a directory.
    have hdir : ws.tree.get? above = some .directory := by
      simp only [Tree.follow] at hstep
      split at hstep
      · simp at hstep
      · assumption
      · simp at hstep
    rw [Tree.follow_name ws.tree hname hdir] at hstep
    exact ⟨above, (Except.ok.inj hstep).symm, hlocate, hdir⟩

/-- Writing a file changes at most what stands where the path leads, and no directory. -/
theorem writeBytes_eq_ok (h : ws.writeBytes path bytes = .ok ws') :
    ∃ loc, ws.locate path = .ok loc ∧
      (ws' = ws ∨ ws.tree.get? loc ≠ some .directory ∧ ws' = ws.put loc (.file bytes)) := by
  obtain ⟨loc, hlocate, h⟩ := bind_eq_ok_iff.1 h
  obtain ⟨isFull, hwritable, h⟩ := bind_eq_ok_iff.1 h
  refine ⟨loc, hlocate, ?_⟩
  have hne : ws.tree.get? loc ≠ some .directory := by
    intro hget
    simp [writableAt, hget] at hwritable
  split at h
  · split at h
    · exact .inl (Except.ok.inj h).symm
    · simp at h
  · exact .inr ⟨hne, (Except.ok.inj h).symm⟩

theorem ne_nil_of_get? (h : ws.tree.get? loc ≠ some .directory) : loc ≠ [] := by
  rintro rfl
  simp at h

/-- Where a file was written something stands. -/
theorem get?_of_writeBytes (h : ws.writeBytes path bytes = .ok ws') :
    ∃ loc, ws.locate path = .ok loc ∧ ws'.tree.get? loc ≠ none := by
  obtain ⟨loc, hlocate, hcase⟩ := writeBytes_eq_ok h
  refine ⟨loc, hlocate, ?_⟩
  rcases hcase with rfl | ⟨hne, rfl⟩
  · intro hnone
    -- the workspace has only stayed the same if a device took the file
    have hsame : (ws'.put loc (.file bytes)).tree.get? loc = none := by
      have hput : ws'.writeBytes path bytes = .ok (ws'.put loc (.file bytes)) := by
        simp [writeBytes, hlocate, writableAt, hnone]
      rw [← Except.ok.inj (h.symm.trans hput)]
      exact hnone
    have hfree : ws'.tree.get? loc ≠ some .directory := by simp [hnone]
    rw [get?_put _ (ne_nil_of_get? hfree)] at hsame
    simp at hsame
  · rw [get?_put ws (ne_nil_of_get? hne)]
    simp

/-! ## Growing workspaces -/

/-- One workspace has everything that another one has. -/
structure Keeps (ws ws' : Workspace) : Prop where
  here : ws'.here = ws.here
  entries : ∀ loc entry, ws.tree.get? loc = some entry → ws'.tree.get? loc = some entry

theorem Keeps.refl (ws : Workspace) : ws.Keeps ws := ⟨rfl, fun _ _ => id⟩

theorem Keeps.trans {ws'' : Workspace} (h : ws.Keeps ws') (h' : ws'.Keeps ws'') : ws.Keeps ws'' :=
  ⟨h'.here.trans h.here, fun _ _ hget => h'.entries _ _ (h.entries _ _ hget)⟩

/-- A new entry takes nothing away. -/
theorem keeps_put (ws : Workspace) (hfree : ws.tree.get? loc = none) (entry : Entry) :
    ws.Keeps (ws.put loc entry) := by
  have hne : ws.tree.get? loc ≠ some .directory := by simp [hfree]
  refine ⟨rfl, fun other found hget => ?_⟩
  rw [get?_put ws (ne_nil_of_get? hne), if_neg]
  · exact hget
  · rintro rfl
    simp [hfree] at hget

theorem keeps_makeDirectory (h : ws.makeDirectory path = .ok ws') : ws.Keeps ws' := by
  obtain ⟨loc, -, h⟩ := bind_eq_ok_iff.1 h
  split at h
  · simp at h
  · rename_i hfree
    obtain rfl := Except.ok.inj h
    exact keeps_put ws (by simpa using hfree) .directory

/-! ## Directories and what stands in them -/

/-- A path leads to a directory. -/
structure IsFolder (ws : Workspace) (path : Path) (loc : Location) : Prop where
  located : ws.locate path = .ok loc
  isDirectory : ws.tree.get? loc = some .directory

section IsFolder

variable (h : ws.IsFolder path loc)

include h

theorem IsFolder.list : ws.list path = .ok (ws.tree.children loc) := by
  simp [Workspace.list, h.located, listAt, h.isDirectory]

theorem IsFolder.isDirectory_eq : ws.isDirectory path = .ok true := by
  simp [Workspace.isDirectory, status_of_locate h.located, h.isDirectory, Entry.isDirectory]

/-- One more step leads into the directory unless the path gets too long. -/
theorem IsFolder.holds_eq : ws.holds path = .ok true := by
  rw [holds, status_of_locate h.located, h.isDirectory]
  rfl

theorem IsFolder.of_writeBytes {file : Path} (hwrite : ws.writeBytes file bytes = .ok ws') :
    ws'.IsFolder path loc := by
  obtain ⟨written, -, rfl | ⟨hother, rfl⟩⟩ := writeBytes_eq_ok hwrite
  · exact h
  · have hkept : ws.tree.get? written = some .directory → Entry.file bytes = .directory :=
      fun hget => absurd hget hother
    exact ⟨locate_put (ne_nil_of_get? hother) hkept h.located,
      keepsDirectories_put (ne_nil_of_get? hother) hkept loc h.isDirectory⟩

theorem IsFolder.locate_child (hname : IsFileName name) :
    ws.locate (path.child name) =
      if byteLength (path.child name).render ≤ maxPathLength then .ok (loc ++ [name])
      else .error (.file .nameTooLong (path.child name).render) := by
  split
  · rename_i hshort
    exact Workspace.locate_child hname h.located h.isDirectory hshort
  · rename_i hlong
    obtain ⟨hnull, -, -⟩ := locate_eq_ok_iff.1 h.located
    exact locate_of_long (by simp [Path.child, hnull, hname.no_null]) (Nat.lt_of_not_le hlong)

theorem IsFolder.status_child (hname : IsFileName name) :
    ws.status (path.child name) =
      if byteLength (path.child name).render ≤ maxPathLength then .ok (ws.tree.get? (loc ++ [name]))
      else .error (.file .nameTooLong (path.child name).render) := by
  unfold status
  rw [h.locate_child hname]
  by_cases hshort : byteLength (path.child name).render ≤ maxPathLength
  · rw [if_pos hshort, if_pos hshort]
  · rw [if_neg hshort, if_neg hshort]

theorem IsFolder.holds_child (hname : IsFileName name) :
    ws.holds (path.child name) =
      if byteLength (path.child name).render ≤ maxPathLength then
        .ok (ws.tree.get? (loc ++ [name])).isSome
      else .error (.file .nameTooLong (path.child name).render) := by
  unfold holds
  rw [h.status_child hname]
  split <;> rfl

theorem IsFolder.child (hname : IsFileName name) (hshort : byteLength (path.child name).render ≤ maxPathLength)
    (hget : ws.tree.get? (loc ++ [name]) = some .directory) : ws.IsFolder (path.child name) (loc ++ [name]) := by
  refine ⟨?_, hget⟩
  rw [h.locate_child hname, if_pos hshort]

theorem IsFolder.readBytes_congr (h' : ws'.IsFolder path loc) (hname : IsFileName name)
    (hsame : ws'.tree.get? (loc ++ [name]) = ws.tree.get? (loc ++ [name])) :
    ws'.readBytes (path.child name) = ws.readBytes (path.child name) := by
  unfold readBytes
  rw [h'.locate_child hname, h.locate_child hname]
  split
  · simp only [bytesAt, hsame, ok_bind]
  · rfl

theorem IsFolder.readLenient_child (hname : IsFileName name)
    (hshort : byteLength (path.child name).render ≤ maxPathLength)
    (hget : ws.tree.get? (loc ++ [name]) = some (.file bytes)) :
    ws.readLenient (path.child name) = .ok (Text.unifyNewlines (Text.Utf8.decodeLenient bytes)) := by
  have hlocate : ws.locate (path.child name) = .ok (loc ++ [name]) := by
    rw [h.locate_child hname, if_pos hshort]
  rw [readLenient, readBytes_of_locate hlocate hget]
  rfl

theorem IsFolder.location_child (hname : IsFileName name) {deeper : Location}
    (hdeeper : ws.IsFolder (path.child name) deeper) : deeper = loc ++ [name] := by
  have hlocate := hdeeper.located
  rw [h.locate_child hname] at hlocate
  split at hlocate
  · exact (Except.ok.inj hlocate).symm
  · simp at hlocate

end IsFolder

theorem exists_isFolder_of_list {found : List (String × Entry)} (h : ws.list path = .ok found) :
    ∃ loc, ws.IsFolder path loc ∧ found = ws.tree.children loc := by
  obtain ⟨loc, hlocate, h⟩ := bind_eq_ok_iff.1 h
  unfold listAt at h
  split at h
  · simp at h
  · rename_i hget
    exact ⟨loc, ⟨hlocate, hget⟩, (Except.ok.inj h).symm⟩
  · simp at h

theorem exists_isFolder_of_isDirectory (h : ws.isDirectory path = .ok true) : ∃ loc, ws.IsFolder path loc := by
  cases hlocate : ws.locate path with
  | ok loc =>
    refine ⟨loc, hlocate, (ws.tree.isDirectory_iff loc).1 ?_⟩
    rw [isDirectory, status_of_locate hlocate] at h
    exact Except.ok.inj h
  | error fault =>
    simp only [isDirectory, status, hlocate] at h
    split at h <;> simp_all

/-! ## Frames -/

/-- From one workspace to another nothing vanishes and nothing changes but at some locations. -/
structure Frame (changeable : Location → Prop) (ws ws' : Workspace) : Prop where
  here : ws'.here = ws.here
  directories : Tree.KeepsDirectories ws.tree ws'.tree
  kept : ∀ loc, ws.tree.get? loc ≠ none → ws'.tree.get? loc ≠ none
  outside : ∀ loc, ¬changeable loc → ws'.tree.get? loc = ws.tree.get? loc
  sound : ws.tree.Sound → ws'.tree.Sound

section Frame

variable {changeable : Location → Prop} {ws'' : Workspace}

theorem Frame.refl (changeable : Location → Prop) (ws : Workspace) : Frame changeable ws ws :=
  ⟨rfl, fun _ => id, fun _ => id, fun _ _ => rfl, id⟩

theorem Frame.trans (h : Frame changeable ws ws') (h' : Frame changeable ws' ws'') : Frame changeable ws ws'' where
  here := h'.here.trans h.here
  directories loc hget := h'.directories loc (h.directories loc hget)
  kept loc hget := h'.kept loc (h.kept loc hget)
  outside loc hout := (h'.outside loc hout).trans (h.outside loc hout)
  sound hsound := h'.sound (h.sound hsound)

theorem Frame.mono (h : Frame changeable ws ws') {more : Location → Prop}
    (hmore : ∀ loc, changeable loc → more loc) : Frame more ws ws' :=
  ⟨h.here, h.directories, h.kept, fun loc hout => h.outside loc fun hin => hout (hmore _ hin), h.sound⟩

theorem frame_put {above : Location} (hname : IsFileName name) (habove : ws.tree.get? above = some .directory)
    (hkept : ws.tree.get? (above ++ [name]) = some .directory → entry = .directory)
    (hchangeable : changeable (above ++ [name])) : Frame changeable ws (ws.put (above ++ [name]) entry) := by
  have hne : above ++ [name] ≠ [] := by simp
  refine ⟨rfl, keepsDirectories_put hne hkept, fun loc hget => ?_, fun loc hout => ?_,
    fun hsound => hsound.insert hname habove hkept⟩
  · rw [get?_put ws hne]
    split
    · simp
    · exact hget
  · rw [get?_put ws hne, if_neg]
    rintro rfl
    exact hout hchangeable

theorem IsFolder.of_frame (h : ws.IsFolder path loc) (hframe : Frame changeable ws ws') : ws'.IsFolder path loc :=
  ⟨locate_mono hframe.here hframe.directories h.located, hframe.directories loc h.isDirectory⟩

end Frame

end Workspace

/-! ## Faults of some kind -/

/-- A computation has no faults but those of a kind. -/
def FaultsIn {α : Type} (kind : Fault → Prop) (result : Except Fault α) : Prop :=
  ∀ fault, result = .error fault → kind fault

section FaultsIn

variable {α β : Type} {kind : Fault → Prop}

theorem faultsIn_ok (value : α) : FaultsIn kind (.ok value) := fun _ heq => nomatch heq

theorem faultsIn_error {fault : Fault} (h : kind fault) : FaultsIn kind (.error fault : Except Fault α) := by
  rintro other ⟨⟩
  exact h

theorem FaultsIn.bind {first : Except Fault α} {next : α → Except Fault β} (h : FaultsIn kind first)
    (hnext : ∀ value, FaultsIn kind (next value)) : FaultsIn kind (first >>= next) := by
  cases first with
  | ok value => exact hnext value
  | error fault => exact faultsIn_error (h fault rfl)

theorem FaultsIn.map {answer : Except Fault α} (h : FaultsIn kind answer) (change : α → β) :
    FaultsIn kind (change <$> answer) := by
  cases answer with
  | ok value => exact faultsIn_ok _
  | error fault => exact faultsIn_error (h fault rfl)

namespace Workspace

variable (hnull : kind .nullByte) (hfile : ∀ obstacle shown, kind (.file obstacle shown)) (ws : Workspace) (path : Path)

include hnull hfile

theorem faultsIn_locate : FaultsIn kind (ws.locate path) := by
  unfold locate reach
  split
  · exact faultsIn_error hnull
  · split
    · exact faultsIn_error (hfile _ _)
    · split
      · exact faultsIn_ok _
      · exact faultsIn_error (hfile _ _)

theorem faultsIn_readBytes : FaultsIn kind (ws.readBytes path) := by
  refine (faultsIn_locate hnull hfile ws path).bind fun loc => ?_
  unfold bytesAt
  split
  · exact faultsIn_error (hfile _ _)
  · exact faultsIn_error (hfile _ _)
  · exact faultsIn_ok _
  · exact faultsIn_ok _

end Workspace

end FaultsIn

end StudioMigration
