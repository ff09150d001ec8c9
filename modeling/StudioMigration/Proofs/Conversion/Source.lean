import StudioMigration.Conversion.Source
import StudioMigration.Project
import StudioMigration.Proofs.Session
import StudioMigration.Proofs.Text.Basic

/-!
# Sources and their bytes

What reading and writing a source file does to its text and its bytes, and the steps with which every
conversion starts.

* `sourceText_latinBytes` says that a text without carriage returns is read back as it was written.
* `exec_storeChanged_telling` says what storing a text does to the file, and what is told about it.
* `exec_confirm` says that a session goes on with the same files, whatever the answer is.
-/

namespace StudioMigration

open Script List Text.Latin1 Workspace
open Text.Utf8 (Bytes byteLength)

variable {session : Session} {text : List Char} {loc : Location} {bytes before : Bytes}

/-! ## Texts in Latin-1 -/

namespace Text

def latinBytes (text : List Char) : Bytes := text.map fun c => UInt8.ofNat c.toNat

theorem Latin1.encode_eq_ok (h : ∀ c ∈ text, Latin1.fits c) : Latin1.encode text = .ok (latinBytes text) := by
  have hdrop : text.dropWhile Latin1.fits = [] := by
    rw [dropWhile_eq_nil_iff]
    exact h
  simp [Latin1.encode, hdrop, latinBytes]

theorem Latin1.toNat_ofNat (b : UInt8) : (Char.ofNat b.toNat).toNat = b.toNat := by
  have hvalid : b.toNat.isValidChar := Or.inl (by have := b.toNat_lt; omega)
  rw [Char.ofNat, dif_pos hvalid]
  rfl

theorem Latin1.fits_of_mem_decode {c : Char} (h : c ∈ Latin1.decode bytes) : Latin1.fits c := by
  obtain ⟨b, -, rfl⟩ := mem_map.1 h
  simp [Latin1.fits, Latin1.toNat_ofNat, b.toNat_lt]

theorem Latin1.decode_latinBytes (h : ∀ c ∈ text, Latin1.fits c) : Latin1.decode (latinBytes text) = text := by
  unfold Latin1.decode latinBytes
  rw [map_map]
  conv => rhs; rw [← map_id text]
  apply map_congr_left
  intro c hc
  have hlt : c.toNat < 256 := by simpa [Latin1.fits] using h c hc
  simp [Nat.mod_eq_of_lt hlt]

end Text

theorem fits_of_mem_sourceText {c : Char} (h : c ∈ sourceText bytes) : fits c := by
  rcases Text.mem_unifyNewlines h with h | rfl
  · exact fits_of_mem_decode h
  · decide

/-- A text without carriage returns is read back as it was written. -/
theorem sourceText_latinBytes (hfits : ∀ c ∈ text, fits c) (hreturn : '\r' ∉ text) :
    sourceText (Text.latinBytes text) = text := by
  rw [sourceText, decode_latinBytes hfits, Text.unifyNewlines_of_not_mem hreturn]

/-! ## Storing a text -/

/-- A workspace and what it becomes when the entry at a location is replaced. -/
structure Workspace.Replaced (ws ws' : Workspace) (loc : Location) (entry : Entry) : Prop where
  here : ws'.here = ws.here
  get? : ∀ place, ws'.tree.get? place = if place = loc then some entry else ws.tree.get? place

namespace Workspace.Replaced

variable {ws ws' : Workspace} {old new : Entry}

theorem refl (h : ws.tree.get? loc = some old) : ws.Replaced ws loc old := by
  refine ⟨rfl, fun place => ?_⟩
  split
  · rename_i heq
    rw [heq, h]
  · rfl

theorem keepsDirectories (h : ws.Replaced ws' loc new) (hold : ws.tree.get? loc = some old)
    (hne : old ≠ .directory) : Tree.KeepsDirectories ws.tree ws'.tree := by
  intro place hplace
  rw [h.get?, if_neg]
  · exact hplace
  · rintro rfl
    exact hne (Option.some.inj (hold.symm.trans hplace))

theorem sound (h : ws.Replaced ws' loc new) (hold : ws.tree.get? loc = some old)
    (hne : old ≠ .directory) (hsound : ws.tree.Sound) : ws'.tree.Sound := by
  refine hsound.of_keepsDirectories (h.keepsDirectories hold hne) fun place hplace => ?_
  rw [h.get?] at hplace
  split at hplace
  · rename_i heq
    simp [heq, hold]
  · exact hplace

theorem get?_other {folder names others : Location} (h : ws.Replaced ws' (folder ++ names) new)
    (hne : names ≠ others) : ws'.tree.get? (folder ++ others) = ws.tree.get? (folder ++ others) := by
  rw [h.get?, if_neg]
  exact fun heq => hne (append_cancel_left heq).symm

end Workspace.Replaced

/-- Storing a text that is not the one of the file replaces the bytes of the file and nothing else. The
answer compares digests. -/
theorem exec_storeChanged {file : Path} (hlocate : session.workspace.locate file = .ok loc)
    (hget : session.workspace.tree.get? loc = some (.file before)) (hfits : ∀ c ∈ text, fits c)
    (htext : text ≠ sourceText before) :
    (storeChanged file before text).exec session =
      (.ok (Digest.digest (Text.latinBytes text) != Digest.digest before),
        { session with
          workspace := session.workspace.put loc (.file (Text.latinBytes text)) }) := by
  have hne : loc ≠ [] := Tree.ne_nil_of_get? hget (by simp)
  have hwrite : (writeSource file text).exec session = (.ok (), { session with
      workspace := session.workspace.put loc (.file (Text.latinBytes text)) }) := by
    simp [writeSource, encode_eq_ok hfits, exec_change, writeBytes_of_locate hlocate hget]
  have hthere : (session.workspace.put loc (.file (Text.latinBytes text))).locate file =
      .ok loc := locate_put hne (by simp [hget]) hlocate
  have hread : (session.workspace.put loc (.file (Text.latinBytes text))).readBytes file =
      .ok (Text.latinBytes text) :=
    readBytes_of_locate hthere (by rw [get?_put _ hne, if_pos rfl])
  have hbeq : (text == sourceText before) = false := by simpa using htext
  unfold storeChanged
  simp only [hbeq, Bool.false_eq_true, if_false]
  rw [exec_bind_ok hwrite, exec_bind_ok (by rw [readSource, exec_look, hread])]
  rfl

theorem exec_storeChanged_same (session : Session) (file : Path) (before : Bytes) :
    (storeChanged file before (sourceText before)).exec session = (.ok false, session) := by
  simp [storeChanged]

/-- The bytes of a source after a text was stored. A text that stays as it is, is not written. -/
def storedBytes (before : Bytes) (text : List Char) : Bytes :=
  if text = sourceText before then before else Text.latinBytes text

theorem sourceText_storedBytes (hfits : ∀ c ∈ text, fits c) (hreturn : '\r' ∉ text) :
    sourceText (storedBytes before text) = text := by
  unfold storedBytes
  split
  · rename_i hsame
    exact hsame.symm
  · exact sourceText_latinBytes hfits hreturn

/-- An entry after a text was stored. -/
def Entry.stored (text : List Char) : Entry → Entry
  | .file bytes => .file (storedBytes bytes text)
  | entry => entry

theorem Entry.stored_eq_self {entry : Entry} (h : text = sourceText entry.bytes) : entry.stored text = entry := by
  cases entry with
  | file bytes => exact congrArg Entry.file (if_pos h)
  | _ => rfl

theorem Entry.stored_of_ne (h : text ≠ sourceText (Entry.file bytes).bytes) :
    (Entry.file bytes).stored text = .file (Text.latinBytes text) :=
  congrArg Entry.file (if_neg h)

/-- A workspace after a text was stored in a source. -/
def Workspace.store (ws : Workspace) (loc : Location) (before : Bytes) (text : List Char) : Workspace :=
  if text = sourceText before then ws else ws.put loc (.file (Text.latinBytes text))

section Store

variable {ws : Workspace} {entry : Entry} (hget : ws.tree.get? loc = some entry)
  (hentry : text = sourceText entry.bytes ∨ ∃ bytes, entry = .file bytes)

include hget hentry

theorem Workspace.replaced_store : ws.Replaced (ws.store loc entry.bytes text) loc (entry.stored text) := by
  unfold store
  split
  · rename_i hsame
    rw [Entry.stored_eq_self hsame]
    exact .refl hget
  · rename_i hsame
    obtain ⟨bytes, rfl⟩ := hentry.resolve_left hsame
    refine ⟨rfl, fun place => ?_⟩
    rw [get?_put ws (Tree.ne_nil_of_get? hget (by simp)), Entry.stored_of_ne hsame]

/-- Storing a text and telling about a change changes the bytes of the file and nothing else. -/
theorem exec_storeChanged_telling {β : Type} {file : Path} (hws : session.workspace = ws)
    (hlocate : ws.locate file = .ok loc) (hfits : ∀ c ∈ text, fits c) {changed : Bool}
    (hchanged : changed = (Digest.digest (entry.stored text).bytes != Digest.digest entry.bytes)) (note : Note)
    (value : Bool → β) :
    (do
      let changed ← storeChanged file entry.bytes text
      if changed then say note
      return value changed : Script β).exec session =
      (.ok (value changed), { session.tell (if changed then [note] else []) with
        workspace := ws.store loc entry.bytes text }) := by
  subst hws
  unfold store
  by_cases hsame : text = sourceText entry.bytes
  · rw [Entry.stored_eq_self hsame] at hchanged
    rw [hchanged, hsame, exec_bind_ok (exec_storeChanged_same session file entry.bytes)]
    simp
  · obtain ⟨bytes, rfl⟩ := hentry.resolve_left hsame
    rw [Entry.stored_of_ne hsame] at hchanged
    rw [if_neg hsame]
    simp only [Entry.bytes] at hchanged ⊢
    rw [exec_bind_ok (exec_storeChanged hlocate hget hfits hsame), ← hchanged]
    cases changed with
    | false => simp [Session.tell]
    | true =>
      rw [if_pos rfl, exec_bind_ok (exec_say _ note)]
      rfl

end Store

/-! ## Before a conversion -/

/-- The folder that a command line asks for. -/
def Session.projectFolder (session : Session) : List String → String
  | project :: _ => project
  | [] => session.workspace.current.render

/-- The folder with the sources of the project that a command line asks for. -/
def Session.logicalFolder (session : Session) (line : List String) : Path :=
  (Path.ofString (session.projectFolder line)).child "Logical"

theorem exec_projectArgument (session : Session) (line : List String) :
    (projectArgument line).exec session = (.ok (session.projectFolder line), session) := by
  cases line <;> rfl

/-- A path leads to a directory with a project file in it. -/
structure Workspace.HasProject (ws : Workspace) (folder : Path) (loc : Location) : Prop where
  located : ws.locate folder = .ok loc
  isDirectory : ws.tree.get? loc = some .directory
  hasFile : (ws.tree.children loc).any (fun child => isProjectName child.1)

theorem Workspace.HasProject.locate_logical {ws : Workspace} {folder : Path} (h : ws.HasProject folder loc)
    (hshort : byteLength (libraryList folder).render ≤ maxPathLength) :
    ws.locate (folder.child "Logical") = .ok (loc ++ ["Logical"]) := by
  apply locate_child (by decide) h.located h.isDirectory
  have hlibraries := Path.byteLength_render_child (folder.child "Logical") (by decide : "Libraries" ≠ "")
  have hlist := Path.byteLength_render_child ((folder.child "Logical").child "Libraries")
    (by decide : "Package.pkg" ≠ "")
  exact hlibraries.trans (hlist.trans hshort)

theorem exec_requireProject {folder : String} (h : session.workspace.HasProject (Path.ofString folder) loc)
    (caller : String) : ∃ file, (requireProject caller folder).exec session = (.ok file, session) := by
  have hstatus := status_of_locate h.located
  have hholds : session.workspace.holds (Path.ofString folder) = .ok true := by
    simp [holds, hstatus, h.isDirectory, Functor.map, Except.map]
  have hfile : ∃ file, projectFile? session.workspace (Path.ofString folder) = .ok (some file) := by
    have hfind : ((session.workspace.tree.children loc).map (·.1)).find? isProjectName ≠ none := by
      obtain ⟨child, hmem, hname⟩ := any_eq_true.1 h.hasFile
      intro hnone
      exact find?_eq_none.1 hnone _ (mem_map_of_mem hmem) hname
    obtain ⟨file, hfile⟩ := Option.ne_none_iff_exists'.1 hfind
    exact ⟨file, by
      simp [projectFile?, isDirectory, hstatus, h.isDirectory, Functor.map, Except.map,
        bind, Except.bind, Entry.isDirectory, list, h.located, listAt, pure,
        Except.pure, hfile]⟩
  obtain ⟨file, hfile⟩ := hfile
  refine ⟨file, ?_⟩
  unfold requireProject
  rw [exec_bind_ok (by rw [exec_look, hholds])]
  simp only [if_true]
  rw [exec_bind_ok (by rw [exec_look, hfile])]
  rfl

theorem exec_announceProject (session : Session) (project file : String) :
    (announceProject project file).exec session =
      (.ok (), session.tell [⟨s!"Project path validated: {project}", "", ""⟩,
        ⟨s!"Using project file: {file}\n", "", ""⟩]) := by
  unfold announceProject
  rw [exec_bind_ok (exec_say session _), exec_say, Session.tell_tell]
  rfl

/-- Looking for the library list leads to no fault if its path can be followed. -/
theorem exec_libraryListText? {project : Path} (h : session.workspace.HasProject project loc)
    (hshort : byteLength (libraryList project).render ≤ maxPathLength) :
    ∃ text, (libraryListText? project).exec session = (.ok text, session) := by
  have hnames : ∀ name ∈ ["Logical", "Libraries", "Package.pkg"], IsFileName name := by decide
  have hpath : libraryList project = project.descend ["Logical", "Libraries", "Package.pkg"] := by
    simp [libraryList, Path.child, Path.descend]
  rw [hpath] at hshort
  obtain ⟨entry, hstatus⟩ := exists_status_descend h.located hnames hshort
  rw [← hpath] at hstatus
  unfold libraryListText?
  rw [exec_bind_ok (by rw [exec_look, isFile, hstatus]; rfl)]
  split
  · rename_i hfile
    obtain ⟨bytes, rfl⟩ : ∃ bytes, entry = some (.file bytes) := by
      rcases entry with _ | (_ | bytes | _)
      · simp at hfile
      · simp [Entry.isFile] at hfile
      · exact ⟨bytes, rfl⟩
      · simp [Entry.isFile] at hfile
    have hread := readBytes_of_status hstatus
    have hlatin : session.workspace.readLatin (libraryList project) = .ok (Text.unifyNewlines (decode bytes)) := by
      simp [readLatin, hread]
    refine ⟨some (Text.unifyNewlines (decode bytes)), ?_⟩
    rw [map_eq_pure_bind, exec_bind_ok (by rw [exec_look, hlatin])]
    rfl
  · exact ⟨none, rfl⟩

/-- Whether the next question is answered with a yes. -/
def Session.saysYes (session : Session) : Bool :=
  match session.respondent with
  | .window => session.answers.head? == some "Yes"
  | .terminal input =>
    match takeLine? input with
    | some (line, _) => Text.lowerString (Text.trimString (String.ofList line)) == "y"
    | none => true
  | .nobody => true

theorem exec_nextAnswer (session : Session) : ∃ after,
    nextAnswer.exec session = (.ok (session.answers.headD ""), after) ∧ after.workspace = session.workspace := by
  unfold nextAnswer
  rw [exec_bind_ok (exec_get session)]
  cases session.answers with
  | nil => exact ⟨_, rfl, rfl⟩
  | cons answer rest => exact ⟨_, rfl, rfl⟩

theorem exec_useFallback (session : Session) (question fallback : String) :
    (useFallback question fallback).exec session =
      (.ok fallback, session.tell [⟨s!"{question} (Automatically using default: '{fallback}')", "INFO", ""⟩]) := by
  unfold useFallback
  rw [exec_bind_ok (exec_say session _)]
  rfl

/-- A question is answered and changes no files. -/
theorem exec_askUser (session : Session) (question remark : String) :
    ∃ answer after, (askUser question "y" remark).exec session = (.ok answer, after) ∧
      session.saysYes = (answer == "y") ∧ after.workspace = session.workspace := by
  unfold Session.saysYes askUser
  rw [exec_bind_ok (exec_get session)]
  rcases session.respondent with _ | input | _
  · exact ⟨_, _, exec_useFallback session question "y", rfl, rfl⟩
  · simp only
    rw [exec_bind_ok (exec_write session .out question)]
    rcases takeLine? input with _ | ⟨line, rest⟩
    · rw [exec_bind_ok (exec_modify _ _)]
      exact ⟨_, _, rfl, rfl, rfl⟩
    · exact ⟨_, _, rfl, rfl, rfl⟩
  · simp only
    obtain ⟨after, hnext, hws⟩ := exec_nextAnswer _
    rw [record, exec_bind_ok (exec_modify _ _), exec_bind_ok hnext, exec_bind_ok (exec_say _ _)]
    refine ⟨_, _, rfl, ?_, hws⟩
    cases session.answers with
    | nil => rfl
    | cons answer rest => by_cases hyes : answer = "Yes" <;> simp [hyes]

/-- Whatever the answer is, a session goes on with the same files. -/
theorem exec_confirm (session : Session) (question remark : String) :
    ∃ after, (confirm question remark ["y"]).exec session = (.ok session.saysYes, after) ∧
      after.workspace = session.workspace := by
  obtain ⟨answer, after, hask, hyes, hws⟩ := exec_askUser session question remark
  unfold confirm
  rw [exec_bind_ok hask, hyes]
  by_cases hanswer : answer = "y"
  · exact ⟨after, by simp [hanswer], hws⟩
  · rw [if_neg (by simpa using hanswer), exec_bind_ok (exec_say _ _), beq_eq_false_iff_ne.2 hanswer]
    exact ⟨_, rfl, hws⟩

/-- A note comes before the question, whichever of the two it is. -/
theorem exec_say_confirm_bind {α : Type} (session : Session) (notes : List Note) (condition : Bool)
    (note note' : Note) (question question' remark remark' : String) (next : Bool → Script α) :
    ∃ before : Session, before.workspace = session.workspace ∧
      (if condition then say note >>= fun _ => confirm question remark ["y"] >>= next
        else say note' >>= fun _ => confirm question' remark' ["y"] >>= next).exec (session.tell notes) =
          (next session.saysYes).exec before := by
  have hconfirm (note : Note) (question remark : String) : ∃ before : Session, before.workspace = session.workspace ∧
      (say note >>= fun _ => confirm question remark ["y"] >>= next).exec (session.tell notes) =
        (next session.saysYes).exec before := by
    obtain ⟨after, hconfirm, hws⟩ := exec_confirm ((session.tell notes).tell [note]) question remark
    refine ⟨after, hws, ?_⟩
    rw [exec_bind_ok (exec_say _ note), exec_bind_ok hconfirm]
    rfl
  split
  · exact hconfirm note question remark
  · exact hconfirm note' question' remark'

end StudioMigration
