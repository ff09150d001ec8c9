import Mathlib.Data.List.Perm.Basic
import Mathlib.Logic.Relation
import StudioMigration.Analysis.Scan
import StudioMigration.Proofs.Inspection

/-!
# Findings in the order of their arrival

The files of a scan may be read by workers side by side. What they find is put together as it comes in, and which
worker is done first is anybody's guess.

* `Arrival.Step` is one step of that: the result of any file that is still waiting comes in.
* `Arrival.Reached.step` says what every step keeps, and `Arrival.Runs.exists_of_ok` what that comes to in the end.
* `Scanner.Collects` says that a scanner works that way. Taking the files in turn is one way to do so
  (`collects_inTurn`), and every other order of the files is one, too (`collects_arranged`).
-/

namespace StudioMigration

open List

variable {α : Type}

/-! ## One file -/

def Workspace.foundIn (ws : Workspace) (scan : FileScan α) (file : Path) : Except Fault (List α) :=
  (ws.readLenient (Path.ofString file.render)).map (scan file.render)

theorem report_scanFile (ws : Workspace) (scan : FileScan α) (file : Path) :
    (scanFile scan file.render).report ws = ([], ws.foundIn scan file) := by
  unfold scanFile Workspace.foundIn
  rw [Inspection.report_ask_bind]
  cases ws.readLenient (Path.ofString file.render) with
  | error fault => rfl
  | ok text => rfl

/-- What is found in some files when their results come in one after the other. -/
def Workspace.foundAmong (ws : Workspace) (scan : FileScan α) : List Path → Except Fault (List α)
  | [] => .ok []
  | file :: files => do return (← ws.foundIn scan file) ++ (← ws.foundAmong scan files)

theorem report_scanEach (ws : Workspace) (scan : FileScan α) (files : List Path) :
    (scanEach scan files).report ws = ([], ws.foundAmong scan files) := by
  induction files with
  | nil => rfl
  | cons file files ih =>
    have hfile := report_scanFile ws scan file
    unfold scanEach Workspace.foundAmong
    cases hfound : ws.foundIn scan file with
    | error fault =>
      rw [hfound] at hfile
      exact Inspection.report_bind_error hfile _
    | ok found =>
      rw [hfound] at hfile
      refine (Inspection.report_bind_ok hfile _).trans ?_
      cases hothers : ws.foundAmong scan files with
      | error fault =>
        rw [hothers] at ih
        rw [Inspection.report_bind_error ih]
        rfl
      | ok others =>
        rw [hothers] at ih
        rw [Inspection.report_bind_ok ih]
        rfl

/-! ## One result after the other -/

/-- A scan on its way: the files whose results are still to come, and what has come in so far. -/
structure Arrival (α : Type) where
  waiting : List Path
  merged : List α

namespace Arrival

variable {files : List Path}

section Runs

variable (ws : Workspace) (scan : FileScan α) (lists : List α → List α → Prop)

/-- The result of one of the files comes in, and what was found there is listed in some way. -/
inductive Step : Arrival α → Arrival α → Prop where
  | collect {before after : List Path} {file : Path} {found listed merged : List α}
      (hfound : ws.foundIn scan file = .ok found) (hlisted : lists found listed) :
      Step ⟨before ++ file :: after, merged⟩ ⟨before ++ after, merged ++ listed⟩

/-- A scan ends when all results have come in, or with the first fault to come in. -/
inductive Ends : Arrival α → Except Fault (List α) → Prop where
  | complete (merged : List α) : Ends ⟨[], merged⟩ (.ok merged)
  | fault {before after : List Path} {file : Path} {fault : Fault} (merged : List α)
      (hfault : ws.foundIn scan file = .error fault) : Ends ⟨before ++ file :: after, merged⟩ (.error fault)

/-- The results of some files come in until the scan ends. -/
def Runs (files : List Path) (result : Except Fault (List α)) : Prop :=
  ∃ last, Relation.ReflTransGen (Step ws scan lists) ⟨files, []⟩ last ∧ Ends ws scan last result

/-- What has come in so far: the files that are done, each with the list of what was found in it. -/
structure Reached (files : List Path) (state : Arrival α) (done : List (Path × List α)) : Prop where
  merged : state.merged = done.flatMap (·.2)
  files : (done.map (·.1) ++ state.waiting).Perm files
  listed : ∀ x ∈ done, ∃ found, ws.foundIn scan x.1 = .ok found ∧ lists found x.2

variable {ws scan lists}

theorem Reached.step {state next : Arrival α} {done : List (Path × List α)}
    (h : Reached ws scan lists files state done) (hstep : Step ws scan lists state next) :
    ∃ file listed, Reached ws scan lists files next (done ++ [(file, listed)]) := by
  cases hstep with
  | @collect before after file found listed merged hfound hlisted =>
    refine ⟨file, listed, ?_, ?_, ?_⟩
    · have hmerged : merged = done.flatMap (·.2) := h.merged
      simp [hmerged]
    · have hmoved : (done.map (·.1) ++ [file] ++ (before ++ after)).Perm
          (done.map (·.1) ++ (before ++ file :: after)) := by
        rw [append_assoc, singleton_append]
        exact List.Perm.append_left _ perm_middle.symm
      simpa using hmoved.trans h.files
    · intro x hx
      rcases mem_append.1 hx with hx | hx
      · exact h.listed x hx
      · obtain rfl := mem_singleton.1 hx
        exact ⟨found, hfound, hlisted⟩

theorem Reached.run {last : Arrival α} (h : Relation.ReflTransGen (Step ws scan lists) ⟨files, []⟩ last) :
    ∃ done, Reached ws scan lists files last done := by
  induction h with
  | refl => exact ⟨[], rfl, List.Perm.refl _, by simp⟩
  | tail _ hstep ih =>
    obtain ⟨done, hdone⟩ := ih
    obtain ⟨file, listed, hnext⟩ := hdone.step hstep
    exact ⟨_, hnext⟩

/-- A run that ends well has been to all files, in some order. -/
theorem Runs.exists_of_ok {merged : List α} (h : Runs ws scan lists files (.ok merged)) :
    ∃ done : List (Path × List α), merged = done.flatMap (·.2) ∧ (done.map (·.1)).Perm files ∧
      ∀ x ∈ done, ∃ found, ws.foundIn scan x.1 = .ok found ∧ lists found x.2 := by
  obtain ⟨last, hrun, hend⟩ := h
  obtain ⟨done, hdone⟩ := Reached.run hrun
  cases hend with
  | complete => exact ⟨done, hdone.merged, by simpa using hdone.files, hdone.listed⟩

/-- A run that ends with a fault has come upon a file that cannot be read. -/
theorem Runs.exists_of_error {fault : Fault} (h : Runs ws scan lists files (.error fault)) :
    ∃ file ∈ files, ws.foundIn scan file = .error fault := by
  obtain ⟨last, hrun, hend⟩ := h
  obtain ⟨done, hdone⟩ := Reached.run hrun
  cases hend with
  | fault merged hfault =>
    refine ⟨_, hdone.files.subset ?_, hfault⟩
    simp

/-- Whatever order the files are taken in, that is a run. -/
theorem runs_foundAmong (hlists : ∀ found, lists found found) {order : List Path} (h : order.Perm files) :
    Runs ws scan lists files (ws.foundAmong scan order) := by
  -- the results of the first files may have come in already
  have hfrom : ∀ (order files : List Path) (merged : List α), order.Perm files →
      ∃ last, Relation.ReflTransGen (Step ws scan lists) ⟨files, merged⟩ last ∧
        Ends ws scan last ((ws.foundAmong scan order).map (merged ++ ·)) := by
    intro order
    induction order with
    | nil =>
      intro files merged hperm
      obtain rfl := hperm.nil_eq
      refine ⟨_, .refl, ?_⟩
      simpa [Workspace.foundAmong, Except.map] using Ends.complete merged
    | cons file order ih =>
      intro files merged hperm
      obtain ⟨before, after, rfl⟩ := append_of_mem (hperm.subset mem_cons_self)
      have hrest : order.Perm (before ++ after) := (hperm.trans perm_middle).cons_inv
      unfold Workspace.foundAmong
      cases hfound : ws.foundIn scan file with
      | error fault => exact ⟨_, .refl, .fault merged hfound⟩
      | ok found =>
        obtain ⟨last, hrun, hend⟩ := ih (before ++ after) (merged ++ found) hrest
        refine ⟨last, .head (.collect hfound (hlists found)) hrun, ?_⟩
        cases hothers : ws.foundAmong scan order with
        | error fault => simpa [hothers, Except.map, bind, Except.bind] using hend
        | ok others => simpa [hothers, Except.map, bind, Except.bind, pure, Except.pure] using hend
  obtain ⟨last, hrun, hend⟩ := hfrom order files [] h
  refine ⟨last, hrun, ?_⟩
  cases hfound : ws.foundAmong scan order with
  | error fault => simpa [hfound, Except.map] using hend
  | ok found => simpa [hfound, Except.map] using hend

end Runs

end Arrival

/-! ## Scanners -/

theorem report_filesEndingAny (ws : Workspace) (start : Path) (endings : List String) :
    ∃ result, (filesEndingAny start endings).report ws = ([], result) := by
  induction endings with
  | nil => exact ⟨_, rfl⟩
  | cons ending endings ih =>
    obtain ⟨others, hothers⟩ := ih
    have hfirst : ∃ result, (filesEnding start ending).report ws = ([], result) := by
      unfold filesEnding entriesEnding
      rw [Inspection.report_ask_bind]
      split
      · exact ⟨_, rfl⟩
      · exact ⟨_, rfl⟩
    obtain ⟨first, hfirst⟩ := hfirst
    unfold filesEndingAny
    rcases first with fault | found
    · exact ⟨_, Inspection.report_bind_error hfirst _⟩
    · rw [Inspection.report_bind_ok hfirst]
      rcases others with fault | others
      · exact ⟨_, by rw [Inspection.report_bind_error hothers]; rfl⟩
      · exact ⟨_, by rw [Inspection.report_bind_ok hothers]; rfl⟩

/-- The files below a directory that have one of some endings, all of which can be read. -/
structure Workspace.Reads (ws : Workspace) (start : Path) (endings : List String) (files : List Path) : Prop where
  found : (filesEndingAny start endings).report ws = ([], .ok files)
  readable : ∀ file ∈ files, ∃ text, ws.readLenient (Path.ofString file.render) = .ok text

/-- A scanner that puts together what is found in the files below a directory as it comes in. How the findings in one
file are listed is up to it, within limits. -/
def Scanner.Collects (scanner : Scanner) (ws : Workspace) (start : Path)
    (lists : (α : Type) → List α → List α → Prop) : Prop :=
  ∀ (α : Type) (endings : List String) (scan : FileScan α), ∃ result,
    (scanner α endings scan).report ws = ([], result) ∧
    (∀ files, (filesEndingAny start endings).report ws = ([], .ok files) →
      Arrival.Runs ws scan (lists α) files result) ∧
    ∀ fault, (filesEndingAny start endings).report ws = ([], .error fault) → result = .error fault

namespace Scanner.Collects

variable {scanner : Scanner} {ws : Workspace} {start : Path} {lists : (α : Type) → List α → List α → Prop}
  (h : scanner.Collects ws start lists) {endings : List String}

include h

/-- Where all files can be read, the scan ends well. -/
theorem report_of_reads {files : List Path} (hreads : ws.Reads start endings files) (scan : FileScan α) :
    ∃ merged, (scanner α endings scan).report ws = ([], .ok merged) ∧
      Arrival.Runs ws scan (lists α) files (.ok merged) := by
  obtain ⟨result, hreport, hruns, -⟩ := h α endings scan
  have hrun := hruns files hreads.found
  cases result with
  | ok merged => exact ⟨merged, hreport, hrun⟩
  | error fault =>
    obtain ⟨file, hfile, hfault⟩ := hrun.exists_of_error
    obtain ⟨text, htext⟩ := hreads.readable file hfile
    simp [Workspace.foundIn, htext, Except.map] at hfault

/-- Where some file cannot be read, the scan ends with a fault, whichever result comes in first. -/
theorem report_of_not_reads (hnone : ∀ files, ¬ws.Reads start endings files) (scan : FileScan α) :
    ∃ fault, (scanner α endings scan).report ws = ([], .error fault) := by
  obtain ⟨result, hreport, hruns, hfault⟩ := h α endings scan
  obtain ⟨search, hsearch⟩ := report_filesEndingAny ws start endings
  cases search with
  | error fault => exact ⟨fault, by rw [hreport, hfault fault hsearch]⟩
  | ok files =>
    cases result with
    | error fault => exact ⟨fault, hreport⟩
    | ok merged =>
      obtain ⟨done, -, hfiles, hlisted⟩ := (hruns files hsearch).exists_of_ok
      refine absurd ⟨hsearch, fun file hfile => ?_⟩ (hnone files)
      obtain ⟨x, hx, rfl⟩ := mem_map.1 (hfiles.symm.subset hfile)
      obtain ⟨found, hfound, -⟩ := hlisted x hx
      cases hread : ws.readLenient (Path.ofString x.1.render) with
      | ok text => exact ⟨text, rfl⟩
      | error fault => simp [Workspace.foundIn, hread, Except.map] at hfound

end Scanner.Collects

/-- The scanner that takes the files below a directory in a given order. -/
def arranged (start : Path) (arrange : List Path → List Path) : Scanner := fun _ endings scan => do
  let files ← filesEndingAny start endings
  scanEach scan (arrange files)

/-- Every order of the files is one in which their results may come in. -/
theorem collects_arranged (ws : Workspace) (start : Path) {arrange : List Path → List Path}
    (harrange : ∀ files, (arrange files).Perm files) {lists : (α : Type) → List α → List α → Prop}
    (hlists : ∀ (α : Type) (found : List α), lists α found found) :
    (arranged start arrange).Collects ws start lists := by
  intro α endings scan
  obtain ⟨search, hsearch⟩ := report_filesEndingAny ws start endings
  cases search with
  | error fault =>
    refine ⟨.error fault, Inspection.report_bind_error hsearch _, fun files hfiles => ?_, fun other hother => ?_⟩
    · rw [hsearch] at hfiles
      cases hfiles
    · rw [hsearch] at hother
      cases hother
      rfl
  | ok files =>
    refine ⟨ws.foundAmong scan (arrange files), ?_, fun others hothers => ?_, fun fault hfault => ?_⟩
    · refine (Inspection.report_bind_ok hsearch _).trans ?_
      rw [report_scanEach]
      rfl
    · rw [hsearch] at hothers
      cases hothers
      exact Arrival.runs_foundAmong (hlists α) (harrange files)
    · rw [hsearch] at hfault
      cases hfault

/-- Taking the files in turn is one way to collect what is found in them. -/
theorem collects_inTurn (ws : Workspace) (start : Path) {lists : (α : Type) → List α → List α → Prop}
    (hlists : ∀ (α : Type) (found : List α), lists α found found) : (inTurn start).Collects ws start lists :=
  collects_arranged ws start (fun files => List.Perm.refl files) hlists

end StudioMigration
