import Mathlib.Logic.Function.Iterate
import StudioMigration.Launcher.Worker
import StudioMigration.Proofs.Report.Agreement

/-!
# What a run leaves behind

A run lets both output streams lead to the log of the window and gives them back at its end. It looks at the folder
only after that, so a request that is not admitted ends with the streams still redirected; the next run takes the
redirected streams for those it has to give back.

* `RunRequest.isAdmitted_iff` says which requests get as far as the tool.
* `RunRequest.run_cases` says what one run does to the streams and to the spinner, whatever the tool does.
* `RunRequest.hasRun_run` says which runs are told of as a success.
* `runs_leaveAsFound_iff` is the run over any number of requests.
-/

namespace StudioMigration

open Launch

/-! ## Streams and spinner -/

/-- What a stream of the window's process leads to. -/
def Window.target (window : Window) : Stream → StreamTarget
  | .out => window.output
  | .err => window.errors

/-- What is written changes the log and the status only. -/
theorem Window.receiveAll_frame (window : Window) (pieces : List String) :
    (window.receiveAll pieces).target = window.target ∧ (window.receiveAll pieces).spinning = window.spinning ∧
      (window.receiveAll pieces).hasRun = window.hasRun := by
  induction pieces generalizing window with
  | nil => exact ⟨rfl, rfl, rfl⟩
  | cons piece pieces ih =>
    have hreceive : (window.receive piece).target = window.target ∧
        (window.receive piece).spinning = window.spinning ∧ (window.receive piece).hasRun = window.hasRun := by
      unfold Window.receive
      split
      · exact ⟨rfl, rfl, rfl⟩
      · exact ⟨rfl, rfl, rfl⟩
    rw [← hreceive.1, ← hreceive.2.1, ← hreceive.2.2]
    exact ih (window.receive piece)

namespace Launch

variable {α β : Type} (launcher : Launcher)

theorem exec_bind (action : Launch α) (next : α → Launch β) :
    (action >>= next).exec launcher =
      match action.exec launcher with
      | (.ok value, after) => (next value).exec after
      | (.error fault, after) => (.error fault, after) := by
  simp only [exec, ExceptT.run, bind, ExceptT.bind, ExceptT.mk, StateT.bind]
  rcases action launcher with ⟨fault | value, after⟩ <;> rfl

/-- A script that is captured changes neither the streams nor the spinner. -/
theorem exec_capture (script : Script α) :
    ∃ after, (capture script).exec launcher = (.ok (script.exec { launcher.session with written := [] }).1, after) ∧
      after.window.target = launcher.window.target ∧ after.window.spinning = launcher.window.spinning ∧
      after.window.hasRun = launcher.window.hasRun :=
  ⟨_, rfl, launcher.window.receiveAll_frame _⟩

theorem refuse_frame (obstacle : LaunchObstacle) :
    ((refuse obstacle).exec launcher).2.window.target = launcher.window.target ∧
      ((refuse obstacle).exec launcher).2.window.spinning = false ∧
      ((refuse obstacle).exec launcher).2.window.hasRun = launcher.window.hasRun := by
  obtain ⟨after, hcapture, htarget, -, hrun⟩ := exec_capture launcher (Script.say ⟨obstacle.describe, "ERROR", ""⟩)
  rw [refuse, exec_bind, hcapture]
  exact ⟨htarget, rfl, hrun⟩

/-- Whether a tool ends with an early end that it wanted. -/
def isEarlyEnd : Except Fault Unit → Bool
  | .error fault => fault.isExit
  | .ok _ => false

/-- However a tool ends, the streams are given back and the spinner stops. Any end but an early one that the tool
wanted counts as a success. -/
theorem runCaptured_frame (before : Window) (script : Script Unit) :
    ((runCaptured before script).exec launcher).2.window.target = before.target ∧
      ((runCaptured before script).exec launcher).2.window.spinning = false ∧
      if isEarlyEnd (script.exec { launcher.session with written := [] }).1 then
        ((runCaptured before script).exec launcher).2.window.hasRun = launcher.window.hasRun
      else ((runCaptured before script).exec launcher).2.window.hasRun ∧
        ((runCaptured before script).exec launcher).2.window.status = "Script finished successfully" := by
  obtain ⟨after, hcapture, -, -, hrun⟩ := exec_capture launcher script
  rw [runCaptured, exec_bind, hcapture]
  cases (script.exec { launcher.session with written := [] }).1 with
  | ok done => exact ⟨rfl, rfl, rfl, rfl⟩
  | error fault =>
    -- an end that the tool wanted is passed on, any other failure is told first
    by_cases hexit : fault.isExit
    · simp only [isEarlyEnd, hexit, if_true]
      exact ⟨rfl, rfl, hrun⟩
    · simp only [isEarlyEnd, hexit, if_false, Bool.false_eq_true]
      exact ⟨rfl, rfl, rfl, rfl⟩

end Launch

/-! ## Requests -/

/-- A request to run a tool: what the window says, the surroundings at that time, and what running a tool does. -/
structure RunRequest where
  folder : String
  choice : String
  verbose : Bool
  session : Session
  launch : Tool → String → Bool → Script Unit

namespace RunRequest

variable (req : RunRequest)

variable (launcher : Launcher)

/-- The launcher when the request is made; the spinner has been started. -/
def prepare : Launcher :=
  { launcher with
    session := req.session
    window := { launcher.window with
      folder := .field req.folder, choice := req.choice, verbose := req.verbose, spinning := true } }

def run (req : RunRequest) (launcher : Launcher) : Launcher :=
  ((runWith req.launch).exec (req.prepare launcher)).2

/-- What keeps the tool from being run. -/
def obstacle? : Except Fault (Option LaunchObstacle) :=
  launchObstacle? req.session req.folder (Tool.ofLabel? req.choice)

/-- The launcher when the folder is looked at: the log is empty, and both streams lead to it. -/
def redirected (req : RunRequest) (launcher : Launcher) : Launcher :=
  { req.prepare launcher with
    window := { (req.prepare launcher).window with
      log := {}, output := .log launcher.window.output, errors := .log launcher.window.errors } }

/-- A run either fails over the folder or goes on with both streams redirected. -/
theorem exec_runWith :
    (runWith req.launch).exec (req.prepare launcher) =
      match req.obstacle? with
      | .error fault => (.error fault, req.redirected launcher)
      | .ok obstacle =>
        (proceed { (req.prepare launcher).window with log := {} }
          (fun tool => req.launch tool req.folder req.verbose) obstacle
          (Tool.ofLabel? req.choice)).exec (req.redirected launcher) := by
  change (expect req.obstacle? >>= fun obstacle => proceed _ _ obstacle _).exec
    (req.redirected launcher) = _
  cases req.obstacle? with
  | error fault => rfl
  | ok obstacle => rfl

/-- Whether nothing keeps the tool from being run. -/
def isAdmitted (req : RunRequest) : Bool :=
  match req.obstacle? with
  | .ok none => true
  | _ => false

/-- A request is admitted if the folder is there and has a project in it, the choice is that of a tool, and the
tool is where a bundle keeps it. -/
theorem isAdmitted_iff :
    req.isAdmitted ↔
      req.session.workspace.holdsNamed req.folder ∧
        isMigrationProject req.session.workspace req.folder = .ok true ∧
        ∃ tool, Tool.ofLabel? req.choice = some tool ∧
          ∀ path ∈ tool.bundlePath? req.session, req.session.workspace.holdsNamed path.render := by
  unfold isAdmitted obstacle? launchObstacle?
  by_cases hfolder : req.session.workspace.holdsNamed req.folder
  · cases hproject : isMigrationProject req.session.workspace req.folder with
    | error fault => simp [hfolder]
    | ok valid =>
      cases valid with
      | false => simp [hfolder]
      | true =>
        cases htool : Tool.ofLabel? req.choice with
        | none => simp [hfolder]
        | some tool =>
          cases hpath : tool.bundlePath? req.session with
          | none => simp [hfolder, hpath]
          | some path =>
            by_cases hplace : req.session.workspace.holdsNamed path.render
            · simp [hfolder, hpath, hplace]
            · simp [hfolder, hpath, hplace]
  · simp [hfolder]

/-- What one run can do, whatever the tool does. An admitted request gives the streams back. A refused one stops the
spinner and keeps the streams redirected, and one that fails over the folder does not even stop the spinner. -/
theorem run_cases :
    (req.isAdmitted ∧ (req.run launcher).window.target = launcher.window.target ∧
        (req.run launcher).window.spinning = false) ∨
      (req.isAdmitted = false ∧
        (req.run launcher).window.target = (fun stream => .log (launcher.window.target stream)) ∧
        ((req.run launcher).window.spinning ↔ ∃ fault, req.obstacle? = .error fault)) := by
  have hredirected : (req.redirected launcher).window.target =
      fun stream => .log (launcher.window.target stream) := by
    funext stream
    cases stream with
    | out => rfl
    | err => rfl
  rw [run, exec_runWith]
  cases hobstacle : req.obstacle? with
  | error fault =>
    refine .inr ⟨by simp [isAdmitted, hobstacle], hredirected, ?_⟩
    exact ⟨fun _ => ⟨fault, rfl⟩, fun _ => rfl⟩
  | ok found =>
    cases found with
    | some obstacle =>
      obtain ⟨htarget, hspinning, -⟩ := refuse_frame (req.redirected launcher) obstacle
      refine .inr ⟨by simp [isAdmitted, hobstacle], htarget.trans hredirected, ?_⟩
      simp [proceed, hspinning]
    | none =>
      -- a choice that is no tool would have been a failure
      have hadmitted : req.isAdmitted := by simp [isAdmitted, hobstacle]
      obtain ⟨-, -, tool, htool, -⟩ := req.isAdmitted_iff.1 hadmitted
      rw [htool]
      obtain ⟨htarget, hspinning, -⟩ := runCaptured_frame (req.redirected launcher)
        { (req.prepare launcher).window with log := {} } (req.launch tool req.folder req.verbose)
      exact .inl ⟨hadmitted, htarget, hspinning⟩

/-- Only a failure over the folder leaves the spinner running. -/
theorem spinning_run (req : RunRequest) (launcher : Launcher) :
    (req.run launcher).window.spinning ↔ ∃ fault, req.obstacle? = .error fault := by
  rcases req.run_cases launcher with ⟨hadmitted, -, hspinning⟩ | ⟨-, -, hspinning⟩
  · rw [hspinning]
    refine ⟨fun h => absurd h Bool.false_ne_true, ?_⟩
    rintro ⟨fault, hfault⟩
    simp [isAdmitted, hfault] at hadmitted
  · exact hspinning

/-- Whether a run of the request leaves the process as it found it: the streams lead where they led before, and the
spinner stands still. -/
def LeavesAsFound : Prop :=
  (req.run launcher).window.output = launcher.window.output ∧
    (req.run launcher).window.errors = launcher.window.errors ∧ (req.run launcher).window.spinning = false

theorem leavesAsFound_iff : req.LeavesAsFound launcher ↔ req.isAdmitted := by
  rcases req.run_cases launcher with ⟨hadmitted, htarget, hspinning⟩ | ⟨hrefused, htarget, -⟩
  · refine ⟨fun _ => hadmitted, fun _ => ⟨?_, ?_, hspinning⟩⟩
    · exact congrFun htarget .out
    · exact congrFun htarget .err
  · -- a redirected stream is another one than it was
    refine ⟨fun h => ?_, fun h => by simp [h] at hrefused⟩
    have hoverlaid : launcher.window.output = .log launcher.window.output := h.1.symm.trans (congrFun htarget .out)
    have hsize := congrArg sizeOf hoverlaid
    simp at hsize

/-! ## What a run claims -/

/-- How a tool that the request chooses ends. -/
def ending (tool : Tool) : Except Fault Unit :=
  ((req.launch tool req.folder req.verbose).exec { req.session with written := [] }).1

/-- The request is admitted, and the tool does not end early by its own wish. It may fail in any other way. -/
def GetsThrough : Prop :=
  req.isAdmitted ∧
    ∃ tool, Tool.ofLabel? req.choice = some tool ∧ ∀ code, req.ending tool ≠ .error (.exit code)

/-- A run sets the mark of success, and the status that says so, just if the request gets through: a tool that fails
is told of as a success. -/
theorem hasRun_run (request : RunRequest) (launcher : Launcher) :
    ((request.run launcher).window.hasRun ↔ launcher.window.hasRun ∨ request.GetsThrough) ∧
      (request.GetsThrough → (request.run launcher).window.status = "Script finished successfully") := by
  rw [run, exec_runWith]
  cases hobstacle : request.obstacle? with
  | error fault => simp [GetsThrough, isAdmitted, hobstacle, redirected, prepare]
  | ok found =>
    cases found with
    | some obstacle =>
      simp only [GetsThrough, isAdmitted, hobstacle, Bool.false_eq_true, false_and, or_false, false_implies, and_true]
      exact iff_of_eq (congrArg (· = true) (refuse_frame (request.redirected launcher) obstacle).2.2)
    | none =>
      have hadmitted : request.isAdmitted := by simp [isAdmitted, hobstacle]
      obtain ⟨-, -, tool, htool, -⟩ := request.isAdmitted_iff.1 hadmitted
      have hthrough : request.GetsThrough ↔ isEarlyEnd (request.ending tool) = false := by
        simp only [GetsThrough, hadmitted, htool, true_and, Option.some.injEq, exists_eq_left']
        cases request.ending tool with
        | ok done => simp [isEarlyEnd]
        | error fault => cases fault <;> simp [isEarlyEnd, Fault.isExit]
      have hframe := (runCaptured_frame (request.redirected launcher)
        { (request.prepare launcher).window with log := {} }
        (request.launch tool request.folder request.verbose)).2.2
      rw [htool, hthrough]
      change if isEarlyEnd (request.ending tool) then _ else _ at hframe
      split at hframe
      · rename_i hearly
        simp only [hearly, Bool.true_eq_false, or_false, false_implies, and_true]
        exact iff_of_eq (congrArg (· = true) hframe)
      · rename_i hearly
        rw [Bool.not_eq_true] at hearly
        simp only [hearly, or_true, iff_true, forall_const]
        exact hframe

end RunRequest

/-! ## Runs one after another -/

def Launcher.afterRuns (launcher : Launcher) (requests : List RunRequest) : Launcher :=
  requests.foldl (fun launcher req => req.run launcher) launcher

/-- Every run for a request that is not admitted redirects the streams once more. -/
theorem target_afterRuns (launcher : Launcher) (requests : List RunRequest) (stream : Stream) :
    (launcher.afterRuns requests).window.target stream =
      StreamTarget.log^[requests.countP (!·.isAdmitted)] (launcher.window.target stream) := by
  induction requests generalizing launcher with
  | nil => rfl
  | cons req requests ih =>
    rw [Launcher.afterRuns, List.foldl_cons, ← Launcher.afterRuns, ih]
    rcases req.run_cases launcher with ⟨hadmitted, htarget, -⟩ | ⟨hrefused, htarget, -⟩
    · rw [List.countP_cons_of_neg (by simp [hadmitted]), htarget]
    · rw [List.countP_cons_of_pos (by simp [hrefused]), Function.iterate_succ_apply, htarget]

/-- Runs one after another, for any requests and whatever the tools do. Every run leaves the process as it found it if
and only if every request names a folder with a project and a tool that is there; each of the others buries the
streams under one more redirection, and no later run takes it away. -/
theorem runs_leaveAsFound_iff (launcher : Launcher) (requests : List RunRequest) :
    ((∀ earlier request later, requests = earlier ++ request :: later →
        request.LeavesAsFound (launcher.afterRuns earlier)) ↔
      ∀ request ∈ requests, request.session.workspace.holdsNamed request.folder = true ∧
        isMigrationProject request.session.workspace request.folder = .ok true ∧
        ∃ tool, Tool.ofLabel? request.choice = some tool ∧
          ∀ path ∈ tool.bundlePath? request.session, request.session.workspace.holdsNamed path.render = true) ∧
      ∀ stream, (launcher.afterRuns requests).window.target stream =
        StreamTarget.log^[requests.countP (!·.isAdmitted)] (launcher.window.target stream) := by
  refine ⟨?_, target_afterRuns launcher requests⟩
  simp only [← RunRequest.isAdmitted_iff, RunRequest.leavesAsFound_iff]
  constructor
  · intro h request hrequest
    obtain ⟨earlier, later, hsplit⟩ := List.append_of_mem hrequest
    exact h earlier request later hsplit
  · intro h earlier request later hsplit
    exact h request (hsplit ▸ List.mem_append_right _ List.mem_cons_self)

/-- A launcher in an empty directory but for one file. -/
def launcherBesideFile : Launcher :=
  ⟨{}, { workspace := ⟨Tree.empty.insert ["x.apj"] (.file []), []⟩ }, ⟨2025, 1, 2, 3, 4, 5⟩, ⟨.top, []⟩⟩

/-- A request for the analysis of a folder in that directory. -/
def requestBesideFile (folder : String) : RunRequest :=
  ⟨folder, "Evaluate AS4 project", false, launcherBesideFile.session, Tool.launch⟩

/-- Folders that are not admitted: one that is missing leaves the streams redirected, and one that is a file leaves the
spinner running as well. -/
theorem not_leavesAsFound_samples :
    ¬(requestBesideFile "y").LeavesAsFound launcherBesideFile ∧
      ((requestBesideFile "y").run launcherBesideFile).window.spinning = false ∧
      ¬(requestBesideFile "x.apj").LeavesAsFound launcherBesideFile ∧
      ((requestBesideFile "x.apj").run launcherBesideFile).window.spinning = true := by
  -- a missing folder is an obstacle, and a file in its place makes the look into it fail
  have hmissing : (requestBesideFile "y").obstacle? = .ok (some (.noFolder "y")) := rfl
  have hfile : (requestBesideFile "x.apj").obstacle? = .error (.file .notDirectory "x.apj") := rfl
  have hstopped : ((requestBesideFile "y").run launcherBesideFile).window.spinning ≠ true := by
    rw [Ne, RunRequest.spinning_run, hmissing]
    simp
  simp only [RunRequest.leavesAsFound_iff, RunRequest.spinning_run, RunRequest.isAdmitted, hmissing, hfile]
  simpa using hstopped

/-- A tool that fails is told of as a success. -/
theorem hasRun_run_failing : ∃ request : RunRequest, request.isAdmitted ∧
    (∀ tool, request.ending tool = .error .unknownRecorder) ∧
    (request.run launcherBesideFile).window.hasRun := by
  refine ⟨⟨"P", "Evaluate AS4 project", false, { workspace := ⟨?tree, []⟩ }, fun _ _ _ => throw .unknownRecorder⟩,
    ?_, fun _ => rfl, ?_⟩
  · exact (((Tree.empty.insert ["P"] .directory).insert ["P", "p.apj"] (.file [])).insert
      ["P", "Logical"] .directory).insert ["P", "Physical"] .directory
  · rfl
  · rfl

end StudioMigration
