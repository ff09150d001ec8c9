import StudioMigration.Inspection

/-!
# Reports of inspections

* `Inspection.exists_of_report_bind` takes the report of two inspections in a row apart.
* `Inspection.Avoids` says that an inspection makes no note of some kind. Only the parts that an inspection gets to
  count, so that the answers to earlier questions may be used for later parts.
* `Inspection.reportAlong` is the report of an inspection whose notes change the workspace on the way.
* `Inspection.Ends` says how an inspection ends, whatever workspaces of some kind its looks meet; it can be
  established part by part (`Ends.bind`, `Ends.tryCatch`), and the report along the way ends so
  (`Ends.reportAlong`). `Inspection.Raises` is the case that only the kind of faults matters, and
  `Inspection.CompletesIff` the case that it matters whether there is one.
-/

namespace StudioMigration

open List

instance decidableEqOk {ε α : Type} [DecidableEq α] (result : Except ε α) (value : α) :
    Decidable (result = .ok value) :=
  match result with
  | .ok other => decidable_of_iff (other = value) (by simp)
  | .error _ => isFalse (by simp)

namespace Inspection

variable {note : Note}

variable {α β : Type} {ws : Workspace} {first : Inspection α} {notes : List Note} {value : α}

theorem report_ask (ws : Workspace) (question : Workspace → Except Fault α) :
    (ask question).report ws = ([], question ws) := by
  rw [ask, report_look]
  cases question ws <;> rfl

/-- Once an inspection has ended with a value, its notes and the report of what follows make up the whole. -/
theorem report_bind_ok (h : first.report ws = (notes, .ok value)) (rest : α → Inspection β) :
    (first >>= rest).report ws = (notes ++ ((rest value).report ws).1, ((rest value).report ws).2) := by
  change (first.bind rest).report ws = _
  rw [report_bind, h]

theorem report_bind_error {fault : Fault} (h : first.report ws = (notes, .error fault)) (rest : α → Inspection β) :
    (first >>= rest).report ws = (notes, .error fault) := by
  change (first.bind rest).report ws = _
  rw [report_bind, h]

theorem report_say_bind (ws : Workspace) (note : Note) (rest : Unit → Inspection β) :
    (say note >>= rest).report ws = (note :: ((rest ()).report ws).1, ((rest ()).report ws).2) :=
  report_bind_ok (show (say note).report ws = ([note], .ok ()) from rfl) rest

theorem report_sayAll (ws : Workspace) (notes : List Note) : (sayAll notes).report ws = (notes, .ok ()) := by
  induction notes with
  | nil => rfl
  | cons note notes ih =>
    exact congrArg (fun report => (note :: report.1, report.2)) ih

/-- The first of two inspections ends with a value if both of them do. -/
theorem exists_of_report_bind {rest : α → Inspection β} {value : β} (h : ((first >>= rest).report ws).2 = .ok value) :
    ∃ middle, (first.report ws).2 = .ok middle ∧ ((rest middle).report ws).2 = .ok value := by
  change ((first.bind rest).report ws).2 = .ok value at h
  rw [report_bind] at h
  split at h
  · rename_i middle hmiddle
    exact ⟨middle, hmiddle, h⟩
  · simp at h

theorem report_ask_bind (ws : Workspace) (question : Workspace → Except Fault α) (rest : α → Inspection β) :
    (ask question >>= rest).report ws =
      match question ws with
      | .ok answer => (rest answer).report ws
      | .error fault => ([], .error fault) := by
  change ((ask question).bind rest).report ws = _
  rw [report_bind, report_ask]
  cases question ws <;> rfl

theorem exists_of_report_ask_bind {question : Workspace → Except Fault α} {rest : α → Inspection β} {value : β}
    (h : ((ask question >>= rest).report ws).2 = .ok value) :
    ∃ answer, question ws = .ok answer ∧ ((rest answer).report ws).2 = .ok value := by
  rw [report_ask_bind] at h
  split at h
  · rename_i answer hanswer
    exact ⟨answer, hanswer, h⟩
  · simp at h

theorem mem_report_bind {rest : α → Inspection β} (hvalue : (first.report ws).2 = .ok value)
    (h : note ∈ ((rest value).report ws).1) : note ∈ ((first >>= rest).report ws).1 := by
  change note ∈ ((first.bind rest).report ws).1
  rw [report_bind, hvalue]
  exact mem_append_right _ h

theorem mem_report_ask_bind {question : Workspace → Except Fault α} {rest : α → Inspection β} {answer : α}
    (hanswer : question ws = .ok answer) (h : note ∈ ((rest answer).report ws).1) :
    note ∈ ((ask question >>= rest).report ws).1 := by
  rw [report_ask_bind, hanswer]
  exact h

/-! ## Notes that are not made -/

def Avoids (inspection : Inspection α) (ws : Workspace) (kind : Note → Prop) : Prop :=
  ∀ note ∈ (inspection.report ws).1, ¬kind note

variable {kind : Note → Prop} {items : List α}

theorem avoids_pure (value : α) : (pure value : Inspection α).Avoids ws kind := by
  intro note hnote
  exact absurd hnote not_mem_nil

theorem avoids_throw (fault : Fault) : (throw fault : Inspection α).Avoids ws kind := by
  intro note hnote
  exact absurd hnote not_mem_nil

theorem avoids_say (h : ¬kind note) : (say note).Avoids ws kind := by
  intro other hother
  rwa [mem_singleton.1 hother]

theorem avoids_ask (question : Workspace → Except Fault α) : (ask question).Avoids ws kind := by
  intro note hnote
  rw [report_ask] at hnote
  exact absurd hnote not_mem_nil

theorem Avoids.bind {rest : α → Inspection β} (h : first.Avoids ws kind)
    (hrest : ∀ value, (first.report ws).2 = .ok value → (rest value).Avoids ws kind) :
    (first >>= rest).Avoids ws kind := by
  intro note hnote
  change note ∈ ((first.bind rest).report ws).1 at hnote
  rw [report_bind] at hnote
  split at hnote
  · rename_i value hvalue
    rcases mem_append.1 hnote with hfirst | hlater
    · exact h note hfirst
    · exact hrest value hvalue note hlater
  · exact h note hnote

theorem avoids_ask_bind {question : Workspace → Except Fault α} {rest : α → Inspection β}
    (h : ∀ answer, question ws = .ok answer → (rest answer).Avoids ws kind) : (ask question >>= rest).Avoids ws kind := by
  refine (avoids_ask question).bind fun answer hanswer => h answer ?_
  rwa [report_ask] at hanswer

theorem avoids_forM {step : α → Inspection Unit} (h : ∀ a ∈ items, (step a).Avoids ws kind) :
    (items.forM step).Avoids ws kind := by
  induction items with
  | nil => exact avoids_pure ()
  | cons a items ih =>
    rw [forall_mem_cons] at h
    exact h.1.bind fun _ _ => ih h.2

/-! ## Reports along the way -/

/-- The notes and the end of an inspection, if each note changes the workspace as `record` says. -/
def reportAlong (record : Workspace → Note → Workspace) :
    Workspace → Inspection α → List Note × Except Fault α
  | _, .done value => ([], .ok value)
  | _, .failed fault => ([], .error fault)
  | ws, .note entry next =>
    let (entries, result) := next.reportAlong record (record ws entry)
    (entry :: entries, result)
  | ws, .look next => (next ws).reportAlong record ws

/-! ## Ends -/

/-- Whatever workspaces that satisfy `stays` the looks of an inspection meet, its end satisfies `post`. -/
inductive Ends (stays : Workspace → Prop) (post : Except Fault α → Prop) : Inspection α → Prop
  | done {value : α} : post (.ok value) → Ends stays post (.done value)
  | failed {fault : Fault} : post (.error fault) → Ends stays post (.failed fault)
  | note {entry : Note} {next : Inspection α} : Ends stays post next → Ends stays post (.note entry next)
  | look {next : Workspace → Inspection α} :
    (∀ ws, stays ws → Ends stays post (next ws)) → Ends stays post (.look next)

section Ends

variable {stays : Workspace → Prop} {post : Except Fault β → Prop} {middle : Except Fault α → Prop}
  {inspection : Inspection β}

theorem Ends.reportAlong (h : inspection.Ends stays post) (record : Workspace → Note → Workspace)
    (hrecord : ∀ ws note, stays ws → stays (record ws note)) (ws : Workspace) (hws : stays ws) :
    post (inspection.reportAlong record ws).2 := by
  induction h generalizing ws with
  | done hpost => exact hpost
  | failed hpost => exact hpost
  | note _ ih => exact ih _ (hrecord ws _ hws)
  | look _ ih => exact ih ws hws ws hws

/-- Fewer workspaces to meet allow for less, and a weaker end is reached as well. -/
theorem Ends.mono (h : inspection.Ends stays post) {stays' : Workspace → Prop} {post' : Except Fault β → Prop}
    (hstays : ∀ ws, stays' ws → stays ws) (hpost : ∀ result, post result → post' result) :
    inspection.Ends stays' post' := by
  induction h with
  | done h => exact .done (hpost _ h)
  | failed h => exact .failed (hpost _ h)
  | note _ ih => exact .note ih
  | look _ ih => exact .look fun ws hws => ih ws (hstays ws hws)

theorem ends_trivially (inspection : Inspection β) : inspection.Ends stays fun _ => True := by
  induction inspection with
  | done value => exact .done trivial
  | failed fault => exact .failed trivial
  | note entry next ih => exact .note ih
  | look next ih => exact .look fun ws _ => ih ws

theorem ends_ask {question : Workspace → Except Fault β} (h : ∀ ws, stays ws → post (question ws)) :
    (ask question).Ends stays post := by
  refine .look fun ws hws => ?_
  have hanswer := h ws hws
  cases hquestion : question ws with
  | ok value => exact .done (hquestion ▸ hanswer)
  | error fault => exact .failed (hquestion ▸ hanswer)

/-- The second of two inspections starts from what the first one ended with, unless that was a fault. -/
theorem Ends.bind {rest : α → Inspection β} (h : first.Ends stays middle)
    (hok : ∀ value, middle (.ok value) → (rest value).Ends stays post)
    (herror : ∀ fault, middle (.error fault) → post (.error fault)) : (first >>= rest).Ends stays post := by
  induction h with
  | done hmiddle => exact hok _ hmiddle
  | failed hmiddle => exact .failed (herror _ hmiddle)
  | note _ ih => exact .note ih
  | look _ ih => exact .look ih

theorem Ends.tryCatch {first : Inspection β} {handler : Fault → Inspection β} {middle : Except Fault β → Prop}
    (h : first.Ends stays middle) (hok : ∀ value, middle (.ok value) → post (.ok value))
    (herror : ∀ fault, middle (.error fault) → (handler fault).Ends stays post) :
    (MonadExcept.tryCatch first handler).Ends stays post := by
  induction h with
  | done hmiddle => exact .done (hok _ hmiddle)
  | failed hmiddle => exact herror _ hmiddle
  | note _ ih => exact .note ih
  | look _ ih => exact .look ih

end Ends

/-! ## Kinds of faults -/

/-- An inspection raises no faults but those of a kind, whatever workspaces that satisfy `stays` its looks meet. -/
def Raises (stays : Workspace → Prop) (kind : Fault → Prop) (inspection : Inspection α) : Prop :=
  inspection.Ends stays fun result => ∀ fault, result = .error fault → kind fault

section Raises

variable {stays : Workspace → Prop} {kind : Fault → Prop}

theorem raises_pure (value : α) : (pure value : Inspection α).Raises stays kind :=
  Ends.done fun _ hfault => nomatch hfault

theorem raises_throw {fault : Fault} (h : kind fault) : (throw fault : Inspection α).Raises stays kind := by
  refine Ends.failed fun other hother => ?_
  rwa [← Except.error.inj hother]

theorem raises_ask {question : Workspace → Except Fault α}
    (h : ∀ ws, stays ws → ∀ fault, question ws = .error fault → kind fault) : (ask question).Raises stays kind :=
  ends_ask h

theorem raises_say (note : Note) : (say note).Raises stays kind := Ends.note (raises_pure ())

theorem Raises.bind {rest : α → Inspection β} (h : first.Raises stays kind)
    (hrest : ∀ value, (rest value).Raises stays kind) : (first >>= rest).Raises stays kind := by
  refine Ends.bind h (fun value _ => hrest value) fun fault hfault other hother => ?_
  rw [← Except.error.inj hother]
  exact hfault fault rfl

theorem Raises.map (h : first.Raises stays kind) (change : α → β) :
    (change <$> first).Raises stays kind := h.bind fun value => raises_pure (change value)

theorem Raises.tryCatch {handler : Fault → Inspection α} (h : ∀ fault, (handler fault).Raises stays kind) :
    (MonadExcept.tryCatch first handler).Raises stays kind := by
  refine Ends.tryCatch (ends_trivially first) (fun value _ fault hfault => ?_) fun fault _ => h fault
  simp at hfault

theorem raises_forM {step : α → Inspection Unit} (h : ∀ item ∈ items, (step item).Raises stays kind) :
    (items.forM step).Raises stays kind := by
  induction items with
  | nil => exact raises_pure ()
  | cons item items ih =>
    rw [forall_mem_cons] at h
    exact h.1.bind fun _ => ih h.2

theorem raises_sayAll (notes : List Note) : (sayAll notes).Raises stays kind :=
  raises_forM fun note _ => raises_say note

theorem raises_sayIf (condition : Bool) (note : Note) : (sayIf condition note).Raises stays kind := by
  unfold sayIf
  split
  · exact raises_say note
  · exact raises_pure ()

end Raises

/-! ## Inspections that complete -/

/-- The end of an inspection that has no fault just if a condition holds, and then has a value of some kind. -/
def Outcome (condition : Prop) (kind : α → Prop) : Except Fault α → Prop
  | .ok value => condition ∧ kind value
  | .error _ => ¬condition

/-- Whatever workspaces that satisfy `stays` its looks meet, an inspection ends without a fault just if a condition
holds, and then with a value of some kind. -/
def CompletesIff (stays : Workspace → Prop) (condition : Prop) (kind : α → Prop := fun _ => True)
    (inspection : Inspection α) : Prop :=
  inspection.Ends stays (Outcome condition kind)

/-- An inspection always ends without a fault, and with a value of some kind. -/
def Completes (stays : Workspace → Prop) (kind : α → Prop := fun _ => True) (inspection : Inspection α) : Prop :=
  inspection.CompletesIff stays True kind

section Completes

variable {stays : Workspace → Prop} {condition condition' : Prop} {kind : α → Prop} {kind' : β → Prop}
  {inspection : Inspection α}

theorem completes_pure (h : kind value) : (pure value : Inspection α).Completes stays kind :=
  Ends.done ⟨trivial, h⟩

theorem completesIff_throw (fault : Fault) : (throw fault : Inspection α).CompletesIff stays False kind :=
  Ends.failed not_false

theorem completesIff_ask {question : Workspace → Except Fault α}
    (h : ∀ ws, stays ws → Outcome condition kind (question ws)) : (ask question).CompletesIff stays condition kind :=
  ends_ask h

theorem completes_ask {question : Workspace → Except Fault α}
    (h : ∀ ws, stays ws → ∃ value, question ws = .ok value ∧ kind value) : (ask question).Completes stays kind := by
  refine ends_ask fun ws hws => ?_
  obtain ⟨value, hvalue, hkind⟩ := h ws hws
  rw [hvalue]
  exact ⟨trivial, hkind⟩

theorem Completes.raises (h : inspection.Completes stays kind) {faults : Fault → Prop} :
    inspection.Raises stays faults := by
  refine Ends.mono h (fun _ => id) fun result hresult fault hfault => ?_
  subst hfault
  exact absurd trivial hresult

theorem Raises.completes (h : inspection.Raises stays fun _ => False) : inspection.Completes stays := by
  refine Ends.mono h (fun _ => id) fun result hresult => ?_
  cases result with
  | ok value => exact ⟨trivial, trivial⟩
  | error fault => exact absurd rfl (hresult fault)

theorem CompletesIff.congr (h : inspection.CompletesIff stays condition kind) (hcondition : condition ↔ condition') :
    inspection.CompletesIff stays condition' kind := by
  rwa [← propext hcondition]

theorem CompletesIff.mono (h : inspection.CompletesIff stays condition kind) {more : α → Prop}
    (hmore : ∀ value, kind value → more value) : inspection.CompletesIff stays condition more := by
  refine Ends.mono h (fun _ => id) fun result hresult => ?_
  cases result with
  | ok value => exact ⟨hresult.1, hmore value hresult.2⟩
  | error fault => exact hresult

/-- Two inspections in a row complete if both of them do. -/
theorem CompletesIff.bind {rest : α → Inspection β} (h : first.CompletesIff stays condition kind)
    (hrest : ∀ value, kind value → (rest value).CompletesIff stays condition' kind') :
    (first >>= rest).CompletesIff stays (condition ∧ condition') kind' := by
  refine Ends.bind h (fun value hvalue => ?_) fun fault hfault hboth => hfault hboth.1
  exact (hrest value hvalue.2).congr (by simp [hvalue.1])

theorem Completes.bind {rest : α → Inspection β} (h : first.Completes stays kind)
    (hrest : ∀ value, kind value → (rest value).CompletesIff stays condition' kind') :
    (first >>= rest).CompletesIff stays condition' kind' :=
  (CompletesIff.bind h hrest).congr (by rw [true_and])

theorem CompletesIff.map (h : first.CompletesIff stays condition kind) (change : α → β)
    (hkind : ∀ value, kind value → kind' (change value)) : (change <$> first).CompletesIff stays condition kind' :=
  (h.bind fun value hvalue => completes_pure (hkind value hvalue)).congr (by rw [and_true])

theorem completesIff_forM {step : α → Inspection Unit} {condition : α → Prop}
    (h : ∀ item ∈ items, (step item).CompletesIff stays (condition item)) :
    (items.forM step).CompletesIff stays (∀ item ∈ items, condition item) := by
  induction items with
  | nil => exact CompletesIff.congr (completes_pure trivial) (by simp)
  | cons item items ih =>
    rw [forall_mem_cons] at h
    exact (h.1.bind fun _ _ => ih h.2).congr (by rw [forall_mem_cons])

theorem completes_say (note : Note) : (say note).Completes stays := (raises_say note).completes

theorem completes_sayAll (notes : List Note) : (sayAll notes).Completes stays :=
  (raises_sayAll notes).completes

theorem completes_sayIf (condition : Bool) (note : Note) : (sayIf condition note).Completes stays :=
  (raises_sayIf condition note).completes

end Completes

end Inspection

end StudioMigration
