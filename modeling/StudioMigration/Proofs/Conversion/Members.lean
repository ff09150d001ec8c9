import Mathlib.Data.List.Perm.Basic
import StudioMigration.Proofs.Conversion.AtOnce
import StudioMigration.Proofs.Conversion.Interrupted

/-!
# Renaming the members of motion blocks

Members are renamed by their whole path, one path after the other. Paths share their parts, and new paths bring some of
these parts back, but no pass makes or breaks an occurrence that another one looks for: the passes are one single pass,
in any order. A second renaming finds nothing, except where the one path that is shortened stood behind what it loses.

* `Pattern.seeks_word` says what the pattern of a member matches.
* `Shortening.Lawful.onePass_again` counts what a second pass finds that takes away the front of a piece.
* `renameTelling_members` and `renameTelling_members_again` are the first renaming and the second one.
-/

namespace StudioMigration

open List NameRole Text
open FileConversion (sampleSource)

/-- A piece that starts with no word character and ends with one is looked for between a word character and none. -/
theorem Pattern.seeks_word {piece : List Char} (hstart : startsWord piece = false)
    (hend : startsWord piece.reverse) : (Pattern.word piece).Seeks true piece := by
  intro before rest pos
  have hne : piece.reverse ≠ [] := fun hnil => by simp [hnil] at hend
  rw [matchAt_word]
  by_cases hprefix : piece <+: rest
  · obtain ⟨after, rfl⟩ := hprefix
    have hne' := mt reverse_eq_nil_iff.2 hne
    simp only [drop_left, startsWord_append hne, startsWord_append hne', hstart, hend, standsAt, isBound]
    cases startsWord before <;> cases startsWord after <;> simp
  · simp [standsAt, hprefix]

/-! ## A single pass -/

/-- Members of the form that is looked for, in a table whose names stay apart. -/
theorem Renaming.independent_member {table : Renaming}
    (hform : ∀ entry ∈ table.replacements .member, '\\' ∉ entry.2 ∧ startsWord entry.1 = false ∧
      startsWord entry.2 = false ∧ startsWord entry.1.reverse ∧ startsWord entry.2.reverse)
    (hstrangers : (table.replacements .member).Pairwise Strangers) : table.Independent .member where
  seeks entry hentry :=
    have h := hform _ (mem_map_of_mem hentry)
    Pattern.seeks_word h.2.1 h.2.2.2.1
  plain entry hentry := (hform _ (mem_map_of_mem hentry)).1
  unmixed := by
    refine ⟨fun entry hentry => ?_, hstrangers⟩
    obtain ⟨-, hold, hnew, hold', hnew'⟩ := hform entry hentry
    exact ⟨fun h => by simp [h] at hold', fun h => by simp [h] at hnew', hnew.trans hold.symm, hnew'.trans hold'.symm⟩

theorem independent_motionMembers : motionMembers.Independent .member := by
  apply Renaming.independent_member
  all_goals
    -- names are spelled out once, and compared as lists of characters
    simp only [Renaming.replacements, motionMembers, map_cons, map_nil, template]
    repeat rw [String.toList_ofList]
    decide +kernel

theorem exec_renameTelling_members {table : Renaming} (hperm : table.Perm motionMembers) (verbose : Bool)
    (tell : Nat → String × String → String) (text : List Char) (session : Session) :
    ∃ notes, (renameTelling .member verbose tell table text).exec session =
      (.ok (motionMembers.atOnce .member text), session.tell notes) := by
  rw [exec_renameTelling, independent_motionMembers.renameAll_eq hperm]
  exact ⟨_, rfl⟩

/-- Renaming the members of a text one after the other, in any order, gives the text of the single pass over all their
patterns, and the number of all their matches in the text. -/
theorem renameTelling_members {table : Renaming} (hperm : table.Perm motionMembers) (verbose : Bool)
    (tell : Nat → String × String → String) (text : List Char) (session : Session) :
    (∀ entry ∈ motionMembers, (member.pattern entry.1).Seeks true (member.template entry.1)) ∧
    (∃ notes, (renameTelling .member verbose tell table text).exec session =
      (.ok (motionMembers.atOnce .member text), session.tell notes)) ∧
    (motionMembers.atOnce .member text).2 =
      (motionMembers.map fun entry => ((member.pattern entry.1).findAll text).length).sum := by
  have h := independent_motionMembers
  refine ⟨h.seeks, exec_renameTelling_members hperm verbose tell text session, ?_⟩
  rw [Renaming.atOnce, onePass_count h.unmixed.regular h.unmixed.nodup, Renaming.replacements, List.map_map]
  refine congrArg List.sum (List.map_congr_left fun entry hentry => ?_)
  have hone : Regular [(member.template entry.1, member.template entry.2)] :=
    h.unmixed.regular.mono (by rintro _ (_ | ⟨_, ⟨⟩⟩); exact List.mem_map_of_mem hentry)
  exact (hone.length_findAll (h.seeks entry hentry) text).symm

/-- Paths that run into each other are told apart. -/
theorem renameTelling_members_reversed :
    ∃ notes, (renameTelling .member true (fun _ entry => entry.1) motionMembers.reverse
      "a.Info.PhasingValid.Info.AutoTuneDone".toList).exec sampleSource =
        (.ok ("a.Info.Phasing.Valid.AutoTuneDone".toList, 2), sampleSource.tell notes) := by
  obtain ⟨-, ⟨notes, hexec⟩, -⟩ := renameTelling_members motionMembers.reverse_perm true (fun _ entry => entry.1)
    "a.Info.PhasingValid.Info.AutoTuneDone".toList sampleSource
  have hpass : motionMembers.atOnce .member "a.Info.PhasingValid.Info.AutoTuneDone".toList =
      ("a.Info.Phasing.Valid.AutoTuneDone".toList, 2) := by decide +kernel
  exact ⟨notes, hpass ▸ hexec⟩

/-! ## A second pass -/

/-- A piece that loses its front, which is a mark and a name. -/
structure Shortening where
  mark : Char
  name : List Char
  new : List Char

namespace Shortening

variable (p : Shortening)

def old : List Char := p.mark :: (p.name ++ p.new)

/-- The piece behind one more front. -/
def doubled : List Char := p.mark :: (p.name ++ p.old)

/-- A piece that can be found again only where its front stood twice. -/
structure Lawful : Prop where
  once : Regular [(p.old, p.new)]
  twice : Regular [(p.doubled, p.old)]
  name_end : startsWord p.name.reverse
  name_apart : apart p.old p.name
  new_apart : apart p.old p.new
  old_apart : apart p.doubled p.old
  front : agrees p.old p.doubled = false
  within : ∀ n < p.old.length, agrees p.new (p.old.drop n) → n = p.name.length + 1

variable {p}

theorem doubled_append (text : List Char) : p.doubled ++ text = p.mark :: (p.name ++ (p.old ++ text)) := by
  simp [doubled]

/-- Behind two fronts, the pass takes away the second one. -/
theorem Lawful.onePass_doubled (h : p.Lawful) (word : Bool) {text : List Char} (htext : startsWord text = false) :
    (onePass true [(p.old, p.new)] word (p.doubled ++ text)).1 =
      p.old ++ (onePass true [(p.old, p.new)] (startsWord p.old.reverse) text).1 := by
  have hne : p.name ≠ [] := fun hnil => by simpa [hnil] using h.name_end
  have hnot : ∀ entry ∈ [(p.old, p.new)], ¬standsAt true entry.1 word (p.doubled ++ text) := by
    rintro _ (_ | ⟨_, ⟨⟩⟩) hstands
    obtain ⟨after, heq, -⟩ := standsAt_iff.1 hstands
    exact absurd (agrees_of_heads ⟨after, heq.symm⟩ (prefix_append _ _)) (by simp [h.front])
  rw [doubled_append] at hnot ⊢
  rw [onePass_kept hnot, onePass_apart hne (by simpa using h.name_apart), h.name_end,
    onePass_found h.once mem_cons_self (by simp [isBound, htext])]
  simp [old]

/-- What a second pass finds are the pieces that stood behind two fronts. -/
theorem Lawful.onePass_again (h : p.Lawful) (word : Bool) (text : List Char) :
    (onePass true [(p.old, p.new)] word (onePass true [(p.old, p.new)] word text).1).2 =
      (onePass true [(p.doubled, p.old)] word text).2 := by
  have hold := h.once.old_ne _ mem_cons_self
  have hends : startsWord p.doubled.reverse = startsWord p.old.reverse := (h.twice.ends _ mem_cons_self).symm
  -- along the old piece and the one behind two fronts
  have hne : ∀ entry ∈ [(p.doubled, p.old), (p.old, p.new)], entry.1 ≠ [] := by simp [doubled, old]
  induction word, text using @atOnceInduction true _ _ hne with
  | nil => simp [onePass]
  | found entry hentry word text hbound ih =>
    rcases hentry with _ | ⟨_, _ | ⟨_, ⟨⟩⟩⟩
    · have htext : startsWord text = false := by simpa using (Bool.and_eq_true_iff.1 hbound).2
      rw [h.onePass_doubled word htext, onePass_found h.once mem_cons_self, written_snd,
        onePass_found h.twice mem_cons_self hbound, written_snd, ← ih, hends]
      rwa [isBound, startsWord_onePass h.once]
    · rw [onePass_found h.once mem_cons_self hbound, written_fst,
        onePass_apart (h.once.new_ne _ mem_cons_self) (by simpa using h.new_apart), written_snd,
        onePass_apart hold (by simpa using h.old_apart), written_snd, ← ih, h.once.ends _ mem_cons_self]
  | kept word c text hnot ih =>
    have hnot' : ¬standsAt true p.old word (c :: (onePass true [(p.old, p.new)] (isWord c) text).1) := by
      intro hstands
      obtain ⟨after, htext, hbound⟩ := standsAt_iff.1 hstands
      obtain ⟨after', htext', hstarts⟩ | ⟨_, _ | ⟨_, ⟨⟩⟩, before, rest, text', hpiece, hrest, htext', hafter⟩ :=
        exists_of_onePass h.once (cons_ne_nil c []) _ text htext
      · rw [isBound, hstarts] at hbound
        exact hnot _ (mem_cons_of_mem _ mem_cons_self) (standsAt_iff.2 ⟨after', htext', hbound⟩)
      · -- the new piece ends the old one, and the front before it has been kept
        have hdrop : p.old.drop before.length = rest := by rw [hpiece, drop_left]
        have hlength : before.length = p.name.length + 1 := by
          apply h.within
          · rw [hpiece, length_append]
            exact Nat.lt_add_of_pos_right (length_pos_iff.2 hrest)
          · rw [hdrop]
            exact agrees_of_heads ⟨_, rfl⟩ ⟨after, hafter⟩
        have hsplit : before ++ rest = (p.mark :: p.name) ++ p.new := hpiece.symm
        obtain ⟨rfl, rfl⟩ := append_inj hsplit hlength
        rw [isBound, append_cancel_left hafter, startsWord_onePass h.once] at hbound
        exact hnot _ mem_cons_self (standsAt_iff.2 ⟨text', by rw [doubled_append]; exact htext', hbound⟩)
    rw [onePass_kept (by simpa using hnot _ (mem_cons_of_mem _ mem_cons_self)), written_fst,
      singleton_append, onePass_kept (by simpa using hnot'), onePass_kept (by simpa using hnot _ mem_cons_self)]
    simpa using ih

/-- The same if there are other pieces, which neither get in the way of these nor in their own way. -/
theorem Lawful.onePass_rest (hp : p.Lawful) {rest : Replacements} (h : Unmixed (rest ++ [(p.old, p.new)]))
    (h' : Unmixed (rest ++ [(p.doubled, p.old)])) (hself : ∀ entry ∈ rest, Separate entry.1 entry.2) (word : Bool)
    (text : List Char) :
    let once := (onePass true (rest ++ [(p.old, p.new)]) word text).1
    onePass true (rest ++ [(p.old, p.new)]) word once = onePass true [(p.old, p.new)] word once ∧
      (onePass true [(p.old, p.new)] word once).2 = (onePass true [(p.doubled, p.old)] word text).2 := by
  intro once
  have hlast {entry : List Char × List Char} (h : Unmixed (rest ++ [entry])) :
      ∀ last ∈ [entry], ∀ other ∈ rest, Separate last.1 other.2 := by
    rintro _ (_ | ⟨_, ⟨⟩⟩) other hother
    exact ((pairwise_append.1 h.strangers).2.2 other hother _ mem_cons_self).2.2
  have hidle : onePass true rest word once = (once, 0) :=
    onePass_idle h.regular (subset_append_left _ _) (h.fresh (subset_append_left _ _) hself) word text
  have honce : once = (onePass true [(p.old, p.new)] word (onePass true rest word text).1).1 :=
    (congrArg Prod.fst (onePass_twice h.regular (hlast h) word text)).symm
  have hagain := @onePass_twice true _ _ h.regular (hlast h) word once
  rw [hidle] at hagain
  refine ⟨hagain.symm.trans (Prod.ext rfl (Nat.zero_add _)), ?_⟩
  -- the other pieces are found as often before the pieces behind two fronts as after them
  have hcount := congrArg Prod.snd (@onePass_twice true _ _ h'.regular (hlast h') word text)
  rw [onePass_count h'.regular h'.nodup, map_append, sum_append, ← onePass_count
    (h'.regular.mono (subset_append_left _ _)) (nodup_append.1 h'.nodup).1] at hcount
  rw [honce, hp.onePass_again]
  simpa using hcount

end Shortening

/-- The done flag of the tuning loses the record that it is in. -/
def doneFlag : Shortening := ⟨'.', "Info".toList, ".AutoTuneDone".toList⟩

theorem lawful_doneFlag : doneFlag.Lawful where
  once := (Unmixed.mk (by decide +kernel) (by simp)).regular
  twice := (Unmixed.mk (by decide +kernel) (by simp)).regular
  name_end := by decide +kernel
  name_apart := by decide +kernel
  new_apart := by decide +kernel
  old_apart := by decide +kernel
  front := by decide +kernel
  within := by decide +kernel

/-- The members without the done flag. -/
def plainMembers : Renaming := motionMembers.eraseIdx 3

theorem plainMembers_perm : (plainMembers ++ [("Info.AutoTuneDone", "AutoTuneDone")]).Perm motionMembers :=
  (perm_append_singleton _ _).trans (getElem_cons_eraseIdx_perm (by decide : 3 < motionMembers.length))

theorem separate_plainMembers : ∀ entry ∈ plainMembers.replacements .member, Separate entry.1 entry.2 ∧
    Strangers entry (doneFlag.doubled, doneFlag.old) := by
  simp only [Renaming.replacements, plainMembers, motionMembers, eraseIdx_cons_succ, eraseIdx_cons_zero,
    map_cons, map_nil, template, doneFlag, Shortening.doubled, Shortening.old]
  repeat rw [String.toList_ofList]
  decide +kernel

theorem plainMembers_replacements : (plainMembers.replacements .member ++ [(doneFlag.old, doneFlag.new)]).Perm
    (motionMembers.replacements .member) := by
  have hperm := plainMembers_perm.map fun entry => (member.template entry.1, member.template entry.2)
  exact hperm

theorem unmixed_plainMembers : Unmixed (plainMembers.replacements .member ++ [(doneFlag.old, doneFlag.new)]) :=
  independent_motionMembers.unmixed.perm plainMembers_replacements

theorem unmixed_doubled : Unmixed (plainMembers.replacements .member ++ [(doneFlag.doubled, doneFlag.old)]) := by
  have hplain := pairwise_append.1 unmixed_plainMembers.strangers
  constructor
  · intro entry hentry
    rcases mem_append.1 hentry with hentry | hentry
    · exact unmixed_plainMembers.alike entry (mem_append_left _ hentry)
    · obtain rfl := mem_singleton.1 hentry
      decide +kernel
  · refine pairwise_append.2 ⟨hplain.1, by simp, ?_⟩
    rintro entry hentry _ (_ | ⟨_, ⟨⟩⟩)
    exact (separate_plainMembers entry hentry).2

/-- A second renaming, in any order, finds only the done flag, once for each time that it stood behind its record twice
in the text before the first one. -/
theorem renameTelling_members_again {first second : Renaming} (hfirst : first.Perm motionMembers)
    (hsecond : second.Perm motionMembers) (verbose : Bool) (tell : Nat → String × String → String) (text : List Char)
    (session again : Session) :
    ∃ once notes twice notes',
      (renameTelling .member verbose tell first text).exec session = (.ok once, session.tell notes) ∧
      (renameTelling .member verbose tell second once.1).exec again = (.ok twice, again.tell notes') ∧
      twice = Renaming.atOnce .member [("Info.AutoTuneDone", "AutoTuneDone")] once.1 ∧
      twice.2 = ((member.pattern "Info.Info.AutoTuneDone").findAll text).length := by
  obtain ⟨notes, hfirst'⟩ := exec_renameTelling_members hfirst verbose tell text session
  obtain ⟨notes', hsecond'⟩ :=
    exec_renameTelling_members hsecond verbose tell (motionMembers.atOnce .member text).1 again
  have hpass (text : List Char) : motionMembers.atOnce .member text =
      onePass true (plainMembers.replacements .member ++ [(doneFlag.old, doneFlag.new)]) false text :=
    onePass_congr unmixed_plainMembers.regular (fun entry => plainMembers_replacements.mem_iff.symm) false text
  have hflag : Renaming.replacements .member [("Info.AutoTuneDone", "AutoTuneDone")] =
    [(doneFlag.old, doneFlag.new)] := by decide +kernel
  have hdoubled : '.' :: "Info.Info.AutoTuneDone".toList = doneFlag.doubled := by decide +kernel
  obtain ⟨hagain, hcount⟩ := lawful_doneFlag.onePass_rest unmixed_plainMembers unmixed_doubled
    (fun entry hentry => (separate_plainMembers entry hentry).1) false text
  rw [← hpass, ← hpass] at hagain
  rw [← hpass, ← hagain] at hcount
  refine ⟨_, notes, _, notes', hfirst', hsecond', ?_, ?_⟩
  · exact hagain.trans (congrArg (onePass true · false _) hflag.symm)
  · have hseeks : (Pattern.word doneFlag.doubled).Seeks true doneFlag.doubled :=
      Pattern.seeks_word (by decide +kernel) (by decide +kernel)
    rw [pattern, hdoubled, lawful_doneFlag.twice.length_findAll hseeks]
    exact hcount

/-- A flag that stands behind its record once is not found again. -/
theorem renameTelling_members_again_once :
    ∃ once notes twice notes',
      (renameTelling .member true (fun _ entry => entry.1) motionMembers.reverse
        "x.Info.AutoTuneDone OR x.Info.Info.AutoTuneState".toList).exec sampleSource =
          (.ok once, sampleSource.tell notes) ∧
      (renameTelling .member true (fun _ entry => entry.1) motionMembers once.1).exec sampleSource =
        (.ok twice, sampleSource.tell notes') ∧ twice.2 = 0 := by
  obtain ⟨once, notes, twice, notes', hfirst, hsecond, -, hcount⟩ := renameTelling_members_again
    motionMembers.reverse_perm (.refl _) true (fun _ entry => entry.1)
    "x.Info.AutoTuneDone OR x.Info.Info.AutoTuneState".toList sampleSource sampleSource
  exact ⟨once, notes, twice, notes', hfirst, hsecond, hcount.trans (by decide +kernel)⟩

/-- A flag that stands behind its record twice is shortened, and shortened again. -/
theorem renameTelling_members_shortened_again :
    ∃ notes notes',
      (renameTelling .member true (fun _ entry => entry.1) motionMembers "x.Info.Info.AutoTuneDone".toList).exec
        sampleSource = (.ok ("x.Info.AutoTuneDone".toList, 1), sampleSource.tell notes) ∧
      (renameTelling .member true (fun _ entry => entry.1) motionMembers "x.Info.AutoTuneDone".toList).exec
        sampleSource = (.ok ("x.AutoTuneDone".toList, 1), sampleSource.tell notes') := by
  obtain ⟨notes, honce⟩ := exec_renameTelling_members (.refl _) true (fun _ entry => entry.1)
    "x.Info.Info.AutoTuneDone".toList sampleSource
  obtain ⟨notes', htwice⟩ := exec_renameTelling_members (.refl _) true (fun _ entry => entry.1)
    "x.Info.AutoTuneDone".toList sampleSource
  have hpass : motionMembers.atOnce .member "x.Info.Info.AutoTuneDone".toList = ("x.Info.AutoTuneDone".toList, 1) ∧
    motionMembers.atOnce .member "x.Info.AutoTuneDone".toList = ("x.AutoTuneDone".toList, 1) := by decide +kernel
  rw [hpass.1] at honce
  rw [hpass.2] at htwice
  exact ⟨notes, notes', honce, htwice⟩

end StudioMigration
