import StudioMigration.Proofs.Files.Workspace

/-!
# Written paths that are read again

A path is plain if each of its components could stand in a string between two slashes. Reading a string gives
a plain path, and a plain path that is written and read again is the same path.

* `Path.ofString_render` is the round trip.
* `Workspace.locateNamed_render` says that the written form of a path, taken as a name, leads where the path
  leads.
-/

namespace StudioMigration

open List

/-! ## Splitting what was joined -/

namespace Text

variable {piece : List Char}

theorem splitWhere_of_forall_not {isBreak : Char → Bool} (h : ∀ c ∈ piece, isBreak c = false) :
    splitWhere isBreak piece = [piece] := by
  induction piece with
  | nil => rfl
  | cons c rest ih =>
    rw [forall_mem_cons] at h
    simp [splitWhere, h.1, ih h.2]

theorem splitWhere_append_break {isBreak : Char → Bool} {c : Char} (h : ∀ c ∈ piece, isBreak c = false)
    (hc : isBreak c) (rest : List Char) :
    splitWhere isBreak (piece ++ c :: rest) = piece :: splitWhere isBreak rest := by
  induction piece with
  | nil => simp [splitWhere, hc]
  | cons d piece ih =>
    rw [forall_mem_cons] at h
    simp [splitWhere, h.1, ih h.2]

/-- Pieces without the separator are found again after they were joined with it. -/
theorem splitWhere_joinWith {c : Char} {pieces : List (List Char)} (hne : pieces ≠ [])
    (h : ∀ piece ∈ pieces, c ∉ piece) : splitWhere (· == c) (joinWith [c] pieces) = pieces := by
  have hfree : ∀ piece : List Char, c ∉ piece → ∀ d ∈ piece, (d == c) = false := by
    intro piece hpiece d hd
    rw [beq_eq_false_iff_ne]
    rintro rfl
    exact hpiece hd
  induction pieces using joinWith.induct with
  | case1 => exact absurd rfl hne
  | case2 piece =>
    exact splitWhere_of_forall_not (hfree piece (h piece mem_cons_self))
  | case3 piece pieces hpieces ih =>
    rw [forall_mem_cons] at h
    rw [joinWith, append_assoc, singleton_append]
    · rw [splitWhere_append_break (hfree piece h.1) (by simp), ih hpieces h.2]
    · exact hpieces

/-- No separator is left in the pieces between separators. -/
theorem not_mem_of_mem_splitWhere {isBreak : Char → Bool} {text : List Char} (h : piece ∈ splitWhere isBreak text) :
    ∀ c ∈ piece, isBreak c = false := by
  fun_induction splitWhere isBreak text generalizing piece with
  | case1 =>
    rw [mem_singleton.1 h]
    simp
  | case2 c rest hc ih =>
    rcases mem_cons.1 h with rfl | h
    · simp
    · exact ih h
  | case3 c rest hc hnil ih => exact absurd hnil (splitWhere_ne_nil isBreak rest)
  | case4 c rest hc first pieces hpieces ih =>
    rw [hpieces] at ih
    rcases mem_cons.1 h with rfl | h
    · rw [forall_mem_cons]
      exact ⟨by simpa using hc, ih mem_cons_self⟩
    · exact ih (mem_cons_of_mem _ h)

end Text

/-! ## Plain paths -/

namespace Path

/-- Every component could stand between two slashes and would not be dropped there. -/
def IsPlain (path : Path) : Prop := ∀ part ∈ path.parts, part ≠ "" ∧ part ≠ "." ∧ '/' ∉ part.toList

theorem isPlain_ofString (s : String) : (ofString s).IsPlain := by
  intro part hpart
  obtain ⟨hmem, hkept⟩ := mem_filter.1 hpart
  obtain ⟨piece, hpiece, rfl⟩ := mem_map.1 hmem
  simp only [Bool.and_eq_true, bne_iff_ne, ne_eq] at hkept
  refine ⟨hkept.1, hkept.2, fun hslash => ?_⟩
  rw [String.toList_ofList] at hslash
  exact absurd (Text.not_mem_of_mem_splitWhere hpiece '/' hslash) (by decide)

theorem IsPlain.descend {path : Path} (h : path.IsPlain) {names : List String}
    (hnames : ∀ name ∈ names, IsFileName name) : (path.descend names).IsPlain := by
  intro part hpart
  rcases mem_append.1 hpart with hpart | hpart
  · exact h part hpart
  · have hname := hnames part hpart
    exact ⟨hname.ne_empty, hname.ne_dot, hname.no_slash⟩

theorem IsPlain.child {path : Path} (h : path.IsPlain) {name : String} (hname : IsFileName name) :
    (path.child name).IsPlain := by
  apply h.descend
  simpa using hname

variable {path : Path}

theorem toList_render (hne : path.parts ≠ []) (hplain : path.IsPlain) :
    path.render.toList = path.anchor.render.toList ++ Text.joinWith ['/'] (path.parts.map String.toList) := by
  have hjoined : (path.anchor.render ++ Text.joinStrings "/" path.parts).toList =
      path.anchor.render.toList ++ Text.joinWith ['/'] (path.parts.map String.toList) := by
    simp [Text.joinStrings]
  obtain ⟨last, hlast⟩ : ∃ last, last ∈ path.parts := exists_mem_of_ne_nil _ hne
  -- a component has characters of its own, so that the written path is not empty
  obtain ⟨c, hc⟩ := exists_mem_of_ne_nil _ (mt String.toList_eq_nil_iff.1 (hplain last hlast).1)
  have hslash : c ∉ ['/'] := by
    rintro hmem
    rw [mem_singleton.1 hmem] at hc
    exact (hplain last hlast).2.2 hc
  have hmem : c ∈ Text.joinWith ['/'] (path.parts.map String.toList) :=
    (Text.mem_joinWith hslash).2 ⟨last.toList, mem_map_of_mem hlast, hc⟩
  have hfull : path.anchor.render ++ Text.joinStrings "/" path.parts ≠ "" := by
    intro hempty
    rw [hempty] at hjoined
    have hnil := append_eq_nil_iff.1 hjoined.symm
    rw [hnil.2] at hmem
    exact absurd hmem not_mem_nil
  unfold render
  simp only [beq_iff_eq, hfull, if_false]
  exact hjoined

/-- The components of a written path, but for the empty ones at its start. -/
theorem components_render (hne : path.parts ≠ []) (hplain : path.IsPlain) :
    ∃ empties, (∀ part ∈ empties, part = "") ∧ components path.render = empties ++ path.parts := by
  have hsplit : Text.splitWhere (· == '/') (Text.joinWith ['/'] (path.parts.map String.toList)) =
      path.parts.map String.toList := by
    refine Text.splitWhere_joinWith (by simpa using hne) fun piece hpiece => ?_
    obtain ⟨part, hpart, rfl⟩ := mem_map.1 hpiece
    exact (hplain part hpart).2.2
  have hparts : (path.parts.map String.toList).map String.ofList = path.parts := by
    simp [Function.comp_def]
  rw [components, toList_render hne hplain]
  cases path.anchor with
  | here => exact ⟨[], by simp, by simp [Anchor.render, hsplit, hparts]⟩
  | top => exact ⟨[""], by simp, by simp [Anchor.render, Text.splitWhere, hsplit, hparts]⟩
  | doubledTop => exact ⟨["", ""], by simp, by simp [Anchor.render, Text.splitWhere, hsplit, hparts]⟩

theorem anchorOf_render (hne : path.parts ≠ []) (hplain : path.IsPlain) : anchorOf path.render = path.anchor := by
  obtain ⟨first, rest, hparts⟩ := exists_cons_of_ne_nil hne
  have hfirst := hplain first (hparts ▸ mem_cons_self)
  obtain ⟨c, chars, hchars⟩ := exists_cons_of_ne_nil (mt String.toList_eq_nil_iff.1 hfirst.1)
  have hc : (c == '/') = false := by
    rw [beq_eq_false_iff_ne]
    rintro rfl
    exact hfirst.2.2 (hchars ▸ mem_cons_self)
  obtain ⟨tail, htail⟩ : ∃ tail, Text.joinWith ['/'] (path.parts.map String.toList) = c :: tail := by
    rw [hparts, map_cons, hchars]
    cases rest <;> exact ⟨_, rfl⟩
  rw [anchorOf, toList_render hne hplain, htail]
  cases path.anchor <;> simp [Anchor.render, hc]

/-- A plain path that is written and read again is the same path. -/
theorem ofString_render (hplain : path.IsPlain) : ofString path.render = path := by
  by_cases hne : path.parts = []
  · obtain ⟨anchor, parts⟩ := path
    obtain rfl : parts = [] := hne
    cases anchor <;> decide
  · obtain ⟨empties, hempties, hcomponents⟩ := components_render hne hplain
    have hdropped : empties.filter (fun part => part != "" && part != ".") = [] := by
      rw [filter_eq_nil_iff]
      intro part hpart
      simp [hempties part hpart]
    have hkept : path.parts.filter (fun part => part != "" && part != ".") = path.parts := by
      rw [filter_eq_self]
      intro part hpart
      simp [(hplain part hpart).1, (hplain part hpart).2.1]
    rw [ofString, anchorOf_render hne hplain, hcomponents, filter_append, hdropped, hkept, nil_append]

/-- The last character of a path with components is not a slash. -/
theorem getLast?_render (hne : path.parts ≠ []) (hplain : path.IsPlain) : path.render.toList.getLast? ≠ some '/' := by
  obtain ⟨above, last, hparts⟩ := (eq_nil_or_concat path.parts).resolve_left hne
  rw [concat_eq_append] at hparts
  have hlast := hplain last (by simp [hparts])
  have hchars := mt String.toList_eq_nil_iff.1 hlast.1
  rw [toList_render hne hplain, hparts, map_append, map_singleton, Text.joinWith_concat,
    ← append_assoc, getLast?_append, getLast?_eq_some_getLast hchars, Option.some_or]
  intro hslash
  rw [← getLast?_eq_some_getLast hchars] at hslash
  exact hlast.2.2 (mem_of_getLast? hslash)

theorem nameSteps_render (hne : path.parts ≠ []) (hplain : path.IsPlain) : nameSteps path.render = path.parts := by
  obtain ⟨empties, hempties, hcomponents⟩ := components_render hne hplain
  have hdropped : empties.filter (· != "") = [] := by
    rw [filter_eq_nil_iff]
    intro part hpart
    simp [hempties part hpart]
  have hkept : path.parts.filter (· != "") = path.parts := by
    rw [filter_eq_self]
    intro part hpart
    simp [(hplain part hpart).1]
  rw [nameSteps, hcomponents, filter_append, hdropped, hkept, if_neg]
  · simp
  · simpa using getLast?_render hne hplain

end Path

namespace Workspace

/-- The written form of a path, taken as a name, leads where the path leads. -/
theorem locateNamed_render (ws : Workspace) {path : Path} (hne : path.parts ≠ []) (hplain : path.IsPlain) :
    ws.locateNamed path.render = ws.locate path := by
  have hfull : path.render ≠ "" := by
    intro hempty
    have hsteps := Path.nameSteps_render hne hplain
    rw [hempty] at hsteps
    exact hne (hsteps.symm.trans (by decide))
  rw [locateNamed, if_neg (by simpa using hfull), Path.anchorOf_render hne hplain,
    Path.nameSteps_render hne hplain, locate]

end Workspace

end StudioMigration
