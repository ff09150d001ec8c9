import Mathlib.Data.List.TakeWhile
import StudioMigration.Text.Basic

/-!
# Runs, line ends and pieces of a text

How a text is cut behind a run of characters, what unified line ends change, and how occurrences of a piece are
replaced. The latter is stated without positions: a text is cut into parts, and the parts are replaced one by one.

* `replaceAll_append_cons` says that a character that is not in the piece cuts a text in two.
* `replaceAll_append_of_head` passes over characters that cannot start an occurrence.
* `replaceAll_append_of_not_bridges` cuts a text at a seam that no occurrence stands across.
-/

namespace StudioMigration.Text

open List

variable {text : List Char} {c : Char}

/-- A property of all characters of a text is decided along the text. Without this instance the whole character
set would be gone through, since it is finite. -/
instance (priority := 2000) decidableForallMem (text : List Char) (P : Char → Prop) [DecidablePred P] :
    Decidable (∀ c ∈ text, P c) :=
  List.decidableBAll P text

/-! ## Runs at the front of a text -/

section Runs

variable {p : Char → Bool} {run rest : List Char}

theorem takeWhile_append_of_stop (hrun : ∀ c ∈ run, p c) (hrest : rest.head?.any p = false) :
    (run ++ rest).takeWhile p = run := by
  rw [takeWhile_append_of_pos hrun]
  cases rest with
  | nil => simp
  | cons c rest =>
    have hc : p c = false := by simpa using hrest
    simp [hc]

theorem dropWhile_append_of_stop (hrun : ∀ c ∈ run, p c) (hrest : rest.head?.any p = false) :
    (run ++ rest).dropWhile p = rest := by
  rw [dropWhile_append_of_pos hrun]
  cases rest with
  | nil => simp
  | cons c rest =>
    have hc : p c = false := by simpa using hrest
    simp [hc]

theorem drop_length_takeWhile (p : Char → Bool) (text : List Char) :
    text.drop (text.takeWhile p).length = text.dropWhile p := by
  induction text with
  | nil => rfl
  | cons c text ih => cases hc : p c <;> simp [hc, ih]

end Runs

/-! ## Occurrences -/

theorem hasInfix_eq_false {piece : List Char} (hpiece : c ∈ piece) (htext : c ∉ text) : hasInfix piece text = false := by
  induction text with
  | nil =>
    simp only [hasInfix, isEmpty_eq_false_iff]
    exact ne_nil_of_mem hpiece
  | cons d text ih =>
    have hfront : piece.isPrefixOf (d :: text) = false := by
      by_contra hfound
      rw [Bool.not_eq_false, isPrefixOf_iff_prefix] at hfound
      exact htext (hfound.subset hpiece)
    simp [hasInfix, hfront, ih fun hmem => htext (mem_cons_of_mem _ hmem)]

/-! ## Line ends -/

theorem mem_unifyNewlines (h : c ∈ unifyNewlines text) : c ∈ text ∨ c = '\n' := by
  fun_induction unifyNewlines text with
  | case1 => exact absurd h not_mem_nil
  | case2 rest ih =>
    rcases mem_cons.1 h with h | h
    · exact .inr h
    · exact (ih h).imp (by simp +contextual) id
  | case3 rest _ ih =>
    rcases mem_cons.1 h with h | h
    · exact .inr h
    · exact (ih h).imp (by simp +contextual) id
  | case4 d rest _ _ ih =>
    rcases mem_cons.1 h with h | h
    · exact .inl (h ▸ mem_cons_self)
    · exact (ih h).imp (mem_cons_of_mem _) id

theorem unifyNewlines_of_not_mem (h : '\r' ∉ text) : unifyNewlines text = text := by
  fun_induction unifyNewlines text with
  | case1 => rfl
  | case2 rest ih => simp at h
  | case3 rest _ ih => simp at h
  | case4 c rest _ _ ih => rw [ih (fun hmem => h (mem_cons_of_mem _ hmem))]

theorem head?_unifyNewlines (text : List Char) :
    (unifyNewlines text).head? = text.head?.map fun c => if c = '\r' then '\n' else c := by
  fun_cases unifyNewlines text with
  | case1 => rfl
  | case2 rest => simp
  | case3 rest hrest => simp
  | case4 d rest hrest hd => simp [show d ≠ '\r' from hd]

/-- A character that ends no line cuts a text in two. -/
theorem unifyNewlines_append_cons (text rest : List Char) (hfeed : c ≠ '\n') (hreturn : c ≠ '\r') :
    unifyNewlines (text ++ c :: rest) = unifyNewlines text ++ c :: unifyNewlines rest := by
  fun_induction unifyNewlines text with
  | case1 =>
    rw [nil_append, unifyNewlines]
    · rfl
    · rintro rest' rfl
      exact absurd rfl hreturn
    · exact hreturn
  | case2 more ih => simp [unifyNewlines, ih]
  | case3 more hmore ih =>
    rw [cons_append, unifyNewlines, ih]
    · rfl
    · intro rest' heq
      cases more with
      | nil => exact hfeed (List.cons.inj heq).1
      | cons d more => exact hmore more (by rw [(List.cons.inj heq).1])
  | case4 d more hmore hd ih =>
    rw [cons_append, unifyNewlines, ih]
    · rfl
    · rintro rest' rfl
      exact absurd rfl hd
    · exact hd

/-- A character that ends no line is not touched at the end of a text. -/
theorem unifyNewlines_concat (text : List Char) (hfeed : c ≠ '\n') (hreturn : c ≠ '\r') :
    unifyNewlines (text ++ [c]) = unifyNewlines text ++ [c] :=
  unifyNewlines_append_cons text [] hfeed hreturn

/-- A part of a text without line ends stays as it is. -/
theorem unifyNewlines_append_solid (text rest : List Char) {solid : List Char} (hne : solid ≠ [])
    (h : ∀ c ∈ solid, c ≠ '\n' ∧ c ≠ '\r') :
    unifyNewlines (text ++ (solid ++ rest)) = unifyNewlines text ++ (solid ++ unifyNewlines rest) := by
  induction solid generalizing text with
  | nil => exact absurd rfl hne
  | cons c solid ih =>
    rw [forall_mem_cons] at h
    rw [cons_append, unifyNewlines_append_cons text _ h.1.1 h.1.2]
    cases solid with
    | nil => rfl
    | cons d solid =>
      have hrest := ih [] (by simp) h.2
      rw [nil_append] at hrest
      rw [hrest]
      rfl

/-! ## Trimming -/

theorem isInfix_trim (text : List Char) : trim text <:+: text := by
  have hfront : text.dropWhile isSpace <:+ text := dropWhile_suffix isSpace
  have hback : ((text.dropWhile isSpace).reverse.dropWhile isSpace).reverse <+: text.dropWhile isSpace := by
    rw [← reverse_suffix, reverse_reverse]
    exact dropWhile_suffix isSpace
  exact hback.isInfix.trans hfront.isInfix

/-- A text without white space at its ends is not changed by trimming. -/
theorem trim_eq_self (hhead : text.head?.any (!isSpace ·)) (hlast : text.getLast?.any (!isSpace ·)) :
    trim text = text := by
  have hdrop : ∀ {text : List Char}, text.head?.any (!isSpace ·) → text.dropWhile isSpace = text := by
    intro text hhead
    cases text with
    | nil => rfl
    | cons c rest =>
      have hc : isSpace c = false := by simpa using hhead
      simp [hc]
  rw [trim, trimWhere, hdrop hhead, hdrop (by rwa [head?_reverse]), reverse_reverse]

variable {piece rest first second : List Char}

theorem hasInfix_iff : hasInfix piece text ↔ piece <:+: text := by
  induction text with
  | nil => simp [hasInfix]
  | cons c text ih => simp [hasInfix, ih, infix_cons_iff]

/-! ## Replacing -/

variable {old new front : List Char}

theorem replaceFrom_eq (skip : Nat) (text : List Char) :
    replaceFrom old new skip text = replaceFrom old new 0 (text.drop skip) := by
  induction skip generalizing text with
  | zero => simp
  | succ skip ih =>
    cases text with
    | nil => simp [replaceFrom]
    | cons c text => simpa [replaceFrom] using ih text

@[simp] theorem replaceAll_nil (h : old ≠ []) : replaceAll old new [] = [] := by
  simp [replaceAll, h, replaceFrom]

theorem replaceAll_append (h : old ≠ []) (text : List Char) :
    replaceAll old new (old ++ text) = new ++ replaceAll old new text := by
  obtain ⟨c, rest, rfl⟩ := exists_cons_of_ne_nil h
  simp only [replaceAll, isEmpty_cons, Bool.false_eq_true, if_false, cons_append, replaceFrom]
  rw [if_pos (by simp), replaceFrom_eq]
  simp

theorem replaceAll_cons (h : old ≠ []) (hfront : ¬old <+: c :: text) :
    replaceAll old new (c :: text) = c :: replaceAll old new text := by
  have hstart : old.isPrefixOf (c :: text) = false := by
    rw [← Bool.not_eq_true, isPrefixOf_iff_prefix]
    exact hfront
  simp [replaceAll, h, replaceFrom, hstart]

/-- Replacing along the occurrences: the empty text, an occurrence at the front, and a character where no
occurrence starts. -/
theorem replaceInduction {motive : List Char → Prop} (h : old ≠ []) (nil : motive [])
    (found : ∀ text, motive text → motive (old ++ text))
    (kept : ∀ c text, ¬old <+: c :: text → motive text → motive (c :: text)) (text : List Char) : motive text := by
  induction hn : text.length using Nat.strongRecOn generalizing text with
  | _ n ih =>
    subst hn
    cases text with
    | nil => exact nil
    | cons c text =>
      by_cases hfront : old <+: c :: text
      · obtain ⟨rest, hrest⟩ := hfront
        rw [← hrest]
        refine found rest (ih rest.length ?_ rest rfl)
        rw [← hrest, length_append]
        have := length_pos_iff.2 h
        omega
      · exact kept c text hfront (ih text.length (by simp) text rfl)

theorem not_mem_replaceAll (h : old ≠ []) (htext : c ∉ text) (hnew : c ∉ new) : c ∉ replaceAll old new text := by
  induction text using replaceInduction h with
  | nil => simp [h]
  | found text ih =>
    rw [mem_append, not_or] at htext
    rw [replaceAll_append h, mem_append, not_or]
    exact ⟨hnew, ih htext.2⟩
  | kept d text hnot ih =>
    rw [mem_cons, not_or] at htext
    rw [replaceAll_cons h hnot, mem_cons, not_or]
    exact ⟨htext.1, ih htext.2⟩

/-- Characters that cannot start an occurrence are passed over. -/
theorem replaceAll_append_of_head {first : Char} (hold : old = first :: rest) (hfront : first ∉ front)
    (text : List Char) : replaceAll old new (front ++ text) = front ++ replaceAll old new text := by
  have hne : old ≠ [] := by simp [hold]
  induction front with
  | nil => rfl
  | cons c front ih =>
    rw [mem_cons, not_or] at hfront
    have hnot : ¬old <+: c :: (front ++ text) := by
      rw [hold, cons_prefix_cons]
      exact fun h => hfront.1 h.1
    rw [cons_append, replaceAll_cons hne hnot, ih hfront.2, cons_append]

theorem replaceAll_eq_self (hne : old ≠ []) (h : ¬old <:+: text) : replaceAll old new text = text := by
  induction text with
  | nil => exact replaceAll_nil hne
  | cons c text ih =>
    rw [infix_cons_iff, not_or] at h
    rw [replaceAll_cons hne h.1, ih h.2]

/-- No occurrence reaches over a character that is not in the piece. -/
theorem prefix_of_prefix_append_cons (hc : c ∉ old) (h : old <+: text ++ c :: rest) : old <+: text := by
  rcases prefix_or_prefix_of_prefix h (prefix_append text (c :: rest)) with hshort | ⟨more, rfl⟩
  · exact hshort
  · rw [prefix_append_right_inj] at h
    cases more with
    | nil => simp
    | cons d more =>
      rw [cons_prefix_cons] at h
      exact absurd (h.1 ▸ by simp) hc

/-- An occurrence stands before or behind a character that is not in the piece. -/
theorem infix_of_infix_append_cons (hc : c ∉ old) (h : old <:+: text ++ c :: rest) : old <:+: text ∨ old <:+: rest := by
  induction text with
  | nil =>
    rcases infix_cons_iff.1 h with hfront | hrest
    · exact .inl (prefix_of_prefix_append_cons hc hfront).isInfix
    · exact .inr hrest
  | cons d text ih =>
    rcases infix_cons_iff.1 h with hfront | hrest
    · exact .inl (prefix_of_prefix_append_cons hc hfront).isInfix
    · exact (ih hrest).imp_left infix_cons

/-- No occurrence starts with a character that is not the first one of the piece. -/
theorem infix_of_infix_append_of_head {first : Char} (hold : old = first :: rest) (hfront : first ∉ front)
    (h : old <:+: front ++ text) : old <:+: text := by
  induction front with
  | nil => exact h
  | cons c front ih =>
    rw [mem_cons, not_or] at hfront
    rw [cons_append, infix_cons_iff] at h
    refine ih hfront.2 (h.resolve_left ?_)
    rw [hold, cons_prefix_cons]
    exact fun hstart => hfront.1 hstart.1

theorem replaceAll_singleton (a b : Char) (text : List Char) :
    replaceAll [a] [b] text = text.map fun c => if c = a then b else c := by
  induction text with
  | nil => simp
  | cons c text ih =>
    by_cases hc : c = a
    · subst hc
      have hfront : replaceAll [c] [b] ([c] ++ text) = [b] ++ replaceAll [c] [b] text :=
        replaceAll_append (by simp) text
      simpa [ih] using hfront
    · have hnot : ¬[a] <+: c :: text := by
        rw [cons_prefix_cons]
        exact fun h => hc h.1.symm
      rw [replaceAll_cons (by simp) hnot, ih, map_cons, if_neg hc]

/-! ## Seams -/

/-- Whether a piece can stand across the seam of two texts that are put one behind the other. -/
def Bridges (piece first second : List Char) : Prop :=
  ∃ n < piece.length, 0 < n ∧ piece.take n <:+ first ∧ piece.drop n <+: second

instance (piece first second : List Char) : Decidable (Bridges piece first second) :=
  inferInstanceAs (Decidable (∃ n < _, _))

theorem Bridges.append_left (h : Bridges piece first second) (front : List Char) :
    Bridges piece (front ++ first) second := by
  obtain ⟨n, hn, hpos, hfirst, hsecond⟩ := h
  exact ⟨n, hn, hpos, hfirst.trans (suffix_append _ _), hsecond⟩

/-- No piece stands across a seam if the character behind it is not in the piece. -/
theorem not_bridges_cons (hc : c ∉ piece) (text rest : List Char) : ¬Bridges piece text (c :: rest) := by
  rintro ⟨n, hn, -, -, hdrop⟩
  rw [drop_eq_getElem_cons hn] at hdrop
  exact hc ((cons_prefix_cons.1 hdrop).1 ▸ getElem_mem hn)

/-- An occurrence at the front of two texts is one in the first text, or it stands across the seam. -/
theorem prefix_or_bridges (hfirst : first ≠ []) (h : piece <+: first ++ second) :
    piece <+: first ∨ Bridges piece first second := by
  by_cases hshort : piece <+: first
  · exact .inl hshort
  · obtain ⟨more, rfl⟩ := ( prefix_or_prefix_of_prefix h (prefix_append first second)).resolve_left hshort
    have hmore : more ≠ [] := by
      rintro rfl
      exact hshort (by simp)
    refine .inr ⟨first.length, ?_, length_pos_iff.2 hfirst, by simp, by simpa using h⟩
    rw [length_append]
    exact Nat.lt_add_of_pos_right (length_pos_iff.2 hmore)

/-- Where no occurrence stands across the seam, two texts are replaced one by one. -/
theorem replaceAll_append_of_not_bridges (hne : old ≠ []) (h : ¬Bridges old first second) :
    replaceAll old new (first ++ second) = replaceAll old new first ++ replaceAll old new second := by
  induction first using replaceInduction hne with
  | nil => rw [nil_append, replaceAll_nil hne, nil_append]
  | found text ih =>
    rw [append_assoc, replaceAll_append hne, replaceAll_append hne, ih fun hb => h (hb.append_left old), append_assoc]
  | kept c text hnot ih =>
    have hnot' : ¬old <+: c :: (text ++ second) := fun hfront =>
      (prefix_or_bridges (cons_ne_nil c text) hfront).elim hnot h
    rw [cons_append, replaceAll_cons hne hnot', replaceAll_cons hne hnot,
      ih fun hb => h (hb.append_left [c]), cons_append]

/-- A character that is not in the piece cuts a text in two. -/
theorem replaceAll_append_cons (hne : old ≠ []) (hc : c ∉ old) (text rest : List Char) :
    replaceAll old new (text ++ c :: rest) = replaceAll old new text ++ c :: replaceAll old new rest := by
  have hnot : ¬old <+: c :: rest := fun h => by
    obtain ⟨d, tail, rfl⟩ := exists_cons_of_ne_nil hne
    exact hc ((cons_prefix_cons.1 h).1 ▸ mem_cons_self)
  rw [replaceAll_append_of_not_bridges hne (not_bridges_cons hc text rest), replaceAll_cons hne hnot]

end StudioMigration.Text
