import StudioMigration.Proofs.Analysis.PackageVersion
import StudioMigration.Proofs.Files.Name
import StudioMigration.Release.Update

/-!
# The order of calendar versions

A version is a list of numbers and can be written in many ways: with zeros before the numbers, with a `v` and white
space around it, and with a suffix. Whether one version is newer than another does not depend on that.

* `Text.readNat_numeral` says that a number is read back, whatever zeros stand before it.
* `CalendarVersion.Spelling` is a way to write a version, and `CalendarVersion.Spelling.read_text` reads it back.
* `isNewer_strict_order` says that `isNewer` is the lexicographic order of the numbers, and so a strict total order.
-/

namespace StudioMigration

open List

namespace Text

/-! ## Numerals -/

variable {c : Char} {zeros n : Nat}

/-- A number in decimal digits, with zeros before it. -/
def numeral (zeros n : Nat) : List Char := List.replicate zeros '0' ++ Nat.toDigits 10 n

theorem numeral_ne_nil (zeros n : Nat) : numeral zeros n ≠ [] := by
  simp [numeral, Nat.toDigits_ne_nil]

theorem isAsciiDigit_of_mem_numeral (h : c ∈ numeral zeros n) : isAsciiDigit c := by
  rcases mem_append.1 h with h | h
  · rw [eq_of_mem_replicate h]
    decide
  · have hdigit := Nat.isDigit_of_mem_toDigits (by decide) (by decide) h
    simp only [Char.isDigit, isAsciiDigit, Bool.and_eq_true, decide_eq_true_eq] at hdigit ⊢
    exact hdigit

theorem decimalValue?_of_isAsciiDigit (h : isAsciiDigit c) : decimalValue? c = some (c.toNat - 48) := by
  simp [decimalValue?, h]

theorem foldl_decimalValue? {text : List Char} (h : ∀ c ∈ text, isAsciiDigit c) (m : Nat) :
    (text.filterMap decimalValue?).foldl (fun n d => 10 * n + d) m = Nat.ofDigitChars 10 text m := by
  induction text generalizing m with
  | nil => rfl
  | cons c text ih =>
    rw [forall_mem_cons] at h
    rw [filterMap_cons_some (decimalValue?_of_isAsciiDigit h.1), foldl_cons, ih h.2]
    rfl

/-- Zeros before a number do not count. -/
theorem readNat_numeral (h : (numeral zeros n).length ≤ maxDigits) : readNat (numeral zeros n) = .ok n := by
  have hdigits : ∀ c ∈ numeral zeros n, isAsciiDigit c := fun c => isAsciiDigit_of_mem_numeral
  have hdecimal : ∀ c ∈ numeral zeros n, isDecimal c := fun c hc => by
    simp [isDecimal, decimalValue?_of_isAsciiDigit (hdigits c hc)]
  have hzeros : ∀ zeros, Nat.ofDigitChars 10 (List.replicate zeros '0') 0 = 0 := by
    intro zeros
    induction zeros with
    | zero => rfl
    | succ zeros ih => exact ih
  rw [readNat_of_isDecimal (numeral_ne_nil zeros n) hdecimal, if_neg (Nat.not_lt.2 h), ofDigits,
    foldl_decimalValue? hdigits, numeral, Nat.ofDigitChars_append, hzeros,
    Nat.ofDigitChars_toDigits (by decide) (by decide)]

/-! ## Trimming -/

/-- A text that starts with something solid is only trimmed behind that. -/
theorem trim_append {front core : List Char} (hfront : ∀ c ∈ front, isSpace c) (hne : core ≠ [])
    (hcore : ∀ c ∈ core, isSpace c = false) (tail : List Char) :
    trim (front ++ (core ++ tail)) = core ++ trimEndWhere isSpace tail := by
  obtain ⟨init, last, rfl⟩ := (eq_nil_or_concat core).resolve_left hne
  rw [concat_eq_append] at hcore ⊢
  have hlast : ¬isSpace last := by simp [hcore last (by simp)]
  have hhead : (init ++ [last] ++ tail).head?.any isSpace = false := by
    cases init with
    | nil => simpa using hlast
    | cons c init => exact hcore c (by simp)
  rw [trim, trimWhere, dropWhile_append_of_stop hfront hhead, reverse_append, dropWhile_append, trimEndWhere]
  split
  · rename_i hempty
    rw [List.isEmpty_iff] at hempty
    simp [hempty, hlast]
  · simp

end Text

namespace CalendarVersion

open Text

/-! ## Ways to write a version -/

/-- A way to write a version. -/
structure Spelling where
  /-- The numbers, each after the number of zeros before it. -/
  numbers : List (Nat × Nat)
  /-- Whether a `v` stands before them. -/
  marked : Bool
  /-- What follows a plus sign behind them, if there is one. -/
  suffix : Option (List Char)
  /-- The white space before everything and behind it. -/
  front : List Char
  back : List Char
  numbers_ne_nil : numbers ≠ []
  fits : ∀ x ∈ numbers, (numeral x.1 x.2).length ≤ 4300
  isSpace_front : ∀ c ∈ front, isSpace c
  isSpace_back : ∀ c ∈ back, isSpace c

namespace Spelling

variable (spelling : Spelling)

def version : CalendarVersion := spelling.numbers.map (·.2)

def numerals : List (List Char) := spelling.numbers.map fun x => numeral x.1 x.2

def text : List Char :=
  spelling.front ++ ((if spelling.marked then ['v'] else []) ++ joinWith ['.'] spelling.numerals ++
    (spelling.suffix.elim [] ('+' :: ·) ++ spelling.back))

theorem numerals_ne_nil : spelling.numerals ≠ [] := by
  simp [numerals, spelling.numbers_ne_nil]

theorem isAsciiDigit_of_mem {piece : List Char} (hpiece : piece ∈ spelling.numerals) {c : Char} (hc : c ∈ piece) :
    isAsciiDigit c := by
  obtain ⟨x, -, rfl⟩ := mem_map.1 hpiece
  exact isAsciiDigit_of_mem_numeral hc

theorem dot_not_mem : ∀ piece ∈ spelling.numerals, '.' ∉ piece := fun _ hpiece hdot =>
  absurd (spelling.isAsciiDigit_of_mem hpiece hdot) (by decide)

theorem joined_ne_nil : joinWith ['.'] spelling.numerals ≠ [] := by
  intro hnil
  have hsplit := splitWhere_joinWith spelling.numerals_ne_nil spelling.dot_not_mem
  rw [hnil] at hsplit
  obtain ⟨x, hx⟩ := exists_mem_of_ne_nil _ spelling.numbers_ne_nil
  have hmem : numeral x.1 x.2 ∈ splitWhere (· == '.') [] := hsplit ▸ mem_map_of_mem hx
  simp [splitWhere, numeral_ne_nil] at hmem

theorem mem_joined {c : Char} (h : c ∈ joinWith ['.'] spelling.numerals) : c = '.' ∨ isAsciiDigit c := by
  by_cases hdot : c = '.'
  · exact .inl hdot
  · obtain ⟨piece, hpiece, hc⟩ := (mem_joinWith (by simpa using hdot)).1 h
    exact .inr (spelling.isAsciiDigit_of_mem hpiece hc)

/-- Behind the numbers there is nothing that counts, or a plus sign. -/
theorem head?_tail :
    (trimEndWhere isSpace (spelling.suffix.elim [] ('+' :: ·) ++ spelling.back)).head?.any (· != '+') = false := by
  cases spelling.suffix with
  | none =>
    have hnone : trimEndWhere isSpace spelling.back = [] := by
      simpa [trimEndWhere] using spelling.isSpace_back
    simp [hnone]
  | some suffix =>
    have hsome : trimEndWhere isSpace ('+' :: (suffix ++ spelling.back)) =
        '+' :: trimEndWhere isSpace (suffix ++ spelling.back) := by
      have hplus : isSpace '+' = false := by decide
      simp only [trimEndWhere, reverse_cons, dropWhile_append]
      split <;> simp_all
    simp [hsome]

theorem parts_text : parts spelling.text = spelling.numerals := by
  have hchars : ∀ c ∈ joinWith ['.'] spelling.numerals, isSpace c = false ∧ (c != '+') ∧ c ≠ 'v' := by
    have hdigits : ∀ c, isAsciiDigit c → isSpace c = false ∧ (c != '+') ∧ c ≠ 'v' := by
      intro c hc
      refine ⟨isSpace_eq_false_of_isDecimal (by simp [isDecimal, decimalValue?_of_isAsciiDigit hc]), ?_, ?_⟩
      · rw [bne_iff_ne]
        rintro rfl
        exact absurd hc (by decide)
      · rintro rfl
        exact absurd hc (by decide)
    intro c hc
    rcases spelling.mem_joined hc with rfl | hc
    · decide
    · exact hdigits c hc
  have hjoined := takeWhile_append_of_stop (fun c hc => (hchars c hc).2.1) spelling.head?_tail
  have hsplit := splitWhere_joinWith spelling.numerals_ne_nil spelling.dot_not_mem
  obtain ⟨c, rest, hrest⟩ := exists_cons_of_ne_nil spelling.joined_ne_nil
  rw [← hsplit, ← hjoined, parts, text, trim_append spelling.isSpace_front]
  · cases spelling.marked with
    | true => simp
    | false =>
      have hc : c ≠ 'v' := (hchars c (by simp [hrest])).2.2
      simp [hrest, hc]
  · simp [spelling.joined_ne_nil]
  · intro d hd
    rcases mem_append.1 hd with hd | hd
    · split at hd
      · rw [mem_singleton.1 hd]
        decide
      · exact absurd hd not_mem_nil
    · exact (hchars d hd).1

theorem read_text : read spelling.text = .ok spelling.version := by
  have hcounts : spelling.numerals.filter counts = spelling.numerals := by
    refine filter_eq_self.2 fun piece hpiece => ?_
    have hdigits : piece.all isDigit := all_eq_true.2 fun c hc => by
      simp [isDigit, isDecimal, decimalValue?_of_isAsciiDigit (spelling.isAsciiDigit_of_mem hpiece hc)]
    obtain ⟨x, -, rfl⟩ := mem_map.1 hpiece
    simp [counts, hdigits, numeral_ne_nil]
  rw [read, parts_text, hcounts, numerals, mapM_map, version]
  have hfits := spelling.fits
  generalize spelling.numbers = numbers at hfits
  induction numbers with
  | nil => rfl
  | cons x numbers ih =>
    rw [forall_mem_cons] at hfits
    simp [readNat_numeral hfits.1, ih hfits.2]

end Spelling

theorem isOlder_iff_lt (first second : CalendarVersion) : isOlder first second ↔ first < second := by
  induction first generalizing second with
  | nil => cases second <;> simp [isOlder]
  | cons m ms ih =>
    cases second with
    | nil => simp [isOlder]
    | cons n ns => simp [isOlder, cons_lt_cons_iff, ih]

end CalendarVersion

theorem isNewer_text (remote own : CalendarVersion.Spelling) :
    isNewer remote.text own.text ↔ own.version < remote.version := by
  rw [isNewer, remote.read_text, own.read_text]
  exact CalendarVersion.isOlder_iff_lt _ _

/-- A version is newer than another just if its numbers come later, however the two are written: this is a strict total
order on versions. -/
theorem isNewer_strict_order (first second : CalendarVersion.Spelling) :
    CalendarVersion.read first.text = .ok first.version ∧
      (isNewer first.text second.text = true ↔ second.version < first.version) ∧
      (isNewer first.text second.text = true ∨ first.version = second.version ∨ isNewer second.text first.text = true) ∧
      ¬(isNewer first.text second.text = true ∧ isNewer second.text first.text = true) ∧
      (∀ third : CalendarVersion.Spelling, isNewer first.text second.text = true →
        isNewer second.text third.text = true → isNewer first.text third.text = true) ∧
      ∀ first' second' : CalendarVersion.Spelling, first'.version = first.version →
        second'.version = second.version → isNewer first'.text second'.text = isNewer first.text second.text := by
  refine ⟨first.read_text, isNewer_text _ _, ?_, ?_, ?_, ?_⟩
  · simp only [isNewer_text]
    by_contra hnone
    simp only [not_or, List.not_lt] at hnone
    exact hnone.2.1 (List.le_antisymm hnone.1 hnone.2.2)
  · simp only [isNewer_text]
    exact fun h => List.lt_asymm h.1 h.2
  · intro third
    simp only [isNewer_text]
    exact fun h h' => List.lt_trans h' h
  · intro first' second' hfirst hsecond
    rw [Bool.eq_iff_iff, isNewer_text, isNewer_text, hfirst, hsecond]

end StudioMigration
