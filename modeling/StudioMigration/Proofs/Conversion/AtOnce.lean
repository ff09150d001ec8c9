import Mathlib.Data.List.Pairwise
import StudioMigration.Proofs.Conversion.OpcUa

/-!
# Renaming all names at once

Pieces of text and members are renamed one name after the other, each in the text that the one before has left. Here
this is shown to be a single pass from left to right over the original text, whatever the order of the names.

* `apart` says that a piece cannot start within a text, whatever follows, and `Regular` that the old names of a table do
  not get in each other's way.
* `onePass` is the single pass, and `onePass_twice` puts two passes together.
* `onePass_count` says that the pass replaces all that each old piece would have replaced alone.
* `Independent.renameAll_eq` says that names are renamed one after the other, in any order, as in the single pass.
-/

namespace StudioMigration

open List Pattern Text

variable {text piece front : List Char}

/-! ## Pieces that stay apart -/

namespace Text

/-- Whether one of two texts is the start of the other. -/
def agrees : List Char → List Char → Bool
  | c :: text, d :: other => c == d && agrees text other
  | _, _ => true

/-- The ends of a text that start with a character. -/
def endsFrom (c : Char) : List Char → List (List Char)
  | [] => []
  | d :: text => if d = c then (d :: text) :: endsFrom c text else endsFrom c text

/-- Whether no occurrence of a piece starts within a text, whatever follows the text. -/
def apart (piece text : List Char) : Bool :=
  match piece with
  | [] => text.isEmpty
  | c :: _ => (endsFrom c text).all fun rest => !agrees piece rest

/-- Neither of two pieces can start within the other one. -/
abbrev Separate (piece other : List Char) : Prop := apart piece other ∧ apart other piece

theorem agrees_of_heads {whole : List Char} (hpiece : piece <+: whole) (htext : text <+: whole) :
    agrees piece text := by
  fun_induction agrees piece text generalizing whole with
  | case1 c piece d text ih =>
    obtain ⟨rest, rfl⟩ := hpiece
    rw [cons_append, cons_prefix_cons] at htext
    simp [htext.1, ih (prefix_append piece rest) htext.2]
  | case2 => rfl

theorem apart_cons {c : Char} (h : apart piece (c :: text)) :
    agrees piece (c :: text) = false ∧ apart piece text := by
  cases piece with
  | nil => simp [apart] at h
  | cons d piece =>
    by_cases hd : c = d
    · simpa [apart, endsFrom, hd] using h
    · simpa [apart, endsFrom, hd, agrees, Ne.symm hd] using h

theorem apart_of_append (h : apart piece (front ++ text)) : apart piece text := by
  induction front with
  | nil => exact h
  | cons c front ih => exact ih (apart_cons h).2

theorem not_prefix_of_apart {whole : List Char} (h : apart piece text) (hne : text ≠ [])
    (htext : text <+: whole) : ¬piece <+: whole := by
  intro hpiece
  cases text with
  | nil => exact hne rfl
  | cons c text => exact absurd (agrees_of_heads hpiece htext) (by simp [(apart_cons h).1])

theorem startsWord_append (hne : front ≠ []) (rest : List Char) : startsWord (front ++ rest) = startsWord front := by
  cases front with
  | nil => exact absurd rfl hne
  | cons c front => rfl

end Text

/-! ## The single pass -/

/-- Pieces of text and what takes their places. -/
abbrev Replacements := List (List Char × List Char)

/-- Whether a piece may stand before a text. A bounded piece has a word character before it, which `word` tells, and none
behind it. -/
def isBound (bounded word : Bool) (after : List Char) : Bool := !bounded || word && !startsWord after

/-- Whether a piece stands at the front of a text. -/
def standsAt (bounded : Bool) (piece : List Char) (word : Bool) (text : List Char) : Bool :=
  piece.isPrefixOf text && isBound bounded word (text.drop piece.length)

/-- A text with more in front of it, and a number with more added to it. -/
def written (front : List Char) (count : Nat) (result : List Char × Nat) : List Char × Nat :=
  (front ++ result.1, count + result.2)

/-- All pieces of a table replaced in a single pass from left to right, and their number. -/
def onePass (bounded : Bool) (table : Replacements) (word : Bool) : List Char → List Char × Nat
  | [] => ([], 0)
  | c :: rest =>
    match table.find? fun entry => standsAt bounded entry.1 word (c :: rest) with
    | some (old, new) =>
      written new 1 (onePass bounded table (startsWord old.reverse) (rest.drop (old.length - 1)))
    | none => written [c] 0 (onePass bounded table (isWord c) rest)
termination_by text => text.length
decreasing_by all_goals simp only [length_drop, length_cons]; omega

@[simp] theorem written_fst (front : List Char) (count : Nat) (result : List Char × Nat) :
    (written front count result).1 = front ++ result.1 := rfl

@[simp] theorem written_snd (front : List Char) (count : Nat) (result : List Char × Nat) :
    (written front count result).2 = count + result.2 := rfl

theorem standsAt_iff {bounded word : Bool} :
    standsAt bounded piece word text ↔ ∃ after, text = piece ++ after ∧ isBound bounded word after := by
  rw [standsAt, Bool.and_eq_true, isPrefixOf_iff_prefix]
  constructor
  · rintro ⟨⟨after, rfl⟩, hbound⟩
    exact ⟨after, rfl, by rwa [drop_left] at hbound⟩
  · rintro ⟨after, rfl, hbound⟩
    exact ⟨prefix_append _ _, by rwa [drop_left]⟩

/-- A table whose old pieces do not get in each other's way, and whose new pieces are like the old ones at their ends. -/
structure Regular (table : Replacements) : Prop where
  old_ne : ∀ entry ∈ table, entry.1 ≠ []
  new_ne : ∀ entry ∈ table, entry.2 ≠ []
  starts : ∀ entry ∈ table, startsWord entry.2 = startsWord entry.1
  ends : ∀ entry ∈ table, startsWord entry.2.reverse = startsWord entry.1.reverse
  olds : ∀ entry ∈ table, ∀ other ∈ table, entry ≠ other → apart entry.1 other.1

section Pass

variable {bounded : Bool} {table first second : Replacements}

theorem Regular.mono (h : Regular table) (hsub : first ⊆ table) : Regular first :=
  ⟨fun entry he => h.old_ne entry (hsub he), fun entry he => h.new_ne entry (hsub he),
    fun entry he => h.starts entry (hsub he), fun entry he => h.ends entry (hsub he),
    fun entry he other ho => h.olds entry (hsub he) other (hsub ho)⟩

theorem onePass_kept {word : Bool} {c : Char} (h : ∀ entry ∈ table, ¬standsAt bounded entry.1 word (c :: text)) :
    onePass bounded table word (c :: text) = written [c] 0 (onePass bounded table (isWord c) text) := by
  rw [onePass, find?_eq_none.2 h]

/-- A text that no old piece starts in is passed over. -/
theorem onePass_apart (hne : front ≠ []) (h : ∀ entry ∈ table, apart entry.1 front) (word : Bool) (text : List Char) :
    onePass bounded table word (front ++ text) =
      written front 0 (onePass bounded table (startsWord front.reverse) text) := by
  induction front generalizing word with
  | nil => exact absurd rfl hne
  | cons c front ih =>
    have hnot : ∀ entry ∈ table, ¬standsAt bounded entry.1 word (c :: (front ++ text)) := by
      intro entry hentry hstands
      obtain ⟨after, htext, -⟩ := standsAt_iff.1 hstands
      exact not_prefix_of_apart (h entry hentry) hne (prefix_append _ text) ⟨after, htext.symm⟩
    rw [cons_append, onePass_kept hnot]
    by_cases hfront : front = []
    · simp [hfront]
    · rw [ih hfront fun entry hentry => (apart_cons (h entry hentry)).2, reverse_cons,
        startsWord_append (mt reverse_eq_nil_iff.1 hfront)]
      simp [written]

/-- Going through a text along the single pass: the empty text, an old piece at the front, and a character where no old
piece stands. -/
theorem atOnceInduction {motive : Bool → List Char → Prop} (hold : ∀ entry ∈ table, entry.1 ≠ [])
    (nil : ∀ word, motive word []) (found : ∀ entry ∈ table, ∀ word text, isBound bounded word text →
      motive (startsWord entry.1.reverse) text → motive word (entry.1 ++ text))
    (kept : ∀ word c text, (∀ entry ∈ table, ¬standsAt bounded entry.1 word (c :: text)) →
      motive (isWord c) text → motive word (c :: text)) (word : Bool) (text : List Char) : motive word text := by
  induction hn : text.length using Nat.strongRecOn generalizing word text with
  | _ n ih =>
    subst hn
    cases text with
    | nil => exact nil word
    | cons c text =>
      by_cases hfront : ∃ entry ∈ table, standsAt bounded entry.1 word (c :: text)
      · obtain ⟨entry, hentry, hstands⟩ := hfront
        obtain ⟨after, htext, hbound⟩ := standsAt_iff.1 hstands
        rw [htext]
        refine found entry hentry word after hbound (ih after.length ?_ _ after rfl)
        rw [htext, length_append]
        exact Nat.lt_add_of_pos_left (length_pos_iff.2 (hold entry hentry))
      · exact kept word c text (fun entry hentry hstands => hfront ⟨entry, hentry, hstands⟩)
          (ih text.length (by simp) _ text rfl)

variable (h : Regular table)

include h

variable {entry : List Char × List Char}

theorem onePass_found (hentry : entry ∈ table) {word : Bool} (hbound : isBound bounded word text) :
    onePass bounded table word (entry.1 ++ text) =
      written entry.2 1 (onePass bounded table (startsWord entry.1.reverse) text) := by
  have hne := h.old_ne entry hentry
  have hfind : (table.find? fun other => standsAt bounded other.1 word (entry.1 ++ text)) = some entry := by
    cases hfound : table.find? fun other => standsAt bounded other.1 word (entry.1 ++ text) with
    | none => exact absurd (standsAt_iff.2 ⟨text, rfl, hbound⟩) (find?_eq_none.1 hfound entry hentry)
    | some other =>
      have hstands : standsAt bounded other.1 word (entry.1 ++ text) := by simpa using find?_some hfound
      obtain ⟨after, htext, -⟩ := standsAt_iff.1 hstands
      -- of two old pieces at one place, one would start within the other
      by_contra hother
      exact not_prefix_of_apart (h.olds other (mem_of_find?_eq_some hfound) entry hentry fun heq =>
        hother (congrArg some heq)) hne (prefix_append _ text) ⟨after, htext.symm⟩
  obtain ⟨c, rest, hold⟩ := exists_cons_of_ne_nil hne
  rw [hold, cons_append] at hfind ⊢
  rw [onePass, hfind]
  simp [hold]

theorem startsWord_found (hentry : entry ∈ table) (text rest : List Char) :
    startsWord (entry.2 ++ rest) = startsWord (entry.1 ++ text) := by
  rw [startsWord_append (h.old_ne entry hentry), startsWord_append (h.new_ne entry hentry), h.starts entry hentry]

theorem startsWord_onePass (word : Bool) (text : List Char) :
    startsWord (onePass bounded table word text).1 = startsWord text := by
  cases word, text using @atOnceInduction bounded _ _ h.old_ne with
  | nil => rw [onePass]
  | found entry hentry word text hbound _ =>
    rw [onePass_found h hentry hbound, written_fst, startsWord_found h hentry]
  | kept word c text hnot _ =>
    rw [onePass_kept hnot]
    rfl

/-- A piece that starts in front of a text after the pass stood there before, or a new piece starts within it. -/
theorem exists_of_onePass (hfront : front ≠ []) (word : Bool) (text : List Char)
    {after : List Char} (htext : front ++ (onePass bounded table word text).1 = piece ++ after) :
    (∃ after', front ++ text = piece ++ after' ∧ startsWord after = startsWord after') ∨
      ∃ entry ∈ table, ∃ before rest text', piece = before ++ rest ∧ rest ≠ [] ∧
        front ++ text = before ++ (entry.1 ++ text') ∧
        rest ++ after = entry.2 ++ (onePass bounded table (startsWord entry.1.reverse) text').1 := by
  induction word, text using @atOnceInduction bounded _ _ h.old_ne generalizing front with
  | nil => exact .inl ⟨after, by rwa [onePass] at htext, rfl⟩
  | found entry hentry word text hbound _ =>
    rw [onePass_found h hentry hbound] at htext
    -- the piece reaches behind the front or ends within it
    obtain ⟨rest, rfl, hafter⟩ | ⟨rest, rfl, rfl⟩ := append_eq_append_iff.1 htext
    · by_cases hrest : rest = []
      · subst hrest
        exact .inl ⟨entry.1 ++ text, by simp, (congrArg startsWord hafter).symm.trans (startsWord_found h hentry _ _)⟩
      · exact .inr ⟨entry, hentry, front, rest, text, rfl, hrest, rfl, hafter.symm⟩
    · refine .inl ⟨rest ++ (entry.1 ++ text), by simp, ?_⟩
      cases rest with
      | nil => exact startsWord_found h hentry _ _
      | cons c rest => rfl
  | kept word c text hnot ih =>
    rw [onePass_kept hnot, written_fst, singleton_append, append_cons] at htext
    rw [append_cons]
    exact ih (by simp) htext

/-- Only the entries of a table count, not their order. -/
theorem onePass_congr (hmem : ∀ entry, entry ∈ first ↔ entry ∈ table) (word : Bool) (text : List Char) :
    onePass bounded first word text = onePass bounded table word text := by
  induction word, text using @atOnceInduction bounded _ _ h.old_ne with
  | nil => rw [onePass, onePass]
  | found entry hentry word text hbound ih =>
    rw [onePass_found h hentry hbound,
      onePass_found (h.mono fun entry => (hmem entry).1) ((hmem entry).2 hentry) hbound, ih]
  | kept word c text hnot ih =>
    rw [onePass_kept hnot, onePass_kept fun entry hentry => hnot entry ((hmem entry).1 hentry), ih]

/-- The pass replaces what each old piece would have replaced alone. -/
theorem onePass_count (hdistinct : table.Nodup) (word : Bool) (text : List Char) :
    (onePass bounded table word text).2 = (table.map fun entry => (onePass bounded [entry] word text).2).sum := by
  induction word, text using @atOnceInduction bounded _ _ h.old_ne with
  | nil => simp [onePass]
  | found entry hentry word text hbound ih =>
    obtain ⟨front, back, rfl⟩ := append_of_mem hentry
    have hother : ∀ other ∈ front ++ back, (onePass bounded [other] word (entry.1 ++ text)).2 =
        (onePass bounded [other] (startsWord entry.1.reverse) text).2 := by
      intro other hother
      have hapart : apart other.1 entry.1 := h.olds other (by grind) entry hentry (by grind)
      rw [onePass_apart (h.old_ne entry hentry) (by simpa using hapart), written_snd, Nat.zero_add]
    have hself := @onePass_found text bounded [entry] (h.mono (by simp)) entry mem_cons_self word hbound
    rw [onePass_found h hentry hbound, written_snd, ih]
    simp only [map_append, map_cons, sum_append, sum_cons, hself, written_snd,
      map_congr_left fun other ho => hother other (mem_append_left _ ho),
      map_congr_left fun other ho => hother other (mem_append_right _ ho)]
    omega
  | kept word c text hnot ih =>
    rw [onePass_kept hnot, written_snd, Nat.zero_add, ih]
    refine congrArg List.sum (map_congr_left fun entry hentry => ?_)
    rw [onePass_kept (by simpa using hnot entry hentry), written_snd, Nat.zero_add]

/-- Where nothing is replaced, no old piece stands. -/
theorem not_infix_of_onePass (hentry : entry ∈ table) (word : Bool)
    (hcount : (onePass false table word text).2 = 0) : ¬entry.1 <:+: text := by
  induction word, text using @atOnceInduction false _ _ h.old_ne with
  | nil => simpa using h.old_ne entry hentry
  | found other hother word text hbound _ =>
    rw [onePass_found h hother hbound, written_snd] at hcount
    omega
  | kept word c text hnot ih =>
    rw [onePass_kept hnot, written_snd, Nat.zero_add] at hcount
    rw [infix_cons_iff, not_or]
    refine ⟨fun ⟨after, hprefix⟩ => hnot entry hentry ?_, ih hcount⟩
    exact standsAt_iff.2 ⟨after, hprefix.symm, rfl⟩

omit h in
/-- Two passes in a row are one pass with the pieces of both, if no old piece of the second one can start within a new
one of the first, and the other way round. -/
theorem onePass_twice (h : Regular (first ++ second))
    (hnew : ∀ entry ∈ second, ∀ other ∈ first, Separate entry.1 other.2) (word : Bool) (text : List Char) :
    written [] (onePass bounded first word text).2
        (onePass bounded second word (onePass bounded first word text).1) =
      onePass bounded (first ++ second) word text := by
  have hfirst : Regular first := h.mono (subset_append_left _ _)
  have hsecond : Regular second := h.mono (subset_append_right _ _)
  induction word, text using @atOnceInduction bounded _ _ h.old_ne with
  | nil => simp [onePass, written]
  | found entry hentry word text hbound ih =>
    rw [onePass_found h hentry hbound, ← ih]
    by_cases hmem : entry ∈ first
    · -- the second pass goes over what the first one has written
      rw [onePass_found hfirst hmem hbound, written_fst, onePass_apart (h.new_ne entry hentry)
        (fun other hother => (hnew other hother entry hmem).1), h.ends entry hentry]
      simp [written, Nat.add_assoc]
    · -- the first pass goes over what it leaves to the second one
      have hother : entry ∈ second := (mem_append.1 hentry).resolve_left hmem
      have hapart : ∀ other ∈ first, apart other.1 entry.1 := fun other ho =>
        h.olds other (mem_append_left _ ho) entry hentry fun heq => hmem (heq ▸ ho)
      rw [onePass_apart (h.old_ne entry hentry) hapart, written_fst, onePass_found hsecond hother]
      · simp [written, Nat.add_left_comm]
      · rwa [isBound, startsWord_onePass hfirst]
  | kept word c text hnot ih =>
    -- what the second pass could find here would stand in the text before the first pass too
    have hnot' : ∀ entry ∈ second,
        ¬standsAt bounded entry.1 word (c :: (onePass bounded first (isWord c) text).1) := by
      intro entry hentry hstands
      obtain ⟨after, htext, hbound⟩ := standsAt_iff.1 hstands
      obtain ⟨after', htext', hstarts⟩ | ⟨other, hother, before, rest, text', hpiece, hrest, -, hafter⟩ :=
        exists_of_onePass hfirst (cons_ne_nil c []) _ text htext
      · rw [isBound, hstarts] at hbound
        exact hnot entry (mem_append_right _ hentry) (standsAt_iff.2 ⟨after', htext', hbound⟩)
      · have hapart := (hnew entry hentry other hother).2
        rw [hpiece] at hapart
        exact not_prefix_of_apart (apart_of_append hapart) hrest (prefix_append rest after) ⟨_, hafter.symm⟩
    rw [onePass_kept hnot, ← ih, onePass_kept fun entry hentry => hnot entry (mem_append_left _ hentry),
      written_fst, singleton_append, onePass_kept hnot']
    simp [written]

omit h in
/-- Where a pass has left no old piece of a second one, that one finds nothing. -/
theorem onePass_idle (h : Regular table) (hsub : second ⊆ table)
    (hnew : ∀ entry ∈ second, ∀ other ∈ table, Separate entry.1 other.2) (word : Bool) (text : List Char) :
    onePass bounded second word (onePass bounded table word text).1 = ((onePass bounded table word text).1, 0) := by
  have hmem : ∀ entry, entry ∈ table ++ second ↔ entry ∈ table := by simpa using fun _ _ hentry => hsub hentry
  have htwice := @onePass_twice bounded _ _ (h.mono fun entry => (hmem entry).1) hnew word text
  rw [onePass_congr h hmem] at htwice
  obtain ⟨htext, hcount⟩ := Prod.mk.inj htwice
  exact Prod.ext htext (Nat.add_eq_left.1 hcount)

end Pass

/-- Neither old piece of two entries gets in the way of the other entry. -/
abbrev Strangers (entry other : List Char × List Char) : Prop :=
  Separate entry.1 other.1 ∧ Separate entry.1 other.2 ∧ Separate other.1 entry.2

instance : Std.Symm Strangers := ⟨fun _ _ h => ⟨h.1.symm, h.2.2, h.2.1⟩⟩

/-- A table in which new pieces are like the old ones at their ends and no entry gets in the way of another one. -/
structure Unmixed (table : Replacements) : Prop where
  alike : ∀ entry ∈ table, entry.1 ≠ [] ∧ entry.2 ≠ [] ∧ startsWord entry.2 = startsWord entry.1 ∧
    startsWord entry.2.reverse = startsWord entry.1.reverse
  strangers : table.Pairwise Strangers

namespace Unmixed

variable {table : Replacements} (h : Unmixed table)

include h

theorem regular : Regular table :=
  ⟨fun entry he => (h.alike entry he).1, fun entry he => (h.alike entry he).2.1,
    fun entry he => (h.alike entry he).2.2.1, fun entry he => (h.alike entry he).2.2.2,
    fun _ he _ ho hne => (h.strangers.forall he ho hne).1.1⟩

theorem nodup : table.Nodup := by
  refine h.strangers.imp_of_mem ?_
  rintro entry other he - hstrangers rfl
  exact not_prefix_of_apart hstrangers.1.1 (h.alike entry he).1 (prefix_refl _) (prefix_refl _)

theorem perm {other : Replacements} (hperm : other.Perm table) : Unmixed other :=
  ⟨fun entry he => h.alike entry (hperm.mem_iff.1 he), (hperm.pairwise_iff (Std.Symm.symm _ _)).2 h.strangers⟩

/-- Old pieces that do not get in their own way are gone after the pass. -/
theorem fresh {part : Replacements} (hpart : part ⊆ table) (hself : ∀ entry ∈ part, Separate entry.1 entry.2) :
    ∀ entry ∈ part, ∀ other ∈ table, Separate entry.1 other.2 := by
  intro entry he other ho
  by_cases heq : entry = other
  · exact heq ▸ hself entry he
  · exact (h.strangers.forall (hpart he) ho heq).2.1

end Unmixed

/-! ## Name by name -/

/-- The names of a table as they are written in a role. -/
def Renaming.replacements (role : NameRole) (table : Renaming) : Replacements :=
  table.map fun entry => (role.template entry.1, role.template entry.2)

/-- All names of a table renamed in a single pass, and their number. Only members are bounded. -/
def Renaming.atOnce (role : NameRole) (table : Renaming) (text : List Char) : List Char × Nat :=
  onePass (role == .member) (table.replacements role) false text

/-- A pattern that matches a piece where it stands, and nothing else. -/
def Pattern.Seeks (p : Pattern) (bounded : Bool) (piece : List Char) : Prop :=
  ∀ before rest pos, p.matchAt ⟨before, rest, pos⟩ =
    if standsAt bounded piece (startsWord before) rest then some ⟨piece, []⟩ else none

theorem Pattern.seeks_chars (piece : List Char) : (chars piece).Seeks false piece := by
  intro before rest pos
  rw [matchAt_chars]
  simp [standsAt, isBound]

theorem Regular.piecesFrom_eq {p : Pattern} {bounded : Bool} {entry : List Char × List Char} (h : Regular [entry])
    (hp : p.Seeks bounded entry.1) (text before : List Char) (pos : Nat) :
    ((p.piecesFrom 0 before pos text).flatMap (Pattern.Piece.replaced entry.2),
      (p.piecesFrom 0 before pos text).countP Pattern.Piece.isHit) =
        onePass bounded [entry] (startsWord before) text := by
  have hentry : entry ∈ [entry] := mem_cons_self
  have hne := h.old_ne entry hentry
  induction hword : startsWord before, text using @atOnceInduction bounded _ _ h.old_ne generalizing before pos with
  | nil word =>
    have hnot : ¬standsAt bounded entry.1 (startsWord before) [] := fun hstands => by
      obtain ⟨after, htext, -⟩ := standsAt_iff.1 hstands
      exact hne (append_eq_nil_iff.1 htext.symm).1
    rw [piecesFrom, hp, if_neg hnot, onePass]
    rfl
  | found other hother word text hbound ih =>
    obtain rfl := mem_singleton.1 hother
    have hmatch := hp before (other.1 ++ text) pos
    rw [if_pos (standsAt_iff.2 ⟨text, rfl, hword ▸ hbound⟩)] at hmatch
    have hends := startsWord_append (mt reverse_eq_nil_iff.1 hne) before
    rw [piecesFrom_hit hne hmatch, onePass_found h hentry hbound, ← ih _ (pos + other.1.length) hends,
      countP_cons_of_pos rfl, written, Nat.add_comm 1]
    rfl
  | kept word c text hnot ih =>
    rw [piecesFrom, hp, hword, if_neg (hnot entry hentry), onePass_kept hnot, ← ih (c :: before) (pos + 1) rfl]
    simp [written, Pattern.Piece.replaced, Pattern.Piece.isHit]

theorem Regular.length_findAll {p : Pattern} {bounded : Bool} {entry : List Char × List Char} (h : Regular [entry])
    (hp : p.Seeks bounded entry.1) (text : List Char) :
    (p.findAll text).length = (onePass bounded [entry] false text).2 := by
  rw [Pattern.length_findAll]
  exact congrArg Prod.snd (h.piecesFrom_eq hp text [] 0)

/-- Names that can be renamed one after the other in any order: their patterns match them and nothing else, and no name
gets in the way of others. -/
structure Renaming.Independent (role : NameRole) (table : Renaming) : Prop where
  seeks : ∀ entry ∈ table, (role.pattern entry.1).Seeks (role == .member) (role.template entry.1)
  plain : ∀ entry ∈ table, '\\' ∉ role.template entry.2
  unmixed : Unmixed (table.replacements role)

namespace Renaming.Independent

variable {role : NameRole} {table other : Renaming}

theorem perm (h : table.Independent role) (hperm : other.Perm table) : other.Independent role :=
  ⟨fun entry he => h.seeks entry (hperm.mem_iff.1 he), fun entry he => h.plain entry (hperm.mem_iff.1 he),
    h.unmixed.perm (hperm.map _)⟩

theorem tail {entry : String × String} (h : Renaming.Independent role (entry :: table)) : table.Independent role :=
  ⟨fun other ho => h.seeks other (mem_cons_of_mem _ ho), fun other ho => h.plain other (mem_cons_of_mem _ ho),
    fun other ho => h.unmixed.alike other (mem_cons_of_mem _ ho), (pairwise_cons.1 h.unmixed.strangers).2⟩

/-- Renaming names one after the other is the single pass. -/
theorem renameAll_eq_atOnce (h : table.Independent role) (text : List Char) :
    renameAll role table text = .ok (table.atOnce role text) := by
  induction table generalizing text with
  | nil =>
    -- a pass without pieces passes over the whole text
    by_cases hempty : text = []
    · rw [hempty, Renaming.atOnce, onePass]
      rfl
    · have hpass := @onePass_apart text (role == .member) [] hempty (by simp) false []
      rw [append_nil, onePass] at hpass
      simp [renameAll, Renaming.atOnce, Renaming.replacements, hpass, written]
  | cons entry table ih =>
    -- one pass for the first name and one for all others, which are put together
    have hmem := mem_cons_self (a := entry) (l := table)
    have hone : Regular [(role.template entry.1, role.template entry.2)] :=
      h.unmixed.regular.mono (by simp [Renaming.replacements])
    have hentry := hone.piecesFrom_eq (h.seeks entry hmem) text [] 0
    have hboth := @onePass_twice (role == .member) [(role.template entry.1, role.template entry.2)]
      (Renaming.replacements role table) h.unmixed.regular (fun other hother first hfirst => by
        obtain rfl := mem_singleton.1 hfirst
        exact ((pairwise_cons.1 h.unmixed.strangers).1 other hother).2.2) false text
    rw [renameAll, rename, substitute_of_not_mem _ (h.plain entry hmem), length_findAll, pieces, hentry]
    simp only [ih h.tail, ok_bind, pure_eq_ok]
    exact congrArg Except.ok hboth

/-- The order in which names are renamed does not matter. -/
theorem renameAll_eq (h : table.Independent role) (hperm : other.Perm table) (text : List Char) :
    renameAll role other text = .ok (table.atOnce role text) := by
  have hmem : ∀ entry, entry ∈ other.replacements role ↔ entry ∈ table.replacements role :=
    fun _ => (hperm.map _).mem_iff
  rw [(h.perm hperm).renameAll_eq_atOnce, Renaming.atOnce, onePass_congr h.unmixed.regular hmem, Renaming.atOnce]

end Renaming.Independent

/-! ## Enumerators -/

theorem independent_opcUaEnumerators : opcUaEnumerators.Independent .piece where
  seeks _ _ := seeks_chars _
  plain entry hentry := (opcUaEnumerators_proper entry hentry).2.1
  unmixed := ⟨by decide +kernel, by decide +kernel⟩

/-- Renaming the enumerators of a text one after the other, in any order, gives the text and the number of the single
pass. No old name is left in it, and doing so again, in any order, finds nothing more to rename. -/
theorem renameAll_enumerators {first second : Renaming} (hfirst : first.Perm opcUaEnumerators)
    (hsecond : second.Perm opcUaEnumerators) (text : List Char) :
    renameAll .piece first text = .ok (opcUaEnumerators.atOnce .piece text) ∧
    (∀ entry ∈ opcUaEnumerators, ¬entry.1.toList <:+: (opcUaEnumerators.atOnce .piece text).1) ∧
    renameAll .piece second (opcUaEnumerators.atOnce .piece text).1 =
      .ok ((opcUaEnumerators.atOnce .piece text).1, 0) := by
  have h := independent_opcUaEnumerators
  have hself : ∀ entry ∈ opcUaEnumerators.replacements .piece, Separate entry.1 entry.2 := by decide +kernel
  have hidle : opcUaEnumerators.atOnce .piece (opcUaEnumerators.atOnce .piece text).1 =
      ((opcUaEnumerators.atOnce .piece text).1, 0) :=
    onePass_idle h.unmixed.regular (List.Subset.refl _) (h.unmixed.fresh (List.Subset.refl _) hself) false text
  refine ⟨h.renameAll_eq hfirst text, fun entry hentry => ?_, ?_⟩
  · exact not_infix_of_onePass h.unmixed.regular (List.mem_map_of_mem hentry) false (congrArg Prod.snd hidle)
  · rw [h.renameAll_eq hsecond, hidle]

/-- Names that run into each other are told apart, and a new name is not taken for an old one. -/
theorem renameAll_enumerators_reversed :
    renameAll .piece opcUaEnumerators.reverse "UAUASecurityPolicy_UAVariantType_UAAttributeId".toList =
      .ok ("UAUASP_BrUaVariantType_UAAttributeID".toList, 3) ∧
    renameAll .piece opcUaEnumerators "UAUASP_BrUaVariantType_UAAttributeID".toList =
      .ok ("UAUASP_BrUaVariantType_UAAttributeID".toList, 0) := by
  have hpass : opcUaEnumerators.atOnce .piece "UAUASecurityPolicy_UAVariantType_UAAttributeId".toList =
      ("UAUASP_BrUaVariantType_UAAttributeID".toList, 3) := by decide +kernel
  have hrename := renameAll_enumerators opcUaEnumerators.reverse_perm (.refl _)
    "UAUASecurityPolicy_UAVariantType_UAAttributeId".toList
  rw [hpass] at hrename
  exact ⟨hrename.1, hrename.2.2⟩

end StudioMigration
