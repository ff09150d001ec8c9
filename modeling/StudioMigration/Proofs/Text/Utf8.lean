import StudioMigration.Text.Utf8

/-!
# Reading back what was written in UTF-8

`decode_encode` says that the strict reader gets every text back from its bytes. It rests on
`front_utf8EncodeChar`, which says so of the first character, with a lemma for each number of bytes.
-/

namespace StudioMigration.Text.Utf8

open UInt8
open UInt8 (ofNat_lt_iff le_ofNat_iff ofNat_le_iff)

variable {n v : Nat} {b : UInt8}

/-! ## Bytes as numbers -/

theorem not_ofNat_lt (h : n < 256) (hb : b.toNat ≤ n) : ¬ofNat n < b := by
  rw [ofNat_lt_iff h]
  exact Nat.not_lt.2 hb

theorem ofNat_eq_iff (h : n < 256) : UInt8.ofNat n = b ↔ n = b.toNat := by
  rw [← UInt8.toNat_inj, UInt8.toNat_ofNat', Nat.mod_eq_of_lt h]

theorem isTail_ofNat (n : Nat) : isTail (ofNat (n % 64 + 0x80)) := by
  have h : n % 64 + 0x80 < 256 := by omega
  simp only [isTail, Bool.and_eq_true, decide_eq_true_eq, le_ofNat_iff h, ofNat_le_iff h]
  exact ⟨Nat.le_add_left _ _, by show n % 64 + 0x80 ≤ 0xBF; omega⟩

theorem tailBits_ofNat (n : Nat) : tailBits (ofNat (n % 64 + 0x80)) = n % 64 := by
  simp only [tailBits, toNat_ofNat']
  omega

/-! ## One character -/

theorem front_one (hhigh : v ≤ 0x7f) (rest : Bytes) : front (ofNat v) rest = .char (Char.ofNat v) 1 := by
  have hv : v < 256 := by omega
  have hfirst : ofNat v < 0x80 := (ofNat_lt_iff hv).2 (Nat.lt_succ_of_le hhigh)
  simp [front, hfirst, Nat.mod_eq_of_lt hv]

theorem front_two (hlow : 0x80 ≤ v) (hhigh : v ≤ 0x7ff) (rest : Bytes) :
    front (ofNat (v / 64 % 0x20 + 0xc0)) (ofNat (v % 0x40 + 0x80) :: rest) = .char (Char.ofNat v) 2 := by
  have hcode : (ofNat (v / 64 % 0x20 + 0xc0)).toNat % 32 * 64 + v % 64 = v := by
    rw [toNat_ofNat']
    omega
  have hbyte : v / 64 % 0x20 + 0xc0 < 256 := by omega
  have hrange : 0xC2 ≤ v / 64 % 0x20 + 0xc0 ∧ v / 64 % 0x20 + 0xc0 < 0xE0 := by omega
  generalize v / 64 % 0x20 + 0xc0 = n at hcode hbyte hrange ⊢
  have hfirst : ¬ofNat n < 0x80 := not_ofNat_lt hbyte (by show 0x80 ≤ n; omega)
  have hstart : ¬ofNat n < 0xC2 := not_ofNat_lt hbyte hrange.1
  have hsize : ofNat n < 0xE0 := (ofNat_lt_iff hbyte).2 hrange.2
  simp only [front, hfirst, hstart, hsize, isTail_ofNat, if_true, if_false, tailBits_ofNat, hcode]

/-- Which second bytes may follow is decided by the first one. -/
theorem secondFits_ofNat {m : Nat} (hn : n < 256) (hE0 : n = 0xE0 → 32 ≤ m % 64) (hED : n = 0xED → m % 64 < 32)
    (hF0 : n = 0xF0 → 16 ≤ m % 64) (hF4 : n = 0xF4 → m % 64 < 16) : secondFits (ofNat n) (ofNat (m % 64 + 0x80)) := by
  have hm : m % 64 + 0x80 < 256 := by omega
  have hwithin : ∀ low high : UInt8, low.toNat ≤ m % 64 + 0x80 → m % 64 + 0x80 ≤ high.toNat →
      (decide (low ≤ ofNat (m % 64 + 0x80)) && decide (ofNat (m % 64 + 0x80) ≤ high)) := by
    intro low high hlow hhigh
    simp only [Bool.and_eq_true, decide_eq_true_eq]
    exact ⟨(le_ofNat_iff hm).2 hlow, (ofNat_le_iff hm).2 hhigh⟩
  unfold secondFits
  simp only [beq_iff_eq, ofNat_eq_iff hn]
  split
  · rename_i h
    have := hE0 h
    exact hwithin _ _ (by show 0xA0 ≤ m % 64 + 0x80; omega) (by show m % 64 + 0x80 ≤ 0xBF; omega)
  · split
    · rename_i h
      have := hED h
      exact hwithin _ _ (by show 0x80 ≤ m % 64 + 0x80; omega) (by show m % 64 + 0x80 ≤ 0x9F; omega)
    · split
      · rename_i h
        have := hF0 h
        exact hwithin _ _ (by show 0x90 ≤ m % 64 + 0x80; omega) (by show m % 64 + 0x80 ≤ 0xBF; omega)
      · split
        · rename_i h
          have := hF4 h
          exact hwithin _ _ (by show 0x80 ≤ m % 64 + 0x80; omega) (by show m % 64 + 0x80 ≤ 0x8F; omega)
        · exact isTail_ofNat m

theorem front_three (hlow : 0x800 ≤ v) (hhigh : v ≤ 0xffff) (hvalid : v < 0xD800 ∨ 0xE000 ≤ v) (rest : Bytes) :
    front (ofNat (v / 4096 % 0x10 + 0xe0))
        (ofNat (v / 64 % 0x40 + 0x80) :: ofNat (v % 0x40 + 0x80) :: rest) =
      .char (Char.ofNat v) 3 := by
  have hcode : (ofNat (v / 4096 % 0x10 + 0xe0)).toNat % 16 * 4096 + v / 64 % 64 * 64 + v % 64 = v := by
    rw [toNat_ofNat']
    omega
  have hbyte : v / 4096 % 0x10 + 0xe0 < 256 := by omega
  have hrange : 0xE0 ≤ v / 4096 % 0x10 + 0xe0 ∧ v / 4096 % 0x10 + 0xe0 < 0xF0 := by omega
  have hsecond := secondFits_ofNat (m := v / 64) hbyte (by omega) (by omega) (by omega) (by omega)
  generalize v / 4096 % 0x10 + 0xe0 = n at hcode hbyte hrange hsecond ⊢
  have hfirst : ¬ofNat n < 0x80 := not_ofNat_lt hbyte (by show 0x80 ≤ n; omega)
  have hstart : ¬ofNat n < 0xC2 := not_ofNat_lt hbyte (by show 0xC2 ≤ n; omega)
  have htwo : ¬ofNat n < 0xE0 := not_ofNat_lt hbyte hrange.1
  have hsize : ofNat n < 0xF0 := (ofNat_lt_iff hbyte).2 hrange.2
  simp only [front, hfirst, hstart, htwo, hsize, hsecond, isTail_ofNat, if_true, if_false,
    Bool.not_true, Bool.false_eq_true, tailBits_ofNat, hcode]

theorem front_four (hlow : 0x10000 ≤ v) (hhigh : v < 0x110000) (rest : Bytes) :
    front (ofNat (v / 262144 % 0x08 + 0xf0))
        (ofNat (v / 4096 % 0x40 + 0x80) :: ofNat (v / 64 % 0x40 + 0x80) :: ofNat (v % 0x40 + 0x80) :: rest) =
      .char (Char.ofNat v) 4 := by
  have hcode : (ofNat (v / 262144 % 0x08 + 0xf0)).toNat % 8 * 262144 + v / 4096 % 64 * 4096 +
      v / 64 % 64 * 64 + v % 64 = v := by
    rw [toNat_ofNat']
    omega
  have hbyte : v / 262144 % 0x08 + 0xf0 < 256 := by omega
  have hrange : 0xF0 ≤ v / 262144 % 0x08 + 0xf0 ∧ v / 262144 % 0x08 + 0xf0 < 0xF5 := by omega
  have hsecond := secondFits_ofNat (m := v / 4096) hbyte (by omega) (by omega) (by omega) (by omega)
  generalize v / 262144 % 0x08 + 0xf0 = n at hcode hbyte hrange hsecond ⊢
  have hfirst : ¬ofNat n < 0x80 := not_ofNat_lt hbyte (by show 0x80 ≤ n; omega)
  have hstart : ¬ofNat n < 0xC2 := not_ofNat_lt hbyte (by show 0xC2 ≤ n; omega)
  have htwo : ¬ofNat n < 0xE0 := not_ofNat_lt hbyte (by show 0xE0 ≤ n; omega)
  have hthree : ¬ofNat n < 0xF0 := not_ofNat_lt hbyte hrange.1
  have hsize : ofNat n < 0xF5 := (ofNat_lt_iff hbyte).2 hrange.2
  simp only [front, hfirst, hstart, htwo, hthree, hsize, hsecond, isTail_ofNat, if_true, if_false,
    Bool.not_true, Bool.false_eq_true, tailBits_ofNat, hcode]

/-- The bytes of a character are read as that character, whatever follows. -/
theorem front_utf8EncodeChar (c : Char) (rest : Bytes) :
    ∃ first more, String.utf8EncodeChar c = first :: more ∧ front first (more ++ rest) = .char c (more.length + 1) := by
  have hvalid := c.valid
  have hofNat : Char.ofNat c.val.toNat = c := Char.ofNat_toNat c
  unfold String.utf8EncodeChar
  simp only [UInt32.isValidChar, Nat.isValidChar] at hvalid ⊢
  generalize c.val.toNat = v at hvalid hofNat
  subst hofNat
  split
  · exact ⟨_, _, rfl, front_one (by omega) rest⟩
  · split
    · exact ⟨_, _, rfl, front_two (by omega) (by omega) rest⟩
    · split
      · exact ⟨_, _, rfl, front_three (by omega) (by omega) (by omega) rest⟩
      · exact ⟨_, _, rfl, front_four (by omega) (by omega) rest⟩

/-! ## Whole texts -/

theorem exists_front_encode (c : Char) (text : List Char) :
    ∃ first more, encode (c :: text) = first :: (more ++ encode text) ∧
      front first (more ++ encode text) = .char c (more.length + 1) := by
  obtain ⟨first, more, hbytes, hfront⟩ := front_utf8EncodeChar c (encode text)
  exact ⟨first, more, by simp [encode, hbytes], hfront⟩

theorem decodeFrom_skip (pos : Nat) (skipped rest : Bytes) :
    decodeFrom pos skipped.length (skipped ++ rest) = decodeFrom (pos + skipped.length) 0 rest := by
  induction skipped generalizing pos with
  | nil => simp
  | cons b skipped ih =>
    rw [List.length_cons, List.cons_append, decodeFrom, ih]
    congr 1
    omega

/-- Strict reading gets every text back from its bytes. -/
theorem decode_encode (text : List Char) : decode (encode text) = .ok text := by
  have hfrom : ∀ pos, decodeFrom pos 0 (encode text) = .ok text := by
    induction text with
    | nil => intro pos; rfl
    | cons c text ih =>
      intro pos
      obtain ⟨first, more, hencode, hfront⟩ := exists_front_encode c text
      rw [hencode, decodeFrom, hfront]
      simp only [Nat.add_sub_cancel, decodeFrom_skip, ih]
      rfl
  exact hfrom 0

theorem decodeLenientFrom_skip (skipped rest : Bytes) :
    decodeLenientFrom skipped.length (skipped ++ rest) = decodeLenientFrom 0 rest := by
  induction skipped with
  | nil => rfl
  | cons b skipped ih => rw [List.length_cons, List.cons_append, decodeLenientFrom, ih]

/-- Lenient reading gets every text back, too. -/
theorem decodeLenient_encode (text : List Char) : decodeLenient (encode text) = text := by
  induction text with
  | nil => rfl
  | cons c text ih =>
    obtain ⟨first, more, hencode, hfront⟩ := exists_front_encode c text
    rw [decodeLenient, hencode, decodeLenientFrom, hfront]
    simp only [Nat.add_sub_cancel, decodeLenientFrom_skip]
    rw [← decodeLenient, ih]

end StudioMigration.Text.Utf8
