import ProseLinter.Text.Utf8

/-!
# Texts as bytes and back

Reading the bytes of a text gives the text back: the bytes of a code point are read as that code
point, whatever follows.
-/

namespace ProseLinter.Utf8

section

variable {a b c d : UInt8} {rest : List UInt8}

theorem not_below {bound : Nat} (low : bound ≤ a.toNat) (within : b.toNat ≤ bound) : ¬a < b := by
  rw [UInt8.lt_iff_toNat_lt]
  exact Nat.not_lt.mpr (Nat.le_trans within low)

theorem continuation_of_bounds (low : 0x80 ≤ b.toNat) (high : b.toNat < 0xC0) :
    isContinuation b = true := by
  simp only [isContinuation, Bool.and_eq_true, decide_eq_true_eq, UInt8.le_iff_toNat_le,
    UInt8.lt_iff_toNat_lt]
  exact ⟨low, high⟩

theorem second_of_bounds (continues : isContinuation b = true)
    (not_long : a.toNat = 0xE0 → 0xA0 ≤ b.toNat) (no_surrogate : a.toNat = 0xED → b.toNat < 0xA0)
    (not_longer : a.toNat = 0xF0 → 0x90 ≤ b.toNat) (not_beyond : a.toNat = 0xF4 → b.toNat < 0x90) :
    isSecond a b = true := by
  simp [isSecond, continues, ← UInt8.toNat_inj, UInt8.le_iff_toNat_le, UInt8.lt_iff_toNat_lt]
  omega

/-! ## One code point by the number of its bytes -/

theorem first_of_one (high : a.toNat < 0x80) : first a rest = .ok (Char.ofNat a.toNat, rest) := by
  have one : a < 0x80 := UInt8.lt_iff_toNat_lt.mpr high
  simp [first, one]

theorem first_of_two (low : 0xC2 ≤ a.toNat) (high : a.toNat < 0xE0)
    (second : isContinuation b = true) :
    first a (b :: rest) = .ok (Char.ofNat (extend (a.toNat % 32) b), rest) := by
  have not_one : ¬a < 0x80 := not_below low (by decide)
  have not_less : ¬a < 0xC2 := not_below low (by decide)
  have two : a < 0xE0 := UInt8.lt_iff_toNat_lt.mpr high
  simp [first, not_one, not_less, two, second]

theorem first_of_three (low : 0xE0 ≤ a.toNat) (high : a.toNat < 0xF0) (second : isSecond a b = true)
    (third : isContinuation c = true) :
    first a (b :: c :: rest) = .ok (Char.ofNat (extend (extend (a.toNat % 16) b) c), rest) := by
  have not_one : ¬a < 0x80 := not_below low (by decide)
  have not_less : ¬a < 0xC2 := not_below low (by decide)
  have not_two : ¬a < 0xE0 := not_below low (by decide)
  have three : a < 0xF0 := UInt8.lt_iff_toNat_lt.mpr high
  simp [first, not_one, not_less, not_two, three, second, third]

theorem first_of_four (low : 0xF0 ≤ a.toNat) (high : a.toNat < 0xF5) (second : isSecond a b = true)
    (third : isContinuation c = true) (fourth : isContinuation d = true) :
    first a (b :: c :: d :: rest) =
      .ok (Char.ofNat (extend (extend (extend (a.toNat % 8) b) c) d), rest) := by
  have not_one : ¬a < 0x80 := not_below low (by decide)
  have not_less : ¬a < 0xC2 := not_below low (by decide)
  have not_two : ¬a < 0xE0 := not_below low (by decide)
  have not_three : ¬a < 0xF0 := not_below low (by decide)
  have four : a < 0xF5 := UInt8.lt_iff_toNat_lt.mpr high
  simp [first, not_one, not_less, not_two, not_three, four, second, third, fourth]

end

theorem toNat_byte {n : Nat} (small : n < 256) : (UInt8.ofNat n).toNat = n := by
  rw [UInt8.toNat_ofNat']
  exact Nat.mod_eq_of_lt small

theorem code_valid (c : Char) : c.toNat < 0xD800 ∨ 0xDFFF < c.toNat ∧ c.toNat < 0x110000 := c.valid

theorem toNat_tail (n : Nat) : (UInt8.ofNat (n % 64 + 128)).toNat = n % 64 + 128 :=
  toNat_byte (by omega)

theorem tail_continues (n : Nat) : isContinuation (UInt8.ofNat (n % 64 + 128)) = true := by
  apply continuation_of_bounds
  · rw [toNat_tail]
    omega
  · rw [toNat_tail]
    omega

theorem extend_tail (bits n : Nat) :
    extend bits (UInt8.ofNat (n % 64 + 128)) = bits * 64 + n % 64 := by
  rw [extend, toNat_tail]
  omega

theorem first_of_code (c : Char) (rest : List UInt8) :
    ∃ lead tail, String.utf8EncodeChar c = lead :: tail ∧
      first lead (tail ++ rest) = .ok (c, rest) := by
  have valid := code_valid c
  have reads {lead : UInt8} {bytes : List UInt8} {code : Nat}
      (came : first lead bytes = .ok (Char.ofNat code, rest))
      (same : code = c.toNat) : first lead bytes = .ok (c, rest) := by
    rwa [same, Char.ofNat_toNat] at came
  unfold String.utf8EncodeChar
  dsimp only
  rw [show c.val.toNat = c.toNat from rfl]
  split
  next one =>
    have lead : (UInt8.ofNat c.toNat).toNat = c.toNat := toNat_byte (by omega)
    exact ⟨_, _, rfl, reads (first_of_one (by omega)) lead⟩
  split
  next two =>
    have lead : (UInt8.ofNat (c.toNat / 64 % 32 + 192)).toNat = c.toNat / 64 % 32 + 192 :=
      toNat_byte (by omega)
    refine ⟨_, _, rfl, reads (first_of_two (by omega) (by omega) (tail_continues _)) ?_⟩
    rw [extend_tail, lead]
    omega
  split
  next three =>
    have lead : (UInt8.ofNat (c.toNat / 4096 % 16 + 224)).toNat = c.toNat / 4096 % 16 + 224 :=
      toNat_byte (by omega)
    have second := toNat_tail (c.toNat / 64)
    have allowed : isSecond (UInt8.ofNat (c.toNat / 4096 % 16 + 224))
        (UInt8.ofNat (c.toNat / 64 % 64 + 128)) = true :=
      second_of_bounds (tail_continues _) (by omega) (by omega) (by omega) (by omega)
    refine ⟨_, _, rfl, reads (first_of_three (by omega) (by omega) allowed (tail_continues _)) ?_⟩
    rw [extend_tail, extend_tail, lead]
    omega
  next four =>
    have lead : (UInt8.ofNat (c.toNat / 262144 % 8 + 240)).toNat = c.toNat / 262144 % 8 + 240 :=
      toNat_byte (by omega)
    have second := toNat_tail (c.toNat / 4096)
    have allowed : isSecond (UInt8.ofNat (c.toNat / 262144 % 8 + 240))
        (UInt8.ofNat (c.toNat / 4096 % 64 + 128)) = true :=
      second_of_bounds (tail_continues _) (by omega) (by omega) (by omega) (by omega)
    refine ⟨_, _, rfl,
      reads (first_of_four (by omega) (by omega) allowed (tail_continues _) (tail_continues _)) ?_⟩
    rw [extend_tail, extend_tail, extend_tail, lead]
    omega

theorem decode_encode (text : Text) : decode (encode text) = .ok text := by
  have from_anywhere (offset : Nat) : decodeFrom offset (encode text) = .ok text := by
    induction text generalizing offset with
    | nil => rw [encode, List.flatMap_nil, decodeFrom]
    | cons c rest induction =>
        obtain ⟨lead, tail, spelt, read⟩ := first_of_code c (encode rest)
        rw [encode, List.flatMap_cons, spelt, List.cons_append, decodeFrom]
        split
        next failed =>
          rw [← encode, read] at failed
          cases failed
        next came =>
          rw [← encode, read] at came
          cases came
          rw [induction]
  exact from_anywhere 0

end ProseLinter.Utf8
