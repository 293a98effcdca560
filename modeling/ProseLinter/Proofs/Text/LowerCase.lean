import Mathlib.Data.List.Basic
import ProseLinter.Format

/-!
# Lower case is lower case

Lower-casing puts a letter where no letter is moved again. That holds of the shifts two by two:
where one puts code points, another moves none, because they lie apart or go by steps that never
meet. So a text in lower case stays as it is.
-/

namespace ProseLinter

namespace CharShift

def land (rule : CharShift) (number : Nat) : Nat := (number + rule.shift).toNat

/-- The step in which a shift puts code points; one that moves a single code point goes nowhere from
there. -/
def step (rule : CharShift) : Nat := if rule.first = rule.last then 0 else rule.stride

/-- Whether a shift puts code points where another moves none, judged by the ends and the steps of
the two. -/
def avoids (rule other : CharShift) : Bool :=
  Nat.blt (rule.land rule.last) other.first || Nat.blt other.last (rule.land rule.first) ||
    (Nat.ble other.first (rule.land rule.first) && rule.step % other.stride == 0 &&
      (rule.land rule.first - other.first) % other.stride != 0)

def lands (rule : CharShift) : Bool :=
  decide (0 ≤ rule.first + rule.shift) &&
    (Nat.blt (rule.land rule.last) 0xD800 ||
      (Nat.blt 0xDFFF (rule.land rule.first) && Nat.blt (rule.land rule.last) 0x110000))

section Landing

variable {rule other : CharShift} {c d : Char}

theorem moves_iff : rule.moves c = true ↔
    rule.first ≤ c.toNat ∧ c.toNat ≤ rule.last ∧ (c.toNat - rule.first) % rule.stride = 0 := by
  simp [moves, and_assoc]

theorem land_add (lands : rule.lands = true) (distance : Nat) :
    rule.land (rule.first + distance) = rule.land rule.first + distance := by
  have above : 0 ≤ rule.first + rule.shift := of_decide_eq_true (Bool.and_eq_true_iff.1 lands).1
  unfold land
  omega

theorem land_of_moved (lands : rule.lands = true) (moved : rule.moves c = true) :
    ∃ count, rule.land c.toNat = rule.land rule.first + rule.step * count ∧
      rule.land c.toNat ≤ rule.land rule.last := by
  obtain ⟨above, below, whole⟩ := moves_iff.1 moved
  obtain ⟨distance, place⟩ := Nat.exists_eq_add_of_le above
  obtain ⟨length, last⟩ := Nat.exists_eq_add_of_le (Nat.le_trans above below)
  rw [place, Nat.add_sub_cancel_left] at whole
  obtain ⟨count, rfl⟩ := Nat.dvd_of_mod_eq_zero whole
  have ends := land_add lands length
  rw [← last] at ends
  have landed := land_add lands (rule.stride * count)
  rw [← place] at landed
  refine ⟨count, ?_, by omega⟩
  rw [landed]
  rw [step]
  split
  next single =>
    rw [Nat.zero_mul]
    omega
  next => rfl

theorem valid_of_lands (lands : rule.lands = true) (moved : rule.moves c = true) :
    (rule.land c.toNat).isValidChar := by
  obtain ⟨count, place, within⟩ := land_of_moved lands moved
  have bounds := (Bool.and_eq_true_iff.1 lands).2
  simp only [Bool.or_eq_true, Bool.and_eq_true, Nat.blt_eq] at bounds
  unfold Nat.isValidChar
  omega

theorem not_moved_of_avoids (lands : rule.lands = true) (avoids : rule.avoids other = true)
    (moved : rule.moves c = true) (landed : d.toNat = rule.land c.toNat) :
    other.moves d = false := by
  obtain ⟨count, place, within⟩ := land_of_moved lands moved
  rw [Bool.eq_false_iff]
  intro again
  obtain ⟨above, below, whole⟩ := moves_iff.1 again
  simp only [CharShift.avoids, Bool.or_eq_true, Bool.and_eq_true, Nat.blt_eq, Nat.ble_eq,
    beq_iff_eq, bne_iff_ne] at avoids
  rcases avoids with (before | behind) | ⟨⟨inside, steps⟩, missed⟩
  · omega
  · omega
  · -- The two go by steps of which one is a multiple of the other, so they meet nowhere if not at
    -- the first landing.
    obtain ⟨times, same⟩ := Nat.dvd_of_mod_eq_zero steps
    apply missed
    have reached : d.toNat - other.first =
        rule.land rule.first - other.first + other.stride * (times * count) := by
      rw [landed, place, same, ← Nat.mul_assoc]
      omega
    rw [reached, Nat.add_mul_mod_self_left] at whole
    exact whole

end Landing

end CharShift

/-! ## Letters that stay -/

def Settled (c : Char) : Prop := ∀ rule ∈ lowerShifts, rule.moves c = false

instance : DecidablePred Settled :=
  fun c => inferInstanceAs (Decidable (∀ rule ∈ lowerShifts, rule.moves c = false))

theorem shifts_avoid_each_other :
    (lowerShifts.all fun rule => rule.lands && lowerShifts.all rule.avoids) = true := by
  decide +kernel

theorem shifts_of_capitals :
    (lowerShifts.all fun rule => Nat.ble 128 rule.first ||
      (rule.first == 65 && rule.last == 90)) = true := by
  decide +kernel

section Settling

variable {c d : Char}

theorem toNat_ofNat {number : Nat} (valid : number.isValidChar) :
    (Char.ofNat number).toNat = number := by
  rw [Char.ofNat, dif_pos valid]
  rfl

theorem Settled.not_capital (settled : Settled c) : c.toNat < 65 ∨ 90 < c.toNat := by
  have unmoved := settled ⟨65, 90, 1, 32⟩ List.mem_cons_self
  by_contra capital
  rw [Bool.eq_false_iff, ne_eq, CharShift.moves_iff] at unmoved
  simp only [Nat.mod_one, and_true, not_and] at unmoved
  omega

theorem settled_of_small (small : c.toNat < 128) (other : c.toNat < 65 ∨ 90 < c.toNat) :
    Settled c := by
  intro rule member
  have range := List.all_eq_true.1 shifts_of_capitals rule member
  simp only [Bool.or_eq_true, Bool.and_eq_true, Nat.ble_eq, beq_iff_eq] at range
  rw [Bool.eq_false_iff]
  intro moved
  obtain ⟨above, below, -⟩ := CharShift.moves_iff.1 moved
  omega

theorem toNat_toLower (c : Char) :
    c.toLower.toNat = if 65 ≤ c.toNat ∧ c.toNat ≤ 90 then c.toNat + 32 else c.toNat := by
  have capital : (c.val ≥ 'A'.val ∧ c.val ≤ 'Z'.val) ↔ 65 ≤ c.toNat ∧ c.toNat ≤ 90 := Iff.rfl
  unfold Char.toLower
  split
  next inside =>
    rw [if_pos (capital.1 inside)]
    have below := (capital.1 inside).2
    change (c.val + 32).toNat = _
    rw [UInt32.toNat_add]
    change (c.toNat + 32) % _ = _
    omega
  next outside => rw [if_neg (mt capital.2 outside)]

theorem Settled.lowerChar_eq (settled : Settled c) : lowerChar c = c := by
  unfold lowerChar
  split
  · have same : c.toLower.toNat = c.toNat := by
      rw [toNat_toLower, if_neg (by have := settled.not_capital; omega)]
    rw [← Char.ofNat_toNat c.toLower, same, Char.ofNat_toNat]
  · have none : lowerShifts.find? (·.moves c) = none := by
      rw [List.find?_eq_none]
      exact fun rule member => Bool.eq_false_iff.1 (settled rule member)
    rw [CharShift.apply, none]

theorem settled_lowerChar (c : Char) : Settled (lowerChar c) := by
  unfold lowerChar
  split
  next small =>
    have place := toNat_toLower c
    apply settled_of_small
    · split at place <;> omega
    · split at place <;> omega
  next =>
    cases found : lowerShifts.find? (·.moves c) with
    | none =>
        rw [CharShift.apply, found]
        intro rule member
        simpa using List.find?_eq_none.1 found rule member
    | some rule =>
        rw [CharShift.apply, found]
        intro other member
        have moved := List.find?_some found
        obtain ⟨lands, avoids⟩ := Bool.and_eq_true_iff.1
          (List.all_eq_true.1 shifts_avoid_each_other rule (List.mem_of_find?_eq_some found))
        exact CharShift.not_moved_of_avoids lands (List.all_eq_true.1 avoids other member) moved
          (toNat_ofNat (CharShift.valid_of_lands lands moved))

end Settling

/-! ## Texts in lower case -/

theorem settled_lowerAfter (before text : Text) : ∀ c ∈ Text.lowerAfter before text, Settled c := by
  induction text generalizing before with
  | nil => exact fun c member => absurd member List.not_mem_nil
  | cons first rest induction =>
      have final : Settled 'ς' ∧ Settled 'σ' ∧ Settled 'i' ∧ Settled (Char.ofNat 0x307) := by
        decide +kernel
      rw [Text.lowerAfter, List.forall_mem_append]
      refine ⟨?_, induction (first :: before)⟩
      split
      · split
        · exact List.forall_mem_singleton.2 final.1
        · exact List.forall_mem_singleton.2 final.2.1
      · split
        · exact List.forall_mem_cons.2 ⟨final.2.2.1, List.forall_mem_singleton.2 final.2.2.2⟩
        · exact List.forall_mem_singleton.2 (settled_lowerChar first)

/-- A text of settled code points is in lower case already; the two letters with rules of their own
are not settled. -/
theorem lowerAfter_of_settled {text : Text} (settled : ∀ c ∈ text, Settled c) (before : Text) :
    Text.lowerAfter before text = text := by
  induction text generalizing before with
  | nil => rfl
  | cons first rest induction =>
      obtain ⟨own, others⟩ := List.forall_mem_cons.1 settled
      have special : first ≠ 'Σ' ∧ first ≠ 'İ' := by
        constructor
        · rintro rfl
          exact absurd own (by decide +kernel)
        · rintro rfl
          exact absurd own (by decide +kernel)
      rw [Text.lowerAfter, if_neg (by simpa using special.1), if_neg (by simpa using special.2),
        own.lowerChar_eq, induction others, List.singleton_append]

theorem lowerCase_lowerCase (name : String) : lowerCase (lowerCase name) = lowerCase name := by
  unfold lowerCase Text.lower
  rw [String.toList_ofList, lowerAfter_of_settled (settled_lowerAfter [] name.toList)]

end ProseLinter
