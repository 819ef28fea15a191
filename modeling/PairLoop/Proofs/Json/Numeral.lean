import Mathlib.Data.List.DropRight
import PairLoop.Json.Number
import PairLoop.Json.Reader

/-!
The numerals that JSON documents are written with are numbers of JSON: there is a digit in front of
the point, no zero leads further digits, and an exponent has a digit. For doubles this rests on the
first significant digit, which is never a zero. A double has no numeral exactly if it is not finite.
-/

namespace PairLoop

namespace Decimal

/-- Digits that begin with another one than zero. -/
def LeadsNonzero (digits : List Digit) : Prop := ∃ first rest, digits = first :: rest ∧ first ≠ .zero

theorem digits_of_leads_nonzero (number : Nat) (positive : 0 < number) :
    LeadsNonzero (digitsOf number) := by
  induction number using Nat.strongRecOn with
  | ind number induction =>
    unfold digitsOf
    split
    · next small =>
      refine ⟨Fin.ofNat 10 number, [], rfl, ?_⟩
      intro same
      have value : number % 10 = 0 := congrArg Fin.val same
      omega
    · next large =>
      obtain ⟨first, rest, begins, nonzero⟩ := induction (number / 10) (by omega) (by omega)
      rw [begins]
      exact ⟨first, _, List.cons_append, nonzero⟩

/-- Zeros are dropped at the end only, and not beyond a digit of another kind. -/
theorem without_end_zeros_leads_nonzero (digits : List Digit) (leads : LeadsNonzero digits) :
    LeadsNonzero (withoutEndZeros digits) := by
  obtain ⟨first, rest, rfl, nonzero⟩ := leads
  obtain ⟨dropped, split⟩ : withoutEndZeros (first :: rest) <+: first :: rest :=
    @List.rdropWhile_prefix _ (fun digit => digit == Digit.zero) (first :: rest)
  cases kept : withoutEndZeros (first :: rest) with
  | nil =>
    have zeros := List.rdropWhile_eq_nil_iff.1 kept first List.mem_cons_self
    exact absurd (beq_iff_eq.1 zeros) nonzero
  | cons head tail =>
    rw [kept, List.cons_append] at split
    exact ⟨head, tail, rfl, (List.cons.inj split).1 ▸ nonzero⟩

theorem common_units_pos (exponent grid : Int) : 0 < (commonUnits exponent grid).1 :=
  Nat.mul_pos (Nat.pow_pos (by decide)) (Nat.pow_pos (by decide))

/-- Zero lies outside of the band of a positive double. -/
theorem holds_zero (band : Band) (binary : Nat) (positive : 0 < band.low) (unit : 0 < binary) :
    band.holds binary 0 = false := by
  have above : 0 < band.low * binary := Nat.mul_pos positive unit
  unfold Band.holds
  split
  · rw [decide_eq_false (by omega), Bool.false_and]
  · rw [decide_eq_false (by omega), Bool.false_and]

theorem holds_of_nearest (band : Band) (tie : Tie) (grid : Int) (count : Nat)
    (found : band.nearest? tie grid = some count) :
    band.holds (commonUnits band.exponent grid).1
      (count * (commonUnits band.exponent grid).2) = true := by
  unfold Band.nearest? at found
  dsimp only at found
  split at found
  · next below above =>
    split at found
    · exact Option.some.inj found ▸ below
    · split at found
      · exact Option.some.inj found ▸ above
      · split at found
        · exact Option.some.inj found ▸ above
        · split at found
          · exact Option.some.inj found ▸ below
          · exact Option.some.inj found ▸ above
  · next below _ => exact Option.some.inj found ▸ below
  · next _ above => exact Option.some.inj found ▸ above
  · cases found

theorem nearest_pos (band : Band) (tie : Tie) (grid : Int) (positive : 0 < band.low)
    (count : Nat) (found : band.nearest? tie grid = some count) : 0 < count := by
  have inside := holds_of_nearest band tie grid count found
  apply Nat.pos_of_ne_zero
  intro zero
  rw [zero, Nat.zero_mul, holds_zero band _ positive (common_units_pos ..)] at inside
  cases inside

/-- The significant digits of a positive double. The second case stands for a band without a decimal
of seventeen digits. -/
theorem shortest_digits (band : Band) (tie : Tie) (positive : 0 < band.low) :
    LeadsNonzero (band.shortest tie).digits ∨ band.shortest tie = ⟨[], 1⟩ := by
  unfold Band.shortest
  dsimp only
  split
  · next count grid found =>
    left
    obtain ⟨_, _, hit⟩ := List.exists_of_findSome?_eq_some found
    obtain ⟨nearest, near, same⟩ := Option.map_eq_some_iff.1 hit
    obtain ⟨rfl, _⟩ := Prod.mk.inj same
    apply without_end_zeros_leads_nonzero
    exact digits_of_leads_nonzero nearest (nearest_pos band tie _ positive nearest near)
  · right
    have zero : digitsOf 0 = [.zero] := by
      unfold digitsOf
      rfl
    rw [Significant.ofGrid, zero]
    rfl

theorem low_pos_of_bits (bits : Nat) (positive : 0 < bits) : 0 < (Band.ofBits bits).low := by
  have significand : 0 < (if bits / Nat.pow 2 52 = 0 then bits % Nat.pow 2 52
      else bits % Nat.pow 2 52 + Nat.pow 2 52) := by
    split
    · next small =>
      have whole := Nat.div_add_mod bits (Nat.pow 2 52)
      rw [small, Nat.mul_zero, Nat.zero_add] at whole
      rw [whole]
      exact positive
    · exact Nat.lt_of_lt_of_le (by decide) (Nat.le_add_left _ _)
  unfold Band.ofBits
  dsimp only
  generalize (if bits / Nat.pow 2 52 = 0 then bits % Nat.pow 2 52
      else bits % Nat.pow 2 52 + Nat.pow 2 52) = number at significand ⊢
  split
  · omega
  · omega

end Decimal

namespace Json

open Decimal

/-- A number of JSON. There is a digit in front of the point, none of several is a leading zero, and
an exponent has a digit. -/
structure Admits (numeral : Numeral) : Prop where
  whole : isWhole numeral.whole = true
  written : ∀ part, numeral.exponent = some part → part.digits ≠ []

theorem is_whole_of_leads_nonzero (digits : List Digit) (leads : LeadsNonzero digits) :
    isWhole digits = true := by
  obtain ⟨first, rest, rfl, nonzero⟩ := leads
  cases rest with
  | nil => rfl
  | cons second others => exact bne_iff_ne.2 nonzero

theorem admits_int (number : Int) : Admits (.ofInt number) := by
  constructor
  · change isWhole (digitsOf number.natAbs) = true
    by_cases positive : 0 < number.natAbs
    · exact is_whole_of_leads_nonzero _ (digits_of_leads_nonzero _ positive)
    · rw [Nat.eq_zero_of_not_pos positive]
      unfold digitsOf
      rfl
  · intro part impossible
    cases impossible

theorem admits_positional (negative : Bool) (number : Significant)
    (digits : LeadsNonzero number.digits ∨ number = ⟨[], 1⟩) :
    Admits (positional negative number) := by
  constructor
  · rcases digits with ⟨first, rest, begins, nonzero⟩ | rfl
    · unfold positional
      dsimp only
      cases places : number.point.toNat with
      | zero => rfl
      | succ count =>
        have leading : (-number.point).toNat = 0 := by omega
        rw [leading, begins, List.replicate_zero, List.nil_append, List.cons_append,
          List.take_succ_cons]
        exact is_whole_of_leads_nonzero _ ⟨first, _, rfl, nonzero⟩
    · rfl
  · intro part impossible
    cases impossible

theorem admits_with_exponent (layout : Layout) (negative : Bool) (number : Significant)
    (digits : LeadsNonzero number.digits) : Admits (withExponent layout negative number) := by
  constructor
  · obtain ⟨first, rest, begins, _⟩ := digits
    rw [withExponent, begins]
    rfl
  · intro part written
    cases written
    exact digits_of_ne_nil _

/-- The numeral that JSON has for a double is a number of JSON. -/
theorem admits_real (number : Float) (numeral : Numeral)
    (written : reals.numeral? number = some numeral) : Admits numeral := by
  unfold Layout.numeral? at written
  dsimp only at written
  split at written
  · cases written
  · split at written
    · cases written
      exact ⟨rfl, fun _ impossible => nomatch impossible⟩
    · next positive =>
      have digits := shortest_digits _ reals.tie
        (low_pos_of_bits _ (Nat.pos_of_ne_zero positive))
      split at written
      · cases written
        exact admits_positional _ _ digits
      · next far =>
        cases written
        refine admits_with_exponent _ _ _ (digits.resolve_right ?_)
        intro nothing
        rw [nothing] at far
        exact far (by decide)

/-- The exponent field of a double is full exactly if its bits without the sign are large. -/
theorem exponent_full_iff (bits : BitVec 64) :
    @Float.Model.UnpackedFloat.unpackExponent .binary64 bits = -1#11 ↔
      2047 * Nat.pow 2 52 ≤ bits.toNat % Nat.pow 2 63 := by
  have field : (@Float.Model.UnpackedFloat.unpackExponent .binary64 bits).toNat =
      bits.toNat / Nat.pow 2 52 % Nat.pow 2 11 := by
    unfold Float.Model.UnpackedFloat.unpackExponent
    rw [BitVec.toNat_cast, BitVec.extractLsb_toNat, Nat.shiftRight_eq_div_pow]
    rfl
  have ones : (-1#11).toNat = 2047 := rfl
  rw [← BitVec.toNat_inj, field, ones]
  simp only [Nat.pow_eq, Nat.reducePow]
  omega

theorem unpack_finite_iff (bits : BitVec 64) :
    (Float.Model.UnpackedFloat.unpack .binary64 bits).isFinite = false ↔
      @Float.Model.UnpackedFloat.unpackExponent .binary64 bits = -1#11 := by
  unfold Float.Model.UnpackedFloat.unpack
  dsimp only
  by_cases full : @Float.Model.UnpackedFloat.unpackExponent .binary64 bits = -1#11
  · refine iff_of_true ?_ full
    rw [if_pos full]
    by_cases clear : @Float.Model.UnpackedFloat.unpackMantissa .binary64 bits = 0#52
    · rw [if_pos clear]
      rfl
    · rw [if_neg clear]
      rfl
  · refine iff_of_false ?_ full
    rw [if_neg full, Bool.not_eq_false]
    by_cases subnormal : @Float.Model.UnpackedFloat.unpackExponent .binary64 bits = 0#11
    · rw [if_pos subnormal]
      by_cases clear : @Float.Model.UnpackedFloat.unpackMantissa .binary64 bits = 0#52
      · rw [dif_pos clear]
        rfl
      · rw [dif_neg clear]
        rfl
    · rw [if_neg subnormal]
      rfl

/-- Exactly the doubles that are not finite have no numeral. -/
theorem numeral_eq_none_iff (number : Float) :
    reals.numeral? number = none ↔ number.isFinite = false := by
  have large : number.isFinite = false ↔
      2047 * Nat.pow 2 52 ≤ number.toBits.toNat % Nat.pow 2 63 :=
    (unpack_finite_iff _).trans (exponent_full_iff _)
  rw [large]
  unfold Layout.numeral?
  dsimp only
  split
  · next full => exact iff_of_true rfl full
  · next notFull =>
    refine iff_of_false ?_ notFull
    split
    · exact Option.some_ne_none _
    · split
      · exact Option.some_ne_none _
      · exact Option.some_ne_none _

theorem finite_of_numeral (number : Float) (numeral : Numeral)
    (written : reals.numeral? number = some numeral) : number.isFinite = true := by
  rw [← Bool.not_eq_false, ← numeral_eq_none_iff, written]
  exact Option.some_ne_none numeral

end Json

end PairLoop
