import PairLoop.Name.Underscored

/-!
Lower casing leaves no capital ASCII letter, so a name with underscores has none. A code point
beyond ASCII is never lowered to a capital: what a run is displaced to lies above them all.
-/

namespace PairLoop

namespace Unicode

theorem not_upper_lower_of_ascii (char : Char) (small : isAscii char = true) :
    char.toLower.isUpper = false := by
  have every : ∀ code < 128, (Char.ofNat code).toLower.isUpper = false := by decide
  have lowered := every char.toNat (of_decide_eq_true small)
  rw [Char.ofNat_toNat] at lowered
  exact lowered

theorem not_upper_of_above (char : Char) (above : 'Z'.toNat < char.toNat) :
    char.isUpper = false := by
  apply decide_eq_false
  intro within
  exact Nat.not_le_of_lt above (UInt32.le_iff_toNat_le.1 within.2)

theorem not_upper_of_digit (char : Char) (digit : char.isDigit = true) : char.isUpper = false := by
  rw [Char.isDigit, Bool.and_eq_true, decide_eq_true_iff, decide_eq_true_iff] at digit
  have below : char.toNat ≤ '9'.toNat := UInt32.le_iff_toNat_le.1 digit.2
  apply decide_eq_false
  intro within
  have reached : 'A'.toNat ≤ char.toNat := UInt32.le_iff_toNat_le.1 within.1
  exact absurd (Nat.le_trans reached below) (by decide)

theorem not_upper_of_code (code : Nat) (above : 'Z'.toNat < code) :
    (Char.ofNat code).isUpper = false := by
  by_cases valid : code.isValidChar
  · have number : (Char.ofNat code).toNat = code := by
      rw [Char.ofNat, dif_pos valid]
      rfl
    apply not_upper_of_above
    rw [number]
    exact above
  · rw [Char.ofNat, dif_neg valid]
    rfl

/-- A displacement is smallest at the beginning of its run. -/
theorem lower_runs_above :
    ∀ run ∈ lowerRuns, ('Z'.toNat : Int) < run.first + run.displacement := by
  decide +kernel

theorem not_upper_of_mem_lower_char (char lowered : Char) (member : lowered ∈ lowerChar char) :
    lowered.isUpper = false := by
  unfold lowerChar at member
  split at member
  case isTrue small =>
    rw [List.mem_singleton.1 member]
    exact not_upper_lower_of_ascii char small
  case isFalse large =>
    split at member
    case isTrue dotted =>
      rw [List.mem_cons, List.mem_singleton] at member
      rcases member with same | same
      · rw [same]
        rfl
      · rw [same]
        rfl
    case isFalse =>
      split at member
      case h_1 run found =>
        -- Found by its run, so the code point lies no lower than where the run begins.
        have above := lower_runs_above run (List.mem_of_find?_eq_some found)
        have covered := List.find?_some found
        have reached : run.first ≤ char.toNat := by
          simp only [LowerRun.covers, Bool.and_eq_true, decide_eq_true_eq] at covered
          exact covered.1.1
        rw [List.mem_singleton.1 member]
        apply not_upper_of_code
        omega
      case h_2 =>
        rw [List.mem_singleton.1 member]
        apply not_upper_of_above
        have beyond : ¬ char.toNat < 128 := mt decide_eq_true large
        exact Nat.lt_of_lt_of_le (by decide) (Nat.le_of_not_lt beyond)

theorem not_upper_of_mem_lower_from (before text : List Char) (lowered : Char)
    (member : lowered ∈ lowerFrom before text) : lowered.isUpper = false := by
  induction text generalizing before with
  | nil => exact absurd member List.not_mem_nil
  | cons char rest induction =>
    rw [lowerFrom, List.mem_append] at member
    rcases member with here | behind
    · split at here
      case isTrue sigma =>
        split at here
        case isTrue ending =>
          rw [List.mem_singleton.1 here]
          rfl
        case isFalse =>
          rw [List.mem_singleton.1 here]
          rfl
      case isFalse other => exact not_upper_of_mem_lower_char char lowered here
    · exact induction (char :: before) behind

end Unicode

namespace Name

theorem not_upper_of_mem_underscored (name : String) (char : Char)
    (member : char ∈ (underscored name).toList) : char.isUpper = false := by
  rw [underscored, String.toList_ofList] at member
  exact Unicode.not_upper_of_mem_lower_from [] _ char member

end Name

end PairLoop
