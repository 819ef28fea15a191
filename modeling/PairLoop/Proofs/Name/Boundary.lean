import PairLoop.Proofs.Name.Lowered

/-!
Where a name in capitalised words gets its underscores. The two passes look for matches from left to
right, and none begins in the one before it. A boundary that the first pass misses, because the
code point in front of it belongs to the word just matched, stands behind a small letter, and there
the second pass finds it. So a boundary is told by the two code points at it and the next one.
-/

namespace PairLoop.Name

/-- What a pattern takes from the beginning of a text: its first and its second group, and the
rest. -/
abbrev Pattern := List Char → Option (List Char × List Char × List Char)

/-- A code point, line feed excepted, and behind it a capital with all small letters that follow it,
of which there is one at least. -/
def wordPattern : Pattern
  | char :: next :: rest =>
    if char != '\n' && isCapital next && beginsSmall rest then
      some ([char], next :: rest.takeWhile isSmall, rest.dropWhile isSmall)
    else none
  | _ => none

/-- A small letter or digit, and behind it a capital. -/
def capitalPattern : Pattern
  | char :: next :: rest =>
    if (isSmall char || char.isDigit) && isCapital next then some ([char], [next], rest) else none
  | _ => none

/-- Sets an underscore between the groups of a pattern wherever it matches. The matches are sought
from the left, and each next one behind the last. -/
inductive Separates (pattern : Pattern) : List Char → List Char → Prop
  | done : Separates pattern [] []
  | keep {char : Char} {rest marked : List Char} (unmatched : pattern (char :: rest) = none)
      (behind : Separates pattern rest marked) : Separates pattern (char :: rest) (char :: marked)
  | split {text first second rest marked : List Char}
      (matched : pattern text = some (first, second, rest))
      (behind : Separates pattern rest marked) :
      Separates pattern text (first ++ '_' :: second ++ marked)

/-- Whether a name has a boundary between two code points, the second of which stands in front of
the rest. -/
def isBoundary (before next : Char) (rest : List Char) : Bool :=
  isCapital next && (isSmall before || before.isDigit || before != '\n' && beginsSmall rest)

/-- Sets an underscore at every boundary. -/
def markBoundaries : List Char → List Char
  | [] => []
  | [char] => [char]
  | char :: next :: rest =>
    if isBoundary char next rest then char :: '_' :: markBoundaries (next :: rest)
    else char :: markBoundaries (next :: rest)

theorem not_capital_of_small (char : Char) (small : isSmall char = true) :
    isCapital char = false := by
  have letter := of_decide_eq_true (Bool.and_eq_true_iff.1 small).1
  apply decide_eq_false
  intro within
  have above : 'a'.toNat ≤ char.toNat := UInt32.le_iff_toNat_le.1 letter
  have below : char.toNat ≤ 'Z'.toNat := UInt32.le_iff_toNat_le.1 within.2
  exact absurd (Nat.le_trans above below) (by decide)

theorem mark_words_small (char : Char) (rest : List Char) (small : isSmall char = true) :
    markWords true (char :: rest) = char :: markWords true rest := by
  rw [markWords.eq_def]
  exact if_pos small

theorem mark_words_match (inWord : Bool) (char next : Char) (tail : List Char)
    (outside : ¬ (inWord && isSmall char) = true)
    (word : (char != '\n' && isCapital next && beginsSmall tail) = true) :
    markWords inWord (char :: next :: tail) = char :: '_' :: next :: markWords true tail := by
  rw [markWords, if_neg outside]
  exact if_pos word

theorem mark_words_pass (inWord : Bool) (char next : Char) (tail : List Char)
    (outside : ¬ (inWord && isSmall char) = true)
    (noWord : ¬ (char != '\n' && isCapital next && beginsSmall tail) = true) :
    markWords inWord (char :: next :: tail) = char :: markWords false (next :: tail) := by
  rw [markWords, if_neg outside]
  exact if_neg noWord

theorem mark_words_keeps_head (inWord : Bool) (char : Char) (rest : List Char) :
    ∃ marked, markWords inWord (char :: rest) = char :: marked := by
  rw [markWords.eq_def]
  dsimp only
  split
  · exact ⟨_, rfl⟩
  · split
    · exact ⟨_, rfl⟩
    · split
      · exact ⟨_, rfl⟩
      · exact ⟨_, rfl⟩

/-- Where the first pass leaves two code points together, the second one decides. -/
theorem mark_capitals_of_kept (inWord : Bool) (char : Char) (rest : List Char)
    (later : markCapitals (markWords inWord rest) = markBoundaries rest)
    (decided : ∀ next tail, rest = next :: tail →
      isBoundary char next tail = ((isSmall char || char.isDigit) && isCapital next)) :
    markCapitals (char :: markWords inWord rest) = markBoundaries (char :: rest) := by
  cases rest with
  | nil => rfl
  | cons next tail =>
    obtain ⟨marked, kept⟩ := mark_words_keeps_head inWord next tail
    rw [kept] at later ⊢
    rw [markCapitals, markBoundaries, decided next tail rfl, later]

/-- Behind the underscore of a match come a capital and a small letter, so the second pass has
nothing to do there. -/
theorem mark_capitals_of_match (char next : Char) (tail : List Char)
    (word : (char != '\n' && isCapital next && beginsSmall tail) = true)
    (later : markCapitals (markWords true tail) = markBoundaries tail) :
    markCapitals (char :: '_' :: next :: markWords true tail) =
      markBoundaries (char :: next :: tail) := by
  simp only [Bool.and_eq_true] at word
  obtain ⟨⟨notLineFeed, capital⟩, small⟩ := word
  have inside : markCapitals (next :: markWords true tail) = markBoundaries (next :: tail) := by
    apply mark_capitals_of_kept true next tail later
    intro letter rest same
    rw [same] at small
    rw [isBoundary, not_capital_of_small letter small, Bool.false_and, Bool.and_false]
  have boundary : isBoundary char next tail = true := by
    rw [isBoundary, capital, notLineFeed, small, Bool.true_and, Bool.true_and, Bool.or_true]
  have underscore : isCapital '_' = false ∧ (isSmall '_' || '_'.isDigit) = false := by decide
  rw [markCapitals, underscore.1, Bool.and_false, if_neg Bool.false_ne_true, markCapitals,
    underscore.2, Bool.false_and, if_neg Bool.false_ne_true, inside, markBoundaries,
    if_pos boundary]

/-- The two passes set the underscores that the boundaries tell, also from the middle of a word
on. -/
theorem mark_capitals_mark_words (inWord : Bool) (text : List Char) :
    markCapitals (markWords inWord text) = markBoundaries text := by
  induction inWord, text using markWords.induct with
  | case1 => rfl
  | case2 inWord char rest inside induction =>
    obtain ⟨rfl, small⟩ := Bool.and_eq_true_iff.1 inside
    rw [mark_words_small char rest small]
    apply mark_capitals_of_kept true char rest induction
    intro next tail _
    rw [isBoundary, small, Bool.true_or, Bool.true_or, Bool.and_comm]
  | case3 inWord char outside =>
    rw [markWords, if_neg outside]
    rfl
  | case4 inWord char outside next tail word induction =>
    rw [mark_words_match inWord char next tail outside word]
    exact mark_capitals_of_match char next tail word induction
  | case5 inWord char outside next tail noWord induction =>
    rw [mark_words_pass inWord char next tail outside noWord]
    apply mark_capitals_of_kept false char (next :: tail) induction
    intro _ _ same
    obtain ⟨rfl, rfl⟩ := List.cons.inj same
    rw [Bool.and_assoc, Bool.and_left_comm, Bool.and_eq_true] at noWord
    rw [isBoundary]
    cases capital : isCapital next with
    | false => rw [Bool.false_and, Bool.and_false]
    | true =>
      have noLetter := Bool.eq_false_iff.2 fun letter => noWord ⟨capital, letter⟩
      rw [noLetter, Bool.or_false, Bool.true_and, Bool.and_true]

/-- In a word the small letters are read over, and then the pass goes on as outside of words. -/
theorem mark_words_in_word (text : List Char) :
    markWords true text = text.takeWhile isSmall ++ markWords false (text.dropWhile isSmall) := by
  induction text with
  | nil => rfl
  | cons char rest induction =>
    cases small : isSmall char with
    | true =>
      rw [mark_words_small char rest small, induction, List.takeWhile_cons_of_pos small,
        List.dropWhile_cons_of_pos small, List.cons_append]
    | false =>
      rw [List.takeWhile_cons_of_neg (by rw [small]; exact Bool.false_ne_true),
        List.dropWhile_cons_of_neg (by rw [small]; exact Bool.false_ne_true), List.nil_append,
        markWords.eq_def, markWords.eq_def]
      simp only [small, Bool.and_false]

theorem mark_words_of_unmatched (char : Char) (rest : List Char)
    (unmatched : wordPattern (char :: rest) = none) :
    markWords false (char :: rest) = char :: markWords false rest := by
  cases rest with
  | nil => rfl
  | cons next tail =>
    apply mark_words_pass false char next tail Bool.false_ne_true
    intro word
    rw [wordPattern, if_pos word] at unmatched
    cases unmatched

theorem mark_words_of_matched (text first second rest : List Char)
    (matched : wordPattern text = some (first, second, rest)) :
    markWords false text = first ++ '_' :: second ++ markWords false rest ∧
      rest.length < text.length := by
  unfold wordPattern at matched
  split at matched
  · next char next tail =>
    split at matched
    · next word =>
      cases matched
      rw [mark_words_match false char next tail Bool.false_ne_true word, mark_words_in_word]
      refine ⟨rfl, ?_⟩
      have behind : tail.dropWhile isSmall <:+ tail := List.dropWhile_suffix isSmall
      have shorter := behind.length_le
      rw [List.length_cons, List.length_cons]
      omega
    · cases matched
  · cases matched

theorem mark_capitals_of_unmatched (char : Char) (rest : List Char)
    (unmatched : capitalPattern (char :: rest) = none) :
    markCapitals (char :: rest) = char :: markCapitals rest := by
  cases rest with
  | nil => rfl
  | cons next tail =>
    rw [markCapitals]
    apply if_neg
    intro capital
    rw [capitalPattern, if_pos capital] at unmatched
    cases unmatched

/-- A capital is no small letter and no digit, so no match of the second pass begins at it. -/
theorem capital_pattern_of_capital (char : Char) (rest : List Char)
    (capital : isCapital char = true) : capitalPattern (char :: rest) = none := by
  have neither : (isSmall char || char.isDigit) = false := by
    rw [Bool.eq_false_iff]
    intro either
    rcases Bool.or_eq_true_iff.1 either with small | digit
    · exact Bool.false_ne_true ((not_capital_of_small char small).symm.trans capital)
    · exact Bool.false_ne_true ((Unicode.not_upper_of_digit char digit).symm.trans capital)
  cases rest with
  | nil => rfl
  | cons next tail => rw [capitalPattern, neither, Bool.false_and, if_neg Bool.false_ne_true]

theorem mark_capitals_of_matched (text first second rest : List Char)
    (matched : capitalPattern text = some (first, second, rest)) :
    markCapitals text = first ++ '_' :: second ++ markCapitals rest ∧
      rest.length < text.length := by
  unfold capitalPattern at matched
  split at matched
  · next char next tail =>
    split at matched
    · next capital =>
      cases matched
      have unmatched := capital_pattern_of_capital next rest (Bool.and_eq_true_iff.1 capital).2
      rw [markCapitals, if_pos capital, mark_capitals_of_unmatched next rest unmatched]
      refine ⟨rfl, ?_⟩
      rw [List.length_cons, List.length_cons]
      omega
    · cases matched
  · cases matched

/-- A function that keeps what is unmatched and splits what is matched tells how a pattern
separates a text. -/
theorem separates_iff (pattern : Pattern) (mark : List Char → List Char) (nothing : mark [] = [])
    (keeps : ∀ char rest, pattern (char :: rest) = none → mark (char :: rest) = char :: mark rest)
    (splits : ∀ text first second rest, pattern text = some (first, second, rest) →
      mark text = first ++ '_' :: second ++ mark rest ∧ rest.length < text.length)
    (text marked : List Char) : Separates pattern text marked ↔ marked = mark text := by
  constructor
  · intro separates
    induction separates with
    | done => exact nothing.symm
    | keep unmatched _ induction => rw [keeps _ _ unmatched, induction]
    | split matched _ induction => rw [(splits _ _ _ _ matched).1, induction]
  · rintro rfl
    induction size : text.length using Nat.strongRecOn generalizing text with
    | ind size induction =>
      subst size
      cases matched : pattern text with
      | some found =>
        obtain ⟨first, second, rest⟩ := found
        obtain ⟨same, shorter⟩ := splits text first second rest matched
        rw [same]
        exact .split matched (induction _ shorter rest rfl)
      | none =>
        cases text with
        | nil =>
          rw [nothing]
          exact .done
        | cons char rest =>
          rw [keeps char rest matched]
          exact .keep matched (induction _ (Nat.lt_succ_self _) rest rfl)

theorem separates_words_iff (text marked : List Char) :
    Separates wordPattern text marked ↔ marked = markWords false text :=
  separates_iff wordPattern (markWords false) rfl mark_words_of_unmatched mark_words_of_matched
    text marked

theorem separates_capitals_iff (text marked : List Char) :
    Separates capitalPattern text marked ↔ marked = markCapitals text :=
  separates_iff capitalPattern markCapitals rfl mark_capitals_of_unmatched
    mark_capitals_of_matched text marked

/-- A name gets an underscore at each of its boundaries and is then lowered as a whole. These are
the underscores that come from separating first the capitalised words and then the capitals. -/
theorem underscored_at_boundaries (name : String) :
    underscored name = String.ofList (Unicode.lower (markBoundaries name.toList)) ∧
    ∀ marked, marked = markBoundaries name.toList ↔
      ∃ words, Separates wordPattern name.toList words ∧ Separates capitalPattern words marked := by
  constructor
  · rw [underscored, mark_capitals_mark_words]
  · intro marked
    simp only [separates_words_iff, separates_capitals_iff, exists_eq_left,
      mark_capitals_mark_words]

/-- The first pass misses the boundary behind the word "Aa", and a line feed begins no word. -/
example : underscored "AaBbHTTPServer2D\nXy" = "aa_bb_http_server2_d\nxy" := by
  decide +kernel

end PairLoop.Name
