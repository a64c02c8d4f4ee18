import Phrasebook.Proofs.Letters
import Phrasebook.Proofs.Wildcard
import Mathlib.Computability.RegularExpressions

/-! The texts that a pattern accepts, told in two ways. One cuts the pattern at its stars and puts a
word between each two of the parts (`IsFilled`). The other puts between them the regular expression
of a word (`expression`). Both can be read along the pattern, character by character, and so they say
the same as `Matches` and hence as the table of the pattern (`accepts_exactly`). -/

namespace Phrasebook.Language.Pattern

/-- One or more ASCII letters of lower case or digits. -/
def IsWord (word : List Char) : Prop :=
  word ≠ [] ∧ ∀ c ∈ word, ('a' ≤ c ∧ c ≤ 'z') ∨ ('0' ≤ c ∧ c ≤ '9')

theorem isWild_iff {c : Char} :
    isWild c = true ↔ ('a' ≤ c ∧ c ≤ 'z') ∨ ('0' ≤ c ∧ c ≤ '9') := by
  rw [isWild, Bool.or_eq_true, Bool.and_eq_true, decide_eq_true_eq, decide_eq_true_eq, or_comm]
  show _ ∨ (decide _ && decide _) = true ↔ _
  rw [Bool.and_eq_true, decide_eq_true_eq, decide_eq_true_eq]
  rfl

theorem isWord_iff {word : List Char} :
    IsWord word ↔ word ≠ [] ∧ ∀ c ∈ word, isWild c = true := by
  simp only [IsWord, isWild_iff]

/-! ### Words between the parts -/

/-- The text is made of the parts of the pattern between its stars, with a word for each star. -/
def IsFilled (pattern text : List Char) : Prop :=
  ∃ first rest words, pattern.splitOn '*' = first :: rest ∧ words.length = rest.length ∧
    (∀ word ∈ words, IsWord word) ∧ text = first ++ (List.zipWith (· ++ ·) words rest).flatten

theorem splitOn_star (pattern : List Char) :
    ('*' :: pattern).splitOn '*' = [] :: pattern.splitOn '*' := by
  rw [List.splitOn_cons_eq_if_modifyHead, if_pos (beq_self_eq_true '*')]

theorem splitOn_literal {mark : Char} (hmark : mark ≠ '*') (pattern : List Char) :
    (mark :: pattern).splitOn '*' = (pattern.splitOn '*').modifyHead (mark :: ·) := by
  rw [List.splitOn_cons_eq_if_modifyHead, if_neg fun h => hmark (eq_of_beq h)]

theorem isFilled_nil_iff {text : List Char} : IsFilled [] text ↔ text = [] := by
  constructor
  · rintro ⟨first, rest, words, hsplit, hlength, -, rfl⟩
    obtain ⟨rfl, rfl⟩ := List.cons.inj hsplit
    rw [List.length_eq_zero_iff.1 hlength]
    rfl
  · rintro rfl
    exact ⟨[], [], [], rfl, rfl, by simp, rfl⟩

theorem isFilled_literal_iff {mark : Char} (hmark : mark ≠ '*') {pattern text : List Char} :
    IsFilled (mark :: pattern) text ↔ ∃ rest, text = mark :: rest ∧ IsFilled pattern rest := by
  obtain ⟨first, parts, hparts⟩ := List.exists_cons_of_ne_nil (List.splitOn_ne_nil '*' pattern)
  have hsplit : (mark :: pattern).splitOn '*' = (mark :: first) :: parts := by
    rw [splitOn_literal hmark, hparts, List.modifyHead_cons]
  simp only [IsFilled, hsplit, hparts, List.cons.injEq]
  -- The first part takes the character in front; words and other parts stay.
  constructor
  · rintro ⟨_, _, words, ⟨rfl, rfl⟩, hlength, hwords, rfl⟩
    exact ⟨_, rfl, first, parts, words, ⟨rfl, rfl⟩, hlength, hwords, rfl⟩
  · rintro ⟨_, rfl, _, _, words, ⟨rfl, rfl⟩, hlength, hwords, rfl⟩
    exact ⟨_, _, words, ⟨rfl, rfl⟩, hlength, hwords, rfl⟩

theorem isFilled_star_iff {pattern text : List Char} :
    IsFilled ('*' :: pattern) text ↔
      ∃ word rest, IsWord word ∧ text = word ++ rest ∧ IsFilled pattern rest := by
  obtain ⟨first, parts, hparts⟩ := List.exists_cons_of_ne_nil (List.splitOn_ne_nil '*' pattern)
  simp only [IsFilled, splitOn_star, hparts, List.cons.injEq]
  constructor
  · rintro ⟨_, _, words, ⟨rfl, rfl⟩, hlength, hwords, rfl⟩
    obtain ⟨word, words, rfl⟩ := List.exists_cons_of_length_eq_add_one hlength
    obtain ⟨hword, hwords⟩ := List.forall_mem_cons.1 hwords
    refine ⟨word, _, hword, ?_, first, parts, words, ⟨rfl, rfl⟩, Nat.succ.inj hlength, hwords, rfl⟩
    rw [List.nil_append, List.zipWith_cons_cons, List.flatten_cons, List.append_assoc]
  · rintro ⟨word, _, hword, rfl, _, _, words, ⟨rfl, rfl⟩, hlength, hwords, rfl⟩
    refine ⟨_, _, word :: words, ⟨rfl, rfl⟩, congrArg Nat.succ hlength,
      List.forall_mem_cons.2 ⟨hword, hwords⟩, ?_⟩
    rw [List.nil_append, List.zipWith_cons_cons, List.flatten_cons, List.append_assoc]

theorem matches_iff_isFilled {pattern text : List Char} :
    Matches isWild pattern text ↔ IsFilled pattern text := by
  induction pattern generalizing text with
  | nil => rw [matches_nil_iff, isFilled_nil_iff]
  | cons mark pattern ih =>
      by_cases hmark : mark = '*'
      · subst hmark
        simp only [matches_star_iff, isFilled_star_iff, isWord_iff, ih, and_assoc]
      · simp only [matches_literal_iff hmark, isFilled_literal_iff hmark, ih]

/-! ### The regular expression -/

open RegularExpression

/-- Any of the characters that a word is made of. -/
def letterOrDigit : RegularExpression Char :=
  ((List.range' 0x61 26 ++ List.range' 0x30 10).map fun n => char (Char.ofNat n)).sum

def word : RegularExpression Char :=
  letterOrDigit * star letterOrDigit

/-- Every character stands for itself. -/
def literal (part : List Char) : RegularExpression Char :=
  (part.map char).prod

/-- The parts of the pattern between its stars, joined by words. -/
def expression (pattern : List Char) : RegularExpression Char :=
  (((pattern.splitOn '*').map literal).intersperse word).prod

theorem mem_sum_char {codes : List Nat} {text : List Char} :
    text ∈ (codes.map fun n => char (Char.ofNat n)).sum.matches' ↔
      ∃ n ∈ codes, text = [Char.ofNat n] := by
  induction codes with
  | nil => simp
  | cons n codes ih =>
      rw [List.map_cons, List.sum_cons, matches'_add, Language.mem_add, ih, matches'_char,
        List.exists_mem_cons_iff]
      rfl

theorem mem_letterOrDigit {text : List Char} :
    text ∈ letterOrDigit.matches' ↔ ∃ c, isWild c = true ∧ text = [c] := by
  have hwild : ∀ n ∈ List.range' 0x61 26 ++ List.range' 0x30 10, isWild (Char.ofNat n) = true := by
    decide
  rw [letterOrDigit, mem_sum_char]
  constructor
  · rintro ⟨n, hn, rfl⟩
    exact ⟨_, hwild n hn, rfl⟩
  · rintro ⟨c, hc, rfl⟩
    refine ⟨c.toNat, ?_, by rw [Char.ofNat_toNat]⟩
    rw [List.mem_append, List.mem_range'_1, List.mem_range'_1]
    rcases isWild_iff.1 hc with ⟨hlower, hupper⟩ | ⟨hlower, hupper⟩
    · have hlower : 0x61 ≤ c.toNat := hlower
      have hupper : c.toNat ≤ 0x7A := hupper
      omega
    · have hlower : 0x30 ≤ c.toNat := hlower
      have hupper : c.toNat ≤ 0x39 := hupper
      omega

theorem mem_kstar_letterOrDigit {text : List Char} :
    text ∈ KStar.kstar letterOrDigit.matches' ↔ ∀ c ∈ text, isWild c = true := by
  rw [Language.mem_kstar]
  constructor
  · rintro ⟨letters, rfl, hletters⟩ c hc
    obtain ⟨letter, hletter, hmem⟩ := List.mem_flatten.1 hc
    obtain ⟨d, hd, rfl⟩ := mem_letterOrDigit.1 (hletters letter hletter)
    rwa [List.mem_singleton.1 hmem]
  · intro hwild
    refine ⟨text.map fun c => [c], ?_, ?_⟩
    · rw [← List.flatMap_def, List.flatMap_singleton']
    · intro letter hletter
      obtain ⟨c, hc, rfl⟩ := List.mem_map.1 hletter
      exact mem_letterOrDigit.2 ⟨c, hwild c hc, rfl⟩

theorem mem_word {text : List Char} : text ∈ word.matches' ↔ IsWord text := by
  rw [word, matches'_mul, matches'_star, Language.mem_mul, isWord_iff]
  simp only [mem_letterOrDigit, mem_kstar_letterOrDigit]
  constructor
  · rintro ⟨_, ⟨c, hc, rfl⟩, rest, hrest, rfl⟩
    exact ⟨by simp, List.forall_mem_cons.2 ⟨hc, hrest⟩⟩
  · rintro ⟨hne, hwild⟩
    obtain ⟨c, rest, rfl⟩ := List.exists_cons_of_ne_nil hne
    obtain ⟨hc, hrest⟩ := List.forall_mem_cons.1 hwild
    exact ⟨[c], ⟨c, hc, rfl⟩, rest, hrest, rfl⟩

section

variable (first second : RegularExpression Char) (parts : List (RegularExpression Char))

/-- What the first part begins with comes first of all. -/
theorem matches'_joined_mul :
    ((first * second :: parts).intersperse word).prod.matches' =
      first.matches' * ((second :: parts).intersperse word).prod.matches' := by
  cases parts with
  | nil => simp [List.intersperse]
  | cons third parts => simp [List.intersperse, mul_assoc]

theorem matches'_joined_one :
    ((1 :: second :: parts).intersperse word).prod.matches' =
      word.matches' * ((second :: parts).intersperse word).prod.matches' := by
  simp [List.intersperse]

end

theorem mem_expression_nil {text : List Char} : text ∈ (expression []).matches' ↔ text = [] := by
  rw [expression, List.splitOn_nil]
  simp [literal]

theorem mem_expression_literal {mark : Char} (hmark : mark ≠ '*') {pattern text : List Char} :
    text ∈ (expression (mark :: pattern)).matches' ↔
      ∃ rest, text = mark :: rest ∧ rest ∈ (expression pattern).matches' := by
  obtain ⟨first, parts, hparts⟩ := List.exists_cons_of_ne_nil (List.splitOn_ne_nil '*' pattern)
  have hlanguage : (expression (mark :: pattern)).matches' =
      {[mark]} * (expression pattern).matches' := by
    rw [expression, splitOn_literal hmark, expression, hparts]
    exact matches'_joined_mul (char mark) (literal first) (parts.map literal)
  rw [hlanguage, Language.mem_mul]
  constructor
  · rintro ⟨_, rfl, rest, hrest, rfl⟩
    exact ⟨rest, rfl, hrest⟩
  · rintro ⟨rest, rfl, hrest⟩
    exact ⟨[mark], rfl, rest, hrest, rfl⟩

theorem mem_expression_star {pattern text : List Char} :
    text ∈ (expression ('*' :: pattern)).matches' ↔
      ∃ word rest, IsWord word ∧ text = word ++ rest ∧ rest ∈ (expression pattern).matches' := by
  obtain ⟨first, parts, hparts⟩ := List.exists_cons_of_ne_nil (List.splitOn_ne_nil '*' pattern)
  have hlanguage : (expression ('*' :: pattern)).matches' =
      word.matches' * (expression pattern).matches' := by
    rw [expression, splitOn_star, expression, hparts]
    exact matches'_joined_one (literal first) (parts.map literal)
  rw [hlanguage, Language.mem_mul]
  constructor
  · rintro ⟨front, hfront, rest, hrest, rfl⟩
    exact ⟨front, rest, mem_word.1 hfront, rfl, hrest⟩
  · rintro ⟨front, rest, hfront, rfl, hrest⟩
    exact ⟨front, mem_word.2 hfront, rest, hrest, rfl⟩

theorem matches_iff_mem_expression {pattern text : List Char} :
    Matches isWild pattern text ↔ text ∈ (expression pattern).matches' := by
  induction pattern generalizing text with
  | nil => rw [matches_nil_iff, mem_expression_nil]
  | cons mark pattern ih =>
      by_cases hmark : mark = '*'
      · subst hmark
        simp only [matches_star_iff, mem_expression_star, isWord_iff, ih, and_assoc]
      · simp only [matches_literal_iff hmark, mem_expression_literal hmark, ih]

/-- A pattern accepts the texts that its regular expression matches as a whole, and these are the
ones made of its parts with a word for each star. Without stars it accepts itself alone. -/
theorem accepts_exactly (pattern text : List Char) :
    (accepts pattern text = true ↔ text ∈ (expression pattern).matches') ∧
    (accepts pattern text = true ↔ IsFilled pattern text) ∧
    ('*' ∉ pattern → (accepts pattern text = true ↔ text = pattern)) := by
  refine ⟨?_, ?_, fun hstar => ?_⟩
  · rw [accepts_iff, matches_iff_mem_expression]
  · rw [accepts_iff, matches_iff_isFilled]
  · rw [accepts_iff]
    constructor
    · intro h
      exact eq_of_matches h hstar
    · rintro rfl
      exact matches_self hstar

/-- A dot matches itself only, and the first of two stars stops where the second one still can. -/
theorem accepts_exactly_metacharacters :
    '*' ∉ "e.n".toList ∧
      (accepts "e.n".toList "exn".toList = true ↔ "exn".toList = "e.n".toList) ∧
      "aaba-x".toList ∈ (expression "*a*-x".toList).matches' :=
  ⟨by decide, (accepts_exactly _ _).2.2 (by decide), (accepts_exactly _ _).1.1 (by decide)⟩

end Phrasebook.Language.Pattern
