import Phrasebook.Language.Pattern

/-! What patterns of language tags accept. `Pattern.Matches` says it in terms of the words that the
stars stand for; the rows of the table that `Pattern.accepts` computes are described by it
(`Pattern.describes_table`). -/

namespace Phrasebook.Language.Pattern

/-- A star stands for a word of one or more wild characters, every other character for itself. -/
inductive Matches (wild : Char → Bool) : (pattern text : List Char) → Prop where
  | nil : Matches wild [] []
  | literal {mark : Char} {pattern text : List Char} (hmark : mark ≠ '*')
      (h : Matches wild pattern text) : Matches wild (mark :: pattern) (mark :: text)
  | star {word pattern text : List Char} (hword : word ≠ []) (hwild : ∀ c ∈ word, wild c = true)
      (h : Matches wild pattern text) : Matches wild ('*' :: pattern) (word ++ text)

theorem matches_nil_iff {wild : Char → Bool} {text : List Char} :
    Matches wild [] text ↔ text = [] := by
  constructor
  · intro h
    cases h
    rfl
  · rintro rfl
    exact .nil

theorem matches_literal_iff {wild : Char → Bool} {mark : Char} (hmark : mark ≠ '*')
    {pattern text : List Char} :
    Matches wild (mark :: pattern) text ↔ ∃ rest, text = mark :: rest ∧ Matches wild pattern rest := by
  constructor
  · intro h
    cases h with
    | literal _ h => exact ⟨_, rfl, h⟩
    | star => exact absurd rfl hmark
  · rintro ⟨rest, rfl, h⟩
    exact .literal hmark h

theorem matches_star_iff {wild : Char → Bool} {pattern text : List Char} :
    Matches wild ('*' :: pattern) text ↔ ∃ word rest, word ≠ [] ∧ (∀ c ∈ word, wild c = true) ∧
      text = word ++ rest ∧ Matches wild pattern rest := by
  constructor
  · intro h
    cases h with
    | literal hmark => exact absurd rfl hmark
    | star hword hwild h => exact ⟨_, _, hword, hwild, rfl, h⟩
  · rintro ⟨word, rest, hword, hwild, rfl, h⟩
    exact .star hword hwild h

theorem matches_congr {wild wild' : Char → Bool} {pattern text : List Char}
    (hsame : ∀ c ∈ text, wild c = wild' c) (h : Matches wild pattern text) :
    Matches wild' pattern text := by
  induction h with
  | nil => exact .nil
  | literal hmark _ ih => exact .literal hmark (ih fun c hc => hsame c (List.mem_cons_of_mem _ hc))
  | star hword hwild _ ih =>
      refine .star hword ?_ (ih fun c hc => hsame c (List.mem_append_right _ hc))
      intro c hc
      rw [← hsame c (List.mem_append_left _ hc)]
      exact hwild c hc

theorem matches_self {wild : Char → Bool} {pattern : List Char} (h : '*' ∉ pattern) :
    Matches wild pattern pattern := by
  induction pattern with
  | nil => exact .nil
  | cons mark pattern ih =>
      rw [List.mem_cons, not_or] at h
      exact .literal (Ne.symm h.1) (ih h.2)

theorem eq_of_matches {wild : Char → Bool} {pattern text : List Char}
    (h : Matches wild pattern text) (hstar : '*' ∉ pattern) : text = pattern := by
  induction h with
  | nil => rfl
  | literal _ _ ih => rw [ih fun hmem => hstar (List.mem_cons_of_mem _ hmem)]
  | star => exact absurd List.mem_cons_self hstar

/-- A row says of each end of a text, from the longest on, whether it satisfies a predicate. -/
def Describes (P : List Char → Prop) : (text : List Char) → (row : List Bool) → Prop
  | [], row => ∃ last, row = [last] ∧ (last = true ↔ P [])
  | c :: text, row =>
    ∃ first rest, row = first :: rest ∧ (first = true ↔ P (c :: text)) ∧ Describes P text rest

namespace Describes

variable {P Q : List Char → Prop} {text : List Char} {row : List Bool}

theorem headD (h : Describes P text row) : row.headD false = true ↔ P text := by
  cases text with
  | nil =>
      obtain ⟨last, rfl, hlast⟩ := h
      exact hlast
  | cons c text =>
      obtain ⟨first, rest, rfl, hfirst, -⟩ := h
      exact hfirst

theorem congr (hsame : ∀ text, P text ↔ Q text) (h : Describes P text row) :
    Describes Q text row := by
  induction text generalizing row with
  | nil =>
      obtain ⟨last, rfl, hlast⟩ := h
      exact ⟨last, rfl, hlast.trans (hsame [])⟩
  | cons c text ih =>
      obtain ⟨first, rest, rfl, hfirst, hrest⟩ := h
      exact ⟨first, rest, rfl, hfirst.trans (hsame _), ih hrest⟩

theorem literalRow (mark : Char) (h : Describes P text row) :
    Describes (fun text => ∃ rest, text = mark :: rest ∧ P rest) text
      (Pattern.literalRow mark text row) := by
  induction text generalizing row with
  | nil => exact ⟨false, by simp [Pattern.literalRow], by simp⟩
  | cons c text ih =>
      obtain ⟨first, rest, rfl, -, hrest⟩ := h
      refine ⟨_, _, rfl, ?_, ih hrest⟩
      rw [Bool.and_eq_true, beq_iff_eq, hrest.headD]
      constructor
      · rintro ⟨rfl, hP⟩
        exact ⟨text, rfl, hP⟩
      · rintro ⟨tail, htail, hP⟩
        obtain ⟨rfl, rfl⟩ := List.cons.inj htail
        exact ⟨rfl, hP⟩

theorem starRow (h : Describes P text row) :
    Describes (fun text => ∃ word rest, word ≠ [] ∧ (∀ c ∈ word, isWild c = true) ∧
      text = word ++ rest ∧ P rest) text (Pattern.starRow text row) := by
  induction text generalizing row with
  | nil =>
      refine ⟨false, by simp [Pattern.starRow], ?_⟩
      simp only [Bool.false_eq_true, false_iff, not_exists, not_and]
      intro word rest hword _ htext
      exact absurd (List.append_eq_nil_iff.1 htext.symm).1 hword
  | cons c text ih =>
      obtain ⟨first, rest, rfl, -, hrest⟩ := h
      refine ⟨_, _, rfl, ?_, ih hrest⟩
      rw [Bool.and_eq_true, Bool.or_eq_true, hrest.headD, (ih hrest).headD]
      constructor
      · rintro ⟨hc, hP | ⟨word, tail, -, hwild, rfl, hP⟩⟩
        · exact ⟨[c], text, by simp, by simpa using hc, rfl, hP⟩
        · exact ⟨c :: word, tail, by simp, List.forall_mem_cons.2 ⟨hc, hwild⟩, rfl, hP⟩
      · rintro ⟨word, tail, hword, hwild, htext, hP⟩
        cases word with
        | nil => exact absurd rfl hword
        | cons d word =>
            obtain ⟨rfl, rfl⟩ := List.cons.inj htext
            obtain ⟨hc, hwild⟩ := List.forall_mem_cons.1 hwild
            refine ⟨hc, ?_⟩
            cases word with
            | nil => exact .inl hP
            | cons e word => exact .inr ⟨e :: word, tail, by simp, hwild, rfl, hP⟩

end Describes

theorem describes_table_nil (text : List Char) :
    Describes (Matches isWild []) text (table text []) := by
  induction text with
  | nil => exact ⟨true, rfl, by simpa using Matches.nil⟩
  | cons c text ih => exact ⟨false, table text [], rfl, by simp [matches_nil_iff], ih⟩

theorem describes_table (text pattern : List Char) :
    Describes (Matches isWild pattern) text (table text pattern) := by
  induction pattern with
  | nil => exact describes_table_nil text
  | cons mark pattern ih =>
      by_cases hstar : mark = '*'
      · rw [table, if_pos hstar, hstar]
        exact ih.starRow.congr fun text => matches_star_iff.symm
      · rw [table, if_neg hstar]
        exact (ih.literalRow mark).congr fun text => (matches_literal_iff hstar).symm

theorem accepts_iff {pattern text : List Char} :
    accepts pattern text = true ↔ Matches isWild pattern text :=
  (describes_table text pattern).headD

end Phrasebook.Language.Pattern
