import Phrasebook.Proofs.CountText

/-! The texts that are ranges of counts. An integer is spelled by digits after at most one sign
(`Integer.Spells`), a bound by nothing, by a word for infinity or by digits (`Bound.Spells`); a
bound takes no plus sign, and an underscore counts for nothing anywhere. Each reader accepts what
its rule spells, with the value the rule gives it, and nothing else; so the texts of ranges are the
spellings of integers and those of two bounds with dots between them (`parsed_iff_spelled`). -/

namespace Phrasebook

namespace Integer

/-- One or more ASCII digits. -/
def IsNumeral (digits : List Char) : Prop :=
  digits ≠ [] ∧ ∀ c ∈ digits, c.isDigit = true

/-- What digits say in base ten, after a minus sign or without one. -/
def value (negative : Bool) (digits : List Char) : Int :=
  if negative then -Nat.ofDigitChars 10 digits 0 else Nat.ofDigitChars 10 digits 0

/-- Digits after at most one sign. -/
inductive Spells : List Char → Int → Prop where
  | unsigned {digits : List Char} (h : IsNumeral digits) : Spells digits (value false digits)
  | plus {digits : List Char} (h : IsNumeral digits) : Spells ('+' :: digits) (value false digits)
  | minus {digits : List Char} (h : IsNumeral digits) : Spells ('-' :: digits) (value true digits)

theorem natural?_eq_some_iff {s : List Char} {n : Nat} :
    natural? s = some n ↔ IsNumeral s ∧ Nat.ofDigitChars 10 s 0 = n := by
  rw [natural?, IsNumeral, ← List.all_eq_true, ne_eq, ← List.isEmpty_iff]
  cases s.isEmpty <;> cases s.all Char.isDigit <;> simp

theorem ofInt?_eq_some_iff {n : Int} {k : Int64} : ofInt? n = some k ↔ n = k.toInt :=
  ⟨fun h => (toInt_of_ofInt? h).symm, fun h => h ▸ ofInt?_toInt k⟩

theorem read?_signed (negative : Bool) {digits : List Char} (h : IsNumeral digits) :
    read? (if negative then '-' :: digits else digits) =
      ofInt? (value negative digits) := by
  cases negative with
  | true =>
      rw [if_pos rfl, read?, natural?_eq_some_iff.2 ⟨h, rfl⟩, Option.bind_eq_bind,
        Option.bind_some, value, if_pos rfl]
  | false =>
      obtain ⟨c, s, rfl⟩ := List.exists_cons_of_ne_nil h.1
      rw [if_neg Bool.false_ne_true, read?_cons_of_isDigit (h.2 c List.mem_cons_self),
        natural?_eq_some_iff.2 ⟨h, rfl⟩, Option.bind_eq_bind, Option.bind_some, value,
        if_neg Bool.false_ne_true]

/-- The text of an integer is read as the integer it spells, if that fits 64 bits. -/
theorem read?_eq_some_iff {s : List Char} {n : Int64} : read? s = some n ↔ Spells s n.toInt := by
  constructor
  · intro h
    rw [read?.eq_def] at h
    split at h
    all_goals
      obtain ⟨m, hm, hn⟩ := Option.bind_eq_some_iff.1 h
      obtain ⟨hdigits, rfl⟩ := natural?_eq_some_iff.1 hm
      rw [← ofInt?_eq_some_iff.1 hn]
    · exact .plus hdigits
    · exact .minus hdigits
    · exact .unsigned hdigits
  · intro h
    generalize hvalue : n.toInt = value at h
    have hread : ofInt? value = some n := ofInt?_eq_some_iff.2 hvalue.symm
    cases h with
    | unsigned h => exact (read?_signed false h).trans hread
    | minus h => exact (read?_signed true h).trans hread
    | plus h =>
        rw [read?, natural?_eq_some_iff.2 ⟨h, rfl⟩, Option.bind_eq_bind, Option.bind_some]
        exact hread

/-- The characters of integers, and of bounds at infinity. -/
def isBoundChar (c : Char) : Bool :=
  c.isAlpha || c.isDigit || c == '+' || c == '-' || c == '_'

theorem isBoundChar_of_isAlpha {c : Char} (h : c.isAlpha = true) : isBoundChar c = true := by
  simp [isBoundChar, h]

theorem isBoundChar_of_isDigit {c : Char} (h : c.isDigit = true) : isBoundChar c = true := by
  simp [isBoundChar, h]

theorem Spells.isBoundChar {s : List Char} {n : Int} (h : Spells s n) :
    ∀ c ∈ s, isBoundChar c = true := by
  have hdigits : ∀ {digits : List Char}, IsNumeral digits →
      ∀ c ∈ digits, Integer.isBoundChar c = true :=
    fun hnumeral c hc => isBoundChar_of_isDigit (hnumeral.2 c hc)
  cases h with
  | unsigned h => exact hdigits h
  | plus h | minus h => exact List.forall_mem_cons.2 ⟨rfl, hdigits h⟩

end Integer

namespace CountRange

namespace Bound

/-- A text with a minus sign before it, or without one. -/
def signed (negative : Bool) (s : List Char) : List Char :=
  if negative then '-' :: s else s

/-- The bounds as they are spelled; where nothing is written, `unbounded` is meant. -/
inductive Spells (unbounded : Int64) : List Char → Int64 → Prop where
  | absent {s : List Char} (h : ∀ c ∈ s, c = '_') : Spells unbounded s unbounded
  | infinite (negative : Bool) {word : List Char}
      (h : word.map Char.toLower = "infinity".toList) :
      Spells unbounded (signed negative word)
        (if negative then Int64.minValue else Int64.maxValue)
  | finite (negative : Bool) {s : List Char} {count : Int64}
      (hchars : ∀ c ∈ s, c.isDigit = true ∨ c = '_') (hdigit : ∃ c ∈ s, c.isDigit = true)
      (hcount : count.toInt = Integer.value negative (s.filter (· != '_'))) :
      Spells unbounded (signed negative s) count

variable {unbounded count : Int64}

theorem isNumeral_iff {c : Char} : isNumeral c = true ↔ c.isDigit = true ∨ c = '_' := by
  rw [isNumeral, Bool.or_eq_true, beq_iff_eq]

theorem filter_eq_nil_iff {s : List Char} : s.filter (· != '_') = [] ↔ ∀ c ∈ s, c = '_' := by
  rw [List.filter_eq_nil_iff]
  simp

/-- The digits of a text of digits and underscores. -/
theorem isNumeral_filter {s : List Char} (hchars : ∀ c ∈ s, isNumeral c = true)
    (hne : s.filter (· != '_') ≠ []) : Integer.IsNumeral (s.filter (· != '_')) := by
  refine ⟨hne, fun c hc => ?_⟩
  obtain ⟨hmem, hunderscore⟩ := List.mem_filter.1 hc
  exact (isNumeral_iff.1 (hchars c hmem)).resolve_right (bne_iff_ne.1 hunderscore)

theorem count?_finite (negative : Bool) {digits : List Char} (h : Integer.IsNumeral digits) :
    (finite negative digits).count? unbounded = some count ↔
      count.toInt = Integer.value negative digits := by
  rw [count?, Integer.read?_signed negative h, Integer.ofInt?_eq_some_iff, eq_comm]

theorem Spells.isBoundChar {s : List Char} (h : Spells unbounded s count) :
    ∀ c ∈ s, Integer.isBoundChar c = true := by
  have hsigned : ∀ (negative : Bool) {s : List Char}, (∀ c ∈ s, Integer.isBoundChar c = true) →
      ∀ c ∈ signed negative s, Integer.isBoundChar c = true := by
    intro negative s hs
    cases negative with
    | true => exact List.forall_mem_cons.2 ⟨rfl, hs⟩
    | false => exact hs
  cases h with
  | absent h =>
      intro c hc
      rw [h c hc]
      rfl
  | @infinite negative word h =>
      refine hsigned negative fun c hc => ?_
      have hletters : ∀ c ∈ "infinity".toList, c.isAlpha = true := List.all_eq_true.1 (by decide)
      have hlower := List.mem_map_of_mem (f := Char.toLower) hc
      rw [h] at hlower
      exact Integer.isBoundChar_of_isAlpha (Text.isAlpha_of_isAlpha_toLower (hletters _ hlower))
  | finite negative hchars =>
      refine hsigned negative fun c hc => ?_
      rcases hchars c hc with hdigit | rfl
      · exact Integer.isBoundChar_of_isDigit hdigit
      · rfl

theorem Spells.dot_not_mem {s : List Char} (h : Spells unbounded s count) : '.' ∉ s :=
  fun hdot => absurd (h.isBoundChar '.' hdot) (by decide)

theorem signed_append (negative : Bool) (s rest : List Char) :
    signed negative s ++ rest = signed negative (s ++ rest) := by
  cases negative <;> rfl

theorem read?_signed (negative : Bool) {s : List Char} (h : s.head? ≠ some '-') :
    read? (signed negative s) = readUnsigned? negative s := by
  cases negative with
  | true => rfl
  | false =>
      cases s with
      | nil => rfl
      | cons c s =>
          have hc : c ≠ '-' := by simpa using h
          simp [signed, read?, hc]

/-- Before a dot or the end no bound begins with a letter, and only a sign begins with a hyphen. -/
theorem head?_numeral_append {s rest : List Char} (hs : ∀ c ∈ s, isNumeral c = true)
    (hrest : ∀ c ∈ rest.head?, c = '.') :
    (s ++ rest).head? ≠ some '-' ∧ ∀ c ∈ (s ++ rest).head?, c.isAlpha = false := by
  have hhead : ∀ c ∈ (s ++ rest).head?, isNumeral c = true ∨ c = '.' := by
    cases s with
    | nil => exact fun c hc => .inr (hrest c hc)
    | cons d s =>
        rintro c ⟨⟩
        exact .inl (hs d List.mem_cons_self)
  refine ⟨fun hhyphen => absurd (hhead '-' hhyphen) (by decide), fun c hc => ?_⟩
  rcases hhead c hc with hnumeral | rfl
  · rcases isNumeral_iff.1 hnumeral with hdigit | rfl
    · exact Text.isAlpha_eq_false_of_isDigit hdigit
    · rfl
  · rfl

/-- Digits and underscores before a dot or the end are read whole. -/
theorem read?_numeral (negative : Bool) {s rest : List Char} (hs : ∀ c ∈ s, isNumeral c = true)
    (hrest : ∀ c ∈ rest.head?, c = '.') :
    read? (signed negative s ++ rest) =
      if s.filter (· != '_') = [] then (if negative then none else some (absent, rest))
      else some (finite negative (s.filter (· != '_')), rest) := by
  obtain ⟨hhyphen, hletter⟩ := head?_numeral_append hs hrest
  rw [signed_append, read?_signed negative hhyphen]
  apply readUnsigned?_numeral negative (startsInfinite_eq_false hletter) hs
  intro c hc
  rw [hrest c hc]
  rfl

theorem read?_word (negative : Bool) {word : List Char}
    (h : word.map Char.toLower = "infinity".toList) (rest : List Char) :
    read? (signed negative word ++ rest) = some (infinite negative, rest) := by
  have hlength : word.length = 8 := by
    rw [← List.length_map (f := Char.toLower), h]
    rfl
  have hhyphen : (word ++ rest).head? ≠ some '-' := by
    cases word with
    | nil => cases hlength
    | cons c word =>
        rintro ⟨⟩
        exact absurd (List.cons_eq_cons.1 h).1 (by decide)
  have hword : startsInfinite (word ++ rest) = true := by
    rw [startsInfinite, List.take_left' hlength, decide_eq_true_eq, h]
    rfl
  rw [signed_append, read?_signed negative hhyphen, readUnsigned?, if_pos hword,
    List.drop_left' hlength]

/-- A bound that is spelled before a dot or the end is read as the count it is spelled for. -/
theorem Spells.exists_read? {s : List Char} (h : Spells unbounded s count) (rest : List Char)
    (hrest : ∀ c ∈ rest.head?, c = '.') :
    ∃ bound, read? (s ++ rest) = some (bound, rest) ∧
      bound.count? unbounded = some count := by
  cases h with
  | absent h =>
      have hs : ∀ c ∈ s, isNumeral c = true := fun c hc => isNumeral_iff.2 (.inr (h c hc))
      have hread := read?_numeral false hs hrest
      rw [if_pos (filter_eq_nil_iff.2 h)] at hread
      exact ⟨Bound.absent, hread, rfl⟩
  | infinite negative h => exact ⟨_, read?_word negative h rest, rfl⟩
  | @finite negative s count hchars hdigit hcount =>
      have hs : ∀ c ∈ s, isNumeral c = true := fun c hc => isNumeral_iff.2 (hchars c hc)
      have hne : s.filter (· != '_') ≠ [] := by
        obtain ⟨d, hd, hdigit⟩ := hdigit
        intro hnil
        rw [filter_eq_nil_iff.1 hnil d hd] at hdigit
        exact absurd hdigit (by decide)
      have hread := read?_numeral negative hs hrest
      rw [if_neg hne] at hread
      exact ⟨_, hread, (count?_finite negative (isNumeral_filter hs hne)).2 hcount⟩

theorem exists_spells_of_readUnsigned? {negative : Bool} {s rest : List Char} {bound : Bound}
    (h : readUnsigned? negative s = some (bound, rest))
    (hcount : bound.count? unbounded = some count) :
    ∃ side, s = side ++ rest ∧ Spells unbounded (signed negative side) count := by
  rw [readUnsigned?] at h
  split at h
  next hword =>
    obtain ⟨rfl, rfl⟩ := Prod.mk.inj (Option.some.inj h)
    obtain rfl := Option.some.inj hcount
    exact ⟨s.take 8, (List.take_append_drop 8 s).symm,
      .infinite negative (of_decide_eq_true hword)⟩
  next =>
    have hs : ∀ c ∈ s.takeWhile isNumeral, isNumeral c = true :=
      fun c hc => List.mem_takeWhile_imp hc
    simp only [List.isEmpty_iff] at h
    split at h
    next hnil =>
      split at h
      next => cases h
      next hnegative =>
        obtain ⟨rfl, rfl⟩ := Prod.mk.inj (Option.some.inj h)
        obtain rfl := Option.some.inj hcount
        obtain rfl := Bool.eq_false_iff.2 hnegative
        exact ⟨_, List.takeWhile_append_dropWhile.symm, .absent (filter_eq_nil_iff.1 hnil)⟩
    next hne =>
      obtain ⟨rfl, rfl⟩ := Prod.mk.inj (Option.some.inj h)
      have hdigit : ∃ c ∈ s.takeWhile isNumeral, c.isDigit = true := by
        obtain ⟨d, hd⟩ := List.exists_mem_of_ne_nil _ hne
        exact ⟨d, (List.mem_filter.1 hd).1, (isNumeral_filter hs hne).2 d hd⟩
      refine ⟨_, List.takeWhile_append_dropWhile.symm,
        .finite negative (fun c hc => isNumeral_iff.1 (hs c hc)) hdigit ?_⟩
      exact (count?_finite negative (isNumeral_filter hs hne)).1 hcount

/-- What is read as a bound is spelled as one. -/
theorem exists_spells_of_read? {s rest : List Char} {bound : Bound}
    (h : Bound.read? s = some (bound, rest)) (hcount : bound.count? unbounded = some count) :
    ∃ side, s = side ++ rest ∧ Spells unbounded side count := by
  rw [Bound.read?.eq_def] at h
  split at h
  next s =>
    obtain ⟨side, rfl, hside⟩ := exists_spells_of_readUnsigned? h hcount
    exact ⟨'-' :: side, rfl, hside⟩
  next => exact exists_spells_of_readUnsigned? h hcount

end Bound

/-- A text as two bounds with dots between them. -/
structure IsSplit (s left right : List Char) (range : CountRange) : Prop where
  text : s = left ++ '.' :: '.' :: right
  first : Bound.Spells Int64.minValue left range.first
  last : Bound.Spells Int64.maxValue right range.last

variable {s left right left' right' : List Char} {range range' : CountRange}

theorem IsSplit.dot_mem (h : IsSplit s left right range) : '.' ∈ s := by
  simp [h.text]

/-- There are no dots but those between the bounds. -/
theorem IsSplit.unique (h : IsSplit s left right range) (h' : IsSplit s left' right' range') :
    left = left' ∧ right = right' := by
  have hcut := Text.cutAt_append h.first.dot_not_mem ('.' :: right)
  rw [← h.text, h'.text, Text.cutAt_append h'.first.dot_not_mem] at hcut
  obtain ⟨hleft, hright⟩ := Prod.mk.inj (Option.some.inj hcut)
  exact ⟨hleft.symm, (List.cons_eq_cons.1 hright).2.symm⟩

theorem parseBounds?_eq_some_iff :
    parseBounds? s = some range ↔ ∃ left right, IsSplit s left right range := by
  constructor
  · intro h
    rw [parseBounds?] at h
    split at h
    next first rest hfirst =>
      split at h
      next last hlast =>
        obtain ⟨start, hstart, h⟩ := Option.bind_eq_some_iff.1 h
        obtain ⟨stop, hstop, h⟩ := Option.bind_eq_some_iff.1 h
        obtain rfl := Option.some.inj h
        obtain ⟨left, rfl, hleft⟩ := Bound.exists_spells_of_read? hfirst hstart
        obtain ⟨right, rfl, hright⟩ := Bound.exists_spells_of_read? hlast hstop
        rw [List.append_nil]
        exact ⟨left, right, rfl, hleft, hright⟩
      next => cases h
    next => cases h
  · rintro ⟨left, right, rfl, hleft, hright⟩
    obtain ⟨first, hfirst, hstart⟩ := hleft.exists_read? ('.' :: '.' :: right) (by simp)
    obtain ⟨last, hlast, hstop⟩ := hright.exists_read? [] (by simp)
    rw [List.append_nil] at hlast
    simp [parseBounds?, hfirst, hlast, hstart, hstop]

theorem IsSplit.range_eq (h : IsSplit s left right range) (h' : IsSplit s left' right' range') :
    range = range' := by
  have hread := parseBounds?_eq_some_iff.2 ⟨left, right, h⟩
  rw [parseBounds?_eq_some_iff.2 ⟨left', right', h'⟩] at hread
  exact (Option.some.inj hread).symm

/-- No integer has dots. -/
theorem not_isSplit_of_spells {n : Int} (h : Integer.Spells (s.filter (· != '_')) n) :
    ¬IsSplit s left right range :=
  fun hsplit =>
    absurd (h.isBoundChar '.' (List.mem_filter.2 ⟨hsplit.dot_mem, by decide⟩)) (by decide)

theorem parse?_eq_some_iff :
    parse? s = some range ↔
      (∃ count, Integer.Spells (s.filter (· != '_')) count.toInt ∧ range = single count) ∨
        ∃ left right, IsSplit s left right range := by
  rw [parse?]
  cases hread : Integer.read? (s.filter (· != '_')) with
  | none =>
      have hnone : ¬∃ count, Integer.Spells (s.filter (· != '_')) count.toInt ∧
          range = single count := by
        rintro ⟨count, hspells, -⟩
        rw [Integer.read?_eq_some_iff.2 hspells] at hread
        cases hread
      rw [← parseBounds?_eq_some_iff, or_iff_right hnone]
  | some count =>
      have hspells := Integer.read?_eq_some_iff.1 hread
      constructor
      · intro h
        exact .inl ⟨count, hspells, (Option.some.inj h).symm⟩
      · rintro (⟨count', hspells', rfl⟩ | ⟨left, right, hsplit⟩)
        · rw [Integer.read?_eq_some_iff.2 hspells'] at hread
          rw [Option.some.inj hread]
        · exact absurd hsplit (not_isSplit_of_spells hspells)

/-- A range is written with the characters of its bounds and with dots. -/
theorem isBoundChar_of_parse? (h : parse? s = some range) :
    ∀ c ∈ s, Integer.isBoundChar c = true ∨ c = '.' := by
  intro c hc
  rcases parse?_eq_some_iff.1 h with ⟨count, hspells, -⟩ | ⟨left, right, htext, hfirst, hlast⟩
  · by_cases hunderscore : c = '_'
    · exact .inl (hunderscore ▸ rfl)
    · exact .inl (hspells.isBoundChar c (List.mem_filter.2 ⟨hc, bne_iff_ne.2 hunderscore⟩))
  · rw [htext, List.mem_append, List.mem_cons, List.mem_cons] at hc
    rcases hc with hc | rfl | rfl | hc
    · exact .inl (hfirst.isBoundChar c hc)
    · exact .inr rfl
    · exact .inr rfl
    · exact .inl (hlast.isBoundChar c hc)

/-- A text is a range of counts exactly if it spells, underscores left out, an integer that fits 64
bits, or else two bounds with dots between them; no text does both, and of the dots there is one
choice. -/
theorem parsed_iff_spelled (s : List Char) :
    (∀ range, parse? s = some range ↔
      (∃ count, Integer.Spells (s.filter (· != '_')) count.toInt ∧ range = single count) ∨
        ∃ left right, IsSplit s left right range) ∧
    (∀ n left right range,
      Integer.Spells (s.filter (· != '_')) n → ¬IsSplit s left right range) ∧
    ∀ left right range left' right' range', IsSplit s left right range →
      IsSplit s left' right' range' → left = left' ∧ right = right' ∧ range = range' := by
  refine ⟨fun range => parse?_eq_some_iff, fun n left right range => not_isSplit_of_spells, ?_⟩
  intro left right range left' right' range' h h'
  obtain ⟨hleft, hright⟩ := h.unique h'
  exact ⟨hleft, hright, h.range_eq h'⟩

/-- Underscores may stand anywhere among the digits of a bound, also before them. -/
theorem parsed_iff_spelled_infinity :
    IsSplit "-InFinity..__1_0".toList "-InFinity".toList "__1_0".toList ⟨Int64.minValue, 10⟩ ∧
      parse? "-InFinity..__1_0".toList = some ⟨Int64.minValue, 10⟩ ∧
      ∀ left right range, IsSplit "-InFinity..__1_0".toList left right range →
        left = "-InFinity".toList ∧ right = "__1_0".toList ∧ range = ⟨Int64.minValue, 10⟩ := by
  have hchars : ∀ c ∈ ['_', '_', '1', '_', '0'], c.isDigit = true ∨ c = '_' := by simp
  have hdigit : ∃ c ∈ ['_', '_', '1', '_', '0'], c.isDigit = true := by simp
  have hsplit : IsSplit "-InFinity..__1_0".toList "-InFinity".toList "__1_0".toList
      ⟨Int64.minValue, 10⟩ :=
    ⟨rfl, .infinite true (by decide), .finite false hchars hdigit (by decide)⟩
  obtain ⟨hparse, -, hunique⟩ := parsed_iff_spelled "-InFinity..__1_0".toList
  exact ⟨hsplit, (hparse _).2 (.inr ⟨_, _, hsplit⟩),
    fun left right range h => hunique _ _ _ _ _ _ h hsplit⟩

end CountRange

end Phrasebook
