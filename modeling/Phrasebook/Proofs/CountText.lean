import Phrasebook.CountRange
import Phrasebook.Proofs.Trimming

/-! Ranges of counts as text. The decimal text of an integer is read as that integer, each bound as
the count it was written for, and a range as itself (`parse?_text`); the exceptions are the two
ranges whose only count stands for infinity, as one bound alone is no range (`reads_back`). -/

namespace Phrasebook

namespace Integer

theorem natural?_toDigits (n : Nat) : natural? (Nat.toDigits 10 n) = some n := by
  have hall : (Nat.toDigits 10 n).all Char.isDigit = true := by
    rw [List.all_eq_true]
    intro c hc
    exact Nat.isDigit_of_mem_toDigits (by omega) (by omega) hc
  have hne : (Nat.toDigits 10 n).isEmpty = false :=
    List.isEmpty_eq_false_iff.2 Nat.toDigits_ne_nil
  rw [natural?, hall, hne, if_neg (by decide), Nat.ofDigitChars_ten_toDigits]

theorem head?_toDigits_ne {n : Nat} (hn : 0 < n) : (Nat.toDigits 10 n).head? ≠ some '0' := by
  induction n using Nat.strong_induction_on with
  | _ n ih =>
      by_cases hlt : n < 10
      · rw [Nat.toDigits_of_lt_base hlt, List.head?_cons, ne_eq, Option.some.injEq,
          Nat.digitChar_eq_zero]
        omega
      · rw [Nat.toDigits_of_base_le (by omega) (by omega),
          List.head?_append_of_ne_nil _ Nat.toDigits_ne_nil]
        exact ih (n / 10) (by omega) (by omega)

theorem read?_cons_of_isDigit {c : Char} (h : c.isDigit = true) (s : List Char) :
    read? (c :: s) = natural? (c :: s) >>= fun n => ofInt? n := by
  simp [read?, Text.ne_of_isDigit h]

/-- The text of a negative number is a minus sign and the digits of its magnitude. -/
theorem toList_text (n : Int64) :
    (text n).toList =
      if n.toInt < 0 then '-' :: Nat.toDigits 10 n.toInt.natAbs
      else Nat.toDigits 10 n.toInt.natAbs := by
  rw [text, Int.repr_eq_if]
  by_cases hneg : n.toInt < 0
  · have hmagnitude : (-n.toInt).toNat = n.toInt.natAbs := by omega
    rw [if_neg (by omega), if_pos hneg, hmagnitude]
    simp
  · have hmagnitude : n.toInt.toNat = n.toInt.natAbs := by omega
    rw [if_pos (by omega), if_neg hneg, hmagnitude, Nat.toList_repr]

theorem exists_digits (n : Int64) :
    ∃ (negative : Bool) (digits : List Char),
      (text n).toList = (if negative then '-' :: digits else digits) ∧ digits ≠ [] ∧
        ∀ c ∈ digits, c.isDigit = true := by
  refine ⟨decide (n.toInt < 0), Nat.toDigits 10 n.toInt.natAbs, ?_, Nat.toDigits_ne_nil, ?_⟩
  · rw [toList_text]
    simp
  · intro c hc
    exact Nat.isDigit_of_mem_toDigits (by omega) (by omega) hc

theorem isDigit_of_mem_text {n : Int64} {c : Char} (h : c ∈ (text n).toList) :
    c.isDigit = true ∨ c = '-' := by
  obtain ⟨negative, digits, htext, -, hdigits⟩ := exists_digits n
  rw [htext] at h
  cases negative with
  | true =>
      rcases List.mem_cons.1 h with rfl | h
      · exact .inr rfl
      · exact .inl (hdigits c h)
  | false => exact .inl (hdigits c h)

theorem read?_text (n : Int64) : read? (text n).toList = some n := by
  rw [toList_text]
  by_cases hneg : n.toInt < 0
  · have hvalue : -(n.toInt.natAbs : Int) = n.toInt := by omega
    rw [if_pos hneg, read?, natural?_toDigits, Option.bind_eq_bind, Option.bind_some, hvalue,
      ofInt?_toInt]
  · have hvalue : (n.toInt.natAbs : Int) = n.toInt := by omega
    have hne : Nat.toDigits 10 n.toInt.natAbs ≠ [] := Nat.toDigits_ne_nil
    obtain ⟨c, s, hdigits⟩ := List.exists_cons_of_ne_nil hne
    have hmem : c ∈ Nat.toDigits 10 n.toInt.natAbs := hdigits ▸ List.mem_cons_self
    have hc : c.isDigit = true := Nat.isDigit_of_mem_toDigits (by omega) (by omega) hmem
    rw [if_neg hneg, hdigits, read?_cons_of_isDigit hc, ← hdigits, natural?_toDigits,
      Option.bind_eq_bind, Option.bind_some, hvalue, ofInt?_toInt]

theorem isDigit_of_natural? {s : List Char} {n : Nat} (h : natural? s = some n) :
    ∀ c ∈ s, c.isDigit = true := by
  intro c hc
  by_cases hall : s.all Char.isDigit = true
  · exact List.all_eq_true.1 hall c hc
  · rw [natural?, if_pos (by simp [hall])] at h
    cases h

/-- An integer is read from digits after at most one sign. -/
theorem isDigit_of_read? {s : List Char} {n : Int64} (h : read? s = some n) :
    ∀ c ∈ s, c.isDigit = true ∨ c = '+' ∨ c = '-' := by
  intro c hc
  rw [read?.eq_def] at h
  split at h
  next digits =>
    obtain ⟨m, hm, -⟩ := Option.bind_eq_some_iff.1 h
    rcases List.mem_cons.1 hc with rfl | hc
    · exact .inr (.inl rfl)
    · exact .inl (isDigit_of_natural? hm c hc)
  next digits =>
    obtain ⟨m, hm, -⟩ := Option.bind_eq_some_iff.1 h
    rcases List.mem_cons.1 hc with rfl | hc
    · exact .inr (.inr rfl)
    · exact .inl (isDigit_of_natural? hm c hc)
  next =>
    obtain ⟨m, hm, -⟩ := Option.bind_eq_some_iff.1 h
    exact .inl (isDigit_of_natural? hm c hc)

end Integer

namespace CountRange

namespace Bound

/-- What begins with no letter begins with no word. -/
theorem startsInfinite_eq_false {s : List Char} (h : ∀ c ∈ s.head?, c.isAlpha = false) :
    startsInfinite s = false := by
  cases s with
  | nil => rfl
  | cons c s =>
      have hword : c.toLower ≠ 'i' := by
        intro hletter
        have halpha := Text.isAlpha_of_isAlpha_toLower (c := c) (hletter ▸ rfl)
        rw [h c rfl] at halpha
        exact Bool.false_ne_true halpha
      rw [startsInfinite, decide_eq_false_iff_not, List.take_succ_cons, List.map_cons]
      exact fun hlist => hword (List.cons_eq_cons.1 hlist).1

theorem readUnsigned?_infinity (negative : Bool) (rest : List Char) :
    readUnsigned? negative ("infinity".toList ++ rest) = some (infinite negative, rest) := by
  rfl

/-- Digits and underscores end where a character follows that is neither. -/
theorem readUnsigned?_numeral (negative : Bool) {s rest : List Char}
    (hword : startsInfinite (s ++ rest) = false) (hs : ∀ c ∈ s, isNumeral c = true)
    (hrest : ∀ c ∈ rest.head?, isNumeral c = false) :
    readUnsigned? negative (s ++ rest) =
      if s.filter (· != '_') = [] then (if negative then none else some (absent, rest))
      else some (finite negative (s.filter (· != '_')), rest) := by
  obtain ⟨htake, hdrop⟩ := Text.span_append hs hrest
  rw [readUnsigned?, hword, if_neg Bool.false_ne_true, htake, hdrop]
  simp only [List.isEmpty_iff]

theorem readUnsigned?_digits (negative : Bool) {digits rest : List Char} (hne : digits ≠ [])
    (hdigits : ∀ c ∈ digits, c.isDigit = true) (hrest : ∀ c ∈ rest.head?, isNumeral c = false) :
    readUnsigned? negative (digits ++ rest) = some (finite negative digits, rest) := by
  have hword : startsInfinite (digits ++ rest) = false := by
    obtain ⟨d, ds, rfl⟩ := List.exists_cons_of_ne_nil hne
    apply startsInfinite_eq_false
    rintro c ⟨⟩
    exact Text.isAlpha_eq_false_of_isDigit (hdigits d List.mem_cons_self)
  have hnumeral : ∀ c ∈ digits, isNumeral c = true := by
    intro c hc
    rw [isNumeral, hdigits c hc, Bool.true_or]
  have hfilter : digits.filter (· != '_') = digits := by
    rw [List.filter_eq_self]
    intro c hc
    rw [bne_iff_ne]
    rintro rfl
    exact absurd (hdigits _ hc) (by decide)
  rw [readUnsigned?_numeral negative hword hnumeral hrest, hfilter, if_neg hne]

theorem read?_negative (s : List Char) : read? ('-' :: s) = readUnsigned? true s := rfl

theorem read?_digits {digits : List Char} (hne : digits ≠ [])
    (hdigits : ∀ c ∈ digits, c.isDigit = true) (rest : List Char) :
    read? (digits ++ rest) = readUnsigned? false (digits ++ rest) := by
  obtain ⟨d, ds, rfl⟩ := List.exists_cons_of_ne_nil hne
  have hminus : d ≠ '-' := Text.ne_of_isDigit (hdigits d List.mem_cons_self) rfl
  simp [read?, hminus]

/-- A bound that is written is read as the count it stands for, whatever follows that could not
belong to a number. -/
theorem read?_text_append (count : Int64) (rest : List Char)
    (hrest : ∀ c ∈ rest.head?, isNumeral c = false) :
    ∃ bound, read? ((text count).toList ++ rest) = some (bound, rest) ∧
      ∀ unbounded, bound.count? unbounded = some count := by
  by_cases hmin : count = Int64.minValue
  · refine ⟨infinite true, ?_, ?_⟩
    · rw [text, if_pos hmin]
      exact readUnsigned?_infinity true rest
    · intro unbounded
      rw [count?, if_pos rfl, hmin]
  · by_cases hmax : count = Int64.maxValue
    · refine ⟨infinite false, ?_, ?_⟩
      · rw [text, if_neg hmin, if_pos hmax]
        exact readUnsigned?_infinity false rest
      · intro unbounded
        rw [count?, if_neg Bool.false_ne_true, hmax]
    · obtain ⟨negative, digits, htext, hne, hdigits⟩ := Integer.exists_digits count
      refine ⟨finite negative digits, ?_, ?_⟩
      · rw [text, if_neg hmin, if_neg hmax, htext]
        cases negative with
        | true =>
            rw [if_pos rfl, List.cons_append, read?_negative,
              readUnsigned?_digits true hne hdigits hrest]
        | false =>
            rw [if_neg Bool.false_ne_true, read?_digits hne hdigits,
              readUnsigned?_digits false hne hdigits hrest]
      · intro unbounded
        rw [count?, ← htext, Integer.read?_text]

theorem isSuffix_of_read? {s rest : List Char} {bound : Bound}
    (h : read? s = some (bound, rest)) : rest <:+ s := by
  have hunsigned : ∀ (negative : Bool) (t : List Char),
      readUnsigned? negative t = some (bound, rest) → rest <:+ t := by
    intro negative t ht
    rw [readUnsigned?] at ht
    split at ht
    · obtain ⟨-, rfl⟩ := Prod.mk.inj (Option.some.inj ht)
      exact List.drop_suffix 8 t
    · simp only at ht
      split at ht
      · split at ht
        · cases ht
        · obtain ⟨-, rfl⟩ := Prod.mk.inj (Option.some.inj ht)
          exact List.dropWhile_suffix _
      · obtain ⟨-, rfl⟩ := Prod.mk.inj (Option.some.inj ht)
        exact List.dropWhile_suffix _
  rw [read?.eq_def] at h
  split at h
  · exact (hunsigned true _ h).trans (List.suffix_cons _ _)
  · exact hunsigned false s h

end Bound

/-- Two bounds with dots between them are read as written. -/
theorem parseBounds?_text (range : CountRange) :
    parseBounds? ((Bound.text range.first).toList ++ '.' :: '.' :: (Bound.text range.last).toList) =
      some range := by
  obtain ⟨first, hfirst, hfirstCount⟩ := Bound.read?_text_append range.first
    ('.' :: '.' :: (Bound.text range.last).toList) (by simp [Bound.isNumeral])
  obtain ⟨last, hlast, hlastCount⟩ := Bound.read?_text_append range.last [] (by simp)
  rw [List.append_nil] at hlast
  simp [parseBounds?, hfirst, hlast, hfirstCount, hlastCount]

theorem dot_mem_of_parseBounds? {s : List Char} {range : CountRange}
    (h : parseBounds? s = some range) : '.' ∈ s := by
  rw [parseBounds?] at h
  split at h
  next first rest hread => exact (Bound.isSuffix_of_read? hread).mem List.mem_cons_self
  · cases h

theorem isPlain_of_mem_text {range : CountRange} {c : Char} (h : c ∈ range.text.toList) :
    Text.isPlain c = true := by
  have hbound : ∀ count : Int64, ∀ c ∈ (Bound.text count).toList, Text.isPlain c = true := by
    intro count c hc
    rw [Bound.text] at hc
    split at hc
    · have hall : "-infinity".toList.all Text.isPlain = true := by decide
      exact List.all_eq_true.1 hall c hc
    · split at hc
      · have hall : "infinity".toList.all Text.isPlain = true := by decide
        exact List.all_eq_true.1 hall c hc
      · rcases Integer.isDigit_of_mem_text hc with hdigit | rfl
        · exact Text.isPlain_iff.2 (.inr (.inl hdigit))
        · rfl
  rw [text] at h
  split at h
  · exact hbound _ c h
  · simp only [String.toList_append, List.mem_append] at h
    rcases h with (h | h) | h
    · exact hbound _ c h
    · have hall : "..".toList.all Text.isPlain = true := by decide
      exact List.all_eq_true.1 hall c h
    · exact hbound _ c h

theorem text_ne_nil (range : CountRange) : range.text.toList ≠ [] := by
  have hbound : ∀ count : Int64, (Bound.text count).toList ≠ [] := by
    intro count
    rw [Bound.text]
    split
    · decide
    · split
      · decide
      · obtain ⟨negative, digits, htext, hne, -⟩ := Integer.exists_digits count
        rw [htext]
        cases negative with
        | true => exact List.cons_ne_nil '-' digits
        | false => exact hne
  rw [text]
  split
  · exact hbound range.first
  · simp

/-- A word is no range of counts. -/
theorem parse?_eq_none_of_isAlpha {word : List Char} (hne : word ≠ [])
    (hword : ∀ c ∈ word, c.isAlpha = true) : parse? word = none := by
  have hfilter : word.filter (· != '_') = word := by
    rw [List.filter_eq_self]
    intro c hc
    rw [bne_iff_ne]
    rintro rfl
    exact absurd (hword _ hc) (by decide)
  have hread : Integer.read? word = none := by
    rw [Option.eq_none_iff_forall_not_mem]
    intro n hn
    obtain ⟨c, s, rfl⟩ := List.exists_cons_of_ne_nil hne
    have hc := hword c List.mem_cons_self
    rcases Integer.isDigit_of_read? hn c List.mem_cons_self with hdigit | rfl | rfl
    · rw [Text.isAlpha_eq_false_of_isDigit hdigit] at hc
      exact absurd hc Bool.false_ne_true
    · exact absurd hc (by decide)
    · exact absurd hc (by decide)
  have hbounds : parseBounds? word = none := by
    rw [Option.eq_none_iff_forall_not_mem]
    intro range hrange
    exact absurd (hword _ (dot_mem_of_parseBounds? hrange)) (by decide)
  rw [parse?, hfilter, hread, hbounds]

theorem parse?_text {range : CountRange}
    (h : range.first = range.last →
      range.first ≠ Int64.minValue ∧ range.first ≠ Int64.maxValue) :
    parse? range.text.toList = some range := by
  by_cases hsingle : range.first = range.last
  · obtain ⟨hmin, hmax⟩ := h hsingle
    have hfilter : (Integer.text range.first).toList.filter (· != '_') =
        (Integer.text range.first).toList := by
      rw [List.filter_eq_self]
      intro c hc
      rw [bne_iff_ne]
      rintro rfl
      exact absurd (Integer.isDigit_of_mem_text hc) (by decide)
    rw [text, if_pos hsingle, Bound.text, if_neg hmin, if_neg hmax, parse?, hfilter,
      Integer.read?_text]
    obtain ⟨first, last⟩ := range
    obtain rfl : first = last := hsingle
    rfl
  · have htext : range.text.toList =
        (Bound.text range.first).toList ++ '.' :: '.' :: (Bound.text range.last).toList := by
      simp [text, hsingle]
    have hread : Integer.read? (range.text.toList.filter (· != '_')) = none := by
      rw [Option.eq_none_iff_forall_not_mem]
      intro n hn
      have hmem : '.' ∈ range.text.toList.filter (· != '_') := by simp [htext]
      exact absurd (Integer.isDigit_of_read? hn '.' hmem) (by decide)
    rw [parse?, hread, htext, parseBounds?_text]

/-- The only count of the range stands for infinity. -/
def IsInfinity (range : CountRange) : Prop :=
  range = ⟨Int64.minValue, Int64.minValue⟩ ∨ range = ⟨Int64.maxValue, Int64.maxValue⟩

instance (range : CountRange) : Decidable range.IsInfinity :=
  inferInstanceAs (Decidable (_ ∨ _))

theorem parse?_text_of_not_isInfinity {range : CountRange} (h : ¬range.IsInfinity) :
    parse? range.text.toList = some range := by
  apply parse?_text
  obtain ⟨first, last⟩ := range
  intro hsingle
  obtain rfl : first = last := hsingle
  rw [IsInfinity, not_or] at h
  exact ⟨fun hmin : first = _ => h.1 (by rw [hmin]), fun hmax : first = _ => h.2 (by rw [hmax])⟩

theorem parse?_text_of_isInfinity {range : CountRange} (h : range.IsInfinity) :
    parse? range.text.toList = none := by
  rcases h with rfl | rfl <;> decide +kernel

/-- No blanks are trimmed off a range as it is written. -/
theorem read_text (range : CountRange) :
    read range.text = (parse? range.text.toList).elim (.error ⟨range.text⟩) .ok := by
  have hplain : ∀ c ∈ range.text.toList, Text.isPlain c = true := fun c hc => isPlain_of_mem_text hc
  rw [read, (Text.isTrimmed_of_isPlain hplain).trim_eq]
  cases parse? range.text.toList <;> rfl

/-- A range is read as itself, whether or not blanks would be trimmed off, unless its only count
stands for infinity: a bound that stands alone is read as an integer or not at all. -/
theorem reads_back (range : CountRange) :
    parse? range.text.toList = (if range.IsInfinity then none else some range) ∧
      read range.text = if range.IsInfinity then .error ⟨range.text⟩ else .ok range := by
  rw [read_text]
  by_cases h : range.IsInfinity
  · rw [parse?_text_of_isInfinity h, if_pos h, if_pos h]
    exact ⟨rfl, rfl⟩
  · rw [parse?_text_of_not_isInfinity h, if_neg h, if_neg h]
    exact ⟨rfl, rfl⟩

/-- The range of the greatest integer alone is written like a bound at infinity. -/
theorem infinity_not_read_back :
    text ⟨Int64.maxValue, Int64.maxValue⟩ = "infinity" ∧
      ¬∀ range : CountRange, parse? range.text.toList = some range := by
  refine ⟨rfl, fun h => ?_⟩
  have hsome := h ⟨Int64.maxValue, Int64.maxValue⟩
  rw [parse?_text_of_isInfinity (.inr rfl)] at hsome
  cases hsome

end CountRange

end Phrasebook
