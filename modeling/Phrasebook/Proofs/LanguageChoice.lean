import Phrasebook.Language.Resolution
import Phrasebook.Proofs.LowerCase
import Phrasebook.Proofs.Truncation
import Phrasebook.Proofs.Wildcard
import Mathlib.Data.List.Induction
import Mathlib.Data.Nat.Basic
import Mathlib.Data.Prod.Lex

/-! Which tag the basic resolution chooses. An attempt compares one truncation of one range with one
tag. Attempts are ordered by the weight of the range, then by its place in the list, by the number
of truncations, and by the place of the tag; the tag of the first attempt that succeeds is chosen
(`Resolution.basic_eq_some_iff`). -/

namespace Phrasebook.Language

theorem Range.le_trans (a b c : Range) (hab : le a b = true) (hbc : le b c = true) :
    le a c = true := by
  simp only [le, decide_eq_true_eq] at *
  omega

theorem Range.le_total (a b : Range) : (le a b || le b a) = true := by
  simp only [le, Bool.or_eq_true, decide_eq_true_eq]
  omega

namespace Resolution

theorem exists_getElem?_of_findSome? {α β : Type} {f : α → Option β} {l : List α} {b : β}
    (h : l.findSome? f = some b) :
    ∃ (i : Nat) (a : α), l[i]? = some a ∧ f a = some b ∧
      ∀ j < i, ∀ x, l[j]? = some x → f x = none := by
  obtain ⟨before, a, after, rfl, ha, hbefore⟩ := List.findSome?_eq_some_iff.1 h
  refine ⟨before.length, a, by simp, ha, ?_⟩
  intro j hj x hx
  rw [List.getElem?_append_left hj] at hx
  exact hbefore x (List.mem_of_getElem? hx)

/-- A range in a list and its place there. Of two, the one that is tried first is less. -/
def rangeKey (range : Range) (place : Nat) : ℤ ×ₗ ℕ :=
  toLex (range.weight.rank, place)

theorem zipIdxLE_iff (a b : Range × Nat) :
    List.zipIdxLE Range.le a b = true ↔ rangeKey a.1 a.2 ≤ rangeKey b.1 b.2 := by
  simp only [List.zipIdxLE, rangeKey, Range.le, Prod.Lex.toLex_le_toLex, decide_eq_true_eq]
  grind

/-- Sorting by weight keeps the order of ranges of the same weight. -/
theorem exists_first_of_findSome?_mergeSort {β : Type} {f : Range → Option β}
    {ranges : List Range} {b : β} (h : (ranges.mergeSort Range.le).findSome? f = some b) :
    ∃ (i : Nat) (range : Range), ranges[i]? = some range ∧ f range = some b ∧
      ∀ (j : Nat) (other : Range), ranges[j]? = some other → rangeKey other j < rangeKey range i →
        f other = none := by
  rw [← List.mergeSort_zipIdx, List.findSome?_map] at h
  obtain ⟨before, ⟨range, i⟩, after, hsorted, hrange, hbefore⟩ := List.findSome?_eq_some_iff.1 h
  have hmem : ∀ entry : Range × Nat,
      entry ∈ ranges.zipIdx.mergeSort (List.zipIdxLE Range.le) ↔
        ranges[entry.2]? = some entry.1 := by
    intro entry
    rw [List.mem_mergeSort, List.mem_zipIdx_iff_getElem?]
  have hpairwise := List.pairwise_mergeSort (List.zipIdxLE_trans Range.le_trans)
    (List.zipIdxLE_total Range.le_total) ranges.zipIdx
  rw [hsorted] at hmem hpairwise
  refine ⟨i, range, (hmem (range, i)).1 (by simp), hrange, ?_⟩
  intro j other hother hlt
  rcases List.mem_append.1 ((hmem (other, j)).2 hother) with hin | hin
  · exact hbefore _ hin
  · have hle : rangeKey range i ≤ rangeKey other j := by
      rcases List.mem_cons.1 hin with heq | hin
      · cases heq
        exact le_refl _
      · have hrest := (List.pairwise_append.1 hpairwise).2.1
        exact (zipIdxLE_iff _ _).1 ((List.pairwise_cons.1 hrest).1 _ hin)
    exact absurd hlt (not_lt.2 hle)

end Resolution

/-! ### Attempts -/

/-- What a range is compared as after some truncations. -/
def Range.pattern (range : Range) (steps : Nat) : List Char :=
  Pattern.truncate^[steps] (Text.lower (Text.trim range.language.toList))

/-- The range is no star alone, and after the truncations something is left of it that matches the
whole tag. -/
def Range.Accepts (range : Range) (steps : Nat) (tag : String) : Prop :=
  Text.trim range.language.toList ≠ ['*'] ∧ range.pattern steps ≠ [] ∧
    Pattern.Matches Char.isAlphanum (range.pattern steps) (Text.lower tag.toList)

/-- A place among the ranges, a number of truncations and a place among the tags. -/
structure Attempt where
  range : Nat
  steps : Nat
  tag : Nat

namespace Attempt

def Succeeds (ranges : List Range) (tags : List String) (attempt : Attempt) : Prop :=
  ∃ range tag, ranges[attempt.range]? = some range ∧ tags[attempt.tag]? = some tag ∧
    range.Accepts attempt.steps tag

/-- Where an attempt stands among all attempts. -/
def key (ranges : List Range) (attempt : Attempt) : (ℤ ×ₗ ℕ) ×ₗ (ℕ ×ₗ ℕ) :=
  toLex (toLex ((ranges[attempt.range]?).elim 0 (·.weight.rank), attempt.range),
    toLex (attempt.steps, attempt.tag))

end Attempt

namespace Resolution

theorem isWild_of_not_isUpper {c : Char} (h : c.isUpper = false) :
    Pattern.isWild c = c.isAlphanum := by
  show (c.isDigit || c.isLower) = ((c.isUpper || c.isLower) || c.isDigit)
  rw [h, Bool.false_or, Bool.or_comm]

theorem accepts_lower_iff {pattern tag : List Char} :
    Pattern.accepts pattern (Text.lower tag) = true ↔
      Pattern.Matches Char.isAlphanum pattern (Text.lower tag) := by
  have hsame : ∀ c ∈ Text.lower tag, Pattern.isWild c = c.isAlphanum :=
    fun c hc => isWild_of_not_isUpper (Text.isUpper_of_mem_lower hc)
  rw [Pattern.accepts_iff]
  exact ⟨Pattern.matches_congr hsame, Pattern.matches_congr fun c hc => (hsame c hc).symm⟩

theorem getElem?_patterns {range : Range} {steps : Nat} {pattern : List Char} :
    (patterns range)[steps]? = some pattern ↔
      Text.trim range.language.toList ≠ ['*'] ∧ range.pattern steps = pattern ∧ pattern ≠ [] := by
  rw [patterns, Range.isAny]
  by_cases h : Text.trim range.language.toList = ['*']
  · simp [h]
  · simp [h, Pattern.getElem?_chain, Range.pattern]

theorem range_accepts_iff {range : Range} {steps : Nat} {tag : String} :
    range.Accepts steps tag ↔ ∃ pattern, (patterns range)[steps]? = some pattern ∧
      Pattern.accepts pattern (Text.lower tag.toList) = true := by
  simp only [getElem?_patterns, accepts_lower_iff, Range.Accepts]
  constructor
  · rintro ⟨hany, hne, h⟩
    exact ⟨_, ⟨hany, rfl, hne⟩, h⟩
  · rintro ⟨_, ⟨hany, rfl, hne⟩, h⟩
    exact ⟨hany, hne, h⟩

/-- The search through the tags, which are put in lower case. -/
def search (tags : List String) (range : Range) : Option Nat :=
  firstAccepted? (patterns range) (tags.map fun tag => Text.lower tag.toList)

theorem search_eq_none_iff {range : Range} {tags : List String} :
    search tags range = none ↔ ∀ steps, ∀ tag ∈ tags, ¬range.Accepts steps tag := by
  simp only [search, firstAccepted?, List.findSome?_eq_none_iff, List.findIdx?_eq_none_iff,
    List.forall_mem_map, range_accepts_iff, not_exists, not_and, Bool.not_eq_true]
  constructor
  · intro h steps tag htag pattern hpattern
    exact h pattern (List.mem_of_getElem? hpattern) tag htag
  · intro h pattern hpattern tag htag
    obtain ⟨steps, hsteps⟩ := List.mem_iff_getElem?.1 hpattern
    exact h steps tag htag pattern hsteps

theorem exists_first_of_search {range : Range} {tags : List String} {place : Nat}
    (h : search tags range = some place) :
    ∃ (steps : Nat) (tag : String), tags[place]? = some tag ∧ range.Accepts steps tag ∧
      ∀ (steps' place' : Nat) (tag' : String), tags[place']? = some tag' →
        range.Accepts steps' tag' → toLex (steps, place) ≤ toLex (steps', place') := by
  obtain ⟨steps, pattern, hpattern, hfind, hbefore⟩ := exists_getElem?_of_findSome? h
  rw [List.findIdx?_map, List.findIdx?_eq_some_iff_getElem] at hfind
  obtain ⟨hplace, haccepts, hfirst⟩ := hfind
  refine ⟨steps, tags[place], List.getElem?_eq_getElem hplace,
    range_accepts_iff.2 ⟨pattern, hpattern, haccepts⟩, ?_⟩
  intro steps' place' tag' htag' haccepts'
  obtain ⟨pattern', hpattern', hmatch⟩ := range_accepts_iff.1 haccepts'
  rw [Prod.Lex.toLex_le_toLex]
  rcases Nat.lt_trichotomy steps steps' with hlt | rfl | hgt
  · exact .inl hlt
  · refine .inr ⟨rfl, not_lt.1 fun hlt => ?_⟩
    obtain rfl : pattern = pattern' := Option.some.inj (hpattern.symm.trans hpattern')
    have hnot := hfirst place' hlt
    rw [Option.some.inj ((List.getElem?_eq_getElem (hlt.trans hplace)).symm.trans htag')] at hnot
    exact absurd hmatch hnot
  · have hnone := hbefore steps' hgt pattern' hpattern'
    rw [List.findIdx?_eq_none_iff] at hnone
    have hnot := hnone _ (List.mem_map_of_mem (List.mem_of_getElem? htag'))
    rw [hmatch] at hnot
    exact absurd hnot (by decide)

theorem basic_eq (ranges : List Range) (tags : List String) :
    basic ranges tags = (ranges.mergeSort Range.le).findSome? (search tags) := rfl

theorem basic_eq_none_iff {ranges : List Range} {tags : List String} :
    basic ranges tags = none ↔ ∀ attempt : Attempt, ¬attempt.Succeeds ranges tags := by
  simp only [basic_eq, List.findSome?_eq_none_iff, List.mem_mergeSort, search_eq_none_iff]
  constructor
  · rintro h attempt ⟨range, tag, hrange, htag, haccepts⟩
    exact h range (List.mem_of_getElem? hrange) attempt.steps tag (List.mem_of_getElem? htag)
      haccepts
  · intro h range hrange steps tag htag haccepts
    obtain ⟨i, hi⟩ := List.mem_iff_getElem?.1 hrange
    obtain ⟨j, hj⟩ := List.mem_iff_getElem?.1 htag
    exact h ⟨i, steps, j⟩ ⟨range, tag, hi, hj, haccepts⟩

end Resolution

/-- The attempt succeeds, and no other that does comes before it. -/
def Attempt.IsFirst (ranges : List Range) (tags : List String) (attempt : Attempt) : Prop :=
  attempt.Succeeds ranges tags ∧
    ∀ other : Attempt, other.Succeeds ranges tags → attempt.key ranges ≤ other.key ranges

theorem Attempt.key_of_getElem? {ranges : List Range} {attempt : Attempt} {range : Range}
    (h : ranges[attempt.range]? = some range) :
    attempt.key ranges =
      toLex (Resolution.rangeKey range attempt.range, toLex (attempt.steps, attempt.tag)) := by
  rw [key, h]
  rfl

namespace Resolution

theorem exists_isFirst_of_basic {ranges : List Range} {tags : List String} {place : Nat}
    (h : basic ranges tags = some place) :
    ∃ attempt : Attempt, attempt.IsFirst ranges tags ∧ attempt.tag = place := by
  obtain ⟨i, range, hrange, hsearch, hbefore⟩ := exists_first_of_findSome?_mergeSort h
  obtain ⟨steps, tag, htag, haccepts, hfirst⟩ := exists_first_of_search hsearch
  refine ⟨⟨i, steps, place⟩, ⟨⟨range, tag, hrange, htag, haccepts⟩, ?_⟩, rfl⟩
  rintro ⟨i', steps', place'⟩ ⟨range', tag', hrange', htag', haccepts'⟩
  rw [Attempt.key_of_getElem? hrange, Attempt.key_of_getElem? hrange', Prod.Lex.toLex_le_toLex]
  rcases lt_trichotomy (rangeKey range i) (rangeKey range' i') with hlt | heq | hgt
  · exact .inl hlt
  · obtain rfl : i = i' := congrArg (fun key => (ofLex key).2) heq
    obtain rfl : range = range' := Option.some.inj (hrange.symm.trans hrange')
    exact .inr ⟨rfl, hfirst steps' place' tag' htag' haccepts'⟩
  · have hnone := search_eq_none_iff.1 (hbefore i' range' hrange' hgt)
    exact absurd haccepts' (hnone steps' tag' (List.mem_of_getElem? htag'))

theorem basic_eq_some_iff {ranges : List Range} {tags : List String} {place : Nat} :
    basic ranges tags = some place ↔
      ∃ attempt : Attempt, attempt.IsFirst ranges tags ∧ attempt.tag = place := by
  refine ⟨exists_isFirst_of_basic, ?_⟩
  rintro ⟨attempt, ⟨hsucceeds, hleast⟩, rfl⟩
  cases h : basic ranges tags with
  | none => exact absurd hsucceeds (basic_eq_none_iff.1 h attempt)
  | some place =>
      obtain ⟨other, ⟨hsucceeds', hleast'⟩, rfl⟩ := exists_isFirst_of_basic h
      have hkey := le_antisymm (hleast' attempt hsucceeds) (hleast other hsucceeds')
      exact congrArg (fun key => some (ofLex (ofLex key).2).2) hkey

/-- A range without stars accepts, before it is truncated, only its own text. -/
theorem range_accepts_zero_iff {range : Range} {tag : String}
    (htrim : Text.trim range.language.toList = range.language.toList)
    (hne : range.language.toList ≠ []) (hstar : '*' ∉ range.language.toList) :
    range.Accepts 0 tag ↔ Text.lower tag.toList = Text.lower range.language.toList := by
  have hpattern : range.pattern 0 = Text.lower range.language.toList := by
    rw [Range.pattern, Function.iterate_zero, id_eq, htrim]
  have hlower : '*' ∉ Text.lower range.language.toList :=
    fun hmem => hstar (Text.star_mem_of_mem_lower hmem)
  rw [Range.Accepts, hpattern, htrim]
  constructor
  · rintro ⟨-, -, h⟩
    exact Pattern.eq_of_matches h hlower
  · intro h
    have hany : range.language.toList ≠ ['*'] :=
      fun hany => hstar (hany ▸ List.mem_singleton_self '*')
    refine ⟨hany, Text.lower_ne_nil hne, ?_⟩
    rw [h]
    exact Pattern.matches_self hlower

theorem exists_basic_of_exact {range : Range} {tags : List String}
    (htrim : Text.trim range.language.toList = range.language.toList)
    (hne : range.language.toList ≠ []) (hstar : '*' ∉ range.language.toList)
    (hexact : ∃ tag ∈ tags, Text.lower tag.toList = Text.lower range.language.toList) :
    ∃ (place : Nat) (tag : String), basic [range] tags = some place ∧ tags[place]? = some tag ∧
      Text.lower tag.toList = Text.lower range.language.toList := by
  obtain ⟨exact, hmem, hlower⟩ := hexact
  obtain ⟨j, hj⟩ := List.mem_iff_getElem?.1 hmem
  have hsucceeds : Attempt.Succeeds [range] tags ⟨0, 0, j⟩ :=
    ⟨range, exact, rfl, hj, (range_accepts_zero_iff htrim hne hstar).2 hlower⟩
  cases hbasic : basic [range] tags with
  | none => exact absurd hsucceeds (basic_eq_none_iff.1 hbasic _)
  | some place =>
      obtain ⟨⟨i, steps, _⟩, ⟨⟨range', tag, hrange, htag, haccepts⟩, hleast⟩, rfl⟩ :=
        basic_eq_some_iff.1 hbasic
      obtain ⟨rfl, rfl⟩ : i = 0 ∧ range = range' := by
        cases i with
        | zero => exact ⟨rfl, Option.some.inj hrange⟩
        | succ i => simp at hrange
      have hsteps : steps = 0 := by
        have hle := hleast _ hsucceeds
        simp only [Attempt.key, Prod.Lex.toLex_le_toLex, lt_self_iff_false, false_or,
          true_and] at hle
        omega
      subst hsteps
      exact ⟨_, tag, rfl, htag, (range_accepts_zero_iff htrim hne hstar).1 haccepts⟩

/-- The basic resolution chooses the tag of the first attempt that succeeds, and none only if no
attempt does. A tag that differs from a sole range without stars at most in case is chosen before
all tags that only truncations of the range accept. -/
theorem basic_chooses_first :
    (∀ (ranges : List Range) (tags : List String) (place : Nat),
      basic ranges tags = some place ↔
        ∃ attempt : Attempt, attempt.IsFirst ranges tags ∧ attempt.tag = place) ∧
    (∀ (ranges : List Range) (tags : List String),
      basic ranges tags = none ↔ ∀ attempt : Attempt, ¬attempt.Succeeds ranges tags) ∧
    ∀ (range : Range) (tags : List String),
      Text.trim range.language.toList = range.language.toList → range.language.toList ≠ [] →
      '*' ∉ range.language.toList →
      (∃ tag ∈ tags, Text.lower tag.toList = Text.lower range.language.toList) →
      ∃ (place : Nat) (tag : String), basic [range] tags = some place ∧
        tags[place]? = some tag ∧ Text.lower tag.toList = Text.lower range.language.toList :=
  ⟨fun _ _ _ => basic_eq_some_iff, fun _ _ => basic_eq_none_iff,
    fun _ _ => exists_basic_of_exact⟩

theorem basic_chooses_exact_tag :
    ∃ (place : Nat) (tag : String),
      basic [Range.ofTag "en-US"] ["en", "EN-us"] = some place ∧
        ["en", "EN-us"][place]? = some tag ∧
        Text.lower tag.toList = Text.lower (Range.ofTag "en-US").language.toList :=
  basic_chooses_first.2.2 (Range.ofTag "en-US") ["en", "EN-us"] (by decide) (by decide) (by decide)
    ⟨"EN-us", by decide, by decide⟩

end Resolution

end Phrasebook.Language
