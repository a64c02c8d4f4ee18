import Phrasebook.Proofs.LanguageChoice

/-! Stars that stand alone. A range that is nothing but a star chooses no tag. Truncations may leave
a star alone of a longer range, though, and then it is tried like any other pattern
(`basic_chooses_by_star`). So a tag is chosen by more than a star, or by a range whose first subtag
is a star (`basic_chooses_by_more_than_star`). -/

namespace Phrasebook

namespace Language

namespace Pattern

/-- A star that is the first of several subtags is left alone by truncations. -/
theorem exists_iterate_truncate_eq_star (rest : List Char) :
    ∃ steps, truncate^[steps] ('*' :: '-' :: rest) = ['*'] := by
  have hmem : ['*'] ∈ chain ('*' :: '-' :: rest) :=
    mem_chain_of_append rfl (List.cons_ne_nil '*' []) (by decide)
  obtain ⟨steps, hsteps⟩ := List.mem_iff_getElem?.1 hmem
  exact ⟨steps, (getElem?_chain.1 hsteps).1⟩

end Pattern

/-- The first subtag of the range is a star, and there are more. -/
def Range.StartsWithStar (range : Range) : Prop :=
  ['*', '-'] <+: range.pattern 0

instance (range : Range) : Decidable range.StartsWithStar :=
  inferInstanceAs (Decidable (['*', '-'] <+: range.pattern 0))

theorem Range.startsWithStar_of_pattern {range : Range} {steps : Nat}
    (hany : Text.trim range.language.toList ≠ ['*']) (h : range.pattern steps = ['*']) :
    range.StartsWithStar := by
  have hne : range.pattern steps ≠ [] := h ▸ List.cons_ne_nil _ _
  rcases Pattern.eq_append_iterate_truncate hne with heq | ⟨rest, heq⟩
  · exact absurd (Text.eq_star_of_lower (heq.symm.trans h)) hany
  · have hwhole : range.pattern 0 = range.pattern steps ++ '-' :: rest := heq
    rw [h] at hwhole
    exact ⟨rest, hwhole.symm⟩

namespace Range.StartsWithStar

variable {range : Range}

theorem ne_star (h : range.StartsWithStar) : Text.trim range.language.toList ≠ ['*'] := by
  intro hany
  obtain ⟨rest, hrest⟩ := h
  have hpattern : range.pattern 0 = ['*'] := by
    rw [pattern, hany]
    rfl
  rw [hpattern] at hrest
  exact absurd (congrArg List.length hrest) (by simp)

/-- A tag that a star matches is accepted when nothing else is left of the range. -/
theorem exists_accepts (h : range.StartsWithStar) {tag : String}
    (htag : Pattern.Matches Char.isAlphanum ['*'] (Text.lower tag.toList)) :
    ∃ steps, range.Accepts steps tag := by
  obtain ⟨rest, hrest⟩ := h
  obtain ⟨steps, hsteps⟩ := Pattern.exists_iterate_truncate_eq_star rest
  have hstar : range.pattern steps = ['*'] := by
    rw [← hsteps]
    exact congrArg Pattern.truncate^[steps] hrest.symm
  refine ⟨steps, ne_star ⟨rest, hrest⟩, ?_, ?_⟩
  · rw [hstar]
    exact List.cons_ne_nil _ _
  · rw [hstar]
    exact htag

end Range.StartsWithStar

namespace Resolution

/-- A tag is chosen by a pattern that is more than a star, unless the first subtag of its range is a
star. Wherever there is a range of that kind, some tag is chosen if a star matches any. -/
theorem basic_chooses_by_more_than_star (ranges : List Range) (tags : List String) :
    (∀ place, basic ranges tags = some place →
      ∃ range ∈ ranges, ∃ steps tag, tags[place]? = some tag ∧ range.Accepts steps tag ∧
        (range.pattern steps ≠ ['*'] ∨ range.StartsWithStar)) ∧
    ((∃ range ∈ ranges, range.StartsWithStar) →
      (∃ tag ∈ tags, Pattern.Matches Char.isAlphanum ['*'] (Text.lower tag.toList)) →
      ∃ place, basic ranges tags = some place) := by
  constructor
  · intro place h
    obtain ⟨attempt, ⟨⟨range, tag, hrange, htag, haccepts⟩, -⟩, rfl⟩ := exists_isFirst_of_basic h
    refine ⟨range, List.mem_of_getElem? hrange, attempt.steps, tag, htag, haccepts, ?_⟩
    by_cases hstar : range.pattern attempt.steps = ['*']
    · exact .inr (Range.startsWithStar_of_pattern haccepts.1 hstar)
    · exact .inl hstar
  · rintro ⟨range, hrange, hstar⟩ ⟨tag, hmem, htag⟩
    obtain ⟨steps, haccepts⟩ := hstar.exists_accepts htag
    obtain ⟨i, hi⟩ := List.mem_iff_getElem?.1 hrange
    obtain ⟨place, hplace⟩ := List.mem_iff_getElem?.1 hmem
    rw [← Option.ne_none_iff_exists']
    intro hnone
    exact basic_eq_none_iff.1 hnone ⟨i, steps, place⟩ ⟨range, tag, hi, hplace, haccepts⟩

theorem basic_chooses_by_more_than_star_sa :
    (basic [Range.ofTag "*-SA"] ["en-GB", "ar-SA"] = some 1 ∧
      ∃ range ∈ [Range.ofTag "*-SA"], ∃ steps tag,
        ["en-GB", "ar-SA"][1]? = some tag ∧ range.Accepts steps tag ∧
          (range.pattern steps ≠ ['*'] ∨ range.StartsWithStar)) ∧
    ∃ place, basic [Range.ofTag "*", Range.ofTag "*-SA"] ["en-GB", "en"] = some place := by
  have hbasic : basic [Range.ofTag "*-SA"] ["en-GB", "ar-SA"] = some 1 := by decide +kernel
  have hmatches : Pattern.Matches Char.isAlphanum ['*'] (Text.lower "en".toList) :=
    accepts_lower_iff.1 (by decide)
  exact ⟨⟨hbasic, (basic_chooses_by_more_than_star _ _).1 1 hbasic⟩,
    (basic_chooses_by_more_than_star [Range.ofTag "*", Range.ofTag "*-SA"] ["en-GB", "en"]).2
      ⟨Range.ofTag "*-SA", by decide, by decide⟩ ⟨"en", by decide, hmatches⟩⟩

theorem patterns_star_sa : patterns (Range.ofTag "*-SA") = [['*', '-', 's', 'a'], ['*']] := by
  decide +kernel

/-- The one pattern that accepts the tag is the star that truncation leaves. -/
theorem basic_chooses_by_star :
    basic [Range.ofTag "*-SA"] ["en"] = some 0 ∧
      ¬∃ range ∈ [Range.ofTag "*-SA"], ∃ steps, range.Accepts steps "en" ∧
        range.pattern steps ≠ ['*'] := by
  refine ⟨by decide +kernel, ?_⟩
  rintro ⟨range, hrange, steps, haccepts, hstar⟩
  obtain rfl := List.mem_singleton.1 hrange
  obtain ⟨pattern, hpattern, hmatch⟩ := range_accepts_iff.1 haccepts
  have hrow := hpattern
  rw [patterns_star_sa] at hrow
  match steps with
  | 0 =>
      obtain rfl := Option.some.inj hrow
      exact absurd hmatch (by decide)
  | 1 =>
      obtain rfl := Option.some.inj hrow
      exact hstar (getElem?_patterns.1 hpattern).2.1
  | steps + 2 => exact absurd hrow (by simp)

end Resolution

end Language

end Phrasebook
