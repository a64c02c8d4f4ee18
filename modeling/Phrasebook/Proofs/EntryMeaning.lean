import Phrasebook.Proofs.CountText
import Phrasebook.Proofs.Trimming
import Phrasebook.Source.Modifier

/-! What an entry of the metadata means, for every text of an entry. The rule (`Token.Means`) tries
a range of counts, then a word for a gender, then an attribute. The hyphen that separates the name
of an attribute from its value is also the sign of an integer and of an infinite bound, so it is the
range that is tried first; words for genders hold no separator and are no ranges, so it does not
matter that they are looked up last in the key and first in the meaning (`meaning_iff_means`). -/

namespace Phrasebook

/-- The word for a gender, in any case; its first letter is enough. -/
def Gender.IsWord (gender : Gender) (word : List Char) : Prop :=
  word.map Char.toLower = gender.name.toList ∨
    word.map Char.toLower = gender.name.toList.take 1

namespace Gender

theorem parse?_of_isWord {gender : Gender} {word : List Char} (h : gender.IsWord word) :
    parse? word = some gender := by
  cases gender with
  | male =>
      have hlowered : word.map Char.toLower = ['m', 'a', 'l', 'e'] ∨
          word.map Char.toLower = ['m'] := h
      simp only [parse?, if_pos hlowered]
  | female =>
      have hlowered : word.map Char.toLower = ['f', 'e', 'm', 'a', 'l', 'e'] ∨
          word.map Char.toLower = ['f'] := h
      have hmale : ¬(word.map Char.toLower = ['m', 'a', 'l', 'e'] ∨
          word.map Char.toLower = ['m']) := by
        rcases hlowered with h | h <;> rw [h] <;> decide
      simp only [parse?, if_neg hmale, if_pos hlowered]

theorem isWord_of_parse? {gender : Gender} {word : List Char} (h : parse? word = some gender) :
    gender.IsWord word := by
  simp only [parse?] at h
  split at h
  next hmale =>
    obtain rfl := Option.some.inj h
    exact hmale
  next =>
    split at h
    next hfemale =>
      obtain rfl := Option.some.inj h
      exact hfemale
    next => cases h

theorem IsWord.isAlpha {gender : Gender} {word : List Char} (h : gender.IsWord word) :
    word ≠ [] ∧ ∀ c ∈ word, c.isAlpha = true := by
  have hletters : ∀ c ∈ gender.name.toList, c.isAlpha = true := by
    cases gender <;> simp [name]
  have hmap : word.map Char.toLower ≠ [] ∧
      ∀ c ∈ word.map Char.toLower, c ∈ gender.name.toList := by
    rcases h with h | h
    · rw [h]
      exact ⟨by cases gender <;> decide, fun c hc => hc⟩
    · rw [h]
      exact ⟨by cases gender <;> decide, fun c hc => List.mem_of_mem_take hc⟩
  refine ⟨?_, ?_⟩
  · rintro rfl
    exact hmap.1 rfl
  · intro c hc
    exact Text.isAlpha_of_isAlpha_toLower (hletters _ (hmap.2 _ (List.mem_map_of_mem hc)))

theorem parse?_eq_none_iff {word : List Char} :
    parse? word = none ↔ ∀ gender : Gender, ¬gender.IsWord word := by
  rw [Option.eq_none_iff_forall_not_mem]
  exact forall_congr' fun gender => not_congr ⟨isWord_of_parse?, parse?_of_isWord⟩

/-- A word for a gender is no range of counts. -/
theorem IsWord.parse?_eq_none {gender : Gender} {word : List Char} (h : gender.IsWord word) :
    CountRange.parse? word = none :=
  CountRange.parse?_eq_none_of_isAlpha h.isAlpha.1 h.isAlpha.2

end Gender

namespace Key.Token

/-- What may stand between the name and the value of an attribute. -/
def separators : List Char :=
  ['-', '|', '=', ':', ' ']

/-- The rule for the meaning of an entry, whose cases exclude each other. -/
inductive Means (s : List Char) : Modifier → Prop where
  | countRange {range : CountRange} (h : CountRange.parse? s = some range) :
      Means s (.countRange range)
  | gender {gender : Gender} (hrange : CountRange.parse? s = none) (h : gender.IsWord s) :
      Means s (.gender gender)
  | assigned {name value : List Char} {separator : Char} (hrange : CountRange.parse? s = none)
      (hgender : ∀ gender : Gender, ¬gender.IsWord s) (htext : s = name ++ separator :: value)
      (hseparator : separator ∈ separators) (hfirst : ∀ c ∈ name, c ∉ separators) :
      Means s (.attribute (String.ofList (Text.trim name)) (String.ofList (Text.trim value)))
  | invalid (hrange : CountRange.parse? s = none)
      (hgender : ∀ gender : Gender, ¬gender.IsWord s) (hnone : ∀ c ∈ s, c ∉ separators) :
      Means s (.invalid (String.ofList s))

theorem isAssignment_iff {c : Char} : isAssignment c = true ↔ c ∈ separators := by
  simp only [isAssignment, separators, Bool.or_eq_true, beq_iff_eq, List.mem_cons,
    List.not_mem_nil, or_false, or_assoc]

theorem isAssignment_eq_false_iff {c : Char} : isAssignment c = false ↔ c ∉ separators := by
  rw [← isAssignment_iff, Bool.not_eq_true]

theorem isAssignment_of_isAlpha {c : Char} (h : c.isAlpha = true) : isAssignment c = false := by
  rw [isAssignment_eq_false_iff]
  intro hseparator
  simp only [separators, List.mem_cons, List.not_mem_nil, or_false] at hseparator
  rcases hseparator with rfl | rfl | rfl | rfl | rfl <;> exact absurd h (by decide)

/-- No letter separates, so no word for a gender has a name and a value. -/
theorem not_isWord_of_separator {name value : List Char} {separator : Char}
    (h : separator ∈ separators) (gender : Gender) :
    ¬gender.IsWord (name ++ separator :: value) := by
  intro hword
  have hletter : separator.isAlpha = true := hword.isAlpha.2 separator (by simp)
  exact isAssignment_eq_false_iff.1 (isAssignment_of_isAlpha hletter) h

/-- A range of counts is kept whole, and read again where its meaning is asked for. -/
theorem meaning_of_range {s : List Char} {range : CountRange}
    (h : CountRange.parse? s = some range) : (ofText s).meaning = .countRange range := by
  have hgender : Gender.parse? s = none := by
    rw [Gender.parse?_eq_none_iff]
    intro gender hword
    rw [hword.parse?_eq_none] at h
    cases h
  simp only [ofText, h, Option.isSome_some, if_pos, meaning, String.toList_ofList, hgender]

/-- An entry has the meaning that the rule gives it. -/
theorem means_meaning (s : List Char) : Means s (ofText s).meaning := by
  cases hrange : CountRange.parse? s with
  | some range =>
      rw [meaning_of_range hrange]
      exact .countRange hrange
  | none =>
      rw [ofText, hrange, Option.isSome_none, if_neg Bool.false_ne_true]
      cases hcut : Text.cutWhere isAssignment s with
      | some parts =>
          obtain ⟨name, value⟩ := parts
          obtain ⟨separator, hseparator, htext, hfirst⟩ := Text.eq_append_of_cutWhere hcut
          rw [isAssignment_iff] at hseparator
          refine .assigned hrange ?_ htext hseparator
            fun c hc => isAssignment_eq_false_iff.1 (hfirst c hc)
          rw [htext]
          exact not_isWord_of_separator hseparator
      | none =>
          have hnone : ∀ c ∈ s, c ∉ separators := fun c hc =>
            isAssignment_eq_false_iff.1 (Text.cutWhere_eq_none_iff.1 hcut c hc)
          simp only [meaning, String.toList_ofList]
          cases hgender : Gender.parse? s with
          | some gender => exact .gender hrange (Gender.isWord_of_parse? hgender)
          | none =>
              simp only [hrange]
              exact .invalid hrange (Gender.parse?_eq_none_iff.1 hgender) hnone

theorem Means.meaning_eq {s : List Char} {modifier : Modifier} (h : Means s modifier) :
    (ofText s).meaning = modifier := by
  cases h with
  | countRange h => exact meaning_of_range h
  | @gender gender hrange h =>
      have hcut : Text.cutWhere isAssignment s = none :=
        Text.cutWhere_eq_none_iff.2 fun c hc => isAssignment_of_isAlpha (h.isAlpha.2 c hc)
      rw [ofText, hrange, Option.isSome_none, if_neg Bool.false_ne_true, hcut]
      simp only [meaning, String.toList_ofList, Gender.parse?_of_isWord h]
  | @assigned name value separator hrange hgender htext hseparator hfirst =>
      have hcut : Text.cutWhere isAssignment s = some (name, value) := by
        rw [htext]
        exact Text.cutWhere_append (fun c hc => isAssignment_eq_false_iff.2 (hfirst c hc))
          (isAssignment_iff.2 hseparator) value
      rw [ofText, hrange, Option.isSome_none, if_neg Bool.false_ne_true, hcut]
      rfl
  | invalid hrange hgender hnone =>
      have hcut : Text.cutWhere isAssignment s = none :=
        Text.cutWhere_eq_none_iff.2 fun c hc => isAssignment_eq_false_iff.2 (hnone c hc)
      rw [ofText, hrange, Option.isSome_none, if_neg Bool.false_ne_true, hcut]
      simp only [meaning, String.toList_ofList, Gender.parse?_eq_none_iff.2 hgender, hrange]

/-- An attribute that is trimmed on both sides of its separator is read as it is written. -/
theorem meaning_assigned {name value : List Char} {separator : Char}
    (hrange : CountRange.parse? (name ++ separator :: value) = none)
    (hseparator : separator ∈ separators) (hfirst : ∀ c ∈ name, c ∉ separators)
    (hname : Text.IsTrimmed name) (hvalue : Text.IsTrimmed value) :
    (ofText (name ++ separator :: value)).meaning =
      .attribute (String.ofList name) (String.ofList value) := by
  have hmeaning := Means.meaning_eq
    (.assigned hrange (not_isWord_of_separator hseparator) rfl hseparator hfirst)
  rwa [hname.trim_eq, hvalue.trim_eq] at hmeaning

/-- The meaning of an entry is the one that the rule gives it, and no range of counts is an
attribute, whatever hyphens it has. -/
theorem meaning_iff_means (s : List Char) :
    (∀ modifier, (ofText s).meaning = modifier ↔ Means s modifier) ∧
      ∀ range, CountRange.parse? s = some range →
        ∀ name value, (ofText s).meaning ≠ .attribute name value := by
  refine ⟨fun modifier => ⟨?_, Means.meaning_eq⟩, ?_⟩
  · rintro rfl
    exact means_meaning s
  · intro range hrange name value hattribute
    rw [meaning_of_range hrange] at hattribute
    cases hattribute

theorem meaning_iff_means_negative :
    CountRange.parse? "-infinity..-1_0".toList = some ⟨Int64.minValue, -10⟩ ∧
      ∀ name value, (ofText "-infinity..-1_0".toList).meaning ≠ .attribute name value := by
  have hrange : CountRange.parse? "-infinity..-1_0".toList = some ⟨Int64.minValue, -10⟩ := by
    decide +kernel
  exact ⟨hrange, (meaning_iff_means "-infinity..-1_0".toList).2 _ hrange⟩

end Key.Token

end Phrasebook
