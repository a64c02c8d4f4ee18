import Phrasebook.Proofs.Letters
import Phrasebook.Text.Cut
import Mathlib.Data.List.Basic
import Mathlib.Data.List.TakeWhile

/-! Trimming drops blanks at both ends and nothing else; cutting finds the first separator. -/

namespace Phrasebook.Text

/-- A text without blanks at its ends. -/
def IsTrimmed (s : List Char) : Prop :=
  trim s = s

instance (s : List Char) : Decidable (IsTrimmed s) :=
  inferInstanceAs (Decidable (trim s = s))

theorem IsTrimmed.trim_eq {s : List Char} (h : IsTrimmed s) : trim s = s := h

theorem trimEnd_concat {b : Char} (h : isBlank b = true) (s : List Char) :
    trimEnd (s ++ [b]) = trimEnd s := by
  rw [trimEnd, List.reverse_append, List.reverse_singleton, List.singleton_append,
    List.dropWhile_cons_of_pos h, trimEnd]

theorem trimEnd_concat_of_not_blank {c : Char} (h : isBlank c = false) (s : List Char) :
    trimEnd (s ++ [c]) = s ++ [c] := by
  rw [trimEnd, List.reverse_append, List.reverse_singleton, List.singleton_append,
    List.dropWhile_cons_of_neg (by simp [h]), List.reverse_cons, List.reverse_reverse]

theorem trim_cons {b : Char} (h : isBlank b = true) (s : List Char) : trim (b :: s) = trim s := by
  rw [trim, trimStart, List.dropWhile_cons_of_pos h, trim, trimStart]

theorem trim_concat {b : Char} (h : isBlank b = true) (s : List Char) :
    trim (s ++ [b]) = trim s := by
  induction s with
  | nil => rw [List.nil_append, trim_cons h]
  | cons c s ih =>
      by_cases hc : isBlank c = true
      · rw [List.cons_append, trim_cons hc, trim_cons hc, ih]
      · rw [trim, trimStart, List.cons_append, List.dropWhile_cons_of_neg hc, ← List.cons_append,
          trimEnd_concat h, trim, trimStart, List.dropWhile_cons_of_neg hc]

theorem mem_of_mem_trim {c : Char} {s : List Char} (h : c ∈ trim s) : c ∈ s := by
  rw [trim, trimEnd, List.mem_reverse] at h
  have hstart : c ∈ trimStart s := List.mem_reverse.1 ((List.dropWhile_sublist _).mem h)
  exact (List.dropWhile_sublist _).mem hstart

theorem length_trim_le (s : List Char) : (trim s).length ≤ s.length := by
  have hstart : (trimStart s).length ≤ s.length := (List.dropWhile_sublist _).length_le
  have hend : (trim s).length ≤ (trimStart s).reverse.length := by
    rw [trim, trimEnd, List.length_reverse]
    exact (List.dropWhile_sublist _).length_le
  rw [List.length_reverse] at hend
  omega

theorem IsTrimmed.head_not_blank {c : Char} {s : List Char} (h : IsTrimmed (c :: s)) :
    isBlank c = false := by
  cases hblank : isBlank c with
  | false => rfl
  | true =>
      have hlength := congrArg List.length (Eq.symm h)
      have hle := length_trim_le s
      rw [trim_cons hblank, List.length_cons] at hlength
      omega

theorem IsTrimmed.last_not_blank {c : Char} {s : List Char} (h : IsTrimmed (s ++ [c])) :
    isBlank c = false := by
  cases hblank : isBlank c with
  | false => rfl
  | true =>
      have hlength := congrArg List.length (Eq.symm h)
      have hle := length_trim_le s
      rw [trim_concat hblank, List.length_append, List.length_singleton] at hlength
      omega

theorem isTrimmed_of_ends {c d : Char} {s t : List Char} (hends : c :: s = t ++ [d])
    (hc : isBlank c = false) (hd : isBlank d = false) : IsTrimmed (c :: s) := by
  rw [IsTrimmed, trim, trimStart, List.dropWhile_cons_of_neg (by simp [hc]), hends,
    trimEnd_concat_of_not_blank hd]

/-- Whatever stands between trimmed texts, the ends of the whole are theirs. -/
theorem IsTrimmed.append {s t : List Char} (hs : IsTrimmed s) (hsne : s ≠ []) (ht : IsTrimmed t)
    (htne : t ≠ []) (between : List Char) : IsTrimmed (s ++ between ++ t) := by
  obtain ⟨c, s, rfl⟩ := List.exists_cons_of_ne_nil hsne
  obtain ⟨t, d, rfl⟩ := (List.eq_nil_or_concat' t).resolve_left htne
  have hends : c :: (s ++ between ++ (t ++ [d])) = (c :: s ++ between ++ t) ++ [d] := by simp
  exact isTrimmed_of_ends hends hs.head_not_blank ht.last_not_blank

theorem IsTrimmed.trimStart_append {s : List Char} (h : IsTrimmed s) (hne : s ≠ []) (t : List Char) :
    trimStart (s ++ t) = s ++ t := by
  obtain ⟨c, s, rfl⟩ := List.exists_cons_of_ne_nil hne
  rw [trimStart, List.cons_append, List.dropWhile_cons_of_neg (by simp [h.head_not_blank])]

theorem trim_ne_nil {s : List Char} {c : Char} (hmem : c ∈ s) (hc : isBlank c = false) :
    trim s ≠ [] := by
  induction s with
  | nil => exact absurd hmem List.not_mem_nil
  | cons d s ih =>
      by_cases hd : isBlank d = true
      · rw [trim_cons hd]
        apply ih
        rcases List.mem_cons.1 hmem with rfl | hmem
        · rw [hc] at hd
          exact absurd hd Bool.false_ne_true
        · exact hmem
      · rw [trim, trimStart, List.dropWhile_cons_of_neg hd, trimEnd]
        intro hnil
        have hall := List.dropWhile_eq_nil_iff.1 (List.reverse_eq_nil_iff.1 hnil)
        exact hd (hall d (by simp))

theorem head?_trimEnd_cons {c : Char} (h : isBlank c = false) (s : List Char) :
    (trimEnd (c :: s)).head? = some c := by
  have hc : ¬isBlank c = true := by simp [h]
  rw [trimEnd, List.reverse_cons, List.dropWhile_append, List.dropWhile_cons_of_neg hc]
  split
  · rfl
  · rw [List.reverse_append]
    rfl

/-- A trimmed text begins with the first character that is not blank. -/
theorem head?_trim (s : List Char) : (trim s).head? = s.find? fun c => !isBlank c := by
  induction s with
  | nil => rfl
  | cons c s ih =>
      cases hc : isBlank c with
      | true => rw [trim_cons hc, ih, List.find?_cons_of_neg (by simp [hc])]
      | false =>
          rw [trim, trimStart, List.dropWhile_cons_of_neg (by simp [hc]), head?_trimEnd_cons hc,
            List.find?_cons_of_pos (by simp [hc])]

theorem head?_trimStart (s : List Char) :
    (trimStart s).head? = s.find? fun c => !isBlank c := by
  rw [List.find?_eq_head?_dropWhile_not, trimStart]
  simp only [Bool.not_not]

/-- Trimming leaves out blanks at both ends. -/
theorem exists_trim_append (s : List Char) :
    ∃ lead tail, s = lead ++ (trim s ++ tail) ∧ (∀ c ∈ lead, isBlank c = true) ∧
      ∀ c ∈ tail, isBlank c = true := by
  refine ⟨s.takeWhile isBlank, ((trimStart s).reverse.takeWhile isBlank).reverse, ?_, ?_, ?_⟩
  · rw [trim, trimEnd, ← List.reverse_append, List.takeWhile_append_dropWhile, List.reverse_reverse,
      trimStart, List.takeWhile_append_dropWhile]
  · exact fun c hc => List.mem_takeWhile_imp hc
  · exact fun c hc => List.mem_takeWhile_imp (List.mem_reverse.1 hc)

theorem isTrimmed_of_isPlain {s : List Char} (h : ∀ c ∈ s, isPlain c = true) : IsTrimmed s := by
  cases s with
  | nil => rfl
  | cons c s =>
      obtain ⟨t, d, hends⟩ := (List.eq_nil_or_concat' (c :: s)).resolve_left (List.cons_ne_nil c s)
      have hc := isBlank_of_isPlain (h c List.mem_cons_self)
      have hd := isBlank_of_isPlain (h d (hends ▸ List.mem_concat_self))
      exact isTrimmed_of_ends hends hc hd

/-- A stretch of characters of one kind ends where a character of another kind follows. -/
theorem span_append {p : Char → Bool} {s rest : List Char} (hs : ∀ c ∈ s, p c = true)
    (hrest : ∀ c ∈ rest.head?, p c = false) :
    (s ++ rest).takeWhile p = s ∧ (s ++ rest).dropWhile p = rest := by
  rw [List.takeWhile_append_of_pos hs, List.dropWhile_append_of_pos hs]
  cases rest with
  | nil => exact ⟨List.append_nil s, rfl⟩
  | cons c rest =>
      have hc : ¬p c = true := by
        rw [hrest c rfl]
        exact Bool.false_ne_true
      rw [List.takeWhile_cons_of_neg hc, List.dropWhile_cons_of_neg hc]
      exact ⟨List.append_nil s, rfl⟩

theorem cutWhere_append {stop : Char → Bool} {before : List Char}
    (hbefore : ∀ c ∈ before, stop c = false) {mark : Char} (hmark : stop mark = true)
    (after : List Char) : cutWhere stop (before ++ mark :: after) = some (before, after) := by
  induction before with
  | nil => rw [List.nil_append, cutWhere, if_pos hmark]
  | cons c before ih =>
      obtain ⟨hc, hbefore⟩ := List.forall_mem_cons.1 hbefore
      rw [List.cons_append, cutWhere, if_neg (by simp [hc]), ih hbefore, Option.map_some]

theorem cutAt_append {mark : Char} {before : List Char} (h : mark ∉ before) (after : List Char) :
    cutAt mark (before ++ mark :: after) = some (before, after) := by
  apply cutWhere_append
  · intro c hc
    exact beq_false_of_ne fun heq => h (heq ▸ hc)
  · exact beq_self_eq_true mark

theorem cutAt_eq_none_iff {mark : Char} {s : List Char} : cutAt mark s = none ↔ mark ∉ s := by
  rw [cutAt, cutWhere_eq_none_iff]
  constructor
  · exact fun h hmem => absurd (h mark hmem) (by simp)
  · exact fun h c hc => beq_false_of_ne fun heq => h (heq ▸ hc)

theorem cutAt_eq_some_iff {mark : Char} {s before after : List Char} :
    cutAt mark s = some (before, after) ↔ s = before ++ mark :: after ∧ mark ∉ before := by
  constructor
  · intro h
    obtain ⟨c, hc, rfl, hbefore⟩ := eq_append_of_cutWhere h
    obtain rfl : c = mark := by simpa using hc
    exact ⟨rfl, fun hmem => absurd (hbefore _ hmem) (by simp)⟩
  · rintro ⟨rfl, hbefore⟩
    exact cutAt_append hbefore after

end Phrasebook.Text
