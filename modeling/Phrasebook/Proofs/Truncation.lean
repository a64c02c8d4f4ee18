import Phrasebook.Language.Pattern
import Mathlib.Data.List.Iterate
import Mathlib.Data.List.TakeWhile
import Mathlib.Logic.Function.Iterate

/-! What is left of a pattern when it is truncated again and again. A truncation ends the pattern
before a hyphen (`eq_append_truncate`), so there are at most as many as hyphens before nothing is
left. A prefix that ends before a hyphen is still a prefix of that kind after a truncation, unless
it ends with a singleton, which may be dropped (`truncate_of_append`). So such a prefix is reached
(`mem_chain_of_append`), and the first subtag comes last (`chain_skips_singletons`). -/

namespace Phrasebook.Language.Pattern

/-- There is a hyphen, and what follows the last one takes one byte. -/
def EndsWithSingleton (pattern : List Char) : Prop :=
  ∃ before last, pattern = before ++ '-' :: last ∧ '-' ∉ last ∧ Text.bytes last = 1

theorem endsWithSingleton_iff {pattern : List Char} :
    EndsWithSingleton pattern ↔
      ∃ before ∈ Text.beforeLast '-' pattern, Text.bytes pattern = Text.bytes before + 2 := by
  have hhyphen (last : List Char) : Text.bytes ('-' :: last) = 1 + Text.bytes last :=
    Text.bytes_cons '-' last
  constructor
  · rintro ⟨before, last, rfl, hlast, hbytes⟩
    refine ⟨before, Text.beforeLast_append hlast before, ?_⟩
    rw [Text.bytes_append, hhyphen, hbytes]
  · rintro ⟨before, hbefore, hbytes⟩
    obtain ⟨last, rfl, hlast⟩ := Text.eq_append_of_beforeLast hbefore
    rw [Text.bytes_append, hhyphen] at hbytes
    exact ⟨before, last, rfl, hlast, by omega⟩

instance (pattern : List Char) : Decidable (EndsWithSingleton pattern) :=
  decidable_of_iff _ endsWithSingleton_iff.symm

/-! ### One truncation -/

@[simp] theorem truncate_nil : truncate [] = [] := rfl

/-- A truncation ends a pattern before its last hyphen, or before the last but one if there is a
singleton between the two. -/
theorem truncate_cases (pattern : List Char) :
    ('-' ∉ pattern ∧ truncate pattern = []) ∨
    (∃ last, pattern = truncate pattern ++ '-' :: last ∧ '-' ∉ last) ∨
    ∃ shorter last singleton, pattern = shorter ++ '-' :: last ∧ '-' ∉ last ∧
      shorter = truncate pattern ++ '-' :: singleton ∧ '-' ∉ singleton ∧
      EndsWithSingleton shorter := by
  cases hshorter : Text.beforeLast '-' pattern with
  | none => exact .inl ⟨Text.beforeLast_eq_none_iff.1 hshorter, by simp only [truncate, hshorter]⟩
  | some shorter =>
      right
      obtain ⟨last, hpattern, hlast⟩ := Text.eq_append_of_beforeLast hshorter
      by_cases hends : EndsWithSingleton shorter
      · right
        obtain ⟨shortest, hshortest, hbytes⟩ := endsWithSingleton_iff.1 hends
        rw [Option.mem_def] at hshortest
        have htruncate : truncate pattern = shortest := by
          simp only [truncate, hshorter, hshortest, if_pos hbytes]
        obtain ⟨singleton, hsingleton, hno⟩ := Text.eq_append_of_beforeLast hshortest
        rw [htruncate]
        exact ⟨shorter, last, singleton, hpattern, hlast, hsingleton, hno, hends⟩
      · left
        have htruncate : truncate pattern = shorter := by
          cases hshortest : Text.beforeLast '-' shorter with
          | none => simp only [truncate, hshorter, hshortest]
          | some shortest =>
              have hbytes : ¬Text.bytes shorter = Text.bytes shortest + 2 :=
                fun hbytes => hends (endsWithSingleton_iff.2 ⟨shortest, hshortest, hbytes⟩)
              simp only [truncate, hshorter, hshortest, if_neg hbytes]
        exact ⟨last, by rw [htruncate, hpattern], hlast⟩

theorem eq_append_truncate {pattern : List Char} (h : truncate pattern ≠ []) :
    ∃ rest, pattern = truncate pattern ++ '-' :: rest := by
  rcases truncate_cases pattern with
    ⟨-, hnil⟩ | ⟨last, hpattern, -⟩ | ⟨shorter, last, singleton, hpattern, -, hshorter, -⟩
  · exact absurd hnil h
  · exact ⟨last, hpattern⟩
  · refine ⟨singleton ++ '-' :: last, ?_⟩
    calc pattern = shorter ++ '-' :: last := hpattern
      _ = (truncate pattern ++ '-' :: singleton) ++ '-' :: last := by rw [← hshorter]
      _ = truncate pattern ++ '-' :: (singleton ++ '-' :: last) := by
        rw [List.append_assoc, List.cons_append]

theorem truncate_of_not_mem {pattern : List Char} (h : '-' ∉ pattern) : truncate pattern = [] := by
  rw [truncate, Text.beforeLast_eq_none_iff.2 h]

/-- A prefix that ends before a hyphen does not go beyond the last one. -/
theorem prefix_before_last {shorter rest before last : List Char}
    (h : shorter ++ '-' :: rest = before ++ '-' :: last) (hlast : '-' ∉ last) :
    before = shorter ∨ ∃ later, before = shorter ++ '-' :: later := by
  rcases List.append_eq_append_iff.1 h with ⟨gap, hbefore, hgap⟩ | ⟨gap, hshorter, hgap⟩
  · cases gap with
    | nil => exact .inl (hbefore.trans (List.append_nil shorter))
    | cons c gap =>
        obtain ⟨rfl, -⟩ := List.cons.inj hgap
        exact .inr ⟨gap, hbefore⟩
  · cases gap with
    | nil => exact .inl (hshorter.trans (List.append_nil before)).symm
    | cons c gap =>
        obtain ⟨-, hinner⟩ := List.cons.inj hgap
        rw [hinner] at hlast
        exact absurd (List.mem_append_right gap List.mem_cons_self) hlast

/-- A truncation does not go beyond a prefix that ends before a hyphen and not with a singleton. -/
theorem truncate_of_append {pattern shorter rest : List Char}
    (h : pattern = shorter ++ '-' :: rest) (hends : ¬EndsWithSingleton shorter) :
    truncate pattern = shorter ∨ ∃ later, truncate pattern = shorter ++ '-' :: later := by
  rcases truncate_cases pattern with
    ⟨hno, -⟩ | ⟨last, hpattern, hlast⟩ |
      ⟨before, last, singleton, hpattern, hlast, hbefore, hsingleton, hsingle⟩
  · exact absurd (h ▸ List.mem_append_right shorter List.mem_cons_self) hno
  · exact prefix_before_last (h.symm.trans hpattern) hlast
  · rcases prefix_before_last (h.symm.trans hpattern) hlast with rfl | ⟨later, hlater⟩
    · exact absurd hsingle hends
    · exact prefix_before_last (hlater.symm.trans hbefore) hsingleton

/-- Each truncation takes a hyphen away, as long as something is left. -/
theorem count_truncate_lt {pattern : List Char} (h : truncate pattern ≠ []) :
    (truncate pattern).count '-' < pattern.count '-' := by
  obtain ⟨rest, hpattern⟩ := eq_append_truncate h
  have hcount := congrArg (List.count '-') hpattern
  rw [List.count_append, List.count_cons_self] at hcount
  omega

/-! ### All truncations -/

theorem eq_append_iterate_truncate {pattern : List Char} {steps : Nat}
    (h : truncate^[steps] pattern ≠ []) :
    truncate^[steps] pattern = pattern ∨
      ∃ rest, pattern = truncate^[steps] pattern ++ '-' :: rest := by
  induction steps with
  | zero => exact .inl rfl
  | succ steps ih =>
      rw [Function.iterate_succ_apply'] at h ⊢
      obtain ⟨rest, hlast⟩ := eq_append_truncate h
      have hne : truncate^[steps] pattern ≠ [] := by
        rw [hlast]
        exact List.append_ne_nil_of_left_ne_nil h _
      rcases ih hne with heq | ⟨later, heq⟩
      · rw [heq] at hlast ⊢
        exact .inr ⟨rest, hlast⟩
      · refine .inr ⟨rest ++ '-' :: later, ?_⟩
        rw [hlast, List.append_assoc, List.cons_append] at heq
        exact heq

theorem getElem?_chain {pattern shorter : List Char} {steps : Nat} :
    (chain pattern)[steps]? = some shorter ↔ truncate^[steps] pattern = shorter ∧ shorter ≠ [] := by
  induction steps generalizing pattern with
  | zero =>
      cases pattern with
      | nil => simp [chain]
      | cons c cs =>
          rw [chain, List.getElem?_cons_zero, Function.iterate_zero, id_eq, Option.some.injEq]
          refine ⟨fun h => ⟨h, ?_⟩, And.left⟩
          exact h ▸ List.cons_ne_nil c cs
  | succ steps ih =>
      rw [Function.iterate_succ_apply]
      cases pattern with
      | nil =>
          rw [truncate_nil, Function.iterate_fixed truncate_nil]
          simp [chain]
      | cons c cs => rw [chain, List.getElem?_cons_succ, ih]

theorem length_chain_le (pattern : List Char) :
    (chain pattern).length ≤ pattern.count '-' + 1 := by
  fun_induction chain pattern with
  | case1 => exact Nat.zero_le _
  | case2 c cs ih =>
      rw [List.length_cons]
      by_cases hnil : truncate (c :: cs) = []
      · rw [hnil, chain, List.length_nil]
        omega
      · have hlt := count_truncate_lt hnil
        omega

/-- The chain ends where nothing is left. -/
theorem iterate_length_chain (pattern : List Char) :
    truncate^[(chain pattern).length] pattern = [] := by
  fun_induction chain pattern with
  | case1 => rfl
  | case2 c cs ih => rw [List.length_cons, Function.iterate_succ_apply, ih]

theorem chain_eq_iterate (pattern : List Char) :
    chain pattern = List.iterate truncate pattern (chain pattern).length := by
  fun_induction chain pattern with
  | case1 => rfl
  | case2 c cs ih => rw [List.length_cons, List.iterate, ← ih]

theorem nil_not_mem_chain (pattern : List Char) : [] ∉ chain pattern := by
  intro hmem
  obtain ⟨steps, hsteps⟩ := List.mem_iff_getElem?.1 hmem
  exact (getElem?_chain.1 hsteps).2 rfl

theorem self_mem_chain {pattern : List Char} (h : pattern ≠ []) : pattern ∈ chain pattern := by
  obtain ⟨c, cs, rfl⟩ := List.exists_cons_of_ne_nil h
  rw [chain]
  exact List.mem_cons_self

theorem mem_chain_of_append {pattern shorter rest : List Char}
    (h : pattern = shorter ++ '-' :: rest) (hne : shorter ≠ [])
    (hends : ¬EndsWithSingleton shorter) : shorter ∈ chain pattern := by
  -- What follows the prefix becomes shorter until the prefix itself is left.
  fun_induction chain pattern generalizing rest with
  | case1 => exact absurd h.symm (List.append_ne_nil_of_left_ne_nil hne _)
  | case2 c cs ih =>
      apply List.mem_cons_of_mem
      rcases truncate_of_append h hends with heq | ⟨later, heq⟩
      · rw [heq]
        exact self_mem_chain hne
      · exact ih heq

theorem hyphen_not_mem_primary (pattern : List Char) : '-' ∉ pattern.takeWhile (· != '-') := by
  intro hmem
  simpa using List.mem_takeWhile_imp hmem

theorem eq_primary_or_append (pattern : List Char) :
    pattern = pattern.takeWhile (· != '-') ∨
      ∃ rest, pattern = pattern.takeWhile (· != '-') ++ '-' :: rest := by
  have hparts : pattern.takeWhile (· != '-') ++ pattern.dropWhile (· != '-') = pattern :=
    List.takeWhile_append_dropWhile
  cases hrest : pattern.dropWhile (· != '-') with
  | nil =>
      rw [hrest, List.append_nil] at hparts
      exact .inl hparts.symm
  | cons c rest =>
      have hc : c = '-' := by
        have hhead := List.head?_dropWhile_not (· != '-') pattern
        simpa [hrest] using hhead
      rw [hrest, hc] at hparts
      exact .inr ⟨rest, hparts.symm⟩

/-- The first subtag is reached after all others. -/
theorem getLast?_chain {pattern primary : List Char} (hne : primary ≠ []) (hno : '-' ∉ primary)
    (h : pattern = primary ∨ ∃ rest, pattern = primary ++ '-' :: rest) :
    (chain pattern).getLast? = some primary := by
  have hends : ¬EndsWithSingleton primary := by
    rintro ⟨before, last, rfl, -⟩
    exact hno (List.mem_append_right before List.mem_cons_self)
  fun_induction chain pattern with
  | case1 =>
      rcases h with h | ⟨rest, h⟩
      · exact absurd h.symm hne
      · exact absurd h.symm (List.append_ne_nil_of_left_ne_nil hne _)
  | case2 c cs ih =>
      rw [List.getLast?_cons]
      rcases h with heq | ⟨rest, heq⟩
      · rw [truncate_of_not_mem (heq ▸ hno), chain, heq]
        rfl
      · rw [ih (truncate_of_append heq hends)]
        rfl

/-- Truncations reach the empty pattern in at most one step more than there are hyphens, and the
chain is what they pass on the way. Each ends a pattern before a hyphen, or leaves nothing. Whatever
stands before a hyphen of the pattern is passed, unless it ends with a singleton, and the first
subtag is passed last. -/
theorem chain_skips_singletons (pattern : List Char) :
    (∃ steps ≤ pattern.count '-' + 1, truncate^[steps] pattern = [] ∧
      chain pattern = List.iterate truncate pattern steps ∧ [] ∉ chain pattern) ∧
    (∀ steps, truncate^[steps + 1] pattern = [] ∨
      ∃ rest, truncate^[steps] pattern = truncate^[steps + 1] pattern ++ '-' :: rest) ∧
    (∀ shorter rest, pattern = shorter ++ '-' :: rest → shorter ≠ [] →
      ¬EndsWithSingleton shorter → shorter ∈ chain pattern) ∧
    (pattern.takeWhile (· != '-') ≠ [] →
      (chain pattern).getLast? = some (pattern.takeWhile (· != '-'))) := by
  refine ⟨⟨(chain pattern).length, length_chain_le pattern, iterate_length_chain pattern,
    chain_eq_iterate pattern, nil_not_mem_chain pattern⟩, ?_, ?_, ?_⟩
  · intro steps
    rw [Function.iterate_succ_apply']
    by_cases hnil : truncate (truncate^[steps] pattern) = []
    · exact .inl hnil
    · exact .inr (eq_append_truncate hnil)
  · intro shorter rest h hne hends
    exact mem_chain_of_append h hne hends
  · intro hne
    exact getLast?_chain hne (hyphen_not_mem_primary pattern) (eq_primary_or_append pattern)

theorem chain_skips_singletons_twain :
    let pattern := "de-1901-a-bb-x-twain".toList
    "de-1901-a-bb".toList ∈ chain pattern ∧ (chain pattern).getLast? = some "de".toList := by
  obtain ⟨-, -, hvisits, hlast⟩ := chain_skips_singletons "de-1901-a-bb-x-twain".toList
  exact ⟨hvisits _ "x-twain".toList (by decide) (by decide) (by decide), hlast (by decide)⟩

end Phrasebook.Language.Pattern
