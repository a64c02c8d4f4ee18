import Phrasebook.Proofs.QuotedLines
import Mathlib.Algebra.Group.Nat.Even

/-! Quoted values by the number of backslashes. A quote closes the value if an even number of
backslashes stands right before it on its line (`IsClosing`), and in the text up to there every
backslash stands before the character that it takes with it (`Unescapes`); only at the end of a line
that does not close the value can a lone backslash stand (`UnescapesLine`). The scanner finds the
closing quote by skipping escapes and resolves them afterwards, line by line; that both agree on the
lines of a value is `Statement.scanLines_quoted`. -/

namespace Phrasebook

namespace Quoted

/-- How many backslashes stand at the end of a text. -/
def trailing (s : List Char) : Nat :=
  (s.reverse.takeWhile (· == '\\')).length

/-- Every quote of the text has an odd number of backslashes right before it. -/
def IsOpen (quote : Char) (s : List Char) : Prop :=
  ∀ before after, s = before ++ quote :: after → ¬Even (trailing before)

/-- A text cut at the first quote that has an even number of backslashes right before it. -/
structure IsClosing (quote : Char) (s before after : List Char) : Prop where
  text : s = before ++ quote :: after
  even : Even (trailing before)
  first : IsOpen quote before

variable {quote : Char}

theorem IsClosing.not_isOpen {s before after : List Char} (h : IsClosing quote s before after) :
    ¬IsOpen quote s :=
  fun hopen => hopen before after h.text h.even

/-- A text that goes on after a closing quote is not what stands before the first one. -/
theorem IsClosing.eq_of_append {s before mid after after' : List Char}
    (h : IsClosing quote s before after) (h' : IsClosing quote s (before ++ mid) after') :
    before = before ++ mid := by
  have htext : before ++ quote :: after = before ++ (mid ++ quote :: after') := by
    rw [← List.append_assoc, ← h.text, h'.text]
  cases mid with
  | nil => rw [List.append_nil]
  | cons c mid =>
      obtain ⟨rfl, -⟩ := List.cons_eq_cons.1 (List.append_cancel_left htext)
      exact absurd h.even (h'.first before mid rfl)

theorem IsClosing.unique {s before after before' after' : List Char}
    (h : IsClosing quote s before after) (h' : IsClosing quote s before' after') :
    before = before' := by
  have htext := h.text.symm.trans h'.text
  rcases List.append_eq_append_iff.1 htext with ⟨mid, rfl, -⟩ | ⟨mid, rfl, -⟩
  · exact h.eq_of_append h'
  · exact (h'.eq_of_append h).symm

theorem trailing_cons_of_ne {c : Char} (h : c ≠ '\\') (s : List Char) :
    trailing (c :: s) = trailing s := by
  rw [trailing, trailing, List.reverse_cons, List.takeWhile_append]
  split
  next hall => simp [h, hall]
  next => rfl

theorem even_trailing_pair (c : Char) (s : List Char) :
    Even (trailing ('\\' :: c :: s)) ↔ Even (trailing s) := by
  have hsplit : ('\\' :: c :: s).reverse = s.reverse ++ [c, '\\'] := by simp
  rw [trailing, trailing, hsplit, List.takeWhile_append]
  split
  next hall =>
    by_cases hc : c = '\\'
    · have htwo : Even 2 := by decide
      simp [hc, hall, Nat.even_add, htwo]
    · simp [hc, hall]
  next => rfl

/-- Where the reader has found no pair, a backslash is the last character. -/
theorem eq_nil_of_not_pair {c : Char} {s : List Char}
    (hpair : ∀ d t, c = '\\' → s = d :: t → False) (hc : c = '\\') : s = [] := by
  cases s with
  | nil => rfl
  | cons d s => exact (hpair d s hc rfl).elim

theorem isOpen_cons {c : Char} {s : List Char} (hne : c ≠ quote) (hlone : c = '\\' → s = [])
    (h : IsOpen quote s) : IsOpen quote (c :: s) := by
  intro before after htext
  cases before with
  | nil => exact absurd (List.cons_eq_cons.1 htext).1 hne
  | cons d before =>
      obtain ⟨rfl, rfl⟩ := List.cons_eq_cons.1 htext
      rw [trailing_cons_of_ne fun hc => by simpa using hlone hc]
      exact h before after rfl

section

variable (hquote : quote ≠ '\\')
include hquote

theorem isOpen_pair {c : Char} {s : List Char} (h : IsOpen quote s) :
    IsOpen quote ('\\' :: c :: s) := by
  intro before after htext
  match before with
  | [] => exact absurd (List.cons_eq_cons.1 htext).1.symm hquote
  | ['\\'] => decide
  | b :: d :: before =>
      obtain ⟨rfl, rfl, rfl⟩ : '\\' = b ∧ c = d ∧ s = before ++ quote :: after := by
        simpa using htext
      rw [even_trailing_pair]
      exact h before after rfl

theorem isOpen_of_beforeUnescaped? {s : List Char} (h : beforeUnescaped? quote s = none) :
    IsOpen quote s := by
  fun_induction beforeUnescaped? quote s with
  | case1 => simp [IsOpen]
  | case2 c s ih => exact isOpen_pair hquote (ih (Option.map_eq_none_iff.1 h))
  | case3 => cases h
  | case4 c s hpair hne ih =>
      exact isOpen_cons hne (eq_nil_of_not_pair hpair) (ih (Option.map_eq_none_iff.1 h))

theorem exists_isClosing {s before : List Char} (h : beforeUnescaped? quote s = some before) :
    ∃ after, IsClosing quote s before after := by
  fun_induction beforeUnescaped? quote s generalizing before with
  | case1 => cases h
  | case2 c s ih =>
      obtain ⟨before, hbefore, rfl⟩ := Option.map_eq_some_iff.1 h
      obtain ⟨after, rfl, heven, hfirst⟩ := ih hbefore
      exact ⟨after, rfl, (even_trailing_pair c before).2 heven, isOpen_pair hquote hfirst⟩
  | case3 s =>
      obtain rfl := Option.some.inj h
      exact ⟨s, rfl, by decide, by simp [IsOpen]⟩
  | case4 c s hpair hne ih =>
      obtain ⟨before, hbefore, rfl⟩ := Option.map_eq_some_iff.1 h
      obtain ⟨after, rfl, heven, hfirst⟩ := ih hbefore
      have hc : c ≠ '\\' := fun hc => by simpa using eq_nil_of_not_pair hpair hc
      exact ⟨after, rfl, (trailing_cons_of_ne hc before).symm ▸ heven,
        isOpen_cons hne (fun heq => absurd heq hc) hfirst⟩

end

/-- How a part of a line is unescaped, if no lone backslash ends it. -/
inductive Unescapes (quote : Char) : List Char → List Char → Prop where
  | nil : Unescapes quote [] []
  | backslash {s t : List Char} (h : Unescapes quote s t) :
      Unescapes quote ('\\' :: '\\' :: s) ('\\' :: t)
  | quote {s t : List Char} (h : Unescapes quote s t) :
      Unescapes quote ('\\' :: quote :: s) (quote :: t)
  | other {c : Char} {s t : List Char} (hquote : c ≠ quote) (hbackslash : c ≠ '\\')
      (h : Unescapes quote s t) : Unescapes quote ('\\' :: c :: s) ('\\' :: c :: t)
  | plain {c : Char} {s t : List Char} (hbackslash : c ≠ '\\') (h : Unescapes quote s t) :
      Unescapes quote (c :: s) (c :: t)

/-- How a whole line is unescaped: a lone backslash at its end is dropped. -/
inductive UnescapesLine (quote : Char) : List Char → List Char → Prop where
  | whole {line t : List Char} (h : Unescapes quote line t) : UnescapesLine quote line t
  | lone {s t : List Char} (h : Unescapes quote s t) : UnescapesLine quote (s ++ ['\\']) t

/-- A part that a quote closes ends in no lone backslash. -/
theorem unescapes_of_even {s : List Char} (h : Even (trailing s)) :
    Unescapes quote s (unescape quote s) := by
  fun_induction unescape quote s with
  | case1 => exact .nil
  | case2 => exact absurd h (by decide)
  | case3 c s hc ih =>
      rw [even_trailing_pair] at h
      rcases hc with rfl | rfl
      · exact .quote (ih h)
      · exact .backslash (ih h)
  | case4 c s hc ih =>
      rw [even_trailing_pair] at h
      rw [not_or] at hc
      exact .other hc.1 hc.2 (ih h)
  | case5 c s hlone hpair ih =>
      have hc : c ≠ '\\' := fun hc => hlone hc (eq_nil_of_not_pair hpair hc)
      rw [trailing_cons_of_ne hc] at h
      exact .plain hc (ih h)

/-- What is read first does not change how the line ends. -/
theorem UnescapesLine.prepend {line t : List Char} (h : UnescapesLine quote line t)
    (first text : List Char)
    (hfirst : ∀ {s t}, Unescapes quote s t → Unescapes quote (first ++ s) (text ++ t)) :
    UnescapesLine quote (first ++ line) (text ++ t) := by
  cases h with
  | whole h => exact .whole (hfirst h)
  | lone h =>
      rw [← List.append_assoc]
      exact .lone (hfirst h)

theorem unescapesLine_unescape (s : List Char) : UnescapesLine quote s (unescape quote s) := by
  fun_induction unescape quote s with
  | case1 => exact .whole .nil
  | case2 => exact .lone .nil
  | case3 c s hc ih =>
      rcases hc with rfl | rfl
      · exact ih.prepend ['\\', c] [c] .quote
      · exact ih.prepend ['\\', '\\'] ['\\'] .backslash
  | case4 c s hc ih =>
      rw [not_or] at hc
      exact ih.prepend ['\\', c] ['\\', c] (.other hc.1 hc.2)
  | case5 c s hlone hpair ih =>
      have hc : c ≠ '\\' := fun hc => hlone hc (eq_nil_of_not_pair hpair hc)
      exact ih.prepend [c] [c] (.plain hc)

theorem Unescapes.unescape_append {s t : List Char} (h : Unescapes quote s t) (rest : List Char) :
    unescape quote (s ++ rest) = t ++ unescape quote rest := by
  induction h with
  | nil => rfl
  | backslash _ ih => rw [List.cons_append, List.cons_append, unescape, if_pos (.inr rfl), ih]; rfl
  | quote _ ih => rw [List.cons_append, List.cons_append, unescape, if_pos (.inl rfl), ih]; rfl
  | other hne hbackslash _ ih =>
      rw [List.cons_append, List.cons_append, unescape, if_neg (not_or.2 ⟨hne, hbackslash⟩), ih]
      rfl
  | plain hbackslash _ ih => rw [List.cons_append, unescape_cons hbackslash, ih]; rfl

theorem Unescapes.unescape_eq {s t : List Char} (h : Unescapes quote s t) :
    unescape quote s = t := by
  have happend := h.unescape_append []
  rwa [List.append_nil, unescape, List.append_nil] at happend

theorem UnescapesLine.unescape_eq {line t : List Char} (h : UnescapesLine quote line t) :
    unescape quote line = t := by
  cases h with
  | whole h => exact h.unescape_eq
  | lone h => rw [h.unescape_append, unescape, List.append_nil]

/-- The lines of a quoted value up to the one that closes it, the texts they add to the value, and
the lines that follow. -/
inductive Spans (quote : Char) :
    (lines texts rest : List (List Char)) → Prop where
  | close {line before after text : List Char} (rest : List (List Char))
      (hclose : IsClosing quote line before after) (htext : Unescapes quote before text) :
      Spans quote (line :: rest) [text] rest
  | next {line text : List Char} {lines texts rest : List (List Char)}
      (hopen : IsOpen quote line) (htext : UnescapesLine quote line text)
      (h : Spans quote lines texts rest) : Spans quote (line :: lines) (text :: texts) rest

theorem Spans.unique {lines texts rest texts' rest' : List (List Char)}
    (h : Spans quote lines texts rest) (h' : Spans quote lines texts' rest') :
    texts = texts' ∧ rest = rest' := by
  induction h generalizing texts' rest' with
  | close rest hclose htext =>
      cases h' with
      | close _ hclose' htext' =>
          obtain rfl := hclose.unique hclose'
          rw [← htext.unescape_eq, ← htext'.unescape_eq]
          exact ⟨rfl, rfl⟩
      | next hopen _ _ => exact absurd hopen hclose.not_isOpen
  | next hopen htext _ ih =>
      cases h' with
      | close _ hclose' _ => exact absurd hopen hclose'.not_isOpen
      | next _ htext' h' =>
          obtain ⟨rfl, rfl⟩ := ih h'
          rw [← htext.unescape_eq, ← htext'.unescape_eq]
          exact ⟨rfl, rfl⟩

/-- Up to the line that closes the value no line does. -/
theorem Spans.exists_last {lines texts rest : List (List Char)}
    (h : Spans quote lines texts rest) :
    ∃ opened last, lines = opened ++ last :: rest ∧ texts.length = opened.length + 1 ∧
      (∀ line ∈ opened, IsOpen quote line) ∧ ¬IsOpen quote last := by
  induction h with
  | close rest hclose _ => exact ⟨[], _, rfl, rfl, by simp, hclose.not_isOpen⟩
  | @next line _ _ _ _ hopen _ _ ih =>
      obtain ⟨opened, last, rfl, hlength, hopened, hlast⟩ := ih
      exact ⟨line :: opened, last, rfl, congrArg (· + 1) hlength,
        List.forall_mem_cons.2 ⟨hopen, hopened⟩, hlast⟩

end Quoted

namespace Statement

/-- Inside a quoted value the lines are read up to the one that closes it, if there is one. -/
theorem scanLines_inside (pending : Pending) (hquote : pending.quote ≠ '\\') (number : Nat)
    (lines : List (List Char)) :
    (∃ texts rest, Quoted.Spans pending.quote lines texts rest ∧
      scanLines (.inside pending) number lines =
        .ok ⟨pending.key, String.ofList (['\n'].intercalate (pending.parts.reverse ++ texts)),
          pending.location⟩ :: scanLines .outside (number + texts.length) rest) ∨
      (∀ line ∈ lines, Quoted.IsOpen pending.quote line) ∧
        scanLines (.inside pending) number lines = [.error pending.unclosed] := by
  induction lines generalizing pending number with
  | nil => exact .inr ⟨by simp, rfl⟩
  | cons line lines ih =>
      cases hread : Quoted.beforeUnescaped? pending.quote line with
      | some before =>
          obtain ⟨after, hclose⟩ := Quoted.exists_isClosing hquote hread
          refine .inl ⟨_, lines, .close lines hclose (Quoted.unescapes_of_even hclose.even), ?_⟩
          simp only [scanLines, State.step, Pending.feed, hread, Pending.close, List.reverse_cons]
          rfl
      | none =>
          have hopen := Quoted.isOpen_of_beforeUnescaped? hquote hread
          have hstep : scanLines (.inside pending) number (line :: lines) =
              scanLines (.inside { pending with
                parts := Quoted.unescape pending.quote line :: pending.parts }) (number + 1)
                lines := by
            simp only [scanLines, State.step, Pending.feed, hread]
            rfl
          have hnext := ih { pending with
            parts := Quoted.unescape pending.quote line :: pending.parts } hquote (number + 1)
          rw [hstep]
          rcases hnext with ⟨texts, rest, hspans, hscan⟩ | ⟨hlines, hscan⟩
          · refine .inl ⟨_, rest, .next hopen (Quoted.unescapesLine_unescape line) hspans, ?_⟩
            rw [hscan, List.reverse_cons, List.append_assoc, List.singleton_append,
              List.length_cons, Nat.add_assoc, Nat.add_comm 1]
          · exact .inr ⟨List.forall_mem_cons.2 ⟨hopen, hlines⟩, hscan⟩

/-- A quoted value is closed by the first quote, in the order of reading, that has an even number of
backslashes right before it on its line. Its lines are unescaped each on its own, and the next
statement is looked for on the line after them; if no such quote follows, the line that began the
value is the last item. -/
theorem scanLines_quoted (start : QuotedStart) (number : Nat) (lines : List (List Char)) :
    (∃ texts rest,
      (∀ texts' rest', Quoted.Spans start.quote (start.first :: lines) texts' rest' ↔
        texts' = texts ∧ rest' = rest) ∧
      scanLines .outside number (start.line :: lines) =
        .ok ⟨String.ofList (Text.trim start.key), String.ofList (['\n'].intercalate texts),
          ⟨none, number, String.ofList start.line⟩⟩ ::
        scanLines .outside (number + texts.length) rest) ∨
      (∀ line ∈ start.first :: lines, Quoted.IsOpen start.quote line) ∧
        scanLines .outside number (start.line :: lines) =
          [.error ⟨.unclosedValue, String.ofList (Text.trim start.key),
            ⟨none, number, String.ofList start.line⟩⟩] := by
  have hquote : start.quote ≠ '\\' := (Quoted.ne_of_quote start.isQuote).1
  rw [start.scanLines_line]
  rcases scanLines_inside (start.pending number) hquote number (start.first :: lines) with
    ⟨texts, rest, hspans, hscan⟩ | ⟨hopen, hscan⟩
  · refine .inl ⟨texts, rest, fun texts' rest' => ⟨fun h => h.unique hspans, ?_⟩, hscan⟩
    rintro ⟨rfl, rfl⟩
    exact hspans
  · exact .inr ⟨hopen, hscan⟩

/-- After three backslashes the value goes on and after two it is closed; the lone backslash at the
end of its first line is dropped. -/
example :
    (scan "k = 'a\\\\\\'\\\nb\\'c\\\\'d\nx = 1").map (·.map fun item => (item.key, item.value)) =
      [.ok ("k", "a\\'\nb'c\\"), .ok ("x", "1")] := by
  decide +kernel

end Statement

end Phrasebook
