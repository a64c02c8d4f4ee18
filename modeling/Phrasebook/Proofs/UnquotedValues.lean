import Phrasebook.Proofs.LineAccounts

/-! Values without quotes. The scanner looks for the comment by skipping escapes, and afterwards
drops the backslash before each number sign that is left. Both agree on what is escaped, since a
number sign that does not start the comment has an odd number of backslashes before it, so at least
one: the text without the comment consists of pieces with an escaped number sign between them, and
the value of the same pieces with a number sign between them (`Statement.scanLines_unquoted`). -/

namespace Phrasebook

namespace Quoted

variable {quote : Char} {s t : List Char}

/-! ### Number signs with and without backslashes before them -/

theorem trailing_append_cons {c : Char} (h : c ≠ '\\') (before s : List Char) :
    trailing (before ++ c :: s) = trailing s := by
  have hreverse : (before ++ c :: s).reverse = s.reverse ++ c :: before.reverse := by simp
  rw [trailing, trailing, hreverse, List.takeWhile_append]
  split
  next hall => simp [h, hall]
  next => rfl

theorem exists_concat_of_not_even {s : List Char} (h : ¬Even (trailing s)) :
    ∃ before, s = before ++ ['\\'] := by
  rcases List.eq_nil_or_concat' s with rfl | ⟨before, c, rfl⟩
  · exact absurd (by decide) h
  · by_cases hc : c = '\\'
    · exact ⟨before, by rw [hc]⟩
    · rw [trailing_append_cons hc] at h
      exact absurd (by decide) h

theorem IsOpen.of_append_right (h : IsOpen quote (s ++ t)) : IsOpen quote s := by
  rintro before after rfl
  apply h before (after ++ t)
  rw [List.append_assoc, List.cons_append]

theorem IsOpen.of_append_cons {c : Char} (hc : c ≠ '\\') (h : IsOpen quote (s ++ c :: t)) :
    IsOpen quote t := by
  rintro before after rfl
  have hodd := h (s ++ c :: before) after (by rw [List.append_assoc, List.cons_append])
  rwa [trailing_append_cons hc] at hodd

theorem IsOpen.append (h : IsOpen quote s) (ht : quote ∉ t) : IsOpen quote (s ++ t) := by
  intro before after htext
  rcases List.append_eq_append_iff.1 htext with ⟨mid, -, hmid⟩ | ⟨mid, rfl, hmid⟩
  · exact absurd (by simp [hmid]) ht
  · cases mid with
    | nil =>
        rw [List.nil_append] at hmid
        exact absurd (hmid ▸ List.mem_cons_self) ht
    | cons c mid =>
        obtain ⟨rfl, -⟩ := List.cons_eq_cons.1 hmid
        exact h before mid rfl

theorem IsOpen.trim (h : IsOpen quote s) : IsOpen quote (Text.trim s) := by
  obtain ⟨lead, tail, hs, hlead, -⟩ := Text.exists_trim_append s
  rcases List.eq_nil_or_concat' lead with rfl | ⟨lead, b, rfl⟩
  · rw [List.nil_append] at hs
    rw [hs] at h
    exact h.of_append_right
  · have hb : b ≠ '\\' := by
      rintro rfl
      exact absurd (hlead '\\' (by simp)) (by decide)
    rw [List.append_assoc, List.singleton_append] at hs
    rw [hs] at h
    exact (h.of_append_cons hb).of_append_right

/-- The first number sign with an even number of backslashes starts the comment. -/
inductive BeforeComment (value : List Char) : (kept : List Char) → Prop where
  | all (h : IsOpen '#' value) : BeforeComment value value
  | cut {kept comment : List Char} (h : IsClosing '#' value kept comment) : BeforeComment value kept

theorem beforeComment_getD (value : List Char) :
    BeforeComment value ((beforeUnescaped? '#' value).getD value) := by
  have hsign : '#' ≠ '\\' := by decide
  cases hread : beforeUnescaped? '#' value with
  | none => exact .all (isOpen_of_beforeUnescaped? hsign hread)
  | some kept =>
      obtain ⟨comment, hclosing⟩ := exists_isClosing hsign hread
      exact .cut hclosing

theorem BeforeComment.isOpen {value kept : List Char} (h : BeforeComment value kept) :
    IsOpen '#' kept := by
  cases h with
  | all h => exact h
  | cut h => exact h.first

theorem BeforeComment.getD_eq {value kept : List Char} (h : BeforeComment value kept) :
    (beforeUnescaped? '#' value).getD value = kept := by
  have hread := beforeComment_getD value
  revert hread
  generalize (beforeUnescaped? '#' value).getD value = kept'
  intro hread
  cases h with
  | all h =>
      cases hread with
      | all => rfl
      | cut h' => exact absurd h h'.not_isOpen
  | cut h =>
      cases hread with
      | all h' => exact absurd h' h.not_isOpen
      | cut h' => exact h'.unique h

/-- Where every number sign is escaped, the text is cut at the escaped signs. -/
theorem IsOpen.exists_pieces (h : IsOpen '#' s) :
    ∃ pieces, pieces ≠ [] ∧ (∀ piece ∈ pieces, '#' ∉ piece) ∧
      s = ['\\', '#'].intercalate pieces := by
  -- The induction is on the number signs: the text is cut at the first one.
  induction hlength : s.length using Nat.strong_induction_on generalizing s with
  | _ length ih =>
      cases hcut : Text.cutAt '#' s with
      | none =>
          have hs := Text.cutAt_eq_none_iff.1 hcut
          exact ⟨[s], List.cons_ne_nil s [], by simpa using hs,
            List.intercalate_singleton.symm⟩
      | some parts =>
          obtain ⟨before, after⟩ := parts
          obtain ⟨rfl, hbefore⟩ := Text.cutAt_eq_some_iff.1 hcut
          obtain ⟨piece, rfl⟩ := exists_concat_of_not_even (h before after rfl)
          have hshorter : after.length < length := by
            rw [← hlength, List.length_append, List.length_cons]
            omega
          obtain ⟨pieces, hne, hpieces, rfl⟩ :=
            ih _ hshorter (h.of_append_cons (by decide)) rfl
          refine ⟨piece :: pieces, List.cons_ne_nil _ _, List.forall_mem_cons.2 ⟨?_, hpieces⟩, ?_⟩
          · exact fun hmem => hbefore (List.mem_append_left _ hmem)
          · rw [List.intercalate_cons_of_ne_nil hne]
            simp

/-! ### Backslashes dropped and written -/

theorem unescapeComment_cons {c : Char} (h : s.head? ≠ some '#') :
    unescapeComment (c :: s) = c :: unescapeComment s := by
  apply unescapeComment.eq_3
  rintro t rfl rfl
  exact h rfl

theorem unescapeComment_append (hs : '#' ∉ s) (ht : t.head? ≠ some '#') :
    unescapeComment (s ++ t) = s ++ unescapeComment t := by
  induction s with
  | nil => rfl
  | cons c s ih =>
      have hs : '#' ∉ s := fun hmem => hs (List.mem_cons_of_mem c hmem)
      have hnext : (s ++ t).head? ≠ some '#' := by
        cases s with
        | nil => exact ht
        | cons d s =>
            rintro ⟨⟩
            exact hs List.mem_cons_self
      rw [List.cons_append, unescapeComment_cons hnext, ih hs, List.cons_append]

theorem unescapeComment_intercalate {pieces : List (List Char)}
    (h : ∀ piece ∈ pieces, '#' ∉ piece) :
    unescapeComment (['\\', '#'].intercalate pieces) = ['#'].intercalate pieces := by
  induction pieces with
  | nil => rfl
  | cons piece pieces ih =>
      obtain ⟨hpiece, hpieces⟩ := List.forall_mem_cons.1 h
      by_cases hne : pieces = []
      · have happend := @unescapeComment_append piece [] hpiece (by simp)
        rw [List.append_nil, unescapeComment, List.append_nil] at happend
        rw [hne, List.intercalate_singleton, List.intercalate_singleton, happend]
      · rw [List.intercalate_cons_of_ne_nil hne, List.intercalate_cons_of_ne_nil hne,
          List.append_assoc, List.append_assoc, unescapeComment_append hpiece (by simp),
          ← ih hpieces]
        rfl

/-- Puts a backslash before each number sign. -/
def escapeComment : List Char → List Char
  | [] => []
  | c :: s => if c = '#' then '\\' :: '#' :: escapeComment s else c :: escapeComment s

theorem escapeComment_append (s t : List Char) :
    escapeComment (s ++ t) = escapeComment s ++ escapeComment t := by
  induction s with
  | nil => rfl
  | cons c s ih =>
      rw [List.cons_append, escapeComment, escapeComment, ih]
      split <;> rfl

theorem head?_escapeComment (s : List Char) : (escapeComment s).head? ≠ some '#' := by
  cases s with
  | nil => simp [escapeComment]
  | cons c s =>
      rw [escapeComment]
      split
      · simp
      next hc => simpa using hc

theorem mem_escapeComment {c : Char} (h : c ∈ escapeComment s) : c = '\\' ∨ c ∈ s := by
  induction s with
  | nil => exact absurd h List.not_mem_nil
  | cons d s ih =>
      rw [escapeComment] at h
      split at h
      next hsign =>
        rcases List.mem_cons.1 h with rfl | hmem
        · exact .inl rfl
        rcases List.mem_cons.1 hmem with rfl | hmem
        · exact .inr (hsign ▸ List.mem_cons_self)
        · exact (ih hmem).imp_right (List.mem_cons_of_mem d)
      · rcases List.mem_cons.1 h with rfl | hmem
        · exact .inr List.mem_cons_self
        · exact (ih hmem).imp_right (List.mem_cons_of_mem d)

theorem mem_head?_escapeComment {c : Char} (h : c ∈ (escapeComment s).head?) :
    c = '\\' ∨ c ∈ s.head? := by
  cases s with
  | nil => exact .inr h
  | cons d s =>
      rw [escapeComment] at h
      split at h
      · exact .inl (Option.some.inj h).symm
      · exact .inr h

theorem unescapeComment_escapeComment (s : List Char) :
    unescapeComment (escapeComment s) = s := by
  induction s with
  | nil => rfl
  | cons c s ih =>
      rw [escapeComment]
      split
      next hc => rw [unescapeComment, ih, hc]
      next => rw [unescapeComment_cons (head?_escapeComment s), ih]

/-- If no backslash stands before a number sign, each sign has one backslash in the end. -/
theorem isOpen_escapeComment (h : ¬['\\', '#'] <:+: s) : IsOpen '#' (escapeComment s) := by
  have hsign : '#' ≠ '\\' := by decide
  have htail : ∀ {c : Char} {s : List Char}, ¬['\\', '#'] <:+: c :: s → ¬['\\', '#'] <:+: s :=
    fun h hinfix => h (List.infix_cons hinfix)
  -- The cases are those of the reader that takes a backslash and what follows it together.
  fun_induction unescape '#' s with
  | case1 => simp [IsOpen, escapeComment]
  | case2 => exact isOpen_cons (by decide) (fun _ => rfl) (by simp [IsOpen, escapeComment])
  | case3 c s hc ih | case4 c s hc ih =>
      have hc : c ≠ '#' := by
        rintro rfl
        exact h (List.prefix_append ['\\', '#'] s).isInfix
      rw [escapeComment, if_neg (by decide), escapeComment, if_neg hc]
      exact isOpen_pair hsign (ih (htail (htail h)))
  | case5 c s hlone hpair ih =>
      have hbackslash : c ≠ '\\' := fun hc => hlone hc (eq_nil_of_not_pair hpair hc)
      by_cases hc : c = '#'
      · rw [escapeComment, if_pos hc]
        exact isOpen_pair hsign (ih (htail h))
      · rw [escapeComment, if_neg hc]
        exact isOpen_cons hc (fun heq => absurd heq hbackslash) (ih (htail h))

/-- Only a backslash is put before a text, and nothing after it. -/
theorem isTrimmed_escapeComment (h : Text.IsTrimmed s) : Text.IsTrimmed (escapeComment s) := by
  rcases List.eq_nil_or_concat' s with rfl | ⟨before, d, rfl⟩
  · rfl
  · have hlast : ∃ before', escapeComment (before ++ [d]) = before' ++ [d] := by
      rw [escapeComment_append, escapeComment]
      split
      next hd => exact ⟨escapeComment before ++ ['\\'], by simp [hd, escapeComment]⟩
      · exact ⟨escapeComment before, rfl⟩
    obtain ⟨before', hlast⟩ := hlast
    have hd := h.last_not_blank
    cases hs : before ++ [d] with
    | nil => simp at hs
    | cons c s =>
        rw [hs] at h hlast
        have hc := h.head_not_blank
        rw [escapeComment] at hlast ⊢
        split at hlast
        next hsign =>
          rw [if_pos hsign]
          exact Text.isTrimmed_of_ends hlast (by decide) hd
        next hsign =>
          rw [if_neg hsign]
          exact Text.isTrimmed_of_ends hlast hc hd

end Quoted

namespace Statement

open Quoted

/-! ### Lines -/

/-- Blanks before a value do not change what is kept of it. -/
theorem unquoted_trimStart (value : List Char) :
    unquoted (Text.trimStart value) = unquoted value := by
  induction value with
  | nil => rfl
  | cons c value ih =>
      by_cases hc : Text.isBlank c = true
      · have hbackslash : c ≠ '\\' := by
          rintro rfl
          exact absurd hc (by decide)
        have hsign : c ≠ '#' := by
          rintro rfl
          exact absurd hc (by decide)
        rw [Text.trimStart, List.dropWhile_cons_of_pos hc]
        refine ih.trans ?_
        simp only [unquoted]
        rw [beforeUnescaped?_cons hbackslash, if_neg hsign]
        cases beforeUnescaped? '#' value with
        | none => rw [Option.map_none, Option.getD_none, Option.getD_none, Text.trim_cons hc]
        | some kept => rw [Option.map_some, Option.getD_some, Option.getD_some, Text.trim_cons hc]
      · rw [Text.trimStart, List.dropWhile_cons_of_neg hc]

theorem unquoted_eq {value kept : List Char} (h : BeforeComment value kept) :
    unquoted value = unescapeComment (Text.trim kept) := by
  simp only [unquoted, h.getD_eq]

/-- A line with a key, an equals sign and a value that begins with no quote. -/
structure UnquotedLine where
  key : List Char
  rest : List Char
  no_equals : '=' ∉ key
  no_comment : (Text.trim key).head? ≠ some '#'
  no_quote : ∀ c ∈ (Text.trimStart rest).head?, c ≠ '\'' ∧ c ≠ '"'

namespace UnquotedLine

variable (line : UnquotedLine)

def text : List Char :=
  line.key ++ '=' :: line.rest

/-- What follows the blanks after the equals sign. -/
def value : List Char :=
  Text.trimStart line.rest

theorem splitLine_text : splitLine line.text = (Text.trim line.key, some line.rest) := by
  rw [splitLine, text, Text.cutAt_append line.no_equals]

theorem not_isSilent : ¬IsSilent line.text := by
  rw [isSilent_iff, IsComment, ← splitLine_fst, line.splitLine_text]
  exact not_or.2 ⟨Text.trim_ne_nil (c := '=') (by simp [text]) (by decide), line.no_comment⟩

theorem readLine_text (number : Nat) :
    readLine number line.text =
      (.outside, some (.ok ⟨String.ofList (Text.trim line.key), String.ofList (unquoted line.value),
        ⟨none, number, String.ofList line.text⟩⟩)) := by
  have hquote := line.no_quote
  rw [readLine_of_not_isSilent line.not_isSilent, line.splitLine_text, Option.elim_some, readValue,
    value]
  split
  next hnil =>
    rw [hnil]
    rfl
  next c rest hvalue =>
    rw [hvalue] at hquote ⊢
    rw [if_neg (not_or.2 (hquote c rfl))]

theorem scanLines_text (number : Nat) (lines : List (List Char)) :
    scanLines .outside number (line.text :: lines) =
      .ok ⟨String.ofList (Text.trim line.key), String.ofList (unquoted line.value),
        ⟨none, number, String.ofList line.text⟩⟩ :: scanLines .outside (number + 1) lines := by
  rw [scanLines_cons, State.step, readLine_text]
  rfl

/-- The value is what stands before the comment, with number signs for the escaped ones. -/
theorem exists_pieces : ∃ kept pieces, BeforeComment line.value kept ∧ pieces ≠ [] ∧
    (∀ piece ∈ pieces, '#' ∉ piece) ∧ Text.trim kept = ['\\', '#'].intercalate pieces ∧
    unquoted line.value = ['#'].intercalate pieces := by
  have hkept := beforeComment_getD line.value
  obtain ⟨pieces, hne, hpieces, htrim⟩ := hkept.isOpen.trim.exists_pieces
  refine ⟨_, pieces, hkept, hne, hpieces, htrim, ?_⟩
  rw [unquoted_eq hkept, htrim, unescapeComment_intercalate hpieces]

end UnquotedLine

/-- A statement as it is written without quotes. A comment may come after the value. -/
structure UnquotedWritten where
  key : String
  content : String
  comment : Option String

namespace UnquotedWritten

variable (written : UnquotedWritten)

/-- What follows the value on its line. -/
def trailer : List Char :=
  written.comment.elim [] fun comment => ' ' :: '#' :: comment.toList

def text : String :=
  written.key ++ " = " ++
    String.ofList (escapeComment written.content.toList ++ written.trailer)

structure IsReadable : Prop where
  key : IsKey written.key.toList
  isTrimmed : Text.IsTrimmed written.content.toList
  no_newline : '\n' ∉ written.content.toList
  no_quote : ∀ c ∈ written.content.toList.head?, c ≠ '\'' ∧ c ≠ '"'
  no_escape : ¬['\\', '#'] <:+: written.content.toList
  comment : ∀ comment ∈ written.comment, '\n' ∉ comment.toList

variable {written}

theorem find?_trailer {c : Char} (h : written.trailer.find? (fun c => !Text.isBlank c) = some c) :
    c = '#' := by
  rw [trailer] at h
  cases hcomment : written.comment with
  | none => simp [hcomment] at h
  | some comment =>
      rw [hcomment, Option.elim_some, List.find?_cons_of_neg (by decide),
        List.find?_cons_of_pos (by decide)] at h
      exact (Option.some.inj h).symm

namespace IsReadable

variable (h : written.IsReadable)

include h

theorem no_quote_value :
    ∀ c ∈ (Text.trimStart (' ' :: (escapeComment written.content.toList ++
      written.trailer))).head?, c ≠ '\'' ∧ c ≠ '"' := by
  intro c hc
  rw [Text.head?_trimStart, List.find?_cons_of_neg (by decide), List.find?_append,
    ← Text.head?_trim, (isTrimmed_escapeComment h.isTrimmed).trim_eq] at hc
  rcases Option.or_eq_some_iff.1 hc with hhead | ⟨-, htrailer⟩
  · rcases mem_head?_escapeComment hhead with rfl | hcontent
    · decide
    · exact h.no_quote c hcontent
  · rw [find?_trailer htrailer]
    decide

/-- The value stands between the blank after the equals sign and the comment. -/
theorem exists_beforeComment : ∃ kept,
    BeforeComment (escapeComment written.content.toList ++ written.trailer) kept ∧
      Text.trim kept = escapeComment written.content.toList := by
  have hopen := isOpen_escapeComment h.no_escape
  have htrim := (isTrimmed_escapeComment h.isTrimmed).trim_eq
  rw [trailer]
  cases written.comment with
  | none =>
      rw [Option.elim_none, List.append_nil]
      exact ⟨_, .all hopen, htrim⟩
  | some comment =>
      have hclosing : IsClosing '#'
          (escapeComment written.content.toList ++ ' ' :: '#' :: comment.toList)
          (escapeComment written.content.toList ++ [' ']) comment.toList := by
        refine ⟨by rw [List.append_assoc, List.singleton_append], ?_, hopen.append (by decide)⟩
        rw [trailing_append_cons (by decide)]
        decide
      exact ⟨_, .cut hclosing, (Text.trim_concat rfl _).trans htrim⟩

theorem unquoted_eq_content :
    unquoted (Text.trimStart (' ' :: (escapeComment written.content.toList ++ written.trailer))) =
      written.content.toList := by
  obtain ⟨kept, hkept, htrim⟩ := h.exists_beforeComment
  have hvalue := unquoted_trimStart (escapeComment written.content.toList ++ written.trailer)
  rw [unquoted_eq hkept, htrim, unescapeComment_escapeComment] at hvalue
  exact hvalue

/-- The written statement as a line. -/
def line : UnquotedLine where
  key := written.key.toList ++ [' ']
  rest := ' ' :: (escapeComment written.content.toList ++ written.trailer)
  no_equals := by simpa using h.key.no_equals
  no_comment := by
    rw [Text.trim_concat rfl, h.key.trimmed.trim_eq]
    exact h.key.no_comment
  no_quote := h.no_quote_value

theorem line_text : h.line.text = written.text.toList := by
  simp [line, UnquotedLine.text, text]

theorem scanLines_text (number : Nat) (lines : List (List Char)) :
    scanLines .outside number (written.text.toList :: lines) =
      .ok ⟨written.key, written.content, ⟨none, number, written.text⟩⟩ ::
        scanLines .outside (number + 1) lines := by
  have hscan := h.line.scanLines_text number lines
  have hkey : Text.trim h.line.key = written.key.toList :=
    (Text.trim_concat rfl _).trans h.key.trimmed
  have hvalue : unquoted h.line.value = written.content.toList := h.unquoted_eq_content
  rw [h.line_text, hkey, hvalue, String.ofList_toList, String.ofList_toList,
    String.ofList_toList] at hscan
  exact hscan

theorem no_newline_text : '\n' ∉ written.text.toList := by
  have hcontent : '\n' ∉ escapeComment written.content.toList := by
    intro hmem
    rcases mem_escapeComment hmem with hbackslash | hmem
    · exact absurd hbackslash (by decide)
    · exact h.no_newline hmem
  have htrailer : '\n' ∉ written.trailer := by
    rw [trailer]
    cases hcomment : written.comment with
    | none => exact List.not_mem_nil
    | some comment => simpa using h.comment comment hcomment
  simp [text, h.key.no_newline, hcontent, htrailer]

theorem scan_text :
    scan written.text = [.ok ⟨written.key, written.content, ⟨none, 1, written.text⟩⟩] := by
  have hne : written.text.toList ≠ [] := by
    simp only [text, String.toList_append]
    simp
  rw [scan, Text.lines_of_not_mem h.no_newline_text hne, h.scanLines_text]
  rfl

end IsReadable

end UnquotedWritten

/-- Escaped number signs, and only these, are part of a value without quotes. -/
theorem scanLines_unquoted :
    (∀ (line : UnquotedLine) (number : Nat) (lines : List (List Char)),
      ∃ kept pieces, BeforeComment line.value kept ∧ pieces ≠ [] ∧
        (∀ piece ∈ pieces, '#' ∉ piece) ∧ Text.trim kept = ['\\', '#'].intercalate pieces ∧
        scanLines .outside number (line.text :: lines) =
          .ok ⟨String.ofList (Text.trim line.key), String.ofList (['#'].intercalate pieces),
            ⟨none, number, String.ofList line.text⟩⟩ :: scanLines .outside (number + 1) lines) ∧
    ∀ written : UnquotedWritten, written.IsReadable →
      scan written.text = [.ok ⟨written.key, written.content, ⟨none, 1, written.text⟩⟩] ∧
      ∀ (number : Nat) (lines : List (List Char)),
        scanLines .outside number (written.text.toList :: lines) =
          .ok ⟨written.key, written.content, ⟨none, number, written.text⟩⟩ ::
            scanLines .outside (number + 1) lines := by
  refine ⟨fun line number lines => ?_, fun written h => ⟨h.scan_text, h.scanLines_text⟩⟩
  obtain ⟨kept, pieces, hkept, hne, hpieces, htrim, hvalue⟩ := line.exists_pieces
  have hscan := line.scanLines_text number lines
  rw [hvalue] at hscan
  exact ⟨kept, pieces, hkept, hne, hpieces, htrim, hscan⟩

theorem scanLines_unquoted_numbered :
    let written : UnquotedWritten := ⟨"track", "no #1 \\", some " the first"⟩
    written.text = "track = no \\#1 \\ # the first" ∧ written.IsReadable ∧
      scan written.text = [.ok ⟨"track", "no #1 \\", ⟨none, 1, written.text⟩⟩] := by
  intro written
  have hreadable : written.IsReadable :=
    { key := by decide
      isTrimmed := by decide
      no_newline := by decide
      no_quote := by simp [written]
      no_escape := by decide
      comment := by decide }
  exact ⟨by decide, hreadable, (scanLines_unquoted.2 written hreadable).1⟩

end Statement

end Phrasebook
