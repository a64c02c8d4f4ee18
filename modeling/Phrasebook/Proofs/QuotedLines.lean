import Phrasebook.Proofs.LineEnds
import Phrasebook.Proofs.QuotedText
import Phrasebook.Proofs.Trimming
import Phrasebook.Source.Statement

/-! Statements with quoted values as they are written, and how they are read. A value of several
lines is escaped line by line (`quotedLines`), its lines are those of the written text
(`Statement.writtenLines`), and reading them gives the statement with the lines joined again
(`Statement.scanLines_writtenLines`), whatever lines come after it. -/

namespace Phrasebook

/-- The lines of an escaped text with its closing quote; after the quote something may follow. -/
def quotedLines (quote : Char) (after : List Char) : (parts : List (List Char)) → List (List Char)
  | [] => []
  | [last] => [Quoted.escape quote last ++ quote :: after]
  | part :: parts => Quoted.escape quote part :: quotedLines quote after parts

theorem quotedLines_cons (quote : Char) (after part : List Char) {parts : List (List Char)}
    (h : parts ≠ []) :
    quotedLines quote after (part :: parts) =
      Quoted.escape quote part :: quotedLines quote after parts := by
  obtain ⟨next, parts, rfl⟩ := List.exists_cons_of_ne_nil h
  rfl

theorem quotedLines_ne_nil (quote : Char) (after : List Char) {parts : List (List Char)}
    (h : parts ≠ []) : quotedLines quote after parts ≠ [] := by
  obtain ⟨part, parts, rfl⟩ := List.exists_cons_of_ne_nil h
  cases parts <;> exact List.cons_ne_nil _ _

theorem length_quotedLines (quote : Char) (after : List Char) (parts : List (List Char)) :
    (quotedLines quote after parts).length = parts.length := by
  fun_induction quotedLines quote after parts with
  | case1 | case2 => rfl
  | case3 part parts hne ih => rw [List.length_cons, ih, List.length_cons]

theorem intercalate_quotedLines {quote : Char} (hquote : quote ≠ '\n') (after : List Char)
    {parts : List (List Char)} (h : parts ≠ []) :
    ['\n'].intercalate (quotedLines quote after parts) =
      Quoted.escape quote (['\n'].intercalate parts) ++ quote :: after := by
  induction parts with
  | nil => exact absurd rfl h
  | cons part parts ih =>
      by_cases hparts : parts = []
      · rw [hparts, quotedLines, List.intercalate_singleton, List.intercalate_singleton]
      · have hnewline : Quoted.escape quote ['\n'] = ['\n'] := by
          rw [Quoted.escape, if_neg (by simp [hquote.symm]), Quoted.escape]
        rw [quotedLines_cons _ _ _ hparts,
          List.intercalate_cons_of_ne_nil (quotedLines_ne_nil quote after hparts), ih hparts,
          List.intercalate_cons_of_ne_nil hparts, Quoted.escape_append, Quoted.escape_append,
          hnewline]
        simp only [List.append_assoc]

theorem last_quotedLines_ne_nil (quote : Char) (after : List Char) (parts : List (List Char)) :
    ∀ line ∈ (quotedLines quote after parts).getLast?, line ≠ [] := by
  induction parts with
  | nil => simp [quotedLines]
  | cons part parts ih =>
      by_cases hparts : parts = []
      · simp [hparts, quotedLines]
      · obtain ⟨line, lines, heq⟩ :=
          List.exists_cons_of_ne_nil (quotedLines_ne_nil quote after hparts)
        rw [quotedLines_cons _ _ _ hparts, heq, List.getLast?_cons_cons, ← heq]
        exact ih

theorem newline_not_mem_quotedLines {quote : Char} (hquote : quote ≠ '\n') {after : List Char}
    (hafter : '\n' ∉ after) {parts : List (List Char)} (hparts : ∀ part ∈ parts, '\n' ∉ part) :
    ∀ line ∈ quotedLines quote after parts, '\n' ∉ line := by
  induction parts with
  | nil => simp [quotedLines]
  | cons part parts ih =>
      obtain ⟨hpart, hparts⟩ := List.forall_mem_cons.1 hparts
      have hescape : '\n' ∉ Quoted.escape quote part := by
        intro hmem
        rcases Quoted.mem_escape hmem with hc | hmem
        · exact absurd hc (by decide)
        · exact hpart hmem
      by_cases hne : parts = []
      · simpa [hne, quotedLines] using ⟨hescape, hquote.symm, hafter⟩
      · rw [quotedLines_cons _ _ _ hne]
        exact List.forall_mem_cons.2 ⟨hescape, ih hparts⟩

/-- The pieces between the newlines of a text in quotes, and of what follows them on their line. -/
theorem splitOn_quoted {quote : Char} (hquote : quote ≠ '\n') (content : List Char)
    {after : List Char} (hafter : '\n' ∉ after) :
    (Quoted.escape quote content ++ quote :: after).splitOn '\n' =
      quotedLines quote after (content.splitOn '\n') := by
  have hjoin : ['\n'].intercalate (content.splitOn '\n') = content :=
    List.intercalate_splitOn '\n'
  have hparts := List.splitOn_ne_nil '\n' content
  have hlines := intercalate_quotedLines hquote after hparts
  rw [hjoin] at hlines
  rw [← hlines]
  apply List.splitOn_intercalate
  · exact newline_not_mem_quotedLines hquote hafter (Text.forall_mem_splitOn content)
  · exact quotedLines_ne_nil quote after hparts

theorem Quoted.dropReturn_escape {quote : Char} (hquote : quote ≠ '\r') (s : List Char) :
    Text.dropReturn (escape quote s) = escape quote (Text.dropReturn s) := by
  by_cases hlast : s.getLast? = some '\r'
  · obtain ⟨t, rfl⟩ := List.getLast?_eq_some_iff.1 hlast
    have hreturn : escape quote ['\r'] = ['\r'] := by
      rw [escape, if_neg (by simp [hquote.symm]), escape]
    rw [escape_append, hreturn, Text.dropReturn_concat, Text.dropReturn_concat]
  · rw [Text.dropReturn_of_ne hlast, Text.dropReturn_of_ne]
    rwa [getLast?_escape]

/-- A line end inside the quotes loses its carriage return as it would without quotes. -/
theorem dropReturns_quotedLines {quote : Char} (hquote : quote ≠ '\r') (after : List Char)
    (parts : List (List Char)) :
    Text.dropReturns (quotedLines quote after parts) =
      quotedLines quote after (Text.dropReturns parts) := by
  induction parts with
  | nil => rfl
  | cons part parts ih =>
      by_cases hparts : parts = []
      · rw [hparts]
        rfl
      · rw [quotedLines_cons _ _ _ hparts,
          Text.dropReturns_cons (quotedLines_ne_nil quote after hparts), ih,
          Text.dropReturns_cons hparts,
          quotedLines_cons _ _ _ (Text.dropReturns_ne_nil hparts), Quoted.dropReturn_escape hquote]

/-- If a newline ends the last line too, it is what follows the quote that loses a return. -/
theorem map_dropReturn_quotedLines {quote : Char} (hquote : quote ≠ '\r') (after : List Char)
    (parts : List (List Char)) :
    (quotedLines quote after parts).map Text.dropReturn =
      quotedLines quote (Text.dropReturn after) (Text.dropReturns parts) := by
  induction parts with
  | nil => rfl
  | cons part parts ih =>
      by_cases hparts : parts = []
      · have hlast : (Quoted.escape quote part ++ [quote]).getLast? ≠ some '\r' := by
          simpa using hquote
        have hdrop := @Text.dropReturn_append _ after fun _ => hlast
        rw [List.append_assoc, List.append_assoc] at hdrop
        rw [hparts]
        exact congrArg (fun line => [line]) hdrop
      · rw [quotedLines_cons _ _ _ hparts, List.map_cons, ih, Text.dropReturns_cons hparts,
          quotedLines_cons _ _ _ (Text.dropReturns_ne_nil hparts), Quoted.dropReturn_escape hquote]

namespace Statement

namespace Pending

variable (pending : Pending)

theorem feed_escape_append (h : pending.quote ≠ '\\') (part after : List Char) :
    pending.feed (Quoted.escape pending.quote part ++ pending.quote :: after) =
      (.outside, some (.ok (pending.close part))) := by
  simp only [feed, Quoted.beforeUnescaped?_escape_append h, Quoted.unescape_escape]

theorem feed_escape (part : List Char) :
    pending.feed (Quoted.escape pending.quote part) =
      (.inside { pending with parts := part :: pending.parts }, none) := by
  simp only [feed, Quoted.beforeUnescaped?_escape, Quoted.unescape_escape]

end Pending

/-- The rest of a quoted value ends the statement that has been begun. -/
theorem scanLines_quotedLines {quote : Char} (hquote : quote ≠ '\\') (after : List Char)
    {parts : List (List Char)} (hparts : parts ≠ []) (key : String) (location : Location)
    (before : List (List Char)) (number : Nat) (rest : List (List Char)) :
    scanLines (.inside ⟨key, location, quote, before⟩) number
        (quotedLines quote after parts ++ rest) =
      .ok ⟨key, String.ofList (['\n'].intercalate (before.reverse ++ parts)), location⟩ ::
        scanLines .outside (number + parts.length) rest := by
  -- The induction is on the lines that are left; `before` collects those that have been read.
  induction parts generalizing before number with
  | nil => exact absurd rfl hparts
  | cons part parts ih =>
      by_cases hne : parts = []
      · have hfeed := Pending.feed_escape_append ⟨key, location, quote, before⟩ hquote part after
        rw [hne, quotedLines, List.singleton_append, scanLines, State.step, hfeed, Pending.close,
          List.reverse_cons]
        rfl
      · have hfeed := Pending.feed_escape ⟨key, location, quote, before⟩ part
        have hnext := ih hne (part :: before) (number + 1)
        have hnumber : number + 1 + parts.length = number + (part :: parts).length := by
          rw [List.length_cons]
          omega
        rw [List.reverse_cons, List.append_assoc, List.singleton_append, hnumber] at hnext
        rw [quotedLines_cons _ _ _ hne, List.cons_append, scanLines, State.step, hfeed, ← hnext]
        rfl

/-- A line that begins a quoted value: a key, an equals sign, the quote and what follows it. -/
structure QuotedStart where
  key : List Char
  blanks : List Char
  quote : Char
  first : List Char
  no_equals : '=' ∉ key
  no_comment : (Text.trim key).head? ≠ some '#'
  isBlank : ∀ c ∈ blanks, Text.isBlank c = true
  isQuote : quote = '\'' ∨ quote = '"'

namespace QuotedStart

variable (start : QuotedStart)

def line : List Char :=
  start.key ++ '=' :: (start.blanks ++ start.quote :: start.first)

/-- The value that the line begins, before anything of it is read. -/
def pending (number : Nat) : Pending :=
  ⟨String.ofList (Text.trim start.key), ⟨none, number, String.ofList start.line⟩, start.quote, []⟩

theorem isBlank_quote : Text.isBlank start.quote = false := by
  rcases start.isQuote with h | h <;> rw [h] <;> rfl

theorem splitLine_line :
    splitLine start.line =
      (Text.trim start.key, some (start.blanks ++ start.quote :: start.first)) := by
  rw [splitLine, line, Text.cutAt_append start.no_equals]

theorem trimStart_value :
    Text.trimStart (start.blanks ++ start.quote :: start.first) = start.quote :: start.first := by
  rw [Text.trimStart, List.dropWhile_append_of_pos start.isBlank,
    List.dropWhile_cons_of_neg (by simp [start.isBlank_quote])]

theorem readLine_line (number : Nat) :
    readLine number start.line = (start.pending number).feed start.first := by
  have hne : Text.trim start.line ≠ [] :=
    Text.trim_ne_nil (c := start.quote) (by simp [line]) start.isBlank_quote
  have hread :
      ¬((Text.trim start.line).isEmpty || (Text.trim start.key).head? == some '#') = true := by
    rw [Bool.or_eq_true, List.isEmpty_iff, beq_iff_eq]
    exact not_or.2 ⟨hne, start.no_comment⟩
  rw [readLine, start.splitLine_line]
  simp only [if_neg hread, readValue, start.trimStart_value, if_pos start.isQuote]
  rfl

/-- The line is read on as the first line of the quoted value. -/
theorem scanLines_line (number : Nat) (rest : List (List Char)) :
    scanLines .outside number (start.line :: rest) =
      scanLines (.inside (start.pending number)) number (start.first :: rest) := by
  rw [scanLines, scanLines, State.step, State.step, readLine_line]

end QuotedStart

/-- What may stand before the equals sign of a line and be read back from there. -/
structure IsKey (key : List Char) : Prop where
  trimmed : Text.IsTrimmed key
  no_equals : '=' ∉ key
  no_newline : '\n' ∉ key
  no_comment : key.head? ≠ some '#'

instance (key : List Char) : Decidable (IsKey key) :=
  decidable_of_iff (Text.IsTrimmed key ∧ '=' ∉ key ∧ '\n' ∉ key ∧ key.head? ≠ some '#')
    ⟨fun ⟨htrimmed, hequals, hnewline, hcomment⟩ => ⟨htrimmed, hequals, hnewline, hcomment⟩,
      fun h => ⟨h.trimmed, h.no_equals, h.no_newline, h.no_comment⟩⟩

/-- The line that begins a quoted value, up to the quote. -/
def opening (key : List Char) (quote : Char) : List Char :=
  key ++ [' ', '=', ' ', quote]

/-- A line that opens a quote is read on as the first line of the quoted value. -/
theorem scanLines_opening {key : List Char} (hkey : IsKey key) {quote : Char}
    (hquote : quote = '\'' ∨ quote = '"') (number : Nat) (text : List Char)
    (rest : List (List Char)) :
    scanLines .outside number ((opening key quote ++ text) :: rest) =
      scanLines (.inside ⟨String.ofList key,
        ⟨none, number, String.ofList (opening key quote ++ text)⟩, quote, []⟩) number
        (text :: rest) := by
  have htrim : Text.trim (key ++ [' ']) = key := (Text.trim_concat rfl key).trans hkey.trimmed
  let start : QuotedStart :=
    { key := key ++ [' ']
      blanks := [' ']
      quote := quote
      first := text
      no_equals := by simpa using hkey.no_equals
      no_comment := htrim.symm ▸ hkey.no_comment
      isBlank := by simp [Text.isBlank]
      isQuote := hquote }
  have hline : start.line = opening key quote ++ text := by simp [start, QuotedStart.line, opening]
  have hscan := start.scanLines_line number rest
  rw [QuotedStart.pending, hline, htrim] at hscan
  exact hscan

/-- The lines of a statement with a quoted value; its key stands on the first one. -/
def writtenLines (key : List Char) (quote : Char) (after : List Char) (parts : List (List Char)) :
    List (List Char) :=
  (quotedLines quote after parts).modifyHead (opening key quote ++ ·)

theorem scanLines_writtenLines {key : String} (hkey : IsKey key.toList) {quote : Char}
    (hquote : quote = '\'' ∨ quote = '"') (after : List Char) {parts : List (List Char)}
    (hparts : parts ≠ []) (number : Nat) (rest : List (List Char)) :
    ∃ line, scanLines .outside number (writtenLines key.toList quote after parts ++ rest) =
      .ok ⟨key, String.ofList (['\n'].intercalate parts), ⟨none, number, line⟩⟩ ::
        scanLines .outside (number + parts.length) rest := by
  have hescape : quote ≠ '\\' := (Quoted.ne_of_quote hquote).1
  obtain ⟨first, others, hlines⟩ :=
    List.exists_cons_of_ne_nil (quotedLines_ne_nil quote after hparts)
  have hread := scanLines_quotedLines hescape after hparts key
    ⟨none, number, String.ofList (opening key.toList quote ++ first)⟩ [] number rest
  rw [hlines, List.cons_append] at hread
  rw [writtenLines, hlines, List.modifyHead_cons, List.cons_append, scanLines_opening hkey hquote,
    String.ofList_toList, hread]
  exact ⟨_, rfl⟩

/-- The last line holds at least the closing quote. -/
theorem last_writtenLines_ne_nil (key : List Char) (quote : Char) (after : List Char)
    (parts : List (List Char)) :
    ∀ line ∈ (writtenLines key quote after parts).getLast?, line ≠ [] := by
  have hlast := last_quotedLines_ne_nil quote after parts
  rw [writtenLines]
  cases hlines : quotedLines quote after parts with
  | nil => simp
  | cons first others =>
      rw [hlines] at hlast
      cases others with
      | nil => simp [opening]
      | cons next others => simpa using hlast

section

variable {key : List Char} {quote : Char} (hquote : quote = '\'' ∨ quote = '"')
include hquote

theorem getLast?_opening : (opening key quote).getLast? ≠ some '\r' := by
  rcases hquote with rfl | rfl <;> simp [opening]

theorem closeLines_writtenLines (after : List Char) (parts : List (List Char)) :
    Text.closeLines (writtenLines key quote after parts) =
      writtenLines key quote after (Text.dropReturns parts) := by
  have hreturn : quote ≠ '\r' := (Quoted.ne_of_quote hquote).2.2
  rw [Text.closeLines_eq_dropReturns (last_writtenLines_ne_nil key quote after parts), writtenLines,
    Text.dropReturns_modifyHead (getLast?_opening hquote), dropReturns_quotedLines hreturn,
    writtenLines]

theorem map_dropReturn_writtenLines (after : List Char) (parts : List (List Char)) :
    (writtenLines key quote after parts).map Text.dropReturn =
      writtenLines key quote (Text.dropReturn after) (Text.dropReturns parts) := by
  have hreturn : quote ≠ '\r' := (Quoted.ne_of_quote hquote).2.2
  rw [writtenLines, Text.map_dropReturn_modifyHead (getLast?_opening hquote),
    map_dropReturn_quotedLines hreturn, writtenLines]

end

end Statement

end Phrasebook
