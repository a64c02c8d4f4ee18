import Phrasebook.Proofs.QuotedLines

/-! Documents of statements with quoted values. What is scanned of one statement ends with its last
line (`Written.scanLines_text_append`), so a document is scanned statement by statement, and each
is found on the line where it begins (`scan_document`). Its value is its content with plain line
ends; that is the content itself exactly if no carriage return stands before a newline
(`scan_quoted_eq_iff`). -/

namespace Phrasebook.Statement

/-- A statement as it is written. What trails behind the closing quote does not count. -/
structure Written where
  key : String
  quote : Char
  content : String
  trailing : String

namespace Written

def text (written : Written) : String :=
  written.key ++ " = " ++ Quoted.write written.quote written.content ++ written.trailing

structure IsReadable (written : Written) : Prop where
  key : IsKey written.key.toList
  quote : written.quote = '\'' ∨ written.quote = '"'
  trailing : '\n' ∉ written.trailing.toList

instance (written : Written) : Decidable written.IsReadable :=
  decidable_of_iff (IsKey written.key.toList ∧
      (written.quote = '\'' ∨ written.quote = '"') ∧ '\n' ∉ written.trailing.toList)
    ⟨fun ⟨hkey, hquote, htrailing⟩ => ⟨hkey, hquote, htrailing⟩,
      fun h => ⟨h.key, h.quote, h.trailing⟩⟩

/-- What is read of it, if it begins at this location. -/
def read (written : Written) (location : Location) : Statement :=
  ⟨written.key, String.ofList (Text.plainEnds written.content.toList), location⟩

variable {written : Written}

theorem splitOn_text (h : written.IsReadable) :
    written.text.toList.splitOn '\n' =
      writtenLines written.key.toList written.quote written.trailing.toList
        (written.content.toList.splitOn '\n') := by
  have hnewline : written.quote ≠ '\n' := (Quoted.ne_of_quote h.quote).2.1
  have hlead : '\n' ∉ opening written.key.toList written.quote := by
    simpa [opening] using ⟨h.key.no_newline, hnewline.symm⟩
  have htext : written.text.toList = opening written.key.toList written.quote ++
      (Quoted.escape written.quote written.content.toList ++
        written.quote :: written.trailing.toList) := by
    simp [text, Quoted.write, opening]
  rw [htext, Text.splitOn_append hlead, splitOn_quoted hnewline _ h.trailing, writtenLines]

theorem count_newline_text (h : written.IsReadable) :
    written.text.toList.count '\n' + 1 = (written.content.toList.splitOn '\n').length := by
  rw [← Text.length_splitOn, splitOn_text h, writtenLines, List.length_modifyHead,
    length_quotedLines]

/-- Whatever follows the closing quote, the value is the content with plain line ends. -/
theorem scanLines_parts (h : written.IsReadable) (after : List Char) (number : Nat)
    (rest : List (List Char)) :
    ∃ line, scanLines .outside number
        (writtenLines written.key.toList written.quote after
          (Text.dropReturns (written.content.toList.splitOn '\n')) ++ rest) =
      .ok (written.read ⟨none, number, line⟩) ::
        scanLines .outside (number + written.text.toList.count '\n' + 1) rest := by
  have hparts := Text.dropReturns_ne_nil (List.splitOn_ne_nil '\n' written.content.toList)
  have hjoin : ['\n'].intercalate (Text.dropReturns (written.content.toList.splitOn '\n')) =
      Text.plainEnds written.content.toList := by
    rw [Text.intercalate_dropReturns (Text.forall_mem_splitOn _), List.intercalate_splitOn]
  obtain ⟨line, hread⟩ := scanLines_writtenLines h.key h.quote after hparts number rest
  rw [hjoin, Text.length_dropReturns, ← count_newline_text h, ← Nat.add_assoc] at hread
  exact ⟨line, hread⟩

theorem scanLines_text (h : written.IsReadable) (number : Nat) :
    ∃ line, scanLines .outside number (Text.lines written.text.toList) =
      [.ok (written.read ⟨none, number, line⟩)] := by
  obtain ⟨line, hread⟩ := scanLines_parts h written.trailing.toList number []
  rw [List.append_nil] at hread
  rw [Text.lines, splitOn_text h, closeLines_writtenLines h.quote, hread]
  exact ⟨line, rfl⟩

theorem scanLines_text_append (h : written.IsReadable) (number : Nat) (rest : List Char) :
    ∃ line, scanLines .outside number (Text.lines (written.text.toList ++ '\n' :: rest)) =
      .ok (written.read ⟨none, number, line⟩) ::
        scanLines .outside (number + written.text.toList.count '\n' + 1) (Text.lines rest) := by
  rw [Text.lines_append_newline, splitOn_text h, map_dropReturn_writtenLines h.quote]
  exact scanLines_parts h _ number (Text.lines rest)

end Written

/-- A statement that is written with a quoted value is all that is read; of the line ends in its
value newlines are left. -/
theorem scan_quoted_plainEnds {key : String} (hkey : IsKey key.toList) {quote : Char}
    (hquote : quote = '\'' ∨ quote = '"') (content : String) :
    ∃ line, scan (key ++ " = " ++ Quoted.write quote content) =
      [.ok ⟨key, String.ofList (Text.plainEnds content.toList), ⟨none, 1, line⟩⟩] := by
  have hreadable : Written.IsReadable ⟨key, quote, content, ""⟩ :=
    ⟨hkey, hquote, List.not_mem_nil⟩
  have hscan := Written.scanLines_text hreadable 1
  rwa [Written.text, String.append_empty] at hscan

theorem scan_quoted {key : String} (hkey : IsKey key.toList) {quote : Char}
    (hquote : quote = '\'' ∨ quote = '"') {content : String}
    (hcontent : ¬['\r', '\n'] <:+: content.toList) :
    ∃ line, scan (key ++ " = " ++ Quoted.write quote content) =
      [.ok ⟨key, content, ⟨none, 1, line⟩⟩] := by
  obtain ⟨line, hscan⟩ := scan_quoted_plainEnds hkey hquote content
  rw [Text.plainEnds_eq_self_iff.2 hcontent, String.ofList_toList] at hscan
  exact ⟨line, hscan⟩

/-- The quoted value of a statement is its content exactly if no carriage return stands before a
newline in it; of such a pair the newline alone is left. -/
theorem scan_quoted_eq_iff {key : String} (hkey : IsKey key.toList) {quote : Char}
    (hquote : quote = '\'' ∨ quote = '"') (content : String) :
    ∃ value line, scan (key ++ " = " ++ Quoted.write quote content) =
        [.ok ⟨key, value, ⟨none, 1, line⟩⟩] ∧
      value.toList = Text.plainEnds content.toList ∧
      (value = content ↔ ¬['\r', '\n'] <:+: content.toList) := by
  obtain ⟨line, hscan⟩ := scan_quoted_plainEnds hkey hquote content
  refine ⟨_, line, hscan, String.toList_ofList, ?_⟩
  rw [← Text.plainEnds_eq_self_iff, ← String.toList_inj, String.toList_ofList]

theorem scan_quoted_eq_iff_k :
    ∃ value line, scan ("k" ++ " = " ++ Quoted.write '"' "\"a\\\r\r\nb\r") =
        [.ok ⟨"k", value, ⟨none, 1, line⟩⟩] ∧
      value.toList = Text.plainEnds "\"a\\\r\r\nb\r".toList ∧
      (value = "\"a\\\r\r\nb\r" ↔ ¬['\r', '\n'] <:+: "\"a\\\r\r\nb\r".toList) :=
  scan_quoted_eq_iff (by decide) (.inr rfl) "\"a\\\r\r\nb\r"

/-- Escaping does not keep a carriage return that stands before a newline. -/
theorem scan_quoted_return_lost :
    scan ("k = " ++ Quoted.write '\'' "a\nb\r\nc") =
        [.ok ⟨"k", "a\nb\nc", ⟨none, 1, "k = 'a"⟩⟩] ∧
      ¬∃ location, scan ("k = " ++ Quoted.write '\'' "a\nb\r\nc") =
        [.ok ⟨"k", "a\nb\r\nc", location⟩] := by
  have hscan : scan ("k = " ++ Quoted.write '\'' "a\nb\r\nc") =
      [.ok ⟨"k", "a\nb\nc", ⟨none, 1, "k = 'a"⟩⟩] := by decide +kernel
  refine ⟨hscan, ?_⟩
  rintro ⟨location, h⟩
  rw [hscan] at h
  have hvalue : "a\nb\nc" = "a\nb\r\nc" :=
    congrArg Statement.value (Except.ok.inj (List.cons.inj h).1)
  exact absurd hvalue (by decide)

/-! ### Documents -/

/-- Statements, each on lines of its own. -/
def document (entries : List Written) : String :=
  "\n".intercalate (entries.map Written.text)

/-- What stands in a document before the statement that follows these. -/
def lead (entries : List Written) : String :=
  String.join (entries.map fun entry => entry.text ++ "\n")

theorem lead_cons (entry : Written) (entries : List Written) :
    lead (entry :: entries) = entry.text ++ "\n" ++ lead entries := by
  rw [← String.toList_inj]
  simp [lead]

theorem document_cons_cons (entry next : Written) (entries : List Written) :
    document (entry :: next :: entries) = entry.text ++ "\n" ++ document (next :: entries) := by
  rw [← String.toList_inj]
  simp [document]

theorem document_eq_lead_append {entries : List Written} {place : Nat}
    (h : place < entries.length) :
    document entries = lead (entries.take place) ++ document (entries.drop place) := by
  induction entries generalizing place with
  | nil => exact absurd h (Nat.not_lt_zero place)
  | cons entry entries ih =>
      cases place with
      | zero => exact String.empty_append.symm
      | succ place =>
          have hplace : place < entries.length := Nat.lt_of_succ_lt_succ h
          obtain ⟨next, rest, rfl⟩ :=
            List.exists_cons_of_ne_nil (List.ne_nil_of_length_pos (Nat.zero_lt_of_lt hplace))
          rw [document_cons_cons, ih hplace, List.take_succ_cons, lead_cons, List.drop_succ_cons]
          simp only [String.append_assoc]

/-- What a statement says, and the line it stands on. -/
def summary (statement : Statement) : String × String × Nat :=
  (statement.key, statement.value, statement.location.line)

/-- What the statements of a document say that begins on this line. -/
def summaries (number : Nat) (entries : List Written) : List (String × String × Nat) :=
  entries.mapIdx fun place entry =>
    (entry.key, String.ofList (Text.plainEnds entry.content.toList),
      number + (lead (entries.take place)).toList.count '\n')

theorem summaries_cons (number : Nat) (entry : Written) (entries : List Written) :
    summaries number (entry :: entries) =
      (entry.read ⟨none, number, ""⟩).summary ::
        summaries (number + entry.text.toList.count '\n' + 1) entries := by
  have hcount : ∀ place, number + (lead ((entry :: entries).take (place + 1))).toList.count '\n' =
      number + entry.text.toList.count '\n' + 1 +
        (lead (entries.take place)).toList.count '\n' := by
    intro place
    rw [List.take_succ_cons, lead_cons]
    simp only [String.toList_append, List.count_append, ← Nat.add_assoc]
    rfl
  rw [summaries, List.mapIdx_cons]
  simp only [hcount]
  rfl

theorem scanLines_document {entries : List Written} (h : ∀ entry ∈ entries, entry.IsReadable)
    (number : Nat) :
    ∃ statements : List Statement,
      scanLines .outside number (Text.lines (document entries).toList) = statements.map .ok ∧
      statements.map summary = summaries number entries := by
  induction entries generalizing number with
  | nil => exact ⟨[], rfl, rfl⟩
  | cons entry entries ih =>
      obtain ⟨hentry, hentries⟩ := List.forall_mem_cons.1 h
      cases entries with
      | nil =>
          obtain ⟨line, hscan⟩ := Written.scanLines_text hentry number
          refine ⟨[entry.read ⟨none, number, line⟩], ?_, rfl⟩
          rw [document, List.map_singleton, String.intercalate_singleton, hscan, List.map_singleton]
      | cons next entries =>
          have hdocument : (document (entry :: next :: entries)).toList =
              entry.text.toList ++ '\n' :: (document (next :: entries)).toList := by
            simp [document_cons_cons]
          obtain ⟨line, hscan⟩ :=
            Written.scanLines_text_append hentry number (document (next :: entries)).toList
          obtain ⟨statements, hrest, hsummary⟩ :=
            ih hentries (number + entry.text.toList.count '\n' + 1)
          refine ⟨entry.read ⟨none, number, line⟩ :: statements, ?_, ?_⟩
          · rw [hdocument, hscan, hrest, List.map_cons]
          · rw [List.map_cons, hsummary]
            exact (summaries_cons number entry (next :: entries)).symm

/-- A document is read as its statements, in their order and with their contents, each on the line
on which it is written. -/
theorem scan_document {entries : List Written} (h : ∀ entry ∈ entries, entry.IsReadable)
    (hcontent : ∀ entry ∈ entries, ¬['\r', '\n'] <:+: entry.content.toList) :
    (∀ place < entries.length,
      document entries = lead (entries.take place) ++ document (entries.drop place)) ∧
    ∃ statements : List Statement,
      scan (document entries) = statements.map .ok ∧
      statements.map (fun statement => (statement.key, statement.value, statement.location.line)) =
        entries.mapIdx fun place entry =>
          (entry.key, entry.content, 1 + (lead (entries.take place)).toList.count '\n') := by
  obtain ⟨statements, hscan, hsummary⟩ := scanLines_document h 1
  refine ⟨fun place hplace => document_eq_lead_append hplace, statements, hscan, ?_⟩
  refine hsummary.trans (List.mapIdx_eq_mapIdx_iff.2 ?_)
  intro place hplace
  rw [Text.plainEnds_eq_self_iff.2 (hcontent _ (List.getElem_mem hplace)), String.ofList_toList]

/-- Lines of the first value look like a comment and like a statement, and one ends in a backslash. -/
theorem scan_document_nested :
    ∃ statements : List Statement,
      scan "a = 'one\\\\\n# two\nb = \\'x\\''# 'c\n = \"\\\"\n\"" = statements.map .ok ∧
      statements.map (fun statement => (statement.key, statement.value, statement.location.line)) =
        [("a", "one\\\n# two\nb = 'x'", 1), ("", "\"\n", 4)] := by
  have hreadable : ∀ entry ∈ [Written.mk "a" '\'' "one\\\n# two\nb = 'x'" "# 'c",
      Written.mk "" '"' "\"\n" ""], entry.IsReadable := by decide
  obtain ⟨-, statements, hscan, hsummary⟩ := scan_document hreadable (by decide)
  refine ⟨statements, ?_, ?_⟩
  · rw [← hscan]
    decide +kernel
  · rw [hsummary]
    decide +kernel

end Phrasebook.Statement
