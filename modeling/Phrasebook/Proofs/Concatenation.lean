import Phrasebook.Proofs.LineEnds
import Phrasebook.Proofs.Relocation
import Phrasebook.Proofs.Strictness
import Phrasebook.Proofs.Trimming

/-! Texts one after the other. What is read of a text depends on the text before it only if that
leaves a quoted value open; so the readings of a closed text and of one after it are the reading of
both together, but for the numbers of the lines (`Source.read_append`). Hence the texts may be loaded
one by one, and blank lines and comments between statements do not matter
(`Store.loadSource_append`). -/

namespace Phrasebook

namespace Text

/-- Each line of the text is ended by a newline. -/
def IsWhole (s : List Char) : Prop :=
  s = [] ∨ s.getLast? = some '\n'

instance (s : List Char) : Decidable (IsWhole s) :=
  inferInstanceAs (Decidable (s = [] ∨ s.getLast? = some '\n'))

theorem lines_append {s : List Char} (h : IsWhole s) (rest : List Char) :
    lines (s ++ rest) = lines s ++ lines rest := by
  rcases h with rfl | hlast
  · rfl
  · obtain ⟨t, rfl⟩ := List.getLast?_eq_some_iff.1 hlast
    have hwhole := lines_append_newline t []
    have hnil : lines [] = [] := rfl
    rw [hnil, List.append_nil] at hwhole
    rw [List.append_assoc, List.singleton_append, lines_append_newline, hwhole]

theorem lines_newline {line : List Char} (h : '\n' ∉ line) :
    lines (line ++ ['\n']) = [dropReturn line] :=
  lines_append_newline_of_not_mem h []

end Text

namespace Statement

/-! ### Lines further down -/

def State.relocate (move : Relocation) : State → State
  | outside => outside
  | inside pending => inside { pending with location := pending.location.relocate move }

/-- What is made of a line, if the text stands elsewhere. -/
def relocateResult (move : Relocation) (result : State × Option Item) : State × Option Item :=
  (result.1.relocate move, result.2.map (relocateItem move))

theorem feed_relocate (move : Relocation) (pending : Pending) (line : List Char) :
    { pending with location := pending.location.relocate move : Pending }.feed line =
      relocateResult move (pending.feed line) := by
  rw [Pending.feed, Pending.feed]
  cases Quoted.beforeUnescaped? pending.quote line <;> rfl

theorem readValue_relocate (move : Relocation) (key : String) (location : Location)
    (value : List Char) :
    readValue key (location.relocate move) value =
      relocateResult move (readValue key location value) := by
  rw [readValue, readValue]
  split
  · rfl
  · split
    next c rest _ _ => exact feed_relocate move ⟨key, location, c, []⟩ rest
    · rfl

theorem readLine_down (lines number : Nat) (line : List Char) :
    readLine (number + lines) line =
      relocateResult (Relocation.down lines) (readLine number line) := by
  simp only [readLine]
  split
  · rfl
  · split
    · rfl
    · exact readValue_relocate (Relocation.down lines) _ ⟨none, number, String.ofList line⟩ _

theorem step_down (lines number : Nat) (state : State) (line : List Char) :
    (state.relocate (Relocation.down lines)).step (number + lines) line =
      relocateResult (Relocation.down lines) (state.step number line) := by
  cases state with
  | outside => exact readLine_down lines number line
  | inside pending => exact feed_relocate (Relocation.down lines) pending line

theorem scanLines_cons (state : State) (number : Nat) (line : List Char)
    (lines : List (List Char)) :
    scanLines state number (line :: lines) =
      (state.step number line).2.toList ++
        scanLines (state.step number line).1 (number + 1) lines := by
  rw [scanLines]

theorem scanLines_down (count number : Nat) (state : State) (lines : List (List Char)) :
    scanLines (state.relocate (Relocation.down count)) (number + count) lines =
      (scanLines state number lines).map (relocateItem (Relocation.down count)) := by
  induction lines generalizing state number with
  | nil => cases state <;> rfl
  | cons line lines ih =>
      have hnext := ih (number + 1) (state.step number line).1
      rw [Nat.add_right_comm] at hnext
      rw [scanLines_cons, scanLines_cons, step_down, relocateResult, hnext, List.map_append]
      cases (state.step number line).2 <;> rfl

/-! ### Closed texts -/

/-- If no quoted value is left open, the lines that follow are read as if none came before. -/
theorem scanLines_append {state : State} {number : Nat} {lines : List (List Char)}
    (h : ∀ problem : Problem, .error problem ∈ scanLines state number lines →
      problem.cause ≠ .unclosedValue) (rest : List (List Char)) :
    scanLines state number (lines ++ rest) =
      scanLines state number lines ++ scanLines .outside (number + lines.length) rest := by
  induction lines generalizing state number with
  | nil =>
      cases state with
      | outside => rfl
      | inside pending => exact absurd rfl (h pending.unclosed (List.mem_singleton_self _))
  | cons line lines ih =>
      rw [scanLines_cons] at h
      have hrest := ih fun problem hmem => h problem (List.mem_append_right _ hmem)
      rw [List.cons_append, scanLines_cons, scanLines_cons, hrest, List.append_assoc, List.length_cons,
        Nat.add_assoc, Nat.add_comm 1]

/-- A text of whole lines, which ends no line inside a quoted value that goes on. -/
structure IsClosed (source : String) : Prop where
  whole : Text.IsWhole source.toList
  no_unclosed : ∀ problem : Problem, .error problem ∈ scan source →
    problem.cause ≠ .unclosedValue

/-- How many lines a text has. -/
def lineCount (source : String) : Nat :=
  (Text.lines source.toList).length

theorem scan_append {first : String} (h : IsClosed first) (second : String) :
    scan (first ++ second) =
      scan first ++ (scan second).map (relocateItem (Relocation.down (lineCount first))) := by
  have hsecond := scanLines_down (lineCount first) 1 .outside (Text.lines second.toList)
  rw [scan, String.toList_append, Text.lines_append h.whole, scanLines_append h.no_unclosed]
  exact congrArg (scan first ++ ·) hsecond

/-! ### Lines without statements -/

/-- A blank line or a comment. -/
def IsSilent (line : List Char) : Prop :=
  Text.trim line = [] ∨ (Text.trim line).head? = some '#'

instance (line : List Char) : Decidable (IsSilent line) :=
  inferInstanceAs (Decidable (Text.trim line = [] ∨ (Text.trim line).head? = some '#'))

theorem IsSilent.dropReturn {line : List Char} (h : IsSilent line) :
    IsSilent (Text.dropReturn line) := by
  by_cases hlast : line.getLast? = some '\r'
  · obtain ⟨t, rfl⟩ := List.getLast?_eq_some_iff.1 hlast
    have htrim : Text.trim (t ++ ['\r']) = Text.trim t := Text.trim_concat rfl t
    rw [Text.dropReturn_concat]
    rwa [IsSilent, htrim] at h
  · rwa [Text.dropReturn_of_ne hlast]

/-- The number sign of a comment stands before the first equals sign. -/
theorem head?_splitLine {line : List Char} (h : (Text.trim line).head? = some '#') :
    (splitLine line).1.head? = some '#' := by
  rw [splitLine]
  cases hcut : Text.cutAt '=' line with
  | none => exact h
  | some parts =>
      obtain ⟨key, value⟩ := parts
      obtain ⟨mark, hmark, rfl, -⟩ := Text.eq_append_of_cutWhere hcut
      obtain rfl : mark = '=' := eq_of_beq hmark
      rw [Text.head?_trim, List.find?_append] at h
      show (Text.trim key).head? = some '#'
      rw [Text.head?_trim]
      cases hfind : key.find? fun c => !Text.isBlank c with
      | none =>
          rw [hfind, Option.none_or, List.find?_cons_of_pos rfl] at h
          exact absurd (Option.some.inj h) (by decide)
      | some c => rwa [hfind, Option.some_or] at h

theorem readLine_of_isSilent {line : List Char} (h : IsSilent line) (number : Nat) :
    readLine number line = (.outside, none) := by
  have hskip :
      ((Text.trim line).isEmpty || (splitLine line).1.head? == some '#') = true := by
    rcases h with hblank | hcomment
    · rw [hblank]
      rfl
    · rw [head?_splitLine hcomment]
      exact Bool.or_true _
  simp only [readLine, if_pos hskip]

theorem scan_of_isSilent {line : String} (hline : '\n' ∉ line.toList)
    (h : IsSilent line.toList) : scan (line ++ "\n") = [] := by
  have hlines : Text.lines (line ++ "\n").toList = [Text.dropReturn line.toList] := by
    rw [String.toList_append]
    exact Text.lines_newline hline
  rw [scan, hlines, scanLines_cons, State.step, readLine_of_isSilent h.dropReturn]
  rfl

theorem isClosed_of_isSilent {line : String} (hline : '\n' ∉ line.toList)
    (h : IsSilent line.toList) : IsClosed (line ++ "\n") where
  whole := by
    right
    rw [String.toList_append]
    exact List.getLast?_concat
  no_unclosed := by
    rw [scan_of_isSilent hline h]
    simp

/-- Blank lines and comments have been put between the statements of a text. -/
inductive Spaced : (plain spaced : String) → Prop where
  | refl (plain : String) : Spaced plain plain
  | line {line plain spaced : String} (hline : '\n' ∉ line.toList)
      (hsilent : IsSilent line.toList) (h : Spaced plain spaced) :
      Spaced plain (line ++ "\n" ++ spaced)
  | after {first plain spaced : String} (hfirst : IsClosed first) (h : Spaced plain spaced) :
      Spaced (first ++ plain) (first ++ spaced)

end Statement

namespace Source

open Statement

/-! ### Readings one after the other -/

def Reading.append (first rest : Reading) : Reading :=
  ⟨first.messages ++ rest.messages, first.tolerated ++ rest.tolerated⟩

theorem Reading.collect_append (parts rest : List (Except Problem (Checked (Option Message)))) :
    collect (parts ++ rest) =
      (do let first ← collect parts; let later ← collect rest; .ok (first.append later)) := by
  induction parts with
  | nil =>
      rw [List.nil_append]
      cases collect rest <;> rfl
  | cons part parts ih =>
      rw [List.cons_append, collect, collect, ih]
      cases part with
      | error problem => rfl
      | ok first =>
          cases collect parts with
          | error problem => rfl
          | ok middle =>
              cases collect rest with
              | error problem => rfl
              | ok later =>
                  show Except.ok _ = Except.ok (Reading.append _ _)
                  rw [append, append, List.append_assoc, List.append_assoc]

variable (options : Options)

/-- A closed text and one after it are read one by one. -/
theorem read_append {first : String} (h : IsClosed first) (second : String) :
    read options (first ++ second) = (do
      let reading ← read options first
      let later ← relocateRun (Relocation.down (lineCount first))
        (Reading.relocate (Relocation.down (lineCount first))) (read options second)
      .ok (reading.append later)) := by
  rw [read, scan_append h, List.map_append, Reading.collect_append, collect_readItem_relocate]
  rfl

theorem read_append_of_ok {first second : String} (h : IsClosed first) {reading later : Reading}
    (hfirst : read options first = .ok reading) (hsecond : read options second = .ok later) :
    read options (first ++ second) =
      .ok (reading.append (later.relocate (Relocation.down (lineCount first)))) := by
  rw [read_append options h, hfirst, hsecond]
  rfl

theorem read_of_isSilent {line : String} (hline : '\n' ∉ line.toList)
    (h : IsSilent line.toList) : read options (line ++ "\n") = .ok ⟨[], []⟩ := by
  rw [read, scan_of_isSilent hline h]
  rfl

theorem exists_read (h : options.strict = false) (source : String) :
    ∃ reading, read options source = .ok reading := by
  obtain ⟨reading, hread, -⟩ := read_stopsAtFirst options source
  have hoptions : options.withStrict false = options := by
    rw [Options.withStrict, ← h]
  rw [hoptions] at hread
  exact ⟨reading, hread⟩

theorem messages_of_spaced (h : options.strict = false) {plain spaced : String}
    (hspaced : Spaced plain spaced) :
    ∃ reading reading', read options plain = .ok reading ∧ read options spaced = .ok reading' ∧
      reading'.messages = reading.messages := by
  induction hspaced with
  | refl plain =>
      obtain ⟨reading, hread⟩ := exists_read options h plain
      exact ⟨reading, reading, hread, hread, rfl⟩
  | line hline hsilent _ ih =>
      obtain ⟨reading, reading', hplain, hspaced, hmessages⟩ := ih
      have hempty := read_of_isSilent options hline hsilent
      have hread := read_append_of_ok options (isClosed_of_isSilent hline hsilent) hempty hspaced
      exact ⟨reading, _, hplain, hread, hmessages⟩
  | @after first _ _ hfirst _ ih =>
      obtain ⟨reading, reading', hplain, hspaced, hmessages⟩ := ih
      obtain ⟨before, hbefore⟩ := exists_read options h first
      refine ⟨_, _, read_append_of_ok options hfirst hbefore hplain,
        read_append_of_ok options hfirst hbefore hspaced, ?_⟩
      show before.messages ++ reading'.messages = before.messages ++ reading.messages
      rw [hmessages]

end Source

open Source Statement

theorem Store.addAll_append (store : Store) (messages rest : List Message) :
    store.addAll (messages ++ rest) = (store.addAll messages).addAll rest :=
  List.foldl_append

/-- In a lenient reading a text that is closed does not affect the text after it, but for the line
numbers; so both may be loaded one by one, and blank lines and comments between the statements of a
text change no message. -/
theorem Store.loadSource_append {options : Source.Options} (h : options.strict = false) :
    (∀ first second : String, IsClosed first →
      ∃ reading later : Reading,
        Source.read options first = .ok reading ∧ Source.read options second = .ok later ∧
        Source.read options (first ++ second) =
          .ok ⟨reading.messages ++ later.messages, reading.tolerated ++ later.tolerated.map
            fun problem => { problem with
              location.line := problem.location.line + (Text.lines first.toList).length }⟩ ∧
        ∀ store : Store, ∃ loaded loaded' : Loaded,
          store.loadSource options first = .ok loaded ∧
          loaded.store.loadSource options second = .ok loaded' ∧
          store.loadSource options (first ++ second) =
            .ok ⟨loaded'.store, loaded.added + loaded'.added⟩) ∧
    ∀ plain spaced : String, Spaced plain spaced →
      ∃ reading reading' : Reading,
        Source.read options plain = .ok reading ∧ Source.read options spaced = .ok reading' ∧
        reading'.messages = reading.messages := by
  refine ⟨?_, fun plain spaced hspaced => messages_of_spaced options h hspaced⟩
  intro first second hfirst
  obtain ⟨reading, hreading⟩ := exists_read options h first
  obtain ⟨later, hlater⟩ := exists_read options h second
  have hboth := read_append_of_ok options hfirst hreading hlater
  refine ⟨reading, later, hreading, hlater, hboth, ?_⟩
  intro store
  refine ⟨_, _, loadSource_of_read hreading store, loadSource_of_read hlater _, ?_⟩
  have hmessages : (reading.append (later.relocate (.down (lineCount first)))).messages =
      reading.messages ++ later.messages := rfl
  rw [loadSource_of_read hboth, hmessages, addAll_append, List.length_append]

/-- The first text ends a quoted value with a line that looks like a comment, and each of the two has
a problem. -/
theorem Store.loadSource_append_problems :
    (∃ reading later : Reading,
      Source.read {} "a = 'x\n#'\nb\n" = .ok reading ∧ Source.read {} "c[?] = 2" = .ok later ∧
      Source.read {} "a = 'x\n#'\nb\nc[?] = 2" =
        .ok ⟨reading.messages ++ later.messages, reading.tolerated ++ later.tolerated.map
          fun problem => { problem with location.line := problem.location.line + 3 }⟩) ∧
    ∃ reading reading' : Reading,
      Source.read {} "a = 'x\n#'\nb\n" = .ok reading ∧
      Source.read {} "a = 'x\n#'\n  # c = \nb\n" = .ok reading' ∧
      reading'.messages = reading.messages := by
  obtain ⟨happend, hspaced⟩ := @Store.loadSource_append {} rfl
  have hclosed : IsClosed "a = 'x\n#'\nb\n" := by
    refine ⟨by decide, ?_⟩
    have hscan : scan "a = 'x\n#'\nb\n" =
      [.ok ⟨"a", "x\n#", ⟨none, 1, "a = 'x"⟩⟩,
        .error ⟨.missingAssignment, "b", ⟨none, 3, "b"⟩⟩] := by decide +kernel
    rw [hscan]
    simp
  have hfirst : IsClosed "a = 'x\n#'\n" := by
    refine ⟨by decide, ?_⟩
    have hscan : scan "a = 'x\n#'\n" = [.ok ⟨"a", "x\n#", ⟨none, 1, "a = 'x"⟩⟩] := by
      decide +kernel
    rw [hscan]
    simp
  constructor
  · obtain ⟨reading, later, hreading, hlater, hboth, -⟩ := happend _ "c[?] = 2" hclosed
    exact ⟨reading, later, hreading, hlater, hboth⟩
  · have hline : Spaced "b\n" ("  # c = " ++ "\n" ++ "b\n") :=
      .line (by decide) (by decide) (.refl "b\n")
    exact hspaced _ _ (.after hfirst hline)

end Phrasebook
