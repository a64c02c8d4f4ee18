import Phrasebook.Source.Reading

/-! Readings of a text that stands elsewhere. If the statements of a text move to other lines, the
problems found in them move along, and nothing else of the reading changes (`readItem_relocate`,
`Reading.collect_relocate`). -/

namespace Phrasebook

/-- Says for each line, given by its number and its text, which line to name in its place. -/
abbrev Relocation := Nat × String → Nat × String

namespace Relocation

/-- Each line stands this many lines further down. -/
def down (lines : Nat) : Relocation := fun (line, text) => (line + lines, text)

/-- All lines are the same. -/
def nowhere : Relocation := fun _ => (0, "")

end Relocation

/-- A location is moved within its file. -/
def Location.relocate (move : Relocation) (location : Location) : Location :=
  let (line, text) := move (location.line, location.text)
  ⟨location.file, line, text⟩

def Problem.relocate (move : Relocation) (problem : Problem) : Problem :=
  { problem with location := problem.location.relocate move }

theorem Problem.inFile_relocate (move : Relocation) (file : Option String) (problem : Problem) :
    (problem.relocate move).inFile file = (problem.inFile file).relocate move := by
  cases file <;> rfl

def Statement.relocate (move : Relocation) (statement : Statement) : Statement :=
  { statement with location := statement.location.relocate move }

def Statement.relocateItem (move : Relocation) : Item → Item
  | .ok statement => .ok (statement.relocate move)
  | .error problem => .error (problem.relocate move)

namespace Source

def Checked.relocate {α : Type} (move : Relocation) (checked : Checked α) : Checked α :=
  ⟨checked.value, checked.tolerated.map (Problem.relocate move)⟩

def Reading.relocate (move : Relocation) (reading : Reading) : Reading :=
  ⟨reading.messages, reading.tolerated.map (Problem.relocate move)⟩

variable {α β : Type} (move : Relocation)

/-- A run that fails does so with a problem that is moved; `along` moves those of a result. -/
def relocateRun (along : α → α) : Except Problem α → Except Problem α
  | .ok result => .ok (along result)
  | .error problem => .error (problem.relocate move)

/-- Two steps can be moved one after the other. -/
theorem relocateRun_bind {along : α → α} {later : β → β} {next next' : α → Except Problem β}
    (h : ∀ a, next' (along a) = relocateRun move later (next a)) (run : Except Problem α) :
    (relocateRun move along run >>= next') = relocateRun move later (run >>= next) := by
  cases run with
  | error problem => rfl
  | ok result => exact h result

variable (options : Options)

theorem report_relocate (problem : Problem) :
    options.report (problem.relocate move) =
      relocateRun move (List.map (Problem.relocate move)) (options.report problem) := by
  rw [Options.report, Options.report, Problem.inFile_relocate]
  cases options.strict <;> rfl

theorem Declared.addTokens_relocate (location : Location) (declared : Declared)
    (tokens : List Key.Token) :
    addTokens options (location.relocate move) declared tokens =
      relocateRun move (Checked.relocate move) (addTokens options location declared tokens) := by
  induction tokens generalizing declared with
  | nil => rfl
  | cons token tokens ih =>
      rw [addTokens, addTokens]
      split
      · exact ih _
      · exact ih _
      · exact ih _
      next word _ =>
        have hreport := report_relocate move options ⟨.invalidModifier word, declared.name, location⟩
        refine (congrArg (· >>= _) hreport).trans (relocateRun_bind move ?_ _)
        intro problems
        rw [ih]
        refine relocateRun_bind move ?_ _
        intro rest
        show Except.ok _ = Except.ok _
        rw [Checked.relocate, Checked.relocate, List.map_append]

theorem Declared.read_relocate (location : Location) (key : String) :
    read options (location.relocate move) key =
      relocateRun move (Checked.relocate move) (read options location key) := by
  rw [read, read]
  split
  next key _ => exact addTokens_relocate move options location (ofKey key) key.metadata
  next unclosed _ =>
    have hreport :=
      report_relocate move options ⟨.unclosedMetadata, unclosed.readable.name, location⟩
    refine (congrArg (· >>= _) hreport).trans (relocateRun_bind move ?_ _)
    intro problems
    rfl

theorem readItem_relocate (item : Statement.Item) :
    readItem options (Statement.relocateItem move item) =
      relocateRun move (Checked.relocate move) (readItem options item) := by
  cases item with
  | error problem =>
      refine (congrArg (· >>= _) (report_relocate move options problem)).trans
        (relocateRun_bind move ?_ _)
      intro problems
      rfl
  | ok statement =>
      have hread := Declared.read_relocate move options statement.location statement.key
      refine (congrArg (· >>= _) hread).trans (relocateRun_bind move ?_ _)
      intro declared
      rfl

theorem Reading.collect_relocate (parts : List (Except Problem (Checked (Option Message)))) :
    collect (parts.map (relocateRun move (Checked.relocate move))) =
      relocateRun move (relocate move) (collect parts) := by
  induction parts with
  | nil => rfl
  | cons part parts ih =>
      rw [List.map_cons, collect, collect, ih]
      refine relocateRun_bind move ?_ part
      intro first
      refine relocateRun_bind move ?_ _
      intro rest
      show Except.ok _ = Except.ok _
      rw [relocate, relocate, Checked.relocate, List.map_append]

/-- Statements that have been moved are read as before, with the problems moved. -/
theorem collect_readItem_relocate (items : List Statement.Item) :
    Reading.collect ((items.map (Statement.relocateItem move)).map (readItem options)) =
      relocateRun move (Reading.relocate move) (Reading.collect (items.map (readItem options))) := by
  rw [← Reading.collect_relocate, List.map_map, List.map_map]
  congr 1
  apply List.map_congr_left
  intro item _
  exact readItem_relocate move options item

end Source

end Phrasebook
