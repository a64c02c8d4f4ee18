import Phrasebook.Proofs.DictionaryEntries
import Phrasebook.Proofs.Documents
import Phrasebook.Proofs.Relocation
import Phrasebook.Proofs.Strictness
import Phrasebook.Source.Definition

/-! Definitions and documents. A definition of a template alone is read like a statement with the
same key and value (`Definition.read_text`), and a reading does not depend on where its statements
stand but in the places it names (`Source.collect_endAlike`). So definitions of templates and the
document of their statements are read alike (`Definitions.read_document`). -/

namespace Phrasebook

theorem map_mapIdx {α β γ : Type} {f : Nat → α → β} {g : β → γ} {k : α → γ} {l : List α}
    (h : ∀ place, ∀ a ∈ l, g (f place a) = k a) : (l.mapIdx f).map g = l.map k := by
  apply List.ext_getElem?
  intro place
  rw [List.getElem?_map, List.getElem?_mapIdx, List.getElem?_map]
  cases hget : l[place]? with
  | none => rfl
  | some a => exact congrArg some (h place a (List.mem_of_getElem? hget))

/-- What is wrong, and with which key. -/
def Problem.fault (problem : Problem) : Problem.Cause × String :=
  (problem.cause, problem.key)

namespace Source

/-- Two runs of a reading fail with the same fault, or they give the same messages and tolerate the
same faults. The places that their problems name may differ. -/
inductive EndAlike : (run run' : Except Problem Reading) → Prop where
  | failed {problem problem' : Problem} (h : problem.fault = problem'.fault) :
      EndAlike (.error problem) (.error problem')
  | read {messages : List Message} {tolerated tolerated' : List Problem}
      (h : tolerated.map Problem.fault = tolerated'.map Problem.fault) :
      EndAlike (.ok ⟨messages, tolerated⟩) (.ok ⟨messages, tolerated'⟩)

theorem map_fault_relocate (move : Relocation) (problems : List Problem) :
    (problems.map (Problem.relocate move)).map Problem.fault = problems.map Problem.fault := by
  rw [List.map_map]
  rfl

/-- Runs that are the same after a move end alike. -/
theorem endAlike_of_relocate {move : Relocation} {run run' : Except Problem Reading}
    (h : relocateRun move (Reading.relocate move) run =
      relocateRun move (Reading.relocate move) run') : EndAlike run run' := by
  rcases run with problem | ⟨messages, tolerated⟩ <;>
    rcases run' with problem' | ⟨messages', tolerated'⟩
  · have hmoved := congrArg Problem.fault (Except.error.inj h)
    exact .failed hmoved
  · cases h
  · cases h
  · have hmoved : (Reading.relocate move ⟨messages, tolerated⟩) =
        Reading.relocate move ⟨messages', tolerated'⟩ := Except.ok.inj h
    obtain ⟨rfl, htolerated⟩ := Reading.mk.inj hmoved
    refine .read ?_
    rw [← map_fault_relocate move tolerated, htolerated, map_fault_relocate]

/-- Statements with the same keys and values are read alike. -/
theorem collect_endAlike (options : Options) {statements statements' : List Statement}
    (h : statements.map (fun statement => (statement.key, statement.value)) =
      statements'.map fun statement => (statement.key, statement.value))
    (hfile : ∀ statement ∈ statements, statement.location.file = none)
    (hfile' : ∀ statement ∈ statements', statement.location.file = none) :
    EndAlike (Reading.collect ((statements.map .ok).map (readItem options)))
      (Reading.collect ((statements'.map .ok).map (readItem options))) := by
  have hmove : ∀ {statements : List Statement},
      (∀ statement ∈ statements, statement.location.file = none) →
      (statements.map .ok).map (Statement.relocateItem Relocation.nowhere) =
        (statements.map fun statement => (statement.key, statement.value)).map
          fun entry => .ok ⟨entry.1, entry.2, ⟨none, 0, ""⟩⟩ := by
    intro statements hfile
    rw [List.map_map, List.map_map]
    apply List.map_congr_left
    intro statement hmem
    show Except.ok (Statement.mk _ _ ⟨statement.location.file, 0, ""⟩) = _
    rw [hfile statement hmem]
    rfl
  apply @endAlike_of_relocate Relocation.nowhere
  rw [← collect_readItem_relocate, ← collect_readItem_relocate, hmove hfile, hmove hfile', h]

end Source

open Source

namespace Definition

theorem read_text (options : Options) (place : Nat) (key template : String) :
    read options place key (.text template) =
      readItem options (.ok ⟨key, template, ⟨none, place + 1, key⟩⟩) := rfl

/-- An object that gives a template and nothing else says no more than the template. -/
theorem read_object (options : Options) (place : Nat) (key template : String) :
    read options place key (.object { template := some template }) =
      read options place key (.text template) := rfl

end Definition

namespace Definitions

/-- The statements that definitions of templates stand for. -/
def statements (definitions : Definitions) : List Statement :=
  definitions.entries.mapIdx fun place (key, definition) =>
    ⟨key, definition.template, ⟨none, place + 1, key⟩⟩

/-- Definitions of templates as they are written in a document, in key order. -/
def document (quote : String → Char) (definitions : Definitions) : String :=
  "\n".intercalate <| definitions.entries.map fun (key, definition) =>
    key ++ " = " ++ Quoted.write (quote key) definition.template

variable (options : Options) {definitions : Definitions}

theorem read_eq_collect_statements
    (htext : ∀ entry ∈ definitions.entries, entry.2 = .text entry.2.template) :
    definitions.read options =
      Reading.collect ((definitions.statements.map .ok).map (readItem options)) := by
  rw [Definitions.read, statements, List.mapIdx_eq_zipIdx_map, List.mapIdx_eq_zipIdx_map,
    List.map_map, List.map_map]
  congr 1
  apply List.map_congr_left
  rintro ⟨⟨key, definition⟩, place⟩ hmem
  have hdefinition : definition = .text definition.template :=
    htext (key, definition) (List.fst_mem_of_mem_zipIdx hmem)
  show definition.read options place key = _
  rw [hdefinition]
  exact Definition.read_text options place key definition.template

theorem map_statements :
    definitions.statements.map (fun statement => (statement.key, statement.value)) =
      definitions.entries.map fun (key, definition) => (key, definition.template) :=
  map_mapIdx fun _ _ _ => rfl

theorem file_of_mem_statements :
    ∀ statement ∈ definitions.statements, statement.location.file = none := by
  intro statement hmem
  obtain ⟨place, hplace, rfl⟩ := List.mem_mapIdx.1 hmem
  rfl

/-- The entries of the document. -/
def written (quote : String → Char) (definitions : Definitions) : List Statement.Written :=
  definitions.entries.map fun (key, definition) => ⟨key, quote key, definition.template, ""⟩

theorem document_eq (quote : String → Char) :
    definitions.document quote = Statement.document (definitions.written quote) := by
  rw [document, Statement.document, written, List.map_map]
  congr 1
  apply List.map_congr_left
  intro entry _
  exact String.append_empty.symm

/-- The document is scanned as the statements that the definitions stand for, but for the lines on
which they are. -/
theorem scan_document_eq {quote : String → Char}
    (hquote : ∀ key, quote key = '\'' ∨ quote key = '"')
    (hkey : ∀ entry ∈ definitions.entries, Statement.IsKey entry.1.toList)
    (hplain : ∀ entry ∈ definitions.entries, ¬['\r', '\n'] <:+: entry.2.template.toList) :
    ∃ statements : List Statement,
      Statement.scan (definitions.document quote) = statements.map .ok ∧
      statements.map (fun statement => (statement.key, statement.value)) =
        definitions.entries.map fun (key, definition) => (key, definition.template) := by
  have hreadable : ∀ entry ∈ definitions.written quote, entry.IsReadable := by
    intro entry hentry
    obtain ⟨⟨key, definition⟩, hmem, rfl⟩ := List.mem_map.1 hentry
    exact ⟨hkey _ hmem, hquote key, List.not_mem_nil⟩
  obtain ⟨statements, hscan, hsummary⟩ := Statement.scanLines_document hreadable 1
  refine ⟨statements, ?_, ?_⟩
  · rw [document_eq]
    exact hscan
  · calc
      _ = (statements.map Statement.summary).map fun (key, value, _) => (key, value) := by
        rw [List.map_map]
        rfl
      _ = (definitions.written quote).map fun entry =>
          (entry.key, String.ofList (Text.plainEnds entry.content.toList)) := by
        rw [hsummary]
        exact map_mapIdx fun _ _ _ => rfl
      _ = _ := by
        rw [written, List.map_map]
        apply List.map_congr_left
        intro entry hentry
        show (entry.1, String.ofList (Text.plainEnds entry.2.template.toList)) = _
        rw [Text.plainEnds_eq_self_iff.2 (hplain entry hentry), String.ofList_toList]

/-- Definitions are read one after the other, so it does not matter how each of them is given. -/
theorem read_insert {key : String} {definition definition' : Definition}
    (hfind : definitions.find? key = some definition)
    (hread : ∀ place, definition'.read options place key = definition.read options place key) :
    Definitions.read options (definitions.insert key definition') = definitions.read options := by
  rw [Definitions.read, Definitions.read, Dictionary.entries_insert hfind,
    List.mapIdx_eq_zipIdx_map, List.mapIdx_eq_zipIdx_map, List.zipIdx_map, List.map_map]
  congr 1
  apply List.map_congr_left
  rintro ⟨⟨other, stored⟩, place⟩ hmem
  by_cases heq : other = key
  · obtain rfl := heq
    have hstored := Dictionary.find?_eq_some_iff.2 (List.fst_mem_of_mem_zipIdx hmem)
    obtain rfl : stored = definition := Option.some.inj (hstored.symm.trans hfind)
    simp only [Function.comp_apply, Prod.map_apply, if_true, id]
    exact hread place
  · simp only [Function.comp_apply, Prod.map_apply, if_neg heq, id]

/-- Definitions of templates and the document of their statements give the same messages, and what
is wrong with one is wrong with the other. It does not matter either whether a template is given
alone or as the only field of an object. -/
theorem read_document {quote : String → Char}
    (hquote : ∀ key, quote key = '\'' ∨ quote key = '"')
    (hkey : ∀ entry ∈ definitions.entries, Statement.IsKey entry.1.toList)
    (htext : ∀ entry ∈ definitions.entries, entry.2 = .text entry.2.template ∧
      ¬['\r', '\n'] <:+: entry.2.template.toList) :
    EndAlike (definitions.read options) (Source.read options (definitions.document quote)) ∧
    ∀ (others : Definitions) (key template : String),
      others.find? key = some (.text template) →
      Definitions.read options (others.insert key (.object { template := some template })) =
        others.read options := by
  refine ⟨?_, fun others key template hfind => ?_⟩
  · obtain ⟨statements, hscan, hpairs⟩ :=
      scan_document_eq hquote hkey fun entry hentry => (htext entry hentry).2
    have hfile : ∀ statement ∈ statements, statement.location.file = none := by
      intro statement hmem
      have hitem : .ok statement ∈ Statement.scan (definitions.document quote) := by
        rw [hscan]
        exact List.mem_map_of_mem hmem
      exact Statement.file_of_mem_scan hitem
    rw [read_eq_collect_statements options fun entry hentry => (htext entry hentry).1,
      Source.read, hscan]
    exact collect_endAlike options (map_statements.trans hpairs.symm) file_of_mem_statements hfile
  · exact read_insert options hfind fun place => Definition.read_object options place key template

/-- Each of the two keys has a fault, and a line of the first text looks like a comment. -/
theorem read_document_faults :
    let definitions : Definitions :=
      Dictionary.ofList [("b(m", .text ""), ("a#en[x, F]", .text "it's\n# 1")]
    EndAlike (definitions.read {})
      (Source.read {} "a#en[x, F] = 'it\\'s\n# 1'\nb(m = ''") ∧
    Definitions.read {} (definitions.insert "b(m" (.object { template := some "" })) =
      definitions.read {} := by
  intro definitions
  have hquote : ∀ _ : String, '\'' = '\'' ∨ '\'' = '"' := fun _ => .inl rfl
  obtain ⟨halike, hobject⟩ :=
    @read_document {} definitions _ hquote (by decide +kernel) (by decide +kernel)
  have hdocument : definitions.document (fun _ => '\'') =
      "a#en[x, F] = 'it\\'s\n# 1'\nb(m = ''" := by decide +kernel
  refine ⟨hdocument ▸ halike, hobject definitions "b(m" "" ?_⟩
  decide +kernel

end Definitions

end Phrasebook
