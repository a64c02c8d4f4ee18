import Mathlib.Data.List.Forall2
import Phrasebook.CommandLine.Check
import Phrasebook.Proofs.JsonText
import Phrasebook.Proofs.Strictness

/-! Checking files. A file is usable if it is text, and definitions if its name says so. A usable one
is read in one way if problems are tolerated (`File.ReadsAs`), and a strict reading is the same or
stops at the first problem of that one (`readMessages_strict`). So each file passes or fails for
itself (`File.exists_readsAs_or_failsWith`), and what is read in the document about a file does not
depend on the others (`entry_raw`); the command fails if one of them does (`checks_every_file`). -/

namespace Phrasebook

open Json (IsReadAs Number Raw)
open Source (StopsAtFirst)

namespace File

/-- The file is text, and definitions if its name says that it holds them. -/
def IsUsable (reader : Reader) (file : String) : Prop :=
  ∃ text, reader file = .ok text ∧
    (holdsDefinitions file = true → ∃ definitions, Definitions.parse? text = some definitions)

/-- What the file is read as if problems are tolerated. -/
inductive ReadsAs (reader : Reader) (file : String) (reading : Source.Reading) : Prop where
  | source {text : String} (htext : reader file = .ok text)
      (hkind : holdsDefinitions file = false)
      (hread : Source.read { fileName := some file } text = .ok reading)
  | definitions {text : String} {definitions : Definitions} (htext : reader file = .ok text)
      (hkind : holdsDefinitions file = true)
      (hparse : Definitions.parse? text = some definitions)
      (hread : definitions.read { fileName := some file } = .ok reading)

/-- Why the file fails, in words; a problem is a reason only if none is tolerated. -/
inductive FailsWith (reader : Reader) (explain : Definitions.Explanation) (lenient : Bool)
    (file : String) : String → Prop where
  | unreadable {failure : Failure} (htext : reader file = .error failure) :
      FailsWith reader explain lenient file ("cannot read " ++ file)
  | notDefinitions {text : String} (htext : reader file = .ok text)
      (hkind : holdsDefinitions file = true) (hparse : Definitions.parse? text = none) :
      FailsWith reader explain lenient file
        ("invalid definitions in " ++ file ++ ": " ++ explain text)
  | problem {reading : Source.Reading} {problem : Problem} {rest : List Problem}
      (hlenient : lenient = false) (hreads : ReadsAs reader file reading)
      (htolerated : reading.tolerated = problem :: rest) :
      FailsWith reader explain lenient file problem.message

variable {reader : Reader} {file : String} {reading : Source.Reading}

theorem ReadsAs.isUsable (h : ReadsAs reader file reading) : IsUsable reader file := by
  cases h with
  | @source text htext hkind _ =>
      refine ⟨text, htext, fun hdefinitions => ?_⟩
      rw [hkind] at hdefinitions
      cases hdefinitions
  | @definitions text definitions htext _ hparse _ =>
      exact ⟨text, htext, fun _ => ⟨definitions, hparse⟩⟩

/-- A reading that tolerates problems never fails. -/
theorem IsUsable.exists_readsAs (h : IsUsable reader file) :
    ∃ reading, ReadsAs reader file reading := by
  obtain ⟨text, htext, hdefinitions⟩ := h
  cases hkind : holdsDefinitions file with
  | false =>
      obtain ⟨reading, hread, -⟩ := Source.read_stopsAtFirst { fileName := some file } text
      exact ⟨reading, .source htext hkind hread⟩
  | true =>
      obtain ⟨definitions, hparse⟩ := hdefinitions hkind
      obtain ⟨reading, hread, -⟩ :=
        Definitions.read_stopsAtFirst { fileName := some file } definitions
      exact ⟨reading, .definitions htext hkind hparse hread⟩

/-- A file passes with what it is read as, or fails. -/
theorem exists_readsAs_or_failsWith (reader : Reader) (explain : Definitions.Explanation)
    (lenient : Bool) (file : String) :
    (∃ reading, ReadsAs reader file reading ∧ (lenient = false → reading.tolerated = [])) ∨
      ∃ reason, FailsWith reader explain lenient file reason := by
  by_cases husable : IsUsable reader file
  · obtain ⟨reading, hreads⟩ := husable.exists_readsAs
    cases lenient with
    | true => exact .inl ⟨reading, hreads, nofun⟩
    | false =>
        cases htolerated : reading.tolerated with
        | nil => exact .inl ⟨reading, hreads, fun _ => htolerated⟩
        | cons problem rest => exact .inr ⟨_, .problem rfl hreads htolerated⟩
  · right
    cases htext : reader file with
    | error failure => exact ⟨_, .unreadable htext⟩
    | ok text =>
        have hfails : ¬(holdsDefinitions file = true →
            ∃ definitions, Definitions.parse? text = some definitions) :=
          fun h => husable ⟨text, htext, h⟩
        obtain ⟨hkind, hparse⟩ := Classical.not_imp.1 hfails
        refine ⟨_, .notDefinitions htext hkind ?_⟩
        rw [Option.eq_none_iff_forall_ne_some]
        exact fun definitions h => hparse ⟨definitions, h⟩

end File

namespace CommandLine

open File (IsUsable ReadsAs FailsWith)

variable {reader : File.Reader} {explain : Definitions.Explanation} {file : String}
  {reading : Source.Reading}

theorem readMessages_text {text : String} (htext : reader file = .ok text) (strict : Bool) :
    readMessages reader strict file =
      Source.Options.readFile { strict, fileName := some file } file text := by
  rw [readMessages, Source.Options.loadFile, htext]
  rfl

theorem readMessages_source {text : String} (htext : reader file = .ok text)
    (hkind : File.holdsDefinitions file = false) (strict : Bool) :
    readMessages reader strict file =
      (Source.read { strict, fileName := some file } text).mapError .problem := by
  rw [readMessages_text htext, Source.Options.readFile, hkind, if_neg Bool.false_ne_true]

theorem readMessages_definitions {text : String} {definitions : Definitions}
    (htext : reader file = .ok text) (hkind : File.holdsDefinitions file = true)
    (hparse : Definitions.parse? text = some definitions) (strict : Bool) :
    readMessages reader strict file =
      (definitions.read { strict, fileName := some file }).mapError .problem := by
  rw [readMessages_text htext, Source.Options.readFile, if_pos hkind, hparse]

theorem readMessages_lenient (h : ReadsAs reader file reading) :
    readMessages reader false file = .ok reading := by
  cases h with
  | source htext hkind hread => rw [readMessages_source htext hkind, hread]; rfl
  | definitions htext hkind hparse hread =>
      rw [readMessages_definitions htext hkind hparse, hread]
      rfl

theorem mapError_of_stopsAtFirst {strict lenient : Except Problem Source.Reading}
    {name : Option String} (h : StopsAtFirst Source.Reading.tolerated name strict lenient)
    (hlenient : lenient = .ok reading) :
    strict.mapError LoadError.problem =
      reading.tolerated.head?.elim (.ok reading) fun problem => .error (.problem problem) := by
  obtain ⟨result, hresult, -, rfl⟩ := h
  obtain rfl := Except.ok.inj (hresult.symm.trans hlenient)
  cases result.tolerated.head? <;> rfl

/-- A strict reading stops at the first problem that is tolerated otherwise. -/
theorem readMessages_strict (h : ReadsAs reader file reading) :
    readMessages reader true file =
      reading.tolerated.head?.elim (.ok reading) fun problem => .error (.problem problem) := by
  cases h with
  | source htext hkind hread =>
      rw [readMessages_source htext hkind]
      exact mapError_of_stopsAtFirst (Source.read_stopsAtFirst { fileName := some file } _) hread
  | definitions htext hkind hparse hread =>
      rw [readMessages_definitions htext hkind hparse]
      exact mapError_of_stopsAtFirst (Definitions.read_stopsAtFirst { fileName := some file } _) hread

theorem readMessages_of_readsAs {lenient : Bool} (h : ReadsAs reader file reading)
    (htolerated : lenient = false → reading.tolerated = []) :
    readMessages reader (!lenient) file = .ok reading := by
  cases lenient with
  | true => exact readMessages_lenient h
  | false =>
      rw [Bool.not_false, readMessages_strict h, htolerated rfl]
      rfl

theorem readMessages_of_failsWith {lenient : Bool} {reason : String}
    (h : FailsWith reader explain lenient file reason) :
    ∃ error, readMessages reader (!lenient) file = .error error ∧
      describe explain error = reason := by
  cases h with
  | unreadable htext =>
      rw [readMessages, Source.Options.loadFile, htext]
      exact ⟨_, rfl, rfl⟩
  | notDefinitions htext hkind hparse =>
      rw [readMessages_text htext, Source.Options.readFile, if_pos hkind, hparse]
      exact ⟨_, rfl, rfl⟩
  | problem hlenient hreads htolerated =>
      rw [hlenient, Bool.not_false, readMessages_strict hreads, htolerated]
      exact ⟨_, rfl, rfl⟩

/-! ### What is read in a document -/

def problemRecord (kind : String) (line : Raw) (message : String) : Raw :=
  .object [(some "kind", .string (some kind)), (some "line", line),
    (some "message", .string (some message))]

def fileRecord (file : String) (messages : Raw) (problems : List Raw) : Raw :=
  .object [(some "file", .string (some file)), (some "messages", messages),
    (some "problems", .array problems)]

def CheckedProblem.raw (problem : CheckedProblem) : Raw :=
  problemRecord problem.kind
    (problem.line.elim .null fun line => .number (Number.Written.ofNat line).value?) problem.message

theorem CheckedProblem.isReadAs_toJson (problem : CheckedProblem) :
    problem.toJson.IsReadAs problem.raw := by
  have hline : (Json.ofOption (fun line => .integer (line : Nat)) problem.line).IsReadAs
      (problem.line.elim .null fun line => .number (Number.Written.ofNat line).value?) := by
    cases problem.line with
    | none => exact .null
    | some line => exact .natural line
  exact .record [("kind", _, _), ("line", _, _), ("message", _, _)]
    (List.forall_mem_cons.2 ⟨.string _,
      List.forall_mem_cons.2 ⟨hline, List.forall_mem_singleton.2 (.string _)⟩⟩)

def CheckedFile.raw (checked : CheckedFile) (explain : Definitions.Explanation) : Raw :=
  fileRecord checked.file (.number (Number.Written.ofNat checked.messageCount).value?)
    ((checked.problems explain).map CheckedProblem.raw)

theorem CheckedFile.isReadAs_toJson (checked : CheckedFile) (explain : Definitions.Explanation) :
    (checked.toJson explain).IsReadAs (checked.raw explain) := by
  have hproblems : (Json.array ((checked.problems explain).map CheckedProblem.toJson)).IsReadAs
      (.array ((checked.problems explain).map CheckedProblem.raw)) :=
    .array fun problem _ => problem.isReadAs_toJson
  exact .record [("file", _, _), ("messages", _, _), ("problems", _, _)]
    (List.forall_mem_cons.2 ⟨.string _,
      List.forall_mem_cons.2 ⟨.natural _, List.forall_mem_singleton.2 hproblems⟩⟩)

namespace CheckOptions

/-- What a document says about a problem that is tolerated. -/
inductive ProblemEntry (problem : Problem) : Raw → Prop where
  | mk {line : Raw} (hline : line.IsNatural problem.location.line) :
      ProblemEntry problem (problemRecord problem.kind line problem.message)

/-- What a document says about a file. -/
inductive Entry (reader : File.Reader) (explain : Definitions.Explanation) (lenient : Bool)
    (file : String) : Raw → Prop where
  | passed {reading : Source.Reading} {messages : Raw} {problems : List Raw}
      (hreads : ReadsAs reader file reading) (htolerated : lenient = false → reading.tolerated = [])
      (hmessages : messages.IsNatural reading.messages.length)
      (hproblems : List.Forall₂ ProblemEntry reading.tolerated problems) :
      Entry reader explain lenient file (fileRecord file messages problems)
  | failed {reason : String} (hfails : FailsWith reader explain lenient file reason) :
      Entry reader explain lenient file
        (fileRecord file (.number (some (.natural 0))) [problemRecord "error" .null reason])

theorem ProblemEntry.eq {problem : Problem} {raw : Raw} (h : ProblemEntry problem raw)
    (hline : problem.location.line < 2 ^ (64 : Nat)) :
    raw = problemRecord problem.kind (.number (some (.natural problem.location.line)))
      problem.message := by
  cases h with
  | mk hentry => rw [hentry.eq hline]

/-- A file that fails has no other entry. -/
theorem Entry.eq_of_failsWith {lenient : Bool} {reason : String} {raw : Raw}
    (h : Entry reader explain lenient file raw)
    (hfails : FailsWith reader explain lenient file reason) :
    raw = fileRecord file (.number (some (.natural 0))) [problemRecord "error" .null reason] := by
  obtain ⟨error, hread, rfl⟩ := readMessages_of_failsWith hfails
  cases h with
  | passed hreads htolerated =>
      rw [readMessages_of_readsAs hreads htolerated] at hread
      cases hread
  | failed hfails =>
      obtain ⟨error', hread', rfl⟩ := readMessages_of_failsWith hfails
      cases hread.symm.trans hread'
      rfl

/-- A file that passes has an entry of what it is read as. -/
theorem Entry.exists_of_readsAs {lenient : Bool} {raw : Raw}
    (h : Entry reader explain lenient file raw) (hreads : ReadsAs reader file reading)
    (htolerated : lenient = false → reading.tolerated = []) :
    ∃ messages problems, raw = fileRecord file messages problems ∧
      messages.IsNatural reading.messages.length ∧
      List.Forall₂ ProblemEntry reading.tolerated problems := by
  have hread := readMessages_of_readsAs hreads htolerated
  cases h with
  | passed hreads' htolerated' hmessages hproblems =>
      cases hread.symm.trans (readMessages_of_readsAs hreads' htolerated')
      exact ⟨_, _, rfl, hmessages, hproblems⟩
  | failed hfails =>
      obtain ⟨error, herror, -⟩ := readMessages_of_failsWith hfails
      rw [hread] at herror
      cases herror

variable {options : CheckOptions}

theorem checkFile_of_readsAs (h : ReadsAs reader file reading)
    (htolerated : options.lenient = false → reading.tolerated = []) :
    options.checkFile reader file = ⟨file, .ok reading⟩ := by
  rw [checkFile, readMessages_of_readsAs h htolerated]

theorem checkFile_of_failsWith {reason : String}
    (h : FailsWith reader explain options.lenient file reason) :
    ∃ error, options.checkFile reader file = ⟨file, .error error⟩ ∧
      describe explain error = reason := by
  obtain ⟨error, hread, hreason⟩ := readMessages_of_failsWith h
  exact ⟨error, by rw [checkFile, hread], hreason⟩

/-- What is read about a file is an entry of it. -/
theorem entry_raw (options : CheckOptions) (reader : File.Reader)
    (explain : Definitions.Explanation) (file : String) :
    Entry reader explain options.lenient file ((options.checkFile reader file).raw explain) := by
  obtain ⟨reading, hreads, htolerated⟩ | ⟨reason, hfails⟩ :=
    File.exists_readsAs_or_failsWith reader explain options.lenient file
  · rw [checkFile_of_readsAs hreads htolerated, CheckedFile.raw, CheckedFile.problems, List.map_map]
    refine .passed hreads htolerated (Number.Written.isNatural_ofNat _) ?_
    exact List.forall₂_map_right_iff.2
      (List.forall₂_same.2 fun problem _ => .mk (Number.Written.isNatural_ofNat _))
  · obtain ⟨error, hcheck, rfl⟩ := checkFile_of_failsWith hfails
    have hzero : (Number.Written.ofNat 0).value? = some (.natural 0) :=
      Number.Written.value?_ofNat (by omega)
    rw [hcheck]
    simp only [CheckedFile.raw, CheckedFile.messageCount, hzero]
    exact .failed hfails

theorem passes_checkFile_iff : (options.checkFile reader file).passes = true ↔
    IsUsable reader file ∧ (options.lenient = false →
      ∃ reading, ReadsAs reader file reading ∧ reading.tolerated = []) := by
  constructor
  · intro hpasses
    -- It does not matter here how a failure is explained.
    obtain ⟨reading, hreads, htolerated⟩ | ⟨reason, hfails⟩ :=
      File.exists_readsAs_or_failsWith reader id options.lenient file
    · exact ⟨hreads.isUsable, fun hstrict => ⟨reading, hreads, htolerated hstrict⟩⟩
    · obtain ⟨error, hcheck, -⟩ := checkFile_of_failsWith hfails
      rw [hcheck] at hpasses
      cases hpasses
  · rintro ⟨husable, hclean⟩
    obtain ⟨reading, hreads, htolerated⟩ : ∃ reading, ReadsAs reader file reading ∧
        (options.lenient = false → reading.tolerated = []) := by
      cases hlenient : options.lenient with
      | false =>
          obtain ⟨reading, hreads, hnone⟩ := hclean hlenient
          exact ⟨reading, hreads, fun _ => hnone⟩
      | true =>
          obtain ⟨reading, hreads⟩ := husable.exists_readsAs
          exact ⟨reading, hreads, nofun⟩
    rw [checkFile_of_readsAs hreads htolerated]
    rfl

theorem code_run (options : CheckOptions) (reader : File.Reader)
    (explain : Definitions.Explanation) :
    (options.run reader explain).code =
      if ∀ file ∈ options.files, (options.checkFile reader file).passes = true then .success
      else .dataError := by
  have hall : (options.files.map (options.checkFile reader)).all CheckedFile.passes = true ↔
      ∀ file ∈ options.files, (options.checkFile reader file).passes = true := by
    rw [List.all_eq_true, List.forall_mem_map]
  rw [run, report]
  split <;> exact if_congr hall rfl rfl

/-- A document holds what is read about each file, and nothing else. -/
theorem parse?_output (hjson : options.json = true) (reader : File.Reader)
    (explain : Definitions.Explanation) :
    Raw.parse? (options.run reader explain).output = some
      (.array (options.files.map fun file => (options.checkFile reader file).raw explain)) := by
  rw [run, report, if_pos hjson, List.map_map]
  apply IsReadAs.parse?_document
  exact .array fun file _ => (options.checkFile reader file).isReadAs_toJson explain

/-- The command succeeds if all files are usable and, unless problems are tolerated, have none; it
fails with one other code. A document has an entry for each file, in the order of the files and
whatever is wrong with the others. -/
theorem checks_every_file (options : CheckOptions) (reader : File.Reader)
    (explain : Definitions.Explanation) :
    ((options.run reader explain).code.toNat = 0 ↔
      (∀ file ∈ options.files, IsUsable reader file) ∧
      (options.lenient = false → ∀ file ∈ options.files,
        ∃ reading, ReadsAs reader file reading ∧ reading.tolerated = [])) ∧
    ((options.run reader explain).code.toNat ≠ 0 →
      (options.run reader explain).code.toNat = 65) ∧
    (options.json = true → ∃ entries : List Raw,
      Raw.parse? (options.run reader explain).output = some (.array entries) ∧
      List.Forall₂ (Entry reader explain options.lenient) options.files entries) := by
  have hpasses : (∀ file ∈ options.files, (options.checkFile reader file).passes = true) ↔
      (∀ file ∈ options.files, IsUsable reader file) ∧
      (options.lenient = false → ∀ file ∈ options.files,
        ∃ reading, ReadsAs reader file reading ∧ reading.tolerated = []) := by
    simp only [passes_checkFile_iff]
    constructor
    · intro h
      exact ⟨fun file hfile => (h file hfile).1, fun hstrict file hfile => (h file hfile).2 hstrict⟩
    · rintro ⟨husable, hclean⟩ file hfile
      exact ⟨husable file hfile, fun hstrict => hclean hstrict file hfile⟩
  have hentries : List.Forall₂ (Entry reader explain options.lenient) options.files
      (options.files.map fun file => (options.checkFile reader file).raw explain) :=
    List.forall₂_map_right_iff.2 (List.forall₂_same.2 fun file _ => entry_raw _ _ _ file)
  refine ⟨?_, ?_, fun hjson => ⟨_, parse?_output hjson reader explain, hentries⟩⟩
  · rw [code_run, ← hpasses]
    split
    next h => exact iff_of_true rfl h
    next h => exact iff_of_false nofun h
  · rw [code_run]
    split
    · exact fun h => absurd rfl h
    · exact fun _ => rfl

/-- A file with a problem, one that cannot be read and an empty one that should hold definitions. -/
theorem checks_every_file_faults :
    let options : CheckOptions :=
      { files := ["a.props", "b.props", "c.json"], lenient := true, json := true }
    let reader : File.Reader := fun file =>
      if file = "a.props" then .ok "k = 1\nl"
      else if file = "c.json" then .ok "" else .error .notFound
    let explain : Definitions.Explanation := fun _ => "EOF while parsing a value at line 1 column 0"
    (options.run reader explain).code.toNat = 65 ∧
      Raw.parse? (options.run reader explain).output = some (.array
        [fileRecord "a.props" (.number (some (.natural 1)))
          [problemRecord "missing-assignment-operator" (.number (some (.natural 2)))
            "missing `=` operator for key `l` on a.props:2"],
        fileRecord "b.props" (.number (some (.natural 0)))
          [problemRecord "error" .null "cannot read b.props"],
        fileRecord "c.json" (.number (some (.natural 0)))
          [problemRecord "error" .null
            "invalid definitions in c.json: EOF while parsing a value at line 1 column 0"]]) := by
  intro options reader explain
  obtain ⟨hsucceeds, hfails, hjson⟩ := checks_every_file options reader explain
  have hunreadable : FailsWith reader explain true "b.props" "cannot read b.props" :=
    .unreadable (show reader "b.props" = .error .notFound from rfl)
  have hinvalid : FailsWith reader explain true "c.json"
      "invalid definitions in c.json: EOF while parsing a value at line 1 column 0" :=
    .notDefinitions (show reader "c.json" = .ok "" from rfl) (by decide +kernel) (by decide +kernel)
  have hcode : (options.run reader explain).code.toNat ≠ 0 := by
    intro hzero
    obtain ⟨text, htext, -⟩ := (hsucceeds.1 hzero).1 "b.props" (by simp [options])
    cases htext
  obtain ⟨entries, houtput, hentries⟩ := hjson rfl
  obtain ⟨_, _, ha, hlater, rfl⟩ := List.forall₂_cons_left_iff.1 hentries
  obtain ⟨_, _, hb, hlast, rfl⟩ := List.forall₂_cons_left_iff.1 hlater
  obtain ⟨_, _, hc, hnone, rfl⟩ := List.forall₂_cons_left_iff.1 hlast
  obtain rfl := List.forall₂_nil_left_iff.1 hnone
  obtain ⟨reading, hreads⟩ : ∃ reading, ReadsAs reader "a.props" reading :=
    IsUsable.exists_readsAs ⟨"k = 1\nl", rfl, nofun⟩
  have hreading : (readMessages reader false "a.props").toOption.map (fun reading =>
      (reading.messages.length, reading.tolerated.map fun problem =>
        (problem.kind, problem.location.line, problem.message))) = some (1,
      [("missing-assignment-operator", 2, "missing `=` operator for key `l` on a.props:2")]) := by
    decide +kernel
  rw [readMessages_lenient hreads] at hreading
  obtain ⟨hlength, htolerated⟩ := Prod.mk.inj (Option.some.inj hreading)
  obtain ⟨messages, problems, rfl, hmessages, hproblems⟩ := ha.exists_of_readsAs hreads nofun
  obtain ⟨problem, hproblem, hparts⟩ := List.map_eq_singleton_iff.1 htolerated
  obtain ⟨hkind, hplace⟩ := Prod.mk.inj hparts
  obtain ⟨hline, hmessage⟩ := Prod.mk.inj hplace
  rw [hlength] at hmessages
  rw [hproblem] at hproblems
  obtain ⟨_, _, hentry, hnone, rfl⟩ := List.forall₂_cons_left_iff.1 hproblems
  obtain rfl := List.forall₂_nil_left_iff.1 hnone
  refine ⟨hfails hcode, ?_⟩
  rw [houtput, hmessages.eq (by omega), hentry.eq (by omega), hkind, hline, hmessage,
    hb.eq_of_failsWith hunreadable, hc.eq_of_failsWith hinvalid]

end CheckOptions

end CommandLine

end Phrasebook
