import Phrasebook.Proofs.StoreRun

/-! Strict and lenient readings of the same text. A lenient reading never fails, and a strict one
gives the same or fails with the first problem that the lenient one tolerates (`StopsAtFirst`). The
relation holds of a problem that is reported and is kept when one part is read after another
(`StopsAtFirst.bind`), so it holds of keys, of statements and definitions, and of whole texts. A
store into which such a text is loaded then holds all messages of the lenient reading, or none if
the strict one fails (`strict_agrees_with_lenient`). -/

namespace Phrasebook

theorem Problem.file_inFile {problem : Problem} (h : problem.location.file = none)
    (file : Option String) : (problem.inFile file).location.file = file := by
  cases file with
  | none => exact h
  | some name => rfl

/-! ### Locations without a file -/

namespace Statement

/-- Where a statement stands, or the line with which something is wrong. -/
def locationOf : Item → Location
  | .ok statement => statement.location
  | .error problem => problem.location

def State.IsUnplaced : State → Prop
  | outside => True
  | inside pending => pending.location.file = none

/-- Neither what has been read of a statement nor what is made of a line is said to be in a file. -/
def IsUnplaced (result : State × Option Item) : Prop :=
  result.1.IsUnplaced ∧ ∀ item ∈ result.2, (locationOf item).file = none

theorem isUnplaced_skip : IsUnplaced (.outside, none) :=
  ⟨trivial, by simp⟩

theorem isUnplaced_item {item : Item} (h : (locationOf item).file = none) :
    IsUnplaced (.outside, some item) := by
  refine ⟨trivial, ?_⟩
  rintro _ ⟨⟩
  exact h

theorem isUnplaced_feed {pending : Pending} (h : pending.location.file = none)
    (line : List Char) : IsUnplaced (pending.feed line) := by
  rw [Pending.feed]
  split
  · exact isUnplaced_item h
  · exact ⟨h, by simp⟩

theorem isUnplaced_readValue {location : Location} (h : location.file = none) (key : String)
    (value : List Char) : IsUnplaced (readValue key location value) := by
  rw [readValue]
  split
  · exact isUnplaced_item h
  · split
    · exact isUnplaced_feed h _
    · exact isUnplaced_item h

theorem isUnplaced_readLine (number : Nat) (line : List Char) :
    IsUnplaced (readLine number line) := by
  simp only [readLine]
  split
  · exact isUnplaced_skip
  · split
    · exact isUnplaced_item rfl
    · exact isUnplaced_readValue rfl _ _

theorem isUnplaced_step {state : State} (h : state.IsUnplaced) (number : Nat)
    (line : List Char) : IsUnplaced (state.step number line) := by
  cases state with
  | outside => exact isUnplaced_readLine number line
  | inside pending => exact isUnplaced_feed h line

theorem file_of_mem_scanLines {state : State} (h : state.IsUnplaced) (number : Nat)
    (lines : List (List Char)) :
    ∀ item ∈ scanLines state number lines, (locationOf item).file = none := by
  fun_induction scanLines state number lines with
  | case1 => simp
  | case2 pending number =>
      intro item hitem
      rw [List.mem_singleton.1 hitem]
      exact h
  | case3 state number line rest next item hstep ih =>
      have hunplaced := isUnplaced_step h number line
      rw [hstep] at hunplaced
      intro found hfound
      rcases List.mem_append.1 hfound with hfound | hfound
      · exact hunplaced.2 found (Option.mem_toList.1 hfound)
      · exact ih hunplaced.1 found hfound

/-- A scan knows nothing of files. -/
theorem file_of_mem_scan {source : String} {item : Item} (h : item ∈ scan source) :
    (locationOf item).file = none := by
  have hstart : State.outside.IsUnplaced := trivial
  exact file_of_mem_scanLines hstart 1 _ item h

end Statement

namespace Source

/-! ### Two runs of the same reading -/

/-- The lenient run succeeds, and each problem it tolerates is in the given file. The strict run
gives the same, or fails with the first of the problems. -/
def StopsAtFirst {α : Type} (tolerated : α → List Problem) (file : Option String)
    (strict lenient : Except Problem α) : Prop :=
  ∃ result, lenient = .ok result ∧
    (∀ problem ∈ tolerated result, problem.location.file = file) ∧
    strict = (tolerated result).head?.elim (.ok result) .error

namespace StopsAtFirst

variable {α β γ : Type} {first : α → List Problem} {second : β → List Problem}
  {both : γ → List Problem} {file : Option String}

theorem ok {result : α} (h : first result = []) :
    StopsAtFirst first file (.ok result) (.ok result) := by
  refine ⟨result, rfl, ?_, ?_⟩
  · simp [h]
  · rw [h]
    rfl

/-- What is read later is not read by a strict run that has failed before. -/
theorem bind {strict lenient : Except Problem α} {strictly leniently : α → Except Problem β}
    {join : α → β → γ} (hjoin : ∀ a b, both (join a b) = first a ++ second b)
    (h : StopsAtFirst first file strict lenient)
    (hnext : ∀ a, StopsAtFirst second file (strictly a) (leniently a)) :
    StopsAtFirst both file
      (do let a ← strict; let b ← strictly a; .ok (join a b))
      (do let a ← lenient; let b ← leniently a; .ok (join a b)) := by
  obtain ⟨a, rfl, hfile, rfl⟩ := h
  obtain ⟨b, hb, hfile', hb'⟩ := hnext a
  refine ⟨join a b, ?_, ?_, ?_⟩
  · show (leniently a >>= fun b => .ok (join a b)) = _
    rw [hb]
    rfl
  · rw [hjoin]
    exact List.forall_mem_append.2 ⟨hfile, hfile'⟩
  · rw [hjoin]
    cases hfirst : first a with
    | cons problem rest => rfl
    | nil =>
        show (strictly a >>= fun b => .ok (join a b)) = _
        rw [hb', List.nil_append]
        cases second b <;> rfl

theorem map {strict lenient : Except Problem α} {f : α → γ} (hf : ∀ a, both (f a) = first a)
    (h : StopsAtFirst first file strict lenient) :
    StopsAtFirst both file (do let a ← strict; .ok (f a)) (do let a ← lenient; .ok (f a)) := by
  obtain ⟨a, rfl, hfile, rfl⟩ := h
  refine ⟨f a, rfl, ?_, ?_⟩
  · rw [hf]
    exact hfile
  · rw [hf]
    cases first a <;> rfl

end StopsAtFirst

/-- The same options for a strict or a lenient reading. -/
def Options.withStrict (options : Options) (strict : Bool) : Options :=
  { options with strict }

variable (options : Options)

theorem report_stopsAtFirst {problem : Problem} (h : problem.location.file = none) :
    StopsAtFirst id options.fileName ((options.withStrict true).report problem)
      ((options.withStrict false).report problem) := by
  refine ⟨[problem.inFile options.fileName], rfl, ?_, rfl⟩
  intro found hfound
  rw [List.mem_singleton.1 hfound]
  exact Problem.file_inFile h options.fileName

theorem Declared.addTokens_stopsAtFirst {location : Location} (h : location.file = none)
    (declared : Declared) (tokens : List Key.Token) :
    StopsAtFirst Checked.tolerated options.fileName
      (addTokens (options.withStrict true) location declared tokens)
      (addTokens (options.withStrict false) location declared tokens) := by
  induction tokens generalizing declared with
  | nil => exact .ok rfl
  | cons token tokens ih =>
      rw [addTokens, addTokens]
      split
      · exact ih _
      · exact ih _
      · exact ih _
      next word _ =>
        have hfile : (Problem.mk (.invalidModifier word) declared.name location).location.file =
            none := h
        refine .bind ?_ (report_stopsAtFirst options hfile) fun _ => ih declared
        intro problems rest
        rfl

theorem Declared.read_stopsAtFirst {location : Location} (h : location.file = none)
    (key : String) :
    StopsAtFirst Checked.tolerated options.fileName
      (read (options.withStrict true) location key)
      (read (options.withStrict false) location key) := by
  rw [read, read]
  split
  next key _ => exact addTokens_stopsAtFirst options h (ofKey key) key.metadata
  next unclosed _ =>
    have hfile : (Problem.mk .unclosedMetadata unclosed.readable.name location).location.file =
        none := h
    refine .map ?_ (report_stopsAtFirst options hfile)
    intro problems
    rfl

theorem readItem_stopsAtFirst {item : Statement.Item}
    (h : (Statement.locationOf item).file = none) :
    StopsAtFirst Checked.tolerated options.fileName (readItem (options.withStrict true) item)
      (readItem (options.withStrict false) item) := by
  cases item with
  | error problem =>
      refine .map ?_ (report_stopsAtFirst options h)
      intro problems
      rfl
  | ok statement =>
      refine .map ?_ (Declared.read_stopsAtFirst options h statement.key)
      intro declared
      rfl

/-- The problems of the parts are those of the whole, in the order of the parts. -/
theorem Reading.collect_stopsAtFirst {α : Type} {file : Option String}
    {strictly leniently : α → Except Problem (Checked (Option Message))} {parts : List α}
    (h : ∀ part ∈ parts,
      StopsAtFirst Checked.tolerated file (strictly part) (leniently part)) :
    StopsAtFirst Reading.tolerated file (collect (parts.map strictly))
      (collect (parts.map leniently)) := by
  induction parts with
  | nil => exact .ok rfl
  | cons part parts ih =>
      obtain ⟨hpart, hparts⟩ := List.forall_mem_cons.1 h
      refine .bind ?_ hpart fun _ => ih hparts
      intro first rest
      rfl

theorem read_stopsAtFirst (source : String) :
    StopsAtFirst Reading.tolerated options.fileName (read (options.withStrict true) source)
      (read (options.withStrict false) source) := by
  apply Reading.collect_stopsAtFirst
  intro item hitem
  exact readItem_stopsAtFirst options (Statement.file_of_mem_scan hitem)

theorem report_lenient (cause : Problem.Cause) (key : String) (number : Nat)
    (text : String) :
    (options.withStrict false).report ⟨cause, key, ⟨none, number, text⟩⟩ =
      .ok [⟨cause, key, ⟨options.fileName, number, text⟩⟩] := by
  obtain ⟨strict, file, language, engineId⟩ := options
  cases file <;> rfl

theorem readItem_error (cause : Problem.Cause) (key : String) (number : Nat)
    (text : String) :
    readItem (options.withStrict false) (.error ⟨cause, key, ⟨none, number, text⟩⟩) =
      .ok ⟨none, [⟨cause, key, ⟨options.fileName, number, text⟩⟩]⟩ := by
  rw [readItem, report_lenient]
  rfl

/-- A problem with the first item stops a strict reading; a lenient one goes on after it. -/
theorem exists_read_of_scan {source : String} {item : Statement.Item}
    {items : List Statement.Item} (hscan : Statement.scan source = item :: items)
    {message : Option Message} {problem : Problem}
    (hitem : readItem (options.withStrict false) item = .ok ⟨message, [problem]⟩) :
    ∃ rest, Reading.collect (items.map (readItem (options.withStrict false))) = .ok rest ∧
      read (options.withStrict true) source = .error problem ∧
      read (options.withStrict false) source =
        .ok ⟨message.toList ++ rest.messages, problem :: rest.tolerated⟩ := by
  have hitems : StopsAtFirst Reading.tolerated options.fileName
      (Reading.collect (items.map (readItem (options.withStrict true))))
      (Reading.collect (items.map (readItem (options.withStrict false)))) := by
    apply Reading.collect_stopsAtFirst
    intro later hlater
    apply readItem_stopsAtFirst options
    apply Statement.file_of_mem_scan
    rw [hscan]
    exact List.mem_cons_of_mem item hlater
  obtain ⟨rest, hrest, -⟩ := hitems
  have hlenient : read (options.withStrict false) source =
      .ok ⟨message.toList ++ rest.messages, problem :: rest.tolerated⟩ := by
    rw [read, hscan, List.map_cons, Reading.collect, hitem, hrest]
    rfl
  obtain ⟨result, hresult, -, hstrict⟩ := read_stopsAtFirst options source
  obtain rfl := Except.ok.inj (hlenient.symm.trans hresult)
  exact ⟨rest, hrest, hstrict, hlenient⟩

end Source

open Source

variable (options : Options)

theorem Definition.read_stopsAtFirst (place : Nat) (key : String) (definition : Definition) :
    StopsAtFirst Checked.tolerated options.fileName
      (definition.read (options.withStrict true) place key)
      (definition.read (options.withStrict false) place key) := by
  have hfile : (Location.mk none (place + 1) key).file = none := rfl
  refine .map ?_ (Declared.read_stopsAtFirst options hfile key)
  intro declared
  rfl

theorem Definitions.read_stopsAtFirst (definitions : Definitions) :
    StopsAtFirst Reading.tolerated options.fileName
      (definitions.read (options.withStrict true)) (definitions.read (options.withStrict false)) := by
  rw [Definitions.read, Definitions.read, List.mapIdx_eq_zipIdx_map, List.mapIdx_eq_zipIdx_map]
  apply Reading.collect_stopsAtFirst
  rintro ⟨⟨key, definition⟩, place⟩ -
  exact definition.read_stopsAtFirst options place key

/-! ### Whole readings -/

/-- A strict and a lenient run of a reading that gives `reading` where problems are tolerated. -/
structure Source.Agree (file : Option String) (reading : Reading)
    (strict lenient : Except Problem Reading) : Prop where
  lenient_ok : lenient = .ok reading
  strict_ok : reading.tolerated = [] → strict = .ok ⟨reading.messages, []⟩
  strict_error : ∀ (problem : Problem) (rest : List Problem),
    reading.tolerated = problem :: rest → strict = .error problem
  file_tolerated : ∀ problem ∈ reading.tolerated, problem.location.file = file
  file_error : ∀ problem : Problem, strict = .error problem → problem.location.file = file

theorem Source.StopsAtFirst.agree {file : Option String} {strict lenient : Except Problem Reading}
    (h : StopsAtFirst Reading.tolerated file strict lenient) :
    ∃ reading, Agree file reading strict lenient := by
  obtain ⟨⟨messages, tolerated⟩, hlenient, hfile, hstrict⟩ := h
  refine ⟨⟨messages, tolerated⟩, hlenient, ?_, ?_, hfile, ?_⟩
  · rintro rfl
    exact hstrict
  · rintro problem rest rfl
    exact hstrict
  · rintro problem herror
    rw [hstrict] at herror
    cases tolerated with
    | nil => cases herror
    | cons found rest =>
        cases herror
        exact hfile problem List.mem_cons_self

/-- A strict reading stops at the first problem that a lenient one tolerates; a lenient reading never
stops. So a store into which a text with a problem is read strictly stays as it was, and one into
which it is read leniently holds the messages of the reading after those that it held before. -/
theorem Store.strict_agrees_with_lenient (source : String) (definitions : Definitions)
    (store : Store) :
    (∃ reading : Reading,
      Agree options.fileName reading (Source.read (options.withStrict true) source)
        (Source.read (options.withStrict false) source) ∧
      (∃ left : Store,
        (Action.loadSource (options.withStrict false) source).run store =
          .ok reading.messages.length left ∧
        left.resolution = store.resolution ∧ left.defaultLanguages = store.defaultLanguages ∧
        left.engines = store.engines ∧
        ∀ history : List Message, store.Holds history →
          left.Holds (history ++ reading.messages)) ∧
      (reading.tolerated = [] →
        (Action.loadSource (options.withStrict true) source).run store =
          (Action.loadSource (options.withStrict false) source).run store) ∧
      ∀ (problem : Problem) (rest : List Problem), reading.tolerated = problem :: rest →
        (Action.loadSource (options.withStrict true) source).run store = .error problem store) ∧
    ∃ reading : Reading,
      Agree options.fileName reading (definitions.read (options.withStrict true))
        (definitions.read (options.withStrict false)) := by
  refine ⟨?_, (definitions.read_stopsAtFirst options).agree⟩
  obtain ⟨reading, hagree⟩ := (Source.read_stopsAtFirst options source).agree
  have hlenient : (Action.loadSource (options.withStrict false) source).run store =
      .ok reading.messages.length (store.addAll reading.messages) := by
    rw [Action.loadSource, hagree.lenient_ok, Action.run_load_ok]
  refine ⟨reading, hagree, ⟨_, hlenient, ?_⟩, ?_, ?_⟩
  · obtain ⟨hresolution, hdefaults⟩ := settings_addAll store reading.messages
    exact ⟨hresolution, hdefaults, engines_addAll store reading.messages,
      fun history h => h.addAll reading.messages⟩
  · intro hnone
    rw [hlenient, Action.loadSource, hagree.strict_ok hnone, Action.run_load_ok]
  · intro problem rest htolerated
    rw [Action.loadSource, hagree.strict_error problem rest htolerated, Action.run_load_error]

/-- All kinds of problems in one text, one of them twice on a line. -/
theorem Store.strict_agrees_with_lenient_kinds :
    ∃ (reading : Reading) (left : Store),
      Source.read { fileName := some "en.props" } "a[x, y] = 1\nb\nc(m = 2\nd = 'e" = .ok reading ∧
      reading.tolerated.map Problem.kind =
        ["invalid-modifier", "invalid-modifier", "missing-assignment-operator",
          "unclosed-metadata-object", "unclosed-value-string"] ∧
      (Action.loadSource { fileName := some "en.props" } "a[x, y] = 1\nb\nc(m = 2\nd = 'e").run
        empty = .ok 2 left ∧ left.Holds reading.messages ∧
      (Action.loadSource { strict := true, fileName := some "en.props" }
          "a[x, y] = 1\nb\nc(m = 2\nd = 'e").run empty =
        .error ⟨.invalidModifier "x", "a", ⟨some "en.props", 1, "a[x, y] = 1"⟩⟩ empty := by
  obtain ⟨⟨reading, hagree, ⟨left, hleft, -, -, -, hholds⟩, -, hstrict⟩, -⟩ :=
    Store.strict_agrees_with_lenient { fileName := some "en.props" }
      "a[x, y] = 1\nb\nc(m = 2\nd = 'e" .empty empty
  have hsummary : (Source.read { fileName := some "en.props" }
      "a[x, y] = 1\nb\nc(m = 2\nd = 'e").toOption.map (fun reading =>
        (reading.messages.length, reading.tolerated.map Problem.kind, reading.tolerated.head?)) =
        some (2, ["invalid-modifier", "invalid-modifier", "missing-assignment-operator",
          "unclosed-metadata-object", "unclosed-value-string"],
          some ⟨.invalidModifier "x", "a", ⟨some "en.props", 1, "a[x, y] = 1"⟩⟩) := by
    decide +kernel
  have hlenient : Source.read { fileName := some "en.props" }
      "a[x, y] = 1\nb\nc(m = 2\nd = 'e" = .ok reading := hagree.lenient_ok
  rw [hlenient] at hsummary
  obtain ⟨hlength, hsummary⟩ := Prod.mk.inj (Option.some.inj hsummary)
  obtain ⟨hkinds, hfirst⟩ := Prod.mk.inj hsummary
  obtain ⟨rest, hrest⟩ := List.head?_eq_some_iff.1 hfirst
  rw [hlength] at hleft
  exact ⟨reading, left, hlenient, hkinds, hleft, hholds [] (Holds.new []), hstrict _ rest hrest⟩

end Phrasebook
