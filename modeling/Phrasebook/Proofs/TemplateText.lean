import Phrasebook.Proofs.MessageText
import Phrasebook.Proofs.StoreAnswer

/-! Templates as they are written. A message is plain text with the values of parameters in it; its
template has the plain text escaped and the parameters between braces. The template is read as the
characters of the plain text and as these parameters (`Composition.read_source`), so that the basic
engine puts each value in the place that it was written for and looks into none
(`Composition.rendered_as_written`). Escapes of quoted text are resolved before those of templates, each
only once: a template in quotes is loaded as it is, and its message is translated to the text that
was meant (`Store.translate_written`). -/

namespace Phrasebook

namespace Piece

theorem read_backslash (c : Char) (s : List Char) :
    read ('\\' :: c :: s) =
      if isSpecial c then (read s).map (character c :: ·)
      else (read (c :: s)).map (character '\\' :: ·) := by
  rw [read]

/-- A closing brace is as plain as any other character. -/
theorem read_character {c : Char} (hopen : c ≠ '\x7b') (hbackslash : c ≠ '\\') (s : List Char) :
    read (c :: s) = (read s).map (character c :: ·) := by
  rw [read, if_neg hopen]
  · simp [hbackslash]
  · simp [hbackslash]

theorem ne_of_isSpecial_eq_false {c : Char} (h : isSpecial c = false) : c ≠ '\x7b' ∧ c ≠ '\\' := by
  simp only [isSpecial, Bool.or_eq_false_iff, beq_eq_false_iff_ne] at h
  exact ⟨h.1.1, h.2⟩

/-- An injection ends at its first closing brace. -/
theorem read_injection {name : List Char} (h : '\x7d' ∉ name) (rest : List Char) :
    read ('\x7b' :: (name ++ '\x7d' :: rest)) = (read rest).map (injection name :: ·) := by
  have hcut : Text.cutWhere (· == '\x7d') (name ++ '\x7d' :: rest) = some (name, rest) :=
    Text.cutAt_append h rest
  rw [read, if_pos rfl]
  · split
    next name' rest' hcut' =>
      obtain ⟨rfl, rfl⟩ := Prod.mk.inj (Option.some.inj (hcut.symm.trans hcut'))
      rfl
    next hnone => rw [hcut] at hnone; cases hnone
  · simp
  · simp

/-- Escaped text is read as its characters, whatever follows. -/
theorem read_escape_append (s rest : List Char) :
    read (escape s ++ rest) = (read rest).map (s.map character ++ ·) := by
  induction s with
  | nil =>
      rw [escape, List.nil_append]
      cases read rest <;> rfl
  | cons c s ih =>
      have hread : read (escape (c :: s) ++ rest) =
          (read (escape s ++ rest)).map (character c :: ·) := by
        cases hc : isSpecial c with
        | true =>
            rw [escape, if_pos hc, List.cons_append, List.cons_append, read_backslash, if_pos hc]
        | false =>
            obtain ⟨hopen, hbackslash⟩ := ne_of_isSpecial_eq_false hc
            rw [escape, if_neg (by simp [hc]), List.cons_append, read_character hopen hbackslash]
      rw [hread, ih]
      cases read rest <;> rfl

end Piece

/-! ### Messages as they are meant -/

/-- A value in a message, with the parameter that stands for it and the plain text after it. -/
structure Insertion where
  parameter : String
  value : Value
  after : String
  deriving DecidableEq

/-- Plain text with values in it. -/
structure Composition where
  lead : String
  insertions : List Insertion
  deriving DecidableEq

namespace Insertion

def source (insertion : Insertion) : List Char :=
  '\x7b' :: (insertion.parameter.toList ++ '\x7d' :: Piece.escape insertion.after.toList)

def pieces (insertion : Insertion) : List Piece :=
  .injection insertion.parameter.toList :: insertion.after.toList.map .character

def segments (insertion : Insertion) : List Segment :=
  [.parameter insertion.value, .literal insertion.after]

end Insertion

namespace Composition

/-- The template, in which each parameter stands between braces for its value. -/
def source (composition : Composition) : String :=
  String.ofList
    (Piece.escape composition.lead.toList ++ composition.insertions.flatMap Insertion.source)

/-- What the template is read as. -/
def pieces (composition : Composition) : List Piece :=
  composition.lead.toList.map .character ++ composition.insertions.flatMap Insertion.pieces

/-- What the template is rendered as. -/
def segments (composition : Composition) : List Segment :=
  .literal composition.lead :: composition.insertions.flatMap Insertion.segments

/-- The message with its values. -/
def text (composition : Composition) : String :=
  composition.lead ++
    String.join (composition.insertions.map fun insertion => insertion.value.text ++ insertion.after)

/-- The plain texts and the values apart from each other. -/
def filled (composition : Composition) : Engine.Filled where
  lead := composition.lead.toList
  rest := composition.insertions.map fun insertion => (insertion.value, insertion.after.toList)

/-- No name of a parameter closes its own braces, and each parameter has its value. -/
structure IsGiven (composition : Composition) (parameters : Parameters) : Prop where
  names : ∀ insertion ∈ composition.insertions, '\x7d' ∉ insertion.parameter.toList
  values : ∀ insertion ∈ composition.insertions,
    parameters.find? insertion.parameter = some insertion.value

theorem read_flatMap_source {insertions : List Insertion}
    (h : ∀ insertion ∈ insertions, '\x7d' ∉ insertion.parameter.toList) :
    Piece.read (insertions.flatMap Insertion.source) =
      .ok (insertions.flatMap Insertion.pieces) := by
  induction insertions with
  | nil =>
      rw [List.flatMap_nil, List.flatMap_nil, Piece.read]
  | cons insertion insertions ih =>
      obtain ⟨hname, hnames⟩ := List.forall_mem_cons.1 h
      rw [List.flatMap_cons, List.flatMap_cons, Insertion.source, List.cons_append,
        List.append_assoc, List.cons_append, Piece.read_injection hname, Piece.read_escape_append,
        ih hnames]
      rfl

/-- A template is read as the characters and the parameters that it was written from. -/
theorem read_source {composition : Composition}
    (h : ∀ insertion ∈ composition.insertions, '\x7d' ∉ insertion.parameter.toList) :
    Piece.read composition.source.toList = .ok composition.pieces := by
  rw [source, String.toList_ofList, Piece.read_escape_append, read_flatMap_source h]
  rfl

end Composition

namespace Engine

theorem fill_characters (template : String) (parameters : Parameters) (s : List Char)
    (pieces : List Piece) :
    fill template parameters (s.map .character ++ pieces) =
      (fill template parameters pieces).map fun filled => ⟨s ++ filled.lead, filled.rest⟩ := by
  induction s with
  | nil =>
      rw [List.map_nil, List.nil_append]
      cases fill template parameters pieces <;> rfl
  | cons c s ih =>
      rw [List.map_cons, List.cons_append, fill, ih]
      cases fill template parameters pieces <;> rfl

theorem fill_injection (template : String) {parameters : Parameters} {name : String} {value : Value}
    (h : parameters.find? name = some value) (pieces : List Piece) :
    fill template parameters (.injection name.toList :: pieces) =
      (fill template parameters pieces).map (Filled.addValue value) := by
  rw [fill, String.ofList_toList, h]

end Engine

namespace Composition

variable {composition : Composition} {parameters : Parameters}

theorem fill_flatMap_pieces (template : String) {insertions : List Insertion}
    (h : ∀ insertion ∈ insertions,
      parameters.find? insertion.parameter = some insertion.value) :
    Engine.fill template parameters (insertions.flatMap Insertion.pieces) =
      .ok ⟨[], insertions.map fun insertion => (insertion.value, insertion.after.toList)⟩ := by
  induction insertions with
  | nil => rfl
  | cons insertion insertions ih =>
      obtain ⟨hvalue, hvalues⟩ := List.forall_mem_cons.1 h
      rw [List.flatMap_cons, Insertion.pieces, List.cons_append, Engine.fill_injection _ hvalue,
        Engine.fill_characters, ih hvalues]
      simp [Except.map, Engine.Filled.addValue]

theorem fill_pieces (template : String)
    (h : ∀ insertion ∈ composition.insertions,
      parameters.find? insertion.parameter = some insertion.value) :
    Engine.fill template parameters composition.pieces = .ok composition.filled := by
  rw [pieces, Engine.fill_characters, fill_flatMap_pieces template h]
  simp [Except.map, filled]

theorem segments_filled (composition : Composition) :
    composition.filled.segments = composition.segments := by
  simp only [Engine.Filled.segments, filled, List.flatMap_map, String.ofList_toList, segments]
  rfl

/-- The basic engine gives the plain texts and the values as they are. -/
theorem basic_source (h : composition.IsGiven parameters) (id engineId : String) :
    Engine.basic ⟨id, composition.source, engineId⟩ parameters = .ok composition.segments := by
  rw [Engine.basic, read_source h.names]
  simp only [fill_pieces id h.values]
  rw [Except.map, segments_filled]

theorem join_segments (composition : Composition) :
    Segment.join composition.segments = composition.text := by
  obtain ⟨lead, insertions⟩ := composition
  have hrest : String.join ((insertions.flatMap Insertion.segments).map Segment.text) =
      String.join (insertions.map fun insertion => insertion.value.text ++ insertion.after) := by
    induction insertions with
    | nil => rfl
    | cons insertion insertions ih =>
        rw [List.map_cons, String.join_cons, ← ih]
        simp [Insertion.segments, Segment.text, String.append_assoc]
  rw [Segment.join, segments, List.map_cons, String.join_cons, hrest, text, Segment.text]

/-- A template is rendered as the plain texts and the values that it was written from, in turn and
with the empty texts among them. So a text that is escaped is rendered as itself, whatever the
parameters are. -/
theorem rendered_as_written :
    (∀ (composition : Composition) (parameters : Parameters),
      (∀ insertion ∈ composition.insertions, '\x7d' ∉ insertion.parameter.toList) →
      (∀ insertion ∈ composition.insertions,
        parameters.find? insertion.parameter = some insertion.value) →
      ∀ id engineId : String,
        Engine.basic ⟨id, composition.source, engineId⟩ parameters =
          .ok (.literal composition.lead :: composition.insertions.flatMap fun insertion =>
            [.parameter insertion.value, .literal insertion.after])) ∧
    ∀ (text id engineId : String) (parameters : Parameters),
      Engine.basic ⟨id, String.ofList (Piece.escape text.toList), engineId⟩ parameters =
        .ok [.literal text] := by
  refine ⟨fun composition parameters hnames hvalues id engineId =>
    basic_source ⟨hnames, hvalues⟩ id engineId, ?_⟩
  intro text id engineId parameters
  have htext : source ⟨text, []⟩ = String.ofList (Piece.escape text.toList) := by
    rw [source, List.flatMap_nil, List.append_nil]
  rw [← htext]
  exact basic_source ⟨by simp, by simp⟩ id engineId

/-- The plain text ends with a backslash before the first value, nothing stands between the values,
and the names are empty or look like the beginning of an injection. -/
theorem rendered_as_written_adjacent :
    let parameters : Parameters := .ofList [("", .string "\x7b"), ("\x7b\\", .number 7)]
    Engine.basic ⟨"t", "\\\x7b\\\\\x7b\x7d\x7b\x7b\\\x7d", "basic"⟩ parameters =
        .ok [.literal "\x7b\\", .parameter (.string "\x7b"), .literal "",
          .parameter (.number 7), .literal ""] ∧
      Engine.basic ⟨"t", "\\\x7bx\\\x7d\\\\", "basic"⟩ parameters = .ok [.literal "\x7bx\x7d\\"] := by
  intro parameters
  let composition : Composition :=
    ⟨"\x7b\\", [⟨"", .string "\x7b", ""⟩, ⟨"\x7b\\", .number 7, ""⟩]⟩
  have hsource : composition.source = "\\\x7b\\\\\x7b\x7d\x7b\x7b\\\x7d" := by decide +kernel
  have htext : String.ofList (Piece.escape "\x7bx\x7d\\".toList) = "\\\x7bx\\\x7d\\\\" := by
    decide +kernel
  rw [← hsource, ← htext]
  exact ⟨rendered_as_written.1 composition parameters (by decide) (by decide) "t" "basic",
    rendered_as_written.2 "\x7bx\x7d\\" "t" "basic" parameters⟩

end Composition

/-! ### Names -/

/-- A name that is a key of its own, without a tag and without metadata. -/
structure Key.IsName (name : List Char) : Prop where
  ne_nil : name ≠ []
  isTrimmed : Text.IsTrimmed name
  chars : ∀ c ∈ name, c ≠ '=' ∧ c ≠ '\n' ∧ c ≠ '#' ∧ isOpener c = false

theorem Key.IsName.isReadable {name : String} (h : IsName name.toList) :
    Written.IsReadable ⟨name, none, none⟩ where
  name_ne_nil := h.ne_nil
  isTrimmed_name := h.isTrimmed
  name_chars := h.chars
  tag_ne_nil := by simp
  isTrimmed_tag := by simp
  tag_chars := by simp
  block := by simp

/-- A message for everyone, in the language of all messages without a tag. -/
def Source.plainMessage (options : Options) (name content : String) : Message :=
  ⟨name, options.defaultLanguage, none, none, .empty, ⟨name, content, options.engineId⟩⟩

theorem Source.read_name (options : Options) {name : String} (hname : Key.IsName name.toList)
    {quote : Char} (hquote : quote = '\'' ∨ quote = '"') {content : String}
    (hcontent : ¬['\r', '\n'] <:+: content.toList) :
    read options (name ++ " = " ++ Quoted.write quote content) =
      .ok ⟨[plainMessage options name content], []⟩ := by
  have hkey := hname.isReadable
  have htext : Key.Written.text ⟨name, none, none⟩ = name := by
    rw [← String.toList_inj, Key.Written.toList_text]
    simp [Key.Written.tagText, Key.Written.blockText]
  obtain ⟨line, hscan⟩ := Statement.scan_quoted (Key.Written.isKey_text hkey) hquote hcontent
  have hread := Key.Written.read_text hkey options ⟨none, 1, line⟩
  rw [htext] at hscan hread
  rw [read, hscan, List.map_cons, List.map_nil, Reading.collect, readItem, hread]
  rfl

namespace Store

/-- If only one message may answer a request, it does, in whatever language it is. -/
theorem resolve_of_candidates {store : Store} {request : Request} {message : Message}
    (h : store.candidates request = [message]) : store.resolve request = some message := by
  obtain ⟨other, hmem, hlanguage⟩ := exists_mem_answerLanguage store.resolution request.languages
    store.defaultLanguages (List.cons_ne_nil message [])
  obtain rfl := List.mem_singleton.1 hmem
  have hfilter : [other].filter (·.language = answerLanguage store.resolution request.languages
      store.defaultLanguages [other]) = [other] := by
    rw [List.filter_singleton, decide_eq_true hlanguage, cond_true]
  rw [resolve_eq, h, hfilter]
  rfl

theorem variants_add_new (defaultLanguages : List Language.Range) (message : Message) :
    ((new defaultLanguages).add message).variants message.name = [message] := by
  have h := (Holds.new defaultLanguages).add message
  rw [h.variants, List.nil_append, List.filter_singleton, decide_eq_true rfl, cond_true]
  exact variantsLeft_concat [] message

end Store

theorem Engines.render_standard {template : Template} (h : template.engineId = basicEngineId)
    (parameters : Parameters) :
    Engines.standard.render template parameters = Engine.basic template parameters := by
  have hfind : Engines.standard.byId.find? template.engineId = some Engine.basic := by
    rw [h]
    exact Dictionary.find?_insert_self _ _ _
  rw [Engines.render, hfind]

/-- What is written as a template is what the message is translated to, with the values in it. -/
theorem Store.translate_written (defaultLanguages : List Language.Range) (options : Source.Options)
    (hengine : options.engineId = basicEngineId) {name : String} (hname : Key.IsName name.toList)
    {quote : Char} (hquote : quote = '\'' ∨ quote = '"') {composition : Composition}
    (hreturn : ¬['\r', '\n'] <:+: composition.source.toList) {parameters : Parameters}
    (hgiven : composition.IsGiven parameters) :
    ∃ loaded : Loaded,
      (new defaultLanguages).loadSource options
          (name ++ " = " ++ Quoted.write quote composition.source) = .ok loaded ∧
        loaded.added = 1 ∧
        loaded.store.translate (.ofName name) parameters = .ok (some composition.text) := by
  let message := Source.plainMessage options name composition.source
  let store := (new defaultLanguages).add message
  have hcandidates : store.candidates (.ofName name) = [message] := by
    have hvariants : store.variants name = [message] := variants_add_new defaultLanguages message
    rw [candidates, Request.ofName, hvariants]
    rfl
  have hrender : store.render message parameters = .ok composition.segments := by
    rw [render, engines_add]
    exact (Engines.render_standard hengine parameters).trans
      (Composition.basic_source hgiven name options.engineId)
  refine ⟨⟨store, 1⟩, ?_, rfl, ?_⟩
  · exact loadSource_of_read (Source.read_name options hname hquote hreturn) _
  · rw [translate, translateSegments, resolve_of_candidates hcandidates]
    simp [hrender, Except.map, composition.join_segments]

/-- The plain text and the value have braces, quotes and backslashes. -/
def Composition.greeting : Composition where
  lead := "\x7bhi\x7d\\"
  insertions := [⟨"who", .string "\x7bwho\x7d\\'", "'s\n"⟩]

theorem Store.translate_written_greeting :
    ∃ loaded : Loaded,
      empty.loadSource { strict := true } "k = '\\\\\x7bhi\\\\\x7d\\\\\\\\\x7bwho\x7d\\'s\n'" =
          .ok loaded ∧
        loaded.added = 1 ∧
        loaded.store.translate (.ofName "k") (.ofList [("who", .string "\x7bwho\x7d\\'")]) =
          .ok (some "\x7bhi\x7d\\\x7bwho\x7d\\''s\n") := by
  have hsource : "k" ++ " = " ++ Quoted.write '\'' Composition.greeting.source =
      "k = '\\\\\x7bhi\\\\\x7d\\\\\\\\\x7bwho\x7d\\'s\n'" := by decide +kernel
  have htext : Composition.greeting.text = "\x7bhi\x7d\\\x7bwho\x7d\\''s\n" := by decide +kernel
  have hreturn : ¬['\r', '\n'] <:+: Composition.greeting.source.toList := by decide +kernel
  have hname : Key.IsName "k".toList :=
    ⟨by decide, by decide, List.forall_mem_singleton.2 (by decide)⟩
  have hquote : '\'' = '\'' ∨ '\'' = '"' := .inl rfl
  rw [← hsource, ← htext]
  exact translate_written [] { strict := true } rfl hname hquote hreturn ⟨by decide, by decide⟩

end Phrasebook
