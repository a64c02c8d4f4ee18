import Phrasebook.Proofs.CountLanguage
import Phrasebook.Proofs.KeyLayout
import Phrasebook.Proofs.TemplateText
import Phrasebook.Proofs.UnquotedValues

/-! Signs between an attribute and its value. A key with one attribute says the same whichever sign
stands there (`Attributed.read_key`), and the statement of such a key is read as it was written
unless the sign is an equals sign (`Attributed.read_source`). A line ends its key at the first
equals sign, so it cuts the metadata open there: what is left of the key has no attribute, and what
is left of the metadata goes into the value (`Attributed.read_equals`). -/

namespace Phrasebook

namespace Key

variable {name s : List Char}

/-- A bracket ends a name. -/
theorem IsName.parse_cons (h : IsName name) {opener : Char} (hopener : isOpener opener = true)
    (rest : List Char) :
    parse (name ++ opener :: rest) = readBlock (String.ofList name) none opener rest := by
  have hname : ∀ c ∈ name, endsName c = false := by
    intro c hc
    obtain ⟨-, -, hsign, hnone⟩ := h.chars c hc
    simp [endsName, hsign, hnone]
  have hends : endsName opener = true := by simp [endsName, hopener]
  rw [parse_append_cons h.isTrimmed hname hends, if_neg (ne_of_isOpener hopener).2.2]

/-- Whatever stands after the bracket, the key can be the key of a line. -/
theorem IsName.isKey_append (h : IsName name) (hne : s ≠ []) (htrim : Text.IsTrimmed s)
    (hchars : ∀ c ∈ s, c ≠ '=' ∧ c ≠ '\n') : Statement.IsKey (name ++ '[' :: s) := by
  have hmem : ∀ c ∈ name ++ '[' :: s, c ≠ '=' ∧ c ≠ '\n' := by
    intro c hc
    rcases List.mem_append.1 hc with hc | hc
    · obtain ⟨hequals, hnewline, -⟩ := h.chars c hc
      exact ⟨hequals, hnewline⟩
    · rcases List.mem_cons.1 hc with rfl | hc
      · decide
      · exact hchars c hc
  have htrimmed := h.isTrimmed.append h.ne_nil htrim hne ['[']
  rw [List.append_assoc, List.singleton_append] at htrimmed
  refine ⟨htrimmed, fun hc => (hmem _ hc).1 rfl, fun hc => (hmem _ hc).2 rfl, ?_⟩
  obtain ⟨c, name, rfl⟩ := List.exists_cons_of_ne_nil h.ne_nil
  rw [List.cons_append, List.head?_cons]
  exact fun heq => (h.chars c List.mem_cons_self).2.2.1 (Option.some.inj heq)

/-- Metadata without commas and ampersands are one entry. -/
theorem tokens_of_entry (hne : s ≠ []) (htrim : Text.IsTrimmed s)
    (hchars : ∀ c ∈ s, (c == ',' || c == '&') = false) : tokens s = [Token.ofText s] := by
  have hentry : (!s.isEmpty) = true := by simpa using hne
  simp only [tokens]
  rw [List.splitOnP_eq_singleton hchars, List.map_singleton, htrim.trim_eq, List.filter_singleton,
    hentry, cond_true, List.map_singleton]

end Key

/-- A name with one attribute, which has a label and a value. -/
structure Attributed where
  name : String
  label : String
  value : String

namespace Attributed

open Source Key

variable (attributed : Attributed)

/-- What stands in the brackets. -/
def entry (sign : Char) : List Char :=
  attributed.label.toList ++ sign :: attributed.value.toList

def key (sign : Char) : String :=
  attributed.name ++ "[" ++ attributed.label ++ String.singleton sign ++ attributed.value ++ "]"

/-- The statement with this key. -/
def source (sign quote : Char) (content : String) : String :=
  attributed.key sign ++ " = " ++ Quoted.write quote content

/-- The key up to the sign. -/
def cut : String :=
  attributed.name ++ "[" ++ attributed.label

/-- What the key says, whatever the sign. -/
def declared : Declared :=
  ⟨attributed.name, none, none, none, Dictionary.empty.insert attributed.label attributed.value⟩

/-- The name is plain, and with a hyphen the attribute is read as it was written. -/
structure IsReadable : Prop where
  name : IsName attributed.name.toList
  entry : IsAttribute ']' attributed.label.toList '-' attributed.value.toList

theorem toList_key (sign : Char) :
    (attributed.key sign).toList =
      attributed.name.toList ++ '[' :: (attributed.entry sign ++ [']']) := by
  simp [key, Attributed.entry]

theorem toList_cut :
    attributed.cut.toList = attributed.name.toList ++ '[' :: attributed.label.toList := by
  simp [cut]

/-- The line with an equals sign before the value, where this comes after the value. -/
def line (after : List Char) : List Char :=
  attributed.cut.toList ++ '=' :: (attributed.value.toList ++ after)

theorem toList_source_equals (quote : Char) (content : String) :
    (attributed.source '=' quote content).toList =
      attributed.line [']', ' ', '=', ' ', quote] ++
        (Quoted.escape quote content.toList ++ [quote]) := by
  simp [source, key, line, cut, Quoted.write]

/-- A message with the name and without the attribute. -/
def cutMessage (options : Options) (template : String) : Message :=
  ⟨attributed.name, options.defaultLanguage, none, none, .empty,
    ⟨attributed.cut, template, options.engineId⟩⟩

/-- The problem with a line that ends its key before the value of the attribute, and the messages
that are read all the same. The rest of the line is the template; but if the value begins with a
quote, what follows is the template up to a quote of the same kind, and may have none. -/
inductive IsCut (options : Options) (quote : Char) (problem : Problem) (messages : List Message) :
    Prop where
  | metadata {template : String} {rest : List Message}
      (hcause : problem.cause = .unclosedMetadata) (hkey : problem.key = attributed.name)
      (hmessages : messages = attributed.cutMessage options template :: rest)
      (htemplate : (∀ c ∈ attributed.value.toList.head?, c ≠ '\'' ∧ c ≠ '"') → ∃ first,
        template = String.ofList (Statement.unquoted
          (attributed.value.toList ++ ']' :: ' ' :: '=' :: ' ' :: quote :: first)))
  | value {c : Char} (hcause : problem.cause = .unclosedValue)
      (hkey : problem.key = attributed.cut) (hmessages : messages = [])
      (hvalue : c ∈ attributed.value.toList.head?) (hquote : c = '\'' ∨ c = '"')

variable {attributed}

namespace IsReadable

variable (h : attributed.IsReadable)

include h

/-- Of an entry only the sign can be a reserved character. -/
theorem forall_mem_entry {p : Char → Prop} {sign : Char} (hsign : p sign)
    (hp : ∀ c, isReserved ']' c = false → p c) : ∀ c ∈ attributed.entry sign, p c := by
  intro c hc
  rcases List.mem_append.1 hc with hc | hc
  · exact hp c (h.entry.name_chars c hc).2
  · rcases List.mem_cons.1 hc with rfl | hc
    · exact hsign
    · exact hp c (h.entry.value_chars c hc)

theorem isTrimmed_entry (sign : Char) : Text.IsTrimmed (attributed.entry sign) := by
  have htrimmed := h.entry.isTrimmed_name.append h.entry.name_ne_nil h.entry.isTrimmed_value
    h.entry.value_ne_nil [sign]
  rwa [List.append_assoc, List.singleton_append] at htrimmed

/-- A hyphen can stand in a range of counts, but no other sign can. -/
theorem not_range {sign : Char} (hsign : sign ∈ Token.separators) :
    CountRange.parse? (attributed.entry sign) = none := by
  by_cases hhyphen : sign = '-'
  · rw [hhyphen]
    exact h.entry.not_range
  · rw [Option.eq_none_iff_forall_ne_some]
    intro range hrange
    have hmem : sign ∈ attributed.entry sign := by simp [Attributed.entry]
    have hchar := CountRange.isBoundChar_of_parse? hrange sign hmem
    simp only [Token.separators, List.mem_cons, List.not_mem_nil, or_false] at hsign
    rcases hsign with rfl | rfl | rfl | rfl | rfl
    · exact hhyphen rfl
    all_goals exact absurd hchar (by decide)

theorem meaning_entry {sign : Char} (hsign : sign ∈ Token.separators) :
    (Token.ofText (attributed.entry sign)).meaning =
      .attribute attributed.label attributed.value := by
  have hlabel : ∀ c ∈ attributed.label.toList, c ∉ Token.separators := fun c hc =>
    Token.isAssignment_eq_false_iff.1 (h.entry.name_chars c hc).1
  have hmeaning := Token.meaning_assigned (h.not_range hsign) hsign hlabel h.entry.isTrimmed_name
    h.entry.isTrimmed_value
  rwa [String.ofList_toList, String.ofList_toList] at hmeaning

theorem parse_key {sign : Char} (hsign : sign ∈ Token.separators) :
    parse (attributed.key sign).toList =
      .ok ⟨attributed.name, none, [Token.ofText (attributed.entry sign)]⟩ := by
  have hall : ∀ sign ∈ Token.separators, sign ≠ ',' ∧ sign ≠ '&' ∧ sign ≠ ']' := by
    simp [Token.separators]
  have hchars := h.forall_mem_entry (p := fun c => c ≠ ',' ∧ c ≠ '&' ∧ c ≠ ']') (hall sign hsign)
    fun c hc => by
      obtain ⟨hcomma, hampersand, -, -, hcloser⟩ := ne_of_isReserved hc
      exact ⟨hcomma, hampersand, hcloser⟩
  have hcloser : closer '[' ∉ attributed.entry sign := fun hc => (hchars _ hc).2.2 rfl
  have hne : attributed.entry sign ≠ [] := by simp [Attributed.entry]
  have htokens := tokens_of_entry hne (h.isTrimmed_entry sign) fun c hc => by
    simp [(hchars c hc).1, (hchars c hc).2.1]
  have hblock := Layout.readBlock_closed hcloser [] attributed.name none
  rw [toList_key, h.name.parse_cons rfl, String.ofList_toList]
  refine hblock.trans ?_
  rw [htokens]
  rfl

/-- The key says the same with every sign. -/
theorem read_key {sign : Char} (hsign : sign ∈ Token.separators) (options : Options)
    (location : Location) :
    Declared.read options location (attributed.key sign) = .ok ⟨attributed.declared, []⟩ := by
  rw [Declared.read, h.parse_key hsign]
  simp only [Declared.addTokens, h.meaning_entry hsign]
  rfl

theorem isKey_key {sign : Char} (hsign : sign ∈ Token.separators) (hequals : sign ≠ '=') :
    Statement.IsKey (attributed.key sign).toList := by
  have hall : ∀ sign ∈ Token.separators, sign ≠ '\n' := by simp [Token.separators]
  have hchars := h.forall_mem_entry (p := fun c => c ≠ '=' ∧ c ≠ '\n') ⟨hequals, hall sign hsign⟩
    fun c hc => by
      obtain ⟨-, -, hequals, hnewline, -⟩ := ne_of_isReserved hc
      exact ⟨hequals, hnewline⟩
  have hcloser : Text.IsTrimmed [']'] := by decide
  have htrimmed := h.entry.isTrimmed_name.append h.entry.name_ne_nil hcloser (List.cons_ne_nil _ [])
    (sign :: attributed.value.toList)
  rw [toList_key]
  apply h.name.isKey_append
  · exact List.append_ne_nil_of_right_ne_nil _ (List.cons_ne_nil ']' [])
  · exact htrimmed
  · exact List.forall_mem_append.2 ⟨hchars, List.forall_mem_singleton.2 (by decide)⟩

theorem read_source {sign : Char} (hsign : sign ∈ Token.separators) (hequals : sign ≠ '=')
    (options : Options) {quote : Char} (hquote : quote = '\'' ∨ quote = '"') {content : String}
    (hcontent : ¬['\r', '\n'] <:+: content.toList) :
    read options (attributed.source sign quote content) =
      .ok ⟨[attributed.declared.toMessage options (attributed.key sign) content], []⟩ := by
  obtain ⟨line, hscan⟩ := Statement.scan_quoted (h.isKey_key hsign hequals) hquote hcontent
  have hread := h.read_key hsign options ⟨none, 1, line⟩
  rw [Source.read, source, hscan, List.map_cons, List.map_nil, Reading.collect, readItem, hread]
  rfl

theorem isKey_cut : Statement.IsKey attributed.cut.toList := by
  rw [toList_cut]
  apply h.name.isKey_append h.entry.name_ne_nil h.entry.isTrimmed_name
  intro c hc
  obtain ⟨-, -, hequals, hnewline, -⟩ := ne_of_isReserved (h.entry.name_chars c hc).2
  exact ⟨hequals, hnewline⟩

theorem parse_cut : parse attributed.cut.toList = .error ⟨⟨attributed.name, none, []⟩⟩ := by
  have hcloser : closer '[' ∉ attributed.label.toList := by
    intro hc
    have hreserved := (h.entry.name_chars _ hc).2
    exact absurd hreserved (by decide)
  rw [toList_cut, h.name.parse_cons rfl, String.ofList_toList]
  exact Layout.readBlock_unclosed hcloser attributed.name none

theorem exists_lines_source {quote : Char} (hquote : quote = '\'' ∨ quote = '"')
    (content : String) : ∃ first rest,
      Text.lines (attributed.source '=' quote content).toList =
        attributed.line (']' :: ' ' :: '=' :: ' ' :: quote :: first) :: rest := by
  obtain ⟨-, hnewline, hreturn⟩ := Quoted.ne_of_quote hquote
  have hvalue : '\n' ∉ attributed.value.toList := fun hc =>
    absurd (h.entry.value_chars _ hc) (by decide)
  have hlead : attributed.line [']', ' ', '=', ' ', quote] =
      attributed.line [']', ' ', '=', ' '] ++ [quote] := by simp [line]
  have hne : attributed.line [']', ' ', '=', ' ', quote] ≠ [] := by simp [line]
  have hlast : (attributed.line [']', ' ', '=', ' ', quote]).getLast? ≠ some '\r' := by
    rw [hlead, List.getLast?_concat]
    exact fun heq => hreturn (Option.some.inj heq)
  have hmem : '\n' ∉ attributed.line [']', ' ', '=', ' ', quote] := by
    simp [line, h.isKey_cut.no_newline, hvalue, hnewline.symm]
  obtain ⟨first, rest, hlines⟩ := Text.exists_lines_append hne hmem hlast
    (Quoted.escape quote content.toList ++ [quote])
  rw [toList_source_equals, hlines]
  exact ⟨first, rest, by simp [line]⟩

theorem no_comment_cut : (Text.trim attributed.cut.toList).head? ≠ some '#' := by
  rw [h.isKey_cut.trimmed.trim_eq]
  exact h.isKey_cut.no_comment

theorem trimStart_value (after : List Char) :
    Text.trimStart (attributed.value.toList ++ after) = attributed.value.toList ++ after :=
  h.entry.isTrimmed_value.trimStart_append h.entry.value_ne_nil after

/-- What the brackets held after the equals sign begins the value of the line. -/
theorem scanLines_line
    (hquote : ∀ c ∈ attributed.value.toList.head?, c ≠ '\'' ∧ c ≠ '"') (number : Nat)
    (after : List Char) (lines : List (List Char)) :
    Statement.scanLines .outside number (attributed.line after :: lines) =
      .ok ⟨attributed.cut, String.ofList (Statement.unquoted (attributed.value.toList ++ after)),
        ⟨none, number, String.ofList (attributed.line after)⟩⟩ ::
          Statement.scanLines .outside (number + 1) lines := by
  let line : Statement.UnquotedLine :=
    { key := attributed.cut.toList
      rest := attributed.value.toList ++ after
      no_equals := h.isKey_cut.no_equals
      no_comment := h.no_comment_cut
      no_quote := by
        rwa [h.trimStart_value, List.head?_append_of_ne_nil _ h.entry.value_ne_nil] }
  have hscan := line.scanLines_text number lines
  have hvalue : line.value = attributed.value.toList ++ after := h.trimStart_value after
  rw [hvalue, h.isKey_cut.trimmed.trim_eq, String.ofList_toList] at hscan
  exact hscan

theorem scanLines_line_quoted {c : Char} (hc : c ∈ attributed.value.toList.head?)
    (hquote : c = '\'' ∨ c = '"') (number : Nat) (after : List Char) (lines : List (List Char)) :
    let location : Location := ⟨none, number, String.ofList (attributed.line after)⟩
    (∃ template items, Statement.scanLines .outside number (attributed.line after :: lines) =
      .ok ⟨attributed.cut, template, location⟩ :: items) ∨
    Statement.scanLines .outside number (attributed.line after :: lines) =
      [.error ⟨.unclosedValue, attributed.cut, location⟩] := by
  intro location
  obtain ⟨value, hvalue⟩ := List.head?_eq_some_iff.1 hc
  let start : Statement.QuotedStart :=
    { key := attributed.cut.toList
      blanks := []
      quote := c
      first := value ++ after
      no_equals := h.isKey_cut.no_equals
      no_comment := h.no_comment_cut
      isBlank := by simp
      isQuote := hquote }
  have hline : start.line = attributed.line after := by
    simp [start, Statement.QuotedStart.line, line, hvalue]
  have hpending : start.pending number = ⟨attributed.cut, location, c, []⟩ := by
    rw [Statement.QuotedStart.pending, hline, h.isKey_cut.trimmed.trim_eq, String.ofList_toList]
  have hscan := start.scanLines_line number lines
  rw [hline, hpending] at hscan
  rw [hscan]
  rcases Statement.scanLines_inside ⟨attributed.cut, location, c, []⟩
    (Quoted.ne_of_quote hquote).1 number (start.first :: lines) with
    ⟨texts, rest, -, hinside⟩ | ⟨-, hinside⟩
  · exact .inl ⟨_, _, hinside⟩
  · exact .inr hinside

theorem readItem_cut (options : Options) (template : String) (number : Nat) (text : String) :
    readItem (options.withStrict false) (.ok ⟨attributed.cut, template, ⟨none, number, text⟩⟩) =
      .ok ⟨some (attributed.cutMessage options template),
        [⟨.unclosedMetadata, attributed.name, ⟨options.fileName, number, text⟩⟩]⟩ := by
  simp only [readItem, Declared.read, h.parse_cut, report_lenient]
  rfl

/-- A strict reading fails, and a lenient one gives no message with the attribute for the line. -/
theorem read_equals (options : Options) {quote : Char} (hquote : quote = '\'' ∨ quote = '"')
    (content : String) : ∃ problem messages later line,
      Source.read (options.withStrict true) (attributed.source '=' quote content) =
        .error problem ∧
      Source.read (options.withStrict false) (attributed.source '=' quote content) =
        .ok ⟨messages, problem :: later⟩ ∧
      problem.location = ⟨options.fileName, 1, line⟩ ∧
      attributed.IsCut options quote problem messages := by
  obtain ⟨first, lines, hlines⟩ := h.exists_lines_source hquote content
  have hscan : Statement.scan (attributed.source '=' quote content) =
      Statement.scanLines .outside 1 (_ :: lines) := congrArg _ hlines
  -- The value is what the line goes on with, so its first character says how the line is read on.
  by_cases hvalue : ∃ c ∈ attributed.value.toList.head?, c = '\'' ∨ c = '"'
  · obtain ⟨c, hc, hcquote⟩ := hvalue
    rcases h.scanLines_line_quoted hc hcquote 1 _ lines with ⟨template, items, hitem⟩ | hitem
    · obtain ⟨rest, -, hstrict, hlenient⟩ :=
        exists_read_of_scan options (hscan.trans hitem) (h.readItem_cut options template 1 _)
      refine ⟨_, _, _, _, hstrict, hlenient, rfl, .metadata rfl rfl rfl ?_⟩
      exact fun hnone => absurd hcquote (not_or.2 (hnone c hc))
    · obtain ⟨rest, hrest, hstrict, hlenient⟩ :=
        exists_read_of_scan options (hscan.trans hitem) (readItem_error options _ _ 1 _)
      obtain rfl := Except.ok.inj hrest
      exact ⟨_, _, _, _, hstrict, hlenient, rfl, .value rfl rfl rfl hc hcquote⟩
  · have hnone : ∀ c ∈ attributed.value.toList.head?, c ≠ '\'' ∧ c ≠ '"' :=
      fun c hc => not_or.1 fun hcquote => hvalue ⟨c, hc, hcquote⟩
    have hitem := h.scanLines_line hnone 1 (']' :: ' ' :: '=' :: ' ' :: quote :: first) lines
    obtain ⟨rest, -, hstrict, hlenient⟩ :=
      exists_read_of_scan options (hscan.trans hitem) (h.readItem_cut options _ 1 _)
    exact ⟨_, _, _, _, hstrict, hlenient, rfl, .metadata rfl rfl rfl fun _ => ⟨first, rfl⟩⟩

end IsReadable

/-- All signs make an attribute of a key, and all but the equals sign one of a message: a line with
an equals sign in its brackets is at fault, and is read without the attribute or not at all. -/
theorem read_with_any_sign_but_equals (h : attributed.IsReadable) (options : Options) {quote : Char}
    (hquote : quote = '\'' ∨ quote = '"') {content : String}
    (hcontent : ¬['\r', '\n'] <:+: content.toList) :
    (∀ sign ∈ Token.separators, ∀ location : Location,
      Declared.read options location (attributed.key sign) = .ok ⟨attributed.declared, []⟩) ∧
    (∀ sign ∈ Token.separators, sign ≠ '=' →
      Source.read options (attributed.source sign quote content) =
        .ok ⟨[⟨attributed.name, options.defaultLanguage, none, none,
          Dictionary.empty.insert attributed.label attributed.value,
          ⟨attributed.key sign, content, options.engineId⟩⟩], []⟩) ∧
    ∃ problem messages later line,
      Source.read (options.withStrict true) (attributed.source '=' quote content) =
        .error problem ∧
      Source.read (options.withStrict false) (attributed.source '=' quote content) =
        .ok ⟨messages, problem :: later⟩ ∧
      problem.location = ⟨options.fileName, 1, line⟩ ∧
      attributed.IsCut options quote problem messages := by
  refine ⟨fun sign hsign location => h.read_key hsign options location, ?_,
    h.read_equals options hquote content⟩
  intro sign hsign hequals
  exact h.read_source hsign hequals options hquote hcontent

theorem read_with_any_sign_but_equals_tone :
    Source.read { strict := true } "greeting[tone|formal] = 'Good evening'" =
        .ok ⟨[⟨"greeting", none, none, none, .ofList [("tone", "formal")],
          ⟨"greeting[tone|formal]", "Good evening", "basic"⟩⟩], []⟩ ∧
      ∃ problem, Source.read { strict := true } "greeting[tone=formal] = 'Good evening'" =
        .error problem ∧ problem.location.line = 1 := by
  let attributed : Attributed := ⟨"greeting", "tone", "formal"⟩
  have hname : IsName "greeting".toList := ⟨by decide, by decide, by simp [isOpener]⟩
  have hentry : IsAttribute ']' "tone".toList '-' "formal".toList :=
    ⟨by decide, by decide, by simp [isAssignment, isReserved], by decide, by decide, by decide,
      by simp [isReserved], by decide⟩
  have hcontent : ¬['\r', '\n'] <:+: "Good evening".toList := by decide
  have hreadable : attributed.IsReadable := ⟨hname, hentry⟩
  have hquote : '\'' = '\'' ∨ '\'' = '"' := .inl rfl
  obtain ⟨-, hsource, problem, _, _, _, hstrict, -, hlocation, -⟩ :=
    read_with_any_sign_but_equals hreadable { strict := true } hquote hcontent
  have hbar : attributed.source '|' '\'' "Good evening" =
      "greeting[tone|formal] = 'Good evening'" := by decide +kernel
  have hequals : attributed.source '=' '\'' "Good evening" =
      "greeting[tone=formal] = 'Good evening'" := by decide +kernel
  have hread := hsource '|' (by decide) (by decide)
  rw [hbar] at hread
  rw [hequals] at hstrict
  exact ⟨hread, problem, hstrict, by rw [hlocation]⟩

/-- The equals sign in the brackets ends the key, and the closing bracket becomes part of the
template. -/
theorem read_with_equals_cut :
    Source.read { strict := true } "name[k-v] = 'x'" =
        .ok ⟨[⟨"name", none, none, none, .ofList [("k", "v")], ⟨"name[k-v]", "x", "basic"⟩⟩], []⟩ ∧
      Source.read { strict := true } "name[k=v] = 'x'" =
        .error ⟨.unclosedMetadata, "name", ⟨none, 1, "name[k=v] = 'x'"⟩⟩ ∧
      Source.read {} "name[k=v] = 'x'" =
        .ok ⟨[⟨"name", none, none, none, .empty, ⟨"name[k", "v] = 'x'", "basic"⟩⟩],
          [⟨.unclosedMetadata, "name", ⟨none, 1, "name[k=v] = 'x'"⟩⟩]⟩ := by
  decide +kernel

end Attributed

end Phrasebook
