import Phrasebook.Proofs.EntryMeaning

/-! Keys as they are written, and how they are read. A key consists of a name, a tag and a block of
entries with separators between them. What the parts must be for the key to be readable is said for
each part on its own; then the key is read as exactly these parts (`parse_text`), each entry has
the meaning it was written with (`Entry.meaning_ofText`), and no character of the key ends it
before its equals sign. -/

namespace Phrasebook

/-- A blank before a text is trimmed off with the first piece. -/
theorem Text.map_trim_splitOnP_cons {p : Char → Bool} {b : Char} (hblank : isBlank b = true)
    (hp : p b = false) (s : List Char) :
    ((b :: s).splitOnP p).map trim = (s.splitOnP p).map trim := by
  obtain ⟨piece, pieces, hpieces⟩ := List.exists_cons_of_ne_nil (List.splitOnP_ne_nil p s)
  rw [List.splitOnP_cons_eq_if_modifyHead, hp, if_neg Bool.false_ne_true, hpieces,
    List.modifyHead_cons, List.map_cons, List.map_cons, trim_cons hblank]

namespace Key

theorem eq_of_isOpener {c : Char} (h : isOpener c = true) :
    c = '[' ∨ c = '\x7b' ∨ c = '(' ∨ c = '<' := by
  simpa only [isOpener, Bool.or_eq_true, beq_iff_eq, or_assoc] using h

theorem ne_of_isOpener {c : Char} (h : isOpener c = true) : c ≠ '=' ∧ c ≠ '\n' ∧ c ≠ '#' := by
  rcases eq_of_isOpener h with rfl | rfl | rfl | rfl <;> decide

theorem closer_spec {opener : Char} (h : isOpener opener = true) :
    closer opener ≠ '=' ∧ closer opener ≠ '\n' ∧ Text.isBlank (closer opener) = false := by
  rcases eq_of_isOpener h with rfl | rfl | rfl | rfl <;> decide

/-- An entry of the metadata as it is written: a word for a gender, a range of counts, or a name and
a value with a sign between them. -/
inductive Entry where
  | word (gender : Gender) (spelling : String)
  | counts (range : CountRange)
  | assigned (name : String) (sign : Char) (value : String)
  deriving DecidableEq

/-- What ends an entry, the metadata, the key or its line. -/
def isReserved (closer c : Char) : Bool :=
  c == ',' || c == '&' || c == '=' || c == '\n' || c == closer

theorem ne_of_isReserved {closer c : Char} (h : isReserved closer c = false) :
    c ≠ ',' ∧ c ≠ '&' ∧ c ≠ '=' ∧ c ≠ '\n' ∧ c ≠ closer := by
  simpa only [isReserved, Bool.or_eq_false_iff, beq_eq_false_iff_ne, and_assoc] using h

/-- An attribute that is written so that nothing else is read. -/
structure IsAttribute (closer : Char) (name : List Char) (sign : Char) (value : List Char) :
    Prop where
  name_ne_nil : name ≠ []
  isTrimmed_name : Text.IsTrimmed name
  name_chars : ∀ c ∈ name, isAssignment c = false ∧ isReserved closer c = false
  sign_mem : sign ∈ ['-', '|', ':', ' ']
  value_ne_nil : value ≠ []
  isTrimmed_value : Text.IsTrimmed value
  value_chars : ∀ c ∈ value, isReserved closer c = false
  not_range : CountRange.parse? (name ++ sign :: value) = none

namespace Entry

def text : Entry → List Char
  | word _ spelling => spelling.toList
  | counts range => range.text.toList
  | assigned name sign value => name.toList ++ sign :: value.toList

def meaning : Entry → Modifier
  | word gender _ => .gender gender
  | counts range => .countRange range
  | assigned name _ value => .attribute name value

/-- A range of one infinite count has no text of its own. -/
def IsReadable (closer : Char) : Entry → Prop
  | word gender spelling => gender.IsWord spelling.toList
  | counts range =>
    range.first = range.last → range.first ≠ Int64.minValue ∧ range.first ≠ Int64.maxValue
  | assigned name sign value => IsAttribute closer name.toList sign value.toList

variable {closer : Char} {entry : Entry}

theorem isAssignment_of_mem {c : Char} (h : c ∈ ['-', '|', ':', ' ']) : isAssignment c = true := by
  simp only [List.mem_cons, List.not_mem_nil, or_false] at h
  rcases h with rfl | rfl | rfl | rfl <;> rfl

/-- What is read from an entry is what it was written for. -/
theorem meaning_ofText (h : entry.IsReadable closer) :
    (Token.ofText entry.text).meaning = entry.meaning := by
  cases entry with
  | word gender spelling =>
      have hword : gender.IsWord spelling.toList := h
      exact Token.Means.meaning_eq (.gender hword.parse?_eq_none hword)
  | counts range =>
      have hrange : range.first = range.last →
          range.first ≠ Int64.minValue ∧ range.first ≠ Int64.maxValue := h
      exact Token.Means.meaning_eq (.countRange (CountRange.parse?_text hrange))
  | assigned name sign value =>
      have hsign : sign ∈ Token.separators :=
        Token.isAssignment_iff.1 (isAssignment_of_mem h.sign_mem)
      have hname : ∀ c ∈ name.toList, c ∉ Token.separators := fun c hc =>
        Token.isAssignment_eq_false_iff.1 (h.name_chars c hc).1
      have hmeaning := Token.meaning_assigned h.not_range hsign hname h.isTrimmed_name
        h.isTrimmed_value
      rwa [String.ofList_toList, String.ofList_toList] at hmeaning

theorem isReserved_of_isPlain {opener c : Char} (hopener : isOpener opener = true)
    (h : Text.isPlain c = true) : isReserved (Key.closer opener) c = false := by
  rw [Bool.eq_false_iff]
  intro hreserved
  simp only [isReserved, Bool.or_eq_true, beq_iff_eq] at hreserved
  rcases hreserved with (((rfl | rfl) | rfl) | rfl) | rfl
  · exact absurd h (by decide)
  · exact absurd h (by decide)
  · exact absurd h (by decide)
  · exact absurd h (by decide)
  · rcases eq_of_isOpener hopener with rfl | rfl | rfl | rfl <;> exact absurd h (by decide)

theorem isReserved_of_mem {opener c : Char} (hopener : isOpener opener = true)
    (h : c ∈ ['-', '|', ':', ' ']) : isReserved (Key.closer opener) c = false := by
  simp only [List.mem_cons, List.not_mem_nil, or_false] at h
  rcases eq_of_isOpener hopener with rfl | rfl | rfl | rfl <;>
    rcases h with rfl | rfl | rfl | rfl <;> rfl

theorem text_spec {opener : Char} (hopener : isOpener opener = true)
    (h : entry.IsReadable (Key.closer opener)) :
    entry.text ≠ [] ∧ Text.IsTrimmed entry.text ∧
      ∀ c ∈ entry.text, isReserved (Key.closer opener) c = false := by
  have hplain : ∀ s : List Char, s ≠ [] → (∀ c ∈ s, Text.isPlain c = true) →
      s ≠ [] ∧ Text.IsTrimmed s ∧ ∀ c ∈ s, isReserved (Key.closer opener) c = false := by
    intro s hne hs
    exact ⟨hne, Text.isTrimmed_of_isPlain hs, fun c hc => isReserved_of_isPlain hopener (hs c hc)⟩
  cases entry with
  | word gender spelling =>
      have hword : gender.IsWord spelling.toList := h
      obtain ⟨hne, hletters⟩ := hword.isAlpha
      apply hplain _ hne
      intro c hc
      exact Text.isPlain_iff.2 (.inl (hletters c hc))
  | counts range =>
      exact hplain _ (CountRange.text_ne_nil range) fun c hc => CountRange.isPlain_of_mem_text hc
  | assigned name sign value =>
      have hattribute : IsAttribute (Key.closer opener) name.toList sign value.toList := h
      refine ⟨by simp [text], ?_, ?_⟩
      · have htrimmed := hattribute.isTrimmed_name.append hattribute.name_ne_nil
          hattribute.isTrimmed_value hattribute.value_ne_nil [sign]
        rwa [List.append_assoc, List.singleton_append] at htrimmed
      · intro c hc
        rcases List.mem_append.1 hc with hc | hc
        · exact (hattribute.name_chars c hc).2
        · rcases List.mem_cons.1 hc with rfl | hc
          · exact isReserved_of_mem hopener hattribute.sign_mem
          · exact hattribute.value_chars c hc

theorem not_separator {opener : Char} (hopener : isOpener opener = true)
    (h : entry.IsReadable (Key.closer opener)) :
    ∀ c ∈ entry.text, (c == ',' || c == '&') = false := by
  intro c hc
  obtain ⟨hcomma, hampersand, -⟩ := ne_of_isReserved ((text_spec hopener h).2.2 c hc)
  simp [hcomma, hampersand]

end Entry

/-- What is written between two entries. -/
inductive Separator where
  | comma
  | ampersand
  deriving DecidableEq

def Separator.text : Separator → List Char
  | comma => [',', ' ']
  | ampersand => [' ', '&', ' ']

/-- The metadata as they are written: at least one entry, in brackets of one kind. -/
structure Block where
  opener : Char
  first : Entry
  rest : List (Separator × Entry)
  deriving DecidableEq

namespace Block

def entries (block : Block) : List Entry :=
  block.first :: block.rest.map (·.2)

/-- What stands between the brackets. -/
def content (first : Entry) (rest : List (Separator × Entry)) : List Char :=
  first.text ++ rest.flatMap fun (separator, entry) => separator.text ++ entry.text

def text (block : Block) : List Char :=
  block.opener :: (content block.first block.rest ++ [closer block.opener])

structure IsReadable (block : Block) : Prop where
  opener : isOpener block.opener = true
  entries : ∀ entry ∈ block.entries, entry.IsReadable (closer block.opener)

/-- A separator cuts, and the blanks around it are trimmed off. -/
theorem trim_splitOnP_separator {opener : Char} (hopener : isOpener opener = true) {entry : Entry}
    (h : entry.IsReadable (closer opener)) (separator : Separator) (s : List Char) :
    ((entry.text ++ separator.text ++ s).splitOnP fun c => c == ',' || c == '&').map Text.trim =
      entry.text :: (s.splitOnP fun c => c == ',' || c == '&').map Text.trim := by
  have hblank : Text.isBlank ' ' = true := rfl
  obtain ⟨-, htrimmed, -⟩ := Entry.text_spec hopener h
  have hentry := Entry.not_separator hopener h
  cases separator with
  | comma =>
      have htext : entry.text ++ Separator.comma.text ++ s = entry.text ++ ',' :: ' ' :: s := by
        simp [Separator.text]
      rw [htext, List.splitOnP_append_cons_of_forall_mem hentry ',' rfl, List.map_cons,
        Text.map_trim_splitOnP_cons hblank rfl, htrimmed.trim_eq]
  | ampersand =>
      have htext : entry.text ++ Separator.ampersand.text ++ s =
          (entry.text ++ [' ']) ++ '&' :: ' ' :: s := by
        simp [Separator.text]
      have hspace : ∀ c ∈ entry.text ++ [' '], (c == ',' || c == '&') = false := by
        intro c hc
        rcases List.mem_append.1 hc with hc | hc
        · exact hentry c hc
        · obtain rfl := List.mem_singleton.1 hc
          rfl
      rw [htext, List.splitOnP_append_cons_of_forall_mem hspace '&' rfl, List.map_cons,
        Text.map_trim_splitOnP_cons hblank rfl, Text.trim_concat hblank, htrimmed.trim_eq]

theorem content_cons (first : Entry) (separator : Separator) (entry : Entry)
    (rest : List (Separator × Entry)) :
    content first ((separator, entry) :: rest) =
      first.text ++ separator.text ++ content entry rest := by
  simp [content]

/-- The separators cut the content at the entries. -/
theorem trim_splitOnP_content {opener : Char} (hopener : isOpener opener = true) {first : Entry}
    {rest : List (Separator × Entry)} (hfirst : first.IsReadable (closer opener))
    (hrest : ∀ entry ∈ rest.map (·.2), entry.IsReadable (closer opener)) :
    ((content first rest).splitOnP fun c => c == ',' || c == '&').map Text.trim =
      (first :: rest.map (·.2)).map Entry.text := by
  induction rest generalizing first with
  | nil =>
      obtain ⟨-, htrimmed, -⟩ := Entry.text_spec hopener hfirst
      have hentry := Entry.not_separator hopener hfirst
      rw [content, List.flatMap_nil, List.append_nil, List.splitOnP_eq_singleton hentry]
      simp [htrimmed.trim_eq]
  | cons next rest ih =>
      obtain ⟨separator, entry⟩ := next
      rw [List.map_cons] at hrest
      obtain ⟨hnext, hrest⟩ := List.forall_mem_cons.1 hrest
      rw [content_cons, trim_splitOnP_separator hopener hfirst, ih hnext hrest]
      rfl

/-- The entries are what is read between the brackets. -/
theorem tokens_content {block : Block} (h : block.IsReadable) :
    tokens (content block.first block.rest) =
      block.entries.map fun entry => Token.ofText entry.text := by
  obtain ⟨hfirst, hrest⟩ := List.forall_mem_cons.1 h.entries
  have hne : ∀ s ∈ block.entries.map Entry.text, (!s.isEmpty) = true := by
    intro s hs
    obtain ⟨entry, hentry, rfl⟩ := List.mem_map.1 hs
    simpa using (Entry.text_spec h.opener (h.entries entry hentry)).1
  simp only [tokens]
  rw [trim_splitOnP_content h.opener hfirst hrest]
  show ((block.entries.map Entry.text).filter _).map _ = _
  rw [List.filter_eq_self.2 hne, List.map_map]
  rfl

/-- Nothing between the brackets ends the metadata, the key or the line. -/
theorem ne_of_mem_content {block : Block} (h : block.IsReadable) {c : Char}
    (hc : c ∈ content block.first block.rest) :
    c ≠ '=' ∧ c ≠ '\n' ∧ c ≠ closer block.opener := by
  have hentry : ∀ entry ∈ block.entries, ∀ c ∈ entry.text,
      c ≠ '=' ∧ c ≠ '\n' ∧ c ≠ closer block.opener := by
    intro entry hentry c hc
    exact (ne_of_isReserved ((Entry.text_spec h.opener (h.entries entry hentry)).2.2 c hc)).2.2
  have hseparator : ∀ separator : Separator, ∀ c ∈ separator.text,
      c ≠ '=' ∧ c ≠ '\n' ∧ c ≠ closer block.opener := by
    intro separator c hc
    have hmem : c ∈ [',', '&', ' '] := by
      cases separator with
      | comma =>
          have hsub : Separator.comma.text ⊆ [',', '&', ' '] := by decide
          exact hsub hc
      | ampersand =>
          have hsub : Separator.ampersand.text ⊆ [',', '&', ' '] := by decide
          exact hsub hc
    simp only [List.mem_cons, List.not_mem_nil, or_false] at hmem
    rcases eq_of_isOpener h.opener with hopener | hopener | hopener | hopener <;>
      rw [hopener] <;>
      rcases hmem with rfl | rfl | rfl <;> decide
  rcases List.mem_append.1 hc with hc | hc
  · exact hentry block.first List.mem_cons_self c hc
  · obtain ⟨⟨separator, entry⟩, hmem, hc⟩ := List.mem_flatMap.1 hc
    rcases List.mem_append.1 hc with hc | hc
    · exact hseparator separator c hc
    · have hmem : entry ∈ block.entries :=
        List.mem_cons_of_mem _ (List.mem_map.2 ⟨(separator, entry), hmem, rfl⟩)
      exact hentry entry hmem c hc

theorem readBlock_text {block : Block} (h : block.IsReadable) (name : String)
    (tag : Option (List Char)) :
    readBlock name tag block.opener (content block.first block.rest ++ [closer block.opener]) =
      .ok ⟨name, tag.bind tagOf, block.entries.map fun entry => Token.ofText entry.text⟩ := by
  have hcloser : closer block.opener ∉ content block.first block.rest :=
    fun hmem => (ne_of_mem_content h hmem).2.2 rfl
  rw [readBlock, Text.cutAt_append hcloser, ← tokens_content h]
  cases tag <;> rfl

end Block

section

variable {name : List Char} (htrim : Text.IsTrimmed name) (hname : ∀ c ∈ name, endsName c = false)
include htrim hname

theorem parse_of_name : parse name = .ok ⟨String.ofList name, none, []⟩ := by
  have hchars : ∀ c ∈ name, (!endsName c) = true := fun c hc => by rw [hname c hc, Bool.not_false]
  obtain ⟨htake, hdrop⟩ := @Text.span_append _ name [] hchars (by simp)
  rw [List.append_nil] at htake hdrop
  simp only [parse, htake, hdrop, htrim.trim_eq]

/-- The first character that ends the name says what follows. -/
theorem parse_append_cons {c : Char} (hc : endsName c = true) (rest : List Char) :
    parse (name ++ c :: rest) =
      if c = '#' then readTag (String.ofList name) rest
      else readBlock (String.ofList name) none c rest := by
  have hchars : ∀ c ∈ name, (!endsName c) = true := fun c hc => by rw [hname c hc, Bool.not_false]
  have hnext : ∀ d ∈ (c :: rest).head?, (!endsName d) = false := by
    rintro d ⟨⟩
    rw [hc, Bool.not_true]
  obtain ⟨htake, hdrop⟩ := Text.span_append hchars hnext
  simp only [parse, htake, hdrop, htrim.trim_eq]

end

/-- A key as it is written. Without entries there are no brackets. -/
structure Written where
  name : String
  tag : Option String
  block : Option Block
  deriving DecidableEq

namespace Written

def tagText : Option String → List Char
  | none => []
  | some tag => '#' :: tag.toList

def blockText : Option Block → List Char
  | none => []
  | some block => block.text

def text (key : Written) : String :=
  String.ofList (key.name.toList ++ tagText key.tag ++ blockText key.block)

def entries (key : Written) : List Entry :=
  match key.block with
  | none => []
  | some block => block.entries

theorem toList_text (key : Written) :
    key.text.toList = key.name.toList ++ tagText key.tag ++ blockText key.block := by
  rw [text, String.toList_ofList]

structure IsReadable (key : Written) : Prop where
  name_ne_nil : key.name.toList ≠ []
  isTrimmed_name : Text.IsTrimmed key.name.toList
  name_chars : ∀ c ∈ key.name.toList, c ≠ '=' ∧ c ≠ '\n' ∧ c ≠ '#' ∧ isOpener c = false
  tag_ne_nil : ∀ tag ∈ key.tag, tag.toList ≠ []
  isTrimmed_tag : ∀ tag ∈ key.tag, Text.IsTrimmed tag.toList
  tag_chars : ∀ tag ∈ key.tag, ∀ c ∈ tag.toList, c ≠ '=' ∧ c ≠ '\n' ∧ isOpener c = false
  block : ∀ block ∈ key.block, block.IsReadable

variable {key : Written}

/-- A block that follows begins with its opening bracket. -/
theorem head_blockText (h : key.IsReadable) :
    ∀ c ∈ (blockText key.block).head?, isOpener c = true := by
  intro c hc
  cases hblock : key.block with
  | none => simp [hblock, blockText] at hc
  | some block =>
      rw [hblock, blockText, Block.text, List.head?_cons] at hc
      obtain rfl := Option.some.inj hc
      exact (h.block block hblock).opener

theorem tagOf_tag (h : key.IsReadable) {tag : String} (htag : key.tag = some tag) :
    tagOf tag.toList = some tag := by
  have hne : ¬tag.toList.isEmpty = true := by
    rw [List.isEmpty_iff]
    exact h.tag_ne_nil tag htag
  have htrim := (h.isTrimmed_tag tag htag).trim_eq
  simp only [tagOf, htrim, if_neg hne, String.ofList_toList]

theorem readTag_text (h : key.IsReadable) {tag : String} (htag : key.tag = some tag) :
    readTag key.name (tag.toList ++ blockText key.block) =
      .ok ⟨key.name, some tag, key.entries.map fun entry => Token.ofText entry.text⟩ := by
  have hchars : ∀ c ∈ tag.toList, (!isOpener c) = true := by
    intro c hc
    rw [(h.tag_chars tag htag c hc).2.2, Bool.not_false]
  have hnext : ∀ c ∈ (blockText key.block).head?, (!isOpener c) = false := by
    intro c hc
    rw [head_blockText h c hc, Bool.not_true]
  obtain ⟨htake, hdrop⟩ := Text.span_append hchars hnext
  simp only [readTag, htake, hdrop]
  cases hblock : key.block with
  | none => simp only [blockText, entries, hblock, tagOf_tag h htag, List.map_nil]
  | some block =>
      simp only [blockText, Block.text, entries, hblock,
        Block.readBlock_text (h.block block hblock), Option.bind_some, tagOf_tag h htag]

/-- A key is read as the parts it was written from. -/
theorem parse_text (h : key.IsReadable) :
    parse key.text.toList =
      .ok ⟨key.name, key.tag, key.entries.map fun entry => Token.ofText entry.text⟩ := by
  have hname : ∀ c ∈ key.name.toList, endsName c = false := by
    intro c hc
    obtain ⟨-, -, hsign, hopener⟩ := h.name_chars c hc
    simp [endsName, hsign, hopener]
  rw [toList_text]
  cases htag : key.tag with
  | some tag =>
      rw [tagText, List.append_assoc, List.cons_append,
        parse_append_cons h.isTrimmed_name hname rfl, if_pos rfl, String.ofList_toList,
        readTag_text h htag]
  | none =>
      rw [tagText, List.append_nil]
      cases hblock : key.block with
      | none =>
          rw [blockText, List.append_nil, parse_of_name h.isTrimmed_name hname, entries, hblock,
            String.ofList_toList]
          rfl
      | some block =>
          have hopener := (h.block block hblock).opener
          have hends : endsName block.opener = true := by simp [endsName, hopener]
          rw [blockText, Block.text, parse_append_cons h.isTrimmed_name hname hends,
            if_neg (ne_of_isOpener hopener).2.2, Block.readBlock_text (h.block block hblock),
            String.ofList_toList, entries, hblock]
          rfl

end Written

end Key

end Phrasebook
