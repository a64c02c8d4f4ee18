import Phrasebook.Proofs.Documents
import Phrasebook.Proofs.KeyText
import Phrasebook.Source.Reading

/-! Messages as they are written. A message consists of a key and of a text in quotes; it is read
back as one message with the name and tag of the key, the last gender, range and value of each
attribute that its entries give, and the text as its template (`read_written`). -/

namespace Phrasebook

namespace Modifier

def gender? : Modifier → Option Gender
  | .gender chosen => some chosen
  | _ => none

def countRange? : Modifier → Option CountRange
  | .countRange range => some range
  | _ => none

/-- The value given to the attribute with this name. -/
def value? (attributeName : String) : Modifier → Option String
  | .attribute name value => if name = attributeName then some value else none
  | _ => none

end Modifier

namespace Source.Declared

def apply (declared : Declared) : Modifier → Declared
  | .gender gender => { declared with gender := some gender }
  | .countRange range => { declared with countRange := some range }
  | .attribute name value =>
    { declared with attributes := declared.attributes.insert name value }
  | .invalid _ => declared

/-- Tokens that all have a meaning are applied one after the other, and nothing is tolerated. -/
theorem addTokens_eq (options : Options) (location : Location) {tokens : List Key.Token}
    (h : ∀ token ∈ tokens, ∀ word, token.meaning ≠ .invalid word) (declared : Declared) :
    addTokens options location declared tokens =
      .ok ⟨(tokens.map Key.Token.meaning).foldl apply declared, []⟩ := by
  induction tokens generalizing declared with
  | nil => rfl
  | cons token tokens ih =>
      obtain ⟨htoken, htokens⟩ := List.forall_mem_cons.1 h
      rw [addTokens, List.map_cons, List.foldl_cons]
      rcases hmeaning : token.meaning with gender | range | ⟨name, value⟩ | word
      · exact ih htokens { declared with gender := some gender }
      · exact ih htokens { declared with countRange := some range }
      · exact ih htokens { declared with attributes := declared.attributes.insert name value }
      · exact absurd hmeaning (htoken word)

/-- A field that each modifier overwrites or leaves alone holds what was written last. -/
theorem foldl_apply {α : Type} (field : Declared → Option α) {write : Modifier → Option α}
    (h : ∀ declared modifier,
      field (apply declared modifier) = (write modifier).or (field declared))
    (modifiers : List Modifier) (declared : Declared) :
    field (modifiers.foldl apply declared) =
      (modifiers.filterMap write).getLast?.or (field declared) := by
  induction modifiers generalizing declared with
  | nil => rfl
  | cons modifier modifiers ih =>
      rw [List.foldl_cons, ih, h]
      cases hwrite : write modifier with
      | none => rw [List.filterMap_cons_none hwrite, Option.none_or]
      | some value =>
          rw [List.filterMap_cons_some hwrite, List.getLast?_cons]
          cases (modifiers.filterMap write).getLast? <;> rfl

theorem apply_gender (declared : Declared) (modifier : Modifier) :
    (apply declared modifier).gender = modifier.gender?.or declared.gender := by
  cases modifier <;> rfl

theorem apply_countRange (declared : Declared) (modifier : Modifier) :
    (apply declared modifier).countRange = modifier.countRange?.or declared.countRange := by
  cases modifier <;> rfl

theorem apply_attributes (attributeName : String) (declared : Declared) (modifier : Modifier) :
    (apply declared modifier).attributes.find? attributeName =
      (modifier.value? attributeName).or (declared.attributes.find? attributeName) := by
  rcases modifier with gender | range | ⟨name, value⟩ | word
  · rfl
  · rfl
  · by_cases hname : name = attributeName
    · rw [hname, apply, Dictionary.find?_insert_self, Modifier.value?, if_pos rfl, Option.some_or]
    · rw [apply, Dictionary.find?_insert_of_ne _ (Ne.symm hname), Modifier.value?, if_neg hname,
        Option.none_or]
  · rfl

/-- Modifiers change neither the name nor the language. -/
theorem foldl_apply_name_language (modifiers : List Modifier) (declared : Declared) :
    (modifiers.foldl apply declared).name = declared.name ∧
      (modifiers.foldl apply declared).language = declared.language := by
  induction modifiers generalizing declared with
  | nil => exact ⟨rfl, rfl⟩
  | cons modifier modifiers ih =>
      obtain ⟨hname, hlanguage⟩ := ih (apply declared modifier)
      rw [List.foldl_cons, hname, hlanguage]
      cases modifier <;> exact ⟨rfl, rfl⟩

end Source.Declared

namespace Key.Written

variable {key : Written}

/-- What the entries of a key say, in their order. -/
def modifiers (key : Written) : List Modifier :=
  key.entries.map Entry.meaning

theorem isReadable_entry (h : key.IsReadable) :
    ∀ entry ∈ key.entries, ∃ closer, entry.IsReadable closer := by
  intro entry hentry
  cases hblock : key.block with
  | none =>
      rw [entries, hblock] at hentry
      exact absurd hentry List.not_mem_nil
  | some block =>
      rw [entries, hblock] at hentry
      exact ⟨_, (h.block block hblock).entries entry hentry⟩

theorem map_meaning (h : key.IsReadable) :
    (key.entries.map fun entry => Token.ofText entry.text).map Token.meaning = key.modifiers := by
  rw [List.map_map, modifiers]
  apply List.map_congr_left
  intro entry hentry
  obtain ⟨closer, hreadable⟩ := isReadable_entry h entry hentry
  exact Entry.meaning_ofText hreadable

theorem meaning_ne_invalid (h : key.IsReadable) :
    ∀ token ∈ key.entries.map fun entry => Token.ofText entry.text,
      ∀ word, token.meaning ≠ .invalid word := by
  intro token htoken word
  obtain ⟨entry, hentry, rfl⟩ := List.mem_map.1 htoken
  obtain ⟨closer, hreadable⟩ := isReadable_entry h entry hentry
  rw [Entry.meaning_ofText hreadable]
  cases entry <;> exact Modifier.noConfusion

theorem ne_of_mem_tagText (h : key.IsReadable) {c : Char} (hc : c ∈ tagText key.tag) :
    c ≠ '=' ∧ c ≠ '\n' := by
  cases htag : key.tag with
  | none =>
      rw [htag] at hc
      exact absurd hc List.not_mem_nil
  | some tag =>
      rw [htag] at hc
      rcases List.mem_cons.1 hc with rfl | hc
      · exact ⟨by decide, by decide⟩
      · obtain ⟨hequals, hnewline, -⟩ := h.tag_chars tag htag c hc
        exact ⟨hequals, hnewline⟩

theorem ne_of_mem_blockText (h : key.IsReadable) {c : Char} (hc : c ∈ blockText key.block) :
    c ≠ '=' ∧ c ≠ '\n' := by
  cases hblock : key.block with
  | none =>
      rw [hblock] at hc
      exact absurd hc List.not_mem_nil
  | some block =>
      have hreadable := h.block block hblock
      rw [hblock, blockText, Block.text, List.mem_cons, List.mem_append, List.mem_singleton] at hc
      rcases hc with rfl | hc | rfl
      · obtain ⟨hequals, hnewline, -⟩ := ne_of_isOpener hreadable.opener
        exact ⟨hequals, hnewline⟩
      · obtain ⟨hequals, hnewline, -⟩ := Block.ne_of_mem_content hreadable hc
        exact ⟨hequals, hnewline⟩
      · obtain ⟨hequals, hnewline, -⟩ := closer_spec hreadable.opener
        exact ⟨hequals, hnewline⟩

/-- A key ends with its closing bracket, with its tag, or with its name. -/
theorem isTrimmed_text (h : key.IsReadable) : Text.IsTrimmed key.text.toList := by
  rw [toList_text]
  cases hblock : key.block with
  | some block =>
      have hblank := (closer_spec (h.block block hblock).opener).2.2
      have hcloser : Text.IsTrimmed [closer block.opener] :=
        Text.isTrimmed_of_ends (List.nil_append _).symm hblank hblank
      have htrimmed := h.isTrimmed_name.append h.name_ne_nil hcloser (List.cons_ne_nil _ [])
        (tagText key.tag ++ block.opener :: Block.content block.first block.rest)
      simpa [blockText, Block.text] using htrimmed
  | none =>
      rw [blockText, List.append_nil]
      cases htag : key.tag with
      | none =>
          rw [tagText, List.append_nil]
          exact h.isTrimmed_name
      | some tag =>
          have htrimmed := h.isTrimmed_name.append h.name_ne_nil (h.isTrimmed_tag tag htag)
            (h.tag_ne_nil tag htag) ['#']
          rwa [List.append_assoc, List.singleton_append] at htrimmed

theorem ne_of_mem_text (h : key.IsReadable) {c : Char} (hc : c ∈ key.text.toList) :
    c ≠ '=' ∧ c ≠ '\n' := by
  rw [toList_text, List.mem_append, List.mem_append] at hc
  rcases hc with (hc | hc) | hc
  · obtain ⟨hequals, hnewline, -⟩ := h.name_chars c hc
    exact ⟨hequals, hnewline⟩
  · exact ne_of_mem_tagText h hc
  · exact ne_of_mem_blockText h hc

/-- A readable key has no character that would end it before the equals sign of its line. -/
theorem isKey_text (h : key.IsReadable) : Statement.IsKey key.text.toList where
  trimmed := isTrimmed_text h
  no_equals hmem := (ne_of_mem_text h hmem).1 rfl
  no_newline hmem := (ne_of_mem_text h hmem).2 rfl
  no_comment := by
    obtain ⟨c, name, hname⟩ := List.exists_cons_of_ne_nil h.name_ne_nil
    have hc : c ∈ key.name.toList := hname ▸ List.mem_cons_self
    rw [toList_text, hname, List.cons_append, List.cons_append, List.head?_cons]
    intro heq
    exact (h.name_chars c hc).2.2.1 (Option.some.inj heq)

/-- What the entries add to the name and the tag. -/
def declared (key : Written) : Source.Declared :=
  key.modifiers.foldl Source.Declared.apply ⟨key.name, key.tag, none, none, .empty⟩

theorem read_text (h : key.IsReadable) (options : Source.Options) (location : Location) :
    Source.Declared.read options location key.text = .ok ⟨key.declared, []⟩ := by
  rw [Source.Declared.read, parse_text h]
  show Source.Declared.addTokens options location _ _ = _
  rw [Source.Declared.addTokens_eq options location (meaning_ne_invalid h), map_meaning h]
  rfl

/-- A key with all that a key may have; what it says of gender and tone is said again. -/
def order : Written where
  name := "order"
  tag := some "en"
  block := some ⟨'[', .word .male "m",
    [(.comma, .assigned "tone" ':' "plain"), (.ampersand, .counts ⟨-1, Int64.maxValue⟩),
      (.comma, .word .female "F"), (.ampersand, .assigned "tone" '-' "very formal")]⟩

theorem isReadable_order : order.IsReadable := by
  have hmale : Gender.male.IsWord "m".toList := .inr rfl
  have hfemale : Gender.female.IsWord "F".toList := .inr rfl
  have hcounts : (Entry.counts ⟨-1, Int64.maxValue⟩).IsReadable ']' :=
    fun heq => absurd heq (by decide)
  have hplain : IsAttribute ']' "tone".toList ':' "plain".toList :=
    ⟨by decide, by decide, by simp [isAssignment, isReserved], by decide, by decide, by decide,
      by simp [isReserved], by decide⟩
  have hformal : IsAttribute ']' "tone".toList '-' "very formal".toList :=
    ⟨by decide, by decide, by simp [isAssignment, isReserved], by decide, by decide, by decide,
      by simp [isReserved], by decide⟩
  refine ⟨by decide, by decide, by simp [order, isOpener], ?_, ?_, ?_, ?_⟩
  · rintro _ ⟨⟩
    decide
  · rintro _ ⟨⟩
    decide
  · rintro _ ⟨⟩
    simp [isOpener]
  · rintro _ ⟨⟩
    refine ⟨by decide, ?_⟩
    simpa [Block.entries] using ⟨hmale, hplain, hcounts, hfemale, hformal⟩

end Key.Written

namespace Source

/-- A message is read back as it was written, by a strict reading too. -/
theorem read_written (options : Options) {key : Key.Written} (hkey : key.IsReadable) {quote : Char}
    (hquote : quote = '\'' ∨ quote = '"') {content : String}
    (hcontent : ¬['\r', '\n'] <:+: content.toList) :
    ∃ message : Message,
      read options (key.text ++ " = " ++ Quoted.write quote content) = .ok ⟨[message], []⟩ ∧
        message.name = key.name ∧
        message.language = key.tag.or options.defaultLanguage ∧
        message.gender = (key.modifiers.filterMap Modifier.gender?).getLast? ∧
        message.countRange = (key.modifiers.filterMap Modifier.countRange?).getLast? ∧
        (∀ name, message.attributes.find? name =
          (key.modifiers.filterMap (Modifier.value? name)).getLast?) ∧
        message.template = ⟨key.text, content, options.engineId⟩ := by
  obtain ⟨line, hscan⟩ := Statement.scan_quoted (Key.Written.isKey_text hkey) hquote hcontent
  have hread := Key.Written.read_text hkey options ⟨none, 1, line⟩
  obtain ⟨hname, hlanguage⟩ :=
    Declared.foldl_apply_name_language key.modifiers ⟨key.name, key.tag, none, none, .empty⟩
  refine ⟨key.declared.toMessage options key.text content, ?_, hname, ?_, ?_, ?_, ?_, rfl⟩
  · rw [read, hscan, List.map_cons, List.map_nil, Reading.collect, readItem, hread]
    rfl
  · show key.declared.language.or options.defaultLanguage = _
    rw [Key.Written.declared, hlanguage]
  · have hgender := Declared.foldl_apply Declared.gender Declared.apply_gender
    exact (hgender _ _).trans Option.or_none
  · have hrange := Declared.foldl_apply Declared.countRange Declared.apply_countRange
    exact (hrange _ _).trans Option.or_none
  · intro name
    have hvalue := Declared.foldl_apply (fun declared => declared.attributes.find? name)
      (Declared.apply_attributes name)
    exact (hvalue _ _).trans Option.or_none

theorem read_written_order :
    ∃ message : Message,
      read { strict := true }
          "order#en[m, tone:plain & -1..infinity, F & tone-very formal] = \"a\n\\\"b\\\" # =\"" =
        .ok ⟨[message], []⟩ ∧
      message.name = "order" ∧
      message.language = some "en" ∧
      message.gender = some .female ∧
      message.countRange = some ⟨-1, Int64.maxValue⟩ ∧
      message.attributes.find? "tone" = some "very formal" ∧
      message.template.source = "a\n\"b\" # =" := by
  have hsource : Key.Written.order.text ++ " = " ++ Quoted.write '"' "a\n\"b\" # =" =
      "order#en[m, tone:plain & -1..infinity, F & tone-very formal] = \"a\n\\\"b\\\" # =\"" := by
    decide +kernel
  have hreturn : '\r' ∉ "a\n\"b\" # =".toList := by decide
  have hcontent : ¬['\r', '\n'] <:+: "a\n\"b\" # =".toList :=
    fun hpair => hreturn (hpair.subset List.mem_cons_self)
  have hquote : '"' = '\'' ∨ '"' = '"' := .inr rfl
  obtain ⟨message, hread, hname, hlanguage, hgender, hrange, hvalue, htemplate⟩ :=
    read_written { strict := true } Key.Written.isReadable_order hquote hcontent
  rw [hsource] at hread
  refine ⟨message, hread, hname, hlanguage, hgender, hrange, hvalue "tone", ?_⟩
  rw [htemplate]

end Source

end Phrasebook
