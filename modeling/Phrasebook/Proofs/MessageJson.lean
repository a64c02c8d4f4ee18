import Phrasebook.Codec.Message
import Phrasebook.CommandLine.Listing
import Phrasebook.Proofs.CountText
import Phrasebook.Proofs.DictionaryEntries
import Phrasebook.Proofs.JsonText

/-! Messages in JSON. Each part of a message is written so that it is read as itself, and so are the
messages of a document (`CommandLine.readDocument?_messageDocument`). The one exception is a count
range whose only count stands for infinity. -/

namespace Phrasebook

open Json (Raw Field)

/-- The text of the value is read as this. -/
def Json.Means {α : Type} (json : Json) (read? : Raw → Option α) (value : α) : Prop :=
  ∃ raw, json.IsReadAs raw ∧ read? raw = some value

namespace Json.Means

variable {α : Type} {write : α → Json} {read? : Raw → Option α}

theorem string (s : String) : (Json.string s).Means Raw.string? s :=
  ⟨_, .string s, rfl⟩

/-- What is absent is written as null, so no value may be read from null. -/
theorem nullable {value : Option α} (hnull : read? .null = none)
    (h : ∀ a, value = some a → (write a).Means read? a) :
    (ofOption write value).Means (Raw.nullable? read?) value := by
  cases value with
  | none => exact ⟨_, .null, rfl⟩
  | some a =>
      obtain ⟨raw, hraw, hread⟩ := h a rfl
      have hne : raw ≠ .null := by
        rintro rfl
        exact absurd (hnull.symm.trans hread) (Option.some_ne_none a).symm
      refine ⟨raw, hraw, ?_⟩
      rw [Raw.nullable?, hread]
      · rfl
      · exact hne

theorem mapM_map {β : Type} {l : List α} {put : α → β} {get? : β → Option α}
    (h : ∀ a ∈ l, get? (put a) = some a) : (l.map put).mapM get? = some l := by
  induction l with
  | nil => rfl
  | cons a l ih =>
      obtain ⟨ha, hl⟩ := List.forall_mem_cons.1 h
      rw [List.map_cons, List.mapM_cons, ha, ih hl]
      rfl

theorem list {l : List α} (h : ∀ a ∈ l, (write a).Means read? a) :
    (Json.array (l.map write)).Means (Raw.list? read?) l := by
  have : Nonempty Raw := ⟨.null⟩
  choose! raw hraw hread using h
  exact ⟨_, .array hraw, mapM_map hread⟩

theorem dictionary (d : Dictionary α) (h : ∀ a, (write a).Means read? a) :
    (ofDictionary write d).Means (Raw.dictionary? read?) d := by
  choose raw hraw hread using h
  refine ⟨_, IsReadAs.object fun entry _ => hraw entry.2, ?_⟩
  have hentry : ∀ entry ∈ d.entries,
      (do
        let key ← some entry.1
        let value ← read? (raw entry.2)
        some (key, value)) = some entry := by
    intro entry _
    rw [hread]
    rfl
  rw [Raw.dictionary?, mapM_map hentry]
  exact congrArg some (Dictionary.ofList_entries d)

end Json.Means

theorem Gender.toJson_means (gender : Gender) : gender.toJson.Means ofJson? gender := by
  refine ⟨_, .string gender.name, ?_⟩
  cases gender <;> decide

theorem CountRange.toJson_means {range : CountRange} (h : ¬range.IsInfinity) :
    range.toJson.Means ofJson? range := by
  refine ⟨_, .string range.text, ?_⟩
  rw [ofJson?, Raw.string?, Option.bind_eq_bind, Option.bind_some, read_text,
    parse?_text_of_not_isInfinity h]
  rfl

theorem Template.toJson_means (template : Template) : template.toJson.Means ofJson? template := by
  have hread := Json.IsReadAs.record
    [("id", .string template.id, .string (some template.id)),
      ("source", .string template.source, .string (some template.source)),
      ("engine_id", .string template.engineId, .string (some template.engineId))]
    (by simp [Json.IsReadAs.string])
  exact ⟨_, hread, rfl⟩

namespace Message

theorem toJson_means {message : Message} (h : ∀ range ∈ message.countRange, ¬range.IsInfinity) :
    message.toJson.Means ofJson? message := by
  obtain ⟨language, hlanguage, hlanguageRead⟩ :=
    Json.Means.nullable rfl fun tag (_ : message.language = some tag) => .string tag
  obtain ⟨counts, hcounts, hcountsRead⟩ :=
    Json.Means.nullable rfl fun range hrange => CountRange.toJson_means (h range hrange)
  obtain ⟨gender, hgender, hgenderRead⟩ :=
    Json.Means.nullable rfl fun gender (_ : message.gender = some gender) => gender.toJson_means
  obtain ⟨attributes, hattributes, hattributesRead⟩ :=
    Json.Means.dictionary message.attributes Json.Means.string
  obtain ⟨template, htemplate, htemplateRead⟩ := message.template.toJson_means
  have hread := Json.IsReadAs.record
    [("name", .string message.name, .string (some message.name)),
      ("language", Json.ofOption .string message.language, language),
      ("count_range", Json.ofOption CountRange.toJson message.countRange, counts),
      ("gender", Json.ofOption Gender.toJson message.gender, gender),
      ("attributes", Json.ofDictionary .string message.attributes, attributes),
      ("template", message.template.toJson, template)]
    (by simp [Json.IsReadAs.string, hlanguage, hcounts, hgender, hattributes, htemplate])
  refine ⟨_, hread, ?_⟩
  show (do
    let language ← language.nullable? Raw.string?
    let counts ← counts.nullable? CountRange.ofJson?
    let gender ← gender.nullable? Gender.ofJson?
    let attributes ← attributes.dictionary? Raw.string?
    let template ← Template.ofJson? template
    some (Message.mk message.name language counts gender attributes template)) = some message
  rw [hlanguageRead, hcountsRead, hgenderRead, hattributesRead, htemplateRead]
  rfl

end Message

namespace CommandLine

/-- The messages that a document is an array of. -/
def readDocument? (text : String) : Option (List Message) :=
  (Raw.parse? text).bind (Raw.list? Message.ofJson?)

/-- The messages of a document are read as they are, in their order. -/
theorem readDocument?_messageDocument {messages : List Message}
    (h : ∀ message ∈ messages, ∀ range ∈ message.countRange, ¬range.IsInfinity) :
    readDocument? (document (messageDocument messages)) = some messages := by
  have hmeans : (messageDocument messages).Means (Raw.list? Message.ofJson?) messages :=
    Json.Means.list fun message hmem => Message.toJson_means (h message hmem)
  obtain ⟨raw, hraw, hread⟩ := hmeans
  rw [readDocument?, hraw.parse?_document, Option.bind_some, hread]

end CommandLine

end Phrasebook
