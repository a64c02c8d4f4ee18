import Phrasebook.CommandLine.Coverage
import Phrasebook.Proofs.LanguageChoice
import Phrasebook.Proofs.StoreAnswer

/-! Names that are covered in a language. A range alone chooses some tag exactly if it covers one of
those available (`Resolution.basic_singleton_eq_none_iff`), so it does not matter which of the other
variants of a message are candidates. Hence a name counts as covered exactly if a request in the
language alone can be answered in a language that it chooses (`Store.missingNames_run`). -/

namespace Phrasebook

namespace Language

/-- The range or one of its truncations accepts the tag. -/
def Range.Covers (range : Range) (tag : String) : Prop :=
  ∃ steps, range.Accepts steps tag

namespace Resolution

theorem basic_singleton (range : Range) (tags : List String) :
    basic [range] tags = search tags range := by
  rw [basic_eq, List.mergeSort_singleton, List.findSome?_singleton]

theorem basic_singleton_eq_none_iff {range : Range} {tags : List String} :
    basic [range] tags = none ↔ ∀ tag ∈ tags, ¬range.Covers tag := by
  rw [basic_singleton, search_eq_none_iff]
  constructor
  · rintro h tag htag ⟨steps, haccepts⟩
    exact h steps tag htag haccepts
  · intro h steps tag htag haccepts
    exact h tag htag ⟨steps, haccepts⟩

theorem isSome_basic_singleton_iff {range : Range} {tag : String} :
    (basic [range] [tag]).isSome = true ↔ range.Covers tag := by
  rw [Option.isSome_iff_ne_none, Ne, basic_singleton_eq_none_iff]
  simp

/-- The place that is chosen holds a tag that the range covers. -/
theorem exists_covers_of_basic {range : Range} {tags : List String} {place : Nat}
    (h : basic [range] tags = some place) :
    ∃ tag, tags[place]? = some tag ∧ range.Covers tag := by
  rw [basic_singleton] at h
  obtain ⟨steps, tag, htag, haccepts, -⟩ := exists_first_of_search h
  exact ⟨tag, htag, steps, haccepts⟩

end Resolution

end Language

open Phrasebook.Language

/-! ### Requests for one variant -/

/-- Asks for a variant by its gender; a count or an attribute might only exclude it. -/
def Message.request (message : Message) (languages : List Range) : Request :=
  ⟨message.name, languages, none, message.gender, .empty⟩

theorem Message.isCandidate_request (message : Message) (languages : List Range) :
    message.isCandidate (message.request languages) = true := by
  have hgender : message.fitsGender (message.request languages) = true := by
    rw [fitsGender, request, beq_self_eq_true, Bool.or_true]
  have hcount : message.fitsCount (message.request languages) = true := by
    rw [fitsCount, request]
    cases message.countRange <;> rfl
  have hattributes : message.fitsAttributes (message.request languages) = true := by
    rw [fitsAttributes, List.all_eq_true]
    rintro ⟨name, value⟩ -
    rfl
  rw [isCandidate, hgender, hcount, hattributes]
  rfl

namespace Store

variable {store : Store}

/-- If one candidate is in a language that the only range covers, so is the answer. -/
theorem exists_covered_answer (hbasic : store.resolution = Resolution.basic) {request : Request}
    {range : Range} (hrange : request.languages = [range]) {message : Message}
    (hmem : message ∈ store.candidates request) {tag : String}
    (htag : message.language = some tag) (hcovers : range.Covers tag) :
    ∃ answer chosen, store.resolve request = some answer ∧ answer.language = some chosen ∧
      range.Covers chosen := by
  have hseen : tag ∈ tagsSeen (store.candidates request) := mem_tagsSeen.2 ⟨message, hmem, htag⟩
  obtain ⟨place, hplace⟩ :
      ∃ place, Resolution.basic [range] (tagsSeen (store.candidates request)) = some place := by
    rw [← Option.ne_none_iff_exists', Ne, Resolution.basic_singleton_eq_none_iff]
    exact fun hnone => hnone tag hseen hcovers
  obtain ⟨chosen, hchosen, hcovers'⟩ := Resolution.exists_covers_of_basic hplace
  obtain ⟨answer, hanswer, hlanguage⟩ := exists_resolve (List.ne_nil_of_mem hmem)
  rw [hbasic, hrange, answerLanguage_of_place hplace hchosen] at hlanguage
  exact ⟨answer, chosen, hanswer, hlanguage, hcovers'⟩

/-! ### Coverage -/

theorem mem_missingNames_iff {language name : String} (hname : name ∈ store.names) :
    name ∈ store.missingNames language ↔ ∀ message ∈ store.variants name, ∀ tag : String,
      message.language = some tag → ¬(Range.ofTag language).Covers tag := by
  simp only [missingNames, List.mem_filter, hname, true_and, Option.isNone_iff_eq_none,
    Resolution.basic_singleton_eq_none_iff, List.mem_filterMap, forall_exists_index, and_imp]
  constructor
  · intro h message hmem tag htag
    exact h tag message hmem htag
  · intro h tag message hmem htag
    exact h message hmem tag htag

/-- A request for the name in this language alone that is answered in a language it covers. -/
theorem not_mem_missingNames_iff {history : List Message} (h : store.Holds history)
    (hbasic : store.resolution = Resolution.basic) {language name : String}
    (hname : name ∈ store.names) (weight : Double) :
    name ∉ store.missingNames language ↔
      ∃ (request : Request) (answer : Message) (tag : String),
        request.name = name ∧ request.languages = [⟨language, weight⟩] ∧
        store.resolve request = some answer ∧ answer.language = some tag ∧
        (Range.ofTag language).Covers tag := by
  rw [mem_missingNames_iff hname]
  constructor
  · intro hcovered
    push Not at hcovered
    obtain ⟨message, hmem, tag, htag, hcovers⟩ := hcovered
    obtain ⟨rfl, -⟩ := h.mem_variants.1 hmem
    have hcandidate : message ∈ store.candidates (message.request [⟨language, weight⟩]) :=
      List.mem_filter.2 ⟨hmem, message.isCandidate_request _⟩
    -- The weight of a range does not matter to what the range covers.
    have hrange : (⟨language, weight⟩ : Range).Covers tag := hcovers
    obtain ⟨answer, chosen, hanswer, hchosen, hcovers'⟩ :=
      exists_covered_answer hbasic rfl hcandidate htag hrange
    exact ⟨_, answer, chosen, rfl, rfl, hanswer, hchosen, hcovers'⟩
  · rintro ⟨request, answer, tag, rfl, -, hanswer, htag, hcovers⟩ hnone
    have hmem := mem_candidates_of_resolve hanswer
    exact hnone answer (List.mem_of_mem_filter hmem) tag htag hcovers

end Store

namespace CommandLine.LanguageCoverage

theorem translated_add_missing (store : Store) (language : String) :
    (ofStore store language).missing.length ≤ (ofStore store language).total ∧
      (ofStore store language).translated + (ofStore store language).missing.length =
        (ofStore store language).total := by
  have hle : (store.missingNames language).length ≤ store.names.length :=
    List.length_filter_le _ _
  exact ⟨hle, Nat.sub_add_cancel hle⟩

end CommandLine.LanguageCoverage

/-- Whatever is done with a store that resolves languages in the basic way, exactly those names are
not missing in a language for which a request in that language alone has an answer in a language
that it chooses. Missing names are listed once, in the order of the names, and together with the
translated ones they are all names. -/
theorem Store.missingNames_run (defaultLanguages : List Range) (operations : List Operation)
    (hbasic : ((Store.new defaultLanguages).run operations).resolution = Resolution.basic)
    (language : String) :
    let store := (Store.new defaultLanguages).run operations
    let coverage := CommandLine.LanguageCoverage.ofStore store language
    (∀ (weight : Double), ∀ name ∈ store.names, name ∉ store.missingNames language ↔
      ∃ (request : Request) (answer : Message) (tag : String),
        request.name = name ∧ request.languages = [⟨language, weight⟩] ∧
        store.resolve request = some answer ∧ answer.language = some tag ∧
        (Resolution.basic [Range.ofTag language] [tag]).isSome = true) ∧
    (store.missingNames language).Sublist store.names ∧ (store.missingNames language).Nodup ∧
    coverage.missing = store.missingNames language ∧ coverage.total = store.names.length ∧
    coverage.missing.length ≤ coverage.total ∧
    coverage.translated + coverage.missing.length = coverage.total := by
  intro store coverage
  have h : store.Holds (history operations) := holds_run defaultLanguages operations
  have hsublist : (store.missingNames language).Sublist store.names := List.filter_sublist
  have hdistinct : store.names.Nodup := by
    rw [h.names]
    exact nodup_firstSeen Message.name (history operations)
  refine ⟨?_, hsublist, hdistinct.sublist hsublist, rfl, rfl,
    CommandLine.LanguageCoverage.translated_add_missing store language⟩
  intro weight name hname
  simp only [Resolution.isSome_basic_singleton_iff]
  exact not_mem_missingNames_iff h hbasic hname weight

/-- The first name has a variant in French, found by its gender only; the other name has none. -/
theorem Store.missingNames_run_french :
    let store := (Store.new []).run
      [.loadSource {} "hello#en = Hello\nhello#fr[F] = Salut\nbye#en = Bye",
        .setResolution Resolution.basic]
    store.names = ["hello", "bye"] ∧ store.missingNames "fr-CA" = ["bye"] ∧
    ∃ (request : Request) (answer : Message) (tag : String),
      request.name = "hello" ∧ request.languages = [Range.ofTag "fr-CA"] ∧
      store.resolve request = some answer ∧ answer.language = some tag ∧
      (Resolution.basic [Range.ofTag "fr-CA"] [tag]).isSome = true := by
  intro store
  have h : store.Holds _ := holds_run []
    [.loadSource {} "hello#en = Hello\nhello#fr[F] = Salut\nbye#en = Bye",
      .setResolution Resolution.basic]
  have hnames : store.names = ["hello", "bye"] := by
    rw [h.names]
    decide +kernel
  have hmissing : store.missingNames "fr-CA" = ["bye"] := by
    rw [missingNames, hnames]
    simp only [h.variants]
    decide +kernel
  refine ⟨hnames, hmissing, ?_⟩
  obtain ⟨hcovered, -⟩ := missingNames_run []
    [.loadSource {} "hello#en = Hello\nhello#fr[F] = Salut\nbye#en = Bye",
      .setResolution Resolution.basic] rfl "fr-CA"
  have hname : "hello" ∈ store.names := by
    rw [hnames]
    decide
  refine (hcovered Double.one "hello" hname).1 ?_
  show "hello" ∉ store.missingNames "fr-CA"
  rw [hmissing]
  decide

end Phrasebook
