import Phrasebook.Proofs.CoveredNames
import Phrasebook.Proofs.ValueText
import Phrasebook.Proofs.WholeNumbers

/-! Languages in order of preference. The places of a list are ascending weights, so the languages are
tried as they stand (`basic_ranked`): the first one that covers any of the tags chooses alone. The
default languages are tried like ones that stand behind the wanted ones (`choose_ranked`), and if a
wanted one covers a candidate, they do not count (`earlier_languages_first`). -/

namespace Phrasebook

namespace Language

/-- The language is the first in the list that covers any of the tags. -/
def IsFirstCovering (languages tags : List String) (language : String) : Prop :=
  ∃ before after, languages = before ++ language :: after ∧
    (∀ earlier ∈ before, ∀ tag ∈ tags, ¬(Range.ofTag earlier).Covers tag) ∧
    ∃ tag ∈ tags, (Range.ofTag language).Covers tag

theorem Range.pairwise_ranked (languages : List String) :
    (ranked languages).Pairwise fun a b => le a b = true := by
  rw [List.pairwise_iff_getElem]
  intro i j hi hj hlt
  simp only [ranked, List.getElem_mapIdx, le, decide_eq_true_eq]
  exact Double.rank_ofInt_mono (Nat.le_of_lt hlt)

namespace Resolution

/-- A list in order of preference is searched language by language, in its order. -/
theorem basic_ranked (weight : Double) (languages tags : List String) :
    basic (Range.ranked languages) tags =
      languages.findSome? fun language => basic [⟨language, weight⟩] tags := by
  have hsearch : (fun entry : String × Nat =>
      search tags ⟨entry.1, Double.ofInt entry.2⟩) =
        (fun language => basic [⟨language, weight⟩] tags) ∘ Prod.fst := by
    funext ⟨language, place⟩
    rw [Function.comp_apply, basic_singleton]
    rfl
  -- Sorting by weight leaves the list as it is.
  rw [basic_eq, List.mergeSort_of_pairwise (Range.pairwise_ranked languages), Range.ranked,
    List.mapIdx_eq_zipIdx_map, List.findSome?_map]
  calc languages.zipIdx.findSome? _
      = languages.zipIdx.findSome?
          ((fun language => basic [⟨language, weight⟩] tags) ∘ Prod.fst) := by
        rw [← hsearch]
        rfl
    _ = _ := by rw [← List.findSome?_map, List.zipIdx_map_fst]

theorem basic_ranked_eq_some_iff {languages tags : List String} {place : Nat} :
    basic (Range.ranked languages) tags = some place ↔
      ∃ language, IsFirstCovering languages tags language ∧
        basic [Range.ofTag language] tags = some place := by
  rw [basic_ranked .one, List.findSome?_eq_some_iff]
  constructor
  · rintro ⟨before, language, after, hlanguages, hplace, hbefore⟩
    obtain ⟨tag, htag, hcovers⟩ := exists_covers_of_basic hplace
    refine ⟨language, ⟨before, after, hlanguages, ?_, tag, List.mem_of_getElem? htag, hcovers⟩,
      hplace⟩
    intro earlier hearlier
    exact basic_singleton_eq_none_iff.1 (hbefore earlier hearlier)
  · rintro ⟨language, ⟨before, after, hlanguages, hbefore, -⟩, hplace⟩
    refine ⟨before, language, after, hlanguages, hplace, ?_⟩
    intro earlier hearlier
    exact basic_singleton_eq_none_iff.2 (hbefore earlier hearlier)

/-- The first language that covers any of the tags chooses as it would alone. -/
theorem exists_place_of_isFirstCovering {languages tags : List String} {language : String}
    (h : IsFirstCovering languages tags language) :
    ∃ place tag, basic [Range.ofTag language] tags = some place ∧ tags[place]? = some tag ∧
      (Range.ofTag language).Covers tag ∧ basic (Range.ranked languages) tags = some place := by
  have hcovers : basic [Range.ofTag language] tags ≠ none := by
    obtain ⟨before, after, -, -, tag, htag, hcovers⟩ := h
    exact fun hnone => basic_singleton_eq_none_iff.1 hnone tag htag hcovers
  obtain ⟨place, hplace⟩ := Option.ne_none_iff_exists'.1 hcovers
  obtain ⟨tag, htag, hcovers⟩ := exists_covers_of_basic hplace
  exact ⟨place, tag, hplace, htag, hcovers, basic_ranked_eq_some_iff.2 ⟨language, h, hplace⟩⟩

theorem exists_isFirstCovering {languages tags : List String}
    (h : ∃ language ∈ languages, ∃ tag ∈ tags, (Range.ofTag language).Covers tag) :
    ∃ language, IsFirstCovering languages tags language := by
  obtain ⟨language, hmem, tag, htag, hcovers⟩ := h
  have hsome : basic (Range.ranked languages) tags ≠ none := by
    rw [basic_ranked .one, Ne, List.findSome?_eq_none_iff]
    intro hnone
    exact basic_singleton_eq_none_iff.1 (hnone language hmem) tag htag hcovers
  obtain ⟨place, hplace⟩ := Option.ne_none_iff_exists'.1 hsome
  obtain ⟨first, hfirst, -⟩ := basic_ranked_eq_some_iff.1 hplace
  exact ⟨first, hfirst⟩

theorem choose_ranked (wanted defaults tags : List String) :
    choose basic (Range.ranked wanted) (Range.ranked defaults) tags =
      (basic (Range.ranked (wanted ++ defaults)) tags).bind fun place => tags[place]? := by
  rw [choose, basic_ranked .one wanted, basic_ranked .one defaults, basic_ranked .one,
    List.findSome?_append]

end Resolution

end Language

open Phrasebook.Language

theorem Store.candidates_addAll_new (defaultLanguages : List Range) (messages : List Message)
    (request : Request) :
    ((Store.new defaultLanguages).addAll messages).candidates request =
      (variantsLeft (messages.filter (·.name = request.name))).filter (·.isCandidate request) := by
  have h := (Holds.new defaultLanguages).addAll messages
  rw [candidates, h.variants, List.nil_append]

namespace CommandLine

/-! ### Stores that are read from files -/

section

variable {reader : File.Reader} {file : String} {defaultLanguages : List Range} {store : Store}

/-- A store that is read from a file holds what a lenient reading gives. -/
theorem exists_reading_of_readStore (h : readStore reader defaultLanguages file = .ok store) :
    ∃ reading, readMessages reader false file = .ok reading ∧
      store = (Store.new defaultLanguages).addAll reading.messages := by
  rw [readStore] at h
  cases hreading : readMessages reader false file with
  | error error =>
      rw [hreading] at h
      cases h
  | ok reading =>
      rw [hreading] at h
      exact ⟨reading, rfl, (Except.ok.inj h).symm⟩

theorem settings_of_readStore (h : readStore reader defaultLanguages file = .ok store) :
    store.resolution = Resolution.basic ∧ store.defaultLanguages = defaultLanguages ∧
      store.engines = Engines.standard := by
  obtain ⟨reading, -, rfl⟩ := exists_reading_of_readStore h
  obtain ⟨hresolution, hdefaults⟩ :=
    Store.settings_addAll (Store.new defaultLanguages) reading.messages
  exact ⟨hresolution, hdefaults, Store.engines_addAll _ _⟩

/-- With other default languages a store is read from the same files, and has the same candidates. -/
theorem readStore_other (h : readStore reader defaultLanguages file = .ok store)
    (others : List Range) :
    ∃ other, readStore reader others file = .ok other ∧
      ∀ request, other.candidates request = store.candidates request := by
  obtain ⟨reading, hreading, rfl⟩ := exists_reading_of_readStore h
  refine ⟨(Store.new others).addAll reading.messages, by rw [readStore, hreading]; rfl, ?_⟩
  intro request
  rw [Store.candidates_addAll_new, Store.candidates_addAll_new]

end

namespace TranslateOptions

/-- The languages of the messages that may answer. -/
def candidateTags (options : TranslateOptions) (store : Store) : List String :=
  tagsSeen (store.candidates options.request)

variable {options : TranslateOptions} {reader : File.Reader} {store : Store}

/-- The answer is in the language that the first of all languages chooses; the default languages are
like wanted ones that stand behind the others. -/
theorem exists_answer_of_isFirstCovering
    (hstore : readStore reader (Range.ranked options.defaultLanguages) options.file = .ok store)
    {language : String} (h : IsFirstCovering (options.languages ++ options.defaultLanguages)
      (options.candidateTags store) language) :
    ∃ message place tag, store.resolve options.request = some message ∧
      Resolution.basic [Range.ofTag language] (options.candidateTags store) = some place ∧
      (options.candidateTags store)[place]? = some tag ∧ (Range.ofTag language).Covers tag ∧
      message.language = some tag := by
  obtain ⟨hresolution, hdefaults, -⟩ := settings_of_readStore hstore
  obtain ⟨place, tag, hplace, htag, hcovers, hranked⟩ :=
    Resolution.exists_place_of_isFirstCovering h
  obtain ⟨candidate, hcandidate, -⟩ := mem_tagsSeen.1 (List.mem_of_getElem? htag)
  obtain ⟨message, hmessage, hlanguage⟩ := Store.exists_resolve (List.ne_nil_of_mem hcandidate)
  refine ⟨message, place, tag, hmessage, hplace, htag, hcovers, ?_⟩
  have hchoose : Resolution.basic.choose options.request.languages
      (Range.ranked options.defaultLanguages) (options.candidateTags store) = some tag := by
    rw [request, Resolution.choose_ranked, hranked, Option.bind_some, htag]
  rw [hlanguage, hresolution, hdefaults, answerLanguage_eq]
  exact congrArg (Option.elim · _ some) hchoose

/-- The program prints the message that is resolved, if it can be rendered. -/
theorem run_of_resolve
    (hstore : readStore reader (Range.ranked options.defaultLanguages) options.file = .ok store)
    {message : Message} (hmessage : store.resolve options.request = some message)
    {segments : List Segment} (hsegments : store.render message options.values = .ok segments) :
    options.run reader = .success (options.written message (Segment.join segments)) := by
  rw [run, hstore]
  simp only [answer, hmessage, hsegments]
  rfl

/-- An answer is printed in the same way whatever the default languages are. -/
theorem answer_congr {other : Store} {message : Message}
    (hmessage : store.resolve options.request = some message)
    (hother : other.resolve options.request = some message)
    (hengines : other.engines = store.engines) (defaultLanguages : List String) :
    { options with defaultLanguages }.answer other = options.answer store := by
  have hrequest : { options with defaultLanguages }.request = options.request := rfl
  rw [answer, answer, hrequest, hother, hmessage]
  simp only [Store.render, hengines]
  rfl

/-- If a wanted language covers a candidate, the default languages do not count. -/
theorem run_other_defaults
    (hstore : readStore reader (Range.ranked options.defaultLanguages) options.file = .ok store)
    (h : ∃ language ∈ options.languages, ∃ tag ∈ options.candidateTags store,
      (Range.ofTag language).Covers tag) (defaultLanguages : List String) :
    { options with defaultLanguages }.run reader = options.run reader := by
  obtain ⟨other, hother, hcandidates⟩ := readStore_other hstore (Range.ranked defaultLanguages)
  obtain ⟨hresolution, -, hengines⟩ := settings_of_readStore hstore
  obtain ⟨hresolution', -, hengines'⟩ := settings_of_readStore hother
  obtain ⟨language, hfirst⟩ := Resolution.exists_isFirstCovering h
  obtain ⟨place, tag, -, htag, -, hranked⟩ := Resolution.exists_place_of_isFirstCovering hfirst
  obtain ⟨candidate, hcandidate, -⟩ := mem_tagsSeen.1 (List.mem_of_getElem? htag)
  obtain ⟨message, hmessage, -⟩ := Store.exists_resolve (List.ne_nil_of_mem hcandidate)
  have hlanguage (defaults : List Range) : answerLanguage Resolution.basic
      options.request.languages defaults (store.candidates options.request) = some tag :=
    answerLanguage_of_place hranked htag defaults
  have hsame : other.resolve options.request = some message := by
    rw [Store.resolve_eq, hresolution', hcandidates, hlanguage]
    rw [Store.resolve_eq, hresolution, hlanguage] at hmessage
    exact hmessage
  have hrun : { options with defaultLanguages }.run reader =
      { options with defaultLanguages }.answer other := by
    rw [run, show readStore reader _ _ = .ok other from hother]
  rw [hrun, answer_congr hmessage hsame (hengines'.trans hengines.symm), run, hstore]

/-- A list of languages is searched like its languages one by one, whatever weight these have. So the
answer to a request from the command line is in the tag chosen by the first language, a default one
only after all others, that covers a candidate, be it by a truncation; and default languages do not
count at all if one of the others covers a candidate. -/
theorem earlier_languages_first (weight : Double) :
    (∀ languages tags : List String, Resolution.basic (Range.ranked languages) tags =
      languages.findSome? fun language => Resolution.basic [⟨language, weight⟩] tags) ∧
    ∀ (options : TranslateOptions) (reader : File.Reader) (store : Store),
      readStore reader (Range.ranked options.defaultLanguages) options.file = .ok store →
      (∀ language, IsFirstCovering (options.languages ++ options.defaultLanguages)
          (options.candidateTags store) language →
        ∃ message place tag, store.resolve options.request = some message ∧
          Resolution.basic [Range.ofTag language] (options.candidateTags store) = some place ∧
          (options.candidateTags store)[place]? = some tag ∧
          (Range.ofTag language).Covers tag ∧ message.language = some tag ∧
          ∀ segments, store.render message options.values = .ok segments →
            options.run reader = .success (options.written message (Segment.join segments))) ∧
      ((∃ language ∈ options.languages, ∃ tag ∈ options.candidateTags store,
          (Range.ofTag language).Covers tag) →
        ∀ defaultLanguages : List String,
          { options with defaultLanguages }.run reader = options.run reader) := by
  refine ⟨Resolution.basic_ranked weight, fun options reader store hstore => ⟨?_, ?_⟩⟩
  · intro language h
    obtain ⟨message, place, tag, hmessage, hplace, htag, hcovers, hlanguage⟩ :=
      exists_answer_of_isFirstCovering hstore h
    exact ⟨message, place, tag, hmessage, hplace, htag, hcovers, hlanguage,
      fun segments => run_of_resolve hstore hmessage⟩
  · exact run_other_defaults hstore

/-- A range that fits only when it is cut short is before one that fits as it is; a repeated one, an
empty one, a star and one that fits nothing are passed over. -/
theorem earlier_languages_first_truncated :
    let options : TranslateOptions :=
      { file := "m.props", name := "k", languages := ["*", "", "de", "de", "en-GB", "fr"],
        defaultLanguages := ["fr"], count := none, gender := none, attributes := [],
        parameters := [], json := false }
    let reader : File.Reader := fun _ => .ok "k#fr = F\nk#en = E\nk = N"
    ∃ (store : Store) (message : Message),
      readStore reader (Range.ranked options.defaultLanguages) options.file = .ok store ∧
      options.candidateTags store = ["fr", "en"] ∧
      store.resolve options.request = some message ∧ message.language = some "en" ∧
      ∀ defaultLanguages : List String,
        { options with defaultLanguages }.run reader = options.run reader := by
  intro options reader
  obtain ⟨reading, hreading⟩ : ∃ reading, readMessages reader false "m.props" = .ok reading := by
    have hread : (readMessages reader false "m.props").toOption.isSome = true := by decide +kernel
    cases h : readMessages reader false "m.props" with
    | error error =>
        rw [h] at hread
        cases hread
    | ok reading => exact ⟨reading, rfl⟩
  have hstore : readStore reader (Range.ranked options.defaultLanguages) options.file =
      .ok ((Store.new (Range.ranked options.defaultLanguages)).addAll reading.messages) := by
    rw [readStore, show readMessages reader false options.file = .ok reading from hreading]
    rfl
  have htags : options.candidateTags ((Store.new (Range.ranked options.defaultLanguages)).addAll
      reading.messages) = ["fr", "en"] := by
    have hleft : (readMessages reader false "m.props").toOption.map (fun reading =>
        tagsSeen ((variantsLeft (reading.messages.filter (·.name = "k"))).filter
          fun message => message.isCandidate options.request)) = some ["fr", "en"] := by
      decide +kernel
    rw [hreading] at hleft
    rw [candidateTags, Store.candidates_addAll_new]
    exact Option.some.inj hleft
  obtain ⟨hfirst, hdefaults⟩ := (earlier_languages_first .one).2 options reader _ hstore
  have hbritish : (Range.ofTag "en-GB").Covers "en" :=
    Resolution.isSome_basic_singleton_iff.1 (by decide +kernel)
  have hbritishFirst : IsFirstCovering (options.languages ++ options.defaultLanguages)
      ["fr", "en"] "en-GB" := by
    refine ⟨["*", "", "de", "de"], ["fr", "fr"], rfl, ?_, "en", by simp, hbritish⟩
    intro earlier hearlier
    apply Resolution.basic_singleton_eq_none_iff.1
    revert earlier hearlier
    decide +kernel
  rw [htags] at hfirst hdefaults
  obtain ⟨message, place, tag, hmessage, hplace, htag, -, hlanguage, -⟩ :=
    hfirst "en-GB" hbritishFirst
  have hsecond : Resolution.basic [Range.ofTag "en-GB"] ["fr", "en"] = some 1 := by decide +kernel
  obtain rfl := Option.some.inj (hsecond.symm.trans hplace)
  obtain rfl := Option.some.inj htag
  exact ⟨_, message, hstore, htags, hmessage, hlanguage,
    hdefaults ⟨"en-GB", by simp [options], "en", by simp, hbritish⟩⟩

end TranslateOptions

end CommandLine

end Phrasebook
