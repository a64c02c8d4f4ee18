import Phrasebook.Proofs.CoveredNames

/-! Messages that do not matter to a request. One more message changes the candidates of a request
only if it is one itself (`Store.Holds.candidates_add`), and it changes only the group of its own
language. A new tag comes last among the tags that may be chosen, so it is chosen only if a range
covers it (`Resolution.basic_concat`). Main statement: `Store.resolve_add_unrelated`. -/

namespace Phrasebook

namespace Language

theorem Attempt.succeeds_concat_iff {ranges : List Range} {tag : String}
    (h : ∀ range ∈ ranges, ¬range.Covers tag) (tags : List String) (attempt : Attempt) :
    attempt.Succeeds ranges (tags ++ [tag]) ↔ attempt.Succeeds ranges tags := by
  constructor
  · rintro ⟨range, other, hrange, hother, haccepts⟩
    refine ⟨range, other, hrange, ?_, haccepts⟩
    rcases Nat.lt_or_ge attempt.tag tags.length with hlt | hge
    · rwa [List.getElem?_append_left hlt] at hother
    · rw [List.getElem?_append_right hge] at hother
      obtain rfl := List.mem_singleton.1 (List.mem_of_getElem? hother)
      exact absurd ⟨attempt.steps, haccepts⟩ (h range (List.mem_of_getElem? hrange))
  · rintro ⟨range, other, hrange, hother, haccepts⟩
    have hlt := (List.getElem?_eq_some_iff.1 hother).1
    exact ⟨range, other, hrange, (List.getElem?_append_left hlt).trans hother, haccepts⟩

/-- A tag that no range covers and that comes after the others is as good as none. -/
theorem Resolution.basic_concat {ranges : List Range} {tag : String}
    (h : ∀ range ∈ ranges, ¬range.Covers tag) (tags : List String) :
    basic ranges (tags ++ [tag]) = basic ranges tags := by
  apply Option.ext
  intro place
  rw [basic_eq_some_iff, basic_eq_some_iff]
  simp only [Attempt.IsFirst, Attempt.succeeds_concat_iff h tags]

theorem Resolution.exists_range_of_basic {ranges : List Range} {tags : List String} {place : Nat}
    (h : basic ranges tags = some place) :
    ∃ tag, tags[place]? = some tag ∧ ∃ range ∈ ranges, range.Covers tag := by
  obtain ⟨attempt, ⟨⟨range, tag, hrange, htag, haccepts⟩, -⟩, rfl⟩ := exists_isFirst_of_basic h
  exact ⟨tag, htag, range, List.mem_of_getElem? hrange, attempt.steps, haccepts⟩

end Language

open Phrasebook.Language

/-! ### One more message among others -/

namespace Bucket

/-- What is said of messages by their identities holds of a message exactly if it holds of the one
in whose place it is put. -/
theorem filter_place {p : Message → Bool}
    (hp : ∀ a b : Message, a.identity = b.identity → p a = p b) (message : Message)
    (messages : List Message) :
    (place message messages).filter p =
      if p message then place message (messages.filter p) else messages.filter p := by
  induction messages with
  | nil => cases h : p message <;> simp [place, h]
  | cons stored rest ih =>
      rw [place]
      by_cases hsame : stored.identity = message.identity
      · rw [if_pos hsame, List.filter_cons, List.filter_cons, hp stored message hsame]
        cases h : p message with
        | true => simp only [if_true, place, if_pos hsame]
        | false => simp
      · rw [if_neg hsame, List.filter_cons, List.filter_cons, ih]
        cases p stored with
        | true => cases p message <;> simp [place, hsame]
        | false => simp

/-- A replaced message has the language of the one that replaces it. -/
theorem map_language_place (message : Message) (messages : List Message) :
    (place message messages).map Message.language = messages.map Message.language ∨
      (place message messages).map Message.language =
        (messages ++ [message]).map Message.language := by
  induction messages with
  | nil => exact .inr rfl
  | cons stored rest ih =>
      rw [place]
      by_cases hsame : stored.identity = message.identity
      · have hlanguage : stored.language = message.language :=
          congrArg Message.Identity.language hsame
        rw [if_pos hsame, List.map_cons, List.map_cons, hlanguage]
        exact .inl rfl
      · rw [if_neg hsame]
        exact ih.imp (congrArg (stored.language :: ·)) (congrArg (stored.language :: ·))

end Bucket

theorem tagsSeen_congr {messages messages' : List Message}
    (h : messages.map Message.language = messages'.map Message.language) :
    tagsSeen messages = tagsSeen messages' := by
  rw [tagsSeen, firstSeen, h, tagsSeen, firstSeen]

/-- The tag of one more message comes last, if it is new. -/
theorem tagsSeen_concat (messages : List Message) (message : Message) :
    tagsSeen (messages ++ [message]) = tagsSeen messages ∨
      ∃ tag, message.language = some tag ∧
        tagsSeen (messages ++ [message]) = tagsSeen messages ++ [tag] := by
  by_cases hseen : message.language ∈ firstSeen Message.language messages
  · left
    rw [tagsSeen, firstSeen_concat_of_mem hseen, tagsSeen]
  · rw [tagsSeen, firstSeen_concat_of_not_mem hseen, List.filterMap_append, tagsSeen]
    cases message.language with
    | none => exact .inl (List.append_nil _)
    | some tag => exact .inr ⟨tag, rfl, rfl⟩

theorem tagsSeen_place (messages : List Message) (message : Message) :
    tagsSeen (Bucket.place message messages) = tagsSeen messages ∨
      ∃ tag, message.language = some tag ∧
        tagsSeen (Bucket.place message messages) = tagsSeen messages ++ [tag] := by
  rcases Bucket.map_language_place message messages with h | h
  · exact .inl (tagsSeen_congr h)
  · rw [tagsSeen_congr h]
    exact tagsSeen_concat messages message

/-- Who may be answered by a message depends on its identity alone. -/
theorem Message.isCandidate_congr {a b : Message} (h : a.identity = b.identity)
    (request : Request) : a.isCandidate request = b.isCandidate request := by
  obtain ⟨name, language, countRange, gender, attributes, template⟩ := a
  obtain ⟨name', language', countRange', gender', attributes', template'⟩ := b
  obtain ⟨rfl, rfl, rfl, rfl, rfl⟩ := Message.Identity.mk.inj h
  rfl

namespace Store

theorem Holds.variants_add {store : Store} {history : List Message} (h : store.Holds history)
    (message : Message) (name : String) :
    (store.add message).variants name =
      if message.name = name then Bucket.place message (store.variants name)
      else store.variants name := by
  rw [(h.add message).variants, h.variants, List.filter_append, List.filter_singleton]
  by_cases hname : message.name = name
  · rw [if_pos hname, decide_eq_true hname, cond_true, variantsLeft_concat]
  · rw [if_neg hname, decide_eq_false hname, cond_false, List.append_nil]

theorem Holds.candidates_add {store : Store} {history : List Message} (h : store.Holds history)
    (message : Message) (request : Request) :
    (store.add message).candidates request =
      if message.name = request.name ∧ message.isCandidate request = true then
        Bucket.place message (store.candidates request)
      else store.candidates request := by
  have hidentity : ∀ a b : Message, a.identity = b.identity →
      a.isCandidate request = b.isCandidate request :=
    fun _ _ hsame => Message.isCandidate_congr hsame request
  have hfilter := Bucket.filter_place hidentity message (store.variants request.name)
  rw [Store.candidates, h.variants_add, Store.candidates]
  by_cases hname : message.name = request.name
  · rw [if_pos hname, hfilter]
    by_cases hcandidate : message.isCandidate request = true
    · rw [if_pos hcandidate, if_pos ⟨hname, hcandidate⟩]
    · rw [if_neg hcandidate, if_neg fun hboth => hcandidate hboth.2]
  · rw [if_neg hname, if_neg fun hboth => hname hboth.1]

theorem resolve_add_of_candidates {store : Store} {message : Message} {request : Request}
    (h : (store.add message).candidates request = store.candidates request) :
    (store.add message).resolve request = store.resolve request := by
  rw [resolve_eq, resolve_eq, h, resolution_add, defaultLanguages_add]

end Store

/-! ### A candidate in a language that is not asked for -/

section

variable {wanted : List Range} {messages : List Message} {message : Message}

/-- A tag that the wanted ranges choose is chosen again if one more message is in a language that
none of them covers. -/
theorem answerLanguage_place (defaults : List Range)
    (hchosen : (Resolution.basic wanted (tagsSeen messages)).isSome = true)
    (huncovered : ∀ tag, message.language = some tag → ∀ range ∈ wanted, ¬range.Covers tag) :
    ∃ tag, (∃ range ∈ wanted, range.Covers tag) ∧
      answerLanguage Resolution.basic wanted defaults messages = some tag ∧
      answerLanguage Resolution.basic wanted defaults (Bucket.place message messages) =
        some tag := by
  obtain ⟨place, hplace⟩ := Option.isSome_iff_exists.1 hchosen
  obtain ⟨tag, htag, hcovered⟩ := Resolution.exists_range_of_basic hplace
  have hlt : place < (tagsSeen messages).length := (List.getElem?_eq_some_iff.1 htag).1
  refine ⟨tag, hcovered, answerLanguage_of_place hplace htag defaults, ?_⟩
  rcases tagsSeen_place messages message with hsame | ⟨new, hnew, hlast⟩
  · exact answerLanguage_of_place (by rw [hsame, hplace]) (by rw [hsame, htag]) defaults
  · have hbasic : Resolution.basic wanted (tagsSeen (Bucket.place message messages)) = some place := by
      rw [hlast, Resolution.basic_concat (huncovered new hnew), hplace]
    have htag' : (tagsSeen (Bucket.place message messages))[place]? = some tag := by
      rw [hlast, List.getElem?_append_left hlt, htag]
    exact answerLanguage_of_place hbasic htag' defaults

end

theorem Store.resolve_add_of_uncovered {store : Store} {message : Message} {request : Request}
    (hbasic : store.resolution = Resolution.basic)
    (hadd : (store.add message).candidates request =
      Bucket.place message (store.candidates request))
    (hchosen : (Resolution.basic request.languages
      (tagsSeen (store.candidates request))).isSome = true)
    (huncovered : ∀ tag, message.language = some tag →
      ∀ range ∈ request.languages, ¬range.Covers tag) :
    (store.add message).resolve request = store.resolve request := by
  obtain ⟨tag, ⟨range, hrange, hcovers⟩, hbefore, hafter⟩ :=
    answerLanguage_place store.defaultLanguages hchosen huncovered
  have hother : ¬decide (message.language = some tag) = true := by
    intro hlanguage
    exact huncovered tag (of_decide_eq_true hlanguage) range hrange hcovers
  have hidentity : ∀ a b : Message, a.identity = b.identity →
      decide (a.language = some tag) = decide (b.language = some tag) := by
    intro a b hsame
    have hlanguage : a.language = b.language := congrArg Message.Identity.language hsame
    rw [hlanguage]
  rw [resolve_eq, resolve_eq, resolution_add, defaultLanguages_add, hbasic, hadd, hbefore, hafter,
    Bucket.filter_place hidentity, if_neg hother]

/-- A message of another name, or one that is no candidate, changes no answer, whatever the
resolution is. If the basic resolution has chosen a language by the ranges of the request, a message
without a tag, or with a tag that none of these ranges covers, does not change the answer either. -/
theorem Store.resolve_add_unrelated (defaultLanguages : List Range) (operations : List Operation)
    (request : Request) (message : Message) :
    let store := (Store.new defaultLanguages).run operations
    let tags := (LanguageGroup.ofMessages (store.candidates request)).filterMap (·.language)
    (message.name ≠ request.name ∨ message.isCandidate request = false →
      (store.add message).resolve request = store.resolve request) ∧
    (store.resolution = Resolution.basic →
      (Resolution.basic request.languages tags).isSome = true →
      (∀ tag, message.language = some tag → ∀ range ∈ request.languages, ¬range.Covers tag) →
      (store.add message).resolve request = store.resolve request) := by
  intro store tags
  have h : store.Holds (history operations) := holds_run defaultLanguages operations
  have hcandidates := h.candidates_add message request
  by_cases hboth : message.name = request.name ∧ message.isCandidate request = true
  · rw [if_pos hboth] at hcandidates
    constructor
    · rintro (hname | hcandidate)
      · exact absurd hboth.1 hname
      · rw [hboth.2] at hcandidate
        cases hcandidate
    · intro hbasic hchosen huncovered
      have htags : tags = tagsSeen (store.candidates request) :=
        LanguageGroup.filterMap_language_ofMessages _
      rw [htags] at hchosen
      exact resolve_add_of_uncovered hbasic hcandidates hchosen huncovered
  · rw [if_neg hboth] at hcandidates
    have hsame := resolve_add_of_candidates hcandidates
    exact ⟨fun _ => hsame, fun _ _ _ => hsame⟩

/-- A variant for men is no candidate of the request; one in German is, but is not asked for. -/
theorem Store.resolve_add_unrelated_german :
    let store := (Store.new []).run
      [.loadSource {} "hello = Hi\nhello#en = Hello", .setResolution Resolution.basic]
    let request : Request := ⟨"hello", [Range.ofTag "en-GB"], none, none, .empty⟩
    let male : Message := ⟨"hello", some "en", none, some .male, .empty, ⟨"male", "", ""⟩⟩
    let german : Message := ⟨"hello", some "de", none, none, .empty, ⟨"german", "", ""⟩⟩
    (male.isCandidate request = false ∧
      (store.add male).resolve request = store.resolve request) ∧
    german.isCandidate request = true ∧
      (store.add german).resolve request = store.resolve request := by
  intro store request male german
  have h : store.Holds _ := holds_run []
    [.loadSource {} "hello = Hi\nhello#en = Hello", .setResolution Resolution.basic]
  have hmale : male.isCandidate request = false := by decide
  have hchosen : (Resolution.basic request.languages ((LanguageGroup.ofMessages
      (store.candidates request)).filterMap (·.language))).isSome = true := by
    rw [candidates, h.variants]
    decide +kernel
  have huncovered : ∀ tag, german.language = some tag →
      ∀ range ∈ request.languages, ¬range.Covers tag := by
    rintro _ ⟨⟩ range hrange
    obtain rfl := List.mem_singleton.1 hrange
    rw [← Resolution.isSome_basic_singleton_iff]
    decide +kernel
  exact ⟨⟨hmale, (resolve_add_unrelated _ _ request male).1 (.inr hmale)⟩, by decide,
    (resolve_add_unrelated _ _ request german).2 rfl hchosen huncovered⟩

end Phrasebook
