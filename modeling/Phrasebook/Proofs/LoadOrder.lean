import Phrasebook.Proofs.LoneStar
import Phrasebook.Proofs.StoreAnswer
import Phrasebook.Proofs.Trimming

/-! The order in which messages are added. It decides the order of the tags that a language is chosen
from; but a pattern without stars accepts one tag only, up to case. So if tags differ by more than
case, the first attempt that succeeds is for the same tag in each order of them
(`Resolution.IsReached.unique`), and another order of the messages leads to another answer only where
several candidates of the same language are most specific, or where the first candidate is the last
resort (`Store.resolve_addAll_perm`). -/

namespace Phrasebook

namespace Language

namespace Range

/-- Neither lower case nor truncation brings a star into a range. -/
theorem star_not_mem_pattern {range : Range} (h : '*' ∉ range.language.toList) (steps : Nat) :
    '*' ∉ range.pattern steps := by
  have hwhole : '*' ∉ range.pattern 0 :=
    fun hmem => h (Text.mem_of_mem_trim (Text.star_mem_of_mem_lower hmem))
  by_cases hnil : range.pattern steps = []
  · rw [hnil]
    exact List.not_mem_nil
  · rcases Pattern.eq_append_iterate_truncate hnil with heq | ⟨rest, heq⟩
    · rwa [pattern, heq]
    · intro hmem
      apply hwhole
      show '*' ∈ Text.lower (Text.trim range.language.toList)
      rw [heq]
      exact List.mem_append_left _ hmem

theorem lower_eq_of_accepts {range : Range} (h : '*' ∉ range.language.toList) {steps : Nat}
    {tag : String} (haccepts : range.Accepts steps tag) :
    Text.lower tag.toList = range.pattern steps :=
  Pattern.eq_of_matches haccepts.2.2 (star_not_mem_pattern h steps)

end Range

/-- Different tags are different in lower case. -/
def DistinctInLowerCase (tags : List String) : Prop :=
  ∀ tag ∈ tags, ∀ other ∈ tags, Text.lower tag.toList = Text.lower other.toList → tag = other

instance (tags : List String) : Decidable (DistinctInLowerCase tags) :=
  inferInstanceAs (Decidable (∀ tag ∈ tags, ∀ other ∈ tags,
    Text.lower tag.toList = Text.lower other.toList → tag = other))

theorem DistinctInLowerCase.subset {tags tags' : List String} (h : DistinctInLowerCase tags)
    (hsubset : ∀ tag ∈ tags', tag ∈ tags) : DistinctInLowerCase tags' :=
  fun tag htag other hother => h tag (hsubset tag htag) other (hsubset other hother)

namespace Resolution

/-- Some range accepts the tag after some truncations, and no range that is tried before it and no
fewer truncations of it accept any of the tags. The places of the tags do not matter. -/
def IsReached (ranges : List Range) (tags : List String) (tag : String) : Prop :=
  tag ∈ tags ∧ ∃ place range steps, ranges[place]? = some range ∧ range.Accepts steps tag ∧
    ∀ place' range' steps', ranges[place']? = some range' → ∀ other ∈ tags,
      range'.Accepts steps' other →
      toLex (rangeKey range place, steps) ≤ toLex (rangeKey range' place', steps')

theorem exists_isReached_of_basic {ranges : List Range} {tags : List String} {place : Nat}
    (h : basic ranges tags = some place) :
    ∃ tag, tags[place]? = some tag ∧ IsReached ranges tags tag := by
  obtain ⟨attempt, ⟨⟨range, tag, hrange, htag, haccepts⟩, hfirst⟩, rfl⟩ := exists_isFirst_of_basic h
  refine ⟨tag, htag, List.mem_of_getElem? htag, attempt.range, range, attempt.steps, hrange,
    haccepts, ?_⟩
  intro place' range' steps' hrange' other hother haccepts'
  obtain ⟨i, hi⟩ := List.mem_iff_getElem?.1 hother
  have hle := hfirst ⟨place', steps', i⟩ ⟨range', other, hrange', hi, haccepts'⟩
  rw [Attempt.key_of_getElem? hrange, Attempt.key_of_getElem? hrange'] at hle
  simp only [Prod.Lex.toLex_le_toLex] at hle ⊢
  rcases hle with hlt | ⟨heq, hlt | ⟨hsteps, -⟩⟩
  · exact .inl hlt
  · exact .inr ⟨heq, hlt.le⟩
  · exact .inr ⟨heq, hsteps.le⟩

theorem IsReached.congr {ranges : List Range} {tags tags' : List String} {tag : String}
    (hsame : ∀ tag, tag ∈ tags ↔ tag ∈ tags') (h : IsReached ranges tags tag) :
    IsReached ranges tags' tag := by
  obtain ⟨hmem, place, range, steps, hrange, haccepts, hfirst⟩ := h
  refine ⟨(hsame tag).1 hmem, place, range, steps, hrange, haccepts, ?_⟩
  intro place' range' steps' hrange' other hother
  exact hfirst place' range' steps' hrange' other ((hsame other).2 hother)

/-- Ranges without stars reach no other tag, unless the two differ in case only. -/
theorem IsReached.unique {ranges : List Range} (hstar : ∀ range ∈ ranges, '*' ∉ range.language.toList)
    {tags : List String} (hcase : DistinctInLowerCase tags) {tag tag' : String}
    (h : IsReached ranges tags tag) (h' : IsReached ranges tags tag') : tag = tag' := by
  obtain ⟨hmem, place, range, steps, hrange, haccepts, hfirst⟩ := h
  obtain ⟨hmem', place', range', steps', hrange', haccepts', hfirst'⟩ := h'
  have hkey := le_antisymm (hfirst _ _ _ hrange' _ hmem' haccepts')
    (hfirst' _ _ _ hrange _ hmem haccepts)
  obtain rfl : steps = steps' := congrArg (fun key => (ofLex key).2) hkey
  obtain rfl : place = place' := congrArg (fun key => (ofLex (ofLex key).1).2) hkey
  obtain rfl : range = range' := Option.some.inj (hrange.symm.trans hrange')
  have hplain := hstar range (List.mem_of_getElem? hrange)
  apply hcase tag hmem tag' hmem'
  rw [Range.lower_eq_of_accepts hplain haccepts, Range.lower_eq_of_accepts hplain haccepts']

/-- The tag in the place that the basic resolution chooses. -/
def chosenTag? (ranges : List Range) (tags : List String) : Option String :=
  (basic ranges tags).bind fun place => tags[place]?

/-- The place is one of those of the tags. -/
theorem isSome_chosenTag? (ranges : List Range) (tags : List String) :
    (chosenTag? ranges tags).isSome = (basic ranges tags).isSome := by
  rw [chosenTag?]
  cases h : basic ranges tags with
  | none => rfl
  | some place =>
      obtain ⟨tag, htag, -⟩ := exists_isReached_of_basic h
      rw [Option.bind_some, htag]
      rfl

theorem isReached_of_chosenTag? {ranges : List Range} {tags : List String} {tag : String}
    (h : chosenTag? ranges tags = some tag) : IsReached ranges tags tag := by
  obtain ⟨place, hplace, htag⟩ := Option.bind_eq_some_iff.1 h
  obtain ⟨other, hother, hreached⟩ := exists_isReached_of_basic hplace
  obtain rfl : tag = other := Option.some.inj (htag.symm.trans hother)
  exact hreached

theorem chosenTag?_eq_some_iff {ranges : List Range}
    (hstar : ∀ range ∈ ranges, '*' ∉ range.language.toList) {tags : List String}
    (hcase : DistinctInLowerCase tags) {tag : String} :
    chosenTag? ranges tags = some tag ↔ IsReached ranges tags tag := by
  refine ⟨isReached_of_chosenTag?, fun hreached => ?_⟩
  cases hother : chosenTag? ranges tags with
  | some other => rw [(isReached_of_chosenTag? hother).unique hstar hcase hreached]
  | none =>
      have hnone : basic ranges tags = none := by
        rw [← Option.not_isSome_iff_eq_none, ← isSome_chosenTag?, hother]
        simp
      obtain ⟨hmem, place, range, steps, hrange, haccepts, -⟩ := hreached
      obtain ⟨i, hi⟩ := List.mem_iff_getElem?.1 hmem
      exact absurd ⟨range, tag, hrange, hi, haccepts⟩ (basic_eq_none_iff.1 hnone ⟨place, steps, i⟩)

/-- The tag that is chosen does not depend on the order of the tags. -/
theorem chosenTag?_congr {ranges : List Range}
    (hstar : ∀ range ∈ ranges, '*' ∉ range.language.toList) {tags tags' : List String}
    (hcase : DistinctInLowerCase tags) (hsame : ∀ tag, tag ∈ tags ↔ tag ∈ tags') :
    chosenTag? ranges tags = chosenTag? ranges tags' := by
  have hcase' : DistinctInLowerCase tags' := hcase.subset fun tag => (hsame tag).2
  ext tag
  rw [chosenTag?_eq_some_iff hstar hcase, chosenTag?_eq_some_iff hstar hcase']
  exact ⟨.congr hsame, .congr fun tag => (hsame tag).symm⟩

theorem choose_basic (wanted defaults : List Range) (tags : List String) :
    choose basic wanted defaults tags =
      (chosenTag? wanted tags).or (chosenTag? defaults tags) := by
  rw [choose, chosenTag?]
  cases h : basic wanted tags with
  | none => rw [Option.none_or, Option.bind_none, Option.none_or, chosenTag?]
  | some place =>
      obtain ⟨tag, htag, -⟩ := exists_isReached_of_basic h
      rw [Option.some_or, Option.bind_some, htag, Option.some_or]

end Resolution

end Language

open Phrasebook.Language

/-! ### The language of the answer -/

theorem fallbackLanguage_eq_none {messages : List Message}
    (h : ∃ message ∈ messages, message.language = none) : fallbackLanguage messages = none :=
  if_pos h

/-- Unless the language is that of the first message for want of a better one, the order of the
messages does not matter to it. -/
theorem answerLanguage_congr {wanted defaults : List Range}
    (hwanted : ∀ range ∈ wanted, '*' ∉ range.language.toList)
    (hdefaults : ∀ range ∈ defaults, '*' ∉ range.language.toList) {messages messages' : List Message}
    (hsame : ∀ message, message ∈ messages ↔ message ∈ messages')
    (hcase : DistinctInLowerCase (tagsSeen messages))
    (hchosen : (Resolution.basic wanted (tagsSeen messages)).isSome = true ∨
      (Resolution.basic defaults (tagsSeen messages)).isSome = true ∨
      ∃ message ∈ messages, message.language = none) :
    answerLanguage Resolution.basic wanted defaults messages =
      answerLanguage Resolution.basic wanted defaults messages' := by
  have htags : ∀ tag, tag ∈ tagsSeen messages ↔ tag ∈ tagsSeen messages' := by
    intro tag
    simp only [mem_tagsSeen, hsame]
  have hchoose : Resolution.choose Resolution.basic wanted defaults (tagsSeen messages') =
      Resolution.choose Resolution.basic wanted defaults (tagsSeen messages) := by
    rw [Resolution.choose_basic, Resolution.choose_basic,
      Resolution.chosenTag?_congr hwanted hcase htags,
      Resolution.chosenTag?_congr hdefaults hcase htags]
  rw [answerLanguage_eq, answerLanguage_eq, hchoose]
  cases htag : Resolution.choose Resolution.basic wanted defaults (tagsSeen messages) with
  | some tag => rfl
  | none =>
      rw [Resolution.choose_basic, Option.or_eq_none_iff, ← Option.not_isSome_iff_eq_none,
        ← Option.not_isSome_iff_eq_none, Resolution.isSome_chosenTag?,
        Resolution.isSome_chosenTag?] at htag
      have hnone := (hchosen.resolve_left htag.1).resolve_left htag.2
      have hnone' : ∃ message ∈ messages', message.language = none := by
        simpa only [hsame] using hnone
      rw [fallbackLanguage_eq_none hnone, fallbackLanguage_eq_none hnone']

/-! ### The most specific candidates of a language -/

/-- The message is in the language, and of the messages in it none is more specific. -/
def Request.IsTop (request : Request) (messages : List Message) (language : Option String)
    (best : Message) : Prop :=
  best ∈ messages ∧ best.language = language ∧ ∀ other ∈ messages, other.language = language →
    other.specificity request ≤ best.specificity request

instance (request : Request) (messages : List Message) (language : Option String)
    (best : Message) : Decidable (request.IsTop messages language best) :=
  inferInstanceAs (Decidable (best ∈ messages ∧ best.language = language ∧
    ∀ other ∈ messages, other.language = language →
      other.specificity request ≤ best.specificity request))

namespace Request.IsTop

variable {request : Request} {messages : List Message} {language : Option String}
  {best best' : Message}

theorem congr {messages' : List Message}
    (hsame : ∀ message, message ∈ messages ↔ message ∈ messages')
    (h : request.IsTop messages language best) : request.IsTop messages' language best := by
  obtain ⟨hmem, hlanguage, hle⟩ := h
  exact ⟨(hsame best).1 hmem, hlanguage, fun other hother => hle other ((hsame other).2 hother)⟩

theorem specificity_eq (h : request.IsTop messages language best)
    (h' : request.IsTop messages language best') :
    best.specificity request = best'.specificity request :=
  Nat.le_antisymm (h'.2.2 best h.1 h.2.1) (h.2.2 best' h'.1 h'.2.1)

end Request.IsTop

namespace Store

theorem isTop_of_resolve {store : Store} {request : Request} {answer : Message}
    (h : store.resolve request = some answer) :
    request.IsTop (store.candidates request) (answerLanguage store.resolution request.languages
      store.defaultLanguages (store.candidates request)) answer := by
  rw [resolve_eq] at h
  have hbest := Request.isBest_of_mostSpecific? h
  obtain ⟨hmem, hlanguage⟩ := List.mem_filter.1 (Request.mem_of_mostSpecific? h)
  refine ⟨hmem, of_decide_eq_true hlanguage, fun other hother hsame => ?_⟩
  exact hbest.le other (List.mem_filter.2 ⟨hother, decide_eq_true hsame⟩)

/-! ### Stores of the same messages -/

/-- No message takes the place of another one if the identities are different. -/
theorem variants_addAll_of_nodup (defaultLanguages : List Range) {messages : List Message}
    (h : (messages.map (·.identity)).Nodup) (name : String) :
    ((new defaultLanguages).addAll messages).variants name = messages.filter (·.name = name) := by
  have hholds := (Holds.new defaultLanguages).addAll messages
  have hdistinct : ((messages.filter (·.name = name)).map (·.identity)).Nodup :=
    h.sublist (List.filter_sublist.map _)
  rw [hholds.variants, List.nil_append, variantsLeft_of_nodup hdistinct]

theorem tagsSeen_candidates_addAll (defaultLanguages : List Range) {messages : List Message}
    (h : (messages.map (·.identity)).Nodup) (request : Request) :
    ∀ tag ∈ tagsSeen (((new defaultLanguages).addAll messages).candidates request),
      tag ∈ tagsSeen (messages.filter (·.name = request.name)) := by
  intro tag htag
  obtain ⟨message, hmem, hlanguage⟩ := mem_tagsSeen.1 htag
  rw [candidates, variants_addAll_of_nodup defaultLanguages h] at hmem
  exact mem_tagsSeen.2 ⟨message, List.mem_of_mem_filter hmem, hlanguage⟩

theorem isTop_of_resolve_addAll {defaultLanguages : List Range} {messages : List Message}
    {request : Request} {answer : Message}
    (h : ((new defaultLanguages).addAll messages).resolve request = some answer) :
    request.IsTop (((new defaultLanguages).addAll messages).candidates request)
      (answerLanguage Resolution.basic request.languages defaultLanguages
        (((new defaultLanguages).addAll messages).candidates request)) answer := by
  have htop := isTop_of_resolve h
  obtain ⟨hresolution, hdefaults⟩ := settings_addAll (new defaultLanguages) messages
  rw [hresolution, hdefaults] at htop
  exact htop

theorem mem_candidates_addAll (defaultLanguages : List Range) {messages messages' : List Message}
    (hperm : messages.Perm messages') (hdistinct : (messages.map (·.identity)).Nodup)
    (request : Request) (message : Message) :
    message ∈ ((new defaultLanguages).addAll messages).candidates request ↔
      message ∈ ((new defaultLanguages).addAll messages').candidates request := by
  have hdistinct' : (messages'.map (·.identity)).Nodup := (hperm.map _).nodup_iff.1 hdistinct
  simp only [candidates, variants_addAll_of_nodup, hdistinct, hdistinct', List.mem_filter,
    hperm.mem_iff]

/-- Messages with different identities may be added in any order. If the languages of each name
differ by more than case, and neither the request nor the default ranges have stars, then the same
requests are answered; and if a range chooses a language, or a candidate has none, then the answers
are in the same language and equally specific, and the same if only one candidate of the language is
most specific. -/
theorem resolve_addAll_perm (defaultLanguages : List Range) {messages messages' : List Message}
    (hperm : messages.Perm messages') (hdistinct : (messages.map (·.identity)).Nodup)
    (hcase : ∀ name : String, DistinctInLowerCase (tagsSeen (messages.filter (·.name = name))))
    (request : Request) (hwanted : ∀ range ∈ request.languages, '*' ∉ range.language.toList)
    (hdefaults : ∀ range ∈ defaultLanguages, '*' ∉ range.language.toList) :
    let store := (Store.new defaultLanguages).addAll messages
    let store' := (Store.new defaultLanguages).addAll messages'
    let tags := (LanguageGroup.ofMessages (store.candidates request)).filterMap (·.language)
    (store.resolve request = none ↔ store'.resolve request = none) ∧
    ((Resolution.basic request.languages tags).isSome = true ∨
      (Resolution.basic defaultLanguages tags).isSome = true ∨
      (∃ candidate ∈ store.candidates request, candidate.language = none) →
      ∀ answer answer' : Message, store.resolve request = some answer →
        store'.resolve request = some answer' →
        answer'.language = answer.language ∧
          answer'.specificity request = answer.specificity request ∧
          ((∃! best, request.IsTop (store.candidates request) answer.language best) →
            answer' = answer)) := by
  intro store store' tags
  have hsame := mem_candidates_addAll defaultLanguages hperm hdistinct request
  constructor
  · rw [resolve_eq_none_iff, resolve_eq_none_iff, List.eq_nil_iff_forall_not_mem,
      List.eq_nil_iff_forall_not_mem]
    exact forall_congr' fun message => not_congr (hsame message)
  · intro hchosen answer answer' hanswer hanswer'
    have htags : tags = tagsSeen (store.candidates request) :=
      LanguageGroup.filterMap_language_ofMessages _
    rw [htags] at hchosen
    have hcandidates : DistinctInLowerCase (tagsSeen (store.candidates request)) :=
      (hcase request.name).subset (tagsSeen_candidates_addAll defaultLanguages hdistinct request)
    have hlanguage := answerLanguage_congr hwanted hdefaults hsame hcandidates hchosen
    have htop := isTop_of_resolve_addAll hanswer
    have htop' := (isTop_of_resolve_addAll hanswer').congr fun message => (hsame message).symm
    rw [← hlanguage] at htop'
    have hboth : answer'.language = answer.language := htop'.2.1.trans htop.2.1.symm
    refine ⟨hboth, htop'.specificity_eq htop, ?_⟩
    rintro ⟨best, -, hunique⟩
    rw [htop.2.1] at hunique
    exact (hunique answer' htop').trans (hunique answer htop).symm

/-- The variant for men answers in either order; of the variants in English it is the only one that is
most specific. -/
theorem resolve_addAll_perm_male :
    let template : Template := ⟨"hello", "Hello", "basic"⟩
    let hello : Message := ⟨"hello", some "en", none, none, .empty, template⟩
    let male : Message := { hello with gender := some .male }
    let german : Message := { hello with language := some "de" }
    let bye : Message := { hello with name := "bye", language := some "EN" }
    let request : Request := ⟨"hello", [Range.ofTag "en-GB"], none, some .male, .empty⟩
    ((new [Range.ofTag "de"]).addAll [hello, male, german, bye]).resolve request = some male ∧
      ((new [Range.ofTag "de"]).addAll [bye, german, male, hello]).resolve request = some male := by
  intro template hello male german bye request
  have hdistinct : ([hello, male, german, bye].map (·.identity)).Nodup := by decide
  have hvariants := variants_addAll_of_nodup [Range.ofTag "de"] hdistinct "hello"
  have hcandidates : ((new [Range.ofTag "de"]).addAll [hello, male, german, bye]).candidates request =
      [hello, male, german] := by
    rw [candidates, hvariants]
    decide
  have hanswer : ((new [Range.ofTag "de"]).addAll [hello, male, german, bye]).resolve request =
      some male := by
    obtain ⟨hresolution, hdefaults⟩ :=
      settings_addAll (new [Range.ofTag "de"]) [hello, male, german, bye]
    rw [resolve_eq, hcandidates, hresolution, hdefaults]
    decide +kernel
  have hcase : ∀ name : String, DistinctInLowerCase
      (tagsSeen ([hello, male, german, bye].filter (·.name = name))) := by
    intro name
    by_cases hhello : "hello" = name
    · subst hhello
      decide +kernel
    · by_cases hbye : "bye" = name
      · subst hbye
        decide +kernel
      · have hnil : [hello, male, german, bye].filter (·.name = name) = [] := by
          simp [hello, male, german, bye, hhello, hbye]
        rw [hnil]
        decide
  have hchosen : (Resolution.basic request.languages
      ((LanguageGroup.ofMessages [hello, male, german]).filterMap (·.language))).isSome = true := by
    decide +kernel
  have hunique : ∃! best, request.IsTop [hello, male, german] male.language best := by
    refine ⟨male, by decide, fun best hbest => ?_⟩
    have hmem : best = hello ∨ best = male ∨ best = german := by simpa using hbest.1
    rcases hmem with rfl | rfl | rfl
    · exact absurd hbest (by decide)
    · rfl
    · exact absurd hbest (by decide)
  have hperm : [hello, male, german, bye].Perm [bye, german, male, hello] :=
    List.reverse_perm [bye, german, male, hello]
  obtain ⟨hnone, hsame⟩ := resolve_addAll_perm [Range.ofTag "de"] hperm hdistinct hcase request
    (by decide) (by decide)
  rw [hcandidates] at hsame
  refine ⟨hanswer, ?_⟩
  cases hanswer' : ((new [Range.ofTag "de"]).addAll [bye, german, male, hello]).resolve request with
  | none =>
      rw [hnone.2 hanswer'] at hanswer
      cases hanswer
  | some answer' =>
      obtain ⟨-, -, hmale⟩ := hsame (.inl hchosen) male answer' hanswer hanswer'
      rw [hmale hunique]

end Store

end Phrasebook
