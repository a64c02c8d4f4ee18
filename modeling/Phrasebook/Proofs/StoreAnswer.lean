import Phrasebook.Proofs.StoreContents
import Phrasebook.Store.Resolve
import Mathlib.Data.List.Induction

/-! The answer of a store to a request, for any resolution. The candidates fall into one group for
each of their languages (`LanguageGroup.ofMessages_eq`), of which `LanguageGroup.choose?` takes the
one in the language that `answerLanguage` says, and the answer is the first of the most specific
messages of that group. Main statement: `Store.resolve_run`. -/

namespace Phrasebook

/-! ### The most specific message -/

/-- No message of the list is more specific, and the ones before it are less specific. -/
def Request.IsBest (request : Request) (messages : List Message) (best : Message) : Prop :=
  ∃ before after, messages = before ++ best :: after ∧
    (∀ message ∈ before, message.specificity request < best.specificity request) ∧
    ∀ message ∈ after, message.specificity request ≤ best.specificity request

namespace Request

variable {request : Request}

theorem IsBest.le {messages : List Message} {best : Message} (h : request.IsBest messages best) :
    ∀ message ∈ messages, message.specificity request ≤ best.specificity request := by
  obtain ⟨before, after, rfl, hbefore, hafter⟩ := h
  intro message hmem
  rcases List.mem_append.1 hmem with hmem | hmem
  · exact Nat.le_of_lt (hbefore message hmem)
  · rcases List.mem_cons.1 hmem with rfl | hmem
    · exact Nat.le_refl _
    · exact hafter message hmem

theorem mostSpecific?_eq_none_iff {messages : List Message} :
    request.mostSpecific? messages = none ↔ messages = [] := by
  cases messages with
  | nil => simp [mostSpecific?]
  | cons message messages =>
      simp only [mostSpecific?, reduceCtorEq, iff_false]
      split
      · simp
      · split <;> simp

theorem isBest_of_mostSpecific? {messages : List Message} {best : Message}
    (h : request.mostSpecific? messages = some best) : request.IsBest messages best := by
  induction messages generalizing best with
  | nil => simp [mostSpecific?] at h
  | cons message messages ih =>
      rw [mostSpecific?] at h
      cases hrest : request.mostSpecific? messages with
      | none =>
          rw [hrest] at h
          obtain rfl : message = best := Option.some.inj h
          rw [mostSpecific?_eq_none_iff.1 hrest]
          exact ⟨[], [], rfl, by simp, by simp⟩
      | some other =>
          have hother := ih hrest
          rw [hrest] at h
          by_cases hlt : message.specificity request < other.specificity request
          · obtain rfl : other = best := by simpa [hlt] using h
            obtain ⟨before, after, rfl, hbefore, hafter⟩ := hother
            exact ⟨message :: before, after, rfl, List.forall_mem_cons.2 ⟨hlt, hbefore⟩, hafter⟩
          · obtain rfl : message = best := by simpa [hlt] using h
            refine ⟨[], messages, rfl, by simp, ?_⟩
            intro later hmem
            have hle := hother.le later hmem
            omega

theorem mem_of_mostSpecific? {messages : List Message} {best : Message}
    (h : request.mostSpecific? messages = some best) : best ∈ messages := by
  obtain ⟨before, after, rfl, -⟩ := isBest_of_mostSpecific? h
  exact List.mem_append_right _ List.mem_cons_self

/-- Of two best messages none stands among those before the other. -/
theorem IsBest.unique {messages : List Message} {best best' : Message}
    (h : request.IsBest messages best) (h' : request.IsBest messages best') : best = best' := by
  have hle := h.le best' (by obtain ⟨_, _, rfl, -⟩ := h'; simp)
  have hle' := h'.le best (by obtain ⟨_, _, rfl, -⟩ := h; simp)
  obtain ⟨before, after, rfl, hbefore, -⟩ := h
  obtain ⟨before', after', heq, hbefore', -⟩ := h'
  rcases List.append_eq_append_iff.1 heq with ⟨gap, hgap, htail⟩ | ⟨gap, hgap, htail⟩
  · cases gap with
    | nil => exact (List.cons.inj htail).1
    | cons first gap =>
        obtain rfl : best = first := (List.cons.inj htail).1
        have hlt := hbefore' best (by simp [hgap])
        omega
  · cases gap with
    | nil => exact (List.cons.inj htail).1.symm
    | cons first gap =>
        obtain rfl : best' = first := (List.cons.inj htail).1
        have hlt := hbefore best' (by simp [hgap])
        omega

theorem mostSpecific?_eq_some_iff {messages : List Message} {best : Message} :
    request.mostSpecific? messages = some best ↔ request.IsBest messages best := by
  constructor
  · exact isBest_of_mostSpecific?
  · intro h
    cases hbest : request.mostSpecific? messages with
    | none =>
        obtain ⟨before, after, hmessages, -⟩ := h
        rw [mostSpecific?_eq_none_iff.1 hbest] at hmessages
        simp at hmessages
    | some other => rw [(isBest_of_mostSpecific? hbest).unique h]

end Request

/-! ### Groups by language -/

/-- The distinct languages of messages in the order they are first seen; messages without a language
do not count. -/
def tagsSeen (messages : List Message) : List String :=
  (firstSeen Message.language messages).filterMap id

theorem mem_tagsSeen {messages : List Message} {tag : String} :
    tag ∈ tagsSeen messages ↔ ∃ message ∈ messages, message.language = some tag := by
  simp [tagsSeen, List.mem_filterMap]

namespace LanguageGroup

/-- The group of a language among messages. -/
def ofLanguage (messages : List Message) (language : Option String) : LanguageGroup :=
  ⟨language, messages.filter (·.language = language)⟩

@[simp] theorem language_ofLanguage (messages : List Message) (language : Option String) :
    (ofLanguage messages language).language = language := rfl

theorem ofLanguage_concat (messages : List Message) (message : Message)
    (language : Option String) :
    ofLanguage (messages ++ [message]) language =
      if language = message.language then
        ⟨language, (ofLanguage messages language).members ++ [message]⟩
      else ofLanguage messages language := by
  by_cases h : message.language = language
  · simp [ofLanguage, h]
  · simp [ofLanguage, h, Ne.symm h]

theorem insert_of_not_mem {message : Message} {languages : List (Option String)}
    (h : message.language ∉ languages) (messages : List Message) :
    insert message (languages.map (ofLanguage messages)) =
      languages.map (ofLanguage messages) ++ [⟨message.language, [message]⟩] := by
  induction languages with
  | nil => rfl
  | cons language languages ih =>
      rw [List.mem_cons, not_or] at h
      rw [List.map_cons, insert, language_ofLanguage, if_neg (Ne.symm h.1), ih h.2,
        List.cons_append]

theorem insert_of_mem {message : Message} {languages : List (Option String)}
    (hdistinct : languages.Nodup) (h : message.language ∈ languages) (messages : List Message) :
    insert message (languages.map (ofLanguage messages)) =
      languages.map (ofLanguage (messages ++ [message])) := by
  induction languages with
  | nil => simp at h
  | cons language languages ih =>
      rw [List.nodup_cons] at hdistinct
      rw [List.map_cons, List.map_cons, insert, language_ofLanguage, ofLanguage_concat]
      by_cases heq : language = message.language
      · rw [if_pos heq, if_pos heq]
        congr 1
        apply List.map_congr_left
        intro other hother
        have hne : other ≠ message.language := fun hsame => hdistinct.1 (heq ▸ hsame ▸ hother)
        rw [ofLanguage_concat, if_neg hne]
      · have hmem : message.language ∈ languages := (List.mem_cons.1 h).resolve_left (Ne.symm heq)
        rw [if_neg heq, if_neg heq, ih hdistinct.2 hmem]

theorem insert_ofMessages (messages : List Message) (message : Message) :
    insert message ((firstSeen Message.language messages).map (ofLanguage messages)) =
      (firstSeen Message.language (messages ++ [message])).map
        (ofLanguage (messages ++ [message])) := by
  by_cases h : message.language ∈ firstSeen Message.language messages
  · rw [firstSeen_concat_of_mem h, insert_of_mem (nodup_firstSeen _ _) h]
  · have hnone : messages.filter (·.language = message.language) = [] := by
      rw [List.filter_eq_nil_iff]
      intro other hother hsame
      exact h (of_decide_eq_true hsame ▸ mem_firstSeen.2 ⟨other, hother, rfl⟩)
    rw [firstSeen_concat_of_not_mem h, insert_of_not_mem h, List.map_append,
      List.map_singleton]
    congr 1
    · apply List.map_congr_left
      intro language hmem
      have hne : language ≠ message.language := fun hsame => h (hsame ▸ hmem)
      rw [ofLanguage_concat, if_neg hne]
    · rw [ofLanguage_concat, if_pos rfl, ofLanguage, hnone, List.nil_append]

theorem ofMessages_eq (messages : List Message) :
    ofMessages messages = (firstSeen Message.language messages).map (ofLanguage messages) := by
  induction messages using List.reverseRecOn with
  | nil => rfl
  | append_singleton messages message ih =>
      rw [ofMessages, List.foldl_append, List.foldl_cons, List.foldl_nil, ← ofMessages, ih,
        insert_ofMessages]

theorem filterMap_language_ofMessages (messages : List Message) :
    (ofMessages messages).filterMap (·.language) = tagsSeen messages := by
  rw [ofMessages_eq, List.filterMap_map, tagsSeen]
  rfl

theorem find?_ofMessages {messages : List Message} {language : Option String}
    (h : language ∈ firstSeen Message.language messages) :
    (ofMessages messages).find? (·.language == language) = some (ofLanguage messages language) := by
  have hseen : (firstSeen Message.language messages).find? (· == language) = some language := by
    cases hfind : (firstSeen Message.language messages).find? (· == language) with
    | none => exact absurd (beq_self_eq_true language) (List.find?_eq_none.1 hfind language h)
    | some other =>
        have heq := List.find?_some hfind
        rw [eq_of_beq heq]
  rw [ofMessages_eq, List.find?_map]
  exact congrArg (Option.map (ofLanguage messages)) hseen

theorem head?_ofMessages (message : Message) (messages : List Message) :
    (ofMessages (message :: messages)).head? =
      some (ofLanguage (message :: messages) message.language) := by
  rw [ofMessages_eq, firstSeen, List.map_cons, List.eraseDups_cons, List.map_cons, List.head?_cons]

end LanguageGroup

/-! ### The language of the answer -/

/-- The place that the wanted ranges choose, or else the default ranges. -/
def chosenPlace? (resolution : Language.Resolution) (wanted defaults : List Language.Range)
    (tags : List String) : Option Nat :=
  match resolution wanted tags with
  | some place => some place
  | none => resolution defaults tags

/-- The language of the messages without one, if there are any, or else of the first message. -/
def fallbackLanguage (messages : List Message) : Option String :=
  if ∃ message ∈ messages, message.language = none then none
  else messages.head?.bind (·.language)

/-- The language to answer in: the tag at the chosen place, or else the fallback. -/
def answerLanguage (resolution : Language.Resolution) (wanted defaults : List Language.Range)
    (messages : List Message) : Option String :=
  match chosenPlace? resolution wanted defaults (tagsSeen messages) with
  | none => fallbackLanguage messages
  | some place =>
    if h : place < (tagsSeen messages).length then some (tagsSeen messages)[place]
    else fallbackLanguage messages

theorem Language.Resolution.choose_eq (resolution : Language.Resolution)
    (wanted defaults : List Language.Range) (tags : List String) :
    resolution.choose wanted defaults tags =
      (chosenPlace? resolution wanted defaults tags).bind fun place => tags[place]? := by
  rw [choose, chosenPlace?]
  cases resolution wanted tags <;> rfl

theorem Language.Resolution.mem_of_choose {resolution : Language.Resolution}
    {wanted defaults : List Language.Range} {tags : List String} {tag : String}
    (h : resolution.choose wanted defaults tags = some tag) : tag ∈ tags := by
  rw [choose] at h
  obtain ⟨place, -, htag⟩ := Option.bind_eq_some_iff.1 h
  exact List.mem_of_getElem? htag

/-- The language to answer in is the tag that is chosen, or else the fallback. -/
theorem answerLanguage_eq (resolution : Language.Resolution) (wanted defaults : List Language.Range)
    (messages : List Message) :
    answerLanguage resolution wanted defaults messages =
      (resolution.choose wanted defaults (tagsSeen messages)).elim (fallbackLanguage messages)
        some := by
  rw [answerLanguage, Language.Resolution.choose_eq]
  cases chosenPlace? resolution wanted defaults (tagsSeen messages) with
  | none => rfl
  | some place =>
      by_cases hplace : place < (tagsSeen messages).length
      · simp [hplace]
      · simp [hplace]

/-- If the wanted ranges choose a tag, that is the language to answer in. -/
theorem answerLanguage_of_place {resolution : Language.Resolution}
    {wanted : List Language.Range} {messages : List Message} {place : Nat} {tag : String}
    (hplace : resolution wanted (tagsSeen messages) = some place)
    (htag : (tagsSeen messages)[place]? = some tag) (defaults : List Language.Range) :
    answerLanguage resolution wanted defaults messages = some tag := by
  rw [answerLanguage_eq, Language.Resolution.choose, hplace, Option.some_or, Option.bind_some, htag,
    Option.elim_some]

theorem LanguageGroup.choose?_none {messages : List Message} (h : messages ≠ []) :
    choose? none (ofMessages messages) =
      some (ofLanguage messages (fallbackLanguage messages)) := by
  have hisNone : (fun group : LanguageGroup => group.language.isNone) =
      fun group => group.language == none := by
    funext group
    cases group.language <;> rfl
  rw [choose?, fallbackLanguage, hisNone]
  by_cases hnone : ∃ message ∈ messages, message.language = none
  · rw [if_pos hnone, find?_ofMessages (mem_firstSeen.2 hnone), Option.some_or]
  · have hfind : (ofMessages messages).find? (fun group => group.language == none) = none := by
      rw [List.find?_eq_none]
      intro group hgroup hlanguage
      rw [ofMessages_eq, List.mem_map] at hgroup
      obtain ⟨language, hmem, rfl⟩ := hgroup
      exact hnone (mem_firstSeen.1 (eq_of_beq hlanguage ▸ hmem))
    obtain ⟨message, rest, rfl⟩ := List.exists_cons_of_ne_nil h
    rw [if_neg hnone, hfind, Option.none_or, head?_ofMessages]
    rfl

theorem LanguageGroup.choose?_some {messages : List Message} {tag : String}
    (h : tag ∈ tagsSeen messages) :
    choose? (some tag) (ofMessages messages) = some (ofLanguage messages (some tag)) := by
  rw [choose?, find?_ofMessages (mem_firstSeen.2 (mem_tagsSeen.1 h))]

theorem LanguageGroup.choose?_choose (resolution : Language.Resolution)
    (wanted defaults : List Language.Range) {messages : List Message} (h : messages ≠ []) :
    choose? (resolution.choose wanted defaults (tagsSeen messages)) (ofMessages messages) =
      some (ofLanguage messages (answerLanguage resolution wanted defaults messages)) := by
  rw [answerLanguage_eq]
  cases htag : resolution.choose wanted defaults (tagsSeen messages) with
  | none => exact choose?_none h
  | some tag => exact choose?_some (Language.Resolution.mem_of_choose htag)

theorem Store.resolve_eq (store : Store) (request : Request) :
    store.resolve request =
      request.mostSpecific? ((store.candidates request).filter (·.language =
        answerLanguage store.resolution request.languages store.defaultLanguages
          (store.candidates request))) := by
  rw [Store.resolve, LanguageGroup.filterMap_language_ofMessages]
  by_cases h : store.candidates request = []
  · rw [h]
    cases store.resolution.choose request.languages store.defaultLanguages (tagsSeen []) <;> rfl
  · rw [LanguageGroup.choose?_choose _ _ _ h, Option.bind_some, LanguageGroup.ofLanguage]

theorem exists_mem_fallbackLanguage {messages : List Message} (h : messages ≠ []) :
    ∃ message ∈ messages, message.language = fallbackLanguage messages := by
  rw [fallbackLanguage]
  by_cases hnone : ∃ message ∈ messages, message.language = none
  · rwa [if_pos hnone]
  · obtain ⟨message, rest, rfl⟩ := List.exists_cons_of_ne_nil h
    rw [if_neg hnone]
    exact ⟨message, List.mem_cons_self, rfl⟩

/-- The language to answer in is that of some message. -/
theorem exists_mem_answerLanguage (resolution : Language.Resolution)
    (wanted defaults : List Language.Range) {messages : List Message} (h : messages ≠ []) :
    ∃ message ∈ messages,
      message.language = answerLanguage resolution wanted defaults messages := by
  rw [answerLanguage_eq]
  cases htag : resolution.choose wanted defaults (tagsSeen messages) with
  | none => exact exists_mem_fallbackLanguage h
  | some tag => exact mem_tagsSeen.1 (Language.Resolution.mem_of_choose htag)

namespace Store

variable {store : Store}

theorem mem_candidates_of_resolve {request : Request} {answer : Message}
    (h : store.resolve request = some answer) : answer ∈ store.candidates request := by
  rw [resolve_eq] at h
  exact List.mem_of_mem_filter (Request.mem_of_mostSpecific? h)

/-- If there is a candidate, there is an answer, which is in the language to answer in. -/
theorem exists_resolve {request : Request} (h : store.candidates request ≠ []) :
    ∃ answer, store.resolve request = some answer ∧ answer.language =
      answerLanguage store.resolution request.languages store.defaultLanguages
        (store.candidates request) := by
  obtain ⟨message, hmem, hlanguage⟩ :=
    exists_mem_answerLanguage store.resolution request.languages store.defaultLanguages h
  rw [resolve_eq]
  cases hanswer : request.mostSpecific? _ with
  | none =>
      have hnil := Request.mostSpecific?_eq_none_iff.1 hanswer
      exact absurd (decide_eq_true hlanguage) (List.filter_eq_nil_iff.1 hnil message hmem)
  | some answer =>
      have hanswer := (List.mem_filter.1 (Request.mem_of_mostSpecific? hanswer)).2
      exact ⟨answer, rfl, of_decide_eq_true hanswer⟩

theorem resolve_eq_none_iff {request : Request} :
    store.resolve request = none ↔ store.candidates request = [] := by
  constructor
  · intro hnone
    by_contra hne
    obtain ⟨answer, hanswer, -⟩ := exists_resolve hne
    rw [hnone] at hanswer
    cases hanswer
  · intro hnil
    rw [resolve_eq, hnil]
    rfl

end Store

/-- The stored messages that may answer a request. -/
def Store.passing (store : Store) (request : Request) : List Message :=
  store.messages.filter fun message => message.name = request.name && message.isCandidate request

theorem Store.Holds.candidates {store : Store} {history : List Message}
    (h : store.Holds history) (request : Request) :
    store.candidates request = store.passing request := by
  rw [Store.candidates, ← h.filter_name_messages, List.filter_filter, Store.passing]
  congr 1
  funext message
  rw [Bool.and_comm]

theorem Store.Holds.resolve_eq_none_iff {store : Store} {history : List Message}
    (h : store.Holds history) (request : Request) :
    store.resolve request = none ↔ store.passing request = [] := by
  rw [Store.resolve_eq_none_iff, h.candidates]

/-- Whatever is done with a store and whatever its resolution is, a request has no answer only if no
stored message of its name may answer it; and the answer is the first of the most specific messages
in the language to answer in. -/
theorem Store.resolve_run (defaultLanguages : List Language.Range)
    (operations : List Operation) (request : Request) :
    let store := (Store.new defaultLanguages).run operations
    let passing := store.messages.filter fun message =>
      message.name = request.name && message.isCandidate request
    let language :=
      answerLanguage store.resolution request.languages store.defaultLanguages passing
    (store.resolve request = none ↔ ∀ message ∈ store.messages,
      message.name = request.name → message.isCandidate request = false) ∧
    ∀ answer : Message, store.resolve request = some answer ↔
      request.IsBest (passing.filter (·.language = language)) answer := by
  intro store passing language
  have h : store.Holds (history operations) := holds_run defaultLanguages operations
  constructor
  · rw [h.resolve_eq_none_iff, Store.passing, List.filter_eq_nil_iff]
    simp
  · intro answer
    rw [Store.resolve_eq, h.candidates]
    exact Request.mostSpecific?_eq_some_iff

end Phrasebook
