import Phrasebook.Localized
import Phrasebook.Proofs.DictionaryEntries
import Phrasebook.Proofs.StoreAnswer
import Mathlib.Data.List.Nodup

/-! Localized values and stores. The entries of a name have distinct tags, so if each of them is made
a message of a store, each message is a group of its own (`LanguageGroup.ofMessages_of_nodup`), and
the store answers with the message of the entry that is selected (`Localized.selected_iff_resolved`). -/

namespace Phrasebook

namespace Localized

variable {α : Type}

/-! ### Keys -/

/-- What follows a name in a key. -/
def suffix : (tag : Option String) → List Char
  | none => []
  | some tag => '#' :: tag.toList

/-- Where a value of a name is kept. -/
def key (name : String) : (tag : Option String) → String
  | none => name
  | some tag => name ++ "#" ++ tag

theorem toList_key (name : String) (tag : Option String) :
    (key name tag).toList = name.toList ++ suffix tag := by
  cases tag <;> simp [key, suffix]

theorem ofEntry?_eq_some_iff {name stored : String} {value : α} {entry : Localized α} :
    ofEntry? name stored value = some entry ↔
      stored = key name entry.tag ∧ value = entry.value := by
  unfold ofEntry?
  constructor
  · intro h
    split at h
    next hstart =>
      obtain rfl := Option.some.inj h
      rw [List.isPrefixOf?_eq_some_iff_append_eq, List.append_nil] at hstart
      exact ⟨(String.toList_inj.1 hstart).symm, rfl⟩
    next tag hstart =>
      obtain rfl := Option.some.inj h
      rw [List.isPrefixOf?_eq_some_iff_append_eq] at hstart
      refine ⟨String.toList_inj.1 ?_, rfl⟩
      rw [toList_key, ← hstart, suffix, String.toList_ofList]
    next => exact absurd h (Option.some_ne_none entry).symm
  · rintro ⟨rfl, rfl⟩
    have hstart : name.toList.isPrefixOf? (key name entry.tag).toList = some (suffix entry.tag) := by
      rw [List.isPrefixOf?_eq_some_iff_append_eq, toList_key]
    rw [hstart]
    obtain ⟨tag, value⟩ := entry
    cases tag with
    | none => rfl
    | some tag =>
        show some (Localized.mk (some (String.ofList tag.toList)) value) = _
        rw [String.ofList_toList]

/-! ### The entries of a name -/

variable {values : Dictionary α} {name : String}

theorem mem_all_iff {entry : Localized α} :
    entry ∈ all values name ↔ values.find? (key name entry.tag) = some entry.value := by
  rw [all, List.mem_filterMap, Dictionary.find?_eq_some_iff]
  constructor
  · rintro ⟨⟨stored, value⟩, hmem, hentry⟩
    obtain ⟨rfl, rfl⟩ := ofEntry?_eq_some_iff.1 hentry
    exact hmem
  · intro hmem
    exact ⟨_, hmem, ofEntry?_eq_some_iff.2 ⟨rfl, rfl⟩⟩

/-- The entries of a name are in key order. -/
theorem pairwise_all (values : Dictionary α) (name : String) :
    (all values name).Pairwise fun a b => key name a.tag < key name b.tag := by
  refine List.Pairwise.filterMap _ ?_ values.ascending
  rintro ⟨stored, value⟩ ⟨stored', value'⟩ hlt a ha b hb
  obtain ⟨rfl, -⟩ := ofEntry?_eq_some_iff.1 ha
  obtain ⟨rfl, -⟩ := ofEntry?_eq_some_iff.1 hb
  exact hlt

theorem sublist_all (values : Dictionary α) (name : String) :
    ((all values name).map fun entry => (key name entry.tag, entry.value)).Sublist
      values.entries := by
  rw [all]
  induction values.entries with
  | nil => exact .slnil
  | cons entry entries ih =>
      obtain ⟨stored, value⟩ := entry
      cases hentry : ofEntry? name stored value with
      | none =>
          simp only [List.filterMap_cons, hentry]
          exact ih.cons _
      | some found =>
          obtain ⟨rfl, rfl⟩ := ofEntry?_eq_some_iff.1 hentry
          simp only [List.filterMap_cons, hentry]
          exact ih.cons_cons _

theorem nodup_map_tag_all (values : Dictionary α) (name : String) :
    ((all values name).map (·.tag)).Nodup := by
  rw [List.Nodup, List.pairwise_map]
  refine (pairwise_all values name).imp ?_
  intro a b hlt htag
  rw [htag] at hlt
  exact String.lt_irrefl _ hlt

/-- Entries of other names do not matter. -/
theorem all_congr {values values' : Dictionary α} {name : String}
    (h : ∀ tag, values'.find? (key name tag) = values.find? (key name tag)) :
    all values' name = all values name := by
  have hnodup : ∀ values : Dictionary α, (all values name).Nodup := fun values =>
    (nodup_map_tag_all values name).of_map _
  have hasymm : ∀ a b : Localized α, a ∈ all values' name → b ∈ all values name →
      key name a.tag < key name b.tag → key name b.tag < key name a.tag → a = b :=
    fun a b _ _ hab hba => absurd hba (String.lt_asymm hab)
  refine List.Perm.eq_of_pairwise hasymm (pairwise_all values' name) (pairwise_all values name) ?_
  rw [List.perm_ext_iff_of_nodup (hnodup values') (hnodup values)]
  intro entry
  rw [mem_all_iff, mem_all_iff, h]

end Localized

/-! ### Messages that each have a language of their own -/

/-- The group of a message alone. -/
def Message.group (message : Message) : LanguageGroup :=
  ⟨message.language, [message]⟩

namespace LanguageGroup

theorem insert_of_ne {message : Message} {groups : List LanguageGroup}
    (h : ∀ group ∈ groups, group.language ≠ message.language) :
    insert message groups = groups ++ [message.group] := by
  induction groups with
  | nil => rfl
  | cons group groups ih =>
      obtain ⟨hgroup, hgroups⟩ := List.forall_mem_cons.1 h
      rw [insert, if_neg hgroup, ih hgroups, List.cons_append]

theorem ofMessages_of_nodup {messages : List Message} (h : (messages.map (·.language)).Nodup) :
    ofMessages messages = messages.map Message.group := by
  induction messages using List.reverseRecOn with
  | nil => rfl
  | append_singleton messages message ih =>
      rw [List.map_append, List.map_singleton, List.nodup_append] at h
      obtain ⟨hbefore, -, hnew⟩ := h
      have hne : ∀ group ∈ messages.map Message.group, group.language ≠ message.language := by
        intro group hgroup
        obtain ⟨other, hother, rfl⟩ := List.mem_map.1 hgroup
        exact hnew _ (List.mem_map_of_mem hother) _ (List.mem_singleton_self _)
      rw [ofMessages, List.foldl_append, List.foldl_cons, List.foldl_nil, ← ofMessages, ih hbefore,
        insert_of_ne hne, List.map_append, List.map_singleton]

end LanguageGroup

/-! ### The answer of a store -/

namespace Localized

variable {α : Type}

/-- The entry as a message that restricts nothing but the language. -/
def toMessage (name : String) (template : Localized α → Template) (entry : Localized α) : Message :=
  ⟨name, entry.tag, none, none, .empty, template entry⟩

/-- A store with a message for each entry of a name. -/
def store (values : Dictionary α) (name : String) (template : Localized α → Template)
    (defaults : List Language.Range) (resolution : Language.Resolution) : Store :=
  { Store.new defaults with resolution }.addAll ((all values name).map (toMessage name template))

section

variable {values : Dictionary α} {name : String} {template : Localized α → Template}
  {defaults : List Language.Range} {resolution : Language.Resolution}

theorem nodup_map_language :
    (((all values name).map (toMessage name template)).map (·.language)).Nodup := by
  rw [List.map_map]
  exact nodup_map_tag_all values name

/-- The messages have different languages, so none takes the place of another. -/
theorem variants_store :
    (store values name template defaults resolution).variants name =
      (all values name).map (toMessage name template) := by
  have hnew : ({ Store.new defaults with resolution } : Store).Holds [] :=
    (Store.Holds.new defaults).apply (.setResolution resolution)
  have h := hnew.addAll ((all values name).map (toMessage name template))
  have hname : ((all values name).map (toMessage name template)).filter (·.name = name) =
      (all values name).map (toMessage name template) := by
    rw [List.filter_eq_self]
    intro message hmem
    obtain ⟨entry, -, rfl⟩ := List.mem_map.1 hmem
    exact decide_eq_true rfl
  have hidentity : (((all values name).map (toMessage name template)).map (·.identity)).Nodup := by
    apply List.Nodup.of_map Message.Identity.language
    rw [List.map_map]
    exact nodup_map_language
  rw [store, h.variants, List.nil_append, hname, variantsLeft_of_nodup hidentity]

theorem candidates_store {request : Request} (h : request.name = name) :
    (store values name template defaults resolution).candidates request =
      (all values name).map (toMessage name template) := by
  rw [Store.candidates, h, variants_store, List.filter_eq_self]
  intro message hmem
  obtain ⟨entry, -, rfl⟩ := List.mem_map.1 hmem
  rfl

end

/-- The entry to take if this tag is chosen, or if none is. -/
def pick? (tag : Option String) (entries : List (Localized α)) : Option (Localized α) :=
  match tag with
  | some tag => entries.find? (·.tag == some tag)
  | none => (entries.find? (·.tag.isNone)).or entries.head?

theorem mem_of_pick? {tag : Option String} {entries : List (Localized α)} {entry : Localized α}
    (h : pick? tag entries = some entry) : entry ∈ entries := by
  cases tag with
  | some tag => exact List.mem_of_find?_eq_some h
  | none =>
      rcases Option.or_eq_some_iff.1 h with hfind | ⟨-, hhead⟩
      · exact List.mem_of_find?_eq_some hfind
      · exact List.mem_of_head? hhead

/-- Groups are taken as the entries they stand for. -/
theorem choose?_map_group (name : String) (template : Localized α → Template) (tag : Option String)
    (entries : List (Localized α)) :
    LanguageGroup.choose? tag ((entries.map (toMessage name template)).map Message.group) =
      (pick? tag entries).map fun entry => (entry.toMessage name template).group := by
  rw [List.map_map]
  cases tag with
  | some tag => exact List.find?_map
  | none =>
      simp only [LanguageGroup.choose?, pick?]
      rw [List.find?_map, List.head?_map, Option.map_or]
      rfl

theorem resolve_store (values : Dictionary α) (name : String) (template : Localized α → Template)
    (wanted defaults : List Language.Range) (resolution : Language.Resolution) :
    (store values name template defaults resolution).resolve ⟨name, wanted, none, none, .empty⟩ =
      (select? values name wanted defaults resolution).map (toMessage name template) := by
  obtain ⟨hresolution, hdefaults⟩ := Store.settings_addAll { Store.new defaults with resolution }
    ((all values name).map (toMessage name template))
  have hcandidates : (store values name template defaults resolution).candidates
      ⟨name, wanted, none, none, .empty⟩ = (all values name).map (toMessage name template) :=
    candidates_store rfl
  have htags : (((all values name).map (toMessage name template)).map Message.group).filterMap
      (·.language) = (all values name).filterMap (·.tag) := by
    rw [List.filterMap_map, List.filterMap_map]
    rfl
  rw [Store.resolve, hcandidates, LanguageGroup.ofMessages_of_nodup nodup_map_language, htags,
    choose?_map_group, store, hresolution, hdefaults, Option.bind_map, Option.map_eq_bind]
  rfl

/-- The entry is told from the others of its name by its message. -/
theorem eq_of_toMessage {values : Dictionary α} {name : String}
    {template : Localized α → Template} {entry entry' : Localized α} (h : entry ∈ all values name)
    (h' : entry' ∈ all values name)
    (hmessage : entry.toMessage name template = entry'.toMessage name template) :
    entry = entry' := by
  obtain ⟨tag, value⟩ := entry
  obtain ⟨tag', value'⟩ := entry'
  obtain rfl : tag = tag' := congrArg Message.language hmessage
  rw [mem_all_iff] at h h'
  obtain rfl : value = value' := Option.some.inj (h.symm.trans h')
  rfl

theorem mem_of_select? {values : Dictionary α} {name : String} {wanted defaults : List Language.Range}
    {resolution : Language.Resolution} {entry : Localized α}
    (h : select? values name wanted defaults resolution = some entry) :
    entry ∈ all values name :=
  mem_of_pick? h

/-- Take the entries that are kept under a name or under the name, a number sign and a tag, in key
order, and a store with a message for each of them. An entry is selected exactly if the store
answers with its message, and none is selected exactly if the store has no answer. The selection
does not depend on what is kept under other keys. -/
theorem selected_iff_resolved (values : Dictionary α) (name : String)
    (wanted defaults : List Language.Range) (resolution : Language.Resolution)
    (template : Localized α → Template) :
    let entries := all values name
    let store :=
      { Store.new defaults with resolution }.addAll (entries.map (toMessage name template))
    let request : Request := ⟨name, wanted, none, none, .empty⟩
    let selected := select? values name wanted defaults resolution
    (∀ entry, entry ∈ entries ↔ values.find? (key name entry.tag) = some entry.value) ∧
    (entries.map fun entry => (key name entry.tag, entry.value)).Sublist values.entries ∧
    (selected = none ↔ store.resolve request = none) ∧
    (∀ entry, selected = some entry ↔
      entry ∈ entries ∧ store.resolve request = some (entry.toMessage name template)) ∧
    ∀ others : Dictionary α,
      (∀ tag, others.find? (key name tag) = values.find? (key name tag)) →
        select? others name wanted defaults resolution = selected := by
  intro entries store request selected
  have hresolve : store.resolve request = selected.map (toMessage name template) :=
    resolve_store values name template wanted defaults resolution
  refine ⟨fun _ => mem_all_iff, sublist_all values name, ?none, ?some, ?others⟩
  case none => rw [hresolve, Option.map_eq_none_iff]
  case some =>
    intro entry
    constructor
    · intro hentry
      exact ⟨mem_of_select? hentry, by rw [hresolve, hentry, Option.map_some]⟩
    · rintro ⟨hmem, hanswer⟩
      rw [hresolve, Option.map_eq_some_iff] at hanswer
      obtain ⟨other, hother, hmessage⟩ := hanswer
      rw [hother, eq_of_toMessage (mem_of_select? hother) hmem hmessage]
  case others =>
    intro others h
    simp only [selected, select?, all_congr h]

/-- The resolution takes the second tag, which has a number sign itself; a name that only begins like
the one asked for changes nothing. -/
theorem selected_iff_resolved_number_sign :
    let values : Dictionary Nat :=
      Dictionary.ofList [("title", 1), ("title#", 2), ("title#a#b", 3), ("titles", 4)]
    let resolution : Language.Resolution := fun ranges _ => some ranges.length
    let template : Localized Nat → Template := fun _ => ⟨"title", "", "text"⟩
    let store := { Store.new [] with resolution }.addAll
      ((all values "title").map (toMessage "title" template))
    let wanted := [Language.Range.ofTag "fr"]
    select? values "title" wanted [] resolution = some ⟨some "a#b", 3⟩ ∧
    store.resolve ⟨"title", wanted, none, none, .empty⟩ =
      some (toMessage "title" template ⟨some "a#b", 3⟩) ∧
    select? (values.insert "titles" 5) "title" wanted [] resolution = some ⟨some "a#b", 3⟩ := by
  intro values resolution template store wanted
  obtain ⟨-, -, -, hsome, hothers⟩ :=
    selected_iff_resolved values "title" wanted [] resolution template
  have hselected : select? values "title" wanted [] resolution = some ⟨some "a#b", 3⟩ := by
    decide +kernel
  have hne : ∀ tag, key "title" tag ≠ "titles" := by
    intro tag hkey
    have hlist := congrArg String.toList hkey
    rw [toList_key] at hlist
    have hsuffix : suffix tag = ['s'] := List.append_cancel_left hlist
    cases tag with
    | none => cases hsuffix
    | some tag => exact absurd (List.cons.inj hsuffix).1 (by decide)
  refine ⟨hselected, ((hsome _).1 hselected).2, ?_⟩
  rw [hothers (values.insert "titles" 5) fun tag => values.find?_insert_of_ne (hne tag) 5]
  exact hselected

end Localized

end Phrasebook
