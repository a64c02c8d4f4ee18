import Phrasebook.Proofs.StoreRun
import Mathlib.Data.List.Nodup

/-! What a store answers about its contents, in terms of the history of the messages added to it.
Main statement: a store refines an ordered map from identities to messages, whatever sequence of
operations has led to it (`Store.refines_run`). -/

namespace Phrasebook

namespace Store.Holds

variable {store : Store} {history : List Message}

theorem names (h : store.Holds history) : store.names = firstSeen Message.name history := by
  rw [Store.names, h.buckets, List.map_map]
  exact List.map_id _

theorem bucket? (h : store.Holds history) (name : String) :
    store.bucket? name =
      if name ∈ firstSeen Message.name history then some (bucketLeft history name) else none := by
  rw [Store.bucket?]
  cases hplace : store.index[name]? with
  | none => rw [if_neg ((h.index_eq_none_iff name).1 hplace), Option.bind_none]
  | some place =>
      have hname := (h.index name place).1 hplace
      rw [if_pos (List.mem_of_getElem? hname), Option.bind_some, ← Array.getElem?_toList,
        h.buckets, List.getElem?_map, hname, Option.map_some]

theorem variants (h : store.Holds history) (name : String) :
    store.variants name = variantsLeft (history.filter (·.name = name)) := by
  rw [Store.variants, h.bucket?]
  by_cases hname : name ∈ firstSeen Message.name history
  · rw [if_pos hname, Option.elim_some, bucketLeft]
  · rw [if_neg hname, Option.elim_none, filter_name_of_not_mem hname]
    rfl

theorem contains (h : store.Holds history) (name : String) :
    store.contains name = true ↔ ∃ message ∈ history, message.name = name := by
  rw [Store.contains, h.bucket?, ← mem_firstSeen]
  by_cases hname : name ∈ firstSeen Message.name history <;> simp [hname]

theorem messages (h : store.Holds history) :
    store.messages = store.names.flatMap store.variants := by
  rw [Store.messages, h.names, h.buckets, List.flatMap_map]
  apply List.flatMap_congr
  intro name _
  rw [h.variants, bucketLeft]

theorem bucket_ne_nil (h : store.Holds history) {bucket : Bucket}
    (hbucket : bucket ∈ store.buckets) : bucket.messages ≠ [] := by
  rw [← Array.mem_toList_iff, h.buckets, List.mem_map] at hbucket
  obtain ⟨name, hname, rfl⟩ := hbucket
  exact variantsLeft_filter_ne_nil hname

theorem mem_variants (h : store.Holds history) {name : String} {message : Message} :
    message ∈ store.variants name ↔
      message.name = name ∧ latest? history message.identity = some message := by
  rw [h.variants, mem_variantsLeft]
  constructor
  · intro hlatest
    have hmem := (List.mem_filter.1 (mem_of_latest? hlatest)).2
    have hname : message.name = name := of_decide_eq_true hmem
    exact ⟨hname, (latest?_filter_name hname history).symm.trans hlatest⟩
  · rintro ⟨hname, hlatest⟩
    exact (latest?_filter_name hname history).trans hlatest

theorem mem_messages (h : store.Holds history) {message : Message} :
    message ∈ store.messages ↔ latest? history message.identity = some message := by
  rw [h.messages, h.names, List.mem_flatMap]
  constructor
  · rintro ⟨name, -, hmem⟩
    exact (h.mem_variants.1 hmem).2
  · intro hlatest
    exact ⟨message.name, mem_firstSeen.2 ⟨message, mem_of_latest? hlatest, rfl⟩,
      h.mem_variants.2 ⟨rfl, hlatest⟩⟩

theorem flatMap_ite_eq {names : List String} (hdistinct : names.Nodup) (name : String)
    (messages : List Message) :
    (names.flatMap fun other => if other = name then messages else []) =
      if name ∈ names then messages else [] := by
  induction names with
  | nil => rfl
  | cons other names ih =>
      rw [List.nodup_cons] at hdistinct
      rw [List.flatMap_cons, ih hdistinct.2]
      by_cases heq : other = name
      · subst heq
        simp [hdistinct.1]
      · simp [heq, Ne.symm heq]

/-- The variants of a name are the stored messages of that name. -/
theorem filter_name_messages (h : store.Holds history) (name : String) :
    store.messages.filter (·.name = name) = store.variants name := by
  have hother : ∀ other ∈ store.names, (store.variants other).filter (·.name = name) =
      if other = name then store.variants name else [] := by
    intro other _
    by_cases heq : other = name
    · rw [if_pos heq, heq, List.filter_eq_self]
      intro message hmem
      exact decide_eq_true (h.mem_variants.1 hmem).1
    · rw [if_neg heq, List.filter_eq_nil_iff]
      intro message hmem hname
      exact heq ((h.mem_variants.1 hmem).1.symm.trans (of_decide_eq_true hname))
  rw [h.messages, List.filter_flatMap, List.flatMap_congr hother, h.names,
    flatMap_ite_eq (nodup_firstSeen Message.name history)]
  by_cases hmem : name ∈ firstSeen Message.name history
  · rw [if_pos hmem]
  · rw [if_neg hmem, h.variants, filter_name_of_not_mem hmem]
    rfl

theorem map_identity_variants (h : store.Holds history) (name : String) :
    (store.variants name).map (·.identity) =
      firstSeen Message.identity (history.filter (·.name = name)) := by
  rw [h.variants, map_identity_variantsLeft]

theorem nodup_map_identity_messages (h : store.Holds history) :
    (store.messages.map (·.identity)).Nodup := by
  rw [h.messages, h.names, List.map_flatMap, List.nodup_flatMap]
  constructor
  · intro name _
    rw [h.map_identity_variants]
    exact nodup_firstSeen _ _
  · refine (nodup_firstSeen Message.name history).imp ?_
    intro name other hne identity hleft hright
    obtain ⟨message, hmessage, rfl⟩ := List.mem_map.1 hleft
    obtain ⟨message', hmessage', hidentity⟩ := List.mem_map.1 hright
    have hname := (h.mem_variants.1 hmessage).1
    have hname' := (h.mem_variants.1 hmessage').1
    have hsame : message'.name = message.name := congrArg Message.Identity.name hidentity
    exact hne (hname.symm.trans (hsame.symm.trans hname'))

/-- Each identity of the history is that of one stored message. -/
theorem perm_identities (h : store.Holds history) :
    (store.messages.map (·.identity)).Perm (firstSeen Message.identity history) := by
  rw [List.perm_ext_iff_of_nodup h.nodup_map_identity_messages
    (nodup_firstSeen Message.identity history)]
  intro identity
  rw [List.mem_map]
  constructor
  · rintro ⟨message, hmem, rfl⟩
    exact mem_firstSeen.2 ⟨message, mem_of_latest? (h.mem_messages.1 hmem), rfl⟩
  · intro hmem
    obtain ⟨message, hlatest⟩ := exists_latest? hmem
    have hidentity := identity_of_latest? hlatest
    exact ⟨message, h.mem_messages.2 (hidentity ▸ hlatest), hidentity⟩

theorem size (h : store.Holds history) :
    store.size = (firstSeen Message.identity history).length := by
  rw [← h.perm_identities.length_eq, List.length_map, Store.messages, List.length_flatMap,
    Store.size]

end Store.Holds

/-- A store refines an ordered map from identities to messages: what it answers is what the history
of the additions says, and its index is in step with its buckets. -/
structure Store.Refines (store : Store) (history : List Message) : Prop where
  names : store.names = firstSeen Message.name history
  identities : ∀ name : String, (store.variants name).map (·.identity) =
    firstSeen Message.identity (history.filter (·.name = name))
  latest : ∀ (name : String), ∀ message ∈ store.variants name,
    history.reverse.find? (·.identity = message.identity) = some message
  messages : store.messages = store.names.flatMap store.variants
  size : store.size = (firstSeen Message.identity history).length
  contains : ∀ name : String, store.contains name = true ↔ name ∈ history.map (·.name)
  index : ∀ (name : String) (place : Nat),
    store.index[name]? = some place ↔ (store.buckets[place]?).map (·.name) = some name
  inRange : ∀ (name : String) (place : Nat),
    store.index[name]? = some place → place < store.buckets.size
  filled : ∀ bucket ∈ store.buckets, bucket.messages ≠ []
  distinct : (store.buckets.toList.map (·.name)).Nodup

theorem Store.Holds.index_iff_bucket {store : Store} {history : List Message}
    (h : store.Holds history) (name : String) (place : Nat) :
    store.index[name]? = some place ↔ (store.buckets[place]?).map (·.name) = some name := by
  rw [h.index, ← h.names, Store.names, List.getElem?_map, Array.getElem?_toList]

theorem Store.Holds.refines {store : Store} {history : List Message} (h : store.Holds history) :
    store.Refines history where
  names := h.names
  identities := h.map_identity_variants
  latest _ _ hmem := (h.mem_variants.1 hmem).2
  messages := h.messages
  size := h.size
  contains name := by rw [h.contains, List.mem_map]
  index := h.index_iff_bucket
  inRange name place hplace := by
    have hname := (h.index_iff_bucket name place).1 hplace
    obtain ⟨bucket, hbucket, -⟩ := Option.map_eq_some_iff.1 hname
    exact (Array.getElem?_eq_some_iff.1 hbucket).1
  filled _ := h.bucket_ne_nil
  distinct := by
    rw [← Store.names, h.names]
    exact nodup_firstSeen Message.name history

/-- Whatever is done with a store, it stays an ordered map of the messages added so far. -/
theorem Store.refines_run (defaultLanguages : List Language.Range)
    (operations : List Operation) :
    ((Store.new defaultLanguages).run operations).Refines (history operations) :=
  (Store.holds_run defaultLanguages operations).refines

end Phrasebook
