import Phrasebook.Proofs.StoreContents

/-! Messages that are added again. If no later message has taken the place of a message, adding it
again puts it where it already stands. A list of messages may hold several of the same identity, of
which the earlier ones take the place for a while; but what is left at the end is the last message of
each identity, and that is the one stored already. So a store stays the same, its index included, if
it is given messages again that are the latest of their identities (`Store.Holds.addAll_latest`).
Main statement: `Store.addAll_again`. -/

namespace Phrasebook

/-- What a history holds last of the identities of some messages is the last of those messages. -/
def AreLatest (messages history : List Message) : Prop :=
  ∀ message ∈ messages, latest? history message.identity = latest? messages message.identity

namespace AreLatest

variable {messages history : List Message}

/-- The messages are latest until others with their identities come. -/
theorem append_of_disjoint {later : List Message}
    (h : ∀ message ∈ later, ∀ repeated ∈ messages, message.identity ≠ repeated.identity)
    (history : List Message) : AreLatest messages (history ++ messages ++ later) := by
  intro message hmem
  have hlater : latest? later message.identity = none :=
    latest?_eq_none_iff.2 fun other hother => h other hother message hmem
  obtain ⟨last, hlast⟩ := exists_latest? (mem_firstSeen.2 ⟨message, hmem, rfl⟩)
  rw [latest?_append, latest?_append, hlater, hlast, Option.none_or, Option.some_or]

/-- They are latest among the messages of each name. -/
theorem filter_name (h : AreLatest messages history) (name : String) :
    AreLatest (messages.filter (·.name = name)) (history.filter (·.name = name)) := by
  intro message hmem
  obtain ⟨hmem, hname⟩ := List.mem_filter.1 hmem
  have hname : message.identity.name = name := of_decide_eq_true hname
  rw [latest?_filter_name hname, latest?_filter_name hname, h message hmem]

/-- Each identity is one of the history. -/
theorem exists_mem (h : AreLatest messages history) {message : Message} (hmem : message ∈ messages) :
    ∃ stored ∈ history, stored.identity = message.identity := by
  obtain ⟨last, hlast⟩ := exists_latest? (mem_firstSeen.2 ⟨message, hmem, rfl⟩)
  have hstored := (h message hmem).trans hlast
  exact ⟨last, mem_of_latest? hstored, identity_of_latest? hstored⟩

theorem latest?_append_eq (h : AreLatest messages history) (identity : Message.Identity) :
    latest? (history ++ messages) identity = latest? history identity := by
  rw [latest?_append]
  cases hlast : latest? messages identity with
  | none => rw [Option.none_or]
  | some message =>
      obtain rfl := identity_of_latest? hlast
      rw [h message (mem_of_latest? hlast), hlast, Option.some_or]

/-- Nothing changes when the messages come once more. -/
theorem variantsLeft_append (h : AreLatest messages history) :
    variantsLeft (history ++ messages) = variantsLeft history := by
  have hidentities : firstSeen Message.identity (history ++ messages) =
      firstSeen Message.identity history :=
    firstSeen_append_of_mem fun message hmem => mem_firstSeen.2 (h.exists_mem hmem)
  rw [variantsLeft, hidentities, variantsLeft]
  exact List.filterMap_congr fun identity _ => h.latest?_append_eq identity

theorem bucketLeft_append (h : AreLatest messages history) (name : String) :
    bucketLeft (history ++ messages) name = bucketLeft history name := by
  rw [bucketLeft, List.filter_append, (h.filter_name name).variantsLeft_append, bucketLeft]

theorem name_mem (h : AreLatest messages history) {message : Message} (hmem : message ∈ messages) :
    message.name ∈ firstSeen Message.name history := by
  obtain ⟨stored, hstored, hidentity⟩ := h.exists_mem hmem
  exact mem_firstSeen.2 ⟨stored, hstored, congrArg Message.Identity.name hidentity⟩

end AreLatest

namespace Store

variable {store : Store} {history messages : List Message}

/-- Messages of names that are stored already change nothing but the buckets. -/
theorem Holds.addAll_of_mem (h : store.Holds history)
    (hnames : ∀ message ∈ messages, message.name ∈ firstSeen Message.name history) :
    ∃ buckets, store.addAll messages = { store with buckets } := by
  induction messages generalizing store history with
  | nil => exact ⟨store.buckets, rfl⟩
  | cons message messages ih =>
      obtain ⟨hname, hnames⟩ := List.forall_mem_cons.1 hnames
      obtain ⟨place, hplace⟩ : ∃ place, store.index[message.name]? = some place := by
        rw [← Option.ne_none_iff_exists', Ne, h.index_eq_none_iff, not_not]
        exact hname
      obtain ⟨buckets, hrest⟩ := ih (h.add message) fun other hother => by
        rw [firstSeen_concat_of_mem hname]
        exact hnames other hother
      refine ⟨buckets, ?_⟩
      rw [Store.addAll, List.foldl_cons, ← Store.addAll, hrest, Store.add, hplace]

/-- A store that is given the latest messages again stays the same. -/
theorem Holds.addAll_latest (h : store.Holds history) (hlatest : AreLatest messages history) :
    store.addAll messages = store := by
  have hseen : ∀ message ∈ messages, message.name ∈ firstSeen Message.name history :=
    fun _ hmem => hlatest.name_mem hmem
  have hbuckets : (store.addAll messages).buckets = store.buckets := by
    rw [← Array.toList_inj, (h.addAll messages).buckets, h.buckets, firstSeen_append_of_mem hseen]
    exact List.map_congr_left fun name _ => hlatest.bucketLeft_append name
  obtain ⟨buckets, hsame⟩ := h.addAll_of_mem hseen
  rw [hsame] at hbuckets ⊢
  exact congrArg (fun buckets => { store with buckets }) hbuckets

theorem Holds.addAll_addAll (h : store.Holds history) (messages : List Message) :
    (store.addAll messages).addAll messages = store.addAll messages := by
  have hlatest : AreLatest messages (history ++ messages ++ []) :=
    .append_of_disjoint (by simp) history
  rw [List.append_nil] at hlatest
  exact (h.addAll messages).addAll_latest hlatest

/-- What has been loaded successfully is loaded once more with the same result. -/
theorem Holds.loadSource_again (h : store.Holds history) {options : Source.Options}
    {source : String} {loaded : Loaded} (hload : store.loadSource options source = .ok loaded) :
    loaded.store.loadSource options source = .ok loaded := by
  cases hread : Source.read options source with
  | error problem =>
      rw [loadSource, Action.loadSource, hread] at hload
      cases hload
  | ok reading =>
      rw [loadSource_of_read hread] at hload ⊢
      obtain rfl := Except.ok.inj hload
      rw [h.addAll_addAll]

theorem Holds.left_loadSource_again (h : store.Holds history) (options : Source.Options)
    (source : String) :
    (Action.loadSource options source).left ((Action.loadSource options source).left store) =
      (Action.loadSource options source).left store := by
  rw [Action.loadSource]
  cases Source.read options source with
  | error problem => rfl
  | ok reading => exact h.addAll_addAll reading.messages

/-- Messages may be added again, also when they repeat identities among themselves: whatever has been
done with a store before them, and whatever has been added after them with other identities, the
store stays the same. So a source is loaded twice with the same result as once. -/
theorem addAll_again (defaultLanguages : List Language.Range) (operations : List Operation) :
    let store := (Store.new defaultLanguages).run operations
    (∀ (messages : List Message) (later : List Operation),
      (∀ message ∈ Store.history later, ∀ repeated ∈ messages,
        message.identity ≠ repeated.identity) →
      ((store.addAll messages).run later).addAll messages = (store.addAll messages).run later) ∧
    ∀ (options : Source.Options) (source : String),
      (∀ loaded : Loaded, store.loadSource options source = .ok loaded →
        loaded.store.loadSource options source = .ok loaded) ∧
      store.run [.loadSource options source, .loadSource options source] =
        store.run [.loadSource options source] := by
  intro store
  have h : store.Holds (Store.history operations) := holds_run defaultLanguages operations
  refine ⟨?_, fun options source => ⟨fun _ => h.loadSource_again, ?_⟩⟩
  · intro messages later hother
    have hafter := (h.addAll messages).run later
    exact hafter.addAll_latest (.append_of_disjoint hother (Store.history operations))
  · exact h.left_loadSource_again options source

/-- The first of the repeated messages takes the place of the second for a while. The message that
comes in between has another language. -/
theorem addAll_again_german :
    let template (source : String) : Template := ⟨"hello", source, "basic"⟩
    let hello : Message := ⟨"hello", some "en", none, none, .empty, template "Hello"⟩
    let hey : Message := { hello with template := template "Hey" }
    let hallo : Message := ⟨"hello", some "de", none, none, .empty, template "Hallo"⟩
    let store := (Store.new []).run [.loadSource {} "bye = Bye\nhello#en = Hi"]
    let after := (store.addAll [hello, hey]).run [.add hallo]
    after.variants "hello" = [hey, hallo] ∧ (after.add hello).variants "hello" = [hello, hallo] ∧
      after.addAll [hello, hey] = after := by
  intro template hello hey hallo store after
  have hstore : store.Holds _ := holds_run [] [.loadSource {} "bye = Bye\nhello#en = Hi"]
  have hafter := (hstore.addAll [hello, hey]).run [.add hallo]
  refine ⟨?_, ?_, (addAll_again [] _).1 [hello, hey] [.add hallo] (by decide)⟩
  · rw [hafter.variants]
    decide +kernel
  · rw [(hafter.add hello).variants]
    decide +kernel

end Store

end Phrasebook
