import Phrasebook.Proofs.Upsert
import Phrasebook.Store.Loading
import Mathlib.Data.List.Nodup

/-! Stores under any sequence of operations. What a store holds is determined by the history of the
messages that its operations have added: one bucket for each name, in the order the names were first
added, with the variants that the messages of the name leave, and an index that gives the place of
each bucket (`Store.Holds`). One addition keeps this (`Store.Holds.add`), and so does every run
(`Store.holds_run`). -/

namespace Phrasebook

/-- What can be done with a store. -/
inductive Store.Operation where
  | add (message : Message)
  | addAll (messages : List Message)
  | loadSource (options : Source.Options) (source : String)
  | loadDefinitions (options : Source.Options) (definitions : Definitions)
  | loadFile (options : Source.Options) (reader : File.Reader) (path : String)
  | setDefaultLanguages (ranges : List Language.Range)
  | setResolution (resolution : Language.Resolution)
  | registerEngine (id : String) (engine : Engine)

namespace Store

/-- The messages of a reading; a failed one has none. -/
def readMessages {ε : Type} : Except ε Source.Reading → List Message
  | .ok reading => reading.messages
  | .error _ => []

namespace Operation

def apply (store : Store) : Operation → Store
  | add message => store.add message
  | addAll messages => store.addAll messages
  | loadSource options source => (Action.loadSource options source).left store
  | loadDefinitions options definitions => (Action.loadDefinitions options definitions).left store
  | loadFile options reader path => (Action.loadFile options reader path).left store
  | setDefaultLanguages ranges => { store with defaultLanguages := ranges }
  | setResolution resolution => { store with resolution }
  | registerEngine id engine => store.registerEngine id engine

/-- The messages that an operation adds, in the order it adds them. -/
def messages : Operation → List Message
  | add message => [message]
  | addAll messages => messages
  | loadSource options source => readMessages (Source.read options source)
  | loadDefinitions options definitions => readMessages (definitions.read options)
  | loadFile options reader path => readMessages (options.loadFile reader path)
  | setDefaultLanguages _ => []
  | setResolution _ => []
  | registerEngine _ _ => []

end Operation

def run (store : Store) (operations : List Operation) : Store :=
  operations.foldl Operation.apply store

/-- All messages that the operations add, in the order they are added. -/
def history (operations : List Operation) : List Message :=
  operations.flatMap Operation.messages

end Store

/-- Additions leave the settings as they are. -/
theorem Store.settings_addAll (store : Store) (messages : List Message) :
    (store.addAll messages).resolution = store.resolution ∧
      (store.addAll messages).defaultLanguages = store.defaultLanguages := by
  induction messages generalizing store with
  | nil => exact ⟨rfl, rfl⟩
  | cons message messages ih =>
      obtain ⟨hresolution, hdefaults⟩ := ih (store.add message)
      rw [addAll, List.foldl_cons, ← addAll, hresolution, hdefaults]
      exact ⟨resolution_add store message, defaultLanguages_add store message⟩

theorem Store.engines_addAll (store : Store) (messages : List Message) :
    (store.addAll messages).engines = store.engines := by
  induction messages generalizing store with
  | nil => rfl
  | cons message messages ih => rw [addAll, List.foldl_cons, ← addAll, ih, engines_add]

/-- The bucket that a history leaves for a name. -/
def bucketLeft (history : List Message) (name : String) : Bucket :=
  ⟨name, variantsLeft (history.filter (·.name = name))⟩

theorem filter_name_of_not_mem {history : List Message} {name : String}
    (h : name ∉ firstSeen Message.name history) : history.filter (·.name = name) = [] := by
  rw [List.filter_eq_nil_iff]
  intro message hmem
  simpa using fun hname => h (mem_firstSeen.2 ⟨message, hmem, hname⟩)

theorem variantsLeft_filter_ne_nil {history : List Message} {name : String}
    (h : name ∈ firstSeen Message.name history) :
    variantsLeft (history.filter (·.name = name)) ≠ [] := by
  obtain ⟨message, hmem, hname⟩ := mem_firstSeen.1 h
  apply variantsLeft_ne_nil
  exact List.ne_nil_of_mem (List.mem_filter.2 ⟨hmem, decide_eq_true hname⟩)

theorem bucketLeft_concat_self (history : List Message) (message : Message) :
    bucketLeft (history ++ [message]) message.name =
      (bucketLeft history message.name).add message := by
  rw [bucketLeft, List.filter_append, List.filter_singleton, decide_eq_true rfl, cond_true,
    variantsLeft_concat, Bucket.add, bucketLeft]

theorem bucketLeft_concat_of_ne (history : List Message) {message : Message} {name : String}
    (h : message.name ≠ name) :
    bucketLeft (history ++ [message]) name = bucketLeft history name := by
  simp [bucketLeft, h]

/-- The store holds what a history leaves, and its index finds the bucket of each name. -/
structure Store.Holds (store : Store) (history : List Message) : Prop where
  buckets : store.buckets.toList = (firstSeen Message.name history).map (bucketLeft history)
  index : ∀ (name : String) (place : Nat),
    store.index[name]? = some place ↔ (firstSeen Message.name history)[place]? = some name

namespace Store.Holds

variable {store : Store} {history : List Message}

theorem new (defaultLanguages : List Language.Range) :
    (Store.new defaultLanguages).Holds [] where
  buckets := rfl
  index name place := by simp [Store.new, firstSeen]

theorem index_eq_none_iff (h : store.Holds history) (name : String) :
    store.index[name]? = none ↔ name ∉ firstSeen Message.name history := by
  rw [Option.eq_none_iff_forall_ne_some, List.mem_iff_getElem?]
  simp only [ne_eq, h.index, not_exists]

/-- A message of a name that is stored already. -/
theorem add_of_mem (h : store.Holds history) (message : Message) {place : Nat}
    (hplace : store.index[message.name]? = some place) :
    (store.add message).Holds (history ++ [message]) := by
  have hname : (firstSeen Message.name history)[place]? = some message.name :=
    (h.index message.name place).1 hplace
  have hnames : firstSeen Message.name (history ++ [message]) = firstSeen Message.name history :=
    firstSeen_concat_of_mem (List.mem_of_getElem? hname)
  constructor
  · rw [add, hplace, hnames]
    simp only [Array.toList_modify, h.buckets]
    apply List.ext_getElem?
    intro i
    rw [List.getElem?_modify, List.getElem?_map, List.getElem?_map]
    cases hi : (firstSeen Message.name history)[i]? with
    | none => rfl
    | some name =>
        by_cases heq : place = i
        · subst heq
          have hsame : message.name = name := by
            rw [hname] at hi
            exact Option.some.inj hi
          subst hsame
          simp [bucketLeft_concat_self]
        · have hne : message.name ≠ name := by
            intro hsame
            subst hsame
            have hlt := (List.getElem?_eq_some_iff.1 hname).1
            have hnodup := nodup_firstSeen Message.name history
            exact heq ((List.getElem?_inj hlt hnodup).1 (hname.trans hi.symm))
          simp [heq, bucketLeft_concat_of_ne _ hne]
  · intro name other
    rw [add, hplace, hnames]
    exact h.index name other

/-- The place after the last bucket goes to a new name, and the other places stay. -/
theorem index_insert (h : store.Holds history) {name : String}
    (hname : name ∉ firstSeen Message.name history) (other : String) (place : Nat) :
    (store.index.insert name store.buckets.size)[other]? = some place ↔
      (firstSeen Message.name history ++ [name])[place]? = some other := by
  have hsize : store.buckets.size = (firstSeen Message.name history).length := by
    rw [← Array.length_toList, h.buckets, List.length_map]
  simp only [Std.HashMap.getElem?_insert, beq_iff_eq, List.getElem?_append, hsize]
  by_cases heq : name = other
  · subst heq
    rw [if_pos rfl]
    by_cases hlt : place < (firstSeen Message.name history).length
    · have hne : (firstSeen Message.name history)[place]? ≠ some name := by
        intro heq
        exact hname (List.mem_of_getElem? heq)
      rw [if_pos hlt]
      simp only [Option.some.injEq, hne, iff_false]
      omega
    · rw [if_neg hlt, List.getElem?_singleton]
      simp only [Option.some.injEq, Option.ite_none_right_eq_some, and_true]
      omega
  · rw [if_neg heq, h.index]
    by_cases hlt : place < (firstSeen Message.name history).length
    · rw [if_pos hlt]
    · rw [if_neg hlt, List.getElem?_singleton, List.getElem?_eq_none (by omega)]
      simp [heq]

/-- A message of a new name. -/
theorem add_of_not_mem (h : store.Holds history) (message : Message)
    (hplace : store.index[message.name]? = none) :
    (store.add message).Holds (history ++ [message]) := by
  have hname : message.name ∉ firstSeen Message.name history :=
    (h.index_eq_none_iff message.name).1 hplace
  have hnames : firstSeen Message.name (history ++ [message]) =
      firstSeen Message.name history ++ [message.name] := firstSeen_concat_of_not_mem hname
  constructor
  · rw [add, hplace, hnames]
    simp only [Array.toList_push, h.buckets, List.map_append, List.map_singleton]
    congr 1
    · apply List.map_congr_left
      intro name hmem
      exact (bucketLeft_concat_of_ne history fun hsame => hname (hsame ▸ hmem)).symm
    · rw [bucketLeft_concat_self, bucketLeft, filter_name_of_not_mem hname]
      rfl
  · intro name place
    rw [add, hplace, hnames]
    exact h.index_insert hname name place

theorem add (h : store.Holds history) (message : Message) :
    (store.add message).Holds (history ++ [message]) := by
  cases hplace : store.index[message.name]? with
  | none => exact h.add_of_not_mem message hplace
  | some place => exact h.add_of_mem message hplace

theorem addAll (h : store.Holds history) (messages : List Message) :
    (store.addAll messages).Holds (history ++ messages) := by
  induction messages generalizing store history with
  | nil => simpa [Store.addAll] using h
  | cons message messages ih =>
      have hrest := ih (h.add message)
      rwa [List.append_assoc, List.singleton_append] at hrest

theorem left_load {ε : Type} (h : store.Holds history) (reading : Except ε Source.Reading) :
    ((Action.load reading).left store).Holds (history ++ readMessages reading) := by
  cases reading with
  | error problem => simpa [Action.left, readMessages] using h
  | ok reading => exact h.addAll reading.messages

theorem apply (h : store.Holds history) (operation : Operation) :
    (operation.apply store).Holds (history ++ operation.messages) := by
  cases operation with
  | add message => exact h.add message
  | addAll messages => exact h.addAll messages
  | loadSource options source => exact h.left_load (Source.read options source)
  | loadDefinitions options definitions => exact h.left_load (definitions.read options)
  | loadFile options reader path => exact h.left_load (options.loadFile reader path)
  | setDefaultLanguages | setResolution | registerEngine =>
      rw [Operation.messages, List.append_nil]
      exact ⟨h.buckets, h.index⟩

theorem run (h : store.Holds history) (operations : List Operation) :
    (store.run operations).Holds (history ++ Store.history operations) := by
  induction operations generalizing store history with
  | nil => simpa [Store.run, Store.history] using h
  | cons operation operations ih =>
      have hrest := ih (h.apply operation)
      rwa [List.append_assoc] at hrest

end Store.Holds

/-- What is in a store is determined by the messages that were added to it. -/
theorem Store.holds_run (defaultLanguages : List Language.Range) (operations : List Operation) :
    ((Store.new defaultLanguages).run operations).Holds (Store.history operations) :=
  (Store.Holds.new defaultLanguages).run operations

end Phrasebook
