import Phrasebook.Proofs.MessageJson
import Phrasebook.Proofs.StoreContents

/-! A store that is written out and loaded again. The messages of a store stand together by name, in
whatever order they were added, but as a history they leave what the store holds
(`Store.Holds.messages_holds`). So an empty store holds the same once they are read from their
document and added to it (`Store.reload_run`). -/

namespace Phrasebook

namespace Store.Holds

variable {store : Store} {history : List Message}

theorem firstSeen_name_messages (h : store.Holds history) :
    firstSeen Message.name store.messages = store.names := by
  rw [h.messages]
  apply firstSeen_flatMap
  · rw [h.names]
    exact nodup_firstSeen Message.name history
  · intro name hname
    rw [h.names] at hname
    rw [h.variants]
    exact variantsLeft_filter_ne_nil hname
  · intro name _ message hmem
    exact (h.mem_variants.1 hmem).1

theorem bucketLeft_messages (h : store.Holds history) (name : String) :
    bucketLeft store.messages name = bucketLeft history name := by
  have hdistinct : ((store.variants name).map (·.identity)).Nodup := by
    rw [h.map_identity_variants]
    exact nodup_firstSeen _ _
  rw [bucketLeft, h.filter_name_messages, variantsLeft_of_nodup hdistinct, h.variants, bucketLeft]

/-- A store holds its own messages as a history. -/
theorem messages_holds (h : store.Holds history) : store.Holds store.messages where
  buckets := by
    rw [h.firstSeen_name_messages, h.names, h.buckets]
    exact List.map_congr_left fun name _ => (h.bucketLeft_messages name).symm
  index := by
    rw [h.firstSeen_name_messages, h.names]
    exact h.index

/-- Stores with the same history have the same contents. -/
theorem contents_eq {store' : Store} (h : store.Holds history) (h' : store'.Holds history) :
    store'.names = store.names ∧ (∀ name, store'.variants name = store.variants name) ∧
      store'.messages = store.messages := by
  have hnames : store'.names = store.names := by rw [h.names, h'.names]
  have hvariants : ∀ name, store'.variants name = store.variants name := fun name => by
    rw [h.variants, h'.variants]
  refine ⟨hnames, hvariants, ?_⟩
  rw [h.messages, h'.messages, hnames]
  exact List.flatMap_congr fun name _ => hvariants name

end Store.Holds

open CommandLine in
/-- The messages of a store are written out, read back and added to an empty store. Unless the only
count of a range stands for infinity, they are read, and the new store has the same names and the
same variants in the same order, so that it is written out in the same way. -/
theorem Store.reload_run (defaultLanguages fresh : List Language.Range)
    (operations : List Operation) :
    let store := (Store.new defaultLanguages).run operations
    (∀ message ∈ store.messages, ∀ range ∈ message.countRange, ¬range.IsInfinity) →
      ∃ messages, readDocument? (document (messageDocument store.messages)) = some messages ∧
        let copy := (Store.new fresh).addAll messages
        copy.names = store.names ∧ (∀ name, copy.variants name = store.variants name) ∧
          copy.messages = store.messages := by
  intro store hcounts
  have hstore : store.Holds store.messages :=
    (Store.holds_run defaultLanguages operations).messages_holds
  have hcopy : ((Store.new fresh).addAll store.messages).Holds store.messages :=
    (Store.Holds.new fresh).addAll store.messages
  exact ⟨store.messages, readDocument?_messageDocument hcounts, hstore.contents_eq hcopy⟩

open CommandLine in
/-- The two messages of one name are written together, although another one was added between them;
the third was added in place of the first. -/
theorem Store.reload_run_interleaved :
    let template (source : String) : Template := ⟨"\"id\"", source, "basic"⟩
    let hello : Message := ⟨"hello", some "en", none, none, .empty, template "Hi"⟩
    let files : Message := ⟨"files", none, some ⟨2, Int64.maxValue⟩, none, .empty, template "\t"⟩
    let hallo : Message :=
      ⟨"hello", some "de", none, some .female, Dictionary.ofList [("tone", "")], template "Hallo"⟩
    let store := (Store.new []).run
      [.add { hello with template := template "Hey" }, .addAll [files, hallo], .add hello]
    (∀ message ∈ store.messages, ∀ range ∈ message.countRange, ¬range.IsInfinity) ∧
      ∃ messages, readDocument? (document (messageDocument store.messages)) = some messages ∧
        let copy := (Store.new []).addAll messages
        copy.names = ["hello", "files"] ∧ copy.variants "hello" = [hello, hallo] ∧
          copy.variants "files" = [files] := by
  intro template hello files hallo store
  have h : store.Holds _ := holds_run []
    [.add { hello with template := template "Hey" }, .addAll [files, hallo], .add hello]
  have hnames : store.names = ["hello", "files"] := by
    rw [h.names]
    decide
  have hhello : store.variants "hello" = [hello, hallo] := by
    rw [h.variants]
    decide
  have hfiles : store.variants "files" = [files] := by
    rw [h.variants]
    decide
  have hcounts : ∀ message ∈ store.messages, ∀ range ∈ message.countRange, ¬range.IsInfinity := by
    rw [h.messages, hnames, List.flatMap_cons, List.flatMap_singleton, hhello, hfiles]
    decide
  obtain ⟨messages, hread, hcopy, hvariants, -⟩ := reload_run [] [] _ hcounts
  exact ⟨hcounts, messages, hread, hcopy.trans hnames, (hvariants "hello").trans hhello,
    (hvariants "files").trans hfiles⟩

end Phrasebook
