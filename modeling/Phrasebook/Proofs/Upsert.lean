import Phrasebook.Proofs.FirstSeen
import Phrasebook.Store.Basic

/-! Histories of messages and the variants they leave. A history is the list of all messages ever
added. What it leaves holds one message for each identity: the place is that of the first message
with the identity, and the message is the last one. `Bucket.place` keeps this in step with one more
message (`variantsLeft_concat`). -/

namespace Phrasebook

/-- The message of a history that was added last with an identity. -/
def latest? (history : List Message) (identity : Message.Identity) : Option Message :=
  history.reverse.find? (·.identity = identity)

/-- One message for each identity of a history, in the order the identities were first added. -/
def variantsLeft (history : List Message) : List Message :=
  (firstSeen Message.identity history).filterMap (latest? history)

theorem latest?_eq_none_iff {history : List Message} {identity : Message.Identity} :
    latest? history identity = none ↔ ∀ message ∈ history, message.identity ≠ identity := by
  simp [latest?]

/-- Later messages come first. -/
theorem latest?_append (history messages : List Message) (identity : Message.Identity) :
    latest? (history ++ messages) identity =
      (latest? messages identity).or (latest? history identity) := by
  rw [latest?, List.reverse_append, List.find?_append, latest?, latest?]

theorem latest?_concat (history : List Message) (message : Message)
    (identity : Message.Identity) :
    latest? (history ++ [message]) identity =
      if message.identity = identity then some message else latest? history identity := by
  by_cases h : message.identity = identity <;> simp [latest?, h]

theorem identity_of_latest? {history : List Message} {identity : Message.Identity}
    {message : Message} (h : latest? history identity = some message) :
    message.identity = identity := by
  simpa using List.find?_some h

theorem mem_of_latest? {history : List Message} {identity : Message.Identity} {message : Message}
    (h : latest? history identity = some message) : message ∈ history :=
  List.mem_reverse.1 (List.mem_of_find?_eq_some h)

theorem exists_latest? {history : List Message} {identity : Message.Identity}
    (h : identity ∈ firstSeen Message.identity history) :
    ∃ message, latest? history identity = some message := by
  obtain ⟨message, hmem, hidentity⟩ := mem_firstSeen.1 h
  rw [← Option.isSome_iff_exists, latest?, List.find?_isSome]
  exact ⟨message, List.mem_reverse.2 hmem, decide_eq_true hidentity⟩

theorem mem_variantsLeft {history : List Message} {message : Message} :
    message ∈ variantsLeft history ↔ latest? history message.identity = some message := by
  rw [variantsLeft, List.mem_filterMap]
  constructor
  · rintro ⟨identity, -, h⟩
    rwa [identity_of_latest? h]
  · intro h
    exact ⟨message.identity, mem_firstSeen.2 ⟨message, mem_of_latest? h, rfl⟩, h⟩

theorem map_identity_variantsLeft (history : List Message) :
    (variantsLeft history).map (·.identity) = firstSeen Message.identity history := by
  rw [variantsLeft, List.map_filterMap]
  calc
    _ = (firstSeen Message.identity history).filterMap some := by
      apply List.filterMap_congr
      intro identity hmem
      obtain ⟨message, hmessage⟩ := exists_latest? hmem
      rw [hmessage, Option.map_some, identity_of_latest? hmessage]
    _ = firstSeen Message.identity history := List.filterMap_some

/-- The identity has the name, so messages of other names do not matter. -/
theorem latest?_filter_name {name : String} {identity : Message.Identity}
    (h : identity.name = name) (history : List Message) :
    latest? (history.filter (·.name = name)) identity = latest? history identity := by
  rw [latest?, ← List.filter_reverse, List.find?_filter, latest?]
  congr 1
  funext message
  have himp : message.identity = identity → message.name = name := by
    rintro rfl
    exact h
  simpa using himp

theorem variantsLeft_ne_nil {history : List Message} (h : history ≠ []) :
    variantsLeft history ≠ [] := by
  obtain ⟨message, rest, rfl⟩ := List.exists_cons_of_ne_nil h
  intro hnil
  have hmem : message.identity ∈ firstSeen Message.identity (message :: rest) :=
    mem_firstSeen.2 ⟨message, List.mem_cons_self, rfl⟩
  rw [← map_identity_variantsLeft, hnil] at hmem
  exact List.not_mem_nil hmem

namespace Bucket

theorem place_of_not_mem {message : Message} {l : List Message}
    (h : message.identity ∉ l.map (·.identity)) : place message l = l ++ [message] := by
  induction l with
  | nil => rfl
  | cons stored rest ih =>
      rw [List.map_cons, List.mem_cons, not_or] at h
      rw [place, if_neg (Ne.symm h.1), ih h.2, List.cons_append]

/-- As identities are distinct, only the message with the same identity is replaced. -/
theorem place_of_mem {message : Message} {l : List Message}
    (hdistinct : (l.map (·.identity)).Nodup) (h : message.identity ∈ l.map (·.identity)) :
    place message l =
      l.map fun stored => if stored.identity = message.identity then message else stored := by
  induction l with
  | nil => simp at h
  | cons stored rest ih =>
      rw [List.map_cons, List.nodup_cons] at hdistinct
      by_cases heq : stored.identity = message.identity
      · have hrest : ∀ other ∈ rest, other.identity ≠ message.identity := by
          intro other hother hsame
          exact hdistinct.1 (heq ▸ hsame ▸ List.mem_map_of_mem hother)
        rw [place, if_pos heq, List.map_cons, if_pos heq]
        congr 1
        calc
          rest = rest.map id := List.map_id rest |>.symm
          _ = _ := List.map_congr_left fun other hother => (if_neg (hrest other hother)).symm
      · have hmem : message.identity ∈ rest.map (·.identity) := by
          rw [List.map_cons, List.mem_cons] at h
          exact h.resolve_left (Ne.symm heq)
        rw [place, if_neg heq, ih hdistinct.2 hmem, List.map_cons, if_neg heq]

end Bucket

/-- Adding one message after a history puts it in its place among the variants left. -/
theorem variantsLeft_concat (history : List Message) (message : Message) :
    variantsLeft (history ++ [message]) = Bucket.place message (variantsLeft history) := by
  have hids := map_identity_variantsLeft history
  by_cases h : message.identity ∈ firstSeen Message.identity history
  · have hnodup := nodup_firstSeen Message.identity history
    rw [Bucket.place_of_mem (hids ▸ hnodup) (hids ▸ h), variantsLeft,
      firstSeen_concat_of_mem h, variantsLeft, List.map_filterMap]
    apply List.filterMap_congr
    intro identity hmem
    obtain ⟨stored, hstored⟩ := exists_latest? hmem
    have hidentity := identity_of_latest? hstored
    rw [latest?_concat, hstored, Option.map_some, hidentity]
    by_cases heq : identity = message.identity
    · rw [if_pos heq, if_pos heq.symm]
    · rw [if_neg heq, if_neg (Ne.symm heq)]
  · rw [Bucket.place_of_not_mem (hids ▸ h), variantsLeft, firstSeen_concat_of_not_mem h,
      List.filterMap_append, variantsLeft]
    congr 1
    · apply List.filterMap_congr
      intro identity hmem
      have hne : message.identity ≠ identity := fun heq => h (heq ▸ hmem)
      rw [latest?_concat, if_neg hne]
    · simp [latest?_concat]

/-- Messages with distinct identities are all left. -/
theorem variantsLeft_of_nodup {history : List Message} (h : (history.map (·.identity)).Nodup) :
    variantsLeft history = history := by
  induction history using List.reverseRecOn with
  | nil => rfl
  | append_singleton history message ih =>
      rw [List.map_append, List.map_singleton, List.nodup_append] at h
      obtain ⟨hbefore, -, hnew⟩ := h
      have hne : message.identity ∉ history.map (·.identity) := fun hmem =>
        hnew _ hmem _ (List.mem_singleton_self _) rfl
      rw [variantsLeft_concat, ih hbefore, Bucket.place_of_not_mem hne]

end Phrasebook
