import Phrasebook.Proofs.EditDistance
import Phrasebook.Proofs.StoreContents
import Phrasebook.Store.Suggestion

/-! The names that a store offers for a name. The names that are close enough are ranked by their
distance, and at the same distance by when they were added; the first three are offered
(`Store.suggest_run`). How close is close enough depends on the bytes of the name asked for, while
distances are counted in characters: names of three characters may be offered names two edits away
(`Store.suggest_within_one_iff`). -/

namespace Phrasebook

/-- A stable sort puts elements that are equal for it in their order in the list. -/
theorem pairwise_mergeSort_of_pairwise {α : Type} {le : α → α → Bool} {R : α → α → Prop}
    {l : List α} (htrans : ∀ a b c : α, le a b = true → le b c = true → le a c = true)
    (htotal : ∀ a b : α, (le a b || le b a) = true) (h : l.Pairwise R) :
    (l.mergeSort le).Pairwise fun a b => le a b = true ∧ (le b a = true → R a b) := by
  -- Sorted with their places, which break ties, the elements come in the same order.
  have hsorted := List.pairwise_mergeSort (List.zipIdxLE_trans htrans) (List.zipIdxLE_total htotal)
    l.zipIdx
  have hplaces : (l.zipIdx.mergeSort (List.zipIdxLE le)).Pairwise fun a b => a.2 ≠ b.2 := by
    have hnodup : (l.zipIdx.map (·.2)).Nodup := by
      rw [List.zipIdx_map_snd]
      exact List.nodup_range'
    have hperm := (List.mergeSort_perm l.zipIdx (List.zipIdxLE le)).map (·.2)
    exact List.pairwise_map.1 (hperm.nodup_iff.2 hnodup)
  rw [← List.mergeSort_zipIdx, List.pairwise_map]
  refine (hsorted.and hplaces).imp_of_mem ?_
  rintro ⟨a, i⟩ ⟨b, j⟩ ha hb ⟨hle, hne⟩
  rw [List.mem_mergeSort, List.mem_zipIdx_iff_getElem?] at ha hb
  simp only [List.zipIdxLE] at hle hne
  by_cases hab : le a b = true
  · refine ⟨hab, fun hba => ?_⟩
    rw [if_pos hab, if_pos hba, decide_eq_true_eq] at hle
    obtain ⟨hi, hai⟩ := List.getElem?_eq_some_iff.1 ha
    obtain ⟨hj, hbj⟩ := List.getElem?_eq_some_iff.1 hb
    have hlater := List.pairwise_iff_getElem.1 h i j hi hj (lt_of_le_of_ne hle hne)
    rwa [hai, hbj] at hlater
  · rw [if_neg hab] at hle
    exact absurd hle Bool.false_ne_true

namespace Suggestion

/-- How many edits a name is away from the one asked for. -/
def edits (asked stored : String) : Nat :=
  Text.distance asked.toList stored.toList

theorem edits_self (asked : String) : edits asked asked = 0 :=
  Text.distance_self asked.toList

/-- The name is another one and close enough. -/
def isEligible (asked stored : String) : Bool :=
  decide (0 < edits asked stored ∧ edits asked stored ≤ limit asked)

/-- The first name is no further away than the second. -/
def isCloser (asked first second : String) : Bool :=
  decide (edits asked first ≤ edits asked second)

/-- Of two names the closer one comes first, and of two that are as close the one that was added
first. -/
def Precedes (asked : String) (added : List String) (first second : String) : Prop :=
  edits asked first < edits asked second ∨
    edits asked first = edits asked second ∧ added.idxOf first < added.idxOf second

/-- The other names that were added and are close enough, in the order in which they are offered. -/
structure IsRanking (asked : String) (added ranked : List String) : Prop where
  mem_iff : ∀ stored : String, stored ∈ ranked ↔
    stored ∈ added ∧ 1 ≤ edits asked stored ∧
      edits asked stored ≤ if asked.utf8ByteSize ≤ 3 then 1 else 2
  pairwise : ranked.Pairwise (Precedes asked added)

variable {asked : String} {added ranked : List String}

theorem of?_eq (asked stored : String) :
    of? asked stored =
      if isEligible asked stored then some ⟨edits asked stored, stored⟩ else none := by
  by_cases h : 0 < edits asked stored ∧ edits asked stored ≤ limit asked
  · rw [isEligible, decide_eq_true h, if_pos rfl]
    exact if_pos h
  · rw [isEligible, decide_eq_false h, if_neg Bool.false_ne_true]
    exact if_neg h

theorem filterMap_of? (asked : String) (names : List String) :
    names.filterMap (of? asked) =
      (names.filter (isEligible asked)).map fun stored => ⟨edits asked stored, stored⟩ := by
  induction names with
  | nil => rfl
  | cons stored names ih =>
      rw [List.filterMap_cons, of?_eq, List.filter_cons, ih]
      cases isEligible asked stored <;> rfl

theorem isCloser_trans (asked first second third : String) (h : isCloser asked first second = true)
    (h' : isCloser asked second third = true) : isCloser asked first third = true := by
  simp only [isCloser, decide_eq_true_eq] at *
  omega

theorem isCloser_total (asked first second : String) :
    (isCloser asked first second || isCloser asked second first) = true := by
  simp only [isCloser, Bool.or_eq_true, decide_eq_true_eq]
  omega

/-- The eligible names are ranked when they are sorted by their distance alone, if they were in the
order in which they were added. -/
theorem isRanking_mergeSort {names : List String} (hmem : ∀ stored, stored ∈ names ↔ stored ∈ added)
    (horder : names.Pairwise fun first second => added.idxOf first < added.idxOf second) :
    IsRanking asked added ((names.filter (isEligible asked)).mergeSort (isCloser asked)) where
  mem_iff stored := by
    rw [List.mem_mergeSort, List.mem_filter, hmem, isEligible, decide_eq_true_eq, limit]
    rfl
  pairwise := by
    have hsorted := pairwise_mergeSort_of_pairwise (isCloser_trans asked) (isCloser_total asked)
      (horder.filter (isEligible asked))
    refine hsorted.imp fun {first second} h => ?_
    simp only [isCloser, decide_eq_true_eq] at h
    obtain ⟨hle, horder⟩ := h
    rcases Nat.lt_or_eq_of_le hle with hlt | heq
    · exact .inl hlt
    · exact .inr ⟨heq, horder heq.ge⟩

namespace IsRanking

theorem nodup (h : IsRanking asked added ranked) : ranked.Nodup := by
  refine h.pairwise.imp fun {first second} hprecedes heq => ?_
  subst heq
  rcases hprecedes with hlt | ⟨-, hlt⟩ <;> exact Nat.lt_irrefl _ hlt

theorem asked_not_mem (h : IsRanking asked added ranked) : asked ∉ ranked := by
  intro hmem
  have hpos := ((h.mem_iff asked).1 hmem).2.1
  rw [edits_self] at hpos
  exact Nat.not_succ_le_zero 0 hpos

/-- A name that is left out comes after the first three. -/
theorem precedes_of_not_mem_take (h : IsRanking asked added ranked) {stored : String}
    (hmem : stored ∈ ranked) (hout : stored ∉ ranked.take 3) :
    (ranked.take 3).length = 3 ∧ ∀ other ∈ ranked.take 3, Precedes asked added other stored := by
  have hrest : stored ∈ ranked.drop 3 := by
    rw [← List.take_append_drop 3 ranked, List.mem_append] at hmem
    exact hmem.resolve_left hout
  have hpairwise := h.pairwise
  rw [← List.take_append_drop 3 ranked, List.pairwise_append] at hpairwise
  refine ⟨?_, fun other hother => hpairwise.2.2 other hother stored hrest⟩
  have hlength := List.length_pos_of_mem hrest
  rw [List.length_drop] at hlength
  rw [List.length_take]
  omega

end IsRanking

end Suggestion

namespace Store

open Suggestion

/-- What is offered, without the distances that it is sorted by. -/
theorem suggest_eq (store : Store) (asked : String) :
    store.suggest asked =
      ((store.names.filter (isEligible asked)).mergeSort (isCloser asked)).take 3 := by
  let eligible := store.names.filter (isEligible asked)
  let suggestion := fun stored => (⟨edits asked stored, stored⟩ : Suggestion)
  have hsort : (eligible.mergeSort (isCloser asked)).map suggestion =
      (eligible.map suggestion).mergeSort Suggestion.le :=
    List.map_mergeSort fun _ _ _ _ => rfl
  calc
    store.suggest asked =
        (((eligible.map suggestion).mergeSort Suggestion.le).take 3).map (·.name) := by
      rw [suggest, filterMap_of?]
    _ = (((eligible.mergeSort (isCloser asked)).take 3).map suggestion).map (·.name) := by
      rw [← hsort, List.map_take (f := suggestion)]
    _ = (eligible.mergeSort (isCloser asked)).take 3 := by
      rw [List.map_map]
      exact List.map_id _

theorem Holds.exists_isRanking {store : Store} {history : List Message} (h : store.Holds history)
    (asked : String) :
    ∃ ranked, IsRanking asked (history.map (·.name)) ranked ∧
      store.suggest asked = ranked.take 3 := by
  refine ⟨_, isRanking_mergeSort ?_ ?_, store.suggest_eq asked⟩
  · intro stored
    rw [h.names, mem_firstSeen, List.mem_map]
  · rw [h.names]
    exact pairwise_idxOf_firstSeen Message.name history

/-- After any operations, the names offered for a name are the first three of the other names that
are close enough, the closest ones first and those added first before others at their distance. The
distance is the least number of edits between the names. -/
theorem suggest_run (defaultLanguages : List Language.Range) (operations : List Operation)
    (asked : String) :
    let offered := ((new defaultLanguages).run operations).suggest asked
    let added := (history operations).map (·.name)
    (∀ stored : String,
      IsLeast {n | Text.Edits n asked.toList stored.toList} (edits asked stored)) ∧
    ∃ ranked, IsRanking asked added ranked ∧ offered = ranked.take 3 ∧ offered.Nodup ∧
      asked ∉ offered ∧
      ∀ stored ∈ ranked, stored ∉ offered →
        offered.length = 3 ∧ ∀ other ∈ offered, Precedes asked added other stored := by
  intro offered added
  refine ⟨fun stored => Text.isLeast_distance asked.toList stored.toList, ?_⟩
  obtain ⟨ranked, hranked, hoffered⟩ :=
    (holds_run defaultLanguages operations).exists_isRanking asked
  refine ⟨ranked, hranked, hoffered, ?_⟩
  rw [show offered = ranked.take 3 from hoffered]
  refine ⟨hranked.nodup.sublist (List.take_sublist 3 ranked), ?_, ?_⟩
  · exact fun hmem => hranked.asked_not_mem (List.mem_of_mem_take hmem)
  · exact fun stored hmem hout => hranked.precedes_of_not_mem_take hmem hout

/-- A name of up to three bytes is offered names one edit away, a longer one up to two. -/
theorem edits_le_of_mem_suggest {store : Store} {asked stored : String}
    (h : stored ∈ store.suggest asked) :
    edits asked stored ≤ if asked.utf8ByteSize ≤ 3 then 1 else 2 := by
  rw [suggest_eq] at h
  have hmem := List.mem_of_mem_take h
  rw [List.mem_mergeSort, List.mem_filter, isEligible, decide_eq_true_eq] at hmem
  exact hmem.2.2

/-- The only name of a store is offered if it is close enough. -/
theorem suggest_of_names {store : Store} {asked stored : String} (hnames : store.names = [stored])
    (heligible : isEligible asked stored = true) : store.suggest asked = [stored] := by
  rw [suggest_eq, hnames, List.filter_singleton, heligible, cond_true, List.mergeSort_singleton]
  rfl

end Store

/-- A message that has a name and nothing else. -/
def Message.ofName (name : String) : Message :=
  ⟨name, none, none, none, .empty, ⟨name, "", basicEngineId⟩⟩

theorem Store.names_of_add (defaultLanguages : List Language.Range) (name : String) :
    ((new defaultLanguages).run [.add (.ofName name)]).names = [name] :=
  (holds_run defaultLanguages [.add (.ofName name)]).names

/-- A name with two letters more is two edits away. -/
theorem Suggestion.edits_append (asked : String) : edits asked (asked ++ "xy") = 2 := by
  have hle : edits asked (asked ++ "xy") ≤ 2 := by
    refine (Text.isLeast_distance _ _).2 ?_
    have hone := Text.Edit.insert asked.toList 'x' []
    have htwo := Text.Edit.insert (asked.toList ++ ['x']) 'y' []
    rw [List.append_nil] at hone htwo
    rw [String.toList_append]
    simpa using ((Text.Edits.refl _).step hone).step htwo
  have hlength : (asked ++ "xy").toList.length ≤
      asked.toList.length + edits asked (asked ++ "xy") :=
    Text.length_le_add_distance asked.toList (asked ++ "xy").toList
  rw [String.toList_append, List.length_append] at hlength
  exact Nat.le_antisymm hle (Nat.le_of_add_le_add_left hlength)

/-- Whatever is stored, a name is offered only names at most one edit away exactly if it takes no
more than three bytes. So this holds of names of up to three ASCII characters, and it fails for
every name of as many characters that takes more bytes. -/
theorem Store.suggest_within_one_iff (asked : String) :
    (∀ (defaultLanguages : List Language.Range) (operations : List Operation),
      ∀ stored ∈ ((new defaultLanguages).run operations).suggest asked,
        ∃ n ≤ 1, Text.Edits n asked.toList stored.toList) ↔ asked.utf8ByteSize ≤ 3 := by
  constructor
  · intro h
    by_contra hlong
    have heligible : Suggestion.isEligible asked (asked ++ "xy") = true := by
      rw [Suggestion.isEligible, Suggestion.edits_append, Suggestion.limit, if_neg hlong]
      rfl
    have hoffered := suggest_of_names (names_of_add [] (asked ++ "xy")) heligible
    obtain ⟨n, hn, hedits⟩ := h [] [.add (.ofName (asked ++ "xy"))] (asked ++ "xy")
      (hoffered ▸ List.mem_singleton_self _)
    have hle : Suggestion.edits asked (asked ++ "xy") ≤ n := (Text.isLeast_distance _ _).2 hedits
    rw [Suggestion.edits_append] at hle
    omega
  · intro hshort defaultLanguages operations stored hmem
    have hle := edits_le_of_mem_suggest hmem
    rw [if_pos hshort] at hle
    exact ⟨_, hle, (Text.isLeast_distance asked.toList stored.toList).1⟩

/-- Three letters of two bytes each are offered a name that differs in two of them. -/
theorem Store.suggest_two_edits_away :
    "äöü".length = 3 ∧
      (empty.run [.loadSource {} "äxy = 1"]).suggest "äöü" = ["äxy"] ∧
      Suggestion.edits "äöü" "äxy" = 2 ∧
      ¬∀ asked : String, asked.length ≤ 3 → ∀ operations : List Operation,
        ∀ stored ∈ (empty.run operations).suggest asked, Suggestion.edits asked stored ≤ 1 := by
  have hoffered : (empty.run [.loadSource {} "äxy = 1"]).suggest "äöü" = ["äxy"] := by
    refine suggest_of_names ?_ (by decide +kernel)
    rw [empty, (holds_run [] _).names]
    decide +kernel
  refine ⟨by decide +kernel, hoffered, by decide +kernel, fun h => ?_⟩
  have hle := h "äöü" (by decide +kernel) [.loadSource {} "äxy = 1"] "äxy"
    (hoffered ▸ List.mem_singleton_self _)
  exact absurd hle (by decide +kernel)

end Phrasebook
