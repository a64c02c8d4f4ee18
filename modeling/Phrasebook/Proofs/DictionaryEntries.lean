import Phrasebook.Dictionary
import Mathlib.Data.List.Induction
import Mathlib.Data.List.Pairwise
import Mathlib.Order.Basic

/-! The entries of a dictionary and what is found in it. As keys ascend, a value is found under a
key exactly if the two are an entry (`Dictionary.find?_eq_some_iff`), a value that is stored in
place of another changes that entry alone (`Dictionary.entries_insert`), and the entries that are
stored anew give the dictionary again (`Dictionary.ofList_entries`). -/

namespace Phrasebook

namespace Entries

variable {α : Type} {key : String} {value : α} {l : List (String × α)}

theorem mem_of_find? (h : find? key l = some value) : (key, value) ∈ l := by
  induction l with
  | nil => simp [find?] at h
  | cons head rest ih =>
      obtain ⟨k, v⟩ := head
      rw [find?] at h
      split at h
      next heq =>
        obtain rfl := Option.some.inj h
        rw [heq]
        exact List.mem_cons_self
      next => exact List.mem_cons_of_mem _ (ih h)

theorem find?_of_mem (hascending : l.Pairwise (·.1 < ·.1)) (h : (key, value) ∈ l) :
    find? key l = some value := by
  induction l with
  | nil => exact absurd h List.not_mem_nil
  | cons head rest ih =>
      obtain ⟨k, v⟩ := head
      obtain ⟨hhead, hrest⟩ := List.pairwise_cons.1 hascending
      rcases List.mem_cons.1 h with heq | hmem
      · obtain ⟨rfl, rfl⟩ := Prod.mk.inj heq
        rw [find?, if_pos rfl]
      · have hne : k ≠ key := fun heq => String.lt_irrefl _ (heq ▸ hhead (key, value) hmem)
        rw [find?, if_neg hne, ih hrest hmem]

/-- A key that is stored already keeps its place. -/
theorem insert_of_mem {old : α} (hascending : l.Pairwise (·.1 < ·.1)) (h : (key, old) ∈ l)
    (value : α) :
    insert key value l = l.map fun entry => if entry.1 = key then (key, value) else entry := by
  induction l with
  | nil => exact absurd h List.not_mem_nil
  | cons head rest ih =>
      obtain ⟨k, v⟩ := head
      obtain ⟨hhead, hrest⟩ := List.pairwise_cons.1 hascending
      rw [insert, List.map_cons]
      by_cases heq : key = k
      · have hsame : ∀ entry ∈ rest, (if entry.1 = key then (key, value) else entry) = entry := by
          intro entry hentry
          have hne : entry.1 ≠ key := fun hkey =>
            String.lt_irrefl _ (hkey ▸ heq ▸ hhead entry hentry)
          exact if_neg hne
        rw [if_neg (heq ▸ String.lt_irrefl _), if_pos heq, if_pos heq.symm, List.map_congr_left hsame,
          List.map_id']
      · have hmem : (key, old) ∈ rest := by
          rcases List.mem_cons.1 h with hentry | hmem
          · exact absurd (Prod.mk.inj hentry).1 heq
          · exact hmem
        have hlt : k < key := hhead (key, old) hmem
        rw [if_neg (String.lt_asymm hlt), if_neg heq, if_neg (Ne.symm heq), ih hrest hmem]

/-- A key after all others is stored at the end. -/
theorem insert_of_forall_lt {key : String} (h : ∀ entry ∈ l, entry.1 < key) (value : α) :
    insert key value l = l ++ [(key, value)] := by
  induction l with
  | nil => rfl
  | cons head rest ih =>
      obtain ⟨k, v⟩ := head
      obtain ⟨hhead, hrest⟩ := List.forall_mem_cons.1 h
      have hne : key ≠ k := fun heq => String.lt_irrefl _ (heq ▸ hhead)
      rw [insert, if_neg (String.lt_asymm hhead), if_neg hne, ih hrest, List.cons_append]

end Entries

namespace Dictionary

variable {α : Type} {d : Dictionary α} {key : String} {value : α}

theorem entries_ofList_concat (entries : List (String × α)) (entry : String × α) :
    (ofList (entries ++ [entry])).entries =
      Entries.insert entry.1 entry.2 (ofList entries).entries := by
  rw [ofList, insertAll, List.foldl_append]
  rfl

theorem entries_ofList {entries : List (String × α)} (h : entries.Pairwise (·.1 < ·.1)) :
    (ofList entries).entries = entries := by
  induction entries using List.reverseRecOn with
  | nil => rfl
  | append_singleton entries entry ih =>
      obtain ⟨hentries, -, hlast⟩ := List.pairwise_append.1 h
      have hlt : ∀ before ∈ entries, before.1 < entry.1 := fun before hbefore =>
        hlast before hbefore entry (List.mem_singleton_self entry)
      rw [entries_ofList_concat, ih hentries, Entries.insert_of_forall_lt hlt]

/-- Of entries with the same key the last one is found. -/
theorem find?_ofList (entries : List (String × α)) (key : String) :
    (ofList entries).find? key = (entries.reverse.find? (·.1 == key)).map (·.2) := by
  induction entries using List.reverseRecOn with
  | nil => rfl
  | append_singleton entries entry ih =>
      have hlast : ofList (entries ++ [entry]) = (ofList entries).insert entry.1 entry.2 := by
        rw [ofList, insertAll, List.foldl_append]
        rfl
      rw [hlast, List.reverse_append, List.reverse_singleton, List.singleton_append, List.find?_cons]
      by_cases heq : entry.1 = key
      · rw [← heq, find?_insert_self, beq_self_eq_true]
        rfl
      · rw [find?_insert_of_ne _ (Ne.symm heq), ih, beq_eq_false_iff_ne.2 heq]

theorem eq_of_entries_eq {d d' : Dictionary α} (h : d.entries = d'.entries) : d = d' := by
  cases d
  cases d'
  cases h
  rfl

/-- A dictionary is that of its entries. -/
theorem ofList_entries (d : Dictionary α) : ofList d.entries = d :=
  eq_of_entries_eq (entries_ofList d.ascending)

theorem find?_eq_some_iff : d.find? key = some value ↔ (key, value) ∈ d.entries :=
  ⟨Entries.mem_of_find?, Entries.find?_of_mem d.ascending⟩

theorem entries_insert {old : α} (h : d.find? key = some old) (value : α) :
    (d.insert key value).entries =
      d.entries.map fun entry => if entry.1 = key then (key, value) else entry :=
  Entries.insert_of_mem d.ascending (find?_eq_some_iff.1 h) value

end Dictionary

end Phrasebook
