/-! Dictionaries with text keys, kept in key order. The order of keys is that of their code points.
Each key occurs once, so two dictionaries with the same entries are equal. -/

namespace Phrasebook

/-- The first value stored under a key. -/
def Entries.find? {α : Type} (key : String) : List (String × α) → Option α
  | [] => none
  | (k, v) :: rest => if k = key then some v else find? key rest

/-- Puts a value in its place in key order, over the one stored under the same key. -/
def Entries.insert {α : Type} (key : String) (value : α) : List (String × α) → List (String × α)
  | [] => [(key, value)]
  | (k, v) :: rest =>
    if key < k then (key, value) :: (k, v) :: rest
    else if key = k then (key, value) :: rest
    else (k, v) :: insert key value rest

namespace Entries

variable {α : Type}

theorem mem_insert {key : String} {value : α} {entry : String × α} {l : List (String × α)}
    (h : entry ∈ insert key value l) : entry = (key, value) ∨ entry ∈ l := by
  induction l with
  | nil => simpa [insert] using h
  | cons head rest ih =>
    obtain ⟨k, v⟩ := head
    simp only [insert] at h
    split at h
    · simpa using h
    · split at h
      · rcases List.mem_cons.1 h with h | h
        · exact .inl h
        · exact .inr (List.mem_cons_of_mem _ h)
      · rcases List.mem_cons.1 h with h | h
        · exact .inr (h ▸ List.mem_cons_self)
        · exact (ih h).imp id (List.mem_cons_of_mem _)

theorem lt_of_not_lt_of_ne {a b : String} (hlt : ¬a < b) (hne : a ≠ b) : b < a := by
  rcases String.le_total a b with h | h
  · exact absurd (String.le_antisymm h (String.not_lt.1 hlt)) hne
  · exact String.not_le.1 fun h' => hne (String.le_antisymm h' h)

theorem pairwise_insert (key : String) (value : α) {l : List (String × α)}
    (h : l.Pairwise (·.1 < ·.1)) : (insert key value l).Pairwise (·.1 < ·.1) := by
  induction l with
  | nil => simp [insert]
  | cons head rest ih =>
    obtain ⟨k, v⟩ := head
    have hhead := (List.pairwise_cons.1 h).1
    have hrest := (List.pairwise_cons.1 h).2
    simp only [insert]
    split
    next hlt =>
      refine List.pairwise_cons.2 ⟨?_, h⟩
      intro entry hentry
      rcases List.mem_cons.1 hentry with rfl | hentry
      · exact hlt
      · exact String.lt_trans hlt (hhead entry hentry)
    next hlt =>
      split
      next heq =>
        subst heq
        exact List.pairwise_cons.2 ⟨hhead, hrest⟩
      next hne =>
        refine List.pairwise_cons.2 ⟨?_, ih hrest⟩
        intro entry hentry
        rcases mem_insert hentry with rfl | hentry
        · exact lt_of_not_lt_of_ne hlt hne
        · exact hhead entry hentry

theorem find?_insert_self (key : String) (value : α) (l : List (String × α)) :
    find? key (insert key value l) = some value := by
  induction l with
  | nil => simp [insert, find?]
  | cons head rest ih =>
    obtain ⟨k, v⟩ := head
    simp only [insert]
    split
    · simp [find?]
    · split
      · simp [find?]
      next hne => simp [find?, Ne.symm hne, ih]

theorem find?_insert_of_ne {key other : String} (hne : other ≠ key) (value : α)
    (l : List (String × α)) : find? other (insert key value l) = find? other l := by
  induction l with
  | nil => simp [insert, find?, Ne.symm hne]
  | cons head rest ih =>
    obtain ⟨k, v⟩ := head
    simp only [insert]
    split
    · simp [find?, Ne.symm hne]
    · split
      next heq => subst heq; simp [find?, Ne.symm hne]
      next => by_cases hk : k = other <;> simp [find?, hk, ih]

end Entries

/-- Values under distinct keys. -/
structure Dictionary (α : Type) where
  entries : List (String × α)
  ascending : entries.Pairwise (·.1 < ·.1)
  deriving DecidableEq

namespace Dictionary

variable {α : Type}

def empty : Dictionary α :=
  ⟨[], .nil⟩

instance : Inhabited (Dictionary α) :=
  ⟨empty⟩

def find? (d : Dictionary α) (key : String) : Option α :=
  Entries.find? key d.entries

def contains (d : Dictionary α) (key : String) : Bool :=
  (d.find? key).isSome

/-- Stores a value under a key, in place of any other. -/
def insert (d : Dictionary α) (key : String) (value : α) : Dictionary α :=
  ⟨Entries.insert key value d.entries, Entries.pairwise_insert key value d.ascending⟩

/-- Stores all entries, one after the other. -/
def insertAll (d : Dictionary α) (entries : List (String × α)) : Dictionary α :=
  entries.foldl (fun d (key, value) => d.insert key value) d

/-- Of entries with the same key the last one stays. -/
def ofList (entries : List (String × α)) : Dictionary α :=
  empty.insertAll entries

/-- The entries of both; where they share a key, that of `top`. -/
def overlay (d top : Dictionary α) : Dictionary α :=
  d.insertAll top.entries

def keys (d : Dictionary α) : List String :=
  d.entries.map (·.1)

@[simp] theorem find?_insert_self (d : Dictionary α) (key : String) (value : α) :
    (d.insert key value).find? key = some value :=
  Entries.find?_insert_self key value d.entries

theorem find?_insert_of_ne (d : Dictionary α) {key other : String} (hne : other ≠ key)
    (value : α) : (d.insert key value).find? other = d.find? other :=
  Entries.find?_insert_of_ne hne value d.entries

@[simp] theorem find?_empty (key : String) : (empty : Dictionary α).find? key = none := rfl

end Dictionary

end Phrasebook
