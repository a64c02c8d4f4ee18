import Phrasebook.Number.Power

/-! Cutting a text at a separator or at a place, and its length in bytes. -/

namespace Phrasebook.Text

/-- The text before the first character that satisfies `stop`, and the text after it. -/
def cutWhere (stop : Char → Bool) : List Char → Option (List Char × List Char)
  | [] => none
  | c :: cs =>
    if stop c then some ([], cs)
    else (cutWhere stop cs).map fun (before, after) => (c :: before, after)

/-- The text before the first `mark` and the text after it. -/
def cutAt (mark : Char) (s : List Char) : Option (List Char × List Char) :=
  cutWhere (· == mark) s

/-- The text before the last `mark`. -/
def beforeLast (mark : Char) : List Char → Option (List Char)
  | [] => none
  | c :: cs =>
    match beforeLast mark cs with
    | some before => some (c :: before)
    | none => if c == mark then some [] else none

/-- The length of a text in bytes of UTF-8. -/
def bytes (s : List Char) : Nat :=
  (s.map Char.utf8Size).sum

/-- Cuts a text after so many bytes; none if it is shorter, or if a character would be cut. -/
def cutBytes? : (count : Nat) → List Char → Option (List Char × List Char)
  | 0, s => some ([], s)
  | _ + 1, [] => none
  | count + 1, c :: s =>
    if c.utf8Size ≤ count + 1 then
      (cutBytes? (count + 1 - c.utf8Size) s).map fun (before, after) => (c :: before, after)
    else none

/-- The text from one place to another, both in bytes from its start; none if the places are out of
order or out of range, or if one of them is inside a character. -/
def slice? (start stop : Nat) (s : List Char) : Option (List Char) :=
  (cutBytes? stop s).bind fun (front, _) => (cutBytes? start front).map fun (_, part) => part

theorem bytes_append (s t : List Char) : bytes (s ++ t) = bytes s + bytes t := by
  rw [bytes, List.map_append, List.sum_append, bytes, bytes]

theorem utf8ByteSize_ofList (s : List Char) : (String.ofList s).utf8ByteSize = bytes s := by
  induction s with
  | nil => rfl
  | cons c s ih =>
    have hcons : String.ofList (c :: s) = String.singleton c ++ String.ofList s := by
      rw [String.singleton_eq_ofList, ← String.ofList_append, List.singleton_append]
    rw [hcons, String.utf8ByteSize_append, String.utf8ByteSize_singleton, ih]
    rfl

theorem bytes_cons (c : Char) (s : List Char) : bytes (c :: s) = c.utf8Size + bytes s := by
  rw [bytes, List.map_cons, List.sum_cons, bytes]

theorem cutBytes?_append (s t : List Char) : cutBytes? (bytes s) (s ++ t) = some (s, t) := by
  induction s with
  | nil => cases t <;> rfl
  | cons c s ih =>
    obtain ⟨count, hcount⟩ : ∃ count, bytes (c :: s) = count + 1 :=
      Nat.exists_eq_succ_of_ne_zero (by have := c.utf8Size_pos; rw [bytes_cons]; omega)
    have hrest : count + 1 - c.utf8Size = bytes s := by rw [← hcount, bytes_cons]; omega
    have hle : c.utf8Size ≤ count + 1 := by rw [← hcount, bytes_cons]; omega
    rw [hcount, List.cons_append, cutBytes?, if_pos hle, hrest, ih, Option.map_some]

theorem eq_append_of_cutBytes? {count : Nat} {s before after : List Char}
    (h : cutBytes? count s = some (before, after)) :
    s = before ++ after ∧ bytes before = count := by
  fun_induction cutBytes? count s generalizing before with
  | case1 s =>
    obtain ⟨rfl, rfl⟩ := Prod.mk.inj (Option.some.inj h)
    exact ⟨rfl, rfl⟩
  | case2 => cases h
  | case3 count c s hle ih =>
    obtain ⟨⟨front, back⟩, hcut, hpair⟩ := Option.map_eq_some_iff.1 h
    obtain ⟨rfl, rfl⟩ := Prod.mk.inj hpair
    obtain ⟨rfl, hbytes⟩ := ih hcut
    exact ⟨rfl, by rw [bytes_cons, hbytes]; omega⟩
  | case4 => cases h

/-- The part of a text between two places is there exactly if a cut can be made at both. -/
theorem slice?_eq_some_iff {start stop : Nat} {s part : List Char} :
    slice? start stop s = some part ↔ ∃ before after,
      s = before ++ part ++ after ∧ bytes before = start ∧ bytes (before ++ part) = stop := by
  constructor
  · intro h
    obtain ⟨⟨front, after⟩, hstop, h⟩ := Option.bind_eq_some_iff.1 h
    obtain ⟨⟨before, part'⟩, hstart, rfl⟩ := Option.map_eq_some_iff.1 h
    obtain ⟨rfl, hfront⟩ := eq_append_of_cutBytes? hstop
    obtain ⟨rfl, hbefore⟩ := eq_append_of_cutBytes? hstart
    exact ⟨before, after, rfl, hbefore, hfront⟩
  · rintro ⟨before, after, rfl, rfl, rfl⟩
    simp only [slice?, cutBytes?_append, Option.bind_some, Option.map_some]

theorem eq_append_of_cutWhere {stop : Char → Bool} {s before after : List Char}
    (h : cutWhere stop s = some (before, after)) :
    ∃ c, stop c = true ∧ s = before ++ c :: after ∧ ∀ b ∈ before, stop b = false := by
  induction s generalizing before with
  | nil => simp [cutWhere] at h
  | cons c cs ih =>
    simp only [cutWhere] at h
    split at h
    next hc =>
      simp only [Option.some.injEq, Prod.mk.injEq] at h
      obtain ⟨rfl, rfl⟩ := h
      exact ⟨c, hc, rfl, by simp⟩
    next hc =>
      simp only [Option.map_eq_some_iff, Prod.exists, Prod.mk.injEq] at h
      obtain ⟨before', after', hcut, rfl, rfl⟩ := h
      obtain ⟨d, hd, rfl, hall⟩ := ih hcut
      exact ⟨d, hd, rfl, List.forall_mem_cons.2 ⟨by simpa using hc, hall⟩⟩

theorem cutWhere_eq_none_iff {stop : Char → Bool} {s : List Char} :
    cutWhere stop s = none ↔ ∀ c ∈ s, stop c = false := by
  induction s with
  | nil => simp [cutWhere]
  | cons c cs ih =>
    simp only [cutWhere]
    split
    next hc => simp [hc]
    next hc => simp [ih, hc]

theorem length_lt_of_cutWhere {stop : Char → Bool} {s before after : List Char}
    (h : cutWhere stop s = some (before, after)) : after.length < s.length := by
  obtain ⟨c, -, rfl, -⟩ := eq_append_of_cutWhere h
  simp only [List.length_append, List.length_cons]
  omega

theorem beforeLast_eq_none_iff {mark : Char} {s : List Char} :
    beforeLast mark s = none ↔ mark ∉ s := by
  induction s with
  | nil => simp [beforeLast]
  | cons c cs ih =>
    simp only [beforeLast]
    split
    next shorter hshorter =>
      have hmem : mark ∈ cs := by simpa [hshorter] using ih
      simp [hmem]
    next hnone =>
      have hmem : mark ∉ cs := ih.1 hnone
      rw [List.mem_cons, not_or, and_iff_left hmem, @eq_comm _ mark]
      simp

theorem eq_append_of_beforeLast {mark : Char} {s before : List Char}
    (h : beforeLast mark s = some before) : ∃ after, s = before ++ mark :: after ∧ mark ∉ after := by
  induction s generalizing before with
  | nil => simp [beforeLast] at h
  | cons c cs ih =>
    simp only [beforeLast] at h
    split at h
    next shorter hshorter =>
      obtain rfl := Option.some.inj h
      obtain ⟨after, rfl, hafter⟩ := ih hshorter
      exact ⟨after, rfl, hafter⟩
    next hnone =>
      obtain ⟨hmark, rfl⟩ : c = mark ∧ [] = before := by simpa using h
      exact ⟨cs, by rw [hmark, List.nil_append], beforeLast_eq_none_iff.1 hnone⟩

theorem beforeLast_append {mark : Char} {after : List Char} (h : mark ∉ after)
    (before : List Char) : beforeLast mark (before ++ mark :: after) = some before := by
  induction before with
  | nil => simp [beforeLast, beforeLast_eq_none_iff.2 h]
  | cons c before ih => simp only [List.cons_append, beforeLast, ih]

theorem length_lt_of_beforeLast {mark : Char} {s before : List Char}
    (h : beforeLast mark s = some before) : before.length < s.length := by
  obtain ⟨after, rfl, -⟩ := eq_append_of_beforeLast h
  simp only [List.length_append, List.length_cons]
  omega

end Phrasebook.Text
