import Phrasebook.Text.Distance
import Mathlib.Order.Bounds.Basic
import Mathlib.Order.MinMax

/-! The distance of two texts is the least number of edits that turn the one into the other
(`Text.isLeast_distance`). Edits may be made anywhere and in any order, but no fewer of them do than
by going through both texts from the left (`Edits.exists_aligned`). There the least number satisfies
a recursion (`isLeast_leastCost`), and its values are the entries of the table
(`nextRow_entries`). -/

namespace Phrasebook.Text

/-- One character is inserted, removed or replaced. -/
inductive Edit : List Char → List Char → Prop where
  | insert (before : List Char) (c : Char) (after : List Char) :
      Edit (before ++ after) (before ++ c :: after)
  | remove (before : List Char) (c : Char) (after : List Char) :
      Edit (before ++ c :: after) (before ++ after)
  | replace (before : List Char) (c d : Char) (after : List Char) :
      Edit (before ++ c :: after) (before ++ d :: after)

/-- So many edits, one after the other. -/
inductive Edits : Nat → List Char → List Char → Prop where
  | refl (s : List Char) : Edits 0 s s
  | step {n : Nat} {s t u : List Char} (h : Edits n s t) (hedit : Edit t u) : Edits (n + 1) s u

variable {s t u : List Char} {n : Nat}

namespace Edit

theorem cons (c : Char) (h : Edit s t) : Edit (c :: s) (c :: t) := by
  cases h with
  | insert before d after => exact .insert (c :: before) d after
  | remove before d after => exact .remove (c :: before) d after
  | replace before d e after => exact .replace (c :: before) d e after

theorem reverse (h : Edit s t) : Edit s.reverse t.reverse := by
  cases h with
  | insert before c after => simpa using Edit.insert after.reverse c before.reverse
  | remove before c after => simpa using Edit.remove after.reverse c before.reverse
  | replace before c d after => simpa using Edit.replace after.reverse c d before.reverse

theorem exists_of_nil (h : Edit [] t) : ∃ c, t = [c] := by
  generalize hs : ([] : List Char) = s at h
  cases h with
  | insert before c after =>
      obtain ⟨rfl, rfl⟩ := List.append_eq_nil_iff.1 hs.symm
      exact ⟨c, rfl⟩
  | remove | replace => simp at hs

/-- An edit is made at the first character or in what follows it. -/
theorem cons_cases {c : Char} (h : Edit (c :: s) t) :
    (∃ d, t = d :: c :: s) ∨ t = s ∨ (∃ d, t = d :: s) ∨ ∃ u, Edit s u ∧ t = c :: u := by
  generalize hcs : c :: s = r at h
  cases h with
  | insert before d after =>
      cases before with
      | nil =>
          obtain rfl : c :: s = after := hcs
          exact .inl ⟨d, rfl⟩
      | cons e before =>
          obtain ⟨rfl, rfl⟩ := List.cons.inj hcs
          exact .inr (.inr (.inr ⟨_, .insert before d after, rfl⟩))
  | remove before d after =>
      cases before with
      | nil =>
          obtain ⟨rfl, rfl⟩ := List.cons.inj hcs
          exact .inr (.inl rfl)
      | cons e before =>
          obtain ⟨rfl, rfl⟩ := List.cons.inj hcs
          exact .inr (.inr (.inr ⟨_, .remove before d after, rfl⟩))
  | replace before d e after =>
      cases before with
      | nil =>
          obtain ⟨rfl, rfl⟩ := List.cons.inj hcs
          exact .inr (.inr (.inl ⟨e, rfl⟩))
      | cons b before =>
          obtain ⟨rfl, rfl⟩ := List.cons.inj hcs
          exact .inr (.inr (.inr ⟨_, .replace before d e after, rfl⟩))

theorem length_le (h : Edit s t) : t.length ≤ s.length + 1 := by
  cases h <;> simp <;> omega

end Edit

namespace Edits

theorem cons (c : Char) (h : Edits n s t) : Edits n (c :: s) (c :: t) := by
  induction h with
  | refl s => exact .refl _
  | step _ hedit ih => exact ih.step (hedit.cons c)

theorem reverse (h : Edits n s t) : Edits n s.reverse t.reverse := by
  induction h with
  | refl s => exact .refl _
  | step _ hedit ih => exact ih.step hedit.reverse

theorem length_le (h : Edits n s t) : t.length ≤ s.length + n := by
  induction h with
  | refl s => exact le_refl _
  | step _ hedit ih =>
      have := hedit.length_le
      omega

end Edits

/-! ### Two texts from the left to the right -/

/-- Two texts side by side, where a character stands opposite one of the other text or opposite
nothing. So many of the places do not hold the same character twice. -/
inductive Aligned : Nat → List Char → List Char → Prop where
  | nil : Aligned 0 [] []
  | keep (c : Char) {n : Nat} {s t : List Char} (h : Aligned n s t) : Aligned n (c :: s) (c :: t)
  | insert (c : Char) {n : Nat} {s t : List Char} (h : Aligned n s t) : Aligned (n + 1) s (c :: t)
  | remove (c : Char) {n : Nat} {s t : List Char} (h : Aligned n s t) : Aligned (n + 1) (c :: s) t
  | replace (c d : Char) {n : Nat} {s t : List Char} (h : Aligned n s t) :
      Aligned (n + 1) (c :: s) (d :: t)

theorem Aligned.self (s : List Char) : Aligned 0 s s := by
  induction s with
  | nil => exact .nil
  | cons c s ih => exact ih.keep c

theorem Aligned.edits (h : Aligned n s t) : Edits n s t := by
  induction h with
  | nil => exact .refl []
  | keep c _ ih => exact ih.cons c
  | @insert c _ _ t _ ih => exact ih.step (.insert [] c t)
  | @remove c _ _ t _ ih => exact (ih.cons c).step (.remove [] c t)
  | @replace c d _ _ t _ ih => exact (ih.cons c).step (.replace [] c d t)

/-- An edit more costs at most one difference more: it undoes one, or it adds one, or it changes
what a character is replaced by. -/
theorem Aligned.exists_of_edit (h : Aligned n s t) (hedit : Edit t u) :
    ∃ m ≤ n + 1, Aligned m s u := by
  induction h generalizing u with
  | nil =>
      obtain ⟨d, rfl⟩ := hedit.exists_of_nil
      exact ⟨1, le_refl 1, Aligned.nil.insert d⟩
  | @keep c n s t h ih =>
      rcases hedit.cons_cases with ⟨d, rfl⟩ | rfl | ⟨d, rfl⟩ | ⟨u, hu, rfl⟩
      · exact ⟨n + 1, le_refl _, (h.keep c).insert d⟩
      · exact ⟨n + 1, le_refl _, h.remove c⟩
      · exact ⟨n + 1, le_refl _, h.replace c d⟩
      · obtain ⟨m, hm, haligned⟩ := ih hu
        exact ⟨m, hm, haligned.keep c⟩
  | @insert c n s t h ih =>
      rcases hedit.cons_cases with ⟨d, rfl⟩ | rfl | ⟨d, rfl⟩ | ⟨u, hu, rfl⟩
      · exact ⟨n + 2, le_refl _, (h.insert c).insert d⟩
      · exact ⟨n, by omega, h⟩
      · exact ⟨n + 1, by omega, h.insert d⟩
      · obtain ⟨m, hm, haligned⟩ := ih hu
        exact ⟨m + 1, by omega, haligned.insert c⟩
  | @remove c n s t h ih =>
      obtain ⟨m, hm, haligned⟩ := ih hedit
      exact ⟨m + 1, by omega, haligned.remove c⟩
  | @replace c d n s t h ih =>
      rcases hedit.cons_cases with ⟨e, rfl⟩ | rfl | ⟨e, rfl⟩ | ⟨u, hu, rfl⟩
      · exact ⟨n + 2, le_refl _, (h.replace c d).insert e⟩
      · exact ⟨n + 1, by omega, h.remove c⟩
      · exact ⟨n + 1, by omega, h.replace c e⟩
      · obtain ⟨m, hm, haligned⟩ := ih hu
        exact ⟨m + 1, by omega, haligned.replace c d⟩

theorem Edits.exists_aligned (h : Edits n s t) : ∃ m ≤ n, Aligned m s t := by
  induction h with
  | refl s => exact ⟨0, le_refl 0, .self s⟩
  | step _ hedit ih =>
      obtain ⟨m, hm, haligned⟩ := ih
      obtain ⟨k, hk, hlast⟩ := haligned.exists_of_edit hedit
      exact ⟨k, by omega, hlast⟩

/-- The least number of differences, by the first characters of both texts. -/
def leastCost : List Char → List Char → Nat
  | [], t => t.length
  | c :: s, [] => (c :: s).length
  | c :: s, d :: t =>
    min (min (leastCost (c :: s) t + 1) (leastCost s (d :: t) + 1))
      (leastCost s t + if c = d then 0 else 1)
termination_by s t => s.length + t.length

@[simp] theorem leastCost_nil_left (t : List Char) : leastCost [] t = t.length := by
  rw [leastCost]

@[simp] theorem leastCost_nil_right (s : List Char) : leastCost s [] = s.length := by
  cases s <;> rw [leastCost]

theorem aligned_nil_left (t : List Char) : Aligned t.length [] t := by
  induction t with
  | nil => exact .nil
  | cons c t ih => exact ih.insert c

theorem aligned_nil_right (s : List Char) : Aligned s.length s [] := by
  induction s with
  | nil => exact .nil
  | cons c s ih => exact ih.remove c

theorem aligned_leastCost (s t : List Char) : Aligned (leastCost s t) s t := by
  induction s, t using leastCost.induct with
  | case1 t =>
      rw [leastCost_nil_left]
      exact aligned_nil_left t
  | case2 c s =>
      rw [leastCost_nil_right]
      exact aligned_nil_right (c :: s)
  | case3 c s d t hinsert hremove hboth =>
      rw [leastCost]
      rcases min_choice (min (leastCost (c :: s) t + 1) (leastCost s (d :: t) + 1))
        (leastCost s t + if c = d then 0 else 1) with hmin | hmin
      · rw [hmin]
        rcases min_choice (leastCost (c :: s) t + 1) (leastCost s (d :: t) + 1) with hmin | hmin
        · rw [hmin]
          exact hinsert.insert d
        · rw [hmin]
          exact hremove.remove c
      · rw [hmin]
        by_cases heq : c = d
        · subst heq
          rw [if_pos rfl]
          exact hboth.keep c
        · rw [if_neg heq]
          exact hboth.replace c d

theorem leastCost_cons_left_le (c : Char) (s t : List Char) :
    leastCost (c :: s) t ≤ leastCost s t + 1 := by
  cases t with
  | nil => simp
  | cons d t =>
      rw [leastCost]
      exact (min_le_left _ _).trans (min_le_right _ _)

theorem leastCost_cons_right_le (d : Char) (s t : List Char) :
    leastCost s (d :: t) ≤ leastCost s t + 1 := by
  cases s with
  | nil => simp
  | cons c s =>
      rw [leastCost]
      exact (min_le_left _ _).trans (min_le_left _ _)

theorem leastCost_cons_cons_le (c d : Char) (s t : List Char) :
    leastCost (c :: s) (d :: t) ≤ leastCost s t + if c = d then 0 else 1 := by
  rw [leastCost]
  exact min_le_right _ _

theorem Aligned.leastCost_le (h : Aligned n s t) : leastCost s t ≤ n := by
  induction h with
  | nil => simp
  | @keep c n s t _ ih =>
      have := leastCost_cons_cons_le c c s t
      rw [if_pos rfl] at this
      omega
  | @insert c n s t _ ih =>
      have := leastCost_cons_right_le c s t
      omega
  | @remove c n s t _ ih =>
      have := leastCost_cons_left_le c s t
      omega
  | @replace c d n s t _ ih =>
      have := leastCost_cons_cons_le c d s t
      split at this <;> omega

theorem isLeast_leastCost (s t : List Char) : IsLeast {n | Edits n s t} (leastCost s t) := by
  refine ⟨(aligned_leastCost s t).edits, ?_⟩
  intro n h
  obtain ⟨m, hm, haligned⟩ := h.exists_aligned
  exact haligned.leastCost_le.trans hm

/-! ### The table -/

/-- The row of the table for a text that has been read, the last character first: its least costs
against the longer and longer starts of `target`, with what stands `before` these. -/
def entries (done : List Char) : (before target : List Char) → List Nat
  | _, [] => []
  | before, c :: target => leastCost done (c :: before) :: entries done (c :: before) target

theorem entries_nil (before target : List Char) :
    entries [] before target = List.range' (before.length + 1) target.length := by
  induction target generalizing before with
  | nil => rfl
  | cons c target ih =>
      rw [entries, ih, leastCost_nil_left]
      rfl

theorem nextRow_entries (c : Char) (done before target : List Char) :
    nextRow c (leastCost (c :: done) before) (leastCost done before) target
        (entries done before target) =
      entries (c :: done) before target := by
  induction target generalizing before with
  | nil => rfl
  | cons d target ih =>
      rw [entries, nextRow, entries]
      have hentry : min (min (leastCost (c :: done) before + 1) (leastCost done (d :: before) + 1))
          (leastCost done before + if c = d then 0 else 1) =
          leastCost (c :: done) (d :: before) := by rw [leastCost]
      simp only [hentry, ih]

theorem getLastD_entries (done before target : List Char) :
    (entries done before target).getLastD (leastCost done before) =
      leastCost done (target.reverse ++ before) := by
  induction target generalizing before with
  | nil => rfl
  | cons c target ih =>
      rw [entries, List.getLastD_cons, ih, List.reverse_cons, List.append_assoc]
      rfl

theorem distanceRow_entries (target s done : List Char) :
    distanceRow target s done.length (entries done [] target) =
      leastCost (s.reverse ++ done) target.reverse := by
  induction s generalizing done with
  | nil =>
      have hlast := getLastD_entries done [] target
      rwa [leastCost_nil_right, List.append_nil] at hlast
  | cons c s ih =>
      have hrow := nextRow_entries c done [] target
      rw [leastCost_nil_right, leastCost_nil_right, List.length_cons] at hrow
      rw [distanceRow, hrow, ← List.length_cons (a := c), ih, List.reverse_cons,
        List.append_assoc]
      rfl

/-- The table grows from the starts of the texts, while the recursion takes off what is first; so
its values are those of the reversed texts. -/
theorem distance_eq (s t : List Char) : distance s t = leastCost s.reverse t.reverse := by
  have hrow := distanceRow_entries t s []
  rwa [entries_nil, List.append_nil] at hrow

/-- So many edits turn the one text into the other, and no fewer do, wherever they are made. -/
theorem isLeast_distance (s t : List Char) : IsLeast {n | Edits n s t} (distance s t) := by
  have hsame : {n | Edits n s t} = {n | Edits n s.reverse t.reverse} := by
    ext n
    refine ⟨Edits.reverse, fun h => ?_⟩
    have hback := Edits.reverse h
    rwa [List.reverse_reverse, List.reverse_reverse] at hback
  rw [hsame, distance_eq]
  exact isLeast_leastCost s.reverse t.reverse

theorem distance_self (s : List Char) : distance s s = 0 :=
  Nat.le_zero.1 ((isLeast_distance s s).2 (.refl s))

theorem length_le_add_distance (s t : List Char) : t.length ≤ s.length + distance s t :=
  (isLeast_distance s t).1.length_le

end Phrasebook.Text
