import Mathlib.Data.List.Induction
import Mathlib.Data.List.Nodup

/-! The distinct values of a function on a list, in the order they are first seen. -/

namespace Phrasebook

variable {α β : Type} [BEq β] [LawfulBEq β]

def firstSeen (f : α → β) (l : List α) : List β :=
  (l.map f).eraseDups

theorem nodup_eraseDups (l : List β) : l.eraseDups.Nodup := by
  induction hn : l.length using Nat.strongRecOn generalizing l with
  | ind n ih =>
      cases l with
      | nil => simp
      | cons b bs =>
          have hlt : (bs.filter fun c => !c == b).length < n := by
            have := List.length_filter_le (fun c => !c == b) bs
            simp only [List.length_cons] at hn
            omega
          rw [List.eraseDups_cons, List.nodup_cons]
          exact ⟨by simp, ih _ hlt _ rfl⟩

theorem nodup_firstSeen (f : α → β) (l : List α) : (firstSeen f l).Nodup :=
  nodup_eraseDups _

@[simp] theorem mem_firstSeen {f : α → β} {l : List α} {b : β} :
    b ∈ firstSeen f l ↔ ∃ a ∈ l, f a = b := by
  rw [firstSeen, List.mem_eraseDups, List.mem_map]

theorem firstSeen_concat_of_mem {f : α → β} {l : List α} {a : α} (h : f a ∈ firstSeen f l) :
    firstSeen f (l ++ [a]) = firstSeen f l := by
  rw [firstSeen, List.mem_eraseDups] at h
  rw [firstSeen, List.map_append, List.eraseDups_append, firstSeen]
  simp [List.removeAll, h]

theorem firstSeen_concat_of_not_mem {f : α → β} {l : List α} {a : α} (h : f a ∉ firstSeen f l) :
    firstSeen f (l ++ [a]) = firstSeen f l ++ [f a] := by
  rw [firstSeen, List.mem_eraseDups] at h
  rw [firstSeen, List.map_append, List.eraseDups_append, firstSeen]
  simp [List.removeAll, h, List.eraseDups_cons]

/-- The values come in the order of their first places. -/
theorem pairwise_idxOf_firstSeen (f : α → β) (l : List α) :
    (firstSeen f l).Pairwise fun b c => (l.map f).idxOf b < (l.map f).idxOf c := by
  induction l using List.reverseRecOn with
  | nil => exact .nil
  | append_singleton l a ih =>
      have hbefore : ∀ b ∈ firstSeen f l, (l.map f ++ [f a]).idxOf b = (l.map f).idxOf b := by
        intro b hb
        rw [firstSeen, List.mem_eraseDups] at hb
        rw [List.idxOf_append, if_pos hb]
      have hpairwise : (firstSeen f l).Pairwise fun b c =>
          (l.map f ++ [f a]).idxOf b < (l.map f ++ [f a]).idxOf c := by
        refine ih.imp_of_mem ?_
        intro b c hb hc hlt
        rwa [hbefore b hb, hbefore c hc]
      rw [List.map_append, List.map_singleton]
      by_cases hmem : f a ∈ firstSeen f l
      · rwa [firstSeen_concat_of_mem hmem]
      · rw [firstSeen_concat_of_not_mem hmem, List.pairwise_append]
        refine ⟨hpairwise, List.pairwise_singleton _ _, ?_⟩
        intro b hb c hc
        obtain rfl := List.mem_singleton.1 hc
        have hnew : f a ∉ l.map f := by rwa [firstSeen, List.mem_eraseDups] at hmem
        rw [hbefore b hb, List.idxOf_append, if_neg hnew]
        rw [firstSeen, List.mem_eraseDups] at hb
        exact Nat.lt_add_left _ (List.idxOf_lt_length_of_mem hb)

/-- Elements whose values have all been seen add none. -/
theorem firstSeen_append_of_mem {f : α → β} {l later : List α}
    (h : ∀ a ∈ later, f a ∈ firstSeen f l) : firstSeen f (l ++ later) = firstSeen f l := by
  induction later using List.reverseRecOn with
  | nil => rw [List.append_nil]
  | append_singleton later a ih =>
      have hbefore := ih fun b hb => h b (List.mem_append_left _ hb)
      have hmem : f a ∈ firstSeen f (l ++ later) := by
        rw [hbefore]
        exact h a (List.mem_append_right _ (List.mem_singleton_self a))
      rw [← List.append_assoc, firstSeen_concat_of_mem hmem, hbefore]

/-- Elements with one new value after others add the value once. -/
theorem firstSeen_append_of_const {f : α → β} {l group : List α} {b : β} (hb : b ∉ firstSeen f l)
    (hne : group ≠ []) (hconst : ∀ a ∈ group, f a = b) :
    firstSeen f (l ++ group) = firstSeen f l ++ [b] := by
  obtain ⟨a, group, rfl⟩ := List.exists_cons_of_ne_nil hne
  obtain ⟨rfl, hgroup⟩ := List.forall_mem_cons.1 hconst
  have hfirst : firstSeen f (l ++ [a]) = firstSeen f l ++ [f a] := firstSeen_concat_of_not_mem hb
  have hlater : ∀ c ∈ group, f c ∈ firstSeen f (l ++ [a]) := by
    intro c hc
    rw [hgroup c hc, hfirst]
    exact List.mem_append_right _ (List.mem_singleton_self _)
  rw [List.append_cons, firstSeen_append_of_mem hlater, hfirst]

/-- Groups with one value each, one after the other. -/
theorem firstSeen_flatMap {f : α → β} {group : β → List α} {bs : List β} (hdistinct : bs.Nodup)
    (hne : ∀ b ∈ bs, group b ≠ []) (hconst : ∀ b ∈ bs, ∀ a ∈ group b, f a = b) :
    firstSeen f (bs.flatMap group) = bs := by
  induction bs using List.reverseRecOn with
  | nil => rfl
  | append_singleton bs b ih =>
      rw [List.nodup_append] at hdistinct
      obtain ⟨hbs, -, hb⟩ := hdistinct
      have hlast : b ∈ bs ++ [b] := List.mem_append_right _ (List.mem_singleton_self b)
      have hbefore : firstSeen f (bs.flatMap group) = bs :=
        ih hbs (fun c hc => hne c (List.mem_append_left _ hc))
          fun c hc => hconst c (List.mem_append_left _ hc)
      have hnew : b ∉ firstSeen f (bs.flatMap group) := by
        rw [hbefore]
        exact fun hmem => hb b hmem b (List.mem_singleton_self b) rfl
      rw [List.flatMap_append, List.flatMap_singleton,
        firstSeen_append_of_const hnew (hne b hlast) (hconst b hlast), hbefore]

end Phrasebook
