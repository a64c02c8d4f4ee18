import Phrasebook.Text.Lines
import Mathlib.Data.List.Induction
import Mathlib.Data.List.Infix

/-! How lines end. Each line of a text but the last loses the carriage return before its newline
(`dropReturns`); joined again, the lines are the text with plain ends (`intercalate_dropReturns`),
and that is the text itself if no carriage return stands before a newline
(`plainEnds_eq_self_iff`). -/

namespace Phrasebook.Text

/-- The text with a newline in place of each pair of a carriage return and a newline. -/
def plainEnds : List Char → List Char
  | [] => []
  | '\r' :: '\n' :: s => '\n' :: plainEnds s
  | c :: s => c :: plainEnds s

theorem plainEnds_cons {c : Char} {s : List Char} (h : ∀ t, c = '\r' → s ≠ '\n' :: t) :
    plainEnds (c :: s) = c :: plainEnds s :=
  plainEnds.eq_3 c s h

theorem plainEnds_eq_self_iff {s : List Char} : plainEnds s = s ↔ ¬['\r', '\n'] <:+: s := by
  fun_induction plainEnds s with
  | case1 => simp
  | case2 s _ =>
      have hpair : ['\r', '\n'] <:+: '\r' :: '\n' :: s := (List.prefix_append _ s).isInfix
      simp [hpair]
  | case3 c s hpair ih =>
      have hprefix : ¬['\r', '\n'] <+: c :: s := by
        rintro ⟨t, ht⟩
        obtain ⟨rfl, rfl⟩ := List.cons.inj ht
        exact hpair t rfl rfl
      rw [List.cons_inj_right, ih, List.infix_cons_iff, not_or]
      exact (and_iff_right hprefix).symm

theorem plainEnds_of_not_mem {s : List Char} (h : '\n' ∉ s) : plainEnds s = s :=
  plainEnds_eq_self_iff.2 fun hpair => h (hpair.subset (by simp))

theorem dropReturn_concat (s : List Char) : dropReturn (s ++ ['\r']) = s := by
  rw [dropReturn, if_pos List.getLast?_concat, List.dropLast_concat]

theorem dropReturn_of_ne {s : List Char} (h : s.getLast? ≠ some '\r') : dropReturn s = s :=
  if_neg h

/-- What stands before the end of a line does not matter, unless it is all that the line holds. -/
theorem dropReturn_append {lead s : List Char} (h : s = [] → lead.getLast? ≠ some '\r') :
    dropReturn (lead ++ s) = lead ++ dropReturn s := by
  rcases List.eq_nil_or_concat' s with rfl | ⟨t, c, rfl⟩
  · rw [List.append_nil, dropReturn_of_ne (h rfl), dropReturn_of_ne (by simp), List.append_nil]
  · rw [← List.append_assoc]
    by_cases hc : c = '\r'
    · rw [hc, dropReturn_concat, dropReturn_concat]
    · have hlast : ∀ before : List Char, (before ++ [c]).getLast? ≠ some '\r' := by simpa using hc
      rw [dropReturn_of_ne (hlast _), dropReturn_of_ne (hlast _), List.append_assoc]

theorem plainEnds_append_newline {s : List Char} (h : '\n' ∉ s) (t : List Char) :
    plainEnds (s ++ '\n' :: t) = dropReturn s ++ '\n' :: plainEnds t := by
  induction s with
  | nil => rfl
  | cons c s ih =>
      have hs : '\n' ∉ s := fun hmem => h (List.mem_cons_of_mem c hmem)
      cases s with
      | nil =>
          by_cases hc : c = '\r'
          · rw [hc]
            rfl
          · have hlast : [c].getLast? ≠ some '\r' := by simpa using hc
            rw [dropReturn_of_ne hlast, List.singleton_append, List.singleton_append,
              plainEnds_cons fun _ hreturn => absurd hreturn hc]
            rfl
      | cons d s =>
          have hd : d ≠ '\n' := fun heq => hs (heq ▸ List.mem_cons_self)
          have hdrop : dropReturn (c :: d :: s) = c :: dropReturn (d :: s) :=
            @dropReturn_append [c] (d :: s) fun hnil => absurd hnil (List.cons_ne_nil d s)
          have hnext : ∀ u, d :: s ++ '\n' :: t ≠ '\n' :: u :=
            fun u heq => hd (List.cons.inj heq).1
          rw [List.cons_append, plainEnds_cons fun u _ => hnext u, ih hs, hdrop, List.cons_append]

/-- Each line but the last loses its carriage return. -/
def dropReturns : List (List Char) → List (List Char)
  | [] => []
  | [last] => [last]
  | line :: next :: lines => dropReturn line :: dropReturns (next :: lines)

theorem dropReturns_cons {line : List Char} {lines : List (List Char)} (h : lines ≠ []) :
    dropReturns (line :: lines) = dropReturn line :: dropReturns lines := by
  obtain ⟨next, lines, rfl⟩ := List.exists_cons_of_ne_nil h
  rfl

theorem dropReturns_ne_nil {lines : List (List Char)} (h : lines ≠ []) : dropReturns lines ≠ [] := by
  obtain ⟨line, lines, rfl⟩ := List.exists_cons_of_ne_nil h
  cases lines <;> exact List.cons_ne_nil _ _

theorem length_dropReturns (lines : List (List Char)) :
    (dropReturns lines).length = lines.length := by
  fun_induction dropReturns lines with
  | case1 | case2 => rfl
  | case3 line next lines ih =>
      rw [List.length_cons, ih]
      rfl

theorem intercalate_dropReturns {lines : List (List Char)} (h : ∀ line ∈ lines, '\n' ∉ line) :
    ['\n'].intercalate (dropReturns lines) = plainEnds (['\n'].intercalate lines) := by
  fun_induction dropReturns lines with
  | case1 => rfl
  | case2 last =>
      rw [List.intercalate_singleton, plainEnds_of_not_mem (h last List.mem_cons_self)]
  | case3 line next lines ih =>
      obtain ⟨hline, hlines⟩ := List.forall_mem_cons.1 h
      have hne : dropReturns (next :: lines) ≠ [] := dropReturns_ne_nil (List.cons_ne_nil _ _)
      rw [List.intercalate_cons_of_ne_nil hne, ih hlines, List.intercalate_cons_cons,
        List.append_assoc, List.append_assoc, List.singleton_append, List.singleton_append,
        plainEnds_append_newline hline]

/-- A last piece that holds something is a line. -/
theorem closeLines_eq_dropReturns {pieces : List (List Char)}
    (h : ∀ last ∈ pieces.getLast?, last ≠ []) : closeLines pieces = dropReturns pieces := by
  fun_induction dropReturns pieces with
  | case1 => rfl
  | case2 last => rw [closeLines, if_neg (by simpa using h last rfl)]
  | case3 line next lines ih =>
      rw [List.getLast?_cons_cons] at h
      rw [closeLines, ih h]
      exact List.cons_ne_nil next lines

theorem closeLines_append {pieces rest : List (List Char)} (h : rest ≠ []) :
    closeLines (pieces ++ rest) = pieces.map dropReturn ++ closeLines rest := by
  induction pieces with
  | nil => rfl
  | cons piece pieces ih =>
      rw [List.cons_append, closeLines, ih]
      · rfl
      · exact List.append_ne_nil_of_right_ne_nil pieces h

/-- A text without newlines goes before the first piece. -/
theorem splitOn_append {lead : List Char} (h : '\n' ∉ lead) (s : List Char) :
    (lead ++ s).splitOn '\n' = (s.splitOn '\n').modifyHead (lead ++ ·) := by
  induction lead with
  | nil => exact (congrFun List.modifyHead_id _).symm
  | cons c lead ih =>
      obtain ⟨hc, hlead⟩ := not_or.1 (mt List.mem_cons.2 h)
      have hne : ¬(c == '\n') = true := by
        rw [beq_iff_eq]
        exact fun heq => hc heq.symm
      rw [List.cons_append, List.splitOn_cons_eq_if_modifyHead, if_neg hne, ih hlead,
        List.modifyHead_modifyHead]
      rfl

theorem forall_mem_splitOn (s : List Char) : ∀ part ∈ s.splitOn '\n', '\n' ∉ part := by
  induction s with
  | nil => simp
  | cons c s ih =>
      rw [List.splitOn_cons_eq_if_modifyHead]
      split
      · exact List.forall_mem_cons.2 ⟨List.not_mem_nil, ih⟩
      next hc =>
        obtain ⟨part, parts, heq⟩ := List.exists_cons_of_ne_nil (List.splitOn_ne_nil '\n' s)
        rw [heq] at ih ⊢
        obtain ⟨hpart, hparts⟩ := List.forall_mem_cons.1 ih
        rw [List.modifyHead_cons]
        refine List.forall_mem_cons.2 ⟨?_, hparts⟩
        intro hmem
        rcases List.mem_cons.1 hmem with rfl | hmem
        · exact hc rfl
        · exact hpart hmem

theorem length_splitOn (s : List Char) : (s.splitOn '\n').length = s.count '\n' + 1 := by
  induction s with
  | nil => rfl
  | cons c s ih =>
      rw [List.splitOn_cons_eq_if_modifyHead, List.count_cons]
      split
      · rw [List.length_cons, ih]
      · rw [List.length_modifyHead, ih, Nat.add_zero]

theorem dropReturns_modifyHead {lead : List Char} (h : lead.getLast? ≠ some '\r')
    (lines : List (List Char)) :
    dropReturns (lines.modifyHead (lead ++ ·)) = (dropReturns lines).modifyHead (lead ++ ·) := by
  rcases lines with _ | ⟨line, _ | ⟨next, lines⟩⟩
  · rfl
  · rfl
  · rw [List.modifyHead_cons, dropReturns, dropReturns, dropReturn_append fun _ => h,
      List.modifyHead_cons]

theorem map_dropReturn_modifyHead {lead : List Char} (h : lead.getLast? ≠ some '\r')
    (lines : List (List Char)) :
    (lines.modifyHead (lead ++ ·)).map dropReturn =
      (lines.map dropReturn).modifyHead (lead ++ ·) := by
  cases lines with
  | nil => rfl
  | cons line lines =>
      rw [List.modifyHead_cons, List.map_cons, dropReturn_append fun _ => h, List.map_cons,
        List.modifyHead_cons]

theorem lines_append_newline (s rest : List Char) :
    lines (s ++ '\n' :: rest) = (s.splitOn '\n').map dropReturn ++ lines rest := by
  rw [lines, List.splitOn_append_cons_self, closeLines_append (List.splitOn_ne_nil '\n' rest), lines]

theorem splitOn_of_not_mem {s : List Char} (h : '\n' ∉ s) : s.splitOn '\n' = [s] := by
  have hsplit := splitOn_append h []
  rwa [List.append_nil, List.splitOn_nil, List.modifyHead_cons, List.append_nil] at hsplit

theorem lines_of_not_mem {line : List Char} (h : '\n' ∉ line) (hne : line ≠ []) :
    lines line = [line] := by
  rw [lines, splitOn_of_not_mem h, closeLines, if_neg (by rwa [List.isEmpty_iff])]

theorem lines_append_newline_of_not_mem {line : List Char} (h : '\n' ∉ line) (rest : List Char) :
    lines (line ++ '\n' :: rest) = dropReturn line :: lines rest := by
  rw [lines_append_newline, splitOn_of_not_mem h]
  rfl

/-- A text without line ends is the beginning of the first line. -/
theorem exists_lines_append {lead : List Char} (hne : lead ≠ []) (hnewline : '\n' ∉ lead)
    (hreturn : lead.getLast? ≠ some '\r') (s : List Char) :
    ∃ first rest, lines (lead ++ s) = (lead ++ first) :: rest := by
  obtain ⟨piece, pieces, hpieces⟩ := List.exists_cons_of_ne_nil (List.splitOn_ne_nil '\n' s)
  rw [lines, splitOn_append hnewline, hpieces, List.modifyHead_cons]
  cases pieces with
  | nil =>
      rw [closeLines, if_neg (by simp [hne])]
      exact ⟨piece, [], rfl⟩
  | cons next pieces =>
      rw [closeLines, dropReturn_append fun _ => hreturn]
      · exact ⟨dropReturn piece, closeLines (next :: pieces), rfl⟩
      · exact List.cons_ne_nil next pieces

end Phrasebook.Text
