import Phrasebook.Proofs.KeyLayout
import Phrasebook.Source.KeyMarks

/-! The marks of a key. One pass over a key of a given layout leaves the marks of that layout
(`Layout.ofKey_text_eq_marks`), and at these the parts of the layout can be cut out, so the pass
reads what the layout says and never cuts out of range (`Layout.read?_marks`). -/

namespace Phrasebook.Key

open Text (bytes slice?)

namespace Marks

theorem run_append (marks : Marks) (place : Nat) (s t : List Char) :
    run marks place (s ++ t) = run (run marks place s) (place + bytes s) t := by
  induction s generalizing marks place with
  | nil => rfl
  | cons c s ih => rw [List.cons_append, run, ih, run, Text.bytes_cons, Nat.add_assoc]

theorem run_eq_self {marks : Marks} {s : List Char}
    (h : ∀ place, ∀ c ∈ s, marks.step place c = marks) (place : Nat) :
    run marks place s = marks := by
  induction s generalizing place with
  | nil => rfl
  | cons c s ih =>
      obtain ⟨hc, hs⟩ : (∀ place, marks.step place c = marks) ∧
          ∀ place, ∀ c ∈ s, marks.step place c = marks :=
        ⟨fun place => h place c List.mem_cons_self,
          fun place d hd => h place d (List.mem_cons_of_mem c hd)⟩
      rw [run, hc, ih hs]

/-- The marks with that of a number sign. -/
def addSign (marks : Marks) (place : Nat) : Marks :=
  { marks with nameEnd := some (marks.nameEnd.getD place), sign := some place }

/-- Whether no bracket has been opened, or one has been opened and closed. -/
def IsOutside (marks : Marks) : Prop :=
  marks.block = none ∨ marks.content.isSome = true

variable {marks : Marks}

theorem IsOutside.step_eq (h : marks.IsOutside) (place : Nat) (c : Char) :
    marks.step place c = marks.stepOutside place c := by
  rw [step]
  split
  next start closer hblock hcontent => simp [IsOutside, hblock, hcontent] at h
  next => rfl

theorem IsOutside.addSign (h : marks.IsOutside) (place : Nat) : (marks.addSign place).IsOutside := h

/-- Outside the brackets a character counts only as the first number sign or opening bracket. -/
theorem IsOutside.step_eq_self (h : marks.IsOutside) {c : Char}
    (hsign : c = '#' → marks.sign ≠ none) (hopener : isOpener c = true → marks.block ≠ none)
    (place : Nat) : marks.step place c = marks := by
  rw [h.step_eq, stepOutside, if_neg (fun hc => hsign hc.2 hc.1),
    if_neg (fun hc => hopener hc.2 hc.1)]

theorem IsOutside.step_sign (h : marks.IsOutside) (hsign : marks.sign = none) (place : Nat) :
    marks.step place '#' = marks.addSign place := by
  rw [h.step_eq, stepOutside, if_pos ⟨hsign, rfl⟩, Marks.addSign]

/-- The place of the first number sign of a text that begins at this place. -/
def signPlace (place : Nat) (s : List Char) : Option Nat :=
  (Layout.afterSign s).map fun _ => place + bytes (Layout.beforeSign s)

/-- Of a text outside the brackets that opens none, the first number sign is marked and nothing
else. -/
theorem IsOutside.run_eq (h : marks.IsOutside) (hsign : marks.sign = none) {s : List Char}
    (hopener : ∀ c ∈ s, isOpener c = true → marks.block ≠ none) (place : Nat) :
    run marks place s = (signPlace place s).elim marks marks.addSign := by
  rcases Layout.sign_cases s with ⟨hafter, -, hnone⟩ | ⟨tag, hafter, htext, hnone⟩
  · rw [signPlace, hafter, Option.map_none, Option.elim_none]
    apply run_eq_self
    intro place c hc
    exact h.step_eq_self (fun heq => absurd (heq ▸ hc) hnone) (hopener c hc) place
  · rw [signPlace, hafter, Option.map_some, Option.elim_some]
    have hmem : ∀ c ∈ Layout.beforeSign s, c ∈ s := by
      intro c hc
      rw [htext]
      exact List.mem_append_left _ hc
    have hname : ∀ place, run marks place (Layout.beforeSign s) = marks := by
      apply run_eq_self
      intro place c hc
      exact h.step_eq_self (fun heq => absurd (heq ▸ hc) hnone) (hopener c (hmem c hc)) place
    have htag : ∀ sign place, run (marks.addSign sign) place tag = marks.addSign sign := by
      intro sign
      apply run_eq_self
      intro place c hc
      exact (h.addSign sign).step_eq_self (fun _ => Option.some_ne_none sign)
        (hopener c (by rw [htext]; simp [hc])) place
    conv_lhs => rw [htext]
    rw [run_append, hname, run, h.step_sign hsign, htag]

/-- After the brackets a number sign is marked if none has been. -/
theorem IsOutside.run_after (h : marks.IsOutside) (hblock : marks.block ≠ none) {nameEnd : Nat}
    (hname : marks.nameEnd = some nameEnd) (s : List Char) (place : Nat) :
    run marks place s = { marks with sign := marks.sign.or (signPlace place s) } := by
  cases hsign : marks.sign with
  | none =>
      rw [h.run_eq hsign (fun _ _ _ => hblock) place, Option.none_or]
      cases signPlace place s with
      | none => rw [Option.elim_none, ← hsign]
      | some sign => rw [Option.elim_some, Marks.addSign, hname, Option.getD_some, ← hname]
  | some sign =>
      rw [Option.some_or, ← hsign]
      apply run_eq_self
      intro place c hc
      exact h.step_eq_self (fun _ => hsign ▸ Option.some_ne_none sign) (fun _ => hblock) place

/-- Inside the brackets nothing is marked before the bracket that closes them. -/
theorem run_inside {start : Nat} {closer : Char} (hblock : marks.block = some (start, closer))
    (hcontent : marks.content = none) {s : List Char} (h : closer ∉ s) (place : Nat) :
    run marks place s = marks := by
  apply run_eq_self
  intro place c hc
  have hne : c ≠ closer := fun heq => h (heq ▸ hc)
  simp only [step, hblock, hcontent, if_neg hne]

theorem step_closer {start : Nat} {closer : Char} (hblock : marks.block = some (start, closer))
    (hcontent : marks.content = none) (place : Nat) :
    marks.step place closer = { marks with content := some (start, place) } := by
  simp only [step, hblock, hcontent, if_pos]

end Marks

namespace Layout

open Marks (signPlace)

/-- The marks of what stands before the brackets, and of the bracket that opens them. -/
def blockMarks (before : List Char) (opener : Char) : Marks where
  nameEnd := some (bytes (beforeSign before))
  sign := signPlace 0 before
  tagEnd := (signPlace 0 before).map fun _ => bytes before
  block := some (bytes before + opener.utf8Size, closer opener)

def marks : Layout → Marks
  | plain text => { nameEnd := signPlace 0 text, sign := signPlace 0 text }
  | unclosed before opener _ => blockMarks before opener
  | closed before opener content after =>
    let start := bytes before + opener.utf8Size
    let stop := start + bytes content
    { blockMarks before opener with
      sign := (signPlace 0 before).or (signPlace (stop + (closer opener).utf8Size) after)
      content := some (start, stop) }

theorem run_before {s : List Char} (h : ∀ c ∈ s, isOpener c = false) :
    Marks.run {} 0 s = { nameEnd := signPlace 0 s, sign := signPlace 0 s } := by
  have houtside : ({} : Marks).IsOutside := .inl rfl
  rw [houtside.run_eq rfl (fun c hc hopener => by rw [h c hc] at hopener; cases hopener) 0]
  cases signPlace 0 s <;> rfl

theorem run_opener {before : List Char} {opener : Char} (hbefore : ∀ c ∈ before, isOpener c = false)
    (hopener : isOpener opener = true) (rest : List Char) :
    Marks.ofKey (before ++ opener :: rest) =
      (blockMarks before opener).run (bytes before + opener.utf8Size) rest := by
  have hne : opener ≠ '#' := (ne_of_isOpener hopener).2.2
  rw [Marks.ofKey, Marks.run_append, run_before hbefore, Marks.run, Nat.zero_add]
  congr 1
  have houtside : Marks.IsOutside { nameEnd := signPlace 0 before, sign := signPlace 0 before } :=
    .inl rfl
  rw [houtside.step_eq, Marks.stepOutside, if_neg (fun hc => hne hc.2), if_pos ⟨rfl, hopener⟩,
    blockMarks, signPlace]
  rcases sign_cases before with ⟨hafter, hall, -⟩ | ⟨tag, hafter, -, -⟩
  · simp [hafter, hall]
  · simp [hafter]

/-- One pass over a key leaves the marks of its layout. -/
theorem ofKey_text_eq_marks {layout : Layout} (h : layout.IsFirst) :
    Marks.ofKey layout.text = layout.marks := by
  cases layout with
  | plain text => exact run_before h
  | unclosed before opener rest =>
      obtain ⟨hbefore, hopener, hcloser⟩ := h
      rw [text, run_opener hbefore hopener, Marks.run_inside rfl rfl hcloser]
      rfl
  | closed before opener content after =>
      obtain ⟨hbefore, hopener, hcloser⟩ := h
      have houtside : Marks.IsOutside { blockMarks before opener with
          content := some (bytes before + opener.utf8Size,
            bytes before + opener.utf8Size + bytes content) } :=
        .inr rfl
      rw [text, run_opener hbefore hopener, Marks.run_append, Marks.run_inside rfl rfl hcloser,
        Marks.run, Marks.step_closer rfl rfl, houtside.run_after (Option.some_ne_none _) rfl]
      rfl

/-! ### Cutting at the marks -/

theorem slice?_afterSign (lead s rest : List Char) :
    ((signPlace (bytes lead) s).mapM fun sign =>
      slice? (sign + 1) (bytes (lead ++ s)) (lead ++ s ++ rest)) = some (afterSign s) := by
  rw [signPlace]
  rcases sign_cases s with ⟨hafter, -, -⟩ | ⟨tag, hafter, htext, -⟩
  · rw [hafter]
    rfl
  · have hslice : slice? (bytes lead + bytes (beforeSign s) + 1) (bytes (lead ++ s))
        (lead ++ s ++ rest) = some tag := by
      rw [Text.slice?_eq_some_iff]
      refine ⟨lead ++ (beforeSign s ++ ['#']), rest, ?_, ?_, ?_⟩
      · conv_lhs => rw [htext]
        simp
      · rw [Text.bytes_append, Text.bytes_append, ← Nat.add_assoc]
        rfl
      · conv_rhs => rw [htext]
        simp
    rw [hafter, Option.map_some, Option.mapM_some, hslice]
    rfl

theorem slice?_takeWhile (p : Char → Bool) (s : List Char) :
    slice? 0 (bytes (s.takeWhile p)) s = some (s.takeWhile p) :=
  Text.slice?_eq_some_iff.2 ⟨[], s.dropWhile p, List.takeWhile_append_dropWhile.symm, rfl, rfl⟩

theorem name?_marks {layout : Layout} (h : layout.IsFirst) :
    layout.marks.name? layout.text = some (layout.text.takeWhile fun c => !endsName c) := by
  have hend : layout.marks.nameEnd.getD (bytes layout.text) =
      bytes (layout.text.takeWhile fun c => !endsName c) := by
    cases layout with
    | plain s =>
        have hname := (span_endsName h [] (by simp)).1
        rw [List.append_nil] at hname
        rw [text, hname, marks, signPlace]
        rcases sign_cases s with ⟨hafter, hall, -⟩ | ⟨tag, hafter, -, -⟩
        · simp [hafter, hall]
        · simp [hafter]
    | unclosed before opener rest =>
        rw [text, (span_endsName h.1 _ (by rintro c ⟨⟩; exact h.2.1)).1]
        rfl
    | closed before opener content after =>
        rw [text, (span_endsName h.1 _ (by rintro c ⟨⟩; exact h.2.1)).1]
        rfl
  rw [Marks.name?, hend, slice?_takeWhile]

/-- A tag before the brackets ends where they begin. -/
theorem tag?_of_sign {marks : Marks} {before : List Char} {tag : List Char}
    (hafter : afterSign before = some tag) (hsign : marks.sign = signPlace 0 before)
    (hend : marks.tagEnd = some (bytes before)) (rest : List Char) :
    marks.tag? (before ++ rest) = some (some tag) := by
  rw [Marks.tag?, hsign, hend, Option.getD_some, ← hafter]
  exact slice?_afterSign [] before rest

/-- Without brackets after it a tag ends with the key. -/
theorem tag?_of_tagEnd_eq_none {marks : Marks} (lead s : List Char)
    (hsign : marks.sign = signPlace (bytes lead) s) (hend : marks.tagEnd = none) :
    marks.tag? (lead ++ s) = some (afterSign s) := by
  have hslice := slice?_afterSign lead s []
  rw [List.append_nil] at hslice
  rw [Marks.tag?, hsign, hend, Option.getD_none, hslice]

theorem tag?_marks (layout : Layout) : layout.marks.tag? layout.text = some layout.tag := by
  cases layout with
  | plain s => exact tag?_of_tagEnd_eq_none [] s rfl rfl
  | unclosed before opener rest =>
      cases hafter : afterSign before with
      | none => simp [Marks.tag?, marks, blockMarks, signPlace, tag, hafter]
      | some s =>
          have hend : (blockMarks before opener).tagEnd = some (bytes before) := by
            simp [blockMarks, signPlace, hafter]
          rw [text, marks, tag, hafter, tag?_of_sign hafter rfl hend]
  | closed before opener content after =>
      cases hafter : afterSign before with
      | none =>
          let lead := before ++ opener :: (content ++ [closer opener])
          have htext : (closed before opener content after).text = lead ++ after := by
            simp [text, lead]
          have hlead : bytes lead =
              bytes before + opener.utf8Size + bytes content + (closer opener).utf8Size := by
            simp only [lead, Text.bytes_append, Text.bytes_cons]
            rw [← Nat.add_assoc, ← Nat.add_assoc]
            rfl
          have hsign : (closed before opener content after).marks.sign =
              signPlace (bytes lead) after := by
            rw [hlead, marks, signPlace, hafter]
            rfl
          have hend : (closed before opener content after).marks.tagEnd = none := by
            simp [marks, blockMarks, signPlace, hafter]
          rw [htext, tag?_of_tagEnd_eq_none lead after hsign hend, tag, hafter, Option.none_or]
      | some s =>
          rw [text, tag, hafter, Option.some_or]
          apply tag?_of_sign hafter
          · simp [marks, signPlace, hafter]
          · simp [marks, blockMarks, signPlace, hafter]

theorem content?_marks (layout : Layout) :
    layout.marks.content? layout.text = some layout.content := by
  cases layout with
  | plain s => rfl
  | unclosed before opener rest => rfl
  | closed before opener content after =>
      have hslice : slice? (bytes before + opener.utf8Size)
          (bytes before + opener.utf8Size + bytes content)
          (before ++ opener :: (content ++ closer opener :: after)) = some content := by
        rw [Text.slice?_eq_some_iff]
        refine ⟨before ++ [opener], closer opener :: after, ?_, ?_, ?_⟩
        · simp
        · rw [Text.bytes_append]
          rfl
        · rw [Text.bytes_append, Text.bytes_append]
          rfl
      rw [Marks.content?, marks, text, Option.mapM_some]
      simp only [hslice]
      rfl

/-- The pass reads what the layout says; every cut it makes is in range. -/
theorem read?_marks {layout : Layout} (h : layout.IsFirst) :
    (Marks.ofKey layout.text).read? layout.text = some layout.read := by
  rw [ofKey_text_eq_marks h, Marks.read?, name?_marks h, tag?_marks, content?_marks]
  cases layout with
  | plain s => simp [marks, read, key, content, tagOf_eq]
  | unclosed before opener rest => simp [marks, blockMarks, read, key, content, tagOf_eq]
  | closed before opener content after =>
      simp [marks, blockMarks, read, key, Layout.content, tagOf_eq, tokens_eq]

end Layout

/-- Every key has one layout. What is read from it, or its error, is what that layout says, and one
pass over the key reads it from cuts that are all in range. -/
theorem parse_by_layout (key : List Char) :
    ∃ layout : Layout, (∀ other : Layout, other.IsOf key ↔ other = layout) ∧
      parse key = layout.read ∧ (Marks.ofKey key).read? key = some layout.read := by
  obtain ⟨hfirst, htext⟩ := Layout.isOf_ofKey key
  refine ⟨Layout.ofKey key, fun other => Layout.isOf_iff, ?_, ?_⟩
  · rw [← Layout.parse_eq_read hfirst, htext]
  · rw [← Layout.read?_marks hfirst, htext]

/-- The number sign between the brackets is part of an entry; the one after them starts the tag. -/
example : parse "a [x#y, m] # de".toList = .ok ⟨"a", some "de", [.bare "x#y", .bare "m"]⟩ := by
  decide +kernel

end Phrasebook.Key
