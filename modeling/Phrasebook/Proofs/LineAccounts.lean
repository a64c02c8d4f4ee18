import Phrasebook.Proofs.Concatenation
import Phrasebook.Proofs.QuotedValues

/-! What becomes of each line of a text. Outside quotes a line says nothing, begins a quoted value,
or is an item of its own (`readLine_cases`). So the lines fall into stretches, each with the item
that its first line begins or without one (`Covers`), and the scan is the list of these items
(`covers_scanLines`). Everything about the places of the items is read off the stretches: they stand
in the order of their lines (`Covers.pairwise`), and a line begins an item exactly if it says
something and no quoted value that began further up is still open (`Covers.exists_item_iff`). -/

namespace Phrasebook.Statement

/-! ### One line -/

/-- The text before the first equals sign, all of the line if there is none, begins with a number
sign. -/
def IsComment (line : List Char) : Prop :=
  (Text.trim (line.takeWhile fun c => c ≠ '=')).head? = some '#'

instance (line : List Char) : Decidable (IsComment line) :=
  inferInstanceAs (Decidable ((Text.trim (line.takeWhile fun c => c ≠ '=')).head? = some '#'))

theorem splitLine_fst (line : List Char) :
    (splitLine line).1 = Text.trim (line.takeWhile fun c => c ≠ '=') := by
  rw [splitLine]
  cases hcut : Text.cutAt '=' line with
  | none =>
      have hequals := Text.cutAt_eq_none_iff.1 hcut
      have htake : (line.takeWhile fun c => c ≠ '=') = line := by
        rw [List.takeWhile_eq_self_iff]
        intro c hc
        simpa using fun heq : c = '=' => hequals (heq ▸ hc)
      rw [htake]
  | some parts =>
      obtain ⟨key, value⟩ := parts
      obtain ⟨rfl, hequals⟩ := Text.cutAt_eq_some_iff.1 hcut
      have hkey : ∀ c ∈ key, decide (c ≠ '=') = true := by
        intro c hc
        simpa using fun heq : c = '=' => hequals (heq ▸ hc)
      have hvalue : ∀ c ∈ ('=' :: value).head?, decide (c ≠ '=') = false := by simp
      rw [(Text.span_append hkey hvalue).1]

/-- A comment is one as a whole line too: its number sign stands before the first equals sign. -/
theorem isSilent_iff {line : List Char} : IsSilent line ↔ Text.trim line = [] ∨ IsComment line := by
  refine or_congr_right ⟨fun h => ?_, fun h => ?_⟩
  · rw [IsComment, ← splitLine_fst]
    exact head?_splitLine h
  · rw [IsComment, Text.head?_trim] at h
    rw [Text.head?_trim, ← List.takeWhile_append_dropWhile (p := fun c => c ≠ '=') (l := line),
      List.find?_append, h, Option.some_or]

/-- What follows the first equals sign of a line and the blanks after it. -/
def valueText (line : List Char) : Option (List Char) :=
  (splitLine line).2.map Text.trimStart

namespace QuotedStart

theorem valueText_line (start : QuotedStart) :
    valueText start.line = some (start.quote :: start.first) := by
  rw [valueText, start.splitLine_line, Option.map_some, start.trimStart_value]

theorem not_isSilent (start : QuotedStart) : ¬IsSilent start.line := by
  rw [isSilent_iff, IsComment, ← splitLine_fst, start.splitLine_line]
  exact not_or.2
    ⟨Text.trim_ne_nil (c := start.quote) (by simp [line]) start.isBlank_quote, start.no_comment⟩

/-- A line begins at most one quoted value. -/
theorem unique {start start' : QuotedStart} (h : start.line = start'.line) :
    start.quote = start'.quote ∧ start.first = start'.first := by
  have hvalue := start.valueText_line
  rw [h, start'.valueText_line] at hvalue
  obtain ⟨hquote, hfirst⟩ := List.cons_eq_cons.1 (Option.some.inj hvalue)
  exact ⟨hquote.symm, hfirst.symm⟩

theorem exists_of_valueText {line first : List Char} {quote : Char} (hline : ¬IsSilent line)
    (hvalue : valueText line = some (quote :: first)) (hquote : quote = '\'' ∨ quote = '"') :
    ∃ start : QuotedStart, start.line = line := by
  obtain ⟨value, hsplit, hstart⟩ := Option.map_eq_some_iff.1 hvalue
  have hcomment : ¬(splitLine line).1.head? = some '#' := by
    rw [isSilent_iff, IsComment, ← splitLine_fst, not_or] at hline
    exact hline.2
  rw [splitLine] at hsplit hcomment
  cases hcut : Text.cutAt '=' line with
  | none =>
      rw [hcut] at hsplit
      cases hsplit
  | some parts =>
      obtain ⟨key, text⟩ := parts
      rw [hcut] at hsplit hcomment
      obtain rfl : text = value := Option.some.inj hsplit
      obtain ⟨rfl, hequals⟩ := Text.cutAt_eq_some_iff.1 hcut
      have htext : text.takeWhile Text.isBlank ++ quote :: first = text := by
        rw [← hstart]
        exact List.takeWhile_append_dropWhile
      exact ⟨⟨key, text.takeWhile Text.isBlank, quote, first, hequals, hcomment,
        fun c hc => List.mem_takeWhile_imp hc, hquote⟩, congrArg (key ++ '=' :: ·) htext⟩

end QuotedStart

theorem readLine_of_not_isSilent {line : List Char} (h : ¬IsSilent line) (number : Nat) :
    readLine number line =
      (splitLine line).2.elim
        (.outside, some (.error ⟨.missingAssignment, String.ofList (splitLine line).1,
          ⟨none, number, String.ofList line⟩⟩))
        (readValue (String.ofList (splitLine line).1) ⟨none, number, String.ofList line⟩) := by
  have hskip :
      ¬((Text.trim line).isEmpty || (splitLine line).1.head? == some '#') = true := by
    rw [Bool.or_eq_true, List.isEmpty_iff, beq_iff_eq, splitLine_fst]
    rwa [isSilent_iff, IsComment] at h
  simp only [readLine, if_neg hskip]
  cases (splitLine line).2 <;> rfl

/-- An item that ends no quoted value: it begins on this line, and no value is left open. -/
structure IsAlone (number : Nat) (line : List Char) (item : Item) : Prop where
  location : locationOf item = ⟨none, number, String.ofList line⟩
  closed : ∀ problem, item = .error problem → problem.cause ≠ .unclosedValue

theorem readLine_cases (number : Nat) (line : List Char) :
    (IsSilent line ∧ readLine number line = (.outside, none)) ∨
      (∃ start : QuotedStart, start.line = line) ∨
      ¬IsSilent line ∧ (∀ start : QuotedStart, start.line ≠ line) ∧
        ∃ item, readLine number line = (.outside, some item) ∧ IsAlone number line item := by
  by_cases hsilent : IsSilent line
  · exact .inl ⟨hsilent, readLine_of_isSilent hsilent number⟩
  by_cases hquoted : ∃ start : QuotedStart, start.line = line
  · exact .inr (.inl hquoted)
  refine .inr (.inr ⟨hsilent, fun start hstart => hquoted ⟨start, hstart⟩, ?_⟩)
  have hread := readLine_of_not_isSilent hsilent number
  cases hvalue : (splitLine line).2 with
  | none =>
      rw [hvalue] at hread
      refine ⟨_, hread, rfl, ?_⟩
      rintro _ ⟨⟩
      exact Problem.Cause.noConfusion
  | some value =>
      rw [hvalue, Option.elim_some, readValue] at hread
      split at hread
      · exact ⟨_, hread, rfl, nofun⟩
      next c first htext =>
        have hline : valueText line = some (c :: first) := by
          rw [valueText, hvalue, Option.map_some, htext]
        have hquote : ¬(c = '\'' ∨ c = '"') :=
          fun hquote => hquoted (QuotedStart.exists_of_valueText hsilent hline hquote)
        rw [if_neg hquote] at hread
        exact ⟨_, hread, rfl, nofun⟩

/-! ### Stretches of lines -/

/-- The quoted value that the line begins is not closed by its end, nor by any of the next lines. -/
def StaysOpen (line : List Char) (between : List (List Char)) : Prop :=
  ∃ start : QuotedStart, start.line = line ∧
    ∀ part ∈ start.first :: between, Quoted.IsOpen start.quote part

theorem QuotedStart.staysOpen_iff (start : QuotedStart) {between : List (List Char)} :
    StaysOpen start.line between ↔
      ∀ part ∈ start.first :: between, Quoted.IsOpen start.quote part := by
  constructor
  · rintro ⟨start', hline, hopen⟩
    obtain ⟨hquote, hfirst⟩ := unique hline
    rwa [← hquote, ← hfirst]
  · exact fun hopen => ⟨start, rfl, hopen⟩

/-- The first line of a list for which a condition fails tells for which first parts it holds. -/
theorem forall_mem_iff_length_le {α : Type} {p : α → Prop} {good : List α} {bad : α}
    {rest front back : List α} (hgood : ∀ a ∈ good, p a) (hbad : ¬p bad)
    (h : good ++ bad :: rest = front ++ back) :
    (∀ a ∈ front, p a) ↔ front.length ≤ good.length := by
  rcases List.append_eq_append_iff.1 h with ⟨mid, rfl, hmid⟩ | ⟨mid, rfl, -⟩
  · cases mid with
    | nil =>
        rw [List.append_nil]
        exact iff_of_true hgood le_rfl
    | cons c mid =>
        obtain ⟨rfl, -⟩ := List.cons_eq_cons.1 hmid
        refine iff_of_false (fun hall => hbad (hall bad (by simp))) ?_
        rw [List.length_append, List.length_cons]
        omega
  · refine iff_of_true (fun a ha => hgood a (List.mem_append_left _ ha)) ?_
    rw [List.length_append]
    omega

/-- The lines that begin on a line with this number, and the items that account for them. Each item
has a stretch of lines, which ends with the last line inside the value that it begins. -/
inductive Covers : (number : Nat) → (lines : List (List Char)) → (items : List Item) → Prop where
  | nil (number : Nat) : Covers number [] []
  | silent {number : Nat} {line : List Char} {lines : List (List Char)} {items : List Item}
      (hline : IsSilent line) (hrest : Covers (number + 1) lines items) :
      Covers number (line :: lines) items
  | stretch {number : Nat} {line : List Char} {inner rest : List (List Char)} {item : Item}
      {items : List Item} (hline : ¬IsSilent line)
      (hlocation : locationOf item = ⟨none, number, String.ofList line⟩)
      (hinner : ∀ between next after, inner ++ rest = between ++ next :: after →
        (StaysOpen line between ↔ between.length < inner.length))
      (hclosed : ∀ problem, item = .error problem → problem.cause = .unclosedValue → rest = [])
      (hrest : Covers (number + inner.length + 1) rest items) :
      Covers number (line :: (inner ++ rest)) (item :: items)

theorem Covers.alone {number : Nat} {line : List Char} {lines : List (List Char)} {item : Item}
    {items : List Item} (hline : ¬IsSilent line) (hstart : ∀ start : QuotedStart, start.line ≠ line)
    (hitem : IsAlone number line item) (hrest : Covers (number + 1) lines items) :
    Covers number (line :: lines) (item :: items) := by
  refine @stretch number line [] lines _ _ hline hitem.location ?_ ?_ hrest
  · rintro between next after -
    refine iff_of_false ?_ (Nat.not_lt_zero _)
    rintro ⟨start, hstart', -⟩
    exact hstart start hstart'
  · exact fun problem herror hcause => absurd hcause (hitem.closed problem herror)

/-- A quoted value has its lines up to the one that closes it. -/
theorem QuotedStart.covers_of_closed (start : QuotedStart) {number : Nat}
    {lines opened rest : List (List Char)} {last : List Char} {statement : Statement}
    {items : List Item} (hlines : start.first :: lines = opened ++ last :: rest)
    (hopened : ∀ part ∈ opened, Quoted.IsOpen start.quote part)
    (hlast : ¬Quoted.IsOpen start.quote last)
    (hlocation : statement.location = ⟨none, number, String.ofList start.line⟩)
    (hrest : Covers (number + opened.length + 1) rest items) :
    Covers number (start.line :: lines) (.ok statement :: items) := by
  have hlength := congrArg List.length hlines
  rw [List.length_cons, List.length_append, List.length_cons] at hlength
  have hinner : (lines.take opened.length).length = opened.length := by
    rw [List.length_take]
    omega
  have hdrop : lines.drop opened.length = rest := by
    have hdrop := congrArg (List.drop (opened.length + 1)) hlines
    rwa [List.drop_succ_cons, List.drop_append, List.drop_of_length_le (Nat.le_succ _),
      Nat.add_sub_cancel_left, List.drop_one, List.tail_cons, List.nil_append] at hdrop
  have hcovers : Covers number (start.line :: (lines.take opened.length ++ lines.drop opened.length))
      (.ok statement :: items) := by
    refine .stretch start.not_isSilent hlocation ?_ nofun ?_
    · intro between next after hbetween
      rw [List.take_append_drop] at hbetween
      rw [start.staysOpen_iff, hinner]
      have hparts : opened ++ last :: rest = (start.first :: between) ++ next :: after := by
        rw [← hlines, hbetween, List.cons_append]
      exact forall_mem_iff_length_le hopened hlast hparts
    · rwa [hinner, hdrop]
  rwa [List.take_append_drop] at hcovers

/-- A quoted value that nothing closes has all lines. -/
theorem QuotedStart.covers_of_open (start : QuotedStart) {lines : List (List Char)}
    (hopen : ∀ part ∈ start.first :: lines, Quoted.IsOpen start.quote part) (number : Nat) :
    Covers number (start.line :: lines) [.error (start.pending number).unclosed] := by
  have hcovers : Covers number (start.line :: (lines ++ []))
      [.error (start.pending number).unclosed] := by
    refine .stretch start.not_isSilent rfl ?_ (fun _ _ _ => rfl) (.nil _)
    intro between next after hbetween
    rw [List.append_nil] at hbetween
    rw [start.staysOpen_iff]
    refine iff_of_true ?_ ?_
    · intro part hpart
      apply hopen
      rw [hbetween, ← List.cons_append]
      exact List.mem_append_left _ hpart
    · rw [hbetween, List.length_append, List.length_cons]
      omega
  rwa [List.append_nil] at hcovers

theorem covers_scanLines (number : Nat) (lines : List (List Char)) :
    Covers number lines (scanLines .outside number lines) := by
  -- The induction is on the lines that are left, since an item may take any number of them.
  induction hlength : lines.length using Nat.strong_induction_on generalizing number lines with
  | _ length ih =>
      cases lines with
      | nil => exact .nil number
      | cons line lines =>
          have hnext : ∀ number rest, rest.length ≤ lines.length →
              Covers number rest (scanLines .outside number rest) := by
            intro number rest hle
            apply ih rest.length
            · rw [← hlength, List.length_cons]
              omega
            · rfl
          rcases readLine_cases number line with
            ⟨hsilent, hread⟩ | ⟨start, rfl⟩ | ⟨hline, hstart, item, hread, hitem⟩
          · rw [scanLines_cons, State.step, hread]
            exact .silent hsilent (hnext _ _ le_rfl)
          · have hquote : start.quote ≠ '\\' := (Quoted.ne_of_quote start.isQuote).1
            rw [start.scanLines_line]
            rcases scanLines_inside (start.pending number) hquote number (start.first :: lines) with
              ⟨texts, rest, hspans, hscan⟩ | ⟨hopen, hscan⟩
            · obtain ⟨opened, last, hlines, htexts, hopened, hlast⟩ := hspans.exists_last
              rw [hscan, htexts, ← Nat.add_assoc]
              refine start.covers_of_closed hlines hopened hlast rfl (hnext _ _ ?_)
              have hcount := congrArg List.length hlines
              rw [List.length_cons, List.length_append, List.length_cons] at hcount
              omega
            · rw [hscan]
              exact start.covers_of_open hopen number
          · rw [scanLines_cons, State.step, hread]
            exact .alone hline hstart hitem (hnext _ _ le_rfl)

/-! ### What stretches say about lines and items -/

/-- After these lines the quoted value that the item begins on one of them is open. -/
def IsOpenAfter (number : Nat) (before : List (List Char)) (item : Item) : Prop :=
  ∃ outer line between, before = outer ++ line :: between ∧
    (locationOf item).line = number + outer.length ∧ StaysOpen line between

/-- The line after these is inside a quoted value. -/
def IsInside (number : Nat) (items : List Item) (before : List (List Char)) : Prop :=
  ∃ item ∈ items, IsOpenAfter number before item

theorem isInside_cons {number : Nat} {item : Item} {items : List Item}
    {before : List (List Char)} :
    IsInside number (item :: items) before ↔
      IsOpenAfter number before item ∨ IsInside number items before := by
  simp only [IsInside, List.mem_cons, or_and_right, exists_or, exists_eq_left]

/-- Lines above all items can be left out. -/
theorem isInside_append {number : Nat} {items : List Item} {skipped : List (List Char)}
    (h : ∀ item ∈ items, number + skipped.length ≤ (locationOf item).line)
    (before : List (List Char)) :
    IsInside number items (skipped ++ before) ↔
      IsInside (number + skipped.length) items before := by
  constructor
  · rintro ⟨item, hitem, outer, line, between, hbefore, hnumber, hopen⟩
    have hle := h item hitem
    obtain ⟨outer', rfl, rfl⟩ : ∃ outer', outer = skipped ++ outer' ∧
        before = outer' ++ line :: between := by
      rcases List.append_eq_append_iff.1 hbefore with ⟨mid, rfl, hmid⟩ | ⟨mid, rfl, hmid⟩
      · exact ⟨mid, rfl, hmid⟩
      · have hmid' : mid = [] := by
          rw [← List.length_eq_zero_iff]
          rw [hnumber, List.length_append] at hle
          omega
        subst hmid'
        exact ⟨[], by simp, by simpa using hmid.symm⟩
    rw [List.length_append, ← Nat.add_assoc] at hnumber
    exact ⟨item, hitem, outer', line, between, rfl, hnumber, hopen⟩
  · rintro ⟨item, hitem, outer, line, between, rfl, hnumber, hopen⟩
    refine ⟨item, hitem, skipped ++ outer, line, between, (List.append_assoc _ _ _).symm, ?_, hopen⟩
    rw [hnumber, List.length_append, Nat.add_assoc]

namespace Covers

variable {number : Nat} {lines : List (List Char)} {items : List Item}

/-- An item names the line that it begins on, by its number and its text. -/
theorem exists_line (h : Covers number lines items) :
    ∀ item ∈ items, ∃ before line after, lines = before ++ line :: after ∧
      locationOf item = ⟨none, number + before.length, String.ofList line⟩ := by
  induction h with
  | nil number => simp
  | @silent number line lines items hline hrest ih =>
      intro item hitem
      obtain ⟨before, found, after, rfl, hlocation⟩ := ih item hitem
      refine ⟨line :: before, found, after, rfl, ?_⟩
      rw [hlocation, List.length_cons, Nat.add_assoc, Nat.add_comm 1]
  | @stretch number line inner rest item items hline hlocation hinner hclosed hrest ih =>
      rw [List.forall_mem_cons]
      refine ⟨⟨[], line, inner ++ rest, rfl, hlocation⟩, ?_⟩
      intro later hlater
      obtain ⟨before, found, after, rfl, hlater⟩ := ih later hlater
      refine ⟨line :: (inner ++ before), found, after, by simp, ?_⟩
      rw [hlater, List.length_cons, List.length_append, Nat.add_assoc, Nat.add_assoc,
        Nat.add_comm 1, Nat.add_assoc]

theorem number_le (h : Covers number lines items) :
    ∀ item ∈ items, number ≤ (locationOf item).line := by
  intro item hitem
  obtain ⟨before, line, after, -, hlocation⟩ := h.exists_line item hitem
  rw [hlocation]
  exact Nat.le_add_right _ _

theorem pairwise (h : Covers number lines items) :
    items.Pairwise fun item later => (locationOf item).line < (locationOf later).line := by
  induction h with
  | nil => exact .nil
  | silent _ _ ih => exact ih
  | @stretch number line inner rest item items hline hlocation hinner hclosed hrest ih =>
      refine .cons ?_ ih
      intro later hlater
      have hitem : (locationOf item).line = number := congrArg Location.line hlocation
      have hle := hrest.number_le later hlater
      omega

theorem unclosed_last (h : Covers number lines items) {before after : List Item}
    {problem : Problem} (hitems : items = before ++ .error problem :: after)
    (hcause : problem.cause = .unclosedValue) : after = [] := by
  induction h generalizing before with
  | nil => simp at hitems
  | silent _ _ ih => exact ih hitems
  | stretch hline hlocation hinner hclosed hrest ih =>
      cases before with
      | nil =>
          obtain ⟨rfl, rfl⟩ := List.cons_eq_cons.1 hitems
          obtain rfl := hclosed problem rfl hcause
          cases hrest
          rfl
      | cons first before => exact ih (List.cons_eq_cons.1 hitems).2

/-- After the stretch of an item, only the items that follow can have a line inside. -/
theorem isInside_after_stretch {first : List Char} {inner : List (List Char)} {item : Item}
    (hitem : (locationOf item).line = number)
    (hle : ∀ later ∈ items, number + inner.length + 1 ≤ (locationOf later).line)
    {before : List (List Char)} (hclosed : ¬StaysOpen first (inner ++ before)) :
    IsInside number (item :: items) (first :: (inner ++ before)) ↔
      IsInside (number + inner.length + 1) items before := by
  have hitem : ¬IsOpenAfter number (first :: (inner ++ before)) item := by
    rintro ⟨outer, line, between, hbefore, hnumber, hopen⟩
    have houter : outer = [] := by
      rw [← List.length_eq_zero_iff]
      omega
    rw [houter, List.nil_append] at hbefore
    obtain ⟨rfl, rfl⟩ := List.cons_eq_cons.1 hbefore
    exact hclosed hopen
  rw [isInside_cons, or_iff_right hitem]
  exact @isInside_append number items (first :: inner) hle before

/-- A line begins an item exactly if it says something and is not inside a quoted value. -/
theorem exists_item_iff (h : Covers number lines items) {before after : List (List Char)}
    {line : List Char} (hlines : lines = before ++ line :: after) :
    (∃ item ∈ items, (locationOf item).line = number + before.length) ↔
      ¬IsSilent line ∧ ¬IsInside number items before := by
  induction h generalizing before with
  | nil => simp at hlines
  | @silent number first lines items hfirst hrest ih =>
      have hle := hrest.number_le
      cases before with
      | nil =>
          obtain ⟨rfl, -⟩ := List.cons_eq_cons.1 hlines
          refine iff_of_false ?_ (fun hline => hline.1 hfirst)
          rintro ⟨item, hitem, hnumber⟩
          have hitem := hle item hitem
          rw [List.length_nil] at hnumber
          omega
      | cons _ before =>
          obtain ⟨rfl, hbefore⟩ := List.cons_eq_cons.1 hlines
          have hinside := @isInside_append number items [first] hle before
          rw [List.singleton_append, List.length_singleton] at hinside
          rw [hinside, ← ih hbefore, List.length_cons, Nat.add_assoc, Nat.add_comm 1]
  | @stretch number first inner rest item items hfirst hlocation hinner hclosed hrest ih =>
      have hitem : (locationOf item).line = number := congrArg Location.line hlocation
      have hle := hrest.number_le
      cases before with
      | nil =>
          obtain ⟨rfl, -⟩ := List.cons_eq_cons.1 hlines
          refine iff_of_true ⟨item, List.mem_cons_self, hitem⟩ ⟨hfirst, ?_⟩
          rintro ⟨_, -, outer, line, between, hbefore, -⟩
          simp at hbefore
      | cons _ before =>
          obtain ⟨rfl, hbefore⟩ := List.cons_eq_cons.1 hlines
          have hopen := hinner before line after hbefore
          by_cases hlength : before.length < inner.length
          · have hinside : IsInside number (item :: items) (first :: before) :=
              ⟨item, List.mem_cons_self, [], first, before, rfl, hitem, hopen.2 hlength⟩
            refine iff_of_false ?_ (fun hline => hline.2 hinside)
            rintro ⟨later, hlater, hnumber⟩
            rw [List.length_cons] at hnumber
            rcases List.mem_cons.1 hlater with rfl | hlater
            · omega
            · have hlater := hle later hlater
              omega
          · obtain ⟨later, rfl, hlater⟩ : ∃ later, before = inner ++ later ∧
                rest = later ++ line :: after := by
              rcases List.append_eq_append_iff.1 hbefore with h | ⟨mid, rfl, hmid⟩
              · exact h
              · cases mid with
                | nil => exact ⟨[], by simp, by simpa using hmid.symm⟩
                | cons _ mid => simp at hlength
            rw [isInside_after_stretch hitem hle (mt hopen.1 hlength), ← ih hlater,
              List.length_cons, List.length_append, List.exists_mem_cons_iff, hitem]
            have hnumber : number ≠ number + (inner.length + later.length + 1) := by omega
            have hcount : number + (inner.length + later.length + 1) =
                number + inner.length + 1 + later.length := by omega
            rw [or_iff_right hnumber, hcount]

end Covers

/-- The scan of a text accounts for its lines. -/
theorem scan_accounts_for_lines (source : String) :
    ((scan source).Pairwise fun item later => (locationOf item).line < (locationOf later).line) ∧
    (∀ item ∈ scan source,
      1 ≤ (locationOf item).line ∧
      (locationOf item).line ≤ (Text.lines source.toList).length ∧
      (Text.lines source.toList)[(locationOf item).line - 1]? =
        some (locationOf item).text.toList) ∧
    (∀ before line after, Text.lines source.toList = before ++ line :: after →
      (Text.trim line ≠ [] → ¬IsComment line → ¬IsInside 1 (scan source) before →
        ∃! item, item ∈ scan source ∧ (locationOf item).line = before.length + 1) ∧
      (Text.trim line = [] ∨ IsComment line ∨ IsInside 1 (scan source) before →
        ∀ item ∈ scan source, (locationOf item).line ≠ before.length + 1)) ∧
    ∀ before problem after, scan source = before ++ .error problem :: after →
      problem.cause = .unclosedValue → after = [] := by
  have hcovers := covers_scanLines 1 (Text.lines source.toList)
  have hpairwise := hcovers.pairwise
  have hnodup : ((scan source).map fun item => (locationOf item).line).Nodup :=
    List.pairwise_map.2 (hpairwise.imp Nat.ne_of_lt)
  refine ⟨hpairwise, ?_, ?_, fun before problem after => hcovers.unclosed_last⟩
  · intro item hitem
    obtain ⟨before, line, after, hlines, hlocation⟩ := hcovers.exists_line item hitem
    rw [hlocation, hlines]
    refine ⟨Nat.le_add_right 1 _, ?_, ?_⟩
    · rw [List.length_append, List.length_cons]
      show 1 + before.length ≤ _
      omega
    · simp
  · intro before line after hlines
    have hitem := hcovers.exists_item_iff hlines
    rw [isSilent_iff, Nat.add_comm] at hitem
    constructor
    · intro hblank hcomment hinside
      obtain ⟨item, hmem, hnumber⟩ := hitem.2 ⟨not_or.2 ⟨hblank, hcomment⟩, hinside⟩
      refine ⟨item, ⟨hmem, hnumber⟩, ?_⟩
      rintro other ⟨hother, hnumber'⟩
      exact List.inj_on_of_nodup_map hnodup hother hmem (hnumber'.trans hnumber.symm)
    · intro hskip item hmem hnumber
      obtain ⟨hsilent, hinside⟩ := hitem.1 ⟨item, hmem, hnumber⟩
      rcases hskip with hblank | hcomment | hopen
      · exact hsilent (.inl hblank)
      · exact hsilent (.inr hcomment)
      · exact hinside hopen

example : (scan "# a\nb = 'c\n\n# d' e\nf\ng = 'h\n").map (fun item => (locationOf item).line) =
    [2, 5, 6] := by
  decide +kernel

end Phrasebook.Statement
