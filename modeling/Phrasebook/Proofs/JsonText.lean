import Phrasebook.CommandLine.Outcome
import Phrasebook.Json.Reader
import Phrasebook.Proofs.CountText
import Mathlib.Data.List.DropRight

/-! The text of a value in JSON, and what is read from it. A string reads as itself, whatever
characters are escaped in it (`Json.Reader.characters_flatMap_escapeChar`), and a natural number as
itself if it fits 64 bits (`Json.Number.Written.value?_ofNat`). The items of an array and the members
of an object stand on lines of their own, and both are read by a loop that skips the blanks
(`Json.Reader.IsLoop.read_lines`). A number has no end of its own, so a value is read where something
follows that cannot belong to it (`Json.Reader.Follows`). So a document is read as the value it was
written for (`Json.IsReadAs.parse?_document`). -/

namespace Phrasebook.Json

namespace Reader

/-! ### Strings -/

theorem hexDigit?_digitChar : ∀ n < 16, hexDigit? (Nat.digitChar n) = some n := by decide

theorem hex?_hexPair {n : Nat} (h : n < 0x20) :
    hex? '0' '0' (Nat.digitChar (n / 16)) (Nat.digitChar (n % 16)) = some n := by
  have hzero : hexDigit? '0' = some 0 := by decide
  have hhigh := hexDigit?_digitChar (n / 16) (by omega)
  have hlow := hexDigit?_digitChar (n % 16) (by omega)
  simp only [hex?, hzero, hhigh, hlow, Option.bind_eq_bind, Option.bind_some]
  congr 1
  omega

theorem characters_unicode {a b c d : Char} {n : Nat} (h : hex? a b c d = some n)
    (hlow : isLowSurrogate n = false) (hhigh : isHighSurrogate n = false) (rest : List Char) :
    characters none ('\\' :: 'u' :: a :: b :: c :: d :: rest) =
      (characters none rest).map (push (Char.ofNat n)) := by
  rw [characters, h]
  cases characters none rest <;> simp [hlow, hhigh, unpaired]

theorem characters_escaped {c d : Char} (hc : c ≠ 'u') (h : escaped? c = some d)
    (rest : List Char) :
    characters none ('\\' :: c :: rest) = (characters none rest).map (push d) := by
  rw [characters, h]
  · cases characters none rest <;> rfl
  · simp [hc]

theorem characters_plain {c : Char} (hquote : c ≠ '"') (hbackslash : c ≠ '\\')
    (h : ¬c.toNat < 0x20) (rest : List Char) :
    characters none (c :: rest) = (characters none rest).map (push c) := by
  rw [characters, if_neg h]
  · cases characters none rest <;> rfl
  · simp [hquote]
  · simp [hbackslash]
  · simp [hbackslash]

theorem characters_escapeChar (c : Char) (rest : List Char) :
    characters none (escapeChar c ++ rest) = (characters none rest).map (push c) := by
  rw [escapeChar.eq_def]
  split
  case h_8 hquote hbackslash _ _ _ _ _ =>
    split
    next hcontrol =>
      have hread := characters_unicode (hex?_hexPair hcontrol)
        (by simp [isLowSurrogate]; omega) (by simp [isHighSurrogate]; omega) rest
      rwa [Char.ofNat_toNat] at hread
    next hcontrol => exact characters_plain hquote hbackslash hcontrol rest
  all_goals exact characters_escaped (by decide) rfl rest

theorem characters_flatMap_escapeChar (s rest : List Char) :
    characters none (s.flatMap escapeChar ++ '"' :: rest) = some (some s, rest) := by
  induction s with
  | nil => rfl
  | cons c s ih =>
      rw [List.flatMap_cons, List.append_assoc, characters_escapeChar, ih]
      rfl

theorem toList_stringText (s : String) :
    (stringText s).toList = '"' :: (s.toList.flatMap escapeChar ++ ['"']) := by
  simp [stringText]

theorem string_stringText (s : String) (rest : List Char) :
    string (s.toList.flatMap escapeChar ++ '"' :: rest) = some (some s, rest) := by
  rw [string, characters_flatMap_escapeChar]
  simp

/-! ### Blanks -/

theorem skip_append {blanks : List Char} (h : ∀ c ∈ blanks, isBlank c = true) (s : List Char) :
    skip (blanks ++ s) = skip s :=
  List.dropWhile_append_of_pos h

theorem skip_cons {c : Char} (h : isBlank c = false) (s : List Char) : skip (c :: s) = c :: s :=
  List.dropWhile_cons_of_neg (by simp [h])

theorem skip_skip (s : List Char) : skip (skip s) = skip s :=
  List.dropWhile_idempotent isBlank s

theorem isBlank_newLine (depth : Nat) : ∀ c ∈ (newLine depth).toList, isBlank c = true := by
  intro c hc
  have hmem : c = '\n' ∨ c ∈ List.replicate (2 * depth) ' ' := by simpa [newLine] using hc
  rcases hmem with rfl | hmem
  · rfl
  · rw [List.eq_of_mem_replicate hmem]
    rfl

theorem value_skip (fuel : Nat) (s : List Char) : value fuel (skip s) = value fuel s := by
  cases fuel with
  | zero => rfl
  | succ fuel => rw [value, skip_skip, value]

theorem items_skip (fuel : Nat) (s : List Char) : items fuel (skip s) = items fuel s := by
  cases fuel with
  | zero => rfl
  | succ fuel => rw [items, value_skip, items]

theorem key_skip (s : List Char) : key (skip s) = key s := by
  rw [key, skip_skip, key]

theorem members_skip (fuel : Nat) (s : List Char) : members fuel (skip s) = members fuel s := by
  cases fuel with
  | zero => rfl
  | succ fuel => rw [members, key_skip, members]

/-! ### What follows a value -/

/-- A blank, a comma, a closing bracket or nothing follows. -/
def Follows (rest : List Char) : Prop :=
  ∀ c ∈ rest.head?, isBlank c = true ∨ c = ',' ∨ c = ']' ∨ c = '\x7d'

theorem Follows.comma (rest : List Char) : Follows (',' :: rest) := by
  rintro c ⟨⟩
  exact .inr (.inl rfl)

theorem Follows.append {blanks rest : List Char} (hblanks : ∀ c ∈ blanks, isBlank c = true)
    (h : Follows rest) : Follows (blanks ++ rest) := by
  cases blanks with
  | nil => exact h
  | cons b blanks =>
      rintro c ⟨⟩
      exact .inl (hblanks b List.mem_cons_self)

/-- No number goes on with what follows. -/
theorem Follows.ne {rest : List Char} (h : Follows rest) {c : Char} (hc : c ∈ rest.head?) :
    c.isDigit = false ∧ c ≠ '.' ∧ c ≠ 'e' ∧ c ≠ 'E' := by
  have hblank : isBlank c = true → c = ' ' ∨ c = '\n' ∨ c = '\t' ∨ c = '\r' := by
    simp [isBlank, or_assoc]
  rcases (h c hc).imp_left hblank with (rfl | rfl | rfl | rfl) | rfl | rfl | rfl <;> decide

/-! ### Numbers -/

theorem digits?_append {digits rest : List Char} (hne : digits ≠ [])
    (hdigits : ∀ c ∈ digits, c.isDigit = true) (h : Follows rest) :
    digits? (digits ++ rest) = some (digits, rest) := by
  obtain ⟨htake, hdrop⟩ := Text.span_append hdigits fun c hc => (h.ne hc).1
  have hempty : digits.isEmpty = false := List.isEmpty_eq_false_iff.2 hne
  rw [digits?, htake, hdrop, hempty]
  rfl

/-- Only zero begins with the digit zero. -/
theorem whole?_toDigits (n : Nat) {rest : List Char} (h : Follows rest) :
    whole? (Nat.toDigits 10 n ++ rest) = some (Nat.toDigits 10 n, rest) := by
  have hdigits : ∀ c ∈ Nat.toDigits 10 n, c.isDigit = true :=
    fun c hc => Nat.isDigit_of_mem_toDigits (by omega) (by omega) hc
  rw [whole?, digits?_append Nat.toDigits_ne_nil hdigits h]
  split
  next next digits _ heq =>
    obtain ⟨htext, -⟩ := Prod.mk.inj (Option.some.inj heq)
    rcases Nat.eq_zero_or_pos n with rfl | hpos
    · cases htext
    · have hhead := Integer.head?_toDigits_ne hpos
      rw [htext] at hhead
      exact absurd rfl hhead
  next => rfl

theorem fraction?_of_follows {rest : List Char} (h : Follows rest) :
    fraction? rest = some (none, rest) := by
  cases rest with
  | nil => rfl
  | cons c rest =>
      obtain ⟨-, hpoint, -⟩ := h.ne rfl
      rw [fraction?]
      exact fun s heq => hpoint (List.cons.inj heq).1

theorem exponent?_of_follows {rest : List Char} (h : Follows rest) :
    exponent? rest = some (none, rest) := by
  cases rest with
  | nil => rfl
  | cons c rest =>
      obtain ⟨-, -, hlower, hupper⟩ := h.ne rfl
      rw [exponent?.eq_def]
      exact if_neg (not_or.2 ⟨hlower, hupper⟩)

end Reader

namespace Number

/-- As long as the value of the digits fits 64 bits, none is left. -/
theorem appendDigits_eq {digits : List Char} {n : Nat}
    (h : Nat.ofDigitChars 10 digits n < 2 ^ (64 : Nat)) :
    appendDigits n digits = (Nat.ofDigitChars 10 digits n, []) := by
  induction digits generalizing n with
  | nil => rfl
  | cons c digits ih =>
      rw [Nat.ofDigitChars_cons] at h ⊢
      -- More digits never make a number less.
      have hnext : 10 * n + (c.toNat - '0'.toNat) < 2 ^ (64 : Nat) := by
        rw [Nat.ofDigitChars_eq_ofDigitChars_zero] at h
        have hpow : 0 < 10 ^ digits.length := Nat.pow_pos (by omega)
        have hle := Nat.le_mul_of_pos_left (10 * n + (c.toNat - '0'.toNat)) hpow
        omega
      rw [appendDigits]
      simp only [if_pos hnext]
      exact ih h

/-- A natural number in its digits. -/
def Written.ofNat (n : Nat) : Written :=
  ⟨false, Nat.toDigits 10 n, none, none⟩

theorem Written.value?_ofNat {n : Nat} (h : n < 2 ^ (64 : Nat)) :
    (ofNat n).value? = some (.natural n) := by
  have hdigits : appendDigits 0 (Nat.toDigits 10 n) = (n, []) := by
    rw [appendDigits_eq (by rwa [Nat.ofDigitChars_ten_toDigits]), Nat.ofDigitChars_ten_toDigits]
  rw [value?, ofNat, hdigits]
  rfl

end Number

/-- A number, and the given one if that fits 64 bits. -/
def Raw.IsNatural (n : Nat) (raw : Raw) : Prop :=
  ∃ number, raw = .number number ∧ (n < 2 ^ (64 : Nat) → number = some (.natural n))

theorem Raw.IsNatural.eq {n : Nat} {raw : Raw} (h : raw.IsNatural n) (hn : n < 2 ^ (64 : Nat)) :
    raw = .number (some (.natural n)) := by
  obtain ⟨number, rfl, hnumber⟩ := h
  rw [hnumber hn]

theorem Number.Written.isNatural_ofNat (n : Nat) : Raw.IsNatural n (.number (ofNat n).value?) :=
  ⟨_, rfl, value?_ofNat⟩

namespace Reader

theorem unsigned?_toDigits (n : Nat) {rest : List Char} (h : Follows rest) :
    unsigned? false (Nat.toDigits 10 n ++ rest) = some (Number.Written.ofNat n, rest) := by
  simp only [unsigned?, whole?_toDigits n h, fraction?_of_follows h, exponent?_of_follows h,
    Option.bind_eq_bind, Option.bind_some]
  rfl

theorem isBlank_eq_false_of_isDigit {c : Char} (hc : c.isDigit = true) : isBlank c = false := by
  simp [isBlank, Text.ne_of_isDigit hc]

/-- What begins with a digit is a number without a sign. -/
theorem value_cons_of_isDigit {c : Char} (hc : c.isDigit = true) (fuel : Nat) (s : List Char) :
    value (fuel + 1) (c :: s) =
      (unsigned? false (c :: s)).map fun (w, rest) => (.number w.value?, rest) := by
  rw [value, skip_cons (isBlank_eq_false_of_isDigit hc)]
  simp [scalar, number, Text.ne_of_isDigit hc]

/-! ### Values -/

/-- A text is read as a value where that value ends, with fuel of twice its length. It begins neither
with a blank nor like the end of an array. -/
structure Reads (text : List Char) (raw : Raw) : Prop where
  head : ∃ c s, text = c :: s ∧ isBlank c = false ∧ c ≠ ']'
  value : ∀ (fuel : Nat) (rest : List Char), Follows rest → 2 * text.length ≤ fuel + 1 →
    value (fuel + 1) (text ++ rest) = some (raw, rest)

theorem Reads.null : Reads "null".toList .null where
  head := ⟨'n', ['u', 'l', 'l'], rfl, rfl, by decide⟩
  value _ _ _ _ := rfl

theorem Reads.natural (n : Nat) :
    Reads (Nat.toDigits 10 n) (.number (Number.Written.ofNat n).value?) := by
  obtain ⟨c, s, htext⟩ := List.exists_cons_of_ne_nil (Nat.toDigits_ne_nil (n := n) (b := 10))
  have hc : c.isDigit = true :=
    Nat.isDigit_of_mem_toDigits (by omega) (by omega) (htext ▸ List.mem_cons_self)
  refine ⟨⟨c, s, htext, isBlank_eq_false_of_isDigit hc, Text.ne_of_isDigit hc rfl⟩,
    fun fuel rest hrest _ => ?_⟩
  have hread := unsigned?_toDigits n hrest
  rw [htext, List.cons_append] at hread ⊢
  rw [value_cons_of_isDigit hc, hread]
  rfl

theorem Reads.string (s : String) : Reads (stringText s).toList (.string (some s)) where
  head := ⟨'"', _, toList_stringText s, rfl, by decide⟩
  value _ _ _ _ := by
    rw [toList_stringText, List.cons_append, List.append_assoc, List.singleton_append, Reader.value,
      skip_cons (by rfl)]
    simp [string_stringText]

theorem value_openArray {fuel : Nat} {s : List Char} (h : ∀ rest, skip s ≠ ']' :: rest) :
    value (fuel + 1) ('[' :: s) =
      (items fuel s).map fun (items, rest) => (.array items, rest) := by
  rw [value, skip_cons (by rfl)]
  simp only
  rw [items_skip]

theorem value_openObject {fuel : Nat} {s : List Char} {c : Char} {rest : List Char}
    (h : skip s = c :: rest) (hc : c ≠ '\x7d') :
    value (fuel + 1) ('\x7b' :: s) =
      (members fuel s).map fun (members, rest) => (.object members, rest) := by
  rw [value, skip_cons (by rfl)]
  simp only [Char.reduceEq, imp_self, reduceIte, h, hc]
  rw [← h, members_skip]

/-! ### Lines -/

/-- Parts on lines of their own, with commas between them. -/
def lines (indent : List Char) (parts : List (List Char)) : List Char :=
  [','].intercalate (parts.map (indent ++ ·))

theorem lines_singleton (indent part : List Char) : lines indent [part] = indent ++ part := by
  simp [lines]

theorem lines_cons_cons (indent part next : List Char) (parts : List (List Char)) :
    lines indent (part :: next :: parts) =
      indent ++ part ++ ',' :: lines indent (next :: parts) := by
  simp [lines]

theorem skip_lines {indent : List Char} (hindent : ∀ c ∈ indent, isBlank c = true) {c : Char}
    (hc : isBlank c = false) (part : List Char) (parts : List (List Char)) (rest : List Char) :
    ∃ s, skip (lines indent ((c :: part) :: parts) ++ rest) = c :: s := by
  cases parts with
  | nil =>
      rw [lines_singleton, List.append_assoc, skip_append hindent, List.cons_append, skip_cons hc]
      exact ⟨_, rfl⟩
  | cons next parts =>
      rw [lines_cons_cons, List.append_assoc, List.append_assoc, skip_append hindent,
        List.cons_append, skip_cons hc]
      exact ⟨_, rfl⟩

/-- Reads parts with commas between them, and the closing bracket. -/
structure IsLoop {α : Type} (part : Nat → List Char → Option (α × List Char))
    (loop : Nat → List Char → Option (List α × List Char)) (closing : Char) : Prop where
  last : ∀ {fuel : Nat} {s after rest : List Char} {a : α}, part fuel s = some (a, after) →
    skip after = closing :: rest → loop (fuel + 1) s = some ([a], rest)
  next : ∀ {fuel : Nat} {s after rest : List Char} {a : α}, part fuel s = some (a, after) →
    skip after = ',' :: rest →
    loop (fuel + 1) s = (loop fuel rest).map fun (as, rest) => (a :: as, rest)

/-- A part is read from its text and the blanks before it. -/
def ReadsPart {α : Type} (part : Nat → List Char → Option (α × List Char)) (indent text : List Char)
    (a : α) : Prop :=
  ∀ (fuel : Nat) (rest : List Char), Follows rest → 2 * text.length ≤ fuel →
    part fuel (indent ++ (text ++ rest)) = some (a, rest)

/-- Parts are read from lines of their own. -/
theorem IsLoop.read_lines {α : Type} {part : Nat → List Char → Option (α × List Char)}
    {loop : Nat → List Char → Option (List α × List Char)} {closing : Char}
    (hloop : IsLoop part loop closing) (hclosing : closing = ']' ∨ closing = '\x7d')
    {indent close : List Char} (hclose : ∀ c ∈ close, isBlank c = true)
    {first : List Char × α} {more : List (List Char × α)}
    (h : ∀ p ∈ first :: more, ReadsPart part indent p.1 p.2) (fuel : Nat) (rest : List Char)
    (hfuel : 2 * (lines indent ((first :: more).map Prod.fst)).length + 2 ≤ fuel) :
    loop fuel (lines indent ((first :: more).map Prod.fst) ++ (close ++ closing :: rest)) =
      some ((first :: more).map Prod.snd, rest) := by
  have hclosingBlank : isBlank closing = false := by rcases hclosing with rfl | rfl <;> rfl
  have hrest : Follows (close ++ closing :: rest) := by
    apply Follows.append hclose
    rintro c ⟨⟩
    exact .inr (.inr hclosing)
  obtain ⟨fuel, rfl⟩ : ∃ n, fuel = n + 1 := Nat.exists_eq_add_one.2 (by omega)
  -- A turn takes one unit of fuel, and the comma after its part accounts for two.
  induction more generalizing first fuel with
  | nil =>
      have hfirst := h first List.mem_cons_self
      simp only [List.map_cons, List.map_nil, lines_singleton, List.length_append] at hfuel ⊢
      rw [List.append_assoc]
      apply hloop.last (hfirst fuel (close ++ closing :: rest) hrest (by omega))
      rw [skip_append hclose, skip_cons hclosingBlank]
  | cons next more ih =>
      obtain ⟨hfirst, hmore⟩ := List.forall_mem_cons.1 h
      rw [List.map_cons, List.map_cons, lines_cons_cons, ← List.map_cons] at hfuel ⊢
      simp only [List.length_append, List.length_cons] at hfuel
      have hpart := hfirst fuel (',' :: (lines indent ((next :: more).map Prod.fst) ++
        (close ++ closing :: rest))) (.comma _) (by omega)
      obtain ⟨fuel, rfl⟩ : ∃ n, fuel = n + 1 := Nat.exists_eq_add_one.2 (by omega)
      rw [List.append_assoc, List.append_assoc, List.cons_append,
        hloop.next hpart (skip_cons (by rfl) _), ih hmore fuel (by omega)]
      rfl

variable {indent close : List Char}

/-! ### Arrays -/

theorem isLoop_items : IsLoop value items ']' where
  last hvalue hafter := by
    rw [items, hvalue]
    simp only [hafter]
  next hvalue hafter := by
    rw [items, hvalue]
    simp only [hafter]

theorem Reads.readsPart {text : List Char} {raw : Raw} (h : Reads text raw)
    (hindent : ∀ c ∈ indent, isBlank c = true) : ReadsPart Reader.value indent text raw := by
  intro fuel rest hrest hfuel
  obtain ⟨c, s, htext, -, -⟩ := h.head
  have hlength : text.length = s.length + 1 := by rw [htext, List.length_cons]
  obtain ⟨fuel, rfl⟩ : ∃ n, fuel = n + 1 := Nat.exists_eq_add_one.2 (by omega)
  rw [← value_skip, skip_append hindent, value_skip, h.value fuel rest hrest hfuel]

theorem Reads.emptyArray : Reads ['[', ']'] (.array []) where
  head := ⟨'[', [']'], rfl, rfl, by decide⟩
  value _ _ _ _ := rfl

theorem Reads.array (hindent : ∀ c ∈ indent, isBlank c = true)
    (hclose : ∀ c ∈ close, isBlank c = true) {first : List Char × Raw}
    {more : List (List Char × Raw)} (h : ∀ item ∈ first :: more, Reads item.1 item.2) :
    Reads ('[' :: (lines indent ((first :: more).map Prod.fst) ++ (close ++ [']'])))
      (.array ((first :: more).map Prod.snd)) where
  head := ⟨'[', _, rfl, rfl, by decide⟩
  value fuel rest _ hfuel := by
    simp only [List.length_cons, List.length_append] at hfuel
    have hopen : ∀ after, skip (lines indent ((first :: more).map Prod.fst) ++
        (close ++ ']' :: rest)) ≠ ']' :: after := by
      intro after heq
      obtain ⟨c, s, htext, hblank, hbracket⟩ := (h first List.mem_cons_self).head
      obtain ⟨s', hskip⟩ := skip_lines hindent hblank s (more.map Prod.fst) (close ++ ']' :: rest)
      rw [List.map_cons, htext, hskip] at heq
      exact hbracket (List.cons.inj heq).1
    have hparts : ∀ item ∈ first :: more, ReadsPart Reader.value indent item.1 item.2 :=
      fun item hitem => (h item hitem).readsPart hindent
    have hitems := isLoop_items.read_lines (.inl rfl) hclose hparts fuel rest (by omega)
    rw [List.cons_append, List.append_assoc, List.append_assoc, List.singleton_append,
      value_openArray hopen, hitems]
    rfl

/-! ### Objects -/

/-- Reads a key and its value. -/
def member (fuel : Nat) (s : List Char) : Option ((Option String × Raw) × List Char) := do
  let (key, s) ← key s
  let (value, s) ← value fuel s
  some ((key, value), s)

theorem isLoop_members : IsLoop member members '\x7d' where
  last hmember hafter := by
    obtain ⟨⟨key, s⟩, hkey, hmember⟩ := Option.bind_eq_some_iff.1 hmember
    obtain ⟨⟨value, after⟩, hvalue, heq⟩ := Option.bind_eq_some_iff.1 hmember
    cases heq
    rw [members, hkey]
    simp only [hvalue, hafter]
    rfl
  next hmember hafter := by
    obtain ⟨⟨key, s⟩, hkey, hmember⟩ := Option.bind_eq_some_iff.1 hmember
    obtain ⟨⟨value, after⟩, hvalue, heq⟩ := Option.bind_eq_some_iff.1 hmember
    cases heq
    rw [members, hkey]
    simp only [hvalue, hafter]

/-- A key and the text of its value, as they are written. -/
def memberText (name : String) (text : List Char) : List Char :=
  '"' :: (name.toList.flatMap escapeChar ++ '"' :: ':' :: ' ' :: text)

theorem key_memberText (hindent : ∀ c ∈ indent, isBlank c = true) (name : String)
    (text rest : List Char) :
    key (indent ++ (memberText name text ++ rest)) = some (some name, [' '] ++ (text ++ rest)) := by
  rw [← key_skip, skip_append hindent, key_skip, key, memberText, List.cons_append,
    skip_cons (by rfl)]
  simp only [List.append_assoc, List.cons_append, string_stringText]
  rw [skip_cons (by rfl)]
  rfl

theorem Reads.readsMember {text : List Char} {raw : Raw} (h : Reads text raw)
    (hindent : ∀ c ∈ indent, isBlank c = true) (name : String) :
    ReadsPart member indent (memberText name text) (some name, raw) := by
  intro fuel rest hrest hfuel
  have hblank : ∀ c ∈ [' '], isBlank c = true := List.forall_mem_singleton.2 rfl
  simp only [memberText, List.length_cons, List.length_append] at hfuel
  have hvalue := h.readsPart hblank fuel rest hrest (by omega)
  rw [member, key_memberText hindent]
  simp only [Option.bind_eq_bind, Option.bind_some, hvalue]

theorem Reads.emptyObject : Reads ['\x7b', '\x7d'] (.object []) where
  head := ⟨'\x7b', ['\x7d'], rfl, rfl, by decide⟩
  value _ _ _ _ := rfl

theorem Reads.object (hindent : ∀ c ∈ indent, isBlank c = true)
    (hclose : ∀ c ∈ close, isBlank c = true) {first : String × List Char × Raw}
    {more : List (String × List Char × Raw)} (h : ∀ m ∈ first :: more, Reads m.2.1 m.2.2) :
    Reads ('\x7b' :: (lines indent ((first :: more).map fun m => memberText m.1 m.2.1) ++
        (close ++ ['\x7d'])))
      (.object ((first :: more).map fun m => (some m.1, m.2.2))) where
  head := ⟨'\x7b', _, rfl, rfl, by decide⟩
  value fuel rest _ hfuel := by
    simp only [List.length_cons, List.length_append] at hfuel
    obtain ⟨s, hskip⟩ : ∃ s, skip (lines indent ((first :: more).map fun m =>
        memberText m.1 m.2.1) ++ (close ++ '\x7d' :: rest)) = '"' :: s :=
      skip_lines hindent rfl _ _ _
    let part (m : String × List Char × Raw) : List Char × (Option String × Raw) :=
      (memberText m.1 m.2.1, (some m.1, m.2.2))
    have hparts : ∀ p ∈ part first :: more.map part, ReadsPart member indent p.1 p.2 := by
      rw [← List.map_cons]
      exact List.forall_mem_map.2 fun m hm => (h m hm).readsMember hindent m.1
    have hmembers := isLoop_members.read_lines (.inr rfl) hclose hparts fuel rest
    rw [← List.map_cons, List.map_map, List.map_map] at hmembers
    rw [List.cons_append, List.append_assoc, List.append_assoc, List.singleton_append,
      value_openObject hskip (by decide)]
    simp only [Function.comp_def, part] at hmembers
    rw [hmembers (by omega)]
    rfl

end Reader

/-! ### Values in JSON -/

theorem prettyItems_eq (depth : Nat) (items : List Json) :
    prettyItems depth items = items.map (pretty depth) := by
  induction items with
  | nil => rfl
  | cons item items ih => rw [prettyItems, ih, List.map_cons]

theorem prettyMembers_eq (depth : Nat) (members : List (String × Json)) :
    prettyMembers depth members =
      members.map fun member => stringText member.1 ++ ": " ++ member.2.pretty depth := by
  induction members with
  | nil => rfl
  | cons member members ih => rw [prettyMembers, ih, List.map_cons]

theorem toList_block (opening closing : String) (depth : Nat) (part : String)
    (parts : List String) :
    (block opening closing depth (part :: parts)).toList =
      opening.toList ++ (Reader.lines (newLine (depth + 1)).toList
        ((part :: parts).map String.toList) ++ ((newLine depth).toList ++ closing.toList)) := by
  have hcomma : ",".toList = [','] := rfl
  have hparts : ((part :: parts).map (newLine (depth + 1) ++ ·)).map String.toList =
      ((part :: parts).map String.toList).map ((newLine (depth + 1)).toList ++ ·) := by
    simp only [List.map_map, Function.comp_def, String.toList_append]
  rw [block, List.isEmpty_cons, if_neg Bool.false_ne_true, Reader.lines, ← hparts, ← hcomma,
    ← String.toList_intercalate]
  simp only [String.toList_append, List.append_assoc]

/-- However deep it stands, the text of the value is read as this. -/
def IsReadAs (json : Json) (raw : Raw) : Prop :=
  ∀ depth, Reader.Reads (json.pretty depth).toList raw

namespace IsReadAs

theorem null : Json.null.IsReadAs .null := fun _ => Reader.Reads.null

theorem natural (n : Nat) :
    (Json.integer n).IsReadAs (.number (Number.Written.ofNat n).value?) := by
  intro depth
  have htext : ((Json.integer n).pretty depth).toList = Nat.toDigits 10 n := by
    rw [pretty, Int.repr_eq_if, if_pos (Int.natCast_nonneg n), Int.toNat_natCast, Nat.toList_repr]
  rw [htext]
  exact .natural n

theorem string (s : String) : (Json.string s).IsReadAs (.string (some s)) :=
  fun _ => Reader.Reads.string s

variable {α : Type} {write : α → Json} {raw : α → Raw}

theorem array {l : List α} (h : ∀ a ∈ l, (write a).IsReadAs (raw a)) :
    (Json.array (l.map write)).IsReadAs (.array (l.map raw)) := by
  intro depth
  cases l with
  | nil =>
      have htext : ((Json.array []).pretty depth).toList = ['[', ']'] := by
        simp [pretty, prettyItems, block]
      rw [List.map_nil, List.map_nil, htext]
      exact .emptyArray
  | cons a l =>
      let part (a : α) : List Char × Raw := (((write a).pretty (depth + 1)).toList, raw a)
      have hparts : ∀ p ∈ part a :: l.map part, Reader.Reads p.1 p.2 := by
        rw [← List.map_cons]
        exact List.forall_mem_map.2 fun a ha => h a ha (depth + 1)
      have hread := Reader.Reads.array (Reader.isBlank_newLine (depth + 1))
        (Reader.isBlank_newLine depth) hparts
      rw [pretty, prettyItems_eq, List.map_cons, List.map_cons, toList_block]
      simpa [part, Function.comp_def] using hread

theorem object {l : List α} {name : α → String} (h : ∀ a ∈ l, (write a).IsReadAs (raw a)) :
    (Json.object (l.map fun a => (name a, write a))).IsReadAs
      (.object (l.map fun a => (some (name a), raw a))) := by
  intro depth
  cases l with
  | nil =>
      have htext : ((Json.object []).pretty depth).toList = ['\x7b', '\x7d'] := by
        simp [pretty, prettyMembers, block]
      rw [List.map_nil, List.map_nil, htext]
      exact .emptyObject
  | cons a l =>
      let member (a : α) : String × List Char × Raw :=
        (name a, ((write a).pretty (depth + 1)).toList, raw a)
      have hmembers : ∀ m ∈ member a :: l.map member, Reader.Reads m.2.1 m.2.2 := by
        rw [← List.map_cons]
        exact List.forall_mem_map.2 fun a ha => h a ha (depth + 1)
      have hread := Reader.Reads.object (Reader.isBlank_newLine (depth + 1))
        (Reader.isBlank_newLine depth) hmembers
      rw [pretty, prettyMembers_eq, List.map_cons, List.map_cons, toList_block]
      simpa [member, Reader.memberText, Reader.toList_stringText, Function.comp_def] using hread

theorem record (members : List (String × Json × Raw))
    (h : ∀ member ∈ members, member.2.1.IsReadAs member.2.2) :
    (Json.object (members.map fun member => (member.1, member.2.1))).IsReadAs
      (.object (members.map fun member => (some member.1, member.2.2))) :=
  object h

/-- A document holds one value, with the end of its last line after it. -/
theorem parse?_document {json : Json} {raw : Raw} (h : json.IsReadAs raw) :
    Raw.parse? (CommandLine.document json) = some raw := by
  have htext : (CommandLine.document json).toList = (json.pretty 0).toList ++ ['\n'] := by
    simp [CommandLine.document]
  have hfuel : 2 * (json.pretty 0).toList.length ≤
      2 * ((json.pretty 0).toList ++ ['\n']).length + 1 := by
    rw [List.length_append]
    omega
  have hend : Reader.Follows ['\n'] := by
    rintro c ⟨⟩
    exact .inl rfl
  rw [Raw.parse?]
  simp only [htext]
  rw [(h 0).value _ _ hend hfuel]
  rfl

end IsReadAs

end Phrasebook.Json
