import Phrasebook.CommandLine.Translation
import Phrasebook.Proofs.CountLanguage
import Phrasebook.Proofs.DictionaryEntries
import Phrasebook.Proofs.TemplateOutcomes

/-! What is read in a message in the place of a parameter. A value of the command line that reads as
an integer is shown in decimal digits, and any other one as it was given; so a value is changed
exactly if it is an integer with a plus sign, a needless zero or a sign before zero
(`TranslateOptions.shown_as_given_iff`). An integer of the library is shown in its own digits,
unless it does not fit 64 bits with a sign: it loses 2^64 then (`Value.ofInt_shows_iff`). -/

namespace Phrasebook

namespace Integer

/-- Digits after a minus sign or after none. The first is no zero, unless zero is all there is. -/
def IsCanonical (s : List Char) : Prop :=
  s = ['0'] ∨
    ∃ digits, IsNumeral digits ∧ digits.head? ≠ some '0' ∧ (s = digits ∨ s = '-' :: digits)

theorem exists_digitChar {c : Char} (h : c.isDigit = true) :
    ∃ d < 10, c = Nat.digitChar d ∧ c.toNat - '0'.toNat = d := by
  have hrange := Text.isDigit_iff.1 h
  have hdigits : ∀ d < 10, Char.ofNat (0x30 + d) = Nat.digitChar d := by decide
  have hsum : 0x30 + (c.toNat - 0x30) = c.toNat := by omega
  refine ⟨c.toNat - 0x30, by omega, ?_, rfl⟩
  rw [← hdigits (c.toNat - 0x30) (by omega), hsum, Char.ofNat_toNat]

/-- Digits without a zero before them are those of their value. -/
theorem toDigits_ofDigitChars {digits : List Char} (h : IsNumeral digits)
    (hzero : digits.head? ≠ some '0') :
    Nat.toDigits 10 (Nat.ofDigitChars 10 digits 0) = digits := by
  obtain ⟨hne, hdigits⟩ := h
  induction digits using List.reverseRecOn with
  | nil => exact absurd rfl hne
  | append_singleton digits c ih =>
      obtain ⟨d, hd, hc, hvalue⟩ := exists_digitChar (hdigits c (by simp))
      have hlast : Nat.toDigits 10 d = [c] := by rw [Nat.toDigits_of_lt_base hd, hc]
      rw [Nat.ofDigitChars_append, Nat.ofDigitChars_cons, Nat.ofDigitChars_nil, hvalue]
      -- Digits before the last one have a value above zero, so they are not dropped.
      by_cases hnil : digits = []
      · subst hnil
        rwa [Nat.ofDigitChars_nil, Nat.mul_zero, Nat.zero_add]
      · have hhead : digits.head? ≠ some '0' := by rwa [List.head?_append_of_ne_nil _ hnil] at hzero
        have hbefore := ih hhead hnil fun c hc => hdigits c (List.mem_append_left _ hc)
        have hpos : 0 < Nat.ofDigitChars 10 digits 0 := by
          refine Nat.pos_of_ne_zero fun hvalue => hhead ?_
          rw [← hbefore, hvalue]
          rfl
        calc
          Nat.toDigits 10 (10 * Nat.ofDigitChars 10 digits 0 + d) =
              Nat.toDigits 10 (Nat.ofDigitChars 10 digits 0) ++ Nat.toDigits 10 d :=
            (Nat.toDigits_append_toDigits (by omega) hpos hd).symm
          _ = digits ++ [c] := by rw [hbefore, hlast]

theorem isNumeral_toDigits (n : Nat) : IsNumeral (Nat.toDigits 10 n) :=
  ⟨Nat.toDigits_ne_nil, fun _ hc => Nat.isDigit_of_mem_toDigits (by omega) (by omega) hc⟩

theorem isCanonical_text (n : Int64) : IsCanonical (text n).toList := by
  rw [toList_text]
  by_cases hzero : n.toInt.natAbs = 0
  · have hsign : ¬n.toInt < 0 := by omega
    rw [if_neg hsign, hzero]
    exact .inl rfl
  · refine .inr ⟨_, isNumeral_toDigits _, head?_toDigits_ne (Nat.pos_of_ne_zero hzero), ?_⟩
    split
    · exact .inr rfl
    · exact .inl rfl

theorem toList_text_of_isCanonical {s : List Char} {n : Int64} (h : read? s = some n)
    (hs : IsCanonical s) : (text n).toList = s := by
  rw [toList_text]
  rcases hs with hs | ⟨digits, hdigits, hhead, hs | hs⟩ <;> rw [hs] at h ⊢
  · obtain rfl : n = 0 := Option.some.inj (h.symm.trans (by decide))
    rfl
  · have hread := (read?_signed false hdigits).symm.trans h
    have hvalue : (Nat.ofDigitChars 10 digits 0 : Int) = n.toInt := ofInt?_eq_some_iff.1 hread
    have hmagnitude : n.toInt.natAbs = Nat.ofDigitChars 10 digits 0 := by omega
    rw [if_neg (by omega), hmagnitude, toDigits_ofDigitChars hdigits hhead]
  · have hread := (read?_signed true hdigits).symm.trans h
    have hvalue : -(Nat.ofDigitChars 10 digits 0 : Int) = n.toInt := ofInt?_eq_some_iff.1 hread
    have hmagnitude : n.toInt.natAbs = Nat.ofDigitChars 10 digits 0 := by omega
    have hpos : Nat.ofDigitChars 10 digits 0 ≠ 0 := by
      intro hzero
      have hself := toDigits_ofDigitChars hdigits hhead
      rw [hzero] at hself
      exact hhead (hself ▸ rfl)
    rw [if_pos (by omega), hmagnitude, toDigits_ofDigitChars hdigits hhead]

/-- The text is that of an integer of 64 bits: digits after at most one sign. -/
structure Denotes (text : String) (n : Int) : Prop where
  spells : Spells text.toList n
  lower : -2 ^ (63 : Nat) ≤ n
  upper : n < 2 ^ (63 : Nat)

theorem denotes_iff {text : String} {n : Int} :
    Denotes text n ↔ ∃ k, read? text.toList = some k ∧ k.toInt = n := by
  constructor
  · intro h
    have hvalue : (Int64.ofInt n).toInt = n := Int64.toInt_ofInt_of_le h.lower h.upper
    exact ⟨Int64.ofInt n, read?_eq_some_iff.2 (hvalue.symm ▸ h.spells), hvalue⟩
  · rintro ⟨k, hread, rfl⟩
    exact ⟨read?_eq_some_iff.1 hread, k.le_toInt, k.toInt_lt⟩

end Integer

namespace Value

theorem text_ofText_of_denotes {given : String} {n : Int} (h : Integer.Denotes given n) :
    (ofText given).text = n.repr := by
  obtain ⟨k, hread, rfl⟩ := Integer.denotes_iff.1 h
  rw [ofText, hread]
  rfl

/-- What is shown for a value as it was given: itself, unless it is an integer that is not written
in the shortest way, and the decimal digits of an integer in any case. -/
structure IsShown (given shown : String) : Prop where
  verbatim : shown = given ↔ ∀ n, Integer.Denotes given n → Integer.IsCanonical given.toList
  integer : ∀ n, Integer.Denotes given n → shown = n.repr

theorem text_ofText_eq_iff (given : String) :
    (ofText given).text = given ↔
      ∀ n, Integer.Denotes given n → Integer.IsCanonical given.toList := by
  cases hread : Integer.read? given.toList with
  | none =>
      have hvalue : ofText given = .string given := by rw [ofText, hread]
      refine iff_of_true (congrArg text hvalue) fun n hn => ?_
      obtain ⟨k, hk, -⟩ := Integer.denotes_iff.1 hn
      rw [hread] at hk
      cases hk
  | some k =>
      have htext : (ofText given).text = Integer.text k := by
        rw [ofText, hread]
        rfl
      rw [htext]
      constructor
      · intro heq _ _
        rw [← heq]
        exact Integer.isCanonical_text k
      · intro h
        have hcanonical := h k.toInt (Integer.denotes_iff.2 ⟨k, hread, rfl⟩)
        exact String.toList_inj.1 (Integer.toList_text_of_isCanonical hread hcanonical)

theorem isShown_ofText (given : String) : IsShown given (ofText given).text where
  verbatim := text_ofText_eq_iff given
  integer _ := text_ofText_of_denotes

end Value

/-- A template whose names all have values is rendered with just these values. -/
theorem Engine.exists_composition {template : Template} {pieces : List Piece}
    (hreads : Piece.Reads template.source.toList pieces []) {parameters : Parameters}
    (hnames : ∀ name ∈ Piece.names pieces, parameters.contains name = true) :
    ∃ composition : Composition, composition.pieces = pieces ∧
      basic template parameters = .ok composition.segments ∧
      ∀ insertion ∈ composition.insertions,
        parameters.find? insertion.parameter = some insertion.value := by
  obtain ⟨composition, rfl, hvalues⟩ := Composition.exists_pieces hnames
  refine ⟨composition, rfl, ?_, hvalues⟩
  rw [basic_of_reads hreads, Composition.fill_pieces template.id hvalues, Except.map,
    Composition.segments_filled]

/-! ### Values of the command line -/

namespace CommandLine.TranslateOptions

/-- The value given for a parameter, the last one if there are several. -/
def given? (options : TranslateOptions) (name : String) : Option String :=
  (options.parameters.reverse.find? (·.1 == name)).map (·.2)

theorem find?_values (options : TranslateOptions) (name : String) :
    options.values.find? name = (options.given? name).map Value.ofText := by
  rw [values, Dictionary.find?_ofList, ← List.map_reverse, List.find?_map, given?, Option.map_map,
    Option.map_map]
  rfl

theorem contains_values {options : TranslateOptions} {name value : String}
    (h : (name, value) ∈ options.parameters) : options.values.contains name = true := by
  rw [Dictionary.contains, find?_values, Option.isSome_map, given?, Option.isSome_map,
    List.find?_isSome]
  exact ⟨(name, value), List.mem_reverse.2 h, beq_self_eq_true name⟩

/-- What is written for a message and its text. -/
def written (options : TranslateOptions) (message : Message) (text : String) : String :=
  if options.json then document (resultDocument message text) else text ++ "\n"

theorem answer_of_resolve {options : TranslateOptions} {store : Store} {message : Message}
    {composition : Composition} (hengines : store.engines = Engines.standard)
    (hresolve : store.resolve options.request = some message)
    (hengine : message.template.engineId = basicEngineId)
    (hrendered : Engine.basic message.template options.values = .ok composition.segments) :
    options.answer store = .success (options.written message composition.text) := by
  have hrender : store.render message options.values = .ok composition.segments := by
    rw [Store.render, hengines, Engines.render_standard hengine, hrendered]
  rw [answer, hresolve]
  simp only [hrender]
  rw [composition.join_segments]
  rfl

/-- Each parameter of a message is shown as its value was given, with one exception: an integer of
64 bits is shown in its decimal digits, so one with a plus sign, a needless zero or a sign before
zero is not shown as it was given. -/
theorem shown_as_given_iff (options : TranslateOptions) {template : Template} {pieces : List Piece}
    (hreads : Piece.Reads template.source.toList pieces [])
    (hgiven : ∀ name ∈ Piece.names pieces, ∃ value, (name, value) ∈ options.parameters) :
    ∃ composition : Composition, composition.pieces = pieces ∧
      Engine.basic template options.values = .ok composition.segments ∧
      (∀ insertion ∈ composition.insertions, ∃ given,
        options.given? insertion.parameter = some given ∧
        Value.IsShown given insertion.value.text) ∧
      ∀ (store : Store) (message : Message), store.engines = Engines.standard →
        store.resolve options.request = some message → message.template = template →
        template.engineId = basicEngineId →
        options.answer store = .success (options.written message composition.text) := by
  have hnames : ∀ name ∈ Piece.names pieces, options.values.contains name = true := by
    intro name hname
    obtain ⟨value, hvalue⟩ := hgiven name hname
    exact contains_values hvalue
  obtain ⟨composition, hpieces, hrendered, hvalues⟩ := Engine.exists_composition hreads hnames
  refine ⟨composition, hpieces, hrendered, ?_, ?_⟩
  · intro insertion hinsertion
    have hvalue := hvalues insertion hinsertion
    rw [find?_values] at hvalue
    obtain ⟨given, hfound, hvalue⟩ := Option.map_eq_some_iff.1 hvalue
    exact ⟨given, hfound, hvalue ▸ Value.isShown_ofText given⟩
  · rintro store message hengines hresolve rfl hengine
    exact answer_of_resolve hengines hresolve hengine hrendered

/-- Options that give parameters their values. -/
def ofParameters (parameters : List (String × String)) : TranslateOptions :=
  ⟨"m.txt", "k", [], [], none, none, [], parameters, false⟩

/-- The second value of a parameter counts; one value here is shown as it was given, one is not. -/
theorem shown_as_given_iff_signs :
    let options := ofParameters [("n", "x"), ("n", "-12"), ("m", "+5")]
    let template : Template := ⟨"k", "\x7bn\x7d/\x7bm\x7d", basicEngineId⟩
    let message : Message := ⟨"k", none, none, none, .empty, template⟩
    ∃ composition : Composition,
      composition.pieces = [.injection ['n'], .character '/', .injection ['m']] ∧
      Engine.basic template options.values = .ok composition.segments ∧
      (∀ insertion ∈ composition.insertions, ∃ given,
        options.given? insertion.parameter = some given ∧
        Value.IsShown given insertion.value.text) ∧
      options.answer (Store.empty.add message) = .success (composition.text ++ "\n") := by
  intro options template message
  have hreads : Piece.Reads template.source.toList
      [.injection ['n'], .character '/', .injection ['m']] [] :=
    Piece.read_eq_ok_iff.1 (by decide +kernel)
  have hgiven : ∀ name ∈ ["n", "m"], ∃ value, (name, value) ∈ options.parameters := by
    intro name hname
    rcases List.mem_cons.1 hname with rfl | hname
    · exact ⟨"-12", by decide⟩
    · obtain rfl := List.mem_singleton.1 hname
      exact ⟨"+5", by decide⟩
  have hcandidates : (Store.empty.add message).candidates options.request = [message] := by
    have hvariants : (Store.empty.add message).variants "k" = [message] :=
      Store.variants_add_new [] message
    show ((Store.empty.add message).variants "k").filter _ = _
    rw [hvariants]
    rfl
  obtain ⟨composition, hpieces, hrendered, hshown, hanswer⟩ :=
    shown_as_given_iff options hreads hgiven
  exact ⟨composition, hpieces, hrendered, hshown, hanswer _ message (Store.engines_add _ _)
    (Store.resolve_of_candidates hcandidates) rfl rfl⟩

/-- Zeros before a number are not shown. -/
theorem zeros_not_shown :
    let values := (ofParameters [("v", "007")]).values
    Engine.basic ⟨"k", "\x7bv\x7d", "basic"⟩ values =
        .ok [.literal "", .parameter (.number 7), .literal ""] ∧
      Segment.join [.literal "", .parameter (.number 7), .literal ""] = "7" ∧
      ¬∀ given : String, (Value.ofText given).text = given := by
  refine ⟨by decide +kernel, by decide +kernel, fun h => ?_⟩
  exact absurd (h "007") (by decide +kernel)

end CommandLine.TranslateOptions

/-! ### Integers of the library -/

/-- The types of integers that values are made from. -/
inductive IntegerType where
  | int32
  | int64
  | uint32
  | uint64
  /-- Wide enough for the size of anything in memory, at most 64 bits. -/
  | usize
  deriving DecidableEq

/-- The integers of a type. -/
def IntegerType.Holds (n : Int) : IntegerType → Prop
  | int32 => -2 ^ (31 : Nat) ≤ n ∧ n < 2 ^ (31 : Nat)
  | int64 => -2 ^ (63 : Nat) ≤ n ∧ n < 2 ^ (63 : Nat)
  | uint32 => 0 ≤ n ∧ n < 2 ^ (32 : Nat)
  | uint64 | usize => 0 ≤ n ∧ n < 2 ^ (64 : Nat)

namespace Value

/-- The value is the integer, and wherever it is injected into a message, the decimal digits of the
integer are read there. -/
structure Shows (value : Value) (n : Int) : Prop where
  number : value.number?.map Int64.toInt = some n
  rendered : ∀ (template : Template) (parameters : Parameters) (pieces : List Piece),
    Piece.Reads template.source.toList pieces [] →
    (∀ name ∈ Piece.names pieces, parameters.contains name = true) →
    ∃ composition : Composition, composition.pieces = pieces ∧
      Engine.basic template parameters = .ok composition.segments ∧
      Segment.join composition.segments = composition.text ∧
      ∀ insertion ∈ composition.insertions,
        parameters.find? insertion.parameter = some value → insertion.value.text = n.repr

theorem shows_number (k : Int64) : (number k).Shows k.toInt where
  number := rfl
  rendered template parameters pieces hreads hnames := by
    obtain ⟨composition, hpieces, hrendered, hvalues⟩ := Engine.exists_composition hreads hnames
    refine ⟨composition, hpieces, hrendered, composition.join_segments, ?_⟩
    intro insertion hinsertion hvalue
    have hsame : insertion.value = .number k :=
      Option.some.inj ((hvalues insertion hinsertion).symm.trans hvalue)
    rw [hsame]
    rfl

theorem Shows.unique {value : Value} {n m : Int} (hn : value.Shows n) (hm : value.Shows m) :
    n = m :=
  Option.some.inj (hn.number.symm.trans hm.number)

theorem shows_ofInt {n : Int} (hlower : -2 ^ (63 : Nat) ≤ n) (hupper : n < 2 ^ (63 : Nat)) :
    (ofInt n).Shows n := by
  have hvalue : (Int64.ofInt n).toInt = n := Int64.toInt_ofInt_of_le hlower hupper
  have hshows := shows_number (Int64.ofInt n)
  rwa [hvalue] at hshows

/-- An integer that needs all 64 bits without a sign is taken for a negative one. -/
theorem shows_ofInt_wrapped {n : Int} (hlower : 2 ^ (63 : Nat) ≤ n) (hupper : n < 2 ^ (64 : Nat)) :
    (ofInt n).Shows (n - 2 ^ (64 : Nat)) := by
  have hvalue : (Int64.ofInt n).toInt = n - 2 ^ (64 : Nat) := by
    have hsize : Int64.size = 18446744073709551616 := rfl
    -- The remainder is `n`, and it lies in the upper half.
    rw [Int64.toInt_ofInt, hsize, Int.bmod_def]
    omega
  have hshows := shows_number (Int64.ofInt n)
  rwa [hvalue] at hshows

/-- An integer of one of the types is kept exactly if it is less than 2^63, and all integers of the
types with a sign or of 32 bits are. A greater one is shown as a negative number. -/
theorem ofInt_shows_iff (type : IntegerType) (n : Int) (h : type.Holds n) :
    ((ofInt n).Shows n ↔ n < 2 ^ (63 : Nat)) ∧
      (type ≠ .uint64 ∧ type ≠ .usize → (ofInt n).Shows n) ∧
      (2 ^ (63 : Nat) ≤ n → (ofInt n).Shows (n - 2 ^ (64 : Nat)) ∧ n - 2 ^ (64 : Nat) < 0) := by
  have hbounds : -2 ^ (63 : Nat) ≤ n ∧ n < 2 ^ (64 : Nat) := by
    cases type <;> simp only [IntegerType.Holds] at h <;> omega
  refine ⟨⟨fun hshows => ?_, shows_ofInt hbounds.1⟩, fun htype => ?_, fun hlarge => ?_⟩
  · by_contra hlarge
    have hsame := hshows.unique (shows_ofInt_wrapped (Int.not_lt.1 hlarge) hbounds.2)
    omega
  · refine shows_ofInt hbounds.1 ?_
    cases type with
    | int32 | int64 | uint32 =>
        simp only [IntegerType.Holds] at h
        omega
    | uint64 => exact absurd rfl htype.1
    | usize => exact absurd rfl htype.2
  · exact ⟨shows_ofInt_wrapped hlarge hbounds.2, by omega⟩

theorem ofInt_shows_iff_greatest :
    ((ofInt 18446744073709551615).Shows 18446744073709551615 ↔
        (18446744073709551615 : Int) < 2 ^ (63 : Nat)) ∧
      (IntegerType.uint64 ≠ .uint64 ∧ IntegerType.uint64 ≠ .usize →
        (ofInt 18446744073709551615).Shows 18446744073709551615) ∧
      ((2 : Int) ^ (63 : Nat) ≤ 18446744073709551615 →
        (ofInt 18446744073709551615).Shows (18446744073709551615 - 2 ^ (64 : Nat)) ∧
          (18446744073709551615 : Int) - 2 ^ (64 : Nat) < 0) :=
  ofInt_shows_iff .uint64 18446744073709551615 ⟨by decide, by decide⟩

/-- The least integer that does not fit is shown as the least one of all that do. -/
theorem large_integer_shown_negative :
    let parameters : Parameters := .ofList [("n", ofInt 9223372036854775808)]
    Engine.basic ⟨"t", "\x7bn\x7d", "basic"⟩ parameters =
        .ok [.literal "", .parameter (.number Int64.minValue), .literal ""] ∧
      Segment.join [.literal "", .parameter (.number Int64.minValue), .literal ""] =
        "-9223372036854775808" ∧
      ¬∀ (type : IntegerType) (n : Int), type.Holds n → (ofInt n).Shows n := by
  refine ⟨by decide +kernel, by decide +kernel, fun h => ?_⟩
  have hnumber := (h .uint64 9223372036854775808 ⟨by decide, by decide⟩).number
  exact absurd hnumber (by decide +kernel)

end Value

end Phrasebook
