import Phrasebook.Json.Raw

/-! Reading JSON text by its grammar, without any leniency. -/

namespace Phrasebook.Json

namespace Reader

def isBlank (c : Char) : Bool :=
  c == ' ' || c == '\n' || c == '\t' || c == '\r'

def skip (s : List Char) : List Char :=
  s.dropWhile isBlank

def hexDigit? (c : Char) : Option Nat :=
  if c.isDigit then some (c.toNat - '0'.toNat)
  else if 'a' ≤ c ∧ c ≤ 'f' then some (c.toNat - 'a'.toNat + 10)
  else if 'A' ≤ c ∧ c ≤ 'F' then some (c.toNat - 'A'.toNat + 10)
  else none

def hex? (a b c d : Char) : Option Nat := do
  let a ← hexDigit? a
  let b ← hexDigit? b
  let c ← hexDigit? c
  let d ← hexDigit? d
  some (((a * 16 + b) * 16 + c) * 16 + d)

def isHighSurrogate (n : Nat) : Bool :=
  0xD800 ≤ n && n < 0xDC00

def isLowSurrogate (n : Nat) : Bool :=
  0xDC00 ≤ n && n < 0xE000

def escaped? (c : Char) : Option Char :=
  match c with
  | '"' => some '"'
  | '\\' => some '\\'
  | '/' => some '/'
  | 'b' => some '\x08'
  | 'f' => some '\x0c'
  | 'n' => some '\n'
  | 'r' => some '\r'
  | 't' => some '\t'
  | _ => none

/-- The characters of a string, none if it has no value, and the text after its closing quote. -/
abbrev StringRead := Option (List Char) × List Char

def push (c : Char) (read : StringRead) : StringRead :=
  (read.1.map (c :: ·), read.2)

/-- A string without a value. -/
def spoil (read : StringRead) : StringRead :=
  (none, read.2)

/-- A high surrogate that is not part of a pair spoils the string. -/
def unpaired (high : Option Nat) (read : StringRead) : StringRead :=
  if high.isSome then spoil read else read

/-- The character that a pair of surrogates stands for. -/
def pair (high low : Nat) : Char :=
  Char.ofNat (0x10000 + (high - 0xD800) * 0x400 + (low - 0xDC00))

/-- Reads a string after its opening quote; `high` is a high surrogate right before the text. -/
def characters : (high : Option Nat) → List Char → Option StringRead
  | _, [] => none
  | high, '"' :: rest => some (unpaired high (some [], rest))
  | high, '\\' :: 'u' :: a :: b :: c :: d :: rest => do
    let n ← hex? a b c d
    if isLowSurrogate n then
      let read ← characters none rest
      some (match high with | some high => push (pair high n) read | none => spoil read)
    else if isHighSurrogate n then
      let read ← characters (some n) rest
      some (unpaired high read)
    else
      let read ← characters none rest
      some (unpaired high (push (Char.ofNat n) read))
  | high, '\\' :: c :: rest => do
    let c ← escaped? c
    let read ← characters none rest
    some (unpaired high (push c read))
  | high, c :: rest =>
    if c.toNat < 0x20 then none
    else do
      let read ← characters none rest
      some (unpaired high (push c read))

def string (s : List Char) : Option (Option String × List Char) :=
  (characters none s).map fun (value, rest) => (value.map String.ofList, rest)

/-- Splits off one or more digits. -/
def digits? (s : List Char) : Option (List Char × List Char) :=
  let digits := s.takeWhile Char.isDigit
  if digits.isEmpty then none else some (digits, s.dropWhile Char.isDigit)

/-- Splits off one or more digits that do not start with a zero, or a zero alone. -/
def whole? (s : List Char) : Option (List Char × List Char) :=
  match digits? s with
  | some ('0' :: _ :: _, _) => none
  | other => other

def fraction? : List Char → Option (Option (List Char) × List Char)
  | '.' :: s => (digits? s).map fun (digits, rest) => (some digits, rest)
  | s => some (none, s)

def exponentDigits? (negative : Bool) (s : List Char) :
    Option (Option (Bool × List Char) × List Char) :=
  (digits? s).map fun (digits, rest) => (some (negative, digits), rest)

def exponent? : List Char → Option (Option (Bool × List Char) × List Char)
  | c :: s =>
    if c = 'e' ∨ c = 'E' then
      match s with
      | '+' :: s => exponentDigits? false s
      | '-' :: s => exponentDigits? true s
      | s => exponentDigits? false s
    else some (none, c :: s)
  | [] => some (none, [])

def unsigned? (negative : Bool) (s : List Char) : Option (Number.Written × List Char) := do
  let (whole, s) ← whole? s
  let (fraction, s) ← fraction? s
  let (exponent, s) ← exponent? s
  some (⟨negative, whole, fraction, exponent⟩, s)

def number : List Char → Option (Raw × List Char)
  | '-' :: s => (unsigned? true s).map fun (w, rest) => (.number w.value?, rest)
  | s => (unsigned? false s).map fun (w, rest) => (.number w.value?, rest)

/-- Reads what starts neither a string nor an array nor an object. -/
def scalar (s : List Char) : Option (Raw × List Char) :=
  match s with
  | 'n' :: 'u' :: 'l' :: 'l' :: rest => some (.null, rest)
  | 't' :: 'r' :: 'u' :: 'e' :: rest => some (.bool true, rest)
  | 'f' :: 'a' :: 'l' :: 's' :: 'e' :: rest => some (.bool false, rest)
  | s => number s

/-- Reads a key and the colon after it. -/
def key (s : List Char) : Option (Option String × List Char) :=
  match skip s with
  | '"' :: s =>
    match string s with
    | some (key, rest) =>
      match skip rest with
      | ':' :: rest => some (key, rest)
      | _ => none
    | none => none
  | _ => none

mutual

/-- Reads a value with blanks before it. The fuel bounds how deep values stand in one another, and
how many stand side by side. -/
def value : (fuel : Nat) → List Char → Option (Raw × List Char)
  | 0, _ => none
  | fuel + 1, s =>
    match skip s with
    | '"' :: s => (string s).map fun (value, rest) => (.string value, rest)
    | '[' :: s =>
      match skip s with
      | ']' :: rest => some (.array [], rest)
      | s => (items fuel s).map fun (items, rest) => (.array items, rest)
    | c :: s =>
      if c = '\x7b' then
        match skip s with
        | c :: rest =>
          if c = '\x7d' then some (.object [], rest)
          else (members fuel (c :: rest)).map fun (members, rest) => (.object members, rest)
        | [] => none
      else scalar (c :: s)
    | [] => none

/-- Reads the items of an array that has some, and its closing bracket. -/
def items : (fuel : Nat) → List Char → Option (List Raw × List Char)
  | 0, _ => none
  | fuel + 1, s =>
    match value fuel s with
    | none => none
    | some (item, rest) =>
      match skip rest with
      | ',' :: rest => (items fuel rest).map fun (items, rest) => (item :: items, rest)
      | ']' :: rest => some ([item], rest)
      | _ => none

/-- Reads the members of an object that has some, and its closing brace. -/
def members : (fuel : Nat) → List Char → Option (List (Option String × Raw) × List Char)
  | 0, _ => none
  | fuel + 1, s =>
    match key s with
    | none => none
    | some (key, rest) =>
      match value fuel rest with
      | none => none
      | some (value, rest) =>
        match skip rest with
        | ',' :: rest =>
          (members fuel rest).map fun (members, rest) => ((key, value) :: members, rest)
        | c :: rest => if c = '\x7d' then some ([(key, value)], rest) else none
        | [] => none

end

end Reader

/-- Reads a text that holds one value. Each bracket and each item takes a character at least, so the
fuel is enough. -/
def Raw.parse? (text : String) : Option Raw :=
  let s := text.toList
  match Reader.value (2 * s.length + 1) s with
  | some (value, rest) => if (Reader.skip rest).isEmpty then some value else none
  | none => none

end Phrasebook.Json
