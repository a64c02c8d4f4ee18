import Phrasebook.Number.Power

/-! Signed integers of 64 bits as decimal text. -/

namespace Phrasebook.Integer

/-- The number that fits 64 bits and has this value. -/
def ofInt? (n : Int) : Option Int64 :=
  if -2 ^ (63 : Nat) ≤ n ∧ n < 2 ^ (63 : Nat) then some (Int64.ofInt n) else none

/-- The value of one or more ASCII digits. -/
def natural? (s : List Char) : Option Nat :=
  if s.isEmpty || !s.all Char.isDigit then none else some (Nat.ofDigitChars 10 s 0)

/-- Reads an optional sign and one or more digits whose value fits 64 bits. -/
def read? : List Char → Option Int64
  | '+' :: digits => natural? digits >>= fun n => ofInt? n
  | '-' :: digits => natural? digits >>= fun n => ofInt? (-n)
  | digits => natural? digits >>= fun n => ofInt? n

/-- The decimal digits, after a minus sign when the number is negative. -/
def text (n : Int64) : String :=
  n.toInt.repr

theorem toInt_of_ofInt? {n : Int} {k : Int64} (h : ofInt? n = some k) : k.toInt = n := by
  simp only [ofInt?, Option.ite_none_right_eq_some, Option.some.injEq] at h
  obtain ⟨⟨hlo, hhi⟩, rfl⟩ := h
  exact Int64.toInt_ofInt_of_le hlo hhi

@[simp] theorem ofInt?_toInt (k : Int64) : ofInt? k.toInt = some k := by
  rw [ofInt?, if_pos ⟨k.le_toInt, k.toInt_lt⟩, Int64.ofInt_toInt]

end Phrasebook.Integer
