/-!
Unsigned numerals: digits of a base, most significant first, with an optional plus sign in front.
-/

namespace ReplicaRouting.Text

/-- The value of a digit; letters of either case follow the decimal digits. -/
def digitValue? (c : Char) : Option Nat :=
  if '0' ≤ c ∧ c ≤ '9' then some (c.toNat - '0'.toNat)
  else if 'a' ≤ c ∧ c ≤ 'z' then some (c.toNat - 'a'.toNat + 10)
  else if 'A' ≤ c ∧ c ≤ 'Z' then some (c.toNat - 'A'.toNat + 10)
  else none

def digitOf? (base : Nat) (c : Char) : Option Nat :=
  (digitValue? c).filter (· < base)

/-- The number written by a row of digits, read on from `value`. -/
def digits? (base : Nat) : Nat → List Char → Option Nat
  | value, [] => some value
  | value, c :: rest => do
    let digit ← digitOf? base c
    digits? base (value * base + digit) rest

/-- The number written by one or more digits after an optional plus sign, if it is below `bound`. -/
def numeral? (base bound : Nat) (text : List Char) : Option Nat :=
  let digits := match text with
    | '+' :: rest => rest
    | _ => text
  if digits.isEmpty then none else (digits? base 0 digits).filter (· < bound)

/-- The hexadecimal numeral with capital letters and no leading zeros. -/
def upperHex (n : Nat) : List Char := (Nat.toDigits 16 n).map Char.toUpper

end ReplicaRouting.Text
