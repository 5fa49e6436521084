/-
Decimal numerals. `digits` writes a natural number, `padded` fills it up with zeros to a least width (asset names),
`ofDigits` reads a run of ASCII digits of any length, leading zeros allowed. `ofDigits_digits`: what was written is read
back. Sizes and positions are 64-bit: `readSize` refuses an empty run and a value beyond `sizeMax`.
-/
namespace VisualNovel.Text

/-- the decimal digits of `n`, without leading zeros -/
def digits (n : Nat) : List Char := Nat.toDigits 10 n

/-- the decimal digits of `n`, filled up on the left with zeros to at least `width` characters -/
def padded (width n : Nat) : List Char :=
  List.replicate (width - (digits n).length) '0' ++ digits n

/-- the value of a run of decimal digits -/
def ofDigits (ds : List Char) : Nat := Nat.ofDigitChars 10 ds 0

/-- a sign and the decimal digits of the magnitude -/
def signedDigits (n : Int) : List Char :=
  if n < 0 then '-' :: digits n.natAbs else digits n.natAbs

/-- largest size, position or count: these are 64-bit -/
def sizeMax : Nat := Nat.pow 2 64 - 1

/-- a non-empty run of digits whose value is a size -/
def readSize (ds : List Char) : Option Nat :=
  if !ds.isEmpty && ds.all Char.isDigit && decide (ofDigits ds ≤ sizeMax) then some (ofDigits ds) else none

/-- a size as a player types it: digits, with one `+` allowed in front -/
def readTypedSize : List Char → Option Nat
  | '+' :: ds => readSize ds
  | ds => readSize ds

theorem ofDigits_digits (n : Nat) : ofDigits (digits n) = n := Nat.ofDigitChars_ten_toDigits

theorem ofDigits_padded (width n : Nat) : ofDigits (padded width n) = n := by
  simp [ofDigits, padded, Nat.ofDigitChars_append, Nat.ofDigitChars_replicate_zero, digits,
    Nat.ofDigitChars_ten_toDigits]

theorem isDigit_of_mem_digits {n : Nat} {c : Char} (h : c ∈ digits n) : c.isDigit = true :=
  Nat.isDigit_of_mem_toDigits (by decide) (by decide) h

theorem digits_ne_nil (n : Nat) : digits n ≠ [] := Nat.toDigits_ne_nil

theorem isDigit_of_mem_padded {width n : Nat} {c : Char} (h : c ∈ padded width n) : c.isDigit = true := by
  rcases List.mem_append.1 h with h | h
  · rw [List.eq_of_mem_replicate h]
    decide
  · exact isDigit_of_mem_digits h

theorem padded_inj {width m n : Nat} : padded width m = padded width n ↔ m = n := by
  constructor
  · intro h
    calc m = ofDigits (padded width m) := (ofDigits_padded width m).symm
      _ = ofDigits (padded width n) := by rw [h]
      _ = n := ofDigits_padded width n
  · intro h
    rw [h]

end VisualNovel.Text
