/-
How large a numeral may be where numbers are kept as 64-bit floats.

A numeral is taken in two parts, a significand and a power of ten. The significand takes digits while it fits 64 bits
(`significand`); whole digits after that only raise the power, decimal places after that are dropped. Each part is
rounded to a float on its own, and the numeral is too large when the power has no float or the product of the two
rounds to infinity (`isTooLarge`). So close to the bound it is this product that decides, and not the numeral's exact
value. `nearestFloat_of_lt`: what has at most 53 binary digits is not rounded.
-/
import VisualNovel.Text.Numeral

namespace VisualNovel.Json

/-- half a unit in the last place above the largest 64-bit float: from here on a product rounds to infinity -/
def floatBound : Nat := Nat.pow 2 1024 - Nat.pow 2 970

/-- greatest exponent of ten that has a 64-bit float -/
def tenMax : Int := 308

/-- the number of at most 53 binary digits and any power of two nearest to `n`; a tie goes to the even one -/
def nearestFloat (n : Nat) : Nat :=
  let unit := Nat.pow 2 (n.log2 - 52)
  let below := n / unit
  let rest := n % unit
  if unit < 2 * rest ∨ (unit = 2 * rest ∧ below % 2 = 1) then (below + 1) * unit else below * unit

/-- a significand with further digits appended while it fits 64 bits, and the digits that did not fit -/
def significand (n : Nat) : List Char → Nat × List Char
  | [] => (n, [])
  | d :: ds =>
    let longer := n * 10 + (d.toNat - '0'.toNat)
    if longer ≤ Text.sizeMax then significand longer ds else (n, d :: ds)

/-- whether whole digits, decimal places and an exponent are too large together -/
def isTooLarge (whole places : List Char) (exponent : Int) : Bool :=
  let (n, uncounted) := significand 0 whole
  let (n, dropped) := significand n places
  let power := exponent + uncounted.length - (places.length - dropped.length : Nat)
  if n = 0 ∨ power < 0 then false
  else if tenMax < power then true
  else decide (floatBound ≤ nearestFloat n * nearestFloat (Nat.pow 10 power.toNat))

theorem nearestFloat_of_lt {n : Nat} (h : n < Nat.pow 2 53) : nearestFloat n = n := by
  have hlog : n.log2 - 52 = 0 := by
    rcases Nat.eq_zero_or_pos n with rfl | hn
    · simp
    · have := (Nat.log2_lt (by omega)).2 h
      omega
  simp [nearestFloat, hlog, Nat.mod_one]

end VisualNovel.Json
