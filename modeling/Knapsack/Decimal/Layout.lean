import Knapsack.Decimal.Shortest

/-!
How the digits of a double are laid out: positional with a point between two exponents of the first
digit, with an exponent beyond them. A whole number keeps `.0` in positional form.
-/

namespace Knapsack.Decimal

structure Layout where
  leastPositional : Int
  mostPositional : Int
deriving DecidableEq, Repr

def stripZeros (digits : List Char) : List Char :=
  (digits.reverse.dropWhile (· = '0')).reverse

namespace Layout

def positional (digits : List Char) (exponent : Int) : List Char :=
  if exponent < 0 then
    ['0', '.'] ++ List.replicate (-exponent - 1).toNat '0' ++ digits
  else
    let whole := exponent.toNat + 1
    let padded := digits ++ List.replicate (whole - digits.length) '0'
    let fraction := padded.drop whole
    padded.take whole ++ ['.'] ++ if fraction.isEmpty then ['0'] else fraction

/-- An exponent has a sign and no leading zeros. -/
def scientific (digits : List Char) (exponent : Int) : List Char :=
  let mantissa := match digits with
    | first :: second :: rest => first :: '.' :: second :: rest
    | digits => digits
  mantissa ++ ['e', if exponent < 0 then '-' else '+'] ++ Nat.toDigits 10 exponent.natAbs

/-- The text of the finite double with these bits. -/
def text (layout : Layout) (bits : UInt64) : String :=
  let sign := if Nat.pow 2 63 ≤ bits.toNat then ['-'] else []
  let interval := Interval.ofBits bits
  let body :=
    if interval.value = 0 then
      ['0', '.', '0']
    else
      let point := interval.shortest
      let digits := Nat.toDigits 10 point.digits
      let exponent := point.exponent + digits.length - 1
      if layout.leastPositional ≤ exponent ∧ exponent ≤ layout.mostPositional then
        positional (stripZeros digits) exponent
      else
        scientific (stripZeros digits) exponent
  String.ofList (sign ++ body)

end Layout

end Knapsack.Decimal
