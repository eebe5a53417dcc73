import Knapsack.Json.Scan
import Knapsack.Word

/-!
Numbers. A numeral without fraction and exponent is an integer if it lies between `-2^63` and
`2^64 - 1` and is not `-0`; every other numeral is a double, made from the digits that fit into a
word and a power of ten, each of them rounded. A numeral that is only skipped is checked for its
form alone.
-/

namespace Knapsack.Json

inductive Number where
  | integer (value : Int)
  | float (bits : UInt64)
deriving DecidableEq, Repr

def startsWithDigit : List Char → Bool
  | [] => false
  | c :: _ => c.isDigit

/-- Appends digits to a number while it stays a word, and counts those that are left over. -/
def absorb (significand : Nat) : List Char → Nat × Nat
  | [] => (significand, 0)
  | c :: digits =>
    let next := 10 * significand + (c.toNat - '0'.toNat)
    if next < wordCount then absorb next digits else (significand, digits.length + 1)

/-- `significand · 10^exponent` as a double: the power is a factor or a divisor, and a divisor beyond
the doubles is split in two. -/
def double? (significand : Nat) (exponent : Int) : Option Float :=
  let x := (UInt64.ofNat significand).toFloat
  let power (n : Nat) : Float := Float.ofScientific 1 false n
  if significand = 0 then
    some 0
  else if 308 < exponent then
    none
  else if 0 ≤ exponent then
    let y := x * power exponent.toNat
    if y.isInf then none else some y
  else if -308 ≤ exponent then
    some (x / power (-exponent).toNat)
  else if -616 ≤ exponent then
    some (x / power 308 / power (-exponent - 308).toNat)
  else
    some 0

def float (negative : Bool) (significand : Nat) (exponent : Int) : Except Error Number :=
  match double? significand exponent with
  | none => .error .numberOutOfRange
  | some x => .ok (.float (if negative then -x else x).toBits)

/-- A number without fraction and exponent. -/
def whole (negative : Bool) (significand : Nat) : Except Error Number :=
  if negative = false then
    .ok (.integer significand)
  else if significand = 0 ∨ Nat.pow 2 63 < significand then
    float true significand 0
  else
    .ok (.integer (-significand))

/-- Reads an exponent whose mark is taken. -/
def exponent (negative : Bool) (significand : Nat) (shift : Int) : Reader Number := fun text =>
  let (below, text) := match text with
    | '+' :: rest => (false, rest)
    | '-' :: rest => (true, rest)
    | text => (false, text)
  match text with
  | [] => .error .endInValue
  | c :: _ =>
    if c.isDigit then
      let size := Nat.ofDigitChars 10 (text.takeWhile Char.isDigit) 0
      match float negative significand (if below then shift - size else shift + size) with
      | .error error => .error error
      | .ok number => .ok (number, text.dropWhile Char.isDigit)
    else
      .error .badNumber

/-- Reads what may follow the digits of a number: an exponent or nothing. -/
def scaled (negative : Bool) (significand : Nat) (shift : Int) : Reader Number := fun text =>
  match text with
  | 'e' :: rest => exponent negative significand shift rest
  | 'E' :: rest => exponent negative significand shift rest
  | text =>
    match float negative significand shift with
    | .error error => .error error
    | .ok number => .ok (number, text)

/-- Reads what follows the digits before the point. -/
def afterDigits (negative : Bool) (significand dropped : Nat) : Reader Number := fun text =>
  match text with
  | '.' :: rest =>
    let digits := rest.takeWhile Char.isDigit
    let after := rest.dropWhile Char.isDigit
    if digits.isEmpty then
      .error (if after.isEmpty then .endInValue else .badNumber)
    else
      let (significand, rounded) := absorb significand digits
      scaled negative significand (dropped - (digits.length - rounded)) after
  | 'e' :: _ => scaled negative significand dropped text
  | 'E' :: _ => scaled negative significand dropped text
  | text =>
    match if dropped = 0 then whole negative significand else float negative significand dropped with
    | .error error => .error error
    | .ok number => .ok (number, text)

/-- Reads a number whose sign is taken. -/
def unsigned (negative : Bool) : Reader Number := fun text =>
  match text with
  | [] => .error .endInValue
  | c :: rest =>
    if c = '0' then
      if startsWithDigit rest then .error .badNumber else afterDigits negative 0 0 rest
    else if c.isDigit then
      let (significand, dropped) := absorb 0 (text.takeWhile Char.isDigit)
      afterDigits negative significand dropped (text.dropWhile Char.isDigit)
    else
      .error .badNumber

/-- Reads a number at a sign or a digit. -/
def number : Reader Number := fun text =>
  match text with
  | '-' :: rest => unsigned true rest
  | text => unsigned false text

/-- Takes one or more digits off the text. -/
def skipDigits (text : List Char) : Except Error (List Char) :=
  if startsWithDigit text then .ok (text.dropWhile Char.isDigit) else .error .badNumber

def skipExponent (text : List Char) : Except Error (List Char) :=
  match text with
  | '+' :: rest => skipDigits rest
  | '-' :: rest => skipDigits rest
  | text => skipDigits text

def skipScaled (text : List Char) : Except Error (List Char) :=
  match text with
  | 'e' :: rest => skipExponent rest
  | 'E' :: rest => skipExponent rest
  | text => .ok text

def skipAfterDigits (text : List Char) : Except Error (List Char) :=
  match text with
  | '.' :: rest =>
    match skipDigits rest with
    | .error error => .error error
    | .ok rest => skipScaled rest
  | text => skipScaled text

def skipUnsigned (text : List Char) : Except Error (List Char) :=
  match text with
  | [] => .error .badNumber
  | c :: rest =>
    if c = '0' then
      if startsWithDigit rest then .error .badNumber else skipAfterDigits rest
    else if c.isDigit then
      skipAfterDigits (text.dropWhile Char.isDigit)
    else
      .error .badNumber

/-- Skips a number at a sign or a digit. -/
def skipNumber (text : List Char) : Except Error (List Char) :=
  match text with
  | '-' :: rest => skipUnsigned rest
  | text => skipUnsigned text

end Knapsack.Json
