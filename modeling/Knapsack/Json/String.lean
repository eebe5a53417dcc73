import Knapsack.Json.Scan

/-!
Strings, read one character at a time. An escape by number stands for a UTF-16 unit of four
hexadecimal digits; a leading surrogate must be followed by an escape of a trailing one, and a
trailing one never stands first. A string that is only skipped has its escapes checked for their
form alone. When a string is written, a quote, a backslash and the controls below the space are
escaped, and nothing else.
-/

namespace Knapsack.Json

def hexDigit? (c : Char) : Option Nat :=
  if '0' ≤ c ∧ c ≤ '9' then some (c.toNat - '0'.toNat)
  else if 'a' ≤ c ∧ c ≤ 'f' then some (c.toNat - 'a'.toNat + 10)
  else if 'A' ≤ c ∧ c ≤ 'F' then some (c.toNat - 'A'.toNat + 10)
  else none

/-- The character that a backslash and `c` stand for. -/
def shortEscape? (c : Char) : Option Char :=
  if c = '"' then some '"'
  else if c = '\\' then some '\\'
  else if c = '/' then some '/'
  else if c = 'b' then some '\x08'
  else if c = 'f' then some '\x0c'
  else if c = 'n' then some '\n'
  else if c = 'r' then some '\r'
  else if c = 't' then some '\t'
  else none

/-- Whether four bytes are left, as many as the digits of an escape take. -/
def fourBytesLeft (text : List Char) : Bool :=
  4 ≤ (text.take 4).foldl (fun bytes c => bytes + c.utf8Size) 0

/-- Where in a string the reader is; `lead` is a leading surrogate that waits for its other half. -/
inductive StringState where
  | plain
  | escape
  | hex (left unit : Nat) (lead : Option Nat)
  | paired (lead : Nat)
  | pairedEscape (lead : Nat)
deriving DecidableEq, Repr

/-- Reads up to the closing quote; `found` holds the characters so far, reversed. -/
def stringFrom : StringState → List Char → Reader (List Char)
  | _, _, [] => .error .endInString
  | .plain, found, c :: rest =>
    if c = '"' then .ok (found.reverse, rest)
    else if c = '\\' then stringFrom .escape found rest
    else if c.toNat < 0x20 then .error .controlCharacter
    else stringFrom .plain (c :: found) rest
  | .escape, found, c :: rest =>
    match shortEscape? c with
    | some d => stringFrom .plain (d :: found) rest
    | none =>
      if c = 'u' then
        if fourBytesLeft rest then stringFrom (.hex 3 0 none) found rest else .error .endInString
      else
        .error .badEscape
  | .hex left unit lead, found, c :: rest =>
    match hexDigit? c with
    | none => .error .badEscape
    | some digit =>
      let unit := 16 * unit + digit
      match left, lead with
      | left + 1, lead => stringFrom (.hex left unit lead) found rest
      | 0, none =>
        if 0xdc00 ≤ unit ∧ unit ≤ 0xdfff then .error .loneSurrogate
        else if 0xd800 ≤ unit ∧ unit ≤ 0xdbff then stringFrom (.paired unit) found rest
        else stringFrom .plain (Char.ofNat unit :: found) rest
      | 0, some high =>
        if 0xdc00 ≤ unit ∧ unit ≤ 0xdfff then
          let c := Char.ofNat (0x10000 + (high - 0xd800) * 0x400 + (unit - 0xdc00))
          stringFrom .plain (c :: found) rest
        else
          .error .loneSurrogate
  | .paired lead, found, c :: rest =>
    if c = '\\' then stringFrom (.pairedEscape lead) found rest else .error .unpairedEscape
  | .pairedEscape lead, found, c :: rest =>
    if c = 'u' then
      if fourBytesLeft rest then stringFrom (.hex 3 0 (some lead)) found rest
      else .error .endInString
    else
      .error .unpairedEscape

/-- Reads a string whose opening quote is taken. -/
def string : Reader (List Char) :=
  stringFrom .plain []

inductive SkipState where
  | plain
  | escape
  | hex (left : Nat)
deriving DecidableEq, Repr

def skipStringFrom : SkipState → List Char → Except Error (List Char)
  | _, [] => .error .endInString
  | .plain, c :: rest =>
    if c = '"' then .ok rest
    else if c = '\\' then skipStringFrom .escape rest
    else if c.toNat < 0x20 then .error .controlCharacter
    else skipStringFrom .plain rest
  | .escape, c :: rest =>
    match shortEscape? c with
    | some _ => skipStringFrom .plain rest
    | none =>
      if c = 'u' then
        if fourBytesLeft rest then skipStringFrom (.hex 3) rest else .error .endInString
      else
        .error .badEscape
  | .hex left, c :: rest =>
    match hexDigit? c, left with
    | none, _ => .error .badEscape
    | some _, left + 1 => skipStringFrom (.hex left) rest
    | some _, 0 => skipStringFrom .plain rest

/-- Skips a string whose opening quote is taken. -/
def skipString : List Char → Except Error (List Char) :=
  skipStringFrom .plain

def escape (c : Char) : List Char :=
  if c = '"' then ['\\', '"']
  else if c = '\\' then ['\\', '\\']
  else if c = '\x08' then ['\\', 'b']
  else if c = '\x0c' then ['\\', 'f']
  else if c = '\n' then ['\\', 'n']
  else if c = '\r' then ['\\', 'r']
  else if c = '\t' then ['\\', 't']
  else if c.toNat < 0x20 then
    ['\\', 'u', '0', '0', (c.toNat / 16).digitChar, (c.toNat % 16).digitChar]
  else [c]

def quote (text : List Char) : List Char :=
  '"' :: text.flatMap escape ++ ['"']

end Knapsack.Json
