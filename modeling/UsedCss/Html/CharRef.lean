import UsedCss.Html.NamedCharacters
import UsedCss.Html.ParseError
/-!
# Character references

`CharRef.read` is given what follows an ampersand and says which characters it stands for,
how much of the text belongs to the reference, and what is wrong with it.
-/

namespace UsedCss.Html

/-- What follows an ampersand. If it stands for no characters the ampersand is just that, and
nothing after it has been used up. -/
structure CharRef where
  characters : List Char := []
  /-- How many characters after the ampersand belong to the reference. -/
  length : Nat := 0
  errors : List ParseError := []
deriving DecidableEq, Repr

namespace CharRef

/-- The characters that numbers from 128 to 159 stand for: those of the code page that such
numbers are usually taken from, where it has one. -/
def windowsCharacters : List Nat :=
  [0x20ac, 0x81, 0x201a, 0x192, 0x201e, 0x2026, 0x2020, 0x2021, 0x2c6, 0x2030, 0x160, 0x2039,
    0x152, 0x8d, 0x17d, 0x8f, 0x90, 0x2018, 0x2019, 0x201c, 0x201d, 0x2022, 0x2013, 0x2014,
    0x2dc, 0x2122, 0x161, 0x203a, 0x153, 0x9d, 0x17e, 0x178]

/-- A number as its digits are read into 32 bits, and whether it has left the range of
characters on the way. -/
structure Number where
  value : UInt32 := 0
  tooBig : Bool := false
deriving DecidableEq, Repr

/-- One more digit. -/
def Number.digit (base : UInt32) (n : Number) (d : UInt32) : Number :=
  let shifted := n.value * base
  ⟨shifted + d, n.tooBig || shifted > 0x10FFFF⟩

/-- The value of a digit in a base, if it is one. -/
def digitValue? (base : UInt32) (c : Char) : Option UInt32 :=
  if c.isDigit then some (c.val - 48)
  else if base = 16 && 'a' ≤ c.toLower && c.toLower ≤ 'f' then some (c.toLower.val - 87)
  else none

/-- Whether a number stands for a control character or a noncharacter. -/
def isDubious (n : Nat) : Bool :=
  (1 ≤ n && n ≤ 8) || n == 0x0B || (0x0D ≤ n && n ≤ 0x1F) || n == 0x7F ||
    (0xFDD0 ≤ n && n ≤ 0xFDEF) || n &&& 0xFFFE == 0xFFFE

/-- The character that a number stands for, and whether it should not be written so. -/
def Number.character (n : Number) : Char × Bool :=
  let v := n.value.toNat
  if n.tooBig || v > 0x10FFFF || v == 0 || (0xD800 ≤ v && v ≤ 0xDFFF) then ('\uFFFD', true)
  else if 0x80 ≤ v && v ≤ 0x9F then
    (Char.ofNat ((windowsCharacters[v - 0x80]?).getD v), true)
  else (Char.ofNat v, isDubious v)

/-- Reads the digits of a numeric reference; `before` characters stand between the ampersand
and them. -/
def readNumber (base : UInt32) (before : Nat) (cs : List Char) : CharRef :=
  let digits := cs.takeWhile fun c => (digitValue? base c).isSome
  if digits.isEmpty then { errors := [.numericWithoutDigits] }
  else
    let number := (digits.filterMap (digitValue? base)).foldl (Number.digit base) {}
    let (length, errors) : Nat × List ParseError :=
      match cs.drop digits.length with
      | ';' :: _ => (digits.length + 1, [])
      | _ :: _ => (digits.length, [.numericWithoutSemicolon])
      | [] => (digits.length, [.numericAtEnd])
    let (c, dubious) := number.character
    { characters := [c]
      length := before + length
      errors := errors ++ if dubious then [.numericInvalid number.value.toNat] else [] }

/-- The longest name at the start of a text, as its length and its characters. `before` holds
the `length` characters in front of the text, and `best` what has been found in them. -/
def longestName (before : String) (length : Nat) (best : Option (Nat × List Char)) :
    List Char → Option (Nat × List Char)
  | [] => best
  | c :: cs =>
    let before := before.push c
    match namedCharacters[before]? with
    | none => best
    | some none => longestName before (length + 1) best cs
    | some (some characters) =>
      longestName before (length + 1) (some (length + 1, characters)) cs

/-- What is wrong with a text that starts with no name: a name that does not exist is an
error if it ends in a semicolon. -/
def unknownName (cs : List Char) : List ParseError :=
  let name := cs.takeWhile Char.isAlphanum
  if !name.isEmpty && cs[name.length]? = some ';' then
    [.unknownName (String.ofList (name ++ [';']))]
  else []

/-- Reads a reference by name. In an attribute a name without a semicolon stands for itself
if it could go on. -/
def readName (inAttribute : Bool) (cs : List Char) : CharRef :=
  match longestName "" 0 none cs with
  | none => { errors := unknownName cs }
  | some (length, characters) =>
    if cs[length - 1]? = some ';' then { characters, length }
    else
      let goesOn := (cs[length]?).any fun c => c == '=' || c.isAlphanum
      if inAttribute && goesOn then {}
      else { characters, length, errors := [.nameWithoutSemicolon] }

/-- Reads what follows an ampersand. -/
def read (inAttribute : Bool) (cs : List Char) : CharRef :=
  match cs with
  | [] => {}
  | ['#'] => { errors := [.hashAtEnd] }
  | '#' :: c :: rest =>
    if c == 'x' || c == 'X' then readNumber 16 2 rest else readNumber 10 1 (c :: rest)
  | c :: _ => if c.isAlphanum then readName inAttribute cs else {}

end CharRef

end UsedCss.Html
