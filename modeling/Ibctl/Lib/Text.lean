import Mathlib.Algebra.Group.Nat.Defs
import Mathlib.Data.List.Basic

/-! Text as the programs handle it: a string is its list of characters, and what is
trimmed, split or compared is decided by a predicate on characters. -/
namespace Text

/-- The `White_Space` property of Unicode, which `str::trim` uses. -/
def isWhitespace (c : Char) : Bool :=
  (9 ≤ c.toNat && c.toNat ≤ 13) || c.toNat = 0x20 || c.toNat = 0x85 || c.toNat = 0xA0 ||
    c.toNat = 0x1680 || (0x2000 ≤ c.toNat && c.toNat ≤ 0x200A) || c.toNat = 0x2028 ||
    c.toNat = 0x2029 || c.toNat = 0x202F || c.toNat = 0x205F || c.toNat = 0x3000

def trimChars (blank : Char → Bool) (cs : List Char) : List Char :=
  ((cs.dropWhile blank).reverse.dropWhile blank).reverse

def trimWith (blank : Char → Bool) (s : String) : String :=
  String.ofList (trimChars blank s.toList)

def trim (s : String) : String := trimWith isWhitespace s

/-- What Python's `str.strip` removes: the separators 1C to 1F as well. -/
def isPythonSpace (c : Char) : Bool :=
  isWhitespace c || (0x1C ≤ c.toNat && c.toNat ≤ 0x1F)

def asciiLowerChar (c : Char) : Char :=
  if 'A' ≤ c ∧ c ≤ 'Z' then Char.ofNat (c.toNat + 32) else c

def toAsciiLowercase (s : String) : String := String.ofList (s.toList.map asciiLowerChar)

/-- The lowercase mapping as far as ASCII text can show it: besides A to Z, only the dotted
capital I and the Kelvin sign map to something with an ASCII letter. -/
def lowerChar (c : Char) : List Char :=
  if c.toNat = 0x130 then ['i',Char.ofNat 0x307]
  else if c.toNat = 0x212A then ['k']
  else [asciiLowerChar c]

def toLowercase (s : String) : String := String.ofList (s.toList.flatMap lowerChar)

def containsChars (cs part : List Char) : Bool := cs.tails.any (fun tail => part.isPrefixOf tail)

def containsText (s part : String) : Bool := containsChars s.toList part.toList

def splitWhitespace (cs : List Char) : List (List Char) :=
  (cs.splitOnP isWhitespace).filter (fun word => word ≠ [])

def trimMatches (unwanted : Char → Bool) (cs : List Char) : List Char := trimChars unwanted cs

def splitOnce (separator : Char) (cs : List Char) : Option (List Char × List Char) :=
  if separator ∈ cs then
    some (cs.takeWhile (fun c => c ≠ separator),(cs.dropWhile (fun c => c ≠ separator)).drop 1)
  else none

def isAsciiDigit (c : Char) : Bool := '0' ≤ c && c ≤ '9'

def isAsciiAlphanumeric (c : Char) : Bool :=
  isAsciiDigit c || ('a' ≤ c && c ≤ 'z') || ('A' ≤ c && c ≤ 'Z')

def digitsValue (cs : List Char) : Nat :=
  cs.foldl (fun value c => value * 10 + (c.toNat - '0'.toNat)) 0

/-- `parse` of an unsigned integer of so many bits: digits after an optional plus sign. -/
def parseUnsigned (bits : Nat) (cs : List Char) : Option Nat :=
  let digits := if cs.head? = some '+' then cs.drop 1 else cs
  if digits ≠ [] ∧ digits.all isAsciiDigit ∧ digitsValue digits < 2 ^ bits then
    some (digitsValue digits)
  else none

end Text
