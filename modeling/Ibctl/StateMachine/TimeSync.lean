import Ibctl.Lib.Text

/-! What the supervisor reads off the Gateway's texts about a rejected second factor: that
it was rejected, and the wait the server asks for. -/
namespace Ibctl.Machine
open Text

def isTwofaFailure (text : String) : Bool :=
  let lower := toAsciiLowercase text
  let authContext := ["security code","authentication code","verification code","2fa","two-factor",
    "second factor"].any (containsText lower)
  let failure := ["incorrect","invalid","failed","not valid","try again","retry"].any
    (containsText lower)
  authContext && failure

def saturatingAdd (a b : Nat) : Nat := min (a + b) (2 ^ 64 - 1)

def saturatingMul (a b : Nat) : Nat := min (a * b) (2 ^ 64 - 1)

def clockToken (token : List Char) : Option Nat :=
  match splitOnce ':' (trimMatches (fun c => !isAsciiDigit c && c ≠ ':') token) with
  | none => none
  | some (minutes,seconds) =>
    match parseUnsigned 64 minutes,parseUnsigned 64 seconds with
    | some m,some s => if s < 60 then some (min (saturatingAdd (saturatingMul m 60) s) 3600) else none
    | _,_ => none

/-- The sum of the durations among the words, and whether there was one. -/
def wordsDuration (total : Nat) (found : Bool) : List (List Char) → Nat × Bool
  | [] => (total,found)
  | word :: rest =>
    match parseUnsigned 64 word with
    | none => wordsDuration total found rest
    | some value =>
      let unit := rest.head?.getD []
      if "sec".toList.isPrefixOf unit then wordsDuration (saturatingAdd total value) true rest
      else if "min".toList.isPrefixOf unit then
        wordsDuration (saturatingAdd total (saturatingMul value 60)) true rest
      else wordsDuration total found rest

def segmentRetrySeconds (segment : List Char) : Option Nat :=
  let named := ["retry","try again","wait","attempt again","until retry"].any
    (fun needle => containsChars segment needle.toList)
  if !named then none
  else
    match (splitWhitespace segment).findSome? clockToken with
    | some seconds => some seconds
    | none =>
      let words := splitWhitespace (segment.map (fun c => if isAsciiAlphanumeric c then c else ' '))
      let (total,found) := wordsDuration 0 false words
      if found then some (min total 3600) else none

/-- Only a sentence with retry language is searched, and the first that names a duration
counts. -/
def parseRetrySeconds (text : String) : Option Nat :=
  ((toAsciiLowercase text).toList.splitOnP
    (fun c => c = '.' || c = '!' || c = '\n' || c = ';')).findSome? segmentRetrySeconds

end Ibctl.Machine
