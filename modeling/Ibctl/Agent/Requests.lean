import Ibctl.Lib.JsonText

/-! The bodies of the requests that the client sends to the agent, and the text `serde_json` writes
for them. -/
namespace Ibctl.Agent

inductive BodyValue where
  | string (text : String)
  | number (n : Nat)
deriving DecidableEq, Repr

abbrev Member := String × BodyValue

/-- What the agent is asked for in a window, as far as it has a body. -/
inductive Request where
  | clickButton (label : String)
  | typeText (fieldIndex : Nat) (text : String)
  | typeTextByLabel (label text : String)
  | typeTextBest (text : String)
  | clickMenu (menuPath : String)
  | setCheckbox (label : String) (state : Option Bool)
  | setCombobox (label item : String)
  | selectListItem (itemText : String)
  | clickAt (x y : Int)
  | selectTreeNode (nodeName : String)
  | sendKey (key : String)
deriving DecidableEq, Repr

def hints : String :=
  "security code|authentication code|verification code|one-time code|passcode|otp|code"

namespace Request

def body : Request → List Member
  | .clickButton label => [("label",.string label)]
  | .typeText fieldIndex text => [("fieldIndex",.number fieldIndex),("text",.string text)]
  | .typeTextByLabel label text => [("label",.string label),("text",.string text)]
  | .typeTextBest text => [("text",.string text),("hints",.string hints)]
  | .clickMenu menuPath => [("path",.string menuPath)]
  | .setCheckbox label (some state) => [("label",.string label),("state",.string (toString state))]
  | .setCheckbox label none => [("label",.string label)]
  | .setCombobox label item => [("label",.string label),("item",.string item)]
  | .selectListItem itemText => [("item",.string itemText)]
  | .clickAt x y => [("x",.string (toString x)),("y",.string (toString y))]
  | .selectTreeNode nodeName => [("node",.string nodeName)]
  | .sendKey key => [("key",.string key)]

/-- The fields `route` reads for it. -/
def fields : Request → List String
  | .clickButton _ => ["label"]
  | .typeText .. => ["fieldIndex","text"]
  | .typeTextByLabel .. => ["label","text"]
  | .typeTextBest _ => ["text","hints"]
  | .clickMenu _ => ["path"]
  | .setCheckbox .. => ["label","state"]
  | .setCombobox .. => ["label","item"]
  | .selectListItem _ => ["item"]
  | .clickAt .. => ["x","y"]
  | .selectTreeNode _ => ["node"]
  | .sendKey _ => ["key"]

end Request

section Writing

def escapeChar (c : Char) : List Char :=
  match Json.shortEscapes.find? (fun pair => pair.2 = c) with
  | some (letter,_) => ['\\',letter]
  | none => if c.toNat < 0x20 then Json.escape c.toNat else [c]

def quote (text : String) : List Char := '"' :: text.toList.flatMap escapeChar ++ ['"']

def BodyValue.write : BodyValue → List Char
  | .string text => quote text
  | .number n => Decimal.write n

def writeMember (m : Member) : List Char := quote m.1 ++ ':' :: m.2.write

/-- The text of an object with its members in this order. -/
def writeBody (members : List Member) : List Char :=
  '{' :: List.intercalate [','] (members.map writeMember) ++ ['}']

/-- The argument a member carries. -/
def BodyValue.argument : BodyValue → String
  | .string text => text
  | .number n => String.ofList (Decimal.write n)

end Writing

end Ibctl.Agent
