import Ibctl.Lib.JsonGrammar

/-! What the actions of `SwingInspector` return, as the text of an object, and the envelope around
it. The envelope looks for the members of a failure by a search in the text. -/
namespace Ibctl.Agent
open JsonGrammar

section Writing

/-- A string of Java is its UTF-16 units; some of them may be surrogates without a partner. -/
abbrev JavaText := List Nat

def escapeUnit (u : Nat) : JavaText :=
  if u = '"'.toNat then ascii "\\\""
  else if u = '\\'.toNat then ascii "\\\\"
  else if u = 8 then ascii "\\b"
  else if u = 12 then ascii "\\f"
  else if u = 10 then ascii "\\n"
  else if u = 13 then ascii "\\r"
  else if u = 9 then ascii "\\t"
  else if u < 0x20 then ascii "\\u00" ++ [hexUnit (u / 16),hexUnit (u % 16)]
  else [u]
where
  hexUnit (digit : Nat) : Nat := if digit < 10 then '0'.toNat + digit else 'a'.toNat + (digit - 10)

def escapeJson (s : JavaText) : JavaText := s.flatMap escapeUnit

/-- A null becomes the JSON null. -/
def jsonString : Option JavaText → JavaText
  | none => ascii "null"
  | some value => ascii "\"" ++ escapeJson value ++ ascii "\""

def ofBool (b : Bool) : JavaText := ascii (if b then "true" else "false")

def ofInt (n : Int) : JavaText := (Decimal.writeInt n).map Char.toNat

/-- The concatenation of a text and a message that may be null. -/
def withMessage (text : String) (message : Option JavaText) : JavaText := ascii text ++ message.getD (ascii "null")

end Writing

section Actions

/-- An action in a window, with the texts of its request. -/
inductive Action where
  | captureWindowScreenshot
  | clickButton (label : JavaText)
  | typeText (fieldIndex : Int)
  | typeTextByLabel (label : JavaText)
  | typeTextBest
  | clickAt (x y : Int)
  | selectListItem (itemText : JavaText)
  | sendKey (keyStroke : JavaText)
  | clickMenu (menuPath : JavaText)
  | setCheckBox (label : JavaText) (desiredState : Option Bool)
  | setComboBox (label itemText : JavaText)
  | selectTreeNode (nodePath : JavaText)

/-- Nothing was found: a text of the source, and one of the request behind it. -/
def notFound (message : String) (text : JavaText) : JavaText :=
  ascii "\x7b\"found\":false,\"error\":\"" ++ ascii message ++ escapeJson text ++ ascii "\"\x7d"

/-- It was found, and an exception came in between. -/
def interrupted (step : String) (message : Option JavaText) : JavaText :=
  ascii "\x7b\"found\":true,\"" ++ ascii step ++ ascii "\":false,\"error\":" ++ jsonString message ++ ascii "\x7d"

def failed (message : Option JavaText) : JavaText :=
  ascii "\x7b\"found\":true,\"error\":" ++ jsonString message ++ ascii "\x7d"

/-- The texts that an action may return. Which of them it is, and the texts of the UI in it, are
up to the window. -/
inductive Returns : Action → JavaText → Prop
  | screenshotWindow : Returns .captureWindowScreenshot (ascii "\x7b\"error\":\"Window not found\"\x7d")
  | screenshotBounds : Returns .captureWindowScreenshot (ascii "\x7b\"error\":\"Window has empty bounds\"\x7d")
  | screenshot (width height : Int) (pngBase64 : JavaText) :
      Returns .captureWindowScreenshot
        (ascii "\x7b\"format\":\"png\"" ++ ascii ",\"width\":" ++ ofInt width ++ ascii ",\"height\":" ++
          ofInt height ++ ascii ",\"png_base64\":" ++ jsonString (some pngBase64) ++ ascii "\x7d")
  | screenshotFailed (message : Option JavaText) :
      Returns .captureWindowScreenshot (ascii "\x7b\"error\":" ++ jsonString message ++ ascii "\x7d")
  | buttonMissing (label : JavaText) : Returns (.clickButton label) (notFound "Button not found: " label)
  | buttonClicked (label : JavaText) :
      Returns (.clickButton label) (ascii "\x7b\"found\":true,\"clicked\":true\x7d")
  | fieldMissing (fieldIndex : Int) :
      Returns (.typeText fieldIndex)
        (ascii "\x7b\"found\":false,\"error\":\"TextField not found at index: " ++ ofInt fieldIndex ++ ascii "\"\x7d")
  | fieldTyped (fieldIndex : Int) :
      Returns (.typeText fieldIndex) (ascii "\x7b\"found\":true,\"typed\":true\x7d")
  | fieldInterrupted (fieldIndex : Int) (message : Option JavaText) :
      Returns (.typeText fieldIndex) (interrupted "typed" message)
  | labelledWindow (label : JavaText) : Returns (.typeTextByLabel label) (notFound "Window not found" [])
  | labelledNone (label : JavaText) : Returns (.typeTextByLabel label) (notFound "No text field found" [])
  | labelledMissing (label : JavaText) :
      Returns (.typeTextByLabel label) (notFound "TextField not found near label: " label)
  | labelledTyped (label : JavaText) (matchedLabel : Option JavaText) :
      Returns (.typeTextByLabel label)
        (ascii "\x7b\"found\":true,\"typed\":true,\"label\":" ++ jsonString matchedLabel ++ ascii "\x7d")
  | labelledInterrupted (label : JavaText) (message : Option JavaText) :
      Returns (.typeTextByLabel label) (interrupted "typed" message)
  | bestWindow : Returns .typeTextBest (notFound "Window not found" [])
  | bestNone : Returns .typeTextBest (notFound "No visible editable text field found" [])
  | bestMissing : Returns .typeTextBest (notFound "No suitable text field found" [])
  | bestTyped (verified : Bool) (selectedIndex bestScore : Int) (bestMetadata : JavaText) :
      Returns .typeTextBest
        (ascii "\x7b\"found\":true" ++ ascii ",\"typed\":" ++ ofBool verified ++ ascii ",\"fieldIndex\":" ++
          ofInt selectedIndex ++ ascii ",\"score\":" ++ ofInt bestScore ++ ascii ",\"selector\":" ++
          jsonString (some (ascii (if bestMetadata = [] then "single-editable-field" else "semantic-metadata"))) ++
          ascii "\x7d")
  | bestInterrupted (message : Option JavaText) : Returns .typeTextBest (interrupted "typed" message)
  | atWindow (x y : Int) : Returns (.clickAt x y) (notFound "Window not found" [])
  | atClicked (x y : Int) :
      Returns (.clickAt x y)
        (ascii "\x7b\"found\":true,\"clicked\":true,\"x\":" ++ ofInt x ++ ascii ",\"y\":" ++ ofInt y ++ ascii "\x7d")
  | listWindow (itemText : JavaText) : Returns (.selectListItem itemText) (notFound "Window not found" [])
  | listNone (itemText : JavaText) : Returns (.selectListItem itemText) (notFound "No JList found in window" [])
  | listSelected (itemText : JavaText) (index : Int) (text : JavaText) :
      Returns (.selectListItem itemText)
        (ascii "\x7b\"found\":true,\"index\":" ++ ofInt index ++ ascii ",\"text\":" ++ jsonString (some text) ++
          ascii "\x7d")
  | listMissing (itemText : JavaText) :
      Returns (.selectListItem itemText) (notFound "List item not found: " itemText)
  | keyWindow (keyStroke : JavaText) : Returns (.sendKey keyStroke) (notFound "Window not found" [])
  | keyInvalid (keyStroke : JavaText) :
      Returns (.sendKey keyStroke)
        (ascii "\x7b\"found\":true,\"sent\":false,\"error\":\"Invalid keystroke: " ++ escapeJson keyStroke ++
          ascii "\"\x7d")
  | keySent (keyStroke : JavaText) : Returns (.sendKey keyStroke) (ascii "\x7b\"found\":true,\"sent\":true\x7d")
  | keyInterrupted (keyStroke : JavaText) (message : Option JavaText) :
      Returns (.sendKey keyStroke) (interrupted "sent" message)
  | menuWindow (menuPath : JavaText) : Returns (.clickMenu menuPath) (notFound "Window not found" [])
  | menuFrame (menuPath : JavaText) :
      Returns (.clickMenu menuPath) (notFound "Window is not a JFrame (no menu bar)" [])
  | menuBar (menuPath : JavaText) : Returns (.clickMenu menuPath) (notFound "No menu bar found" [])
  | menuEmpty (menuPath : JavaText) : Returns (.clickMenu menuPath) (notFound "Empty menu path" [])
  | menuMissing (menuPath part : JavaText) : Returns (.clickMenu menuPath) (notFound "Menu not found: " part)
  | menuClicked (menuPath : JavaText) :
      Returns (.clickMenu menuPath) (ascii "\x7b\"found\":true,\"clicked\":true\x7d")
  | menuItemClicked (menuPath : JavaText) (item : Option JavaText) :
      Returns (.clickMenu menuPath)
        (ascii "\x7b\"found\":true,\"clicked\":true,\"item\":" ++ jsonString item ++ ascii "\x7d")
  | subMenuMissing (menuPath target : JavaText) :
      Returns (.clickMenu menuPath) (notFound "Sub-menu not found: " target)
  | menuItemMissing (menuPath : JavaText) :
      Returns (.clickMenu menuPath) (notFound "Menu item not found at end of path" [])
  | menuInterrupted (menuPath : JavaText) (message : Option JavaText) :
      Returns (.clickMenu menuPath) (interrupted "clicked" message)
  | boxWindow (label : JavaText) (desiredState : Option Bool) :
      Returns (.setCheckBox label desiredState) (notFound "Window not found" [])
  | boxFailed (label : JavaText) (desiredState : Option Bool) (message : Option JavaText) :
      Returns (.setCheckBox label desiredState) (failed (some (withMessage "Failed to read state: " message)))
  | boxRead (label text : JavaText) (currentState : Bool) (simpleName : JavaText) :
      Returns (.setCheckBox label none)
        (ascii "\x7b\"found\":true,\"label\":" ++ jsonString (some text) ++ ascii ",\"selected\":" ++
          ofBool currentState ++ ascii ",\"class\":" ++ jsonString (some simpleName) ++ ascii "\x7d")
  | boxSet (label text : JavaText) (desiredState currentState : Bool) (simpleName : JavaText) :
      Returns (.setCheckBox label (some desiredState))
        (ascii "\x7b\"found\":true,\"label\":" ++ jsonString (some text) ++ ascii ",\"selected\":" ++
          ofBool desiredState ++ ascii ",\"changed\":" ++ ofBool (currentState ≠ desiredState) ++
          ascii ",\"class\":" ++ jsonString (some simpleName) ++ ascii "\x7d")
  | boxMissing (label : JavaText) (desiredState : Option Bool) :
      Returns (.setCheckBox label desiredState) (notFound "Checkbox not found: " label)
  | comboWindow (label itemText : JavaText) :
      Returns (.setComboBox label itemText) (notFound "Window not found" [])
  | comboNone (label itemText : JavaText) :
      Returns (.setComboBox label itemText) (notFound "No combo box found" [])
  | comboMissing (label itemText : JavaText) :
      Returns (.setComboBox label itemText) (notFound "Combo box option not found: " itemText)
  | comboFailed (label itemText : JavaText) (message : Option JavaText) :
      Returns (.setComboBox label itemText) (failed (some (withMessage "Failed to select combo item: " message)))
  | comboSet (label itemText : JavaText) (matchedLabel : Option JavaText) (item : JavaText) (changed : Bool)
      (simpleName : JavaText) :
      Returns (.setComboBox label itemText)
        (ascii "\x7b\"found\":true" ++ ascii ",\"label\":" ++ jsonString matchedLabel ++ ascii ",\"item\":" ++
          jsonString (some item) ++ ascii ",\"changed\":" ++ ofBool changed ++ ascii ",\"class\":" ++
          jsonString (some simpleName) ++ ascii "\x7d")
  | treeWindow (nodePath : JavaText) : Returns (.selectTreeNode nodePath) (notFound "Window not found" [])
  | treeNone (nodePath : JavaText) :
      Returns (.selectTreeNode nodePath) (notFound "No JTree found in window" [])
  | treeSelected (nodePath : JavaText) (row : Int) (nodeText : JavaText) :
      Returns (.selectTreeNode nodePath)
        (ascii "\x7b\"found\":true,\"row\":" ++ ofInt row ++ ascii ",\"node\":" ++ jsonString (some nodeText) ++
          ascii "\x7d")
  | treeInterrupted (nodePath : JavaText) (message : Option JavaText) :
      Returns (.selectTreeNode nodePath) (failed message)
  | treeMissing (nodePath target : JavaText) :
      Returns (.selectTreeNode nodePath) (notFound "Tree node not found: " target)

end Actions

section Envelope

/-- `contains` of a Java string. -/
def contains (text : JavaText) (part : String) : Bool := text.tails.any (fun tail => (ascii part).isPrefixOf tail)

def actionSucceeded (result : JavaText) : Bool :=
  !contains result "\"found\":false" && !contains result "\"typed\":false" &&
    !contains result "\"sent\":false" && !contains result "\"clicked\":false" && !contains result "\"error\":"

def wrapActionResult (result : JavaText) : JavaText :=
  let ok := actionSucceeded result
  ascii "\x7b\"ok\":" ++ ofBool ok ++ ascii ",\"data\":" ++ result ++ ascii ",\"error\":" ++
    (if ok then ascii "null" else jsonString (some (ascii "Agent action failed"))) ++ ascii "\x7d"

end Envelope

end Ibctl.Agent
