import Ibctl.Agent.ActionResults
import Ibctl.Agent.JsonField

/-! The lines of the agent's event stream and its list of windows, as the texts that `MultiplexedServer`
and `SwingInspector` put together from the windows of AWT. -/
namespace Ibctl.Agent
open JsonGrammar

section Windows

structure Rectangle where
  x : Int32
  y : Int32
  width : Int32
  height : Int32
deriving DecidableEq, Repr

/-- What the stream looks at in a component. A button is any `AbstractButton`, be it a `JButton` or
not; the items of a list are what `toString` makes of them. -/
inductive Component where
  | textField
  | passwordField
  | button (isJButton : Bool) (text : Option JavaText)
  | list (items : List (Option JavaText))
  | label (text : Option JavaText)
  | other
deriving DecidableEq, Repr

/-- Only a dialog may have no title. -/
inductive WindowKind where
  | frame (title : JavaText)
  | dialog (title : Option JavaText) (modal : Bool)
  | window
deriving DecidableEq, Repr

/-- A window of AWT with its components in the order of `collectComponents`. An identity hash has 31
bits, and Java counts components in an `int`. -/
structure AwtWindow where
  identityHash : Fin (2 ^ 31)
  kind : WindowKind
  className : JavaText
  bounds : Rectangle
  components : List Component
  components_lt : components.length < 2 ^ 31
  showing : Bool
deriving DecidableEq, Repr

variable (w : AwtWindow)

def getWindowTitle : Option JavaText :=
  match w.kind with
  | .frame title => some title
  | .dialog title _ => title
  | .window => some []

def findButton (text : String) : Bool :=
  w.components.any fun component =>
    match component with
    | .button _ label => label = some (ascii text)
    | _ => false

def hasLoginButton : Bool := findButton w "Login" || findButton w "Log In" || findButton w "Paper Log In"

end Windows

section Messages

/-- What a line tells. -/
inductive StreamMessage where
  | snapshot (windows : List AwtWindow)
  | windowOpened (w : AwtWindow)
  | windowClosed (w : AwtWindow)
  | loginFormReady (w : AwtWindow) (textFieldCount passwordFieldCount : Nat)
      (loginButton selectedMode : Option JavaText)
  | twofaPrompt (w : AwtWindow) (promptType : String) (devices : List JavaText)
  | errorDialog (w : AwtWindow) (title : JavaText) (message : Option JavaText) (buttons : List JavaText)
  | connectionStatusChanged (prev status : String)

-- `toLowerCase` is that of `String` in the locale of the JVM.
variable (toLowerCase : JavaText → JavaText) (w : AwtWindow)

/-- The last label that looks like the one of a login button. -/
def loginButtonLabel (components : List Component) : Option JavaText :=
  (components.filterMap fun component =>
    match component with
    | .button _ (some text) =>
      if contains (toLowerCase text) "log in" || toLowerCase text = ascii "login" then some text else none
    | _ => none).getLast?

/-- A radio button is an `AbstractButton`, so the branch that reads the selected mode is not reached. -/
def emitLoginFormEvent : List StreamMessage :=
  let textFieldCount := w.components.count .textField
  let passwordFieldCount := w.components.count .passwordField
  let label := loginButtonLabel toLowerCase w.components
  if textFieldCount = 0 ∧ passwordFieldCount = 0 ∧ label = none then []
  else [.loginFormReady w textFieldCount passwordFieldCount label none]

def emitTwofaEvent : List StreamMessage :=
  let promptType := w.components.foldl (fun promptType component =>
    match component with
    | .list _ => "device_selection"
    | .textField | .passwordField => "code_entry"
    | _ => promptType) "challenge"
  let devices := w.components.flatMap fun component =>
    match component with
    | .list items => items.reduceOption
    | _ => []
  [.twofaPrompt w promptType devices]

/-- Every label once, as long as it has more than three units. -/
def messagesOf (components : List Component) : List JavaText :=
  components.foldl (fun messages component =>
    match component with
    | .label (some text) => if 3 < text.length ∧ text ∉ messages then messages ++ [text] else messages
    | _ => messages) []

def buttonsOf (components : List Component) : List JavaText :=
  components.filterMap fun component =>
    match component with
    | .button true (some text) => if text = [] then none else some text
    | _ => none

/-- `String.join` with a blank. -/
def joinBlank : List JavaText → JavaText
  | [] => []
  | first :: rest => first ++ rest.flatMap fun text => ascii " " ++ text

def emitErrorDialogEvent (title : JavaText) : List StreamMessage :=
  let messages := messagesOf w.components
  let buttons := buttonsOf w.components
  if messages = [] ∧ buttons = [] then []
  else [.errorDialog w title (if messages = [] then none else some (joinBlank messages)) buttons]

def isTwofaTitle (titleLower : JavaText) : Bool :=
  ["second factor","two-factor","2fa","security code","ib key authenticat","ibkr mobile authenticat",
    "mobile authenticator","verification code","one-time password","one time password","passcode",
    "authentication challenge"].any (contains titleLower)

def isErrorDialog (titleLower : JavaText) : Bool :=
  match w.kind with
  | .dialog _ modal => modal || ["error","warning","failed","connection"].any (contains titleLower)
  | _ => false

/-- The semantic events of a window with this title. -/
def emitSemanticEvents (title : JavaText) : List StreamMessage :=
  let titleLower := toLowerCase title
  (if contains titleLower "ib gateway" || contains titleLower "ibkr gateway" then emitLoginFormEvent toLowerCase w
    else []) ++
  (if isTwofaTitle titleLower then emitTwofaEvent w else []) ++
  (if isErrorDialog w titleLower then emitErrorDialogEvent w title else [])

/-- What a call has put into the queue, and whether it ends in an exception. -/
structure Emission where
  messages : List StreamMessage
  throws : Bool

/-- `windowOpened`: behind the first line it takes the title to lower case, null or not. -/
def emitWindowOpened : Emission :=
  match getWindowTitle w with
  | none => ⟨[.windowOpened w],true⟩
  | some title => ⟨.windowOpened w :: emitSemanticEvents toLowerCase w title,false⟩

def emitWindowClosed : Emission := ⟨[.windowClosed w],false⟩

end Messages

section Texts

/-- The number and the time of a line, in a `long` each. -/
structure Stamp where
  seq : Fin (2 ^ 63)
  ts : Fin (2 ^ 63)
deriving DecidableEq, Repr

def ofNat (n : Nat) : JavaText := ofInt n

/-- Items with commas between them. -/
def separated : List JavaText → JavaText
  | [] => []
  | first :: rest => first ++ rest.flatMap fun item => ascii "," ++ item

def appendBounds (w : AwtWindow) : JavaText :=
  ascii ",\"bounds\":\x7b\"x\":" ++ ofInt w.bounds.x.toInt ++ ascii ",\"y\":" ++ ofInt w.bounds.y.toInt ++
    ascii ",\"width\":" ++ ofInt w.bounds.width.toInt ++ ascii ",\"height\":" ++ ofInt w.bounds.height.toInt ++
    ascii "\x7d"

def snapshotWindow (w : AwtWindow) : JavaText :=
  ascii "\x7b\"window_id\":" ++ ofNat w.identityHash ++ ascii ",\"window_title\":" ++ jsonString (getWindowTitle w) ++
    ascii ",\"window_class\":" ++ jsonString (some w.className) ++ ascii ",\"has_login_button\":" ++
    ofBool (hasLoginButton w) ++ appendBounds w ++ ascii "\x7d"

/-- The elements of an array of strings. -/
def textElements (values : List JavaText) : JavaText := separated (values.map fun value => jsonString (some value))

/-- The line of a message. -/
def StreamMessage.line (stamp : Stamp) : StreamMessage → JavaText
  | snapshot windows =>
    ascii "\x7b\"type\":\"snapshot\"" ++ ascii ",\"seq\":" ++ ofNat stamp.seq ++ ascii ",\"windows\":[" ++
      separated (windows.map snapshotWindow) ++ ascii "]" ++ ascii ",\"ts\":" ++ ofNat stamp.ts ++ ascii "\x7d"
  | windowOpened w =>
    ascii "\x7b\"type\":\"window_opened\"" ++ ascii ",\"seq\":" ++ ofNat stamp.seq ++ ascii ",\"window_id\":" ++
      ofNat w.identityHash ++ ascii ",\"window_title\":" ++ jsonString (getWindowTitle w) ++
      ascii ",\"window_class\":" ++ jsonString (some w.className) ++ ascii ",\"has_login_button\":" ++
      ofBool (hasLoginButton w) ++ appendBounds w ++ ascii ",\"ts\":" ++ ofNat stamp.ts ++ ascii "\x7d"
  | windowClosed w =>
    ascii "\x7b\"type\":\"window_closed\"" ++ ascii ",\"seq\":" ++ ofNat stamp.seq ++ ascii ",\"window_id\":" ++
      ofNat w.identityHash ++ ascii ",\"window_title\":" ++ jsonString (getWindowTitle w) ++ ascii ",\"ts\":" ++
      ofNat stamp.ts ++ ascii "\x7d"
  | loginFormReady w textFieldCount passwordFieldCount loginButton selectedMode =>
    ascii "\x7b\"type\":\"login_form_ready\"" ++ ascii ",\"seq\":" ++ ofNat stamp.seq ++ ascii ",\"window_id\":" ++
      ofNat w.identityHash ++ ascii ",\"text_field_count\":" ++ ofNat textFieldCount ++
      ascii ",\"password_field_count\":" ++ ofNat passwordFieldCount ++ ascii ",\"login_button\":" ++
      jsonString loginButton ++ ascii ",\"selected_mode\":" ++ jsonString selectedMode ++ ascii ",\"ts\":" ++
      ofNat stamp.ts ++ ascii "\x7d"
  | twofaPrompt w promptType devices =>
    ascii "\x7b\"type\":\"twofa_prompt\"" ++ ascii ",\"seq\":" ++ ofNat stamp.seq ++ ascii ",\"window_id\":" ++
      ofNat w.identityHash ++ ascii ",\"prompt_type\":" ++ jsonString (some (javaString promptType.toList)) ++
      ascii ",\"devices\":[" ++ textElements devices ++ ascii "]" ++ ascii ",\"ts\":" ++ ofNat stamp.ts ++ ascii "\x7d"
  | errorDialog w title message buttons =>
    ascii "\x7b\"type\":\"error_dialog\"" ++ ascii ",\"seq\":" ++ ofNat stamp.seq ++ ascii ",\"window_id\":" ++
      ofNat w.identityHash ++ ascii ",\"window_title\":" ++ jsonString (some title) ++ ascii ",\"message\":" ++
      jsonString message ++ ascii ",\"buttons\":[" ++ textElements buttons ++ ascii "]" ++ ascii ",\"ts\":" ++
      ofNat stamp.ts ++ ascii "\x7d"
  | connectionStatusChanged prev status =>
    ascii "\x7b\"type\":\"connection_status_changed\"" ++ ascii ",\"seq\":" ++ ofNat stamp.seq ++ ascii ",\"from\":" ++
      jsonString (some (javaString prev.toList)) ++ ascii ",\"to\":" ++ jsonString (some (javaString status.toList)) ++ ascii ",\"ts\":" ++
      ofNat stamp.ts ++ ascii "\x7d"

def listedWindow (w : AwtWindow) : JavaText :=
  ascii "\x7b" ++ ascii "\"id\":" ++ ofNat w.identityHash ++ ascii ",\"title\":" ++ jsonString (getWindowTitle w) ++
    ascii ",\"class\":" ++ jsonString (some w.className) ++ ascii ",\"bounds\":\x7b" ++ ascii "\"x\":" ++
    ofInt w.bounds.x.toInt ++ ascii ",\"y\":" ++ ofInt w.bounds.y.toInt ++ ascii ",\"width\":" ++
    ofInt w.bounds.width.toInt ++ ascii ",\"height\":" ++ ofInt w.bounds.height.toInt ++ ascii "\x7d\x7d"

def listWindows (windows : List AwtWindow) : JavaText :=
  ascii "[" ++ separated ((windows.filter (·.showing)).map listedWindow) ++ ascii "]"

def wrapOk (data : JavaText) : JavaText :=
  ascii "\x7b\"ok\":true,\"data\":" ++ data ++ ascii ",\"error\":null\x7d"

/-- The reply to a request for `/windows`. -/
def windowsReply (windows : List AwtWindow) : JavaText := wrapOk (listWindows windows)

end Texts

section Lines

/-- No unit of the text is a control character. -/
def Printed (text : JavaText) : Prop := ∀ u ∈ text, 0x20 ≤ u

theorem printed_append {s t : JavaText} : Printed (s ++ t) ↔ Printed s ∧ Printed t := List.forall_mem_append

theorem printed_ascii {literal : String} (visible : (ascii literal).all (fun u => decide (0x20 ≤ u)) = true) :
    Printed (ascii literal) := fun u among => of_decide_eq_true (List.all_eq_true.mp visible u among)

theorem escapeUnit_far {u : Nat} (far : 0x80 ≤ u) : escapeUnit u = [u] := by
  have quote : '"'.toNat = 34 := rfl
  have slash : '\\'.toNat = 92 := rfl
  unfold escapeUnit
  rw [if_neg (by omega),if_neg (by omega),if_neg (by omega),if_neg (by omega),if_neg (by omega),if_neg (by omega),
    if_neg (by omega),if_neg (by omega)]

theorem printed_escapeUnit (u : Nat) : Printed (escapeUnit u) := by
  by_cases low : u < 0x80
  · have all : ∀ n < 0x80, ∀ v ∈ escapeUnit n, 0x20 ≤ v := by decide +kernel
    exact all u low
  · rw [escapeUnit_far (by omega)]
    intro v among
    rw [List.mem_singleton.mp among]
    omega

theorem printed_jsonString (text : Option JavaText) : Printed (jsonString text) := by
  cases text with
  | none => exact printed_ascii rfl
  | some value =>
    have escaped : Printed (escapeJson value) := fun v among => by
      obtain ⟨u,-,found⟩ := List.mem_flatMap.mp among
      exact printed_escapeUnit u v found
    exact printed_append.mpr ⟨printed_append.mpr ⟨printed_ascii rfl,escaped⟩,printed_ascii rfl⟩

theorem printed_ofInt (n : Int) : Printed (ofInt n) := fun u among => by
  rcases mem_writeInt among with dash | digit
  · have unit : '-'.toNat = 45 := rfl
    omega
  · have zero : '0'.toNat = 48 := rfl
    omega

theorem printed_ofNat (n : Nat) : Printed (ofNat n) := printed_ofInt n

theorem printed_ofBool (b : Bool) : Printed (ofBool b) := by
  cases b
  · exact printed_ascii rfl
  · exact printed_ascii rfl

theorem printed_separated {α : Type} {text : α → JavaText} (printed : ∀ a, Printed (text a)) (items : List α) :
    Printed (separated (items.map text)) := by
  cases items with
  | nil => exact fun _ among => absurd among List.not_mem_nil
  | cons first rest =>
    refine printed_append.mpr ⟨printed first,fun u among => ?_⟩
    obtain ⟨item,known,found⟩ := List.mem_flatMap.mp among
    obtain ⟨a,-,rfl⟩ := List.mem_map.mp known
    exact printed_append.mpr ⟨printed_ascii rfl,printed a⟩ u found

theorem printed_appendBounds (w : AwtWindow) : Printed (appendBounds w) := by
  unfold appendBounds
  simp (disch := decide) only [printed_append,printed_ofInt,printed_ascii,and_self]

theorem printed_snapshotWindow (w : AwtWindow) : Printed (snapshotWindow w) := by
  unfold snapshotWindow
  simp (disch := decide) only [printed_append,printed_ofNat,printed_jsonString,printed_ofBool,printed_appendBounds,
    printed_ascii,and_self]

/-- A line shows no control character, so it is one line. -/
theorem printed_line (m : StreamMessage) (stamp : Stamp) : Printed (m.line stamp) := by
  have texts (values : List JavaText) : Printed (textElements values) :=
    printed_separated (fun value => printed_jsonString (some value)) values
  cases m with
  | snapshot windows =>
    have each := printed_separated printed_snapshotWindow windows
    simp (disch := decide) only [StreamMessage.line,printed_append,printed_ofNat,each,printed_ascii,and_self]
  | windowOpened w =>
    simp (disch := decide) only [StreamMessage.line,printed_append,printed_ofNat,printed_jsonString,printed_ofBool,
      printed_appendBounds,printed_ascii,and_self]
  | twofaPrompt w promptType devices =>
    simp (disch := decide) only [StreamMessage.line,printed_append,printed_ofNat,printed_jsonString,texts,printed_ascii,
      and_self]
  | errorDialog w title message buttons =>
    simp (disch := decide) only [StreamMessage.line,printed_append,printed_ofNat,printed_jsonString,texts,printed_ascii,
      and_self]
  | windowClosed | loginFormReady | connectionStatusChanged =>
    simp (disch := decide) only [StreamMessage.line,printed_append,printed_ofNat,printed_jsonString,printed_ascii,and_self]

end Lines

end Ibctl.Agent
