import Ibctl.Lib.Json
import Ibctl.StateMachine.Observation

/-! What the client makes of the documents of the agent: the schema of `agent_events` and of the list
of windows, as `serde` derives it. Further members are passed over, and a member of the wrong kind
rejects the whole document. -/
namespace Ibctl.Agent
open Machine (AgentEvent ObservedWindow WindowInfo WindowId Bounds)

section Primitives

/-- An unsigned integer of so many bits. -/
def readUnsigned (bits : Nat) : Json → Option Nat
  | .number text => Text.parseUnsigned bits text.toList
  | _ => none

/-- An `i32`. A zero with a sign is a float. -/
def readI32 : Json → Option Int
  | .number text =>
    match text.toList with
    | '-' :: digits =>
      (Text.parseUnsigned 64 digits).bind fun n => if 0 < n ∧ n ≤ 2 ^ 31 then some (-(n : Int)) else none
    | digits => (Text.parseUnsigned 31 digits).map Int.ofNat
  | _ => none

def readString : Json → Option String := Json.asStr

def readBool : Json → Option Bool := Json.asBool

def readVec {α : Type} (read : Json → Option α) (doc : Json) : Option (List α) := doc.asArray.bind (List.mapM read)

/-- A member that must be there. -/
def required {α : Type} (read : Json → Option α) (key : String) (doc : Json) : Option α := (doc.get key).bind read

/-- A member with a default. -/
def defaulted {α : Type} (read : Json → Option α) (default_ : α) (key : String) (doc : Json) : Option α :=
  match doc.get key with
  | none => some default_
  | some value => read value

/-- A value that may be null. -/
def readOption {α : Type} (read : Json → Option α) : Json → Option (Option α)
  | .null => some none
  | value => (read value).map some

/-- An `Option`: none when it is absent or null. -/
def optional {α : Type} (read : Json → Option α) (key : String) (doc : Json) : Option (Option α) :=
  defaulted (readOption read) none key doc

end Primitives

section Events

/-- `EventBounds`, which must be whole where they are. -/
structure EventBounds where
  x : Int
  y : Int
  width : Int
  height : Int
deriving DecidableEq, Repr

def readEventBounds (doc : Json) : Option EventBounds := do
  let x ← required readI32 "x" doc
  let y ← required readI32 "y" doc
  let width ← required readI32 "width" doc
  let height ← required readI32 "height" doc
  some ⟨x,y,width,height⟩

/-- A window of a snapshot, of which the client keeps no bounds. -/
def readSnapshotWindow (doc : Json) : Option ObservedWindow := do
  let windowId ← required (readUnsigned 64) "window_id" doc
  let windowTitle ← required readString "window_title" doc
  let windowClass ← required readString "window_class" doc
  let hasLoginButton ← required readBool "has_login_button" doc
  let _ ← optional readEventBounds "bounds" doc
  some ⟨windowId,windowTitle,windowClass,hasLoginButton⟩

/-- An event by its tag. -/
def readTagged (tag : String) (doc : Json) : Option AgentEvent :=
  if tag = "hello" then do
    let protocolVersion ← required (readUnsigned 32) "protocol_version" doc
    some (.hello protocolVersion)
  else if tag = "snapshot" then do
    let seq ← required (readUnsigned 64) "seq" doc
    let windows ← required (readVec readSnapshotWindow) "windows" doc
    some (.snapshot seq windows)
  else if tag = "window_opened" then do
    let seq ← required (readUnsigned 64) "seq" doc
    let windowId ← required (readUnsigned 64) "window_id" doc
    let windowTitle ← required readString "window_title" doc
    let windowClass ← required readString "window_class" doc
    let hasLoginButton ← required readBool "has_login_button" doc
    some (.windowOpened seq windowId windowTitle windowClass hasLoginButton)
  else if tag = "window_closed" then do
    let seq ← required (readUnsigned 64) "seq" doc
    let windowId ← required (readUnsigned 64) "window_id" doc
    let windowTitle ← required readString "window_title" doc
    some (.windowClosed seq windowId windowTitle)
  else if tag = "overflow" then some .overflow
  else if tag = "keepalive" then some .keepalive
  else if tag = "login_form_ready" then do
    let textFieldCount ← required (readUnsigned 32) "text_field_count" doc
    let passwordFieldCount ← required (readUnsigned 32) "password_field_count" doc
    let loginButton ← optional readString "login_button" doc
    let selectedMode ← optional readString "selected_mode" doc
    some (.loginFormReady textFieldCount passwordFieldCount loginButton selectedMode)
  else if tag = "twofa_prompt" then do
    let promptType ← required readString "prompt_type" doc
    let devices ← required (readVec readString) "devices" doc
    some (.twofaPrompt promptType devices)
  else if tag = "error_dialog" then do
    let windowTitle ← required readString "window_title" doc
    let message ← optional readString "message" doc
    let buttons ← required (readVec readString) "buttons" doc
    some (.errorDialog windowTitle message buttons)
  else if tag = "connection_status_changed" then do
    let prev ← required readString "from" doc
    let status ← required readString "to" doc
    some (.connectionStatusChanged prev status)
  else none

/-- `AgentEvent`, whose tag is the member `type`. -/
def readEvent (doc : Json) : Option AgentEvent := (required readString "type" doc).bind fun tag => readTagged tag doc

end Events

section WindowList

/-- `Bounds`, whose members default to zero. The positions are read and dropped. -/
def readBounds (doc : Json) : Option Bounds := do
  let _ ← defaulted readI32 0 "x" doc
  let _ ← defaulted readI32 0 "y" doc
  let width ← defaulted readI32 0 "width" doc
  let height ← defaulted readI32 0 "height" doc
  some ⟨width,height⟩

/-- `WindowInfo`. The class goes by either of two names, and the agent says nothing of `visible`. -/
def readWindowInfo (doc : Json) : Option WindowInfo := do
  let id ← required (readUnsigned 64) "id" doc
  let title ← required readString "title" doc
  let className ← if doc.get "class" = none then defaulted readString "" "class_name" doc else required readString "class" doc
  let bounds ← optional readBounds "bounds" doc
  let _ ← defaulted readBool false "visible" doc
  some ⟨⟨id⟩,title,className,bounds⟩

/-- `list_windows`: the data of the envelope when it says so, none for any error. -/
def readWindows (doc : Json) : Option (List WindowInfo) := do
  let ok ← required readBool "ok" doc
  let data ← optional (readVec readWindowInfo) "data" doc
  let _ ← optional readString "error" doc
  if ok then data else none

end WindowList

end Ibctl.Agent
