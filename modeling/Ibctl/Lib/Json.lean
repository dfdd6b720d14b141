import Mathlib.Data.List.Basic

/-! JSON values as far as programs look into them. -/
inductive Json where
  | null
  | bool (b : Bool)
  | number (text : String)
  | string (s : String)
  | array (elements : List Json)
  | object (members : List (String × Json))
deriving Repr, Inhabited

namespace Json

def get (key : String) : Json → Option Json
  | object members => (members.find? (fun member => member.1 = key)).map Prod.snd
  | _ => none

def asArray : Json → Option (List Json)
  | array elements => some elements
  | _ => none

def asStr : Json → Option String
  | string s => some s
  | _ => none

def asBool : Json → Option Bool
  | bool b => some b
  | _ => none

mutual

/-- The strings inside a value in order, each kept or not by the nearest key above it. -/
def stringsAt (keep : Option String → String → Bool) (key : Option String) : Json → List String
  | string s => if keep key s then [s] else []
  | array elements => stringsOfElements keep key elements
  | object members => stringsOfMembers keep members
  | _ => []

def stringsOfElements (keep : Option String → String → Bool) (key : Option String) :
    List Json → List String
  | [] => []
  | element :: rest => stringsAt keep key element ++ stringsOfElements keep key rest

def stringsOfMembers (keep : Option String → String → Bool) : List (String × Json) → List String
  | [] => []
  | (key,value) :: rest => stringsAt keep (some key) value ++ stringsOfMembers keep rest

end

def strings (value : Json) : List String := stringsAt (fun _ _ => true) none value

end Json
