import Mathlib.Data.List.Basic
import Ibctl.Lib.Words

/-! The texts of the web: URLs, queries and forms, and the attributes of a page. Plain text stands
for itself in all of them. -/
namespace Web

/-- What an escape stands for; plain text has none. -/
structure Escapes where
  percent : Char → List Char
  unquote : List Char → List Char
  references : List Char → List Char

def isPlain (c : Char) : Bool := Text.isAsciiAlphanumeric c || c = '_' || c = '.' || c = '-'

def Plain (text : List Char) : Prop := ∀ c ∈ text, isPlain c = true

section Attributes

/-- The quotes are escaped too, as in the value of an attribute. -/
def htmlEscape (text : List Char) : List Char :=
  text.flatMap fun c =>
    if c = '&' then "&amp;".toList else if c = '<' then "&lt;".toList
    else if c = '>' then "&gt;".toList else if c = '"' then "&quot;".toList
    else if c = Char.ofNat 0x27 then "&#x27;".toList else [c]

variable (escapes : Escapes)

/-- What the value of an attribute stands for. -/
def attributeText (value : List Char) : List Char :=
  if '&' ∈ value then escapes.references value else value

end Attributes

section Forms

variable (escapes : Escapes)

def formText (text : List Char) : List Char :=
  text.flatMap fun c =>
    if isPlain c || c = '*' then [c] else if c = ' ' then ['+'] else escapes.percent c

/-- `application/x-www-form-urlencoded`. -/
def formEncode (fields : List (List Char × List Char)) : List Char :=
  ['&'].intercalate (fields.map fun field => formText escapes field.1 ++ '=' :: formText escapes field.2)

def unquotePlus (text : List Char) : List Char :=
  let spaced := text.map fun c => if c = '+' then ' ' else c
  if '%' ∈ spaced then escapes.unquote spaced else spaced

/-- `parse_qsl` with its blank values kept. -/
def parseQsl (text : List Char) : List (List Char × List Char) :=
  ((text.splitOn '&').filter (· ≠ [])).map fun field =>
    match Text.splitOnce '=' field with
    | none => (unquotePlus escapes field,[])
    | some (name,value) => (unquotePlus escapes name,unquotePlus escapes value)

/-- The last of several values counts. -/
def valueOf (fields : List (List Char × List Char)) (name : List Char) : List Char :=
  (fields.reverse.lookup name).getD []

end Forms

section Urls

def isSchemeChar (c : Char) : Bool := Text.isAsciiAlphanumeric c || c = '+' || c = '-' || c = '.'

def isAuthorityChar (c : Char) : Bool := c ≠ '/' && c ≠ '?' && c ≠ '#'

/-- The scheme and the authority of an absolute URL. -/
def originOf (url : List Char) : Option (List Char) :=
  match Text.splitOnce ':' url with
  | some (scheme,'/' :: '/' :: rest) =>
    if scheme.all isSchemeChar then some (scheme ++ ':' :: '/' :: '/' :: rest.takeWhile isAuthorityChar)
    else none
  | _ => none

/-- The path and the query that are asked for below a base URL; a fragment is not sent. -/
def targetBelow (baseUrl url : List Char) : Option (List Char × List Char) :=
  let sent := url.takeWhile (· ≠ '#')
  if baseUrl ++ ['/'] <+: sent then
    let target := sent.drop baseUrl.length
    some ((Text.splitOnce '?' target).getD (target,[]))
  else none

end Urls

section Plain

theorem isPlain_ne {c other : Char} (plain : isPlain c = true) (special : isPlain other = false) :
    c ≠ other := by
  rintro rfl
  rw [plain] at special
  cases special

variable {escapes : Escapes} {text : List Char}

theorem plain_of_all (all : text.all isPlain = true) : Plain text := List.all_eq_true.mp all

theorem Plain.not_mem (plain : Plain text) {c : Char} (special : isPlain c = false) : c ∉ text :=
  fun among => isPlain_ne (plain c among) special rfl

theorem flatMap_self {f : Char → List Char} (same : ∀ c ∈ text, f c = [c]) : text.flatMap f = text := by
  rw [List.flatMap_congr same,List.flatMap_singleton']

theorem htmlEscape_plain (plain : Plain text) : htmlEscape text = text := by
  refine flatMap_self fun c among => ?_
  have other {special : Char} : isPlain special = false → c ≠ special := isPlain_ne (plain c among)
  rw [if_neg (other rfl),if_neg (other rfl),if_neg (other rfl),if_neg (other rfl),if_neg (other rfl)]

theorem attributeText_plain (plain : Plain text) :
    attributeText escapes (htmlEscape text) = text := by
  unfold attributeText
  rw [htmlEscape_plain plain,if_neg (plain.not_mem rfl)]

theorem formText_plain (plain : Plain text) : formText escapes text = text := by
  refine flatMap_self fun c among => ?_
  simp only [plain c among,Bool.true_or,if_true]

theorem unquotePlus_plain (plain : Plain text) : unquotePlus escapes text = text := by
  have kept : text.map (fun c => if c = '+' then ' ' else c) = text := by
    have each : ∀ c ∈ text, (if c = '+' then ' ' else c) = id c := fun c among =>
      if_neg (isPlain_ne (plain c among) rfl)
    rw [List.map_congr_left each,List.map_id]
  unfold unquotePlus
  rw [kept]
  exact if_neg (plain.not_mem rfl)

theorem parseField_plain {name value : List Char} (plain : Plain name) (worth : Plain value) :
    (match Text.splitOnce '=' (name ++ '=' :: value) with
      | none => (unquotePlus escapes (name ++ '=' :: value),[])
      | some (name,value) => (unquotePlus escapes name,unquotePlus escapes value)) = (name,value) := by
  rw [Text.splitOnce_found (plain.not_mem rfl)]
  simp only [unquotePlus_plain plain,unquotePlus_plain worth]

/-- Two fields with plain names and values are read as they are written. -/
theorem parseQsl_pair {name value name' value' : List Char} (plain : Plain name) (plain' : Plain name')
    (worth : Plain value) (worth' : Plain value') :
    parseQsl escapes (name ++ '=' :: value ++ '&' :: (name' ++ '=' :: value')) =
      [(name,value),(name',value')] := by
  have joined : name ++ '=' :: value ++ '&' :: (name' ++ '=' :: value') =
      ['&'].intercalate [name ++ '=' :: value,name' ++ '=' :: value'] := by
    simp [List.intercalate]
  have whole : ∀ field ∈ [name ++ '=' :: value,name' ++ '=' :: value'], '&' ∉ field := by
    intro field among
    simp only [List.mem_cons,List.not_mem_nil,or_false] at among
    rcases among with rfl | rfl
    · simp [@Plain.not_mem _ plain '&' rfl,@Plain.not_mem _ worth '&' rfl]
    · simp [@Plain.not_mem _ plain' '&' rfl,@Plain.not_mem _ worth' '&' rfl]
  unfold parseQsl
  rw [joined,List.splitOn_intercalate '&' whole (by simp),List.filter_eq_self.mpr (by simp)]
  simp only [List.map_cons,List.map_nil]
  rw [parseField_plain plain worth,parseField_plain plain' worth']

theorem formEncode_pair {name value name' value' : List Char} (plain : Plain name) (plain' : Plain name')
    (worth : Plain value) (worth' : Plain value') :
    formEncode escapes [(name,value),(name',value')] =
      name ++ '=' :: value ++ '&' :: (name' ++ '=' :: value') := by
  unfold formEncode
  simp [List.intercalate,formText_plain plain,formText_plain plain',formText_plain worth,
    formText_plain worth']

end Plain

section Origins

theorem originOf_append {scheme authority rest : List Char} (named : scheme.all isSchemeChar = true)
    (holds : authority.all isAuthorityChar = true)
    (ends : ∀ c more, rest = c :: more → isAuthorityChar c = false) :
    originOf (scheme ++ ':' :: '/' :: '/' :: (authority ++ rest)) =
      some (scheme ++ ':' :: '/' :: '/' :: authority) := by
  have free : ':' ∉ scheme := fun among =>
    absurd (List.all_eq_true.mp named ':' among) (by decide)
  have stops : rest.takeWhile isAuthorityChar = [] := by
    cases rest with
    | nil => rfl
    | cons c more => exact List.takeWhile_cons_of_neg (by simp [ends c more rfl])
  unfold originOf
  rw [Text.splitOnce_found free]
  show (if scheme.all isSchemeChar = true then
    some (scheme ++ ':' :: '/' :: '/' :: (authority ++ rest).takeWhile isAuthorityChar) else none) = _
  rw [if_pos named,List.takeWhile_append_of_pos (List.all_eq_true.mp holds),stops,List.append_nil]

/-- What is found is a scheme and an authority, and ends where the authority does. -/
theorem originOf_eq {url origin : List Char} (found : originOf url = some origin) :
    ∃ scheme authority rest, scheme.all isSchemeChar = true ∧ authority.all isAuthorityChar = true ∧
      origin = scheme ++ ':' :: '/' :: '/' :: authority ∧ url = origin ++ rest := by
  unfold originOf at found
  split at found
  next scheme rest parts =>
    split at found
    next named =>
      cases found
      have whole : url = scheme ++ ':' :: '/' :: '/' :: rest := (Text.splitOnce_some parts).1
      refine ⟨scheme,rest.takeWhile isAuthorityChar,rest.dropWhile isAuthorityChar,named,
        List.all_takeWhile,rfl,?_⟩
      rw [whole]
      simp [List.takeWhile_append_dropWhile]
    next => cases found
  next => cases found

/-- The origin of an origin is itself. -/
theorem originOf_origin {url origin : List Char} (found : originOf url = some origin) :
    originOf origin = some origin := by
  obtain ⟨scheme,authority,rest,named,holds,rfl,-⟩ := originOf_eq found
  have again := @originOf_append _ _ [] named holds nofun
  rwa [List.append_nil] at again

/-- What lies below an origin has it as its origin. -/
theorem originOf_below {origin : List Char} (root : originOf origin = some origin) (rest : List Char) :
    originOf (origin ++ '/' :: rest) = some origin := by
  obtain ⟨scheme,authority,-,named,holds,rfl,-⟩ := originOf_eq root
  have found := @originOf_append scheme authority ('/' :: rest) named holds (by
    rintro _ _ ⟨⟩
    rfl)
  simpa using found

/-- Nothing in an origin ends its path, and none of it is left for a query or a fragment. -/
theorem not_mem_origin {url origin : List Char} (found : originOf url = some origin) :
    '?' ∉ origin ∧ '#' ∉ origin := by
  obtain ⟨scheme,authority,rest,named,holds,rfl,-⟩ := originOf_eq found
  have away : ∀ c, isSchemeChar c = false → isAuthorityChar c = false → c ≠ ':' → c ≠ '/' →
      c ∉ scheme ++ ':' :: '/' :: '/' :: authority := by
    intro c scheme_not authority_not colon slash among
    simp only [List.mem_append,List.mem_cons] at among
    rcases among with among | same | same | same | among
    · rw [List.all_eq_true.mp named c among] at scheme_not
      cases scheme_not
    · exact colon same
    · exact slash same
    · exact slash same
    · rw [List.all_eq_true.mp holds c among] at authority_not
      cases authority_not
  exact ⟨away '?' rfl rfl (by decide) (by decide),away '#' rfl rfl (by decide) (by decide)⟩

end Origins

section Targets

theorem takeWhile_sent {url : List Char} (unbroken : '#' ∉ url) : url.takeWhile (· ≠ '#') = url := by
  apply List.takeWhile_eq_self_iff.mpr
  intro c among
  exact decide_eq_true fun same => unbroken (same ▸ among)

theorem targetBelow_below {baseUrl rest : List Char} (unbroken : '#' ∉ baseUrl) (sent : '#' ∉ rest) :
    targetBelow baseUrl (baseUrl ++ '/' :: rest) =
      some ((Text.splitOnce '?' ('/' :: rest)).getD ('/' :: rest,[])) := by
  have whole : '#' ∉ baseUrl ++ '/' :: rest := by
    simp [unbroken,sent]
  have below : baseUrl ++ ['/'] <+: baseUrl ++ '/' :: rest := ⟨rest,by simp⟩
  unfold targetBelow
  rw [takeWhile_sent whole]
  dsimp only
  rw [if_pos below,List.drop_left]

theorem not_mem_of_targetBelow {baseUrl url : List Char} {target : List Char × List Char}
    (found : targetBelow baseUrl url = some target) : '#' ∉ baseUrl := by
  unfold targetBelow at found
  dsimp only at found
  split at found
  next below =>
    intro among
    have kept := List.mem_takeWhile_imp (below.subset (List.mem_append_left _ among))
    simp at kept
  next => cases found

/-- A target that takes no query from its URL is what the URL has below the base. -/
theorem eq_of_targetBelow {baseUrl url path query : List Char}
    (found : targetBelow baseUrl url = some (path,query)) (unbroken : '#' ∉ url) (unasked : '?' ∉ url) :
    url = baseUrl ++ path := by
  unfold targetBelow at found
  rw [takeWhile_sent unbroken] at found
  dsimp only at found
  split at found
  next below =>
    obtain ⟨rest,rfl⟩ := below
    have whole : baseUrl ++ ['/'] ++ rest = baseUrl ++ '/' :: rest := by simp
    rw [whole,List.drop_left] at found
    rw [whole] at unasked ⊢
    have absent : '?' ∉ '/' :: rest := fun among => unasked (List.mem_append_right _ among)
    rw [Text.splitOnce,if_neg absent,Option.getD_none] at found
    rw [(Prod.mk.inj (Option.some.inj found)).1]
  next => cases found

end Targets

end Web
