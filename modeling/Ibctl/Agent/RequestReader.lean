import Ibctl.Agent.JsonField
import Ibctl.Lib.JsonGrammar
import Ibctl.Lib.Utf8
import Mathlib.Algebra.Group.Int.Defs

/-! How the agent reads a request. It decodes what each read brings on its own, and measures the
body in units. -/
namespace Ibctl.Agent
open JsonGrammar (ascii)

section Strings

/-- The pieces between the separators; so many units are passed over, and a piece has begun. -/
def pieces (separator : List Nat) : Nat → List Nat → List Nat → List (List Nat)
  | _,piece,[] => [piece]
  | passed + 1,piece,_ :: rest => pieces separator passed piece rest
  | 0,piece,u :: rest =>
    if separator <+: u :: rest then piece :: pieces separator (separator.length - 1) [] rest
    else pieces separator 0 (piece ++ [u]) rest

/-- `split` of a Java string: empty pieces at the end are dropped, unless nothing was split. -/
def split (separator text : List Nat) : List (List Nat) :=
  if separator <:+: text then (pieces separator 0 [] text).rdropWhile (· = []) else [text]

/-- `trim` removes the blank and all control characters of ASCII. -/
def trim (text : List Nat) : List Nat := (text.dropWhile (· ≤ 0x20)).rdropWhile (· ≤ 0x20)

/-- `toLowerCase`, as far as a text of ASCII letters can come out. -/
def toLowerCase (text : List Nat) : List Nat :=
  text.map fun u => if 'A'.toNat ≤ u ∧ u ≤ 'Z'.toNat then u + 32 else u

variable (character : JavaCharacter)

def decimalDigit (u : Nat) : Option Nat := (hexDigit character u).filter (· < 10)

def decimalNumber (us : List Nat) : Option Int :=
  if us = [] then none
  else (us.mapM (decimalDigit character)).map fun ds => Int.ofNat (ds.foldl (fun n d => 10 * n + d) 0)

/-- `Integer.parseInt`. -/
def parseInt (us : List Nat) : Option Int :=
  let signed :=
    match us with
    | [] => none
    | first :: rest =>
      if first = '-'.toNat then (decimalNumber character rest).map fun n => -n
      else if first = '+'.toNat then decimalNumber character rest
      else decimalNumber character us
  signed.filter fun n => -2 ^ 31 ≤ n ∧ n < 2 ^ 31

end Strings

section Server

/-- What becomes of a connection. It waits when the agent reads on and the client has sent all it
has to send. -/
inductive Served where
  | routed (method path body : List Nat)
  | subscribed
  | badRequest
  | failed
  | closed
  | waits
deriving DecidableEq, Repr

/-- A header line as a key and a value; a line without a colon behind its first unit is none. -/
def headerOf (line : List Nat) : Option (List Nat × List Nat) :=
  let key := line.takeWhile (· ≠ ':'.toNat)
  if ':'.toNat ∈ line ∧ key ≠ [] then
    some (toLowerCase (trim key),trim ((line.dropWhile (· ≠ ':'.toNat)).drop 1))
  else none

/-- The value of a header, of the lines up to the first empty one; a later line counts. -/
def headerValue (key : List Nat) (lines : List (List Nat)) : Option (List Nat) :=
  (((lines.takeWhile (· ≠ [])).filterMap headerOf).reverse.find? (fun header => header.1 = key)).map Prod.snd

/-- The loop that completes the body from further reads. -/
def readBody (method path : List Nat) (contentLength : Int) (body : List Nat) : List (List Nat) → Served
  | [] =>
    if contentLength ≤ body.length then finish body else .waits
  | read :: reads =>
    if contentLength ≤ body.length then finish body
    else readBody method path contentLength (body ++ Utf8.decode read) reads
where
  finish (body : List Nat) : Served :=
    if contentLength < body.length then
      if contentLength < 0 then .failed else .routed method path (body.take contentLength.toNat)
    else .routed method path body

variable (character : JavaCharacter)

/-- The routing of a request, with the body that its header announces. -/
def withBody (method path : List Nat) (lines : List (List Nat)) (rawRequest : List Nat)
    (reads : List (List Nat)) : Served :=
  match headerValue (ascii "content-length") lines with
  | none => .routed method path []
  | some text =>
    match parseInt character (trim text) with
    | none => .failed
    | some contentLength =>
      match Occurrence.behind (ascii "\r\n\r\n") rawRequest with
      | none => .routed method path []
      | some body => readBody method path contentLength body reads

def handleHttpRequest (rawRequest : List Nat) (reads : List (List Nat)) : Served :=
  if rawRequest = [] then .closed
  else
    match split (ascii "\r\n") rawRequest with
    | [] => .closed
    | requestLine :: lines =>
      match split (ascii " ") requestLine with
      | method :: path :: _ => withBody character method path lines rawRequest reads
      | _ => .badRequest

/-- The reads of a connection, with the text so far. -/
def handleClient (data : List Nat) : List (List Nat) → Served
  | [] => .waits
  | read :: reads =>
    let data := data ++ Utf8.decode read
    if ascii "SUBSCRIBE" <+: data then
      if '\n'.toNat ∈ data then .subscribed else handleClient data reads
    else if ascii "\r\n\r\n" <:+: data then handleHttpRequest character data reads
    else if '\n'.toNat ∈ data then handleHttpRequest character data reads
    else handleClient data reads

end Server

section Splitting

variable {first : Nat} {more : List Nat}

theorem pieces_passed (separator before rest piece : List Nat) :
    pieces separator before.length piece (before ++ rest) = pieces separator 0 piece rest := by
  induction before with
  | nil => rfl
  | cons u before ih => exact ih

theorem pieces_before {before : List Nat} (absent : first ∉ before) (piece rest : List Nat) :
    pieces (first :: more) 0 piece (before ++ rest) = pieces (first :: more) 0 (piece ++ before) rest := by
  induction before generalizing piece with
  | nil => rw [List.append_nil,List.nil_append]
  | cons u before ih =>
    obtain ⟨other,absent⟩ := not_or.mp (fun found => absent (List.mem_cons.mpr found))
    have miss : ¬ first :: more <+: u :: (before ++ rest) := fun start =>
      other (List.cons_prefix_cons.mp start).1
    rw [List.cons_append,pieces,if_neg miss,ih absent,List.append_assoc]
    rfl

theorem pieces_line {line : List Nat} (absent : first ∉ line) (rest : List Nat) :
    pieces (first :: more) 0 [] (line ++ first :: (more ++ rest)) = line :: pieces (first :: more) 0 [] rest := by
  have start : first :: more <+: first :: (more ++ rest) := List.prefix_append (first :: more) rest
  rw [pieces_before absent,List.nil_append,pieces,if_pos start]
  exact congrArg (line :: ·) (pieces_passed (first :: more) more rest [])

theorem split_line {line : List Nat} (absent : first ∉ line) (nonempty : line ≠ []) (rest : List Nat) :
    split (first :: more) (line ++ first :: (more ++ rest)) =
      line :: (pieces (first :: more) 0 [] rest).rdropWhile (· = []) := by
  have occurs : first :: more <:+: line ++ first :: (more ++ rest) :=
    ⟨line,rest,by rw [List.append_assoc]; rfl⟩
  rw [split,if_pos occurs,pieces_line absent]
  exact @Text.rdropWhile_append_of_last _ _ [] line (by simp [nonempty]) _

end Splitting

section Headers

theorem trim_blank (text : List Nat) : trim (' '.toNat :: text) = trim text := rfl

theorem trim_solid {text : List Nat} (solid : ∀ u ∈ text, 0x20 < u) : trim text = text := by
  have front : text.dropWhile (· ≤ 0x20) = text := by
    cases text with
    | nil => rfl
    | cons u text => rw [List.dropWhile_cons_of_neg (by simpa using solid u List.mem_cons_self)]
  rw [trim,front,List.rdropWhile_eq_self_iff]
  intro nonempty
  simpa using solid _ (List.getLast_mem nonempty)

theorem headerOf_line {key : List Nat} (colon : ':'.toNat ∉ key) (nonempty : key ≠ []) (value : List Nat) :
    headerOf (key ++ ':'.toNat :: value) = some (toLowerCase (trim key),trim value) := by
  have others : ∀ u ∈ key, decide (u ≠ ':'.toNat) = true := fun u among =>
    decide_eq_true fun same => colon (same ▸ among)
  have name : (key ++ ':'.toNat :: value).takeWhile (· ≠ ':'.toNat) = key := by
    rw [List.takeWhile_append_of_pos others,List.takeWhile_cons_of_neg (by simp),List.append_nil]
  have rest : (key ++ ':'.toNat :: value).dropWhile (· ≠ ':'.toNat) = ':'.toNat :: value := by
    rw [List.dropWhile_append_of_pos others,List.dropWhile_cons_of_neg (by simp)]
  unfold headerOf
  rw [name,rest]
  exact if_pos ⟨List.mem_append_right _ List.mem_cons_self,nonempty⟩

end Headers

section Numbers

variable {character : JavaCharacter}

def digits (n : Nat) : List Nat := (Decimal.write n).map Char.toNat

theorem digits_bounds {n u : Nat} (among : u ∈ digits n) : 48 ≤ u ∧ u ≤ 57 := by
  obtain ⟨c,written,rfl⟩ := List.mem_map.mp among
  exact Decimal.isDigit_bounds (Decimal.isDigit_of_mem_write written)

theorem decimalDigit_ascii : ∀ d < 10, decimalDigit character (48 + d) = some d := by
  have value : ∀ d < 10, Json.hexValue (Char.ofNat (48 + d)) = some d := by decide
  intro d small
  rw [decimalDigit,hexDigit,if_pos (by omega),value d small]
  exact Option.filter_some_pos (by simpa using small)

theorem mapM_decimalDigit {us : List Nat} (decimal : ∀ u ∈ us, 48 ≤ u ∧ u ≤ 57) :
    us.mapM (decimalDigit character) = some (us.map (· - 48)) := by
  induction us with
  | nil => rfl
  | cons u us ih =>
    have bounds := decimal u List.mem_cons_self
    have digit := @decimalDigit_ascii character (u - 48) (by omega)
    rw [Nat.add_sub_cancel' bounds.1] at digit
    rw [List.mapM_cons,digit,ih fun v among => decimal v (List.mem_cons_of_mem _ among)]
    rfl

theorem decimalNumber_digits (n : Nat) : decimalNumber character (digits n) = some (n : Int) := by
  have nonempty : digits n ≠ [] := by simpa [digits] using Decimal.write_ne_nil n
  have read := Decimal.ofDigits_write n
  have values : (digits n).map (· - 48) = (Decimal.write n).map (fun c => c.toNat - '0'.toNat) := List.map_map
  rw [decimalNumber,if_neg nonempty,mapM_decimalDigit fun u among => digits_bounds among,values]
  exact congrArg (fun m : Nat => some (m : Int)) read

/-- A number is read back when it is an `int` of Java. -/
theorem parseInt_digits (n : Nat) :
    parseInt character (digits n) = if n < 2 ^ 31 then some (n : Int) else none := by
  have number := @decimalNumber_digits character n
  unfold parseInt
  cases shape : digits n with
  | nil => exact absurd shape (by simpa [digits] using Decimal.write_ne_nil n)
  | cons first rest =>
    have bounds := @digits_bounds n first (by rw [shape]; exact List.mem_cons_self)
    have minus : '-'.toNat = 45 := rfl
    have plus : '+'.toNat = 43 := rfl
    rw [shape] at number
    dsimp only
    rw [if_neg (by omega),if_neg (by omega),number]
    by_cases small : n < 2 ^ 31
    · rw [if_pos small]
      exact Option.filter_some_pos (by simp; omega)
    · rw [if_neg small]
      exact Option.filter_some_neg (by simp; omega)

end Numbers

section Bodies

variable {method path : List Nat}

/-- A body is routed with as many units as the header says. -/
theorem readBody_length {n : Nat} {body : List Nat} {reads : List (List Nat)} {m p b : List Nat}
    (routed : readBody method path n body reads = .routed m p b) : b.length = n := by
  have finished {body : List Nat} (enough : (n : Int) ≤ body.length)
      (routed : readBody.finish method path n body = .routed m p b) : b.length = n := by
    unfold readBody.finish at routed
    split at routed
    · rw [if_neg (by omega)] at routed
      cases routed
      rw [List.length_take]
      omega
    · cases routed
      omega
  induction reads generalizing body with
  | nil =>
    rw [readBody] at routed
    split at routed
    · next enough => exact finished enough routed
    · cases routed
  | cons read reads ih =>
    rw [readBody] at routed
    split at routed
    · next enough => exact finished enough routed
    · exact ih routed

/-- A body of ASCII is complete with the last of its reads. -/
theorem readBody_ascii {n : Nat} {body : List Nat} {reads : List (List Nat)}
    (ascii : ∀ b ∈ reads.flatten, b < 0x80) (length : (body ++ reads.flatten).length = n) :
    readBody method path n body reads = .routed method path (body ++ reads.flatten) := by
  have finished {body : List Nat} (all : body.length = n) :
      readBody.finish method path n body = .routed method path body := by
    rw [readBody.finish,if_neg (by omega)]
  induction reads generalizing body with
  | nil =>
    rw [List.flatten_nil,List.append_nil] at length ⊢
    rw [readBody,if_pos (by omega),finished length]
  | cons read reads ih =>
    rw [List.flatten_cons] at ascii length ⊢
    rw [readBody]
    split
    · next enough =>
      have nothing : read ++ reads.flatten = [] := List.eq_nil_of_length_eq_zero (by
        rw [List.length_append] at length
        omega)
      rw [nothing,List.append_nil] at length ⊢
      exact finished length
    · have plain : Utf8.decode read = read :=
        Utf8.decode_ascii fun b among => ascii b (List.mem_append_left _ among)
      rw [plain]
      rw [← List.append_assoc] at length ⊢
      exact ih (fun b among => ascii b (List.mem_append_right _ among)) length

end Bodies

section Requests

variable {character : JavaCharacter} {method path : List Nat}

/-- Without the end of its headers in the first text, a request is routed without a body. -/
theorem handleHttpRequest_headless {raw : List Nat} {reads : List (List Nat)} {m p b : List Nat}
    (headless : Occurrence.behind (ascii "\r\n\r\n") raw = none)
    (routed : handleHttpRequest character raw reads = .routed m p b) : b = [] := by
  have bodiless {method path : List Nat} {lines : List (List Nat)}
      (routed : withBody character method path lines raw reads = .routed m p b) : b = [] := by
    rw [withBody,headless] at routed
    split at routed
    · cases routed
      rfl
    · split at routed
      · cases routed
      · cases routed
        rfl
  unfold handleHttpRequest at routed
  split at routed
  · cases routed
  · split at routed
    · cases routed
    · split at routed
      · exact bodiless routed
      · cases routed

/-- The words of the first line and the lines behind it. -/
theorem handleHttpRequest_line {version : List Nat} (verb : ' '.toNat ∉ method)
    (target : ' '.toNat ∉ path) (named : method ≠ []) (addressed : path ≠ [])
    (line : '\r'.toNat ∉ method ++ ' '.toNat :: (path ++ ' '.toNat :: version)) (rest : List Nat)
    (reads : List (List Nat)) :
    handleHttpRequest character (method ++ ' '.toNat :: (path ++ ' '.toNat :: version) ++ ascii "\r\n" ++ rest) reads =
      withBody character method path ((pieces (ascii "\r\n") 0 [] rest).rdropWhile (· = []))
        (method ++ ' '.toNat :: (path ++ ' '.toNat :: version) ++ ascii "\r\n" ++ rest) reads := by
  have words : split (ascii " ") (method ++ ' '.toNat :: (path ++ ' '.toNat :: version)) =
      method :: path :: (pieces (ascii " ") 0 [] version).rdropWhile (· = []) := by
    have first := @split_line _ [] method verb named (path ++ ' '.toNat :: version)
    have second := @pieces_line _ [] path target version
    rw [List.nil_append] at first second
    rw [second] at first
    exact first.trans (congrArg (method :: ·)
      (@Text.rdropWhile_append_of_last _ _ [] path (by simp [addressed]) _))
  have lines := @split_line _ ['\n'.toNat] _ line (by simp) rest
  rw [List.append_assoc _ (ascii "\r\n")]
  unfold handleHttpRequest
  rw [if_neg (by simp)]
  have shape : ascii "\r\n" ++ rest = '\r'.toNat :: (['\n'.toNat] ++ rest) := rfl
  have separator : ascii "\r\n" = ['\r'.toNat,'\n'.toNat] := rfl
  rw [shape,separator,lines]
  dsimp only
  rw [words]

theorem withBody_none {lines : List (List Nat)} {raw : List Nat} {reads : List (List Nat)}
    (absent : headerValue (ascii "content-length") lines = none) :
    withBody character method path lines raw reads = .routed method path [] := by
  rw [withBody,absent]

theorem withBody_digits {lines : List (List Nat)} {raw body : List Nat} {reads : List (List Nat)} {n : Nat}
    (announced : headerValue (ascii "content-length") lines = some (digits n))
    (headed : Occurrence.behind (ascii "\r\n\r\n") raw = some body) :
    withBody character method path lines raw reads =
      if n < 2 ^ 31 then readBody method path n body reads else .failed := by
  have solid : trim (digits n) = digits n := trim_solid fun u among => by
    have bounds := digits_bounds among
    omega
  rw [withBody,announced,headed]
  dsimp only
  rw [solid,parseInt_digits]
  by_cases small : n < 2 ^ 31
  · rw [if_pos small,if_pos small]
  · rw [if_neg small,if_neg small]

end Requests

end Ibctl.Agent
