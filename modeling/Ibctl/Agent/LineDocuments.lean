import Ibctl.Agent.Documents
import Ibctl.Agent.EventLines

/-! What arrives of the texts that the agent writes. However they are put together, they arrive as the
text of a document, in which a surrogate without its partner is a question mark. -/
namespace Ibctl.Agent
open JsonGrammar
open Json (units)

section Transport

def High (u : Nat) : Prop := 0xD800 ≤ u ∧ u < 0xDC00

def Low (u : Nat) : Prop := 0xDC00 ≤ u ∧ u < 0xE000

instance (u : Nat) : Decidable (High u) := inferInstanceAs (Decidable (0xD800 ≤ u ∧ u < 0xDC00))

instance (u : Nat) : Decidable (Low u) := inferInstanceAs (Decidable (0xDC00 ≤ u ∧ u < 0xE000))

/-- The character of a unit on its own: UTF-8 has a question mark for a surrogate. -/
def loneUnit (u : Nat) : Char := if High u ∨ Low u ∨ 0x10000 ≤ u then '?' else Char.ofNat u

/-- The characters that arrive of a text that is sent in UTF-8. -/
def decoded : JavaText → List Char
  | [] => []
  | [u] => [loneUnit u]
  | u :: v :: rest =>
    if High u ∧ Low v then Char.ofNat (0x10000 + (u - 0xD800) * 0x400 + (v - 0xDC00)) :: decoded rest
    else loneUnit u :: decoded (v :: rest)

theorem decoded_pair {u v : Nat} (pair : High u ∧ Low v) (rest : JavaText) : decoded (u :: v :: rest) =
    Char.ofNat (0x10000 + (u - 0xD800) * 0x400 + (v - 0xDC00)) :: decoded rest := by
  rw [decoded,if_pos pair]

theorem decoded_lone {u v : Nat} (single : ¬ (High u ∧ Low v)) (rest : JavaText) :
    decoded (u :: v :: rest) = loneUnit u :: decoded (v :: rest) := by
  rw [decoded,if_neg single]

/-- Texts arrive one after the other unless a pair is torn apart. -/
theorem decoded_append {s t : JavaText} (apart : ∀ u ∈ s.getLast?, ∀ v ∈ t.head?, ¬ (High u ∧ Low v)) :
    decoded (s ++ t) = decoded s ++ decoded t := by
  induction s using decoded.induct with
  | case1 => rfl
  | case2 u =>
    cases t with
    | nil => rfl
    | cons v t =>
      rw [List.singleton_append,decoded_lone (apart u rfl v rfl)]
      rfl
  | case3 u v rest pair ih =>
    have further : ∀ u ∈ rest.getLast?, ∀ v ∈ t.head?, ¬ (High u ∧ Low v) := by
      intro w last x head
      cases rest with
      | nil => cases last
      | cons y rest => exact apart w (by rw [List.getLast?_cons_cons,List.getLast?_cons_cons]; exact last) x head
    rw [List.cons_append,List.cons_append,decoded_pair pair,decoded_pair pair,ih further,List.cons_append]
  | case4 u v rest single ih =>
    have further : ∀ u ∈ (v :: rest).getLast?, ∀ v ∈ t.head?, ¬ (High u ∧ Low v) := by
      intro w last x head
      exact apart w (by rw [List.getLast?_cons_cons]; exact last) x head
    rw [List.cons_append,List.cons_append,decoded_lone single,decoded_lone single,← List.cons_append,ih further,
      List.cons_append]

theorem loneUnit_ascii {u : Nat} (ascii : u < 0x80) : loneUnit u = Char.ofNat u := by
  unfold loneUnit High Low
  rw [if_neg (by omega)]

theorem decoded_units (c : Char) : decoded (units c) = [c] := by
  have valid := Json.not_surrogate c
  unfold units
  by_cases small : c.toNat < 0x10000
  · rw [if_pos small,decoded,loneUnit,if_neg (by unfold High Low; omega),Char.ofNat_toNat]
  · rw [if_neg small,decoded,if_pos (by unfold High Low; omega),decoded]
    have whole : 0x10000 + (0xD800 + (c.toNat - 0x10000) / 0x400 - 0xD800) * 0x400 +
        (0xDC00 + (c.toNat - 0x10000) % 0x400 - 0xDC00) = c.toNat := by omega
    rw [whole,Char.ofNat_toNat]

theorem head_units (c : Char) : ∀ v ∈ (units c).head?, ¬ Low v := by
  have valid := Json.not_surrogate c
  unfold units Low
  split
  · rintro v ⟨⟩
    omega
  · rintro v ⟨⟩
    omega

theorem head_javaString (cs : List Char) : ∀ v ∈ (javaString cs).head?, ¬ Low v := by
  cases cs with
  | nil => rintro v ⟨⟩
  | cons c cs =>
    have shape : (units c ++ javaString cs).head? = (units c).head? := by
      unfold units
      split <;> rfl
    rw [javaString_cons,shape]
    exact head_units c

/-- A text of whole characters arrives as it is. -/
theorem decoded_javaString (cs : List Char) : decoded (javaString cs) = cs := by
  induction cs with
  | nil => rfl
  | cons c cs ih =>
    rw [javaString_cons,decoded_append fun u _ v head both => head_javaString cs v head both.2,decoded_units,ih,
      List.singleton_append]

end Transport

section Arrival

/-- The text begins with a character of ASCII and arrives as these characters. -/
structure Arrives (text : JavaText) (cs : List Char) : Prop where
  first : ∀ u ∈ text.head?, u < 0x80
  whole : decoded text = cs

variable {s t : JavaText} {cs ds : List Char}

theorem Arrives.append (left : Arrives s cs) (right : Arrives t ds) : Arrives (s ++ t) (cs ++ ds) := by
  have apart : ∀ u ∈ s.getLast?, ∀ v ∈ t.head?, ¬ (High u ∧ Low v) := by
    intro u _ v head both
    have small := right.first v head
    have big := both.2.1
    omega
  refine ⟨fun u head => ?_,by rw [decoded_append apart,left.whole,right.whole]⟩
  cases s with
  | nil => exact right.first u head
  | cons v s => exact left.first u head

theorem arrives_ascii {text : JavaText} (ascii : ∀ u ∈ text, u < 0x80) : Arrives text (text.map Char.ofNat) := by
  refine ⟨fun u head => ascii u (List.mem_of_mem_head? head),?_⟩
  induction text with
  | nil => rfl
  | cons u text ih =>
    have small := ascii u List.mem_cons_self
    have apart : ∀ w ∈ [u].getLast?, ∀ v ∈ text.head?, ¬ (High w ∧ Low v) := by
      intro w last v _ both
      have big := both.1.1
      rw [← Option.some.inj last] at big
      exact absurd (Nat.lt_of_le_of_lt big small) (by decide)
    rw [← List.singleton_append,decoded_append apart,ih fun v among => ascii v (List.mem_cons_of_mem _ among),decoded,
      loneUnit_ascii small]
    rfl

theorem arrives_spelled {text : JavaText} {c : Char} {cs : List Char} (spelled : text = javaString (c :: cs))
    (ascii : decide (c.toNat < 0x80) = true) : Arrives text (c :: cs) := by
  subst spelled
  refine ⟨?_,decoded_javaString (c :: cs)⟩
  rw [javaString_cons,units_ascii (of_decide_eq_true ascii)]
  rintro u ⟨⟩
  exact of_decide_eq_true ascii

theorem escapeChar_far {c : Char} (far : 0x80 ≤ c.toNat) : escapeChar c = [c] := by
  have absent : Json.shortEscapes.find? (fun pair => pair.2 = c) = none := by
    rw [List.find?_eq_none]
    intro pair known same
    have small : ∀ pair ∈ Json.shortEscapes, pair.2.toNat < 0x80 := by decide
    have low := small pair known
    rw [of_decide_eq_true same] at low
    omega
  unfold escapeChar
  rw [absent]
  dsimp only
  rw [if_neg (by omega)]

/-- A unit on its own is escaped as the character that arrives of it. -/
theorem decoded_escapeUnit (u : Nat) : decoded (escapeUnit u) = escapeChar (loneUnit u) := by
  by_cases low : u < 0x80
  · have all : ∀ n < 0x80, decoded (escapeUnit n) = escapeChar (loneUnit n) := by decide +kernel
    exact all u low
  · rw [escapeUnit_far (by omega),decoded]
    unfold loneUnit
    split
    · rfl
    · rename_i single
      rw [escapeChar_far]
      unfold High Low at single
      have valid : u.isValidChar := by
        unfold Nat.isValidChar
        omega
      rw [Char.ofNat,dif_pos valid]
      exact Nat.le_of_not_lt low

theorem last_escapeUnit (u : Nat) : ∀ w ∈ (escapeUnit u).getLast?, High w → High u := by
  by_cases low : u < 0x80
  · have all : ∀ n < 0x80, ∀ w ∈ (escapeUnit n).getLast?, ¬ High w := by decide +kernel
    exact fun w last high => absurd high (all u low w last)
  · rw [escapeUnit_far (by omega)]
    intro w last high
    have same : u = w := Option.some.inj last
    exact same ▸ high

theorem head_escapeJson (v : Nat) (rest : JavaText) : ∀ w ∈ (escapeJson (v :: rest)).head?, Low w → Low v := by
  unfold escapeJson
  rw [List.flatMap_cons]
  by_cases low : v < 0x80
  · have all : ∀ n < 0x80, ∃ w more, escapeUnit n = w :: more ∧ ¬ Low w := by
      have heads : ∀ n < 0x80, ((escapeUnit n).head?.any fun w => decide (¬ Low w)) = true := by decide +kernel
      intro n below
      have head := heads n below
      cases unit : escapeUnit n with
      | nil => rw [unit] at head; cases head
      | cons w more =>
        rw [unit] at head
        exact ⟨w,more,rfl,of_decide_eq_true head⟩
    obtain ⟨w,more,unit,solid⟩ := all v low
    rw [unit]
    exact fun x head low => absurd (Option.some.inj head ▸ low) solid
  · rw [escapeUnit_far (by omega)]
    exact fun w head low => Option.some.inj head ▸ low

theorem decoded_escapeJson (t : JavaText) : decoded (escapeJson t) = (decoded t).flatMap escapeChar := by
  induction t using decoded.induct with
  | case1 => rfl
  | case2 u =>
    rw [decoded,List.flatMap_singleton,← decoded_escapeUnit,escapeJson,List.flatMap_singleton]
  | case3 u v rest pair ih =>
    have shape : escapeJson (u :: v :: rest) = u :: v :: escapeJson rest := by
      unfold escapeJson
      rw [List.flatMap_cons,List.flatMap_cons,escapeUnit_far (Nat.le_trans (by decide) pair.1.1),
        escapeUnit_far (Nat.le_trans (by decide) pair.2.1)]
      rfl
    have far : 0x80 ≤ (Char.ofNat (0x10000 + (u - 0xD800) * 0x400 + (v - 0xDC00))).toNat := by
      have valid : (0x10000 + (u - 0xD800) * 0x400 + (v - 0xDC00)).isValidChar := by
        unfold High Low at pair
        unfold Nat.isValidChar
        omega
      rw [Char.ofNat,dif_pos valid]
      change 0x80 ≤ 0x10000 + (u - 0xD800) * 0x400 + (v - 0xDC00)
      omega
    rw [shape,decoded_pair pair,ih,decoded_pair pair,List.flatMap_cons,escapeChar_far far,List.singleton_append]
  | case4 u v rest single ih =>
    have shape : escapeJson (u :: v :: rest) = escapeUnit u ++ escapeJson (v :: rest) := List.flatMap_cons
    have apart : ∀ w ∈ (escapeUnit u).getLast?, ∀ x ∈ (escapeJson (v :: rest)).head?, ¬ (High w ∧ Low x) :=
      fun w last x head both => single ⟨last_escapeUnit u w last both.1,head_escapeJson v rest x head both.2⟩
    rw [shape,decoded_append apart,ih,decoded_lone single,List.flatMap_cons,decoded_escapeUnit]

def textOf (text : JavaText) : String := String.ofList (decoded text)

/-- The text consists of whole characters. -/
def Clean (text : JavaText) : Prop := javaString (decoded text) = text

instance (text : JavaText) : Decidable (Clean text) := inferInstanceAs (Decidable (javaString (decoded text) = text))

theorem javaString_textOf {text : JavaText} (clean : Clean text) : javaString (textOf text).toList = text := by
  rw [textOf,String.toList_ofList]
  exact clean

theorem clean_javaString (cs : List Char) : Clean (javaString cs) := congrArg javaString (decoded_javaString cs)

theorem textOf_javaString (s : String) : textOf (javaString s.toList) = s := by
  rw [textOf,decoded_javaString,String.ofList_toList]

def number (n : Int) : Json := .number (String.ofList (Decimal.writeInt n))

def orNull : Option String → Json
  | none => .null
  | some s => .string s

theorem arrives_string (text : JavaText) : Arrives (jsonString (some text)) (document (.string (textOf text))) := by
  have bracket : Arrives (ascii "\"") ['"'] := arrives_spelled rfl rfl
  have inside : decoded (escapeJson text ++ ascii "\"") = (decoded text).flatMap escapeChar ++ ['"'] := by
    have apart : ∀ u ∈ (escapeJson text).getLast?, ∀ v ∈ (ascii "\"").head?, ¬ (High u ∧ Low v) := by
      rintro u - v ⟨⟩ both
      exact absurd both.2.1 (by decide)
    rw [decoded_append apart,decoded_escapeJson,bracket.whole]
  have apart : ∀ u ∈ (ascii "\"").getLast?, ∀ v ∈ (escapeJson text ++ ascii "\"").head?, ¬ (High u ∧ Low v) := by
    rintro u ⟨⟩ v - both
    exact absurd both.1.1 (by decide)
  refine ⟨by rintro u ⟨⟩; decide,?_⟩
  rw [jsonString,List.append_assoc,decoded_append apart,bracket.whole,inside,document,quote,textOf,String.toList_ofList]
  rfl

theorem arrives_jsonString (text : Option JavaText) :
    Arrives (jsonString text) (document (orNull (text.map textOf))) := by
  cases text with
  | none => exact arrives_spelled rfl rfl
  | some text => exact arrives_string text

theorem arrives_quote (s : String) : Arrives (jsonString (some (javaString s.toList))) (document (.string s)) := by
  have arrives := arrives_string (javaString s.toList)
  rw [textOf_javaString] at arrives
  exact arrives

theorem arrives_ofInt (n : Int) : Arrives (ofInt n) (document (number n)) := by
  have small : ∀ u ∈ ofInt n, u < 0x80 := fun u among => by
    have dash : '-'.toNat = 45 := rfl
    have nine : '9'.toNat = 57 := rfl
    have unit := mem_writeInt among
    omega
  have back : (ofInt n).map Char.ofNat = document (number n) := by
    unfold ofInt number document
    rw [List.map_map,String.toList_ofList]
    exact (List.map_congr_left fun c _ => Char.ofNat_toNat c).trans (List.map_id _)
  exact back ▸ arrives_ascii small

theorem arrives_ofNat (n : Nat) : Arrives (ofNat n) (document (number n)) := arrives_ofInt n

theorem arrives_ofBool (b : Bool) : Arrives (ofBool b) (document (.bool b)) := by
  cases b with
  | false => exact arrives_spelled rfl rfl
  | true => exact arrives_spelled rfl rfl

end Arrival

section Arrays

/-- An array behind its bracket. -/
def arrayTail : List Json → List Char
  | [] => [']']
  | element :: rest => document element ++ documentElements rest

theorem document_array (elements : List Json) : document (.array elements) = '[' :: arrayTail elements := by
  cases elements with
  | nil => rfl
  | cons element elements => rfl

variable {α : Type} {items : List α} {text : α → JavaText} {doc : α → Json} {rest : JavaText} {cs : List Char}

/-- Items with commas between them are the inside of an array. -/
theorem arrives_separated (each : ∀ a ∈ items, Arrives (text a) (document (doc a))) (behind : Arrives rest cs) :
    Arrives (separated (items.map text) ++ (ascii "]" ++ rest)) (arrayTail (items.map doc) ++ cs) := by
  have bracket : Arrives (ascii "]") [']'] := arrives_spelled rfl rfl
  have close : Arrives (ascii "]" ++ rest) (']' :: cs) := bracket.append behind
  have further {items : List α} (each : ∀ a ∈ items, Arrives (text a) (document (doc a))) :
      Arrives (((items.map text).flatMap fun item => ascii "," ++ item) ++ (ascii "]" ++ rest))
        (documentElements (items.map doc) ++ cs) := by
    induction items with
    | nil => exact close
    | cons item items ih =>
      have comma : Arrives (ascii ",") [','] := arrives_spelled rfl rfl
      have first := each item List.mem_cons_self
      have more := comma.append (first.append (ih fun a among => each a (List.mem_cons_of_mem _ among)))
      rw [List.map_cons,List.flatMap_cons,List.map_cons,documentElements]
      simp only [List.append_assoc,List.cons_append,List.nil_append] at more ⊢
      exact more
  cases items with
  | nil => exact close
  | cons item items =>
    have more := (each item List.mem_cons_self).append (further fun a among => each a (List.mem_cons_of_mem _ among))
    rw [List.map_cons,separated,List.map_cons,arrayTail]
    simp only [List.append_assoc] at more ⊢
    exact more

end Arrays

section Members

variable {literal name : String} {value rest : JavaText} {doc : Json} {members : List (String × Json)}

/-- A member that is not the first: its comma, its name and its value. -/
theorem member (spelled : ascii literal = javaString (',' :: (quote name ++ [':'])))
    (same : Arrives value (document doc)) (further : Arrives rest (documentMembers members)) :
    Arrives (ascii literal ++ (value ++ rest)) (documentMembers ((name,doc) :: members)) := by
  have whole := (arrives_spelled spelled rfl).append
    (same.append further)
  rw [documentMembers]
  simp only [List.append_assoc,List.cons_append,List.nil_append] at whole ⊢
  exact whole

/-- A member that is an array, whose brackets belong to the texts around it. -/
theorem arrayMember {α : Type} {items : List α} {text : α → JavaText} {element : α → Json}
    (spelled : ascii literal = javaString (',' :: (quote name ++ [':','['])))
    (same : ∀ a ∈ items, Arrives (text a) (document (element a)))
    (further : Arrives rest (documentMembers members)) :
    Arrives (ascii literal ++ (separated (items.map text) ++ (ascii "]" ++ rest)))
      (documentMembers ((name,.array (items.map element)) :: members)) := by
  have whole := (arrives_spelled spelled rfl).append
    (arrives_separated same further)
  rw [documentMembers,document_array]
  simp only [List.append_assoc,List.cons_append,List.nil_append] at whole ⊢
  exact whole

theorem lastMember : Arrives (ascii "\x7d") (documentMembers []) := arrives_spelled rfl rfl

/-- An object with its first member. -/
theorem object (spelled : ascii literal = javaString ('{' :: (quote name ++ [':'])))
    (same : Arrives value (document doc)) (further : Arrives rest (documentMembers members)) :
    Arrives (ascii literal ++ (value ++ rest)) (document (.object ((name,doc) :: members))) := by
  have whole := (arrives_spelled spelled rfl).append
    (same.append further)
  rw [document]
  simp only [List.append_assoc,List.cons_append,List.nil_append] at whole ⊢
  exact whole

/-- An object that starts with its tag. -/
theorem tagged {tag : String} (spelled : ascii literal = javaString ('{' :: (quote "type" ++ ':' :: quote tag)))
    (further : Arrives rest (documentMembers members)) :
    Arrives (ascii literal ++ rest) (document (.object (("type",.string tag) :: members))) := by
  have whole := (arrives_spelled spelled rfl).append further
  rw [document,document]
  simp only [List.append_assoc,List.cons_append] at whole ⊢
  exact whole

end Members

section Documents

def boundsDoc (w : AwtWindow) : Json :=
  .object [("x",number w.bounds.x.toInt),("y",number w.bounds.y.toInt),("width",number w.bounds.width.toInt),
    ("height",number w.bounds.height.toInt)]

def titleDoc (w : AwtWindow) : Json := orNull ((getWindowTitle w).map textOf)

def windowDoc (w : AwtWindow) : Json :=
  .object [("window_id",number w.identityHash),("window_title",titleDoc w),("window_class",.string (textOf w.className)),
    ("has_login_button",.bool (hasLoginButton w)),("bounds",boundsDoc w)]

/-- A window of the list. -/
def listedDoc (w : AwtWindow) : Json :=
  .object [("id",number w.identityHash),("title",titleDoc w),("class",.string (textOf w.className)),
    ("bounds",boundsDoc w)]

def textsDoc (values : List JavaText) : Json := .array (values.map fun t => .string (textOf t))

/-- The document of a message. -/
def StreamMessage.doc (stamp : Stamp) : StreamMessage → Json
  | snapshot windows =>
    .object [("type",.string "snapshot"),("seq",number stamp.seq),("windows",.array (windows.map windowDoc)),
      ("ts",number stamp.ts)]
  | windowOpened w =>
    .object [("type",.string "window_opened"),("seq",number stamp.seq),("window_id",number w.identityHash),
      ("window_title",titleDoc w),("window_class",.string (textOf w.className)),
      ("has_login_button",.bool (hasLoginButton w)),("bounds",boundsDoc w),("ts",number stamp.ts)]
  | windowClosed w =>
    .object [("type",.string "window_closed"),("seq",number stamp.seq),("window_id",number w.identityHash),
      ("window_title",titleDoc w),("ts",number stamp.ts)]
  | loginFormReady w textFieldCount passwordFieldCount loginButton selectedMode =>
    .object [("type",.string "login_form_ready"),("seq",number stamp.seq),("window_id",number w.identityHash),
      ("text_field_count",number textFieldCount),("password_field_count",number passwordFieldCount),
      ("login_button",orNull (loginButton.map textOf)),("selected_mode",orNull (selectedMode.map textOf)),
      ("ts",number stamp.ts)]
  | twofaPrompt w promptType devices =>
    .object [("type",.string "twofa_prompt"),("seq",number stamp.seq),("window_id",number w.identityHash),
      ("prompt_type",.string promptType),("devices",textsDoc devices),("ts",number stamp.ts)]
  | errorDialog w title message buttons =>
    .object [("type",.string "error_dialog"),("seq",number stamp.seq),("window_id",number w.identityHash),
      ("window_title",.string (textOf title)),("message",orNull (message.map textOf)),("buttons",textsDoc buttons),
      ("ts",number stamp.ts)]
  | connectionStatusChanged prev status =>
    .object [("type",.string "connection_status_changed"),("seq",number stamp.seq),("from",.string prev),
      ("to",.string status),("ts",number stamp.ts)]

theorem boundsText (w : AwtWindow) :
    Arrives (ascii "\x7b\"x\":" ++ (ofInt w.bounds.x.toInt ++ (ascii ",\"y\":" ++ (ofInt w.bounds.y.toInt ++
      (ascii ",\"width\":" ++ (ofInt w.bounds.width.toInt ++ (ascii ",\"height\":" ++
        (ofInt w.bounds.height.toInt ++ ascii "\x7d")))))))) (document (boundsDoc w)) :=
  object rfl (arrives_ofInt _) (member rfl (arrives_ofInt _) (member rfl (arrives_ofInt _)
    (member rfl (arrives_ofInt _) lastMember)))

/-- The bounds, whose name and brace the agent writes at once. -/
theorem boundsMember (w : AwtWindow) {rest : JavaText} {members : List (String × Json)}
    (further : Arrives rest (documentMembers members)) :
    Arrives (appendBounds w ++ rest) (documentMembers (("bounds",boundsDoc w) :: members)) := by
  have split : ascii ",\"bounds\":\x7b\"x\":" = ascii ",\"bounds\":" ++ ascii "\x7b\"x\":" := rfl
  have whole := @member ",\"bounds\":" "bounds" _ rest _ members rfl (boundsText w) further
  rw [appendBounds,split]
  simp only [List.append_assoc] at whole ⊢
  exact whole

theorem arrives_snapshotWindow (w : AwtWindow) : Arrives (snapshotWindow w) (document (windowDoc w)) := by
  unfold snapshotWindow
  simp only [List.append_assoc]
  exact object rfl (arrives_ofNat _) (member rfl (arrives_jsonString _) (member rfl (arrives_string _)
    (member rfl (arrives_ofBool _) (boundsMember w lastMember))))

theorem arrives_listedWindow (w : AwtWindow) : Arrives (listedWindow w) (document (listedDoc w)) := by
  have bounds := @member ",\"bounds\":" "bounds" _ _ _ [] rfl (boundsText w) lastMember
  have whole := @object "\x7b\"id\":" "id" _ _ _ _ rfl (arrives_ofNat w.identityHash)
    (@member ",\"title\":" "title" _ _ _ _ rfl (arrives_jsonString (getWindowTitle w))
      (@member ",\"class\":" "class" _ _ _ _ rfl (arrives_string w.className) bounds))
  unfold listedWindow
  simp only [List.append_assoc] at whole ⊢
  exact whole

/-- A line arrives as the text of a document. -/
theorem arrives_line (m : StreamMessage) (stamp : Stamp) : Arrives (m.line stamp) (document (m.doc stamp)) := by
  unfold StreamMessage.line
  cases m with
  | snapshot windows =>
    simp only [List.append_assoc]
    exact tagged rfl (member rfl (arrives_ofNat _) (arrayMember rfl (fun w _ => arrives_snapshotWindow w)
      (member rfl (arrives_ofNat _) lastMember)))
  | windowOpened w =>
    simp only [List.append_assoc]
    exact tagged rfl (member rfl (arrives_ofNat _) (member rfl (arrives_ofNat _)
      (member rfl (arrives_jsonString _) (member rfl (arrives_string _)
        (member rfl (arrives_ofBool _) (boundsMember w (member rfl (arrives_ofNat _) lastMember)))))))
  | windowClosed w =>
    simp only [List.append_assoc]
    exact tagged rfl (member rfl (arrives_ofNat _) (member rfl (arrives_ofNat _)
      (member rfl (arrives_jsonString _) (member rfl (arrives_ofNat _) lastMember))))
  | loginFormReady w textFieldCount passwordFieldCount loginButton selectedMode =>
    simp only [List.append_assoc]
    exact tagged rfl (member rfl (arrives_ofNat _) (member rfl (arrives_ofNat _) (member rfl (arrives_ofNat _)
      (member rfl (arrives_ofNat _) (member rfl (arrives_jsonString _)
        (member rfl (arrives_jsonString _) (member rfl (arrives_ofNat _) lastMember)))))))
  | twofaPrompt w promptType devices =>
    simp only [List.append_assoc]
    exact tagged rfl (member rfl (arrives_ofNat _) (member rfl (arrives_ofNat _) (member rfl (arrives_quote _)
      (arrayMember rfl (fun t _ => arrives_string t) (member rfl (arrives_ofNat _) lastMember)))))
  | errorDialog w title message buttons =>
    simp only [List.append_assoc]
    exact tagged rfl (member rfl (arrives_ofNat _) (member rfl (arrives_ofNat _)
      (member rfl (arrives_string _) (member rfl (arrives_jsonString _)
        (arrayMember rfl (fun t _ => arrives_string t) (member rfl (arrives_ofNat _) lastMember))))))
  | connectionStatusChanged prev status =>
    simp only [List.append_assoc]
    exact tagged rfl (member rfl (arrives_ofNat _) (member rfl (arrives_quote _) (member rfl (arrives_quote _)
      (member rfl (arrives_ofNat _) lastMember))))

/-- Data in the envelope of a reply. -/
def replyDoc (data : Json) : Json := .object [("ok",.bool true),("data",data),("error",.null)]

theorem arrives_wrapOk {data : JavaText} {doc : Json} (arrives : Arrives data (document doc)) :
    Arrives (wrapOk data) (document (replyDoc doc)) := by
  have error := @member ",\"error\":" "error" (ascii "null") _ .null [] rfl (arrives_jsonString none) lastMember
  have inside := @member ",\"data\":" "data" _ _ _ _ rfl arrives error
  have whole := @object "\x7b\"ok\":" "ok" (ascii "true") _ (.bool true) _ rfl (arrives_ofBool true) inside
  unfold wrapOk
  simp only [List.append_assoc] at whole ⊢
  exact whole

def listDoc (windows : List AwtWindow) : Json := .array ((windows.filter (·.showing)).map listedDoc)

theorem arrives_listWindows (windows : List AwtWindow) :
    Arrives (listWindows windows) (document (listDoc windows)) := by
  have bracket : Arrives (ascii "[") ['['] := arrives_spelled rfl rfl
  have end_ : Arrives [] [] := ⟨fun _ head => absurd head (by simp),rfl⟩
  have whole := bracket.append (@arrives_separated _ (windows.filter (·.showing)) listedWindow listedDoc [] []
    (fun w _ => arrives_listedWindow w) end_)
  unfold listWindows listDoc
  rw [document_array]
  simp only [List.append_assoc,List.append_nil,List.singleton_append] at whole ⊢
  exact whole

end Documents

section Limits

variable {depth : Nat}

theorem readable_number {n : Int} (low : -2 ^ 63 ≤ n) (high : n < 2 ^ 64) : Readable depth (number n) := by
  rw [number,Readable]
  exact ⟨n,rfl,low,high⟩

theorem readable_unsigned {n : Nat} (fits : n < 2 ^ 63) : Readable depth (number n) :=
  readable_number (by omega) (by omega)

theorem readable_int (x : Int32) : Readable depth (number x.toInt) := by
  have low := x.le_toInt
  have high := x.toInt_lt
  exact readable_number (by omega) (by omega)

theorem readable_string (s : String) : Readable depth (.string s) := by
  rw [Readable]
  trivial

theorem readable_bool (b : Bool) : Readable depth (.bool b) := by
  rw [Readable]
  trivial

theorem readable_orNull (s : Option String) : Readable depth (orNull s) := by
  cases s with
  | none =>
    rw [orNull,Readable]
    trivial
  | some s => exact readable_string s

theorem readable_array {α : Type} {items : List α} {doc : α → Json} (each : ∀ a ∈ items, Readable depth (doc a)) :
    Readable (depth + 1) (.array (items.map doc)) := by
  rw [Readable]
  exact List.forall_mem_map.mpr each

theorem readable_object {members : List (String × Json)} (distinct : decide (members.map Prod.fst).Nodup = true)
    (each : ∀ member ∈ members, Readable depth member.2) : Readable (depth + 1) (.object members) := by
  rw [Readable]
  exact ⟨of_decide_eq_true distinct,each⟩

theorem readable_texts (values : List JavaText) : Readable (depth + 1) (textsDoc values) :=
  readable_array fun t _ => readable_string (textOf t)

theorem readable_bounds (w : AwtWindow) : Readable (depth + 1) (boundsDoc w) := by
  refine readable_object rfl ?_
  simp only [List.forall_mem_cons,readable_int,true_and,List.not_mem_nil,false_implies,implies_true]

theorem readable_id (w : AwtWindow) : Readable depth (number w.identityHash) :=
  readable_unsigned (Nat.lt_trans w.identityHash.isLt (by decide))

theorem readable_window (w : AwtWindow) : Readable (depth + 2) (windowDoc w) := by
  refine readable_object rfl ?_
  simp only [List.forall_mem_cons,readable_id,titleDoc,readable_orNull,readable_string,readable_bool,readable_bounds,
    true_and,List.not_mem_nil,false_implies,implies_true]

theorem readable_listed (w : AwtWindow) : Readable (depth + 2) (listedDoc w) := by
  refine readable_object rfl ?_
  simp only [List.forall_mem_cons,readable_id,titleDoc,readable_orNull,readable_string,readable_bounds,true_and,
    List.not_mem_nil,false_implies,implies_true]

theorem readable_list (windows : List AwtWindow) : Readable (depth + 3) (listDoc windows) :=
  readable_array fun w _ => readable_listed w

theorem readable_reply {data : Json} (readable : Readable depth data) : Readable (depth + 1) (replyDoc data) := by
  refine readable_object rfl ?_
  have error : Readable depth .null := readable_orNull none
  simp only [List.forall_mem_cons,readable_bool,readable,error,true_and,List.not_mem_nil,false_implies,implies_true]

/-- The counts of a message are ints of Java. -/
def StreamMessage.Fits : StreamMessage → Prop
  | loginFormReady _ textFieldCount passwordFieldCount _ _ => textFieldCount < 2 ^ 31 ∧ passwordFieldCount < 2 ^ 31
  | _ => True

theorem readable_doc {m : StreamMessage} (fits : m.Fits) (stamp : Stamp) : Readable (depth + 4) (m.doc stamp) := by
  have stamped (n : Fin (2 ^ 63)) : ∀ depth, Readable depth (number n) := fun _ => readable_unsigned n.isLt
  cases m with
  | snapshot windows =>
    refine readable_object rfl ?_
    have list : Readable (depth + 3) (.array (windows.map windowDoc)) := readable_array fun w _ => readable_window w
    simp only [List.forall_mem_cons,readable_string,stamped,list,true_and,List.not_mem_nil,false_implies,
      implies_true]
  | windowOpened | windowClosed =>
    refine readable_object rfl ?_
    simp only [List.forall_mem_cons,readable_string,stamped,readable_id,titleDoc,readable_orNull,readable_bool,
      readable_bounds,true_and,List.not_mem_nil,false_implies,implies_true]
  | loginFormReady w textFieldCount passwordFieldCount =>
    refine readable_object rfl ?_
    have texts : Readable (depth + 3) (number textFieldCount) := readable_unsigned (Nat.lt_trans fits.1 (by decide))
    have passwords : Readable (depth + 3) (number passwordFieldCount) :=
      readable_unsigned (Nat.lt_trans fits.2 (by decide))
    simp only [List.forall_mem_cons,readable_string,stamped,readable_id,texts,passwords,readable_orNull,true_and,
      List.not_mem_nil,false_implies,implies_true]
  | twofaPrompt | errorDialog =>
    refine readable_object rfl ?_
    simp only [List.forall_mem_cons,readable_string,stamped,readable_id,readable_orNull,readable_texts,true_and,
      List.not_mem_nil,false_implies,implies_true]
  | connectionStatusChanged =>
    refine readable_object rfl ?_
    simp only [List.forall_mem_cons,readable_string,stamped,true_and,List.not_mem_nil,false_implies,
      implies_true]

end Limits

end Ibctl.Agent
