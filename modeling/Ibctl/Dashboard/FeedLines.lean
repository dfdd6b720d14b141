import Ibctl.Agent.Documents
import Ibctl.Dashboard.Subscription
import Ibctl.Lib.Words

/-! The lines of ibctl's status feed, from the text that the server writes to the status that the
dashboard's client takes out of it, also where the connection ends inside a line. -/
namespace Ibctl.Dashboard
open Agent (document documentMembers Readable)

section Bytes

/-- The bytes of a line, without the newline. -/
def lineBytes (text : List Char) : List UInt8 := (String.ofList text).toByteArray.data.toList

theorem lineBytes_append (s t : List Char) : lineBytes (s ++ t) = lineBytes s ++ lineBytes t := by
  unfold lineBytes
  rw [String.ofList_append,String.toByteArray_append,ByteArray.data_append,Array.toList_append]

theorem decode_bytes (text : List Char) : decode (lineBytes text) = some (String.ofList text) := by
  unfold decode lineBytes String.fromUTF8?
  rw [Array.toArray_toList,dif_pos (String.ofList text).isValidUTF8]
  rfl

/-- What is decoded of the first bytes are first characters. -/
theorem decode_part {part : List UInt8} {text : List Char} {s : String} (within : part <+: lineBytes text)
    (decoded : decode part = some s) : s.toList <+: text ∧ lineBytes s.toList = part := by
  unfold decode String.fromUTF8? at decoded
  split at decoded
  · rename_i valid
    have same : s.toByteArray = ⟨part.toArray⟩ := by
      rw [← Option.some.inj decoded]
      rfl
    have back : lineBytes s.toList = part := by
      rw [lineBytes,String.ofList_toList,same]
    obtain ⟨rest,whole⟩ := within
    refine ⟨List.isPrefix_of_utf8Encode_append_eq_utf8Encode ⟨rest.toArray⟩ ?_,back⟩
    rw [← String.toByteArray_ofList,← String.toByteArray_ofList,String.ofList_toList,same]
    apply ByteArray.ext
    apply Array.toList_inj.mp
    rw [ByteArray.data_append,Array.toList_append]
    exact whole
  · cases decoded

end Bytes

section Texts

theorem documentMembers_last (members : List (String × Json)) :
    ∃ front, documentMembers members = front ++ ['}'] := by
  induction members with
  | nil => exact ⟨[],rfl⟩
  | cons member members ih =>
    obtain ⟨front,same⟩ := ih
    refine ⟨',' :: (Agent.quote member.1 ++ ':' :: document member.2 ++ front),?_⟩
    rw [documentMembers,same]
    simp only [List.cons_append,List.append_assoc]

/-- An object stands between its braces. -/
theorem document_braces (members : List (String × Json)) :
    ∃ middle, document (.object members) = '{' :: middle ++ '}' :: [] := by
  cases members with
  | nil => exact ⟨[],rfl⟩
  | cons member members =>
    obtain ⟨front,same⟩ := documentMembers_last members
    refine ⟨Agent.quote member.1 ++ ':' :: document member.2 ++ front,?_⟩
    rw [document,same]
    simp only [List.cons_append,List.append_assoc]

theorem strip_line (members : List (String × Json)) (trail : List Char)
    (blank : ∀ c ∈ trail, Text.isPythonSpace c = true) :
    strip (String.ofList (document (.object members) ++ trail)) = String.ofList (document (.object members)) := by
  obtain ⟨middle,braces⟩ := document_braces members
  have front : Text.isPythonSpace '{' = false := by decide
  have back : Text.isPythonSpace '}' = false := by decide
  have none_ : trail.rdropWhile Text.isPythonSpace = [] := List.rdropWhile_eq_nil_iff.mpr blank
  have shape : '{' :: middle ++ ['}'] ++ trail = '{' :: middle ++ '}' :: trail := by simp
  rw [strip,Text.trimWith,String.toList_ofList,braces,shape,Text.trimChars_of_ends front back,none_]

theorem strip_part {first : Char} (front : Text.isPythonSpace first = false) (text : List Char) :
    ∃ kept, strip (String.ofList (first :: text)) = String.ofList (first :: kept) ∧
      first :: kept <+: first :: text := by
  refine ⟨text.rdropWhile Text.isPythonSpace,?_,List.cons_prefix_cons.mpr ⟨rfl,List.rdropWhile_prefix _ _⟩⟩
  rw [strip,Text.trimWith,String.toList_ofList,Text.trimChars_of_first front]

theorem no_refusal (text : List Char) : (String.ofList ('{' :: text)).startsWith "ERROR" = false := by
  rw [String.startsWith_string_eq_false_iff,String.toList_ofList]
  rintro ⟨rest,same⟩
  rw [String.toList_ofList] at same
  exact absurd (List.cons.inj same).1 (by decide)

end Texts

section Reading

/-- Python's reader reads the documents that are written, and nothing that is only the beginning of one or
starts with a letter E. -/
structure ReadsLines (py : PythonJson) : Prop where
  whole : ∀ members, Readable 127 (.object members) →
    py.loads (String.ofList (document (.object members))) = .ok (.object members)
  cut : ∀ members text doc, Readable 127 (.object members) → text <+: document (.object members) →
    py.loads (String.ofList text) = .ok doc → text = document (.object members)
  letter : ∀ text doc, py.loads (String.ofList ('E' :: text)) ≠ .ok doc

variable {py : PythonJson} {publishes : Bool} {members : List (String × Json)}

theorem handleLine_whole (reads : ReadsLines py) (readable : Readable 127 (.object members)) :
    handleLine py publishes (String.ofList (document (.object members))) =
      match eventStatus (.object members) with
      | some status => (some status,if publishes then py.dumpsRaises status else none)
      | none => (none,none) := by
  obtain ⟨middle,braces⟩ := document_braces members
  have some_ : String.ofList (document (.object members)) ≠ "" := by
    rw [braces,← String.ofList_nil,ne_eq,String.ofList_inj]
    exact List.cons_ne_nil _ _
  cases status : eventStatus (.object members) with
  | none => simp only [handleLine,if_neg some_,reads.whole members readable,status]
  | some value => simp only [handleLine,if_neg some_,reads.whole members readable,status]

theorem handleLine_part (reads : ReadsLines py) (readable : Readable 127 (.object members)) {text : List Char}
    (within : text <+: document (.object members)) {status : Json}
    (handed : (handleLine py publishes (String.ofList text)).1 = some status) :
    text = document (.object members) := by
  cases loaded : py.loads (String.ofList text) with
  | ok doc => exact reads.cut members text doc readable within loaded
  | error what =>
    unfold handleLine at handed
    rw [loaded] at handed
    split at handed
    · cases handed
    · cases what <;> cases handed

theorem handleLine_letter (reads : ReadsLines py) (rest : List Char) :
    (handleLine py publishes (String.ofList ('E' :: rest))).1 = none := by
  unfold handleLine
  cases loaded : py.loads (String.ofList ('E' :: rest)) with
  | ok doc => exact absurd loaded (reads.letter rest doc)
  | error what =>
    split
    · rfl
    · cases what <;> rfl

namespace SubscribeClient

/-- The task waits for a line. -/
def Waits (c : SubscribeClient) : Prop := c.phase = .greeting ∨ c.phase = .reading

instance (c : SubscribeClient) : Decidable c.Waits := inferInstanceAs (Decidable (_ ∨ _))

variable {c : SubscribeClient}

/-- A line that does not refuse is an event, be it the first or a later one. -/
theorem step_line (waits : c.Waits) (content : List UInt8) (newline : Bool) :
    ∃ handle, c.step py publishes (.line content newline) = c.takeLine content newline handle ∧
      ∀ text, ∃ next, next.phase = .reading ∧
        handle (String.ofList ('{' :: text)) = c.takeEvent py publishes (String.ofList ('{' :: text)) next := by
  rcases waits with greets | reads
  · refine ⟨c.takeFirst py publishes,by rw [step,greets],fun text => ?_⟩
    refine ⟨{ c with phase := .reading, consecutiveFailures := 0, backoff := initialBackoff },rfl,?_⟩
    rw [takeFirst,no_refusal,if_neg Bool.false_ne_true]
  · exact ⟨fun line => c.takeEvent py publishes line c,by rw [step,reads],fun text => ⟨c,reads,rfl⟩⟩

theorem takeEvent_status (line : String) (next : SubscribeClient) :
    (c.takeEvent py publishes line next).2 = (handleLine py publishes line).1 := by
  unfold takeEvent
  cases handleLine py publishes line with
  | mk status what => cases what <;> rfl

/-- The line of a document, or a part of it where the connection ends. -/
def PartOf (members : List (String × Json)) (content : List UInt8) (newline : Bool) : Prop :=
  content <+: lineBytes (document (.object members)) ∧
    (newline = true → content = lineBytes (document (.object members)))

theorem stripped {content : List UInt8} {newline : Bool} (part : PartOf members content newline)
    (some_ : content ≠ [])
    {s : String} (decoded : decode (content ++ if newline then [10] else []) = some s) :
    ∃ text, strip s = String.ofList ('{' :: text) ∧ '{' :: text <+: document (.object members) ∧
      ('{' :: text = document (.object members) ↔ content = lineBytes (document (.object members))) := by
  obtain ⟨middle,braces⟩ := document_braces members
  have shape : document (.object members) = '{' :: (middle ++ ['}']) := braces
  have brace : Text.isPythonSpace '{' = false := by decide
  cases newline with
  | true =>
    have newline_ : lineBytes ['\n'] = [10] := by decide
    rw [if_pos rfl,part.2 rfl,← newline_,← lineBytes_append,decode_bytes] at decoded
    refine ⟨middle ++ ['}'],?_,shape ▸ List.prefix_rfl,fun _ => part.2 rfl,fun _ => shape.symm⟩
    rw [← Option.some.inj decoded,strip_line members _ (List.forall_mem_singleton.mpr rfl),shape]
  | false =>
    rw [if_neg Bool.false_ne_true,List.append_nil] at decoded
    obtain ⟨within,back⟩ := decode_part part.1 decoded
    cases known : s.toList with
    | nil =>
      rw [known] at back
      exact absurd back.symm some_
    | cons first text =>
      rw [known] at within back
      obtain ⟨rfl,behind⟩ := List.cons_prefix_cons.mp (shape ▸ within)
      obtain ⟨kept,same,front⟩ := strip_part brace text
      rw [← known,String.ofList_toList] at same
      refine ⟨kept,same,front.trans within,fun whole => ?_,fun whole => ?_⟩
      · have all : '{' :: text = document (.object members) := within.eq_of_length_le (whole ▸ front.length_le)
        rw [← back,all]
      · have all : s = String.ofList (document (.object members)) := by
          rw [whole,decode_bytes] at decoded
          exact (Option.some.inj decoded).symm
        have trimmed := strip_line members [] (fun _ among => absurd among List.not_mem_nil)
        rw [List.append_nil,← all,same,all,String.ofList_inj] at trimmed
        exact trimmed

variable {content : List UInt8} {newline : Bool}

theorem lineBytes_document : lineBytes (document (.object members)) ≠ [] := by
  obtain ⟨middle,braces⟩ := document_braces members
  intro none_
  have decoded := decode_bytes (document (.object members))
  rw [none_,braces] at decoded
  have empty : decode [] = some "" := by decide
  rw [empty] at decoded
  have nothing : [] = '{' :: middle ++ ['}'] :=
    (congrArg String.toList (Option.some.inj decoded)).trans String.toList_ofList
  cases nothing

/-- A part of a line ends the task or the connection, or it is taken for an event. -/
theorem step_part (waits : c.Waits) (part : PartOf members content newline) :
    (c.step py publishes (.line content newline)).2 = none ∧
        (content = lineBytes (document (.object members)) → streamLimit < content.length ∧
          (c.step py publishes (.line content newline)).1.running = false) ∨
      content.length ≤ streamLimit ∧ ∃ text next, next.phase = .reading ∧
        '{' :: text <+: document (.object members) ∧
        ('{' :: text = document (.object members) ↔ content = lineBytes (document (.object members))) ∧
        c.step py publishes (.line content newline) =
          c.takeEvent py publishes (String.ofList ('{' :: text)) next := by
  obtain ⟨handle,taken,events⟩ := @step_line py publishes c waits content newline
  rw [taken]
  by_cases long : streamLimit < content.length
  · refine .inl ⟨?_,fun _ => ⟨long,?_⟩⟩
    · rw [takeLine,readline,if_pos long]
    · rw [takeLine,readline,if_pos long]
      rfl
  by_cases empty : content = []
  · have last : newline = false := by
      cases newline with
      | false => rfl
      | true => exact absurd ((part.2 rfl).symm.trans empty) lineBytes_document
    refine .inl ⟨?_,fun whole => absurd (whole.symm.trans empty) lineBytes_document⟩
    rw [takeLine,readline,if_neg long,last,empty]
    rfl
  obtain ⟨byte,bytes,some_⟩ : ∃ byte bytes, content ++ (if newline = true then [10] else []) = byte :: bytes :=
    List.exists_cons_of_ne_nil (List.append_ne_nil_of_left_ne_nil empty _)
  cases decoded : decode (byte :: bytes) with
  | none =>
    refine .inl ⟨?_,fun whole => ?_⟩
    · rw [takeLine,readline,if_neg long,some_]
      dsimp only
      rw [decoded]
    · cases newline with
      | false =>
        rw [if_neg Bool.false_ne_true,List.append_nil] at some_
        rw [← some_,whole,decode_bytes] at decoded
        cases decoded
      | true =>
        have newline_ : lineBytes ['\n'] = [10] := by decide
        rw [if_pos rfl] at some_
        rw [← some_,whole,← newline_,← lineBytes_append,decode_bytes] at decoded
        cases decoded
  | some s =>
    obtain ⟨text,same,within,whole⟩ := stripped part empty (some_ ▸ decoded)
    obtain ⟨next,reading,event⟩ := events text
    refine .inr ⟨Nat.not_lt.mp long,text,next,reading,within,whole,?_⟩
    rw [takeLine,readline,if_neg long,some_]
    dsimp only
    rw [decoded]
    dsimp only
    rw [same,event]

/-- What the task takes out of a part of a line is the status in it, and only out of the whole. -/
theorem step_part_status (reads : ReadsLines py) (readable : Readable 127 (.object members)) (waits : c.Waits)
    (part : PartOf members content newline) {status : Json}
    (handed : (c.step py publishes (.line content newline)).2 = some status) :
    content = lineBytes (document (.object members)) ∧ eventStatus (.object members) = some status := by
  rcases @step_part py publishes _ c _ _ waits part with ⟨none_,-⟩ | ⟨-,text,next,-,within,whole,event⟩
  · rw [none_] at handed
    cases handed
  · rw [event,takeEvent_status] at handed
    have all := handleLine_part reads readable within handed
    rw [all,handleLine_whole reads readable] at handed
    refine ⟨whole.mp all,?_⟩
    cases carried : eventStatus (.object members) with
    | none => rw [carried] at handed; cases handed
    | some other => rw [carried] at handed; exact handed

/-- A whole line is taken, or the task is over. -/
theorem step_whole (reads : ReadsLines py) (readable : Readable 127 (.object members)) (waits : c.Waits)
    (newline : Bool) :
    (c.step py publishes (.line (lineBytes (document (.object members))) newline)).2 =
      eventStatus (.object members) ∨
      (c.step py publishes (.line (lineBytes (document (.object members))) newline)).1.running = false := by
  rcases @step_part py publishes members c _ newline waits ⟨List.prefix_rfl,fun _ => rfl⟩ with
    ⟨-,ended⟩ | ⟨-,text,next,-,-,whole,event⟩
  · exact .inr (ended rfl).2
  · left
    rw [event,takeEvent_status,whole.mpr rfl,handleLine_whole reads readable]
    cases eventStatus (.object members) <;> rfl

/-- A whole line that fits the buffer is taken, and the task reads on, unless the status cannot be published. -/
theorem step_fits (reads : ReadsLines py) (readable : Readable 127 (.object members)) (waits : c.Waits)
    (newline : Bool)
    (fits : (lineBytes (document (.object members))).length ≤ streamLimit)
    (dumps : ∀ status, eventStatus (.object members) = some status → publishes = true →
      py.dumpsRaises status = none) :
    (c.step py publishes (.line (lineBytes (document (.object members))) newline)).2 =
      eventStatus (.object members) ∧
      (c.step py publishes (.line (lineBytes (document (.object members))) newline)).1.phase = .reading := by
  rcases @step_part py publishes members c _ newline waits ⟨List.prefix_rfl,fun _ => rfl⟩ with
    ⟨-,ended⟩ | ⟨-,text,next,reading,-,whole,event⟩
  · exact absurd (ended rfl).1 (Nat.not_lt.mpr fits)
  · rw [event,whole.mpr rfl]
    unfold takeEvent
    rw [handleLine_whole reads readable]
    cases carried : eventStatus (.object members) with
    | none => exact ⟨rfl,reading⟩
    | some status =>
      cases publishes with
      | false => exact ⟨rfl,reading⟩
      | true =>
        dsimp only
        rw [if_pos rfl,dumps status carried rfl]
        exact ⟨rfl,reading⟩

section Letter

variable {text : List Char}

theorem stripped_letter (within : content <+: lineBytes ('E' :: text))
    (last : newline = true → content = lineBytes ('E' :: text)) (some_ : content ≠ []) {s : String}
    (decoded : decode (content ++ if newline then [10] else []) = some s) :
    ∃ rest, strip s = String.ofList ('E' :: rest) := by
  have solid : Text.isPythonSpace 'E' = false := by decide
  have first : ∃ rest, s = String.ofList ('E' :: rest) := by
    cases newline with
    | true =>
      have newline_ : lineBytes ['\n'] = [10] := by decide
      rw [if_pos rfl,last rfl,← newline_,← lineBytes_append,decode_bytes] at decoded
      exact ⟨text ++ ['\n'],(Option.some.inj decoded).symm⟩
    | false =>
      rw [if_neg Bool.false_ne_true,List.append_nil] at decoded
      obtain ⟨front,back⟩ := decode_part within decoded
      cases known : s.toList with
      | nil =>
        rw [known] at back
        exact absurd back.symm some_
      | cons c rest =>
        rw [known] at front
        obtain ⟨rfl,-⟩ := List.cons_prefix_cons.mp front
        exact ⟨rest,by rw [← known,String.ofList_toList]⟩
  obtain ⟨rest,rfl⟩ := first
  obtain ⟨kept,same,-⟩ := strip_part solid rest
  exact ⟨kept,same⟩

theorem lineBytes_letter : lineBytes ('E' :: text) ≠ [] := by
  intro none_
  have byte : lineBytes ('E' :: text) = lineBytes ['E'] ++ lineBytes text := lineBytes_append ['E'] text
  rw [none_] at byte
  exact absurd (List.append_eq_nil_iff.mp byte.symm).1 (by decide)

/-- What is handed over of such a line is what the handling of a text with the letter hands over. -/
theorem takeLine_letter (within : content <+: lineBytes ('E' :: text))
    (last : newline = true → content = lineBytes ('E' :: text))
    {handle : String → SubscribeClient × Option Json}
    (quiet : ∀ rest, (handle (String.ofList ('E' :: rest))).2 = none) :
    (c.takeLine content newline handle).2 = none := by
  unfold takeLine readline
  split
  · rfl
  · rfl
  · rename_i bytes filled read
    split at read
    · cases read
    · have same := Except.ok.inj read
      cases decoded : decode bytes with
      | none => rfl
      | some s =>
        have some_ : content ≠ [] := by
          rintro rfl
          cases newline with
          | true => exact lineBytes_letter (last rfl).symm
          | false => exact filled same.symm
        obtain ⟨rest,trimmed⟩ := stripped_letter within last some_ (same ▸ decoded)
        dsimp only
        rw [trimmed]
        exact quiet rest

/-- A line that starts with the letter hands nothing over. -/
theorem step_letter (reads : ReadsLines py) (waits : c.Waits) (within : content <+: lineBytes ('E' :: text))
    (last : newline = true → content = lineBytes ('E' :: text)) :
    (c.step py publishes (.line content newline)).2 = none := by
  rcases waits with greets | awaits
  · rw [step,greets]
    refine takeLine_letter within last fun rest => ?_
    unfold takeFirst
    split
    · rfl
    · rw [takeEvent_status,handleLine_letter reads]
  · rw [step,awaits]
    refine takeLine_letter within last fun rest => ?_
    rw [takeEvent_status,handleLine_letter reads]

end Letter

end SubscribeClient

end Reading

end Ibctl.Dashboard
