import Ibctl.CommandSpelling
import Ibctl.Dashboard.TwofaCallback

/-! The dashboard's command endpoint: what may be posted, the line that is sent for it, and what the
command server makes of that line. -/
namespace Ibctl.Dashboard
open CommandServer
open Text

def allowedCommands : List (List Char) :=
  ["STOP","RESTART","RECONNECTDATA","RECONNECTACCOUNT","ENABLEAPI","PAUSE","RESUME","RESTARTSOCAT",
    "HITL_RESUME"].map String.toList

def prefixedCommands : List (List Char) := ["SETSTATE ","PAUSE "].map String.toList

/-- The keyword in capitals, and what follows its first blank as it was posted. -/
def commandOf (posted : List Char) : List Char :=
  let raw := trimChars isPythonSpace posted
  match splitOnce ' ' raw with
  | some (keyword,rest) => upperChars keyword ++ ' ' :: rest
  | none => upperChars raw

def isAccepted (command : List Char) : Bool :=
  allowedCommands.contains command || prefixedCommands.any (fun known => known.isPrefixOf command)

/-- Why no reply is read: `_send` raises one of its own errors, or something else is raised. -/
inductive Unread where
  | dashboardError (message : List Char)
  | raised (exception : List Char)

/-- An instance as its client finds it: who the client is to the command server, whether the state
machine takes commands, what queries are answered with, and where no reply is read, why that is and
whether the line gets to the server nevertheless. -/
structure Instance where
  peer : Peer
  channelOpen : Bool
  answer : QueryType → List Char
  failure : Option (Unread × Bool)

namespace Instance

/-- What the line of the command brings the state machine. -/
def queues (i : Instance) (command : List Char) : Option Machine.Command :=
  match handleConnection i.peer i.channelOpen (command ++ ['\n']) with
  | .replied _ queued => queued
  | _ => none

def delivery (i : Instance) (command : List Char) : Delivery :=
  match i.failure with
  | none => .reached i.peer i.channelOpen i.answer
  | some (.dashboardError message,arrives) => .refused message (if arrives then i.queues command else none)
  | some (.raised exception,arrives) => .raised exception (if arrives then i.queues command else none)

def arrives (i : Instance) : Bool :=
  match i.failure with
  | none => true
  | some (_,arrives) => arrives

/-- The instance lets the client have the command. -/
def Takes (i : Instance) (command : Machine.Command) : Prop :=
  i.arrives = true ∧ i.peer.allowed = true ∧ i.channelOpen = true ∧
    (isPrivilegedCommand command = true → i.peer.localhost = true)

end Instance

inductive CommandAnswer where
  | unknownCommand (command : List Char)
  | unknownInstance (mode : String)
  | done (command : List Char) (mode : String) (result : Option (List Char))
  | failed (command : List Char) (mode : String) (error : List Char)
  | raised
deriving DecidableEq, Repr

def CommandAnswer.ok : CommandAnswer → Bool
  | done _ _ _ => true
  | _ => false

/-- The instances in the order in which they are registered. -/
abbrev Registry := List (String × Instance)

namespace Registry

/-- The mode that is named, or else the first one that there is. -/
def targetMode (registry : Registry) (mode : Option String) : Option String :=
  match mode.filter (fun name => name ≠ "") with
  | some name => some name
  | none => registry.head?.map Prod.fst

def sendCommand (registry : Registry) (posted : List Char) (mode : Option String) :
    CommandAnswer × Option Machine.Command :=
  let command := commandOf posted
  if isAccepted command = false then (.unknownCommand command,none)
  else
    match registry.targetMode mode with
    | none => (.raised,none)
    | some target =>
      match registry.lookup target with
      | none => (.unknownInstance target,none)
      | some i =>
        match (i.delivery command).send command with
        | (.returned result,queued) => (.done command target result,queued)
        | (.dashboardError message,queued) => (.failed command target message,queued)
        | (.raised _,queued) => (.raised,queued)

def target (registry : Registry) (mode : Option String) : Option Instance :=
  (registry.targetMode mode).bind (fun name => registry.lookup name)

end Registry

/-- The words that may be posted alone. -/
def plainWords : List Word :=
  [.stop,.restart,.reconnectData,.reconnectAccount,.enableApi,.pause,.resume,.restartSocat,.hitlResume]

/-- The words that may be posted with a name. -/
def namingWords : List Word := [.setState,.pause]

def firstLine (cs : List Char) : List Char := cs.takeWhile (fun c => c ≠ '\n')

/-- What a posted text asks for: one of the words in any letters, alone or with the first word that
follows on its line. -/
inductive Asks (posted : List Char) : Machine.Command → Prop where
  | alone (w : Word) (plain : w ∈ plainWords)
      (spelled : upperChars (trimChars isPythonSpace posted) = w.text) {command : Machine.Command}
      (means : w.command [] = some (.action command)) : Asks posted command
  | naming (w : Word) (names : w ∈ namingWords) (keyword rest : List Char)
      (parts : splitOnce ' ' (trimChars isPythonSpace posted) = some (keyword,rest))
      (spelled : upperChars keyword = w.text) {command : Machine.Command}
      (means : w.command (splitWhitespace (firstLine rest)) = some (.action command)) : Asks posted command

/-- The commands that the endpoint is for. -/
def Offered : Machine.Command → Prop
  | .stop => True
  | .restart => True
  | .reconnectData => True
  | .reconnectAccount => True
  | .enableApi => True
  | .pause => True
  | .pauseAt _ => True
  | .resume => True
  | .restartSocat => True
  | .hitlResume => True
  | .setState _ => True
  | _ => False

section Words

theorem splitWhitespace_break {c : Char} (blank : isWhitespace c = true) (before after : List Char) :
    splitWhitespace (before ++ c :: after) = splitWhitespace before ++ splitWhitespace after := by
  unfold splitWhitespace
  rw [List.splitOnP_append_cons before after blank,List.filter_append]

/-- Blanks at the end are in no word. -/
theorem splitWhitespace_rdropWhile (cs : List Char) :
    splitWhitespace (cs.rdropWhile isWhitespace) = splitWhitespace cs := by
  induction cs using List.reverseRecOn with
  | nil => rfl
  | append_singleton cs last ih =>
    cases blank : isWhitespace last with
    | true =>
      have nothing : splitWhitespace [] = [] := rfl
      rw [List.rdropWhile_concat_pos _ _ _ blank,ih,splitWhitespace_break blank,nothing,List.append_nil]
    | false => rw [List.rdropWhile_concat_neg _ _ _ (by simp [blank])]

theorem unblank_of_upper {cs : List Char} (unblank : ' ' ∉ upperChars cs) : ' ' ∉ cs := by
  intro among
  exact unblank (List.mem_flatMap.mpr ⟨' ',among,List.mem_singleton_self ' '⟩)

theorem upper_unblank {cs : List Char} (unblank : ' ' ∉ cs) : ' ' ∉ upperChars cs := by
  intro among
  obtain ⟨c,member,mapped⟩ := List.mem_flatMap.mp among
  exact unblank (upperChar_becomes mapped (by decide) ▸ member)

theorem text_unblank (w : Word) : ' ' ∉ w.text := by cases w <;> decide

theorem text_unbroken (w : Word) : '\n' ∉ w.text := by cases w <;> decide

/-- A word at the front stays, and so does all that is not blank to the end. -/
theorem trimChars_word {blank : Char → Bool} {word : List Char} (nonempty : word ≠ [])
    (solid : ∀ c ∈ word, blank c = false) (tail : List Char) :
    trimChars blank (word ++ tail) = word ++ tail.rdropWhile blank := by
  obtain ⟨front,last,rfl⟩ : ∃ front last, word = front ++ [last] :=
    ⟨word.dropLast,word.getLast nonempty,(List.dropLast_append_getLast nonempty).symm⟩
  have stays : blank last = false := solid last (by simp)
  have starts : (front ++ [last] ++ tail).dropWhile blank = front ++ [last] ++ tail := by
    cases front with
    | nil => exact List.dropWhile_cons_of_neg (by simp [stays])
    | cons first front => exact List.dropWhile_cons_of_neg (by simp [solid first (by simp)])
  rw [trimChars_eq,starts,List.append_assoc,List.singleton_append,rdropWhile_append_of_last stays]
  simp

end Words

section Lines

variable {w : Word} {rest : List Char}

/-- Up to its newline, a line is read as its first line. -/
theorem readLine_firstLine (cs : List Char) : readLine (cs ++ ['\n']) = firstLine cs ++ ['\n'] := by
  by_cases broken : '\n' ∈ cs
  · obtain ⟨line,after,rfl,free⟩ := splitOnce_mem broken
    have kept : ∀ c ∈ line, decide (c ≠ '\n') = true := fun c among =>
      decide_eq_true (ne_of_mem_of_not_mem among free)
    rw [List.append_assoc,List.cons_append,readLine_found free,firstLine,List.takeWhile_append_of_pos kept]
    simp
  · have kept : ∀ c ∈ cs, decide (c ≠ '\n') = true := fun c among =>
      decide_eq_true (ne_of_mem_of_not_mem among broken)
    rw [readLine_found broken,firstLine,List.takeWhile_eq_self_iff.mpr kept]

/-- What the command server looks at. -/
def shown (command : List Char) : List Char := trimChars isWhitespace (readLine (command ++ ['\n']))

theorem shown_alone (w : Word) : shown w.text = w.text := by
  rw [shown,readLine_found (text_unbroken w),trimChars_concat (by decide),trimChars_of_solid w.text_solid.2]

theorem firstLine_behind {word : List Char} (unbroken : '\n' ∉ word) (rest : List Char) :
    firstLine (word ++ rest) = word ++ firstLine rest := by
  have kept : ∀ c ∈ word, decide (c ≠ '\n') = true := fun c among =>
    decide_eq_true (ne_of_mem_of_not_mem among unbroken)
  rw [firstLine,List.takeWhile_append_of_pos kept]
  rfl

theorem shown_naming (w : Word) (rest : List Char) :
    shown (w.text ++ ' ' :: rest) = w.text ++ (' ' :: firstLine rest).rdropWhile isWhitespace := by
  have blank : firstLine (' ' :: rest) = ' ' :: firstLine rest := rfl
  rw [shown,readLine_firstLine,firstLine_behind (text_unbroken w),blank,trimChars_concat (by decide),
    trimChars_word w.text_solid.1 w.text_solid.2]

/-- The blanks at the end of a line are cut off with what they follow, or they are all that there is. -/
theorem rdropWhile_gap (cs : List Char) :
    (' ' :: cs).rdropWhile isWhitespace = [] ∨ ∃ tail, (' ' :: cs).rdropWhile isWhitespace = ' ' :: tail := by
  have start : (' ' :: cs).rdropWhile isWhitespace <+: ' ' :: cs := List.rdropWhile_prefix _ _
  cases shape : (' ' :: cs).rdropWhile isWhitespace with
  | nil => exact .inl rfl
  | cons c tail =>
    rw [shape] at start
    exact .inr ⟨tail,by rw [(List.cons_prefix_cons.mp start).1]⟩

theorem received_alone (plain : w ∈ plainWords) : received (w.text ++ ['\n']) = w.command [] := by
  have first : (splitWhitespace (upperChars w.text)).head? = some w.text := by
    cases w <;> decide +kernel
  have parsed := parseCommand_word w (trimChars_of_solid w.text_solid.2) first
  have branch : w.branch w.text = w.command [] := by
    simp only [plainWords,List.mem_cons,List.not_mem_nil,or_false] at plain
    rcases plain with rfl | rfl | rfl | rfl | rfl | rfl | rfl | rfl | rfl <;> decide +kernel
  have line : received (w.text ++ ['\n']) = parseCommand (shown w.text) := rfl
  rw [line,shown_alone,parsed,branch]

theorem received_naming (names : w ∈ namingWords) (rest : List Char) :
    received (w.text ++ ' ' :: rest ++ ['\n']) = w.command (splitWhitespace (firstLine rest)) := by
  have line : received (w.text ++ ' ' :: rest ++ ['\n']) = parseCommand (shown (w.text ++ ' ' :: rest)) := rfl
  have same : trimChars isWhitespace (shown (w.text ++ ' ' :: rest)) =
      w.text ++ (' ' :: firstLine rest).rdropWhile isWhitespace := by
    rw [shown,trimChars_idem,← shown,shown_naming]
  have upper : upperChars w.text = w.text := by cases w <;> decide +kernel
  have words : splitWhitespace (w.text ++ (' ' :: firstLine rest).rdropWhile isWhitespace) =
      w.text :: splitWhitespace (firstLine rest) := by
    have behind := splitWhitespace_rdropWhile (' ' :: firstLine rest)
    rw [splitWhitespace_cons (by decide)] at behind
    rcases rdropWhile_gap (firstLine rest) with nothing | ⟨tail,shape⟩
    · rw [nothing] at behind ⊢
      rw [List.append_nil,splitWhitespace_word w.text_solid,← behind]
      rfl
    · rw [shape] at behind ⊢
      rw [splitWhitespace_break (by decide),splitWhitespace_word w.text_solid,← behind,
        splitWhitespace_cons (by decide)]
      rfl
  have first : (splitWhitespace (upperChars (w.text ++ (' ' :: firstLine rest).rdropWhile isWhitespace))).head? =
      some w.text := by
    rw [upperChars_append,upper]
    rcases rdropWhile_gap (firstLine rest) with nothing | ⟨tail,shape⟩
    · have nothing_ : upperChars [] = [] := rfl
      rw [nothing,nothing_,List.append_nil,splitWhitespace_word w.text_solid]
      rfl
    · have blank : upperChars (' ' :: tail) = ' ' :: upperChars tail := rfl
      rw [shape,blank,splitWhitespace_head w.text_solid.1 w.text_solid.2 (by decide)]
  rw [line,parseCommand_word w same first]
  simp only [namingWords,List.mem_cons,List.not_mem_nil,or_false] at names
  rcases names with rfl | rfl
  · rw [Word.branch,words]
    rfl
  · rw [Word.branch,words]
    rfl

end Lines

section Asking

variable {posted : List Char} {command : Machine.Command}

theorem plain_accepted {w : Word} (plain : w ∈ plainWords) : isAccepted w.text = true := by
  simp only [plainWords,List.mem_cons,List.not_mem_nil,or_false] at plain
  rcases plain with rfl | rfl | rfl | rfl | rfl | rfl | rfl | rfl | rfl <;> decide

theorem naming_accepted {w : Word} (names : w ∈ namingWords) (rest : List Char) :
    isAccepted (w.text ++ ' ' :: rest) = true := by
  have known : w.text ++ [' '] ∈ prefixedCommands := by
    simp only [namingWords,List.mem_cons,List.not_mem_nil,or_false] at names
    rcases names with rfl | rfl <;> decide
  have starts : (w.text ++ [' ']).isPrefixOf (w.text ++ ' ' :: rest) = true :=
    List.isPrefixOf_iff_prefix.mpr ⟨rest,by simp⟩
  unfold isAccepted
  rw [List.any_eq_true.mpr ⟨_,known,starts⟩,Bool.or_true]

theorem commandOf_none (whole : splitOnce ' ' (trimChars isPythonSpace posted) = none) :
    commandOf posted = upperChars (trimChars isPythonSpace posted) := by
  simp only [commandOf,whole]

theorem commandOf_some {keyword rest : List Char}
    (parts : splitOnce ' ' (trimChars isPythonSpace posted) = some (keyword,rest)) :
    commandOf posted = upperChars keyword ++ ' ' :: rest := by
  simp only [commandOf,parts]

theorem unblank_of_whole {cs : List Char} (whole : splitOnce ' ' cs = none) : ' ' ∉ cs := by
  intro among
  rw [splitOnce,if_pos among] at whole
  cases whole

/-- What is accepted is one of the words alone, or a word with what follows it. -/
theorem accepted_cases (accepted : isAccepted (commandOf posted) = true) :
    (∃ w ∈ plainWords, upperChars (trimChars isPythonSpace posted) = w.text) ∨
      ∃ w ∈ namingWords, ∃ keyword rest, splitOnce ' ' (trimChars isPythonSpace posted) = some (keyword,rest) ∧
        upperChars keyword = w.text := by
  have plain : allowedCommands = plainWords.map Word.text := by decide
  have names : prefixedCommands = namingWords.map (fun w => w.text ++ [' ']) := by decide
  unfold isAccepted at accepted
  rw [Bool.or_eq_true,List.contains_iff_mem,List.any_eq_true,plain,names] at accepted
  cases parts : splitOnce ' ' (trimChars isPythonSpace posted) with
  | none =>
    have unblank := upper_unblank (unblank_of_whole parts)
    rw [commandOf_none parts] at accepted
    rcases accepted with among | ⟨known,among,starts⟩
    · obtain ⟨w,member,same⟩ := List.mem_map.mp among
      exact .inl ⟨w,member,same.symm⟩
    · obtain ⟨w,-,rfl⟩ := List.mem_map.mp among
      have within := (List.isPrefixOf_iff_prefix.mp starts).subset
      exact absurd (within (by simp)) unblank
  | some pieces =>
    obtain ⟨keyword,rest⟩ := pieces
    have free := upper_unblank (splitOnce_some parts).2
    rw [commandOf_some parts] at accepted
    rcases accepted with among | ⟨known,among,starts⟩
    · obtain ⟨w,-,same⟩ := List.mem_map.mp among
      exact absurd (by rw [same]; simp) (text_unblank w)
    · obtain ⟨w,member,rfl⟩ := List.mem_map.mp among
      obtain ⟨tail,same⟩ := List.isPrefixOf_iff_prefix.mp starts
      rw [List.append_assoc,List.singleton_append] at same
      have pieces := @splitOnce_found ' ' _ (text_unblank w) tail
      rw [same,splitOnce_found free] at pieces
      exact .inr ⟨w,member,keyword,rest,rfl,(Prod.mk.inj (Option.some.inj pieces)).1⟩

theorem commandOf_alone {w : Word} (spelled : upperChars (trimChars isPythonSpace posted) = w.text) :
    commandOf posted = w.text := by
  have unblank : ' ' ∉ trimChars isPythonSpace posted := unblank_of_upper (spelled ▸ text_unblank w)
  exact (commandOf_none (if_neg unblank)).trans spelled

theorem commandOf_naming {w : Word} {keyword rest : List Char}
    (parts : splitOnce ' ' (trimChars isPythonSpace posted) = some (keyword,rest))
    (spelled : upperChars keyword = w.text) : commandOf posted = w.text ++ ' ' :: rest := by
  rw [commandOf_some parts,spelled]

theorem asks_accepted (asks : Asks posted command) : isAccepted (commandOf posted) = true := by
  cases asks with
  | alone w plain spelled =>
    rw [commandOf_alone spelled]
    exact plain_accepted plain
  | naming w names keyword rest parts spelled =>
    rw [commandOf_naming parts spelled]
    exact naming_accepted names rest

/-- The command server reads what was asked for, and nothing else. -/
theorem received_iff (accepted : isAccepted (commandOf posted) = true) :
    received (commandOf posted ++ ['\n']) = some (.action command) ↔ Asks posted command := by
  constructor
  · intro read
    rcases accepted_cases accepted with ⟨w,plain,spelled⟩ | ⟨w,names,keyword,rest,parts,spelled⟩
    · rw [commandOf_alone spelled,received_alone plain] at read
      exact .alone w plain spelled read
    · rw [commandOf_naming parts spelled,received_naming names] at read
      exact .naming w names keyword rest parts spelled read
  · intro asks
    cases asks with
    | alone w plain spelled means => rw [commandOf_alone spelled,received_alone plain,means]
    | naming w names keyword rest parts spelled means =>
      rw [commandOf_naming parts spelled,received_naming names,means]

theorem received_action (accepted : isAccepted (commandOf posted) = true) {query : QueryType} :
    received (commandOf posted ++ ['\n']) ≠ some (.query query) := by
  intro read
  rcases accepted_cases accepted with ⟨w,plain,spelled⟩ | ⟨w,names,keyword,rest,parts,spelled⟩
  · rw [commandOf_alone spelled,received_alone plain] at read
    simp only [plainWords,List.mem_cons,List.not_mem_nil,or_false] at plain
    rcases plain with rfl | rfl | rfl | rfl | rfl | rfl | rfl | rfl | rfl <;> cases read
  · rw [commandOf_naming parts spelled,received_naming names] at read
    simp only [namingWords,List.mem_cons,List.not_mem_nil,or_false] at names
    rcases names with rfl | rfl
    · rw [Word.command,Option.map_eq_some_iff] at read
      obtain ⟨name,-,same⟩ := read
      cases same
    · cases read

theorem asks_offered (asks : Asks posted command) : Offered command := by
  cases asks with
  | alone w plain spelled means =>
    simp only [plainWords,List.mem_cons,List.not_mem_nil,or_false] at plain
    rcases plain with rfl | rfl | rfl | rfl | rfl | rfl | rfl | rfl | rfl <;> cases means <;> trivial
  | naming w names keyword rest parts spelled means =>
    simp only [namingWords,List.mem_cons,List.not_mem_nil,or_false] at names
    rcases names with rfl | rfl
    · rw [Word.command,Option.map_eq_some_iff] at means
      obtain ⟨name,-,same⟩ := means
      cases same
      trivial
    · rw [Word.command] at means
      cases named : (splitWhitespace (firstLine rest)).head? with
      | none =>
        rw [named] at means
        cases means
        trivial
      | some name =>
        rw [named] at means
        cases means
        trivial

end Asking

section Answers

variable {posted : List Char} {command : Machine.Command} {i : Instance}

theorem Asks.unique {other : Machine.Command} (asks : Asks posted command) (also : Asks posted other) :
    command = other := by
  have accepted := asks_accepted asks
  have first := (received_iff accepted).mpr asks
  have second := (received_iff accepted).mpr also
  rw [first] at second
  cases second
  rfl

/-- What is shown begins with a letter. -/
theorem shown_starts (accepted : isAccepted (commandOf posted) = true) :
    ∃ first rest, upperChars (shown (commandOf posted)) = first :: rest ∧ isPythonSpace first = false := by
  obtain ⟨w,tail,same⟩ : ∃ (w : Word) (tail : List Char), shown (commandOf posted) = w.text ++ tail := by
    rcases accepted_cases accepted with ⟨w,plain,spelled⟩ | ⟨w,names,keyword,rest,parts,spelled⟩
    · exact ⟨w,[],by rw [commandOf_alone spelled,shown_alone,List.append_nil]⟩
    · exact ⟨w,_,by rw [commandOf_naming parts spelled,shown_naming]⟩
  obtain ⟨first,more,text,solid⟩ : ∃ first more, w.text = first :: more ∧ isPythonSpace first = false := by
    cases w <;> exact ⟨_,_,rfl,by decide⟩
  have upper : upperChars w.text = w.text := by cases w <;> decide +kernel
  exact ⟨first,more ++ upperChars tail,by rw [same,upperChars_append,upper,text,List.cons_append],solid⟩

/-- What was asked for is queued and acknowledged. -/
def Handled (i : Instance) (posted : List Char) : Prop :=
  ∃ command line, Asks posted command ∧
    (i.peer.allowed = true ∧ i.channelOpen = true ∧
      (isPrivilegedCommand command = true → i.peer.localhost = true)) ∧
    handleConnection i.peer i.channelOpen (commandOf posted ++ ['\n']) = .replied line (some command) ∧
    ∃ text, readReply (commandOf posted) line = .returned (some text)

/-- The peer may not send what was asked for, if anything was, and the reply is an error. -/
def Refused (i : Instance) (posted : List Char) : Prop :=
  (∀ command, Asks posted command → i.peer.allowed = true → i.channelOpen = true →
      ¬ (isPrivilegedCommand command = true → i.peer.localhost = true)) ∧
    ∃ line, handleConnection i.peer i.channelOpen (commandOf posted ++ ['\n']) = .replied line none ∧
      ∃ message, readReply (commandOf posted) line = .dashboardError message

theorem readReply_refused (first : Char) (solid : isPythonSpace first = false) (rest : List Char) :
    ∃ message, readReply (commandOf posted) ("ERROR ".toList ++ first :: rest) = .dashboardError message :=
  ⟨_,(readReply_error (commandOf posted) solid rest).choose_spec⟩

theorem readReply_acknowledged (accepted : isAccepted (commandOf posted) = true) :
    ∃ text, readReply (commandOf posted) ("OK ".toList ++ upperChars (shown (commandOf posted)) ++ ['\n']) =
      .returned (some text) := by
  obtain ⟨first,rest,upper,solid⟩ := shown_starts accepted
  obtain ⟨text,reply⟩ := readReply_ok (commandOf posted) solid (rest ++ ['\n'])
  have line : "OK ".toList ++ upperChars (shown (commandOf posted)) ++ ['\n'] =
      "OK ".toList ++ first :: (rest ++ ['\n']) := by
    rw [upper]
    simp
  exact ⟨_,line ▸ reply⟩

theorem handled_parsed {i : Instance} (accepted : isAccepted (commandOf posted) = true)
    (allowed : i.peer.allowed = true)
    (parsed : received (commandOf posted ++ ['\n']) = some (.action command)) :
    Handled i posted ∨ Refused i posted := by
  have some_ : commandOf posted ++ ['\n'] ≠ [] := by simp
  have parse : parseCommand (trimChars isWhitespace (readLine (commandOf posted ++ ['\n']))) =
      some (.action command) := parsed
  have asks := (received_iff accepted).mp parsed
  unfold Handled Refused handleConnection
  rw [if_neg (by simp [allowed]),if_neg some_]
  simp only [parse]
  by_cases far : isPrivilegedCommand command = true ∧ i.peer.localhost = false
  · rw [if_pos far]
    refine .inr ⟨fun other also _ _ near => ?_,_,rfl,
      readReply_refused 'p' (by decide) "rivileged command requires localhost\n".toList⟩
    cases asks.unique also
    have here := near far.1
    rw [far.2] at here
    cases here
  · rw [if_neg far]
    cases open_ : i.channelOpen with
    | false =>
      refine .inr ⟨fun other also _ up => ?_,_,rfl,
        readReply_refused 'c' (by decide) "ommand channel closed\n".toList⟩
      cases up
    | true =>
      refine .inl ⟨command,_,asks,⟨allowed,rfl,fun privileged => ?_⟩,rfl,readReply_acknowledged accepted⟩
      cases here : i.peer.localhost with
      | true => rfl
      | false => exact absurd ⟨privileged,here⟩ far

/-- The line is handled as what was asked for, or it is refused. -/
theorem handled_cases (i : Instance) (accepted : isAccepted (commandOf posted) = true) :
    Handled i posted ∨ Refused i posted := by
  by_cases allowed : i.peer.allowed = true
  · cases parsed : received (commandOf posted ++ ['\n']) with
    | some what =>
      cases what with
      | query query => exact absurd parsed (received_action accepted)
      | action command => exact handled_parsed accepted allowed parsed
    | none =>
      have some_ : commandOf posted ++ ['\n'] ≠ [] := by simp
      have parse : parseCommand (trimChars isWhitespace (readLine (commandOf posted ++ ['\n']))) = none := parsed
      refine .inr ⟨fun command asks => ?_,"ERROR unknown command: ".toList ++ shown (commandOf posted) ++ ['\n'],?_,
        readReply_refused 'u' (by decide)
          ("nknown command: ".toList ++ shown (commandOf posted) ++ ['\n'])⟩
      · have known := (received_iff accepted).mpr asks
        rw [parsed] at known
        cases known
      · unfold handleConnection
        rw [if_neg (by simp [allowed]),if_neg some_]
        simp only [parse]
        rfl
  · refine .inr ⟨fun command _ there => absurd there allowed,"ERROR not authorized\n".toList,?_,
      readReply_refused 'n' (by decide) "ot authorized\n".toList⟩
    unfold handleConnection
    rw [if_pos (by simpa using allowed)]

/-- The line is queued as what was asked for, if the peer may send it. -/
theorem queues_iff (i : Instance) (accepted : isAccepted (commandOf posted) = true) :
    i.queues (commandOf posted) = some command ↔ Asks posted command ∧ i.peer.allowed = true ∧
      i.channelOpen = true ∧ (isPrivilegedCommand command = true → i.peer.localhost = true) := by
  rcases handled_cases i accepted with ⟨known,line,asks,admits,handled,-⟩ | ⟨refuses,line,handled,-⟩
  · rw [Instance.queues,handled]
    constructor
    · intro same
      cases same
      exact ⟨asks,admits⟩
    · rintro ⟨also,-⟩
      rw [asks.unique also]
  · rw [Instance.queues,handled]
    constructor
    · intro same
      cases same
    · rintro ⟨also,allowed,open_,near⟩
      exact absurd near (refuses command also allowed open_)

theorem send_queued (i : Instance) (command : List Char) :
    ((i.delivery command).send command).2 = if i.arrives then i.queues command else none := by
  unfold Instance.delivery Instance.arrives Delivery.send
  cases i.failure with
  | none =>
    simp only [if_true,Instance.queues]
    cases handleConnection i.peer i.channelOpen (command ++ ['\n']) <;> rfl
  | some why =>
    obtain ⟨failure,arrives⟩ := why
    cases failure <;> rfl

/-- A reply is read as a success just where the line was queued. -/
theorem send_returned (i : Instance) (accepted : isAccepted (commandOf posted) = true) :
    (∃ result, ((i.delivery (commandOf posted)).send (commandOf posted)).1 = .returned result) ↔
      i.failure = none ∧ ∃ command, i.queues (commandOf posted) = some command := by
  cases failed : i.failure with
  | none =>
    simp only [Instance.delivery,failed,Delivery.send,Instance.queues]
    rcases handled_cases i accepted with ⟨command,line,-,-,handled,text,reply⟩ | ⟨-,line,handled,message,reply⟩
    · simp only [handled,reply]
      exact ⟨fun _ => ⟨trivial,command,rfl⟩,fun _ => ⟨_,rfl⟩⟩
    · simp only [handled,reply]
      constructor
      · rintro ⟨result,same⟩
        cases same
      · rintro ⟨-,command,same⟩
        cases same
  | some why =>
    obtain ⟨failure,arrives⟩ := why
    constructor
    · rintro ⟨result,same⟩
      cases failure <;> simp only [Instance.delivery,failed,Delivery.send] at same <;> cases same
    · rintro ⟨same,-⟩
      cases same

section Routing

variable {registry : Registry} {mode : Option String}

theorem sendCommand_found (accepted : isAccepted (commandOf posted) = true) (found : registry.target mode = some i) :
    (registry.sendCommand posted mode).2 = ((i.delivery (commandOf posted)).send (commandOf posted)).2 ∧
      ((registry.sendCommand posted mode).1.ok = true ↔
        ∃ result, ((i.delivery (commandOf posted)).send (commandOf posted)).1 = .returned result) := by
  unfold Registry.target at found
  unfold Registry.sendCommand
  simp only [accepted,Bool.true_eq_false,if_false]
  cases named : registry.targetMode mode with
  | none =>
    rw [named] at found
    cases found
  | some target =>
    rw [named,Option.bind_some] at found
    simp only [found]
    rcases (i.delivery (commandOf posted)).send (commandOf posted) with ⟨reply,queued⟩
    cases reply with
    | returned result => exact ⟨rfl,fun _ => ⟨result,rfl⟩,fun _ => rfl⟩
    | dashboardError message =>
      refine ⟨rfl,fun no => ?_,?_⟩
      · cases no
      · rintro ⟨result,same⟩
        cases same
    | raised exception =>
      refine ⟨rfl,fun no => ?_,?_⟩
      · cases no
      · rintro ⟨result,same⟩
        cases same

theorem sendCommand_missing (accepted : isAccepted (commandOf posted) = true)
    (missing : registry.target mode = none) :
    (registry.sendCommand posted mode).2 = none ∧ (registry.sendCommand posted mode).1.ok = false := by
  unfold Registry.target at missing
  unfold Registry.sendCommand
  simp only [accepted,Bool.true_eq_false,if_false]
  cases named : registry.targetMode mode with
  | none => exact ⟨rfl,rfl⟩
  | some target =>
    rw [named,Option.bind_some] at missing
    simp only [missing]
    exact ⟨trivial,rfl⟩

theorem sendCommand_refused (refused : isAccepted (commandOf posted) = false) :
    (registry.sendCommand posted mode).2 = none ∧ (registry.sendCommand posted mode).1.ok = false := by
  have answered : registry.sendCommand posted mode = (.unknownCommand (commandOf posted),none) := if_pos refused
  rw [answered]
  exact ⟨rfl,rfl⟩

theorem queued_iff : (registry.sendCommand posted mode).2 = some command ↔
    Asks posted command ∧ ∃ i, registry.target mode = some i ∧ i.Takes command := by
  constructor
  · intro queued
    cases accepted : isAccepted (commandOf posted) with
    | false =>
      rw [(sendCommand_refused accepted).1] at queued
      cases queued
    | true =>
      cases found : registry.target mode with
      | none =>
        rw [(sendCommand_missing accepted found).1] at queued
        cases queued
      | some i =>
        rw [(sendCommand_found accepted found).1,send_queued] at queued
        cases arrived : i.arrives with
        | false =>
          rw [arrived] at queued
          cases queued
        | true =>
          rw [arrived,if_pos rfl,queues_iff i accepted] at queued
          exact ⟨queued.1,i,rfl,arrived,queued.2⟩
  · rintro ⟨asks,i,found,arrives,admits⟩
    have accepted := asks_accepted asks
    rw [(sendCommand_found accepted found).1,send_queued,arrives,if_pos rfl,queues_iff i accepted]
    exact ⟨asks,admits⟩

theorem ok_iff : (registry.sendCommand posted mode).1.ok = true ↔
    (∃ command, (registry.sendCommand posted mode).2 = some command) ∧
      ∃ i, registry.target mode = some i ∧ i.failure = none := by
  cases accepted : isAccepted (commandOf posted) with
  | false =>
    rw [(sendCommand_refused accepted).1,(sendCommand_refused accepted).2]
    refine ⟨fun no => ?_,?_⟩
    · cases no
    · rintro ⟨⟨command,same⟩,-⟩
      cases same
  | true =>
    cases found : registry.target mode with
    | none =>
      rw [(sendCommand_missing accepted found).1,(sendCommand_missing accepted found).2]
      refine ⟨fun no => ?_,?_⟩
      · cases no
      · rintro ⟨⟨command,same⟩,-⟩
        cases same
    | some i =>
      rw [(sendCommand_found accepted found).2,send_returned i accepted,
        (sendCommand_found accepted found).1,send_queued]
      constructor
      · rintro ⟨read,command,queued⟩
        have arrives : i.arrives = true := by rw [Instance.arrives,read]
        rw [arrives,if_pos rfl]
        exact ⟨⟨command,queued⟩,i,rfl,read⟩
      · rintro ⟨⟨command,queued⟩,_,same,read⟩
        cases same
        have arrives : i.arrives = true := by rw [Instance.arrives,read]
        rw [arrives,if_pos rfl] at queued
        exact ⟨read,command,queued⟩

end Routing

/-- The state machine gets what was asked for, if it is there to take it, and nothing else; and the
endpoint says so just when it does and the reply is read. -/
theorem command_posted (registry : Registry) (posted : List Char) (mode : Option String) :
    (∀ command, (registry.sendCommand posted mode).2 = some command ↔
      Asks posted command ∧ ∃ i, registry.target mode = some i ∧ i.Takes command) ∧
    (∀ command, (registry.sendCommand posted mode).2 = some command → Offered command) ∧
    ((registry.sendCommand posted mode).1.ok = true ↔
      (∃ command, (registry.sendCommand posted mode).2 = some command) ∧
        ∃ i, registry.target mode = some i ∧ i.failure = none) :=
  ⟨fun _ => queued_iff,fun _ queued => asks_offered (queued_iff.mp queued).1,ok_iff⟩

end Answers

/-- A second line behind the name goes to nobody. -/
example : (Registry.sendCommand [("live",⟨⟨true,true⟩,true,fun _ => [],none⟩)] "setstate Connected\nEXIT".toList none).2 =
    some (.setState "Connected") := by decide +kernel

end Ibctl.Dashboard
