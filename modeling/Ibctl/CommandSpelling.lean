import Ibctl.CommandServer
import Ibctl.Lib.Spacing

/-! One command in many spellings: letters in either case, any white space around and between its
words. The command word is found at any white space, some of its arguments only at single blanks. -/
namespace Ibctl.CommandServer
open Text

inductive Word where
  | stop
  | start
  | restart
  | reconnectData
  | reconnectAccount
  | enableApi
  | exit
  | restartSocat
  | saveSettings
  | saveTwsSettings
  | pause
  | resume
  | hitlResume
  | resumeReconnect
  | setState
  | ibStatus
  | setRestart
  | status
  | state
  | config
  | logs
  | windows
  | subscribe
deriving DecidableEq, Repr

namespace Word

def text : Word → List Char
  | stop => "STOP".toList
  | start => "START".toList
  | restart => "RESTART".toList
  | reconnectData => "RECONNECTDATA".toList
  | reconnectAccount => "RECONNECTACCOUNT".toList
  | enableApi => "ENABLEAPI".toList
  | exit => "EXIT".toList
  | restartSocat => "RESTARTSOCAT".toList
  | saveSettings => "SAVESETTINGS".toList
  | saveTwsSettings => "SAVETWSSETTINGS".toList
  | pause => "PAUSE".toList
  | resume => "RESUME".toList
  | hitlResume => "HITL_RESUME".toList
  | resumeReconnect => "RESUME_RECONNECT".toList
  | setState => "SETSTATE".toList
  | ibStatus => "IBSTATUS".toList
  | setRestart => "SETRESTART".toList
  | status => "STATUS".toList
  | state => "STATE".toList
  | config => "CONFIG".toList
  | logs => "LOGS".toList
  | windows => "WINDOWS".toList
  | subscribe => "SUBSCRIBE".toList

/-- The command that the word and its arguments stand for. -/
def command (arguments : List (List Char)) : Word → Option ParsedCommand
  | stop => some (.action .stop)
  | start => some (.action .start)
  | restart => some (.action .restart)
  | reconnectData => some (.action .reconnectData)
  | reconnectAccount => some (.action .reconnectAccount)
  | enableApi => some (.action .enableApi)
  | exit => some (.action .exit)
  | restartSocat => some (.action .restartSocat)
  | saveSettings => some (.action .saveSettings)
  | saveTwsSettings => some (.action .saveSettings)
  | pause => some (.action ((arguments.head?.map (fun name => .pauseAt (String.ofList name))).getD .pause))
  | resume => some (.action .resume)
  | hitlResume => some (.action .hitlResume)
  | resumeReconnect => arguments.head?.map (fun token => .action (.resumeReconnect (String.ofList token)))
  | setState => arguments.head?.map (fun name => .action (.setState (String.ofList name)))
  | ibStatus =>
    let named := String.ofList (arguments[0]?.getD "available".toList)
    if isIbStatus named then
      some (.action (.ibStatus named
        (String.ofList (cleanReason (trimMatches isQuote (arguments[1]?.getD []))))))
    else none
  | setRestart => arguments.head?.map (fun time => .action (.setRestartTime (String.ofList time)))
  | status => some (.query .status)
  | state => some (.query .state)
  | config => some (.query .config)
  | logs => some (.query (.logs ((arguments.head?.bind (parseUnsigned 64)).getD 100)))
  | windows => some (.query .windows)
  | subscribe => some (.query .subscribe)

/-- What `parse_command` does with the trimmed line at each word. -/
def branch (trimmed : List Char) : Word → Option ParsedCommand
  | pause => command ((splitWhitespace trimmed).drop 1) pause
  | setState => command ((splitWhitespace trimmed).drop 1) setState
  | logs => command ((splitWhitespace (upperChars trimmed)).drop 1) logs
  | resumeReconnect => parseArgument .resumeReconnect trimmed
  | setRestart => parseArgument .setRestartTime trimmed
  | ibStatus => parseIbStatus trimmed
  | w => w.command []

/-- A token and a time are all that is left of the line, and so is the reason behind a status;
other commands take words and ignore those they have no use for. -/
def Fits (arguments : List (List Char)) : Word → Prop
  | resumeReconnect => arguments.length ≤ 1 ∧ ∀ argument ∈ arguments, Phrase argument
  | setRestart => arguments.length ≤ 1 ∧ ∀ argument ∈ arguments, Phrase argument
  | ibStatus =>
    arguments.length ≤ 2 ∧ (∀ named ∈ arguments[0]?, Solid named) ∧ ∀ reason ∈ arguments[1]?, Phrase reason
  | _ => ∀ argument ∈ arguments, Solid argument

/-- How many arguments a word can have at most, if the last of them takes in the rest. -/
def most : Word → Option Nat
  | resumeReconnect => some 1
  | setRestart => some 1
  | ibStatus => some 2
  | _ => none

theorem text_keyword (w : Word) : w.text.all isKeywordChar = true := by cases w <;> decide

theorem text_solid (w : Word) : Solid w.text := by
  refine ⟨?_,solid_of_all ?_⟩ <;> cases w <;> decide

end Word

/-- How a line is written, apart from the arguments. -/
structure Spelling where
  word : Word
  letters : List Char
  letters_same : SameLetters letters word.text
  lead : List Char
  lead_blank : Blank lead
  trail : List Char
  trail_blank : Blank trail
  separators : List (List Char)
  separators_gap : ∀ separator ∈ separators, Gap separator
  separators_few : ∀ most, word.most = some most → separators.length ≤ most

namespace Spelling

def line (s : Spelling) (arguments : List (List Char)) : List Char :=
  s.lead ++ ((s.letters ++ spaced (s.separators.zip arguments)) ++ s.trail)

/-- Capitals and single blanks. -/
def canonical (word : Word) (count : Nat) (few : ∀ most, word.most = some most → count ≤ most) : Spelling where
  word := word
  letters := word.text
  letters_same := rfl
  lead := []
  lead_blank := nofun
  trail := []
  trail_blank := nofun
  separators := List.replicate count [' ']
  separators_gap separator among := by
    rw [List.eq_of_mem_replicate among]
    exact ⟨nofun,fun c member => by cases List.mem_singleton.mp member; rfl⟩
  separators_few most known := by
    rw [List.length_replicate]
    exact few most known

/-- Whatever the arguments are, the line is read as its canonical spelling is, its arguments are
as they were sent, and a status that it names is not read as another one. -/
def Immaterial (s : Spelling) : Prop :=
  ∀ arguments : List (List Char), arguments.length = s.separators.length → s.word.Fits arguments →
    parseCommand (s.line arguments) =
        parseCommand ((canonical s.word s.separators.length s.separators_few).line arguments) ∧
      parseCommand (s.line arguments) = s.word.command arguments ∧
      (s.word = .ibStatus → ∀ named ∈ arguments.head?, ∀ status reason,
        parseCommand (s.line arguments) = some (.action (.ibStatus status reason)) →
          status = String.ofList named)

/-- Where arguments are split off at blanks, the blanks are where the splitting needs them: one
somewhere before the rest of a line, one at the end before a status and none but one before a
reason. -/
def Splits (s : Spelling) : Prop :=
  match s.word with
  | .resumeReconnect => ∀ separator ∈ s.separators, ' ' ∈ separator
  | .setRestart => ∀ separator ∈ s.separators, ' ' ∈ separator
  | .ibStatus =>
    (∀ separator ∈ s.separators[0]?, ∃ before, separator = before ++ [' '] ∧ ' ' ∉ before) ∧
      ∀ separator ∈ s.separators[1]?, separator = [' ']
  | _ => True

end Spelling

section Reading

variable {s : Spelling} {arguments : List (List Char)}

theorem parseCommand_word (w : Word) {input trimmed : List Char}
    (trims : trimChars isWhitespace input = trimmed)
    (first : (splitWhitespace (upperChars trimmed)).head? = some w.text) :
    parseCommand input = w.branch trimmed := by
  have second : ∀ words : List (List Char), (words.drop 1).head? = words[1]? := by
    intro words
    rw [List.head?_drop]
  cases w
  case pause =>
    dsimp only [parseCommand]
    rw [trims,first]
    simp only [Word.branch,Word.command,second]
    cases (splitWhitespace trimmed)[1]? <;> rfl
  case setState =>
    dsimp only [parseCommand]
    rw [trims,first]
    simp only [Word.branch,Word.command,second]
    rfl
  case logs =>
    dsimp only [parseCommand]
    rw [trims,first]
    simp only [Word.branch,Word.command,second]
    rfl
  all_goals
    dsimp only [parseCommand]
    rw [trims,first]
    rfl

theorem phrase_spaced {word : List Char} {words : List (List Char × List Char)} (phrase : Phrase word)
    (each : ∀ w ∈ words, Phrase w.2) : Phrase (word ++ spaced words) := by
  induction words generalizing word with
  | nil =>
    simp only [spaced,List.flatMap_nil,List.append_nil]
    exact phrase
  | cons next words ih =>
    have joined : Phrase (word ++ (next.1 ++ next.2)) := by
      obtain ⟨first,-,starts,-,noFirst,-⟩ := phrase
      obtain ⟨-,last,-,ends,-,noLast⟩ := each next List.mem_cons_self
      refine ⟨first,last,?_,?_,noFirst,noLast⟩
      · rw [List.head?_append,starts]
        rfl
      · rw [List.getLast?_append,List.getLast?_append,ends]
        rfl
    have shape : word ++ spaced (next :: words) = (word ++ (next.1 ++ next.2)) ++ spaced words := by
      simp only [spaced,List.flatMap_cons,List.append_assoc]
    rw [shape]
    exact ih joined fun other among => each other (List.mem_cons_of_mem _ among)

theorem Word.Fits.phrases {w : Word} (fits : w.Fits arguments) : ∀ argument ∈ arguments, Phrase argument := by
  intro argument among
  cases w
  case resumeReconnect => exact fits.2 argument among
  case setRestart => exact fits.2 argument among
  case ibStatus =>
    obtain ⟨few,named,reason⟩ := fits
    match arguments,few with
    | [first],_ =>
      cases List.mem_singleton.mp among
      exact (named argument rfl).phrase
    | [first,second],_ =>
      rcases List.mem_cons.mp among with rfl | among
      · exact (named argument rfl).phrase
      · cases List.mem_singleton.mp among
        exact reason argument rfl
  all_goals exact (fits argument among).phrase

namespace Spelling

theorem letters_upper (s : Spelling) : upperChars s.letters = s.word.text :=
  upperChars_sameLetters s.word.text_keyword s.letters_same

theorem letters_solid (s : Spelling) : Solid s.letters := by
  have text := s.word.text_solid
  rw [← s.letters_upper] at text
  refine ⟨fun nothing => text.1 (by rw [nothing]; rfl),fun c member => ?_⟩
  cases blank : isWhitespace c with
  | false => rfl
  | true =>
    have kept : c ∈ upperChars s.letters :=
      List.mem_flatMap.mpr ⟨c,member,by rw [upperChar_blank blank]; exact List.mem_singleton_self c⟩
    exact blank.symm.trans (text.2 c kept)

theorem letters_unblank (s : Spelling) : ' ' ∉ s.letters := fun member => by
  have solid := s.letters_solid.2 ' ' member
  cases solid

variable (s) in
/-- The line without what is around it. -/
def core (arguments : List (List Char)) : List Char := s.letters ++ spaced (s.separators.zip arguments)

theorem line_trims (phrases : ∀ argument ∈ arguments, Phrase argument) :
    trimChars isWhitespace (s.line arguments) = s.core arguments := by
  refine trimChars_between s.lead_blank (phrase_spaced s.letters_solid.phrase ?_) s.trail_blank
  intro w among
  exact phrases w.2 (List.of_mem_zip among).2

theorem core_first (arguments : List (List Char)) :
    (splitWhitespace (upperChars (s.core arguments))).head? = some s.word.text := by
  have solid : Solid s.word.text := s.word.text_solid
  unfold core
  rw [upperChars_append,s.letters_upper]
  cases pairs : s.separators.zip arguments with
  | nil =>
    have nothing : upperChars (spaced []) = [] := rfl
    rw [nothing,List.append_nil,splitWhitespace_word solid]
    rfl
  | cons w words =>
    have among : w ∈ s.separators.zip arguments := by rw [pairs]; exact List.mem_cons_self
    have gap := s.separators_gap w.1 (List.of_mem_zip among).1
    have shape : spaced (w :: words) = w.1 ++ (w.2 ++ spaced words) := by
      simp only [spaced,List.flatMap_cons,List.append_assoc]
    rw [shape,upperChars_append,upperChars_blank gap.2]
    exact splitWhitespace_first solid gap _

theorem core_words (counted : arguments.length = s.separators.length)
    (solid : ∀ argument ∈ arguments, Solid argument) :
    splitWhitespace (s.core arguments) = s.letters :: arguments := by
  have each : ∀ w ∈ s.separators.zip arguments, Gap w.1 ∧ Solid w.2 := fun w among =>
    ⟨s.separators_gap w.1 (List.of_mem_zip among).1,solid w.2 (List.of_mem_zip among).2⟩
  have nothing : Blank [] := nofun
  have found := splitWhitespace_spaced s.letters_solid each nothing
  rw [List.append_nil,List.map_snd_zip counted.le] at found
  exact found

theorem core_upper (arguments : List (List Char)) :
    upperChars (s.core arguments) =
      s.word.text ++ spaced (s.separators.zip (arguments.map upperChars)) := by
  have each : ∀ (separators : List (List Char)) (arguments : List (List Char)),
      (∀ separator ∈ separators, Gap separator) →
        upperChars (spaced (separators.zip arguments)) = spaced (separators.zip (arguments.map upperChars)) := by
    intro separators
    induction separators with
    | nil => intro arguments _; rfl
    | cons separator separators ih =>
      intro arguments gaps
      cases arguments with
      | nil => rfl
      | cons argument arguments =>
        have others := ih arguments fun other among => gaps other (List.mem_cons_of_mem _ among)
        simp only [spaced,List.zip_cons_cons,List.flatMap_cons,List.map_cons,upperChars_append] at others ⊢
        rw [others,upperChars_blank (gaps separator List.mem_cons_self).2]
  unfold core
  rw [upperChars_append,s.letters_upper,each _ _ s.separators_gap]

end Spelling

section Rest

variable {letters separator argument : List Char} {make : String → Machine.Command}

/-- The argument is all that stands behind some blank of the separator. -/
theorem parseArgument_gap (unblank : ' ' ∉ letters) (gap : Gap separator) (phrase : Phrase argument)
    (blank : ' ' ∈ separator) :
    parseArgument make (letters ++ (separator ++ argument)) = some (.action (make (String.ofList argument))) := by
  obtain ⟨before,after,rfl,free⟩ := splitOnce_mem blank
  have shape : letters ++ ((before ++ ' ' :: after) ++ argument) =
      (letters ++ before) ++ ' ' :: (after ++ argument) := by simp
  have apart : ' ' ∉ letters ++ before := by simp [unblank,free]
  have blanks : Blank after := fun c among => gap.2 c (by simp [among])
  have trimmed : trimChars isWhitespace (after ++ argument) = argument := by
    rw [trimChars_lead blanks,phrase.trimChars]
  unfold parseArgument
  rw [shape,splitN_found 0 apart]
  simp only [splitN,List.getElem?_cons_succ,List.getElem?_cons_zero,Option.getD_some,trimmed]
  exact if_neg phrase.ne_nil

theorem parseArgument_unsplit (unblank : ' ' ∉ letters) : parseArgument make letters = none := by
  unfold parseArgument
  rw [splitN_single 1 unblank]
  exact if_pos rfl

end Rest

section Status

variable {letters separator named : List Char}

/-- The second and the third piece, where single blanks go before both. -/
theorem parseIbStatus_split {first reason : List Char} (free : ' ' ∉ first) (word : ' ' ∉ named) :
    parseIbStatus (first ++ ' ' :: (named ++ ' ' :: reason)) =
      if isIbStatus (String.ofList named) then
        some (.action (.ibStatus (String.ofList named) (String.ofList (cleanReason (trimMatches isQuote reason)))))
      else none := by
  unfold parseIbStatus
  rw [splitN_found 1 free,splitN_found 0 word]
  rfl

theorem parseIbStatus_named {first : List Char} (free : ' ' ∉ first) (word : ' ' ∉ named) :
    parseIbStatus (first ++ ' ' :: named) =
      if isIbStatus (String.ofList named) then some (.action (.ibStatus (String.ofList named) ""))
      else none := by
  unfold parseIbStatus
  rw [splitN_found 1 free,splitN_single 1 word]
  rfl

theorem parseIbStatus_unsplit (unblank : ' ' ∉ letters) :
    parseIbStatus letters = some (.action (.ibStatus "available" "")) := by
  unfold parseIbStatus
  rw [splitN_single 2 unblank]
  rfl

/-- A status that is read is the second piece, if there is one. -/
theorem parseIbStatus_second {first rest : List Char} (free : ' ' ∉ first) {status reason : String}
    (read : parseIbStatus (first ++ ' ' :: rest) = some (.action (.ibStatus status reason))) :
    status.toList = rest ∨ ∃ more, rest = status.toList ++ ' ' :: more := by
  by_cases blank : ' ' ∈ rest
  · obtain ⟨piece,more,rfl,word⟩ := splitOnce_mem blank
    rw [parseIbStatus_split free word] at read
    split at read
    · cases read
      exact .inr ⟨more,by rw [String.toList_ofList]⟩
    · cases read
  · rw [parseIbStatus_named free blank] at read
    split at read
    · cases read
      exact .inl String.toList_ofList
    · cases read

/-- So it does not begin with white space, nor with a quotation mark. -/
theorem parseIbStatus_starts {first rest : List Char} (free : ' ' ∉ first) {reason : String}
    (read : parseIbStatus (first ++ ' ' :: rest) = some (.action (.ibStatus "unavailable" reason))) :
    rest.head? = some 'u' := by
  rcases parseIbStatus_second free read with same | ⟨more,same⟩
  · rw [← same]
    rfl
  · rw [same]
    rfl

/-- Some separators in front of a status, of a status that is there by default otherwise. -/
theorem parseIbStatus_unnamed (unblank : ' ' ∉ letters) (gap : Gap separator) {tail : List Char}
    (follows : tail = [] ∨ ∃ second, Gap second ∧ tail = second ++ "\"x\"".toList) {reason : String}
    (read : parseIbStatus (letters ++ (separator ++ ("unavailable".toList ++ tail))) =
      some (.action (.ibStatus "unavailable" reason))) :
    ∃ before, separator = before ++ [' '] ∧ ' ' ∉ before := by
  by_cases blank : ' ' ∈ separator
  · obtain ⟨before,after,rfl,free⟩ := splitOnce_mem blank
    have shape : letters ++ ((before ++ ' ' :: after) ++ ("unavailable".toList ++ tail)) =
        (letters ++ before) ++ ' ' :: (after ++ ("unavailable".toList ++ tail)) := by simp
    rw [shape] at read
    have starts := parseIbStatus_starts (by simp [unblank,free]) read
    cases after with
    | nil => exact ⟨before,rfl,free⟩
    | cons c after =>
      cases starts
      cases gap.2 'u' (by simp)
  · have solid : ' ' ∉ letters ++ (separator ++ "unavailable".toList) := by simp [unblank,blank]
    rcases follows with rfl | ⟨second,gap',rfl⟩
    · rw [List.append_nil,parseIbStatus_unsplit solid] at read
      simp at read
    · by_cases later : ' ' ∈ second
      · obtain ⟨before,after,rfl,free⟩ := splitOnce_mem later
        have shape : letters ++ (separator ++ ("unavailable".toList ++
            ((before ++ ' ' :: after) ++ "\"x\"".toList))) =
            (letters ++ (separator ++ "unavailable".toList) ++ before) ++ ' ' ::
              (after ++ "\"x\"".toList) := by simp
        rw [shape] at read
        have starts := parseIbStatus_starts (by
          rw [List.mem_append]
          exact fun member => member.elim solid free) read
        cases after with
        | nil => cases starts
        | cons c after =>
          cases starts
          cases gap'.2 'u' (by simp)
      · have whole : ' ' ∉ letters ++ (separator ++ ("unavailable".toList ++ (second ++ "\"x\"".toList))) := by
          simp [unblank,blank,later]
        rw [parseIbStatus_unsplit whole] at read
        simp at read

/-- More than one blank in front of a reason keeps its quotation mark. -/
theorem cleanReason_gap (gap : Gap separator) :
    cleanReason (trimMatches isQuote (separator ++ "\"x\"".toList)) ≠ ['x'] := by
  obtain ⟨nonempty,blank⟩ := gap
  cases separator with
  | nil => exact absurd rfl nonempty
  | cons c rest =>
    have unquoted : isQuote c = false := by
      cases quote : isQuote c with
      | false => rfl
      | true =>
        cases of_decide_eq_true quote
        cases blank '"' List.mem_cons_self
    have trimmed : trimMatches isQuote (c :: rest ++ "\"x\"".toList) = (c :: rest) ++ ['"','x'] := by
      have ends := @trimChars_of_ends isQuote c 'x' unquoted rfl (rest ++ ['"']) ['"']
      have shape : c :: (rest ++ ['"']) ++ 'x' :: ['"'] = c :: rest ++ "\"x\"".toList := by simp
      rw [shape] at ends
      refine ends.trans ?_
      have nothing : List.rdropWhile isQuote ['"'] = [] := rfl
      simp [nothing]
    intro same
    have size := congrArg List.length same
    unfold cleanReason at size
    rw [trimmed,List.filter_append,List.length_take,List.length_append] at size
    have kept : ['"','x'].filter (fun c => !isControl c) = ['"','x'] := rfl
    simp only [kept,List.length_cons,List.length_nil] at size
    omega

end Status

namespace Spelling

theorem core_capitals (counted : arguments.length = s.separators.length)
    (solid : ∀ argument ∈ arguments, Solid argument) :
    splitWhitespace (upperChars (s.core arguments)) = s.word.text :: arguments.map upperChars := by
  have each : ∀ w ∈ s.separators.zip (arguments.map upperChars), Gap w.1 ∧ Solid w.2 := by
    intro w among
    obtain ⟨separator,capitals⟩ := List.of_mem_zip among
    obtain ⟨argument,member,same⟩ := List.mem_map.mp capitals
    rw [← same]
    exact ⟨s.separators_gap w.1 separator,upperChars_solid (solid argument member)⟩
  have nothing : Blank [] := nofun
  have found := splitWhitespace_spaced s.word.text_solid each nothing
  rw [List.append_nil,List.map_snd_zip (by rw [List.length_map]; exact counted.le),← core_upper] at found
  exact found

theorem spaced_single (separator argument : List Char) :
    spaced ([separator].zip [argument]) = separator ++ argument := by
  simp [spaced]

theorem spaced_pair (first second argument other : List Char) :
    spaced ([first,second].zip [argument,other]) = first ++ (argument ++ (second ++ other)) := by
  simp [spaced]

/-- The rest of the line, for the words that take it. -/
theorem parseArgument_core {make : String → Machine.Command} (few : arguments.length ≤ 1)
    (counted : arguments.length = s.separators.length) (phrases : ∀ argument ∈ arguments, Phrase argument)
    (blanks : ∀ separator ∈ s.separators, ' ' ∈ separator) :
    parseArgument make (s.core arguments) =
      arguments.head?.map (fun argument => .action (make (String.ofList argument))) := by
  have gaps := s.separators_gap
  unfold core
  generalize s.separators = separators at counted blanks gaps
  match arguments,separators,few,counted with
  | [],[],_,_ =>
    have nothing : spaced (List.zip [] []) = [] := rfl
    rw [nothing,List.append_nil]
    exact parseArgument_unsplit s.letters_unblank
  | [argument],[separator],_,_ =>
    rw [spaced_single]
    exact parseArgument_gap s.letters_unblank (gaps separator List.mem_cons_self)
      (phrases argument List.mem_cons_self) (blanks separator List.mem_cons_self)

/-- Status and reason, split off at single blanks. -/
theorem parseIbStatus_core (fits : Word.Fits arguments .ibStatus)
    (counted : arguments.length = s.separators.length)
    (first : ∀ separator ∈ s.separators[0]?, ∃ before, separator = before ++ [' '] ∧ ' ' ∉ before)
    (second : ∀ separator ∈ s.separators[1]?, separator = [' ']) :
    parseIbStatus (s.core arguments) = Word.command arguments .ibStatus := by
  obtain ⟨few,named,-⟩ := fits
  unfold core
  generalize s.separators = separators at counted first second
  match arguments,separators,few,counted with
  | [],[],_,_ =>
    have nothing : spaced (List.zip [] []) = [] := rfl
    rw [nothing,List.append_nil]
    exact parseIbStatus_unsplit s.letters_unblank
  | [status],[separator],_,_ =>
    obtain ⟨before,rfl,free⟩ := first separator rfl
    have solid := (named status rfl).2
    have word : ' ' ∉ status := fun member => by cases solid ' ' member
    have shape : s.letters ++ ((before ++ [' ']) ++ status) = (s.letters ++ before) ++ ' ' :: status := by simp
    rw [spaced_single,shape,parseIbStatus_named (by simp [s.letters_unblank,free]) word]
    rfl
  | [status,reason],[separator,next],_,_ =>
    obtain ⟨before,rfl,free⟩ := first separator rfl
    have solid := (named status rfl).2
    have word : ' ' ∉ status := fun member => by cases solid ' ' member
    rw [second next rfl]
    have shape : s.letters ++ ((before ++ [' ']) ++ (status ++ ([' '] ++ reason))) =
        (s.letters ++ before) ++ ' ' :: (status ++ ' ' :: reason) := by simp
    rw [spaced_pair,shape,parseIbStatus_split (by simp [s.letters_unblank,free]) word]
    rfl

/-- Where the blanks are as the splitting needs them, the line is read as it is meant. -/
theorem reads (splits : s.Splits) (counted : arguments.length = s.separators.length)
    (fits : s.word.Fits arguments) : parseCommand (s.line arguments) = s.word.command arguments := by
  have parsed := parseCommand_word s.word (line_trims fits.phrases) (core_first arguments)
  have capitals := @core_capitals s arguments counted
  unfold Splits at splits
  cases word : s.word <;> rw [word] at parsed fits splits <;> refine parsed.trans ?_
  case pause =>
    rw [Word.branch,core_words counted fits]
    rfl
  case setState =>
    rw [Word.branch,core_words counted fits]
    rfl
  case logs =>
    rw [Word.branch,capitals fits]
    simp only [Word.command,List.drop_succ_cons,List.drop_zero,List.head?_map]
    cases arguments.head? with
    | none => rfl
    | some limit =>
      simp only [Option.map_some,Option.bind_some,parseUnsigned_upperChars]
  case resumeReconnect => exact parseArgument_core fits.1 counted fits.2 splits
  case setRestart => exact parseArgument_core fits.1 counted fits.2 splits
  case ibStatus => exact parseIbStatus_core fits counted splits.1 splits.2
  all_goals rfl

theorem canonical_splits (word : Word) (count : Nat)
    (few : ∀ most, word.most = some most → count ≤ most) : (canonical word count few).Splits := by
  have single : ∀ n : Nat, ∀ separator ∈ (List.replicate count [' '])[n]?, separator = [' '] := by
    intro n separator among
    exact List.eq_of_mem_replicate (List.mem_of_getElem? among)
  have blanks : ∀ separator ∈ List.replicate count [' '], ' ' ∈ separator := by
    intro separator among
    rw [List.eq_of_mem_replicate among]
    exact List.mem_singleton_self ' '
  cases word
  case resumeReconnect => exact blanks
  case setRestart => exact blanks
  case ibStatus =>
    refine ⟨fun separator among => ⟨[],?_,nofun⟩,single 1⟩
    exact single 0 separator among
  all_goals trivial

end Spelling

namespace Spelling

/-- A letter is an argument that no blank is in. -/
theorem parseArgument_needs {make : String → Machine.Command} (few : s.separators.length ≤ 1)
    (reads : ∀ arguments : List (List Char), arguments.length = s.separators.length →
      (∀ argument ∈ arguments, Phrase argument) →
        parseArgument make (s.core arguments) =
          arguments.head?.map (fun argument => .action (make (String.ofList argument)))) :
    ∀ separator ∈ s.separators, ' ' ∈ separator := by
  intro separator among
  unfold core at reads
  generalize s.separators = separators at few reads among
  match separators,few with
  | [only],_ =>
    cases List.mem_singleton.mp among
    have letter : Solid ['a'] := ⟨nofun,solid_of_all rfl⟩
    have read := reads [['a']] rfl fun argument member => by
      cases List.mem_singleton.mp member
      exact letter.phrase
    by_contra blankless
    have unblank : ' ' ∉ s.letters ++ (separator ++ ['a']) := by simp [s.letters_unblank,blankless]
    rw [spaced_single,parseArgument_unsplit unblank] at read
    cases read

/-- The status that must not get lost, and a reason in quotation marks. -/
def probe : List (List Char) := ["unavailable".toList,"\"x\"".toList]

theorem probe_fits {count : Nat} (few : count ≤ 2) : Word.Fits (probe.take count) .ibStatus := by
  have status : Solid "unavailable".toList := ⟨nofun,solid_of_all rfl⟩
  have reason : Phrase "\"x\"".toList := ⟨'"','"',rfl,rfl,rfl,rfl⟩
  refine ⟨?_,fun named among => ?_,fun other among => ?_⟩
  · rw [List.length_take]
    exact (min_le_left _ _).trans few
  · rw [List.getElem?_take] at among
    split at among
    · cases among
      exact status
    · cases among
  · rw [List.getElem?_take] at among
    split at among
    · cases among
      exact reason
    · cases among

theorem parseIbStatus_needs (few : s.separators.length ≤ 2)
    (reads : ∀ arguments : List (List Char), arguments.length = s.separators.length →
      Word.Fits arguments .ibStatus → parseIbStatus (s.core arguments) = Word.command arguments .ibStatus) :
    (∀ separator ∈ s.separators[0]?, ∃ before, separator = before ++ [' '] ∧ ' ' ∉ before) ∧
      ∀ separator ∈ s.separators[1]?, separator = [' '] := by
  have read := reads (probe.take s.separators.length) (by
    rw [List.length_take]
    exact min_eq_left few) (probe_fits few)
  have gaps := s.separators_gap
  unfold core at read
  generalize s.separators = separators at few read gaps
  rcases separators with - | ⟨separator,- | ⟨next,- | ⟨third,more⟩⟩⟩
  · exact ⟨by simp,by simp⟩
  · refine ⟨fun other same => ?_,by simp⟩
    cases same
    have known : Word.command (probe.take 1) .ibStatus = some (.action (.ibStatus "unavailable" "")) := by
      decide +kernel
    have shape : spaced ([separator].zip (probe.take 1)) = separator ++ ("unavailable".toList ++ []) := by
      simp [spaced,probe]
    rw [List.length_singleton,known,shape] at read
    exact parseIbStatus_unnamed s.letters_unblank (gaps separator List.mem_cons_self) (.inl rfl) read
  · have known : Word.command probe .ibStatus = some (.action (.ibStatus "unavailable" "x")) := by
      decide +kernel
    have gap := gaps separator List.mem_cons_self
    have gap' := gaps next (by simp)
    have shape : spaced ([separator,next].zip probe) =
        separator ++ ("unavailable".toList ++ (next ++ "\"x\"".toList)) := by
      simp [spaced,probe]
    have read : parseIbStatus (s.letters ++ (separator ++ ("unavailable".toList ++ (next ++ "\"x\"".toList)))) =
        some (.action (.ibStatus "unavailable" "x")) := by
      rw [← shape,← known]
      exact read
    obtain ⟨before,rfl,free⟩ := parseIbStatus_unnamed s.letters_unblank gap (.inr ⟨next,gap',rfl⟩) read
    refine ⟨fun other same => by cases same; exact ⟨before,rfl,free⟩,fun other same => ?_⟩
    cases same
    have apart : ' ' ∉ s.letters ++ before := by simp [s.letters_unblank,free]
    have shape : s.letters ++ ((before ++ [' ']) ++ ("unavailable".toList ++ (next ++ "\"x\"".toList))) =
        (s.letters ++ before) ++ ' ' :: ("unavailable".toList ++ (next ++ "\"x\"".toList)) := by simp
    rw [shape] at read
    cases next with
    | nil => exact absurd rfl gap'.1
    | cons c rest =>
      have blank : c = ' ' := by
        rcases parseIbStatus_second apart read with same | ⟨more,same⟩
        · have size := congrArg List.length same
          simp at size
        · have tails : c :: rest ++ "\"x\"".toList = ' ' :: more := List.append_cancel_left same
          exact (List.cons.inj tails).1
      subst blank
      cases rest with
      | nil => rfl
      | cons d rest =>
        have word : ' ' ∉ "unavailable".toList := by decide
        have gap : Gap (d :: rest) := ⟨List.cons_ne_nil d rest,fun e among => gap'.2 e (List.mem_cons_of_mem _ among)⟩
        have pieces := @parseIbStatus_split "unavailable".toList _ ((d :: rest) ++ "\"x\"".toList) apart word
        have shape : "unavailable".toList ++ ((' ' :: d :: rest) ++ "\"x\"".toList) =
            "unavailable".toList ++ ' ' :: ((d :: rest) ++ "\"x\"".toList) := rfl
        rw [shape,pieces,if_pos (by decide +kernel)] at read
        have cleaned : String.ofList (cleanReason (trimMatches isQuote ((d :: rest) ++ "\"x\"".toList))) = "x" := by
          injection read with read
          injection read with read
          injection read
        have letter := congrArg String.toList cleaned
        rw [String.toList_ofList] at letter
        exact absurd letter (cleanReason_gap gap)
  · simp at few

end Spelling

end Reading

/-- A spelling makes no difference just when its separators have their blanks where the arguments
are split off. -/
theorem spelling_immaterial_iff (s : Spelling) : s.Immaterial ↔ s.Splits := by
  constructor
  · intro immaterial
    have branched : ∀ arguments : List (List Char), arguments.length = s.separators.length →
        s.word.Fits arguments → s.word.branch (s.core arguments) = s.word.command arguments := by
      intro arguments counted fits
      have parsed := parseCommand_word s.word (Spelling.line_trims fits.phrases) (Spelling.core_first arguments)
      exact parsed.symm.trans (immaterial arguments counted fits).2.1
    have few := s.separators_few
    unfold Spelling.Splits
    cases word : s.word <;> rw [word] at branched few
    case resumeReconnect =>
      have one := few 1 rfl
      exact Spelling.parseArgument_needs one fun arguments counted phrases =>
        branched arguments counted ⟨counted.le.trans one,phrases⟩
    case setRestart =>
      have one := few 1 rfl
      exact Spelling.parseArgument_needs one fun arguments counted phrases =>
        branched arguments counted ⟨counted.le.trans one,phrases⟩
    case ibStatus => exact Spelling.parseIbStatus_needs (few 2 rfl) branched
    all_goals trivial
  · intro splits arguments counted fits
    have read := Spelling.reads splits counted fits
    have standard := Spelling.reads
      (Spelling.canonical_splits s.word s.separators.length s.separators_few)
      (counted.trans List.length_replicate.symm) fits
    refine ⟨read.trans standard.symm,read,fun word named among status reason result => ?_⟩
    rw [read,word] at result
    cases arguments with
    | nil => cases among
    | cons first rest =>
      cases among
      simp only [Word.command,List.getElem?_cons_zero,Option.getD_some] at result
      split at result
      · cases result
        rfl
      · cases result

/-- A tab behind the command word. -/
def tabbed : Spelling where
  word := .ibStatus
  letters := "ibstatus".toList
  letters_same := by
    unfold SameLetters
    decide +kernel
  lead := []
  lead_blank := nofun
  trail := []
  trail_blank := nofun
  separators := [['\t']]
  separators_gap separator among := by
    cases List.mem_singleton.mp among
    exact ⟨nofun,fun c member => by cases List.mem_singleton.mp member; rfl⟩
  separators_few most known := by
    cases known
    decide

/-- The status gets lost behind the tab, and the line counts as one that names none. -/
theorem tab_reads_available :
    parseCommand "ibstatus\tunavailable".toList = some (.action (.ibStatus "available" "")) ∧
      ¬ tabbed.Immaterial := by
  have read : parseCommand "ibstatus\tunavailable".toList = some (.action (.ibStatus "available" "")) := by
    decide +kernel
  refine ⟨read,fun immaterial => ?_⟩
  have fits : Word.Fits ["unavailable".toList] .ibStatus := @Spelling.probe_fits 1 (by decide)
  have same := (immaterial ["unavailable".toList] rfl fits).2.2 rfl "unavailable".toList rfl _ _ read
  exact absurd same (by decide)

end Ibctl.CommandServer
