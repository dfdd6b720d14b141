import Ibctl.Lib.Utf8
import Ibctl.StateMachine.EventStream

/-! The task that reads the agent's events, line by line and connection after connection. A line
that is no event goes to the log, cut after its first bytes. -/
namespace Ibctl.EventReader
open Utf8

/-- How a line becomes an event, if it is one. White space alone is none. -/
structure EventParser (ε : Type) where
  fromStr : String → Option ε
  blank : ∀ line, Text.trim line = "" → fromStr line = none

inductive Status where
  | running
  | returned
  | panicked
deriving DecidableEq, Repr

structure Reader (ε : Type) where
  status : Status
  sent : List ε
  backoffMs : Nat
  slept : List Nat

/-- What a connection to the agent's socket brings. -/
inductive Connection where
  | refused
  | unsubscribed
  | stream (lines : List String) (failed : Bool)

def Connection.lines : Connection → List String
  | stream lines _ => lines
  | _ => []

def maxBackoffMs : Nat := 5000

/-- What the log shows of a line. -/
def shownBytes : Nat := 200

/-- The slice of the line that goes to the log; a bound inside a character panics. -/
def shown (line : String) : Option (List Char) :=
  takeBytes (min (byteLen line.toList) shownBytes) line.toList

/-- The settings of a run: whether warnings are logged, and after how many events the receiver is
dropped, if it is. -/
structure Surroundings where
  warns : Bool
  hangsUpAfter : Option Nat

namespace Reader

variable {ε : Type} (parser : EventParser ε) (here : Surroundings)

def start : Reader ε := ⟨.running,[],100,[]⟩

def send (event : ε) (reader : Reader ε) : Reader ε :=
  if here.hangsUpAfter = some reader.sent.length then { reader with status := .returned }
  else { reader with sent := reader.sent ++ [event] }

def readLine (line : String) (reader : Reader ε) : Reader ε :=
  if Text.trim line = "" then reader
  else
    match parser.fromStr line with
    | some event => reader.send here event
    | none =>
      -- The arguments of the macro are evaluated only where the level is logged.
      if here.warns ∧ shown line = none then { reader with status := .panicked } else reader

/-- The inner loop. -/
def readLines : List String → Reader ε → Reader ε
  | [],reader => reader
  | line :: rest,reader =>
    let next := reader.readLine parser here line
    if next.status = .running then readLines rest next else next

def pause (reader : Reader ε) : Reader ε :=
  { reader with slept := reader.slept ++ [reader.backoffMs], backoffMs := min (reader.backoffMs * 2) maxBackoffMs }

def connect (connection : Connection) (reader : Reader ε) : Reader ε :=
  match connection with
  | .refused => reader.pause
  | .unsubscribed => reader
  | .stream lines _ =>
    let done := readLines parser here lines { reader with backoffMs := 100 }
    if done.status = .running then done.pause else done

/-- The outer loop. -/
def run : List Connection → Reader ε → Reader ε
  | [],reader => reader
  | connection :: rest,reader =>
    let next := reader.connect parser here connection
    if next.status = .running then run rest next else next

end Reader

section Lines

variable {ε : Type} {parser : EventParser ε} {here : Surroundings}

/-- The log would cut a character of the line in two. -/
def Cut (line : String) : Prop := Inside line.toList shownBytes

theorem shown_eq_none_iff (line : String) : shown line = none ↔ Cut line := by
  unfold shown Cut
  rw [takeBytes_eq_none_iff (min_le_left _ _)]
  rcases Nat.le_total (byteLen line.toList) shownBytes with short | long
  · rw [min_eq_left short]
    have whole : ∀ n, byteLen line.toList ≤ n → ¬ Inside line.toList n := by
      rintro n bound ⟨before,c,after,split,-,ends⟩
      rw [split,byteLen_append,byteLen_cons] at bound
      omega
    exact iff_of_false (whole _ le_rfl) (whole _ short)
  · rw [min_eq_right long]

/-- The line panics when it is read. -/
def Fatal (parser : EventParser ε) (here : Surroundings) (line : String) : Prop :=
  here.warns = true ∧ Text.trim line ≠ "" ∧ parser.fromStr line = none ∧ Cut line

/-- The events that the receiver is still there for. -/
def Surroundings.accepted (here : Surroundings) (events : List ε) : List ε :=
  match here.hangsUpAfter with
  | none => events
  | some count => events.take count

/-- No event was refused so far. -/
def Surroundings.Holds (here : Surroundings) (count : Nat) : Prop :=
  ∀ most, here.hangsUpAfter = some most → count ≤ most

theorem Surroundings.accepted_all {past : List ε} (holds : here.Holds past.length) :
    here.accepted past = past := by
  unfold accepted
  cases most : here.hangsUpAfter with
  | none => rfl
  | some count => exact List.take_of_length_le (holds count most)

end Lines

namespace Reader

variable {ε : Type} {parser : EventParser ε} {here : Surroundings}

/-- What the receiver and the rest of the program see of the task. -/
def Alike (r r' : Reader ε) : Prop := r.status = r'.status ∧ r.sent = r'.sent

section Cases

variable {line : String} {reader : Reader ε}

theorem readLine_fatal (fatal : Fatal parser here line) :
    reader.readLine parser here line = { reader with status := .panicked } := by
  obtain ⟨warns,solid,unparsed,cut⟩ := fatal
  unfold readLine
  rw [if_neg solid,unparsed]
  exact if_pos ⟨warns,(shown_eq_none_iff line).mpr cut⟩

theorem readLine_unparsed (unparsed : parser.fromStr line = none) (harmless : ¬ Fatal parser here line) :
    reader.readLine parser here line = reader := by
  unfold readLine
  split
  · rfl
  · rename_i solid
    rw [unparsed]
    refine if_neg ?_
    rintro ⟨warns,missing⟩
    exact harmless ⟨warns,solid,unparsed,(shown_eq_none_iff line).mp missing⟩

theorem readLine_event {event : ε} (parsed : parser.fromStr line = some event) :
    reader.readLine parser here line = reader.send here event := by
  have solid : Text.trim line ≠ "" := fun blank => by
    rw [parser.blank line blank] at parsed
    cases parsed
  unfold readLine
  rw [if_neg solid,parsed]

end Cases

variable (parser here) in
theorem Alike.readLine {r r' : Reader ε} (alike : Alike r r') (line : String) :
    Alike (r.readLine parser here line) (r'.readLine parser here line) := by
  obtain ⟨status,sent⟩ := alike
  unfold Reader.readLine send
  rw [sent]
  split
  · exact ⟨status,sent⟩
  · split
    · split
      · exact ⟨rfl,rfl⟩
      · exact ⟨status,rfl⟩
    · split
      · exact ⟨rfl,rfl⟩
      · exact ⟨status,sent⟩

variable (parser here) in
theorem Alike.readLines {r r' : Reader ε} (alike : Alike r r') (lines : List String) :
    Alike (readLines parser here lines r) (readLines parser here lines r') := by
  induction lines generalizing r r' with
  | nil => exact alike
  | cons line rest ih =>
    have next := alike.readLine parser here line
    unfold Reader.readLines
    dsimp only
    rw [next.1]
    split
    · exact ih next
    · exact next

theorem readLines_append {reader : Reader ε} (running : reader.status = .running) (first second : List String) :
    readLines parser here (first ++ second) reader =
      if (readLines parser here first reader).status = .running then
        readLines parser here second (readLines parser here first reader)
      else readLines parser here first reader := by
  induction first generalizing reader with
  | nil => exact (if_pos running).symm
  | cons line rest ih =>
    simp only [List.cons_append,readLines]
    by_cases next : (reader.readLine parser here line).status = .running
    · simp only [if_pos next,ih next]
    · simp only [if_neg next]

variable (parser here) in
/-- Connections that end and begin make no difference to what is sent. -/
theorem run_alike {reader : Reader ε} (running : reader.status = .running) (connections : List Connection) :
    Alike (run parser here connections reader)
      (readLines parser here (connections.flatMap Connection.lines) reader) := by
  induction connections generalizing reader with
  | nil => exact ⟨rfl,rfl⟩
  | cons connection rest ih =>
    have connected : Alike (reader.connect parser here connection)
        (readLines parser here connection.lines reader) := by
      cases connection with
      | refused => exact ⟨rfl,rfl⟩
      | unsubscribed => exact ⟨rfl,rfl⟩
      | stream lines failed =>
        have fresh : Alike { reader with backoffMs := 100 } reader := ⟨rfl,rfl⟩
        have read := fresh.readLines parser here lines
        simp only [connect]
        split
        · exact read
        · exact read
    rw [List.flatMap_cons,readLines_append running]
    unfold run
    dsimp only
    rw [connected.1]
    split
    · rename_i continues
      have following := ih (connected.1.trans continues)
      have same := connected.readLines parser here (rest.flatMap Connection.lines)
      exact ⟨following.1.trans same.1,following.2.trans same.2⟩
    · exact connected

/-- It did not panic, and the events it sent are those of the lines, as far as they were wanted. -/
def Delivers (here : Surroundings) (events : List ε) (reader : Reader ε) : Prop :=
  reader.status ≠ .panicked ∧ reader.sent = here.accepted events

/-- No line is fatal that is read before the receiver refuses an event. -/
def Harmless (parser : EventParser ε) (here : Surroundings) (count : Nat) (lines : List String) : Prop :=
  ∀ before line after, lines = before ++ line :: after →
    here.Holds (count + (before.filterMap parser.fromStr).length) → ¬ Fatal parser here line

theorem harmless_cons {count : Nat} {line : String} {rest : List String} (holds : here.Holds count) :
    Harmless parser here count (line :: rest) ↔
      ¬ Fatal parser here line ∧
        Harmless parser here (count + ([line].filterMap parser.fromStr).length) rest := by
  constructor
  · intro harmless
    refine ⟨harmless [] line rest rfl holds,fun before other after split reached => ?_⟩
    refine harmless (line :: before) other after (congrArg (line :: ·) split) ?_
    rwa [← List.singleton_append,List.filterMap_append,List.length_append,← Nat.add_assoc]
  · rintro ⟨first,later⟩ before other after split reached
    cases before with
    | nil =>
      obtain ⟨rfl,-⟩ := List.cons.inj split
      exact first
    | cons head before =>
      obtain ⟨rfl,remains⟩ := List.cons.inj split
      refine later before other after remains ?_
      rwa [← List.singleton_append,List.filterMap_append,List.length_append,← Nat.add_assoc] at reached

/-- Once an event was refused no line is read. -/
theorem harmless_refused {count most : Nat} {lines : List String}
    (refuses : here.hangsUpAfter = some most) (full : most < count) :
    Harmless parser here count lines := by
  intro before line after _ reached
  have := reached most refuses
  omega

variable (parser here) in
theorem readLines_delivers_iff (lines : List String) {reader : Reader ε}
    (running : reader.status = .running) (holds : here.Holds reader.sent.length) :
    (readLines parser here lines reader).Delivers here (reader.sent ++ lines.filterMap parser.fromStr) ↔
      Harmless parser here reader.sent.length lines := by
  induction lines generalizing reader with
  | nil =>
    refine iff_of_true ?_ fun before line after split => by simp at split
    rw [List.filterMap_nil,List.append_nil]
    have unharmed : reader.status ≠ .panicked := fun panicked => by
      rw [running] at panicked
      cases panicked
    exact ⟨unharmed,(Surroundings.accepted_all holds).symm⟩
  | cons line rest ih =>
    rw [harmless_cons holds]
    unfold readLines
    dsimp only
    cases parsed : parser.fromStr line with
    | some event =>
      have harmless : ¬ Fatal parser here line := fun fatal => by
        have unparsed := fatal.2.2.1
        rw [parsed] at unparsed
        cases unparsed
      rw [readLine_event parsed,List.filterMap_cons_some parsed,List.filterMap_cons_some parsed]
      unfold send
      by_cases refused : here.hangsUpAfter = some reader.sent.length
      · rw [if_pos refused]
        refine iff_of_true ⟨nofun,?_⟩ ⟨harmless,harmless_refused refused (Nat.lt_succ_self _)⟩
        unfold Surroundings.accepted
        rw [refused]
        exact (List.take_left' rfl).symm
      · rw [if_neg refused,if_pos running]
        have room : here.Holds (reader.sent ++ [event]).length := by
          intro most limit
          have := holds most limit
          have : most ≠ reader.sent.length := fun same => refused (same ▸ limit)
          rw [List.length_append,List.length_singleton]
          omega
        have later := @ih { reader with sent := reader.sent ++ [event] } running room
        rw [List.append_assoc,List.length_append] at later
        rw [and_iff_right harmless]
        exact later
    | none =>
      rw [List.filterMap_cons_none parsed,List.filterMap_cons_none parsed]
      by_cases fatal : Fatal parser here line
      · rw [readLine_fatal fatal]
        exact iff_of_false (fun delivers => delivers.1 rfl) (fun harmless => harmless.1 fatal)
      · rw [readLine_unparsed parsed fatal,if_pos running,and_iff_right fatal]
        exact ih running holds

/-- A line the log cannot cut is the end of the task; what was sent are the events before it. -/
theorem readLines_fatal {before after : List String} {line : String} {reader : Reader ε}
    (running : (readLines parser here before reader).status = .running)
    (fatal : Fatal parser here line) (started : reader.status = .running) :
    readLines parser here (before ++ line :: after) reader =
      { readLines parser here before reader with status := .panicked } := by
  rw [readLines_append started,if_pos running,readLines,readLine_fatal fatal]
  rfl

/-- The pauses before the task connects again, and the next one, lie between 100 ms and 5 s. -/
def Paced (reader : Reader ε) : Prop :=
  (100 ≤ reader.backoffMs ∧ reader.backoffMs ≤ maxBackoffMs) ∧
    ∀ ms ∈ reader.slept, 100 ≤ ms ∧ ms ≤ maxBackoffMs

theorem Paced.of_same {r r' : Reader ε} (paced : Paced r)
    (same : r'.backoffMs = r.backoffMs ∧ r'.slept = r.slept) : Paced r' := by
  unfold Paced
  rw [same.1,same.2]
  exact paced

variable (parser here) in
theorem readLine_same (line : String) (reader : Reader ε) :
    (reader.readLine parser here line).backoffMs = reader.backoffMs ∧
      (reader.readLine parser here line).slept = reader.slept := by
  unfold readLine send
  split
  · exact ⟨rfl,rfl⟩
  · split <;> split <;> exact ⟨rfl,rfl⟩

variable (parser here) in
theorem Paced.readLines {reader : Reader ε} (paced : Paced reader) (lines : List String) :
    Paced (readLines parser here lines reader) := by
  induction lines generalizing reader with
  | nil => exact paced
  | cons line rest ih =>
    have next := paced.of_same (readLine_same parser here line reader)
    unfold Reader.readLines
    dsimp only
    split
    · exact ih next
    · exact next

theorem Paced.pause {reader : Reader ε} (paced : Paced reader) : Paced reader.pause := by
  obtain ⟨⟨low,high⟩,slept⟩ := paced
  refine ⟨⟨?_,min_le_right _ _⟩,fun ms among => ?_⟩
  · refine le_min ?_ (by decide)
    show 100 ≤ reader.backoffMs * 2
    omega
  · rcases List.mem_append.mp among with earlier | last
    · exact slept ms earlier
    · cases List.mem_singleton.mp last
      exact ⟨low,high⟩

variable (parser here) in
theorem Paced.connect {reader : Reader ε} (paced : Paced reader) (connection : Connection) :
    Paced (reader.connect parser here connection) := by
  cases connection with
  | refused => exact paced.pause
  | unsubscribed => exact paced
  | stream lines failed =>
    have least : 100 ≤ maxBackoffMs := by decide
    have fresh : Paced { reader with backoffMs := 100 } := ⟨⟨le_rfl,least⟩,paced.2⟩
    have read := fresh.readLines parser here lines
    simp only [Reader.connect]
    split
    · exact read.pause
    · exact read

theorem run_paced (connections : List Connection) {reader : Reader ε} (paced : Paced reader) :
    Paced (run parser here connections reader) := by
  induction connections generalizing reader with
  | nil => exact paced
  | cons connection rest ih =>
    have next := paced.connect parser here connection
    unfold run
    dsimp only
    split
    · exact ih next
    · exact next

end Reader

section Items

open Machine (AgentEvent StreamItem)

/-- A line as the machine's own account of the stream has it. -/
def itemOf (parser : EventParser AgentEvent) (line : String) : StreamItem :=
  if Text.trim line = "" then .blank
  else
    match parser.fromStr line with
    | some event => .parsed event
    | none => .unparsed

def Connection.items (parser : EventParser AgentEvent) : Connection → List StreamItem
  | stream lines failed => lines.map (itemOf parser) ++ [if failed then .readError else .ended]
  | _ => []

theorem itemOf_sent (parser : EventParser AgentEvent) (line : String) :
    (itemOf parser line).sent = parser.fromStr line := by
  unfold itemOf
  split
  · rename_i blank
    exact (parser.blank line blank).symm
  · cases parsed : parser.fromStr line <;> rfl

theorem Connection.items_sent (parser : EventParser AgentEvent) (connection : Connection) :
    (connection.items parser).filterMap StreamItem.sent =
      connection.lines.filterMap parser.fromStr := by
  cases connection with
  | refused => rfl
  | unsubscribed => rfl
  | stream lines failed =>
    have ending : [if failed then StreamItem.readError else .ended].filterMap StreamItem.sent = [] := by
      cases failed <;> rfl
    have each : StreamItem.sent ∘ itemOf parser = parser.fromStr := funext (itemOf_sent parser)
    unfold items Connection.lines
    dsimp only
    rw [List.filterMap_append,List.filterMap_map,ending,each,List.append_nil]

/-- A task that delivers sends on what the items of its streams send on. -/
theorem Reader.Delivers.items {parser : EventParser AgentEvent} {here : Surroundings}
    {connections : List Connection} {reader : Reader AgentEvent}
    (delivers : reader.Delivers here ((connections.flatMap Connection.lines).filterMap parser.fromStr)) :
    reader.sent = here.accepted
      ((connections.flatMap (Connection.items parser)).filterMap StreamItem.sent) := by
  rw [delivers.2,List.filterMap_flatMap,List.filterMap_flatMap]
  simp only [Connection.items_sent]

end Items

open Reader

/-- The task delivers the events of all lines of all connections, in order and without a panic,
just when no line that is logged as unparsable has a character across the last byte shown. -/
theorem event_reader_iff {ε : Type} (parser : EventParser ε) (here : Surroundings)
    (connections : List Connection) :
    (run parser here connections start).Delivers here
        ((connections.flatMap Connection.lines).filterMap parser.fromStr) ↔
      ∀ before line after, connections.flatMap Connection.lines = before ++ line :: after →
        here.Holds (before.filterMap parser.fromStr).length →
          ¬ (here.warns = true ∧ Text.trim line ≠ "" ∧ parser.fromStr line = none ∧
            Inside line.toList 200) := by
  have started : (start : Reader ε).status = .running := rfl
  have alike := run_alike parser here started connections
  have delivers := readLines_delivers_iff parser here (connections.flatMap Connection.lines)
    started (fun _ _ => Nat.zero_le _)
  unfold Delivers
  rw [alike.1,alike.2]
  refine delivers.trans ?_
  unfold Harmless
  rw [show (start : Reader ε).sent.length = 0 from rfl]
  simp only [Nat.zero_add]
  rfl

/-- Text that is no event, with the last byte shown in the middle of its last character. -/
def longLine : String := String.ofList (List.replicate 199 'a' ++ ['é'])

def noEvent : EventParser Machine.AgentEvent := ⟨fun _ => none,fun _ _ => rfl⟩

/-- The line ends the task, though the receiver is there and an event may follow. -/
theorem long_line_panics :
    ¬ (run noEvent ⟨true,none⟩ [.stream [longLine] false] start).Delivers ⟨true,none⟩
      (([Connection.stream [longLine] false].flatMap Connection.lines).filterMap noEvent.fromStr) := by
  have solid : Text.trim longLine ≠ "" := by decide +kernel
  have inside : Inside longLine.toList 200 :=
    ⟨List.replicate 199 'a','é',[],by decide +kernel,by decide +kernel,by decide +kernel⟩
  have fatal : Fatal noEvent ⟨true,none⟩ longLine := ⟨rfl,solid,rfl,inside⟩
  have read : readLines noEvent ⟨true,none⟩ ([] ++ [longLine]) start = _ := readLines_fatal rfl fatal rfl
  intro delivers
  have started : (start : Reader Machine.AgentEvent).status = .running := rfl
  have alike := run_alike noEvent ⟨true,none⟩ started [.stream [longLine] false]
  refine delivers.1 (alike.1.trans ?_)
  exact congrArg Reader.status read

end Ibctl.EventReader
