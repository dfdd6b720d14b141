import Ibctl.Lib.Bits
import Ibctl.Lib.Runs
import Ibctl.Lib.Streaks
import Ibctl.Lib.Words

/-! The readiness probe of the Gateway's API: the handshake that a reply has to complete, and the
task that signals the loss of the listener after so many failed handshakes in a row. A task that
is aborted still ends the step in which it is, so that its signal can come late. -/
namespace Ibctl.ApiProbe

section Handshake

/-- What a connection gives within the timeout: the error of the connecting or writing, or the bytes
that are received and the error of reading on. -/
structure Exchange where
  connected : Except String Unit
  received : List UInt8
  ending : String

/-- So many bytes and what is behind them. -/
def readExact (size : Nat) (received : List UInt8) : Option (List UInt8 × List UInt8) :=
  if size ≤ received.length then some (received.take size,received.drop size) else none

def serverVersion (response : List UInt8) : Option Nat :=
  let fields := (response.splitOn 0).filter fun field => !field.isEmpty
  ((fields.head?).bind fun field => String.fromUTF8? ⟨field.toArray⟩).bind
    fun field => Text.parseUnsigned 32 field.toList

def probeInner (exchange : Exchange) : Except String Unit := do
  exchange.connected
  let (length,received) ← (readExact 4 exchange.received).elim (throw exchange.ending) pure
  let length := Bits.bigEndian (length.map UInt8.toBitVec)
  if length = 0 ∨ length > 4096 then throw "invalid IB API handshake length"
  let (response,_) ← (readExact length received).elim (throw exchange.ending) pure
  let version ← (serverVersion response).elim (throw "missing IB API server version") pure
  if version < 100 then throw "implausible IB API server version"

def isOk (exchange : Exchange) : Bool := (probeInner exchange).isOk

variable {received behind : List UInt8} {size : Nat}

theorem readExact_some {part : List UInt8} :
    readExact size received = some (part,behind) ↔ received = part ++ behind ∧ part.length = size := by
  unfold readExact
  constructor
  · intro read
    split at read
    · rename_i room
      obtain ⟨rfl,rfl⟩ := Prod.mk.inj (Option.some.inj read)
      exact ⟨(List.take_append_drop size received).symm,List.length_take_of_le room⟩
    · cases read
  · rintro ⟨rfl,rfl⟩
    rw [if_pos (by simp),List.take_left,List.drop_left]

/-- The bytes of a text. -/
def utf8 (text : List Char) : List UInt8 := (String.ofList text).toByteArray.data.toList

theorem fromUTF8_some {field : List UInt8} {s : String} :
    String.fromUTF8? ⟨field.toArray⟩ = some s ↔ field = utf8 s.toList := by
  unfold utf8
  rw [String.ofList_toList]
  constructor
  · intro read
    unfold String.fromUTF8? at read
    split at read
    · rw [← Option.some.inj read]
      rfl
    · cases read
  · rintro rfl
    unfold String.fromUTF8?
    rw [Array.toArray_toList,dif_pos s.isValidUTF8]
    rfl

theorem parseUnsigned_chars {bits n : Nat} {cs : List Char} (read : Text.parseUnsigned bits cs = some n) :
    cs ≠ [] ∧ ∀ c ∈ cs, c = '+' ∨ Text.isAsciiDigit c = true := by
  unfold Text.parseUnsigned at read
  by_cases sign : cs.head? = some '+'
  · obtain ⟨rest,rfl⟩ : ∃ rest, cs = '+' :: rest := List.head?_eq_some_iff.mp sign
    simp only [sign,if_true,List.drop_one,List.tail_cons,Option.ite_none_right_eq_some,
      List.all_eq_true] at read
    refine ⟨by simp,fun c member => ?_⟩
    rcases List.mem_cons.mp member with rfl | member
    · exact .inl rfl
    · exact .inr (read.1.2.1 c member)
  · simp only [sign,if_false,Option.ite_none_right_eq_some,List.all_eq_true] at read
    exact ⟨read.1.1,fun c member => .inr (read.1.2.1 c member)⟩

theorem mem_utf8 {b : UInt8} {text : List Char} : b ∈ utf8 text ↔ ∃ c ∈ text, b ∈ String.utf8EncodeChar c := by
  unfold utf8
  rw [String.toByteArray_ofList,List.utf8Encode,List.data_toByteArray,List.mem_flatMap]

theorem utf8EncodeChar_signed {c : Char} (ascii : c = '+' ∨ Text.isAsciiDigit c = true) :
    ∃ b, String.utf8EncodeChar c = [b] ∧ b ≠ 0 := by
  have range : 43 ≤ c.val.toNat ∧ c.val.toNat ≤ 57 := by
    rcases ascii with rfl | digit
    · decide
    · simp only [Text.isAsciiDigit,Bool.and_eq_true,decide_eq_true_eq] at digit
      obtain ⟨least,most⟩ := digit
      have least' : (48 : Nat) ≤ c.val.toNat := least
      have most' : c.val.toNat ≤ 57 := most
      omega
  refine ⟨UInt8.ofNat c.val.toNat,?_,?_⟩
  · unfold String.utf8EncodeChar
    exact if_pos (by omega)
  · intro zero
    have same := congrArg UInt8.toNat zero
    rw [UInt8.toNat_ofNat',Nat.mod_eq_of_lt (by omega)] at same
    have none_ : (0 : UInt8).toNat = 0 := rfl
    omega

/-- A number is written in bytes other than zero. -/
theorem utf8_signed {text : List Char} (filled : text ≠ [])
    (ascii : ∀ c ∈ text, c = '+' ∨ Text.isAsciiDigit c = true) :
    utf8 text ≠ [] ∧ ∀ b ∈ utf8 text, b ≠ 0 := by
  constructor
  · obtain ⟨c,rest,rfl⟩ := List.exists_cons_of_ne_nil filled
    obtain ⟨b,single,-⟩ := utf8EncodeChar_signed (ascii c (by simp))
    exact List.ne_nil_of_mem (a := b) (mem_utf8.mpr ⟨c,by simp,by rw [single]; simp⟩)
  · intro b member
    obtain ⟨c,among,inside⟩ := mem_utf8.mp member
    obtain ⟨b',single,nonzero⟩ := utf8EncodeChar_signed (ascii c among)
    rw [single] at inside
    rw [List.mem_singleton.mp inside]
    exact nonzero

/-- The version is written in the first field that is not empty. -/
theorem serverVersion_iff {response : List UInt8} {version : Nat} :
    serverVersion response = some version ↔
      ∃ before text behind, response = before ++ (utf8 text ++ behind) ∧ (∀ b ∈ before, b = 0) ∧
        (∀ b ∈ behind.head?, b = 0) ∧ Text.parseUnsigned 32 text = some version := by
  unfold serverVersion List.splitOn
  simp only [Option.bind_eq_some_iff,Text.firstPiece_iff,Text.FirstPiece,fromUTF8_some,beq_iff_eq]
  constructor
  · rintro ⟨s,⟨field,⟨before,behind,rfl,-,blank,-,ends⟩,rfl⟩,read⟩
    exact ⟨before,s.toList,behind,rfl,blank,ends,read⟩
  · rintro ⟨before,text,behind,rfl,blank,ends,read⟩
    obtain ⟨filled,ascii⟩ := parseUnsigned_chars read
    obtain ⟨written,apart⟩ := utf8_signed filled ascii
    refine ⟨String.ofList text,⟨utf8 text,⟨before,behind,rfl,written,blank,?_,ends⟩,?_⟩,?_⟩
    · intro b member
      exact beq_eq_false_iff_ne.mpr (apart b member)
    · rw [String.toList_ofList]
    · rw [String.toList_ofList]
      exact read

theorem bind_ok {α β : Type} {x : Except String α} {f : α → Except String β} {b : β} :
    x >>= f = .ok b ↔ ∃ a, x = .ok a ∧ f a = .ok b := by
  cases x with
  | error e => simp [bind,Except.bind]
  | ok a => simp [bind,Except.bind]

theorem elim_ok {α : Type} {found : Option α} {a : α} {e : String} :
    found.elim (throw e) pure = (.ok a : Except String α) ↔ found = some a := by
  cases found with
  | none => simp [throw,throwThe,MonadExceptOf.throw]
  | some found => simp [pure,Except.pure]

theorem probeInner_iff (exchange : Exchange) :
    probeInner exchange = .ok () ↔
      exchange.connected = .ok () ∧ ∃ length response behind version,
        exchange.received = length ++ (response ++ behind) ∧ length.length = 4 ∧
        response.length = Bits.bigEndian (length.map UInt8.toBitVec) ∧
        0 < response.length ∧ response.length ≤ 4096 ∧
        serverVersion response = some version ∧ 100 ≤ version := by
  unfold probeInner
  simp only [bind_ok,Prod.exists,elim_ok,readExact_some]
  constructor
  · rintro ⟨⟨⟩,connected,length,received,⟨whole,four⟩,completed⟩
    split at completed
    · cases completed
    rename_i sized
    obtain ⟨⟨response,behind⟩,read,named⟩ := bind_ok.mp completed
    obtain ⟨rfl,long⟩ := readExact_some.mp (elim_ok.mp read)
    obtain ⟨version,named,compared⟩ := bind_ok.mp named
    have recent : ¬ version < 100 := by
      intro early
      rw [if_pos early] at compared
      cases compared
    exact ⟨connected,length,response,behind,version,whole,four,long,by omega,by omega,elim_ok.mp named,by omega⟩
  · rintro ⟨connected,length,response,behind,version,whole,four,long,positive,most,named,recent⟩
    refine ⟨(),connected,length,response ++ behind,⟨whole,four⟩,?_⟩
    rw [if_neg (by omega)]
    refine bind_ok.mpr ⟨(response,behind),elim_ok.mpr (readExact_some.mpr ⟨rfl,long⟩),
      bind_ok.mpr ⟨version,elim_ok.mpr named,?_⟩⟩
    exact if_neg (by omega)

/-- A handshake is completed by a reply of a plausible length whose first field that is not empty is
a plausible version, whatever is received behind it. -/
theorem completed_iff (exchange : Exchange) :
    probeInner exchange = .ok () ↔
      exchange.connected = .ok () ∧ ∃ length before text behind rest version,
        exchange.received = length ++ ((before ++ (utf8 text ++ behind)) ++ rest) ∧ length.length = 4 ∧
        (before ++ (utf8 text ++ behind)).length = Bits.bigEndian (length.map UInt8.toBitVec) ∧
        (before ++ (utf8 text ++ behind)).length ≤ 4096 ∧
        (∀ b ∈ before, b = 0) ∧ (∀ b ∈ behind.head?, b = 0) ∧
        Text.parseUnsigned 32 text = some version ∧ 100 ≤ version := by
  rw [probeInner_iff]
  refine and_congr_right fun _ => ⟨?_,?_⟩
  · rintro ⟨length,response,rest,version,whole,four,long,-,most,named,recent⟩
    obtain ⟨before,text,behind,rfl,blank,ends,read⟩ := serverVersion_iff.mp named
    exact ⟨length,before,text,behind,rest,version,whole,four,long,most,blank,ends,read,recent⟩
  · rintro ⟨length,before,text,behind,rest,version,whole,four,long,most,blank,ends,read,recent⟩
    refine ⟨length,_,rest,version,whole,four,long,?_,most,?_,recent⟩
    · obtain ⟨filled,ascii⟩ := parseUnsigned_chars read
      have written := List.length_pos_iff.mpr (utf8_signed filled ascii).1
      simp only [List.length_append]
      omega
    · exact serverVersion_iff.mpr ⟨before,text,behind,rfl,blank,ends,read⟩

example : isOk ⟨.ok (),[0,0,0,8,49,55,56,0,50,48,50,54],"IB API handshake timed out"⟩ = true := by
  decide +kernel

end Handshake

section Signaling

/-- A task of `start_api_port_probe`. Between its waits it cannot be aborted: where a probe has
failed too often, it stores the flag whatever happens in between. -/
structure ProbeTask where
  threshold : BitVec 32
  consecutiveFailures : Nat
  aborted : Bool
  signaling : Bool
deriving DecidableEq, Repr

/-- All tasks that were started, the handle of the present one and the shared flag. -/
structure ProbeState where
  tasks : List ProbeTask
  apiPortProbeTask : Option Nat
  apiPortProbeFailed : Bool
deriving DecidableEq, Repr

inductive ProbeEvent where
  | started (intervalSecs : Nat) (threshold : BitVec 32)
  | stopped
  /-- The established session looks at the flag, and takes it back where it is set. -/
  | looked
  | probed (task : Nat) (exchange : Exchange)
  | signaled (task : Nat)

/-- The counter of a task saturates. -/
def ProbeTask.probed (t : ProbeTask) (ok : Bool) : ProbeTask :=
  if ok then { t with consecutiveFailures := 0 }
  else
    let failures := min (t.consecutiveFailures + 1) (2 ^ 32 - 1)
    { t with consecutiveFailures := failures, signaling := decide (t.threshold.toNat ≤ failures) }

namespace ProbeState

variable (s : ProbeState)

def boot : ProbeState := ⟨[],none,false⟩

def stopApiPortProbe : ProbeState :=
  { s with
    tasks := s.apiPortProbeTask.elim s.tasks fun n => s.tasks.modify n fun t => { t with aborted := true }
    apiPortProbeTask := none
    apiPortProbeFailed := false }

def startApiPortProbe (intervalSecs : Nat) (threshold : BitVec 32) : ProbeState :=
  let stopped := s.stopApiPortProbe
  if intervalSecs = 0 then stopped
  else
    { tasks := stopped.tasks ++ [⟨threshold,0,false,false⟩]
      apiPortProbeTask := some stopped.tasks.length
      apiPortProbeFailed := false }

def step : ProbeEvent → ProbeState
  | .started intervalSecs threshold => s.startApiPortProbe intervalSecs threshold
  | .stopped => s.stopApiPortProbe
  | .looked => { s with apiPortProbeFailed := false }
  | .probed n exchange => { s with tasks := s.tasks.modify n fun t => t.probed (isOk exchange) }
  | .signaled n =>
    { s with
      tasks := s.tasks.modify n fun t => { t with signaling := false }
      apiPortProbeFailed := true }

/-- A task probes until it is aborted, and not while it has a signal to store. -/
def Possible (s : ProbeState) : ProbeEvent → Prop
  | .probed n _ => ∃ t, s.tasks[n]? = some t ∧ t.aborted = false ∧ t.signaling = false
  | .signaled n => ∃ t, s.tasks[n]? = some t ∧ t.signaling = true
  | _ => True

/-- The signal of a task that was aborted before it stored it. -/
def Late (s : ProbeState) : ProbeEvent → Prop
  | .signaled n => ∃ t, s.tasks[n]? = some t ∧ t.aborted = true
  | _ => False

end ProbeState

open ProbeState (boot Possible Late)

/-- The outcome of a probe of one task. -/
def ProbeEvent.outcome (n : Nat) : ProbeEvent → Option Bool
  | .probed m exchange => if m = n then some (isOk exchange) else none
  | _ => none

/-- How many of the latest probes of a task have failed. -/
def failures (n : Nat) (events : List ProbeEvent) : Nat :=
  Streaks.streak (fun ok => !ok) (events.filterMap (ProbeEvent.outcome n))

/-- What an event stores into the flag. -/
def ProbeEvent.stores : ProbeEvent → Option Bool
  | .started _ _ | .stopped | .looked => some false
  | .signaled _ => some true
  | .probed _ _ => none

variable {s : ProbeState} {events before after : List ProbeEvent} {event : ProbeEvent} {n : Nat}

theorem step_flag (s : ProbeState) (event : ProbeEvent) :
    (s.step event).apiPortProbeFailed = Runs.register ProbeEvent.stores s.apiPortProbeFailed event := by
  cases event with
  | started intervalSecs threshold =>
    unfold ProbeState.step ProbeState.startApiPortProbe
    dsimp only
    split <;> rfl
  | stopped | looked | probed | signaled => rfl

theorem failures_concat (n : Nat) (events : List ProbeEvent) (event : ProbeEvent) :
    failures n (events ++ [event]) =
      (event.outcome n).elim (failures n events) fun ok => if ok then 0 else failures n events + 1 := by
  unfold failures
  rw [List.filterMap_append]
  cases found : event.outcome n with
  | none => simp [found]
  | some ok =>
    rw [List.filterMap_cons_some found,List.filterMap_nil,Streaks.streak_concat]
    cases ok <;> rfl

/-- The counter of a task is its failures in a row, also where it saturates; a signal is due only
after enough of them; and the task that is not aborted is the one of the handle. -/
structure Fits (events : List ProbeEvent) (handle : Option Nat) (n : Nat) (t : ProbeTask) : Prop where
  counts : t.consecutiveFailures = min (failures n events) (2 ^ 32 - 1)
  due : t.signaling = true → max 1 t.threshold.toNat ≤ failures n events
  present : t.aborted = false ↔ handle = some n

structure Counted (events : List ProbeEvent) (s : ProbeState) : Prop where
  fits : ∀ n t, s.tasks[n]? = some t → Fits events s.apiPortProbeTask n t
  unstarted : ∀ n, s.tasks.length ≤ n → failures n events = 0
  handle : ∀ n, s.apiPortProbeTask = some n → n < s.tasks.length

theorem counted_boot : Counted [] boot where
  fits _ _ found := by cases found
  unstarted _ _ := Streaks.streak_nil
  handle _ found := by cases found

section Tasks

variable {handle : Option Nat} {t : ProbeTask}

/-- An event that is no probe of the task. -/
theorem failures_silent (silent : event.outcome n = none) :
    failures n (events ++ [event]) = failures n events := by
  rw [failures_concat,silent]
  rfl

theorem Fits.silent (fits : Fits events handle n t) (silent : event.outcome n = none) :
    Fits (events ++ [event]) handle n t where
  counts := by rw [failures_silent silent,fits.counts]
  due signals := by
    rw [failures_silent silent]
    exact fits.due signals
  present := fits.present

theorem failures_probed (n : Nat) (events : List ProbeEvent) (exchange : Exchange) :
    Streaks.tick (fun ok => !ok) (2 ^ 32 - 1) (min (failures n events) (2 ^ 32 - 1)) (isOk exchange) =
      min (failures n (events ++ [.probed n exchange])) (2 ^ 32 - 1) := by
  have own : (ProbeEvent.probed n exchange).outcome n = some (isOk exchange) := if_pos rfl
  unfold failures
  rw [List.filterMap_append,List.filterMap_cons_some own,List.filterMap_nil]
  exact Streaks.tick_streak _ _ _

theorem ProbeTask.probed_counts (t : ProbeTask) (ok : Bool) :
    (t.probed ok).consecutiveFailures =
      Streaks.tick (fun ok => !ok) (2 ^ 32 - 1) t.consecutiveFailures ok := by
  cases ok <;> rfl

@[simp] theorem ProbeTask.probed_threshold (t : ProbeTask) (ok : Bool) :
    (t.probed ok).threshold = t.threshold := by
  cases ok <;> rfl

theorem Fits.probed_counts (fits : Fits events handle n t) (exchange : Exchange) :
    (t.probed (isOk exchange)).consecutiveFailures =
      min (failures n (events ++ [.probed n exchange])) (2 ^ 32 - 1) := by
  rw [t.probed_counts,fits.counts,failures_probed]

/-- A failed probe makes a signal due just when the failures in a row are enough, for no threshold is
above the cap of the counter. -/
theorem Fits.probed_signals (fits : Fits events handle n t) {exchange : Exchange}
    (failed : isOk exchange = false) : (t.probed (isOk exchange)).signaling = true ↔
      t.threshold.toNat ≤ failures n (events ++ [.probed n exchange]) := by
  have counts := fits.probed_counts exchange
  have small : t.threshold.toNat ≤ 2 ^ 32 - 1 := Nat.le_sub_one_of_lt t.threshold.isLt
  rw [failed] at counts ⊢
  have signals : (t.probed false).signaling =
      decide (t.threshold.toNat ≤ (t.probed false).consecutiveFailures) := rfl
  rw [signals,decide_eq_true_iff,counts]
  exact Streaks.le_min_streak small

theorem Fits.probed (fits : Fits events handle n t) {exchange : Exchange} (idle : t.signaling = false) :
    Fits (events ++ [.probed n exchange]) handle n (t.probed (isOk exchange)) where
  counts := fits.probed_counts exchange
  due signals := by
    rw [t.probed_threshold]
    cases ok : isOk exchange with
    | true =>
      rw [ok] at signals
      exact absurd (idle.symm.trans signals) (by decide)
    | false =>
      have own : (ProbeEvent.probed n exchange).outcome n = some false := ok ▸ if_pos rfl
      have counted := failures_concat n events (.probed n exchange)
      rw [own] at counted
      exact Nat.max_le.mpr ⟨counted ▸ Nat.succ_pos _,(fits.probed_signals ok).mp signals⟩
  present := by
    cases isOk exchange with
    | true => exact fits.present
    | false => exact fits.present

theorem Fits.signaled (fits : Fits events handle n t) (silent : event.outcome n = none) :
    Fits (events ++ [event]) handle n { t with signaling := false } where
  counts := (fits.silent silent).counts
  due signals := by cases signals
  present := fits.present

end Tasks

section Steps

theorem modify_some {α : Type} {l : List α} {f : α → α} {m n : Nat} {b : α}
    (found : (l.modify m f)[n]? = some b) : ∃ a, l[n]? = some a ∧ b = if m = n then f a else a := by
  rw [List.getElem?_modify] at found
  obtain ⟨a,here,same⟩ := Option.map_eq_some_iff.mp found
  exact ⟨a,here,same.symm⟩

theorem modify_found {α : Type} {l : List α} {f : α → α} {m n : Nat} {a : α} (found : l[n]? = some a) :
    (l.modify m f)[n]? = some (if m = n then f a else a) := by
  rw [List.getElem?_modify,found]
  rfl

theorem length_stopApiPortProbe (s : ProbeState) : s.stopApiPortProbe.tasks.length = s.tasks.length := by
  unfold ProbeState.stopApiPortProbe
  cases s.apiPortProbeTask with
  | none => rfl
  | some m => exact List.length_modify _ _ _

/-- What a stopped probe leaves of a task. -/
theorem stopApiPortProbe_task {t : ProbeTask} (found : s.stopApiPortProbe.tasks[n]? = some t) :
    ∃ t₀, s.tasks[n]? = some t₀ ∧
      t = { t₀ with aborted := t₀.aborted || decide (s.apiPortProbeTask = some n) } := by
  unfold ProbeState.stopApiPortProbe at found
  cases handle : s.apiPortProbeTask with
  | none =>
    rw [handle] at found
    exact ⟨t,found,by simp⟩
  | some m =>
    rw [handle] at found
    obtain ⟨t₀,here,rfl⟩ := modify_some found
    refine ⟨t₀,here,?_⟩
    by_cases own : m = n
    · simp [own]
    · simp [own]

theorem Counted.stop (counted : Counted events s) (silent : ∀ m, event.outcome m = none) :
    Counted (events ++ [event]) s.stopApiPortProbe where
  fits n t found := by
    obtain ⟨t₀,here,rfl⟩ := stopApiPortProbe_task found
    have fits := (counted.fits n t₀ here).silent (silent n)
    refine ⟨fits.counts,fits.due,iff_of_false ?_ (fun none_ => by cases none_)⟩
    have present := fits.present
    simp only [Bool.or_eq_false_iff,decide_eq_false_iff_not,not_and,not_not]
    exact present.mp
  unstarted n beyond := by
    rw [length_stopApiPortProbe] at beyond
    rw [failures_silent (silent n)]
    exact counted.unstarted n beyond
  handle _ found := by cases found

theorem append_some {α : Type} {l : List α} {a b : α} (found : (l ++ [a])[n]? = some b) :
    (l[n]? = some b ∧ n < l.length) ∨ (n = l.length ∧ b = a) := by
  rcases Nat.lt_or_ge n l.length with old | new
  · rw [List.getElem?_append_left old] at found
    exact .inl ⟨found,old⟩
  · rw [List.getElem?_append_right new] at found
    obtain ⟨inside,same⟩ := List.getElem?_eq_some_iff.mp found
    rw [List.length_singleton] at inside
    exact .inr ⟨by omega,by simpa using same.symm⟩

theorem Counted.start (counted : Counted events s) (intervalSecs : Nat) (threshold : BitVec 32)
    (silent : ∀ m, event.outcome m = none) :
    Counted (events ++ [event]) (s.startApiPortProbe intervalSecs threshold) := by
  have stopped := counted.stop silent
  unfold ProbeState.startApiPortProbe
  dsimp only
  split
  · exact stopped
  refine ⟨fun n t found => ?_,fun n beyond => ?_,fun n same => ?_⟩
  · rcases append_some found with ⟨old,inside⟩ | ⟨rfl,rfl⟩
    · have fits := stopped.fits n t old
      refine ⟨fits.counts,fits.due,iff_of_false (fun alive => by cases fits.present.mp alive) fun same => ?_⟩
      exact absurd (Option.some.inj same) (by omega)
    · refine ⟨?_,?_,iff_of_true rfl rfl⟩
      · rw [stopped.unstarted _ le_rfl,Nat.zero_min]
      · intro signals
        cases signals
  · refine stopped.unstarted n ?_
    rw [List.length_append] at beyond
    omega
  · cases same
    rw [List.length_append,List.length_singleton]
    exact Nat.lt_succ_self _

/-- An event that touches one task only. -/
theorem Counted.modify (counted : Counted events s) {m : Nat} {f : ProbeTask → ProbeTask} {flag : Bool}
    (own : ∀ t, s.tasks[m]? = some t → Fits (events ++ [event]) s.apiPortProbeTask m (f t))
    (others : ∀ n, n ≠ m → event.outcome n = none)
    (started : event.outcome m = none ∨ m < s.tasks.length) :
    Counted (events ++ [event]) ⟨s.tasks.modify m f,s.apiPortProbeTask,flag⟩ where
  fits n t found := by
    obtain ⟨t₀,here,rfl⟩ := modify_some found
    by_cases same : m = n
    · subst same
      rw [if_pos rfl]
      exact own t₀ here
    · rw [if_neg same]
      exact (counted.fits n t₀ here).silent (others n (Ne.symm same))
  unstarted n beyond := by
    rw [List.length_modify] at beyond
    have silent : event.outcome n = none := by
      by_cases same : n = m
      · subst same
        exact started.resolve_right (Nat.not_lt.mpr beyond)
      · exact others n same
    rw [failures_silent silent]
    exact counted.unstarted n beyond
  handle n same := by
    rw [List.length_modify]
    exact counted.handle n same

theorem Counted.step (counted : Counted events s) (possible : Possible s event) :
    Counted (events ++ [event]) (s.step event) := by
  cases event with
  | started intervalSecs threshold => exact counted.start intervalSecs threshold fun _ => rfl
  | stopped => exact counted.stop fun _ => rfl
  | looked =>
    refine ⟨fun n t found => (counted.fits n t found).silent rfl,fun n beyond => ?_,counted.handle⟩
    rw [failures_silent rfl]
    exact counted.unstarted n beyond
  | probed m exchange =>
    obtain ⟨t,here,-,idle⟩ := possible
    refine counted.modify (fun t' there => ?_) (fun n other => if_neg other.symm)
      (.inr (List.getElem?_eq_some_iff.mp here).1)
    cases here.symm.trans there
    exact (counted.fits m t here).probed idle
  | signaled m =>
    exact counted.modify (fun t here => (counted.fits m t here).signaled rfl) (fun _ _ => rfl) (.inl rfl)

end Steps

/-- However tasks and machine interleave, the counters are right. -/
theorem counted_run (possible : Runs.Along ProbeState.step Possible boot events) :
    Counted events (Runs.run ProbeState.step boot events) := by
  induction events using List.reverseRecOn with
  | nil => exact counted_boot
  | append_singleton events event ih =>
    obtain ⟨along,last⟩ := (Runs.along_append _ _ _ _).mp possible
    rw [Runs.run_concat]
    exact (ih along).step last.1

section Signals

variable {rest : List ProbeEvent} {t : ProbeTask}

theorem flag_kept (flag : s.apiPortProbeFailed = true) (kept : ∀ event ∈ after, event.stores ≠ some false) :
    (Runs.run ProbeState.step s after).apiPortProbeFailed = true := by
  refine Runs.Along.invariant (G := fun _ event => event.stores ≠ some false)
    (P := fun s => s.apiPortProbeFailed = true) (fun s event flag kept => ?_) flag
    (Runs.along_of_forall s after fun event member _ => kept event member)
  rw [step_flag]
  unfold Runs.register
  cases stored : event.stores with
  | none => exact flag
  | some value =>
    cases value with
    | true => rfl
    | false => exact absurd stored kept

/-- A task has signaled after so many of its probes had failed in a row, and nothing has taken the
signal back. -/
def SignaledBy (n : Nat) (events : List ProbeEvent) : Prop :=
  ∃ before after t, events = before ++ .signaled n :: after ∧
    (∀ event ∈ after, event.stores ≠ some false) ∧
    (Runs.run ProbeState.step boot before).tasks[n]? = some t ∧
    max 1 t.threshold.toNat ≤ failures n before

/-- The machine finds the flag set just when some task has had its failures in a row since it was
started, however tasks were stopped and started in between; it is the present one if no signal came
late. -/
theorem failed_iff (possible : Runs.Along ProbeState.step Possible boot events) :
    (Runs.run ProbeState.step boot events).apiPortProbeFailed = true ↔
      ∃ n, SignaledBy n events ∧
        (Runs.Along ProbeState.step (fun s event => ¬ Late s event) boot events →
          (Runs.run ProbeState.step boot events).apiPortProbeTask = some n) := by
  constructor
  · intro flag
    induction events using List.reverseRecOn with
    | nil => cases flag
    | append_singleton events event ih =>
      obtain ⟨along,last,-⟩ := (Runs.along_append _ _ _ _).mp possible
      rw [Runs.run_concat,step_flag] at flag
      rw [Runs.run_concat]
      cases event with
      | started intervalSecs threshold | stopped | looked => cases flag
      | probed m exchange =>
        obtain ⟨n,⟨before,after,t,rfl,kept,found,due⟩,present⟩ := ih along flag
        refine ⟨n,⟨before,after ++ [.probed m exchange],t,by simp,fun event member => ?_,found,due⟩,
          fun early => ?_⟩
        · rcases List.mem_append.mp member with member | member
          · exact kept event member
          · rw [List.mem_singleton.mp member]
            exact fun same => by cases same
        · exact present ((Runs.along_append _ _ _ _).mp early).1
      | signaled n =>
        obtain ⟨t,found,signals⟩ := last
        have fits := (counted_run along).fits n t found
        refine ⟨n,⟨events,[],t,rfl,by simp,found,fits.due signals⟩,fun early => ?_⟩
        obtain ⟨-,last,-⟩ := (Runs.along_append _ _ _ _).mp early
        have alive : t.aborted = false := by
          rw [← Bool.not_eq_true]
          exact fun aborted => last ⟨t,found,aborted⟩
        exact fits.present.mp alive
  · rintro ⟨n,⟨before,after,t,rfl,kept,-⟩,-⟩
    rw [Runs.run_append,Runs.run_cons]
    exact flag_kept rfl kept

/-- Nobody listens. -/
def refusedExchange : Exchange := ⟨.error "Connection refused (os error 111)",[],""⟩

/-- The first task is aborted after it has counted enough failures and before it stores its signal;
the second one has not probed yet. -/
def lateSignal : List ProbeEvent :=
  [.started 5 1,.probed 0 refusedExchange,.stopped,.started 5 3,.signaled 0]

theorem lateSignal_failed :
    (Runs.run ProbeState.step boot lateSignal).apiPortProbeFailed = true ↔
      ∃ n, SignaledBy n lateSignal ∧
        (Runs.Along ProbeState.step (fun s event => ¬ Late s event) boot lateSignal →
          (Runs.run ProbeState.step boot lateSignal).apiPortProbeTask = some n) :=
  failed_iff ⟨trivial,⟨_,rfl,rfl,rfl⟩,trivial,trivial,⟨_,rfl,rfl⟩,trivial⟩

example : Runs.run ProbeState.step boot lateSignal =
    ⟨[⟨1,1,true,false⟩,⟨3,0,false,false⟩],some 1,true⟩ := by decide

/-- Probes that fail without one that succeeds in between are failures in a row. -/
theorem countP_le_failures (events : List ProbeEvent) (failing : ∀ event ∈ rest, event.outcome n ≠ some true) :
    rest.countP (fun event => event.outcome n = some false) ≤ failures n (events ++ rest) := by
  have outcomes : ∀ ok ∈ rest.filterMap (ProbeEvent.outcome n), (!ok) = true := by
    intro ok member
    obtain ⟨event,among,found⟩ := List.mem_filterMap.mp member
    cases ok with
    | true => exact absurd found (failing event among)
    | false => rfl
  have many : rest.countP (fun event => event.outcome n = some false) ≤
      (rest.filterMap (ProbeEvent.outcome n)).length := by
    rw [List.length_filterMap_eq_countP]
    refine List.countP_mono_left fun event _ found => ?_
    rw [of_decide_eq_true found]
    rfl
  unfold failures
  rw [List.filterMap_append]
  exact many.trans (Streaks.le_streak_append outcomes)

/-- While nothing but probes and signals happens and the probes of a task fail, its signal is due or
stored as soon as enough have failed. -/
theorem failing_run (possible : Runs.Along ProbeState.step Possible boot (events ++ rest))
    (found : (Runs.run ProbeState.step boot events).tasks[n]? = some t)
    (undisturbed : ∀ event ∈ rest, event.stores ≠ some false)
    (failing : ∀ event ∈ rest, event.outcome n ≠ some true) :
    ∃ t', (Runs.run ProbeState.step boot (events ++ rest)).tasks[n]? = some t' ∧ t'.threshold = t.threshold ∧
      (max 1 t.threshold.toNat ≤ rest.countP (fun event => event.outcome n = some false) →
        t'.signaling = true ∨ (Runs.run ProbeState.step boot (events ++ rest)).apiPortProbeFailed = true) := by
  induction rest using List.reverseRecOn with
  | nil =>
    refine ⟨t,by rw [List.append_nil]; exact found,rfl,fun many => ?_⟩
    rw [List.countP_nil] at many
    omega
  | append_singleton rest event ih =>
    have row := countP_le_failures events failing
    rw [← List.append_assoc] at possible row ⊢
    obtain ⟨along,last,-⟩ := (Runs.along_append _ _ _ _).mp possible
    obtain ⟨t₁,here,threshold,due⟩ := ih along (fun e member => undisturbed e (by simp [member]))
      fun e member => failing e (by simp [member])
    have kept : event.stores ≠ some false := undisturbed event (by simp)
    rw [Runs.run_concat]
    cases event with
    | started intervalSecs threshold | stopped | looked => exact absurd rfl kept
    | signaled m =>
      refine ⟨_,modify_found here,?_,fun _ => .inr rfl⟩
      split <;> exact threshold
    | probed m exchange =>
      by_cases own : m = n
      · subst own
        obtain ⟨t₂,there,-,idle⟩ := last
        cases here.symm.trans there
        have fits := (counted_run along).fits m t₁ here
        have own : (ProbeEvent.probed m exchange).outcome m = some (isOk exchange) := if_pos rfl
        have refused : isOk exchange = false := by
          rw [← Bool.not_eq_true]
          intro ok
          exact failing (.probed m exchange) (by simp) (by rw [own,ok])
        refine ⟨_,modify_found here,?_,fun many => .inl ?_⟩
        · rw [if_pos rfl,t₁.probed_threshold]
          exact threshold
        · rw [if_pos rfl,fits.probed_signals refused,threshold]
          exact (le_max_right _ _).trans (many.trans row)
      · have other : (ProbeEvent.probed m exchange).outcome n = none := if_neg own
        refine ⟨_,modify_found here,?_,fun many => ?_⟩
        · rw [if_neg own]
          exact threshold
        · rw [if_neg own]
          refine due ?_
          rwa [List.countP_append,List.countP_singleton,other,if_neg (by simp),Nat.add_zero] at many

/-- A lost listener is signaled: when enough probes of the present task fail, one after the other,
and the signal that is then due is stored, the machine finds the flag set, unless it took it back
in between. -/
theorem loss_signaled (possible : Runs.Along ProbeState.step Possible boot (events ++ rest))
    (found : (Runs.run ProbeState.step boot events).tasks[n]? = some t)
    (undisturbed : ∀ event ∈ rest, event.stores ≠ some false)
    (failing : ∀ event ∈ rest, event.outcome n ≠ some true)
    (many : max 1 t.threshold.toNat ≤ rest.countP fun event => event.outcome n = some false)
    (stored : ∀ t', (Runs.run ProbeState.step boot (events ++ rest)).tasks[n]? = some t' → t'.signaling = false) :
    (Runs.run ProbeState.step boot (events ++ rest)).apiPortProbeFailed = true := by
  obtain ⟨t',here,-,due⟩ := failing_run possible found undisturbed failing
  rcases due many with signals | flag
  · rw [stored t' here] at signals
    cases signals
  · exact flag

theorem refused_signaled :
    (Runs.run ProbeState.step boot ([.started 5 2] ++
      [.probed 0 refusedExchange,.probed 0 refusedExchange,.signaled 0])).apiPortProbeFailed = true := by
  refine loss_signaled (n := 0) (t := ⟨2,0,false,false⟩) ?_ rfl ?_ ?_ (by decide) ?_
  · exact ⟨trivial,⟨_,rfl,rfl,rfl⟩,⟨_,rfl,rfl,rfl⟩,⟨_,rfl,rfl⟩,trivial⟩
  · intro event member
    simp only [List.mem_cons,List.not_mem_nil,or_false] at member
    rcases member with rfl | rfl | rfl <;> decide
  · intro event member
    simp only [List.mem_cons,List.not_mem_nil,or_false] at member
    rcases member with rfl | rfl | rfl <;> decide
  · intro t' found
    cases found
    rfl

end Signals

end Signaling

end Ibctl.ApiProbe
