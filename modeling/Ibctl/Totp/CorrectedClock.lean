import Ibctl.Handlers.Registry
import Ibctl.Lib.Median
import Ibctl.Lib.Runs
import Ibctl.Totp.Generate

/-! The clock of the one-time code. Several time servers are asked from time to time how far the
local clock is off; the middle of their answers corrects the clock by which the code is made,
and the edge of a time step is waited out before. A minority of the servers can be wrong. -/
namespace Ibctl.TimeSync
open Tasks Task Handlers
open Machine (WindowId WindowInfo)

section Verification

def maxAcceptedOffsetMs : Int := 120000

def defaultServers : List String :=
  ["time.cloudflare.com:123","time.google.com:123","pool.ntp.org:123"]

/-- The servers that the environment names, between commas; the default ones where it names none. -/
def servers (value : Option String) : List String :=
  let items := value.map fun value =>
    (((value.toList.splitOn ',').map (Text.trimChars Text.isWhitespace)).filter
      fun s => !s.isEmpty).map String.ofList
  (items.filter fun items => !items.isEmpty).getD defaultServers

structure TimeSyncResult where
  offsetMs : Int
  samples : Nat
deriving DecidableEq, Repr

/-- The offsets that count: of a server that answers, if it is not too far off. A server that is
named twice is asked twice. -/
def acceptedOffsets (servers : List String) (sampleNtp : Nat → String → Except String Int) :
    List Int :=
  (servers.zipIdx.filterMap fun (server,n) => (sampleNtp n server).toOption).filter
    fun offset => offset.natAbs ≤ maxAcceptedOffsetMs

def verifyServers (servers : List String) (sampleNtp : Nat → String → Except String Int) :
    Option TimeSyncResult :=
  let offsets := acceptedOffsets servers sampleNtp
  (Median.upper offsets).map fun offsetMs => ⟨offsetMs,offsets.length⟩

structure Verified where
  offsetMs : Int := 0
  lastVerifiedUnixSecs : Int := 0
deriving DecidableEq, Repr

/-- The servers have answered one of the verifications, or a verification that has kept its
result notes the time. Verifications can overlap. -/
inductive Event where
  | answered (sampleNtp : Nat → String → Except String Int)
  | noted (secs : Int)

/-- An unverified time retains the offset. -/
def verifyNow (value : Option String) (s : Verified) : Event → Verified
  | .answered sampleNtp =>
    match verifyServers (servers value) sampleNtp with
    | some result => { s with offsetMs := result.offsetMs }
    | none => s
  | .noted secs => { s with lastVerifiedUnixSecs := secs }

end Verification

section Clock

/-- The local clock gives the milliseconds since the epoch, or an error before it. -/
def correctedUnixSeconds (clock : Except String Nat) (s : Verified) : Except String (BitVec 64) := do
  let localMs ← clock
  let corrected := (localMs : Int) + s.offsetMs
  return BitVec.ofInt 64 (max corrected 0) / 1000

/-- The seconds that are slept before the code is made. -/
def waitForSafeWindow (clock : Except String Nat) (s : Verified) : BitVec 64 :=
  match correctedUnixSeconds clock s with
  | .error _ => 0
  | .ok now =>
    let position := now % 30
    if position ≥ 27 then 32 - position else if position < 2 then 2 - position else 0

/-- The built-in provider. -/
def generateAt (secret : String) (timestamp : Int) : Except String String :=
  match Totp.generateTotpAt secret (BitVec.ofInt 64 timestamp) 30 6 with
  | .ok code => .ok code
  | .error (.executionFailed e) => .error ("failed to execute oathtool: " ++ e)
  | .error (.oathtoolFailed e) => .error ("oathtool returned non-zero exit code: " ++ e)
  | .error (.invalidSecret e) => .error ("invalid base32 TOTP secret: " ++ e)

/-- The handler is answered by the environment, the corrected clock and the built-in provider. -/
structure Answered (schedule : Schedule Answers) (secret : String) (clock : Except String Nat)
    (s : Verified) : Prop where
  secret : ∀ n, schedule.answers.secret n = some secret
  clock : ∀ n, schedule.answers.correctedUnixSeconds n =
    (correctedUnixSeconds clock s).map fun secs => (secs.toNat : Int)
  generated : ∀ n, schedule.answers.generateAt n = generateAt

end Clock

section Majority

variable {value : Option String} {θ ε : Int} {s : Verified} {event : Event} {events : List Event}

/-- The clock is off by `θ`, within `ε`. -/
def Near (θ ε : Int) (s : Verified) : Prop := θ - ε ≤ s.offsetMs ∧ s.offsetMs ≤ θ + ε

/-- More than half of the offsets that count are right. -/
def Majority (θ ε : Int) (offsets : List Int) : Prop :=
  offsets.length < 2 * offsets.countP fun x => decide (θ - ε ≤ x ∧ x ≤ θ + ε)

instance (θ ε : Int) (offsets : List Int) : Decidable (Majority θ ε offsets) :=
  inferInstanceAs (Decidable (_ < _))

/-- If the event is a verification, most of what counts in it is right. -/
def Trusted (value : Option String) (θ ε : Int) : Event → Prop
  | .answered sampleNtp =>
    acceptedOffsets (servers value) sampleNtp = [] ∨
      Majority θ ε (acceptedOffsets (servers value) sampleNtp)
  | .noted _ => True

/-- There has been a verification with a majority that is right, and none since without. -/
def Settled (value : Option String) (θ ε : Int) (events : List Event) : Prop :=
  ∃ before sampleNtp after, events = before ++ .answered sampleNtp :: after ∧
    Majority θ ε (acceptedOffsets (servers value) sampleNtp) ∧
    ∀ event ∈ after, Trusted value θ ε event

theorem acceptedOffsets_bounded {servers : List String} {sampleNtp : Nat → String → Except String Int}
    {offset : Int} (member : offset ∈ acceptedOffsets servers sampleNtp) :
    -maxAcceptedOffsetMs ≤ offset ∧ offset ≤ maxAcceptedOffsetMs := by
  have close : (offset.natAbs : Int) ≤ maxAcceptedOffsetMs := by
    simpa using (List.mem_filter.mp member).2
  omega

/-- What a verification does to the offset. -/
theorem verifyNow_answered (value : Option String) (s : Verified)
    (sampleNtp : Nat → String → Except String Int) :
    (acceptedOffsets (servers value) sampleNtp = [] ∧ verifyNow value s (.answered sampleNtp) = s) ∨
      ∃ m, Median.upper (acceptedOffsets (servers value) sampleNtp) = some m ∧
        verifyNow value s (.answered sampleNtp) = { s with offsetMs := m } := by
  cases middle : Median.upper (acceptedOffsets (servers value) sampleNtp) with
  | none =>
    refine .inl ⟨Median.upper_none.mp middle,?_⟩
    simp only [verifyNow,verifyServers,middle,Option.map_none]
  | some m =>
    refine .inr ⟨m,rfl,?_⟩
    simp only [verifyNow,verifyServers,middle,Option.map_some]

/-- No server can set the clock off by more than the bound. -/
theorem run_bounded (value : Option String) (events : List Event) :
    -maxAcceptedOffsetMs ≤ (Runs.run (verifyNow value) {} events).offsetMs ∧
      (Runs.run (verifyNow value) {} events).offsetMs ≤ maxAcceptedOffsetMs := by
  have initial : -maxAcceptedOffsetMs ≤ ({} : Verified).offsetMs ∧
      ({} : Verified).offsetMs ≤ maxAcceptedOffsetMs := by decide
  refine Runs.Along.invariant (G := fun _ _ => True)
    (P := fun s : Verified => -maxAcceptedOffsetMs ≤ s.offsetMs ∧ s.offsetMs ≤ maxAcceptedOffsetMs)
    (fun s event bounded _ => ?_) initial (Runs.along_of_forall _ _ fun _ _ _ => trivial)
  cases event with
  | noted secs => exact bounded
  | answered sampleNtp =>
    rcases verifyNow_answered value s sampleNtp with ⟨-,same⟩ | ⟨m,middle,same⟩
    · rw [same]
      exact bounded
    · rw [same]
      exact acceptedOffsets_bounded (Median.upper_mem middle)

theorem near_of_majority {sampleNtp : Nat → String → Except String Int}
    (majority : Majority θ ε (acceptedOffsets (servers value) sampleNtp)) :
    Near θ ε (verifyNow value s (.answered sampleNtp)) := by
  rcases verifyNow_answered value s sampleNtp with ⟨none_,-⟩ | ⟨m,middle,same⟩
  · rw [none_] at majority
    exact absurd majority (by simp [Majority])
  · rw [same]
    exact Median.upper_of_majority middle majority

theorem near_step (near : Near θ ε s) (trusted : Trusted value θ ε event) :
    Near θ ε (verifyNow value s event) := by
  cases event with
  | noted secs => exact near
  | answered sampleNtp =>
    rcases trusted with none_ | majority
    · rcases verifyNow_answered value s sampleNtp with ⟨-,same⟩ | ⟨m,middle,-⟩
      · rw [same]
        exact near
      · rw [none_] at middle
        exact absurd (Median.upper_none.mpr rfl) (by rw [middle]; simp)
    · exact near_of_majority majority

theorem near_run (near : Near θ ε s) (trusted : ∀ event ∈ events, Trusted value θ ε event) :
    Near θ ε (Runs.run (verifyNow value) s events) :=
  Runs.Along.invariant (G := fun _ event => Trusted value θ ε event) (P := Near θ ε)
    (fun _ _ near trusted => near_step near trusted) near
    (Runs.along_of_forall s events fun event member _ => trusted event member)

/-- However the verifications before it went, one with a majority that is right sets the clock
right. -/
theorem Settled.near (settled : Settled value θ ε events) (s : Verified) :
    Near θ ε (Runs.run (verifyNow value) s events) := by
  obtain ⟨before,sampleNtp,after,rfl,majority,trusted⟩ := settled
  rw [Runs.run_append,Runs.run_cons]
  exact near_run (near_of_majority majority) trusted

end Majority

section Guard

variable {θ ε lag : Int} {s s' : Verified} {first second third : Nat}

/-- The clock is beyond the first two minutes of the epoch and far from the end of its range. -/
def Dated (localMs : Nat) : Prop := 120000 ≤ localMs ∧ localMs < 2 ^ 63

instance (localMs : Nat) : Decidable (Dated localMs) := inferInstanceAs (Decidable (_ ∧ _))

/-- What a code is made of by a server whose clock is right. -/
def trueSecs (θ : Int) (localMs : Nat) : Nat := ((localMs : Int) + θ).toNat / 1000

theorem correctedUnixSeconds_eq (dated : Dated first) (least : -maxAcceptedOffsetMs ≤ s.offsetMs)
    (most : s.offsetMs ≤ maxAcceptedOffsetMs) :
    ∃ now, correctedUnixSeconds (.ok first) s = .ok now ∧
      (now.toNat : Int) = (first + s.offsetMs) / 1000 := by
  refine ⟨_,rfl,?_⟩
  unfold maxAcceptedOffsetMs at least most
  obtain ⟨late,early⟩ := dated
  have whole : max ((first : Int) + s.offsetMs) 0 = ((first : Int) + s.offsetMs).toNat := by omega
  have room : ((first : Int) + s.offsetMs).toNat < 2 ^ 64 := by omega
  have thousand : (1000 : BitVec 64).toNat = 1000 := rfl
  rw [whole,BitVec.ofInt_natCast,BitVec.toNat_udiv,BitVec.toNat_ofNat,Nat.mod_eq_of_lt room,thousand]
  omega

/-- The guard ends between two seconds after the start of a time step and three before its end. -/
theorem waitForSafeWindow_lands {now : BitVec 64}
    (read : correctedUnixSeconds (.ok first) s = .ok now) :
    2 ≤ (now.toNat + (waitForSafeWindow (.ok first) s).toNat) % 30 ∧
      (now.toNat + (waitForSafeWindow (.ok first) s).toNat) % 30 < 27 := by
  have position : (now % 30).toNat = now.toNat % 30 := by rw [BitVec.toNat_umod]; rfl
  have inside : now.toNat % 30 < 30 := Nat.mod_lt _ (by omega)
  unfold waitForSafeWindow
  rw [read]
  dsimp only
  by_cases late : now % 30 ≥ 27
  · rw [if_pos late]
    have late' : 27 ≤ now.toNat % 30 := by simpa [BitVec.le_def,position] using late
    have rest : (32 - now % 30).toNat = 32 - now.toNat % 30 := by
      rw [BitVec.toNat_sub_of_le (by rw [BitVec.le_def,position]; simp; omega),position]; rfl
    omega
  · have late' : ¬ 27 ≤ now.toNat % 30 := by simpa [BitVec.le_def,position] using late
    rw [if_neg late]
    by_cases early : now % 30 < 2
    · rw [if_pos early]
      have early' : now.toNat % 30 < 2 := by simpa [BitVec.lt_def,position] using early
      have rest : (2 - now % 30).toNat = 2 - now.toNat % 30 := by
        rw [BitVec.toNat_sub_of_le (by rw [BitVec.le_def,position]; simp; omega),position]; rfl
      omega
    · have early' : ¬ now.toNat % 30 < 2 := by simpa [BitVec.lt_def,position] using early
      rw [if_neg early]
      have none_ : (0 : BitVec 64).toNat = 0 := rfl
      omega

/-- The moments at which the code is made and looked at: after what the guard sleeps, and no
later than some time. -/
def Prompt (lag : Int) (first wait third : Nat) : Prop :=
  first + 1000 * wait ≤ third ∧ (third : Int) ≤ first + 1000 * wait + lag

/-- Two seconds before and three after a moment so far from the edges it is the same step. -/
theorem inside_step {c wait x : Int} (low : 2 ≤ (c / 1000 + wait) % 30)
    (high : (c / 1000 + wait) % 30 < 27) (least : c + 1000 * wait - 2000 ≤ x)
    (most : x ≤ c + 1000 * wait + 3000) : x / 30000 = (c / 1000 + wait) / 30 := by
  omega

/-- The clock that is read after the guard is in the time step of the true time, also of a
somewhat later one. -/
theorem same_step (dated : Dated first) (dated' : Dated second)
    (bounded : -maxAcceptedOffsetMs ≤ s.offsetMs ∧ s.offsetMs ≤ maxAcceptedOffsetMs)
    (bounded' : -maxAcceptedOffsetMs ≤ s'.offsetMs ∧ s'.offsetMs ≤ maxAcceptedOffsetMs)
    (near : Near θ ε s) (near' : Near θ ε s') (close : 2 * ε ≤ 2000) (soon : lag + 2 * ε ≤ 3000)
    (reached : Prompt lag first (waitForSafeWindow (.ok first) s).toNat second)
    (looked : Prompt lag first (waitForSafeWindow (.ok first) s).toNat third) :
    ∃ now, correctedUnixSeconds (.ok second) s' = .ok now ∧
      now.toNat / 30 = trueSecs θ third / 30 := by
  obtain ⟨before,read,beforeEq⟩ := correctedUnixSeconds_eq dated bounded.1 bounded.2
  obtain ⟨now,read',nowEq⟩ := correctedUnixSeconds_eq dated' bounded'.1 bounded'.2
  obtain ⟨low,high⟩ := waitForSafeWindow_lands read
  refine ⟨now,read',?_⟩
  unfold Prompt at reached looked
  generalize (waitForSafeWindow (.ok first) s).toNat = wait at low high reached looked
  obtain ⟨low_,high_⟩ := near
  obtain ⟨low_',high_'⟩ := near'
  have low' : 2 ≤ (((first : Int) + s.offsetMs) / 1000 + wait) % 30 := by rw [← beforeEq]; omega
  have high' : (((first : Int) + s.offsetMs) / 1000 + wait) % 30 < 27 := by rw [← beforeEq]; omega
  have made : ((second : Int) + s'.offsetMs) / 30000 = ((first + s.offsetMs) / 1000 + wait) / 30 :=
    inside_step low' high' (by omega) (by omega)
  have true_ : ((third : Int) + θ) / 30000 = ((first + s.offsetMs) / 1000 + wait) / 30 :=
    inside_step low' high' (by omega) (by omega)
  have seconds : ((now.toNat / 30 : Nat) : Int) = ((second : Int) + s'.offsetMs) / 30000 := by
    rw [Int.natCast_ediv,nowEq]
    omega
  have late : 0 ≤ (third : Int) + θ := by
    unfold maxAcceptedOffsetMs at bounded
    obtain ⟨late,-⟩ := dated
    omega
  have trues : ((trueSecs θ third / 30 : Nat) : Int) = ((third : Int) + θ) / 30000 := by
    unfold trueSecs
    omega
  omega

end Guard

section Typing

variable {schedule : Schedule Answers} {window : WindowInfo} {P : String → Prop}

/-- Whatever is typed into the field that fits best satisfies the condition. -/
def Types (P : String → Prop) (stroke : Stroke) : Prop :=
  ∀ id code, stroke = .typed id none code → P code

theorem clickFirst_ensures (id : WindowId) (labels : List String) :
    (clickFirst id labels).Ensures schedule (Types P) (fun _ => True) := by
  induction labels with
  | nil => exact ensures_pure trivial
  | cons label rest ih =>
    unfold clickFirst clickButton
    refine ensures_bind (R := fun _ => True) ?_ fun clicked _ => ?_
    · refine ensures_bind (ensures_emit ?_) fun _ _ => ensures_await fun _ => trivial
      rintro _ _ ⟨⟩
    · split
      · exact ensures_pure trivial
      · exact ih

/-- A code that is typed was generated. -/
theorem handle_types (self : TotpEntryHandler)
    (generated : (self.generate).Ensures schedule (Types P) P) :
    (self.handle window).Ensures schedule (Types P) (fun _ => True) := by
  unfold TotpEntryHandler.handle
  refine ensures_bind (R := fun _ => True) ?_ fun refused _ => ?_
  · unfold TotpEntryHandler.verify
    split
    · exact ensures_pure trivial
    refine ensures_bind (ensures_await fun _ => trivial) fun verified (_ : True) => ?_
    split
    · split
      · exact ensures_pure trivial
      · exact ensures_pure trivial
    · exact ensures_pure trivial
    · split
      · exact ensures_pure trivial
      · exact ensures_pure trivial
  · cases refused with
    | some result => exact ensures_pure trivial
    | none =>
      refine ensures_bind generated fun code holds => ?_
      refine ensures_bind (ensures_emit ?_) fun _ _ => ?_
      · rintro _ _ ⟨⟩
        exact holds
      refine ensures_bind (ensures_await fun _ => trivial) fun typed (_ : True) => ?_
      refine ensures_bind (ensures_orFail fun _ _ => trivial) fun filled (_ : True) => ?_
      split
      · exact ensures_pure trivial
      · unfold TotpEntryHandler.submit
        refine ensures_bind (clickFirst_ensures _ _) fun clicked _ => ?_
        split
        · refine ensures_bind (ensures_emit ?_) fun _ _ => ?_
          · rintro _ _ ⟨⟩
          refine ensures_bind (ensures_await fun _ => trivial) fun sent (_ : True) => ?_
          exact ensures_bind (ensures_orFail fun _ _ => trivial) fun _ (_ : True) => ensures_pure trivial
        · exact ensures_pure trivial

theorem generate_ensures (self : TotpEntryHandler) {secret : String} {clock : Except String Nat}
    {s : Verified} (answered : Answered schedule secret clock s)
    (holds : ∀ now code, correctedUnixSeconds clock s = .ok now →
      Totp.generateTotpAt secret now 30 6 = .ok code → P code) :
    (self.generate).Ensures schedule (Types P) P := by
  unfold TotpEntryHandler.generate
  refine ensures_bind (R := fun asked => asked = some secret) (ensures_ask answered.secret)
    fun asked same => ?_
  subst same
  dsimp only
  refine ensures_bind ensures_sleep fun _ _ => ?_
  refine ensures_bind (R := fun read => read =
    (correctedUnixSeconds clock s).map fun secs => (secs.toNat : Int)) (ensures_ask answered.clock)
    fun read same => ?_
  subst same
  refine ensures_bind (R := fun timestamp : Int => ∃ now : BitVec 64,
    correctedUnixSeconds clock s = .ok now ∧ timestamp = now.toNat) (ensures_orFail ?_) ?_
  · intro timestamp read
    cases corrected : correctedUnixSeconds clock s with
    | error e =>
      rw [corrected] at read
      cases read
    | ok now =>
      rw [corrected] at read
      cases read
      exact ⟨now,rfl,rfl⟩
  · rintro _ ⟨now,read,rfl⟩
    refine ensures_bind (R := fun generated => generated = generateAt)
      (ensures_await answered.generated) fun generated same => ?_
    subst same
    refine ensures_orFail fun code made => holds now code read ?_
    unfold generateAt at made
    rw [BitVec.ofInt_natCast,BitVec.ofNat_toNat,BitVec.setWidth_eq] at made
    cases result : Totp.generateTotpAt secret now 30 6 with
    | ok text => rw [result] at made; cases made; rfl
    | error e => rw [result] at made; cases e <;> cases made

end Typing

section TrueTime

/-- The second of the three servers is far off. -/
def oneWrong (n : Nat) (_ : String) : Except String Int :=
  .ok (if n = 0 then 1600 else if n = 1 then -90000 else 1500)

def unansweredAgain : List Event := [.noted 148,.answered fun _ _ => .error "timed out"]

def entryAnswers (clock : Except String Nat) (s : Verified) : Answers where
  clickButton _ := .ok true
  dumpComponents _ := .ok .null
  typeText _ := .ok true
  typeTextBest _ := .ok true
  sendKey _ := .ok true
  verifyWindow _ := .ok none
  secret _ := some "GEZDGNBVGY3TQOJQGEZDGNBVGY3TQOJQ"
  correctedUnixSeconds _ := (correctedUnixSeconds clock s).map fun secs => (secs.toNat : Int)
  generateAt _ := generateAt

theorem oneWrong_accepted : acceptedOffsets (servers none) oneWrong = [1600,-90000,1500] := by decide

theorem oneWrong_verified : Runs.run (verifyNow none) {} [.answered oneWrong] = ⟨1500,0⟩ := by
  have middle : Median.upper ([1600,-90000,1500] : List Int) = some 1500 := by
    simp [Median.upper,List.mergeSort]
  rw [Runs.run_cons,Runs.run_nil]
  simp only [verifyNow,verifyServers,oneWrong_accepted,middle,Option.map_some]

theorem oneWrong_prompt {third : Nat} (least : 150500 ≤ third) (most : third ≤ 151000) :
    Prompt 500 146500 (waitForSafeWindow (.ok 146500)
      (Runs.run (verifyNow none) {} [.answered oneWrong])).toNat third := by
  have four : waitForSafeWindow (.ok 146500) ⟨1500,0⟩ = 4 := by decide
  rw [oneWrong_verified,four]
  exact ⟨least,by simpa using most⟩

theorem oneWrong_run :
    Runs.run (verifyNow none) {} ([.answered oneWrong] ++ unansweredAgain) = ⟨1500,148⟩ := by
  have silent : verifyServers (servers none) (fun _ _ => .error "timed out") = none := by
    simp [verifyServers,acceptedOffsets,Median.upper,Except.toOption]
  rw [Runs.run_append,oneWrong_verified]
  simp only [unansweredAgain,Runs.run_cons,Runs.run_nil,verifyNow,silent]

/-- What the handler does with this offset when the code is asked for two seconds before the end of
a step. -/
def lateEffects (s : Verified) : List Stroke :=
  ((TotpEntryHandler.handle ⟨"TWOFACTOR_CODE",false,false⟩
    ⟨⟨7⟩,"Second Factor Authentication","JDialog",none⟩).start
    ⟨entryAnswers (.ok 150600) s,none⟩ false).effects

end TrueTime

end Ibctl.TimeSync
