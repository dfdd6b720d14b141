import Ibctl.CommandServer
import Ibctl.Lib.IpAddr

/-! Who may send what to the command port: the list of the configuration against the address of the
peer. The list is compared by text and by block, and an address has more than one text. -/
namespace Ibctl.CommandServer

section Model

/-- `checked_shl`, with nothing when no bit would stay. -/
def checkedShl (bits value shift : Nat) : Option Nat :=
  if shift < bits then some (value <<< shift % 2 ^ bits) else none

/-- The branch of `cidr_contains` for one family, at its width. -/
def maskedEqual (bits prefixLen net ip : Nat) : Bool :=
  if bits < prefixLen then false
  else if prefixLen = 0 then true
  else
    let mask := (checkedShl bits (2 ^ bits - 1) (bits - prefixLen)).getD 0
    net &&& mask = ip &&& mask

def cidrContains (network : Ip.Addr) (prefixLen : Nat) (addr : Ip.Addr) : Bool :=
  match network,addr with
  | .v4 net,.v4 ip => maskedEqual 32 prefixLen net.toNat ip.toNat
  | .v6 net,.v6 ip => maskedEqual 128 prefixLen net.toNat ip.toNat
  | _,_ => false

/-- The entry is a block that holds the address. -/
def inCidr (addr : Ip.Addr) (allowed : List Char) : Bool :=
  match Text.splitOnce '/' allowed with
  | some (networkStr,prefixStr) =>
    match Ip.parse networkStr,Text.parseUnsigned 32 prefixStr with
    | some network,some prefixLen => cidrContains network prefixLen addr
    | _,_ => false
  | none => false

/-- One round of the loop over the list. -/
def entryAllows (addr : Ip.Addr) (allowed : List Char) : Bool :=
  let addrStr := addr.write
  let allowed := Text.trimChars Text.isWhitespace allowed
  if allowed = "*".toList then true
  else if allowed = addrStr then true
  else if inCidr addr allowed then true
  else if allowed = "127.0.0.1".toList ∧ addrStr = "::1".toList then true
  else allowed = "::1".toList ∧ addrStr = "127.0.0.1".toList

def isAllowed (addr : Ip.Addr) (controlFrom : List (List Char)) : Bool :=
  if controlFrom = [] then false else controlFrom.any (entryAllows addr)

/-- `is_loopback` of the standard library. -/
def isLocalhost : Ip.Addr → Bool
  | .v4 addr => addr.a = 127
  | .v6 addr => addr.groups = [0,0,0,0,0,0,0,1]

/-- The peer as `handle_connection` sees it. -/
def peerAt (addr : Ip.Addr) (controlFrom : List (List Char)) : Peer where
  allowed := isAllowed addr controlFrom
  localhost := isLocalhost addr

end Model

section Purpose

def loopback4 : Ip.Addr := .v4 ⟨127,0,0,1⟩

def loopback6 : Ip.Addr := .v6 ⟨[0,0,0,0,0,0,0,1],rfl⟩

/-- The same address, or the loopback of the other family. -/
def Same (other addr : Ip.Addr) : Prop :=
  other = addr ∨ other = loopback4 ∧ addr = loopback6 ∨ other = loopback6 ∧ addr = loopback4

/-- What an entry of the list is for. -/
inductive Admits (addr : Ip.Addr) : List Char → Prop
  | anyone : Admits addr "*".toList
  | literal {entry : List Char} {other : Ip.Addr} (denotes : Ip.parse entry = some other) (same : Same other addr) :
      Admits addr entry
  | block {network count : List Char} {net : Ip.Addr} {n : Nat} (first : '/' ∉ network)
      (denotes : Ip.parse network = some net) (number : Text.parseUnsigned 32 count = some n)
      (within : Ip.InBlock net n addr) : Admits addr (network ++ '/' :: count)

/-- A literal of the address that is not spelt as the address is printed. -/
def Respelled (addr : Ip.Addr) (entry : List Char) : Prop :=
  ∃ other, Ip.parse entry = some other ∧ Same other addr ∧ entry ≠ other.write

/-- The entry is a star, a block around the address, or the address as it is printed. -/
def Printed (addr : Ip.Addr) (entry : List Char) : Prop :=
  entry = "*".toList ∨ (∃ other, Same other addr ∧ entry = other.write) ∨
    ∃ network count net n, entry = network ++ '/' :: count ∧ '/' ∉ network ∧ Ip.parse network = some net ∧
      Text.parseUnsigned 32 count = some n ∧ Ip.InBlock net n addr

/-- The first word of the line is one of the five, in any case. -/
def Guarded (sent : List Char) : Prop :=
  (Text.splitWhitespace (Text.upperChars (Text.trimChars Text.isWhitespace (Text.readLine sent)))).head? ∈
    [some "SETSTATE".toList,some "PAUSE".toList,some "EXIT".toList,some "HITL_RESUME".toList,
      some "RESUME_RECONNECT".toList]

end Purpose

section Entries

theorem maskedEqual_iff (bits prefixLen net ip : Nat) :
    maskedEqual bits prefixLen net ip = true ↔ prefixLen ≤ bits ∧ Ip.FirstBitsAgree bits prefixLen net ip := by
  unfold maskedEqual
  by_cases long : bits < prefixLen
  · rw [if_pos long]
    exact iff_of_false Bool.false_ne_true fun fits => Nat.not_lt_of_le fits.1 long
  · rw [if_neg long]
    by_cases none : prefixLen = 0
    · rw [if_pos none]
      subst none
      exact iff_of_true rfl ⟨Nat.zero_le bits,fun i inside => absurd inside (Nat.not_lt_zero i)⟩
    · have shift : bits - prefixLen < bits := by omega
      rw [if_neg none,checkedShl,if_pos shift,Option.getD_some]
      dsimp only
      rw [decide_eq_true_iff,Ip.masked_iff (Nat.le_of_not_lt long)]
      exact (and_iff_right (Nat.le_of_not_lt long)).symm

theorem cidrContains_iff (network : Ip.Addr) (prefixLen : Nat) (addr : Ip.Addr) :
    cidrContains network prefixLen addr = true ↔ Ip.InBlock network prefixLen addr := by
  cases network <;> cases addr
  · exact maskedEqual_iff _ _ _ _
  · exact iff_of_false Bool.false_ne_true id
  · exact iff_of_false Bool.false_ne_true id
  · exact maskedEqual_iff _ _ _ _

theorem inCidr_iff (addr : Ip.Addr) (entry : List Char) :
    inCidr addr entry = true ↔ ∃ network count net n, entry = network ++ '/' :: count ∧ '/' ∉ network ∧
      Ip.parse network = some net ∧ Text.parseUnsigned 32 count = some n ∧ Ip.InBlock net n addr := by
  constructor
  · intro within
    unfold inCidr at within
    split at within
    · rename_i network count parts
      split at within
      · rename_i net n denotes number
        obtain ⟨text,free⟩ := Text.splitOnce_some parts
        exact ⟨network,count,net,n,text,free,denotes,number,(cidrContains_iff _ _ _).mp within⟩
      · exact absurd within Bool.false_ne_true
    · exact absurd within Bool.false_ne_true
  · rintro ⟨network,count,net,n,rfl,free,denotes,number,within⟩
    unfold inCidr
    rw [Text.splitOnce_found free]
    simp only [denotes,number]
    exact (cidrContains_iff _ _ _).mpr within

theorem write_loopback4 : loopback4.write = "127.0.0.1".toList := rfl

theorem write_loopback6 : loopback6.write = "::1".toList := by decide

/-- The printed texts of an address: its own, and that of the other loopback. -/
theorem same_write_iff (addr : Ip.Addr) (entry : List Char) :
    (∃ other, Same other addr ∧ entry = other.write) ↔
      entry = addr.write ∨ entry = "127.0.0.1".toList ∧ addr.write = "::1".toList ∨
        entry = "::1".toList ∧ addr.write = "127.0.0.1".toList := by
  constructor
  · rintro ⟨other,rfl | ⟨rfl,rfl⟩ | ⟨rfl,rfl⟩,rfl⟩
    · exact .inl rfl
    · exact .inr (.inl ⟨write_loopback4,write_loopback6⟩)
    · exact .inr (.inr ⟨write_loopback6,write_loopback4⟩)
  · rintro (rfl | ⟨rfl,other⟩ | ⟨rfl,other⟩)
    · exact ⟨addr,.inl rfl,rfl⟩
    · exact ⟨loopback4,.inr (.inl ⟨rfl,Ip.write_injective (other.trans write_loopback6.symm)⟩),write_loopback4.symm⟩
    · exact ⟨loopback6,.inr (.inr ⟨rfl,Ip.write_injective (other.trans write_loopback4.symm)⟩),write_loopback6.symm⟩

/-- One round accepts the star, a block around the address, and the printed text. -/
theorem entryAllows_iff (addr : Ip.Addr) (entry : List Char) :
    entryAllows addr entry = true ↔ Printed addr (Text.trimChars Text.isWhitespace entry) := by
  unfold entryAllows Printed
  rw [same_write_iff,← inCidr_iff]
  dsimp only
  split_ifs with star own block other
  · exact iff_of_true rfl (.inl star)
  · exact iff_of_true rfl (.inr (.inl (.inl own)))
  · exact iff_of_true rfl (.inr (.inr block))
  · exact iff_of_true rfl (.inr (.inl (.inr (.inl other))))
  · rw [decide_eq_true_iff]
    tauto

theorem isAllowed_iff (addr : Ip.Addr) (controlFrom : List (List Char)) :
    isAllowed addr controlFrom = true ↔ ∃ entry ∈ controlFrom, Printed addr (Text.trimChars Text.isWhitespace entry) := by
  unfold isAllowed
  by_cases empty : controlFrom = []
  · rw [if_pos empty,empty]
    simp
  · rw [if_neg empty,List.any_eq_true]
    simp only [entryAllows_iff]

theorem admits_iff (addr : Ip.Addr) (entry : List Char) :
    Admits addr entry ↔ Printed addr entry ∨ Respelled addr entry := by
  constructor
  · rintro (_ | ⟨denotes,same⟩ | ⟨first,denotes,number,within⟩)
    · exact .inl (.inl rfl)
    · rename_i other
      by_cases printed : entry = other.write
      · exact .inl (.inr (.inl ⟨other,same,printed⟩))
      · exact .inr ⟨other,denotes,same,printed⟩
    · exact .inl (.inr (.inr ⟨_,_,_,_,rfl,first,denotes,number,within⟩))
  · rintro ((rfl | ⟨other,same,rfl⟩ | ⟨network,count,net,n,rfl,first,denotes,number,within⟩) | ⟨other,denotes,same,-⟩)
    · exact .anyone
    · exact .literal (Ip.parse_write other) same
    · exact .block first denotes number within
    · exact .literal denotes same

end Entries

section Connections

/-- The five words make privileged commands. -/
theorem privileged_of_guarded {sent : List Char} (guarded : Guarded sent) {command : Machine.Command}
    (parsed : parseCommand (Text.trimChars Text.isWhitespace (Text.readLine sent)) = some (.action command)) :
    isPrivilegedCommand command = true := by
  unfold Guarded at guarded
  dsimp only [parseCommand] at parsed
  rw [Text.trimChars_idem] at parsed
  generalize (Text.splitWhitespace (Text.upperChars (Text.trimChars Text.isWhitespace (Text.readLine sent)))).head? =
    first at guarded parsed
  simp only [List.mem_cons,List.not_mem_nil,or_false] at guarded
  obtain rfl | rfl | rfl | rfl | rfl := guarded
  · change Option.map _ _ = _ at parsed
    obtain ⟨stateName,-,same⟩ := Option.map_eq_some_iff.mp parsed
    cases same
    rfl
  · cases second : (Text.splitWhitespace (Text.trimChars Text.isWhitespace (Text.readLine sent)))[1]? with
    | none =>
      rw [second] at parsed
      change some (ParsedCommand.action .pause) = _ at parsed
      cases parsed
      rfl
    | some stateName =>
      rw [second] at parsed
      change some (ParsedCommand.action (.pauseAt (String.ofList stateName))) = _ at parsed
      cases parsed
      rfl
  · change some (ParsedCommand.action .exit) = _ at parsed
    cases parsed
    rfl
  · change some (ParsedCommand.action .hitlResume) = _ at parsed
    cases parsed
    rfl
  · change parseArgument .resumeReconnect _ = _ at parsed
    unfold parseArgument at parsed
    dsimp only at parsed
    split_ifs at parsed
    cases parsed
    rfl

/-- A command is queued for an allowed peer, and a guarded one for the loopback. -/
theorem queued_only {peer : Peer} {channelOpen : Bool} {sent reply : List Char} {command : Machine.Command}
    (handled : handleConnection peer channelOpen sent = .replied reply (some command)) :
    peer.allowed = true ∧ (Guarded sent → peer.localhost = true) := by
  unfold handleConnection at handled
  by_cases rejected : peer.allowed = false
  · rw [if_pos rejected] at handled
    cases handled
  · refine ⟨Bool.not_eq_false _ ▸ rejected,fun guarded => ?_⟩
    have spoken : sent ≠ [] := fun silent => by
      rw [if_neg rejected,if_pos silent] at handled
      cases handled
    rw [if_neg rejected,if_neg spoken] at handled
    dsimp only at handled
    split at handled
    · rename_i _ parsed
      by_contra remote
      rw [if_pos ⟨privileged_of_guarded guarded parsed,Bool.not_eq_true _ ▸ remote⟩] at handled
      cases handled
    · cases handled
    · cases handled

/-- The port keeps to its list and its five words; the list keeps to the addresses exactly when no
entry spells the peer in its own way, or another one lets the peer in. -/
theorem access_iff (addr : Ip.Addr) (controlFrom : List (List Char)) :
    ((∀ channelOpen sent reply command,
        handleConnection (peerAt addr controlFrom) channelOpen sent = .replied reply (some command) →
          isAllowed addr controlFrom = true ∧ (Guarded sent → isLocalhost addr = true)) ∧
      (isAllowed addr controlFrom = true ↔
        ∃ entry ∈ controlFrom, Admits addr (Text.trimChars Text.isWhitespace entry))) ↔
      ((∃ entry ∈ controlFrom, Respelled addr (Text.trimChars Text.isWhitespace entry)) →
        ∃ entry ∈ controlFrom, Printed addr (Text.trimChars Text.isWhitespace entry)) := by
  have queued : ∀ channelOpen sent reply command,
      handleConnection (peerAt addr controlFrom) channelOpen sent = .replied reply (some command) →
        isAllowed addr controlFrom = true ∧ (Guarded sent → isLocalhost addr = true) :=
    fun _ _ _ _ handled => queued_only handled
  have purpose : (∃ entry ∈ controlFrom, Admits addr (Text.trimChars Text.isWhitespace entry)) ↔
      (∃ entry ∈ controlFrom, Printed addr (Text.trimChars Text.isWhitespace entry)) ∨
        ∃ entry ∈ controlFrom, Respelled addr (Text.trimChars Text.isWhitespace entry) := by
    simp only [admits_iff,and_or_left,exists_or]
  rw [and_iff_right queued,isAllowed_iff,purpose]
  exact ⟨fun same respelled => same.mpr (.inr respelled),fun kept => ⟨.inl,fun either => either.elim id kept⟩⟩

/-- Upper case in the list keeps out the very address. -/
theorem upper_case_kept_out :
    let addr : Ip.Addr := .v6 ⟨[0x2001,0xdb8,0,0,0,0,0,1],rfl⟩
    isAllowed addr ["2001:DB8::1".toList] = false ∧
      ∃ entry ∈ ["2001:DB8::1".toList], Admits addr (Text.trimChars Text.isWhitespace entry) := by
  have denotes : Ip.parse "2001:DB8::1".toList = some (.v6 ⟨[0x2001,0xdb8,0,0,0,0,0,1],rfl⟩) := by decide +kernel
  have trimmed : Text.trimChars Text.isWhitespace "2001:DB8::1".toList = "2001:DB8::1".toList := by decide +kernel
  refine ⟨by decide +kernel,_,List.mem_singleton_self _,?_⟩
  rw [trimmed]
  exact .literal denotes (.inl rfl)

end Connections

end Ibctl.CommandServer
