import Mathlib.Data.List.DropRight
import Mathlib.Data.List.Infix
import Mathlib.Tactic.Common
import Ibctl.Lib.Text

/-! Lines of words: what a reader of a line protocol gets of a text that was written into
one. A line ends at its first newline, its words are split at a separator, and its ends are
trimmed. -/
namespace Text

/-- The general category Cc, which `char::is_control` tests. -/
def isControl (c : Char) : Bool := c.toNat < 0x20 || (0x7F ≤ c.toNat && c.toNat ≤ 0x9F)

/-- The uppercase mapping where it gives nothing but ASCII letters: only then can a word
that is not ASCII become an ASCII keyword. -/
def upperChar (c : Char) : List Char :=
  if 'a' ≤ c ∧ c ≤ 'z' then [Char.ofNat (c.toNat - 32)]
  else
    match c.toNat with
    | 0xDF => ['S','S']
    | 0x131 => ['I']
    | 0x17F => ['S']
    | 0xFB00 => ['F','F']
    | 0xFB01 => ['F','I']
    | 0xFB02 => ['F','L']
    | 0xFB03 => ['F','F','I']
    | 0xFB04 => ['F','F','L']
    | 0xFB05 => ['S','T']
    | 0xFB06 => ['S','T']
    | _ => [c]

def upperChars (cs : List Char) : List Char := cs.flatMap upperChar

/-- `read_line`: up to the first newline, which stays at the end of the line. -/
def readLine (sent : List Char) : List Char :=
  match splitOnce '\n' sent with
  | some (line,_) => line ++ ['\n']
  | none => sent

/-- `splitn`: at most so many pieces, the last of them with the separators it has. -/
def splitN : Nat → Char → List Char → List (List Char)
  | 0,_,_ => []
  | 1,_,cs => [cs]
  | n + 2,separator,cs =>
    match splitOnce separator cs with
    | some (piece,rest) => piece :: splitN (n + 1) separator rest
    | none => [cs]

theorem containsChars_iff {cs part : List Char} : containsChars cs part = true ↔ part <:+: cs := by
  unfold containsChars
  rw [List.any_eq_true]
  constructor
  · rintro ⟨tail,found,starts⟩
    exact (List.isPrefixOf_iff_prefix.mp starts).isInfix.trans ((List.mem_tails _ _).mp found).isInfix
  · rintro ⟨before,after,rfl⟩
    refine ⟨part ++ after,(List.mem_tails _ _).mpr ⟨before,by simp⟩,?_⟩
    exact List.isPrefixOf_iff_prefix.mpr (List.prefix_append part after)

section Splitting

theorem splitOnce_found {separator : Char} {piece : List Char} (free : separator ∉ piece)
    (rest : List Char) : splitOnce separator (piece ++ separator :: rest) = some (piece,rest) := by
  have kept : ∀ c ∈ piece, decide (c ≠ separator) = true := by
    intro c found
    exact decide_eq_true fun same => free (same ▸ found)
  unfold splitOnce
  rw [if_pos (by simp),List.takeWhile_append_of_pos kept,List.dropWhile_append_of_pos kept]
  simp

theorem splitOnce_mem {separator : Char} {cs : List Char} (found : separator ∈ cs) :
    ∃ piece rest, cs = piece ++ separator :: rest ∧ separator ∉ piece := by
  obtain ⟨piece,rest,parts,free⟩ := List.eq_append_cons_of_mem found
  exact ⟨piece,rest,parts,free⟩

theorem splitOnce_some {separator : Char} {cs piece rest : List Char}
    (parts : splitOnce separator cs = some (piece,rest)) : cs = piece ++ separator :: rest ∧ separator ∉ piece := by
  by_cases found : separator ∈ cs
  · obtain ⟨front,back,rfl,free⟩ := splitOnce_mem found
    rw [splitOnce_found free] at parts
    obtain ⟨rfl,rfl⟩ := Prod.mk.inj (Option.some.inj parts)
    exact ⟨rfl,free⟩
  · rw [splitOnce,if_neg found] at parts
    nomatch parts

theorem splitN_found {separator : Char} {piece : List Char} (n : Nat) (free : separator ∉ piece)
    (rest : List Char) :
    splitN (n + 2) separator (piece ++ separator :: rest) =
      piece :: splitN (n + 1) separator rest := by
  rw [splitN,splitOnce_found free]

theorem splitN_single {separator : Char} {piece : List Char} (n : Nat)
    (free : separator ∉ piece) : splitN (n + 1) separator piece = [piece] := by
  cases n with
  | zero => rfl
  | succ n => rw [splitN,splitOnce,if_neg free]

theorem readLine_found {line : List Char} (free : '\n' ∉ line) (rest : List Char) :
    readLine (line ++ '\n' :: rest) = line ++ ['\n'] := by
  rw [readLine,splitOnce_found free]

/-- A text without blanks, for a text that can be looked through. -/
theorem solid_of_all {cs : List Char} (all : cs.all (fun c => !isWhitespace c) = true) :
    ∀ c ∈ cs, isWhitespace c = false := by
  simpa using all

theorem splitWhitespace_head {word : List Char} {blank : Char} (nonempty : word ≠ [])
    (solid : ∀ c ∈ word, isWhitespace c = false) (blanks : isWhitespace blank = true)
    (rest : List Char) :
    (splitWhitespace (word ++ blank :: rest)).head? = some word := by
  unfold splitWhitespace
  rw [List.splitOnP_append_cons_of_forall_mem solid blank blanks,
    List.filter_cons_of_pos (by simpa using nonempty)]
  rfl

/-- A piece of a list is a part of it. -/
theorem infix_of_mem_splitOnP {α : Type*} {stop : α → Bool} {list piece : List α}
    (among : piece ∈ list.splitOnP stop) : piece <:+: list := by
  have pieces : ∃ first rest, list.splitOnP stop = first :: rest ∧ first <+: list ∧ ∀ other ∈ rest, other <:+: list := by
    clear among
    induction list with
    | nil => exact ⟨[],[],rfl,List.prefix_refl [],fun _ none => by cases none⟩
    | cons a list ih =>
      obtain ⟨first,rest,split_,start,within⟩ := ih
      have later : list <:+: a :: list := (List.suffix_cons a list).isInfix
      rw [List.splitOnP_cons_eq_if_modifyHead,split_]
      split
      · refine ⟨[],first :: rest,rfl,List.nil_prefix,fun other member => ?_⟩
        rcases List.mem_cons.mp member with rfl | member
        · exact start.isInfix.trans later
        · exact (within other member).trans later
      · exact ⟨a :: first,rest,rfl,List.cons_prefix_cons.mpr ⟨rfl,start⟩,fun other member =>
          (within other member).trans later⟩
  obtain ⟨first,rest,split_,start,within⟩ := pieces
  rw [split_] at among
  rcases List.mem_cons.mp among with rfl | member
  · exact start.isInfix
  · exact within piece member

theorem splitOnP_head {α : Type*} (stop : α → Bool) (list : List α) :
    ∃ more, list.splitOnP stop = list.takeWhile (fun a => !stop a) :: more := by
  induction list with
  | nil => exact ⟨[],rfl⟩
  | cons a list ih =>
    obtain ⟨more,same⟩ := ih
    rw [List.splitOnP_cons_eq_if_modifyHead,List.takeWhile_cons]
    cases stops : stop a with
    | true => exact ⟨_,rfl⟩
    | false =>
      rw [same]
      exact ⟨more,rfl⟩

section FirstPiece

variable {α : Type*} {stop : α → Bool} {list piece : List α} {a : α}

/-- The piece stands behind separators only, holds none, and ends at one or at the end. -/
def FirstPiece (stop : α → Bool) (list piece : List α) : Prop :=
  ∃ before behind, list = before ++ (piece ++ behind) ∧ piece ≠ [] ∧
    (∀ a ∈ before, stop a = true) ∧ (∀ a ∈ piece, stop a = false) ∧ ∀ a ∈ behind.head?, stop a = true

theorem firstPiece_skip (stops : stop a = true) :
    FirstPiece stop (a :: list) piece ↔ FirstPiece stop list piece := by
  constructor
  · rintro ⟨before,behind,whole,filled,blank,kept,ends⟩
    cases before with
    | nil =>
      obtain ⟨b,piece,rfl⟩ := List.exists_cons_of_ne_nil filled
      obtain ⟨rfl,-⟩ := List.cons.inj whole
      exact absurd (kept a (by simp)) (by rw [stops]; simp)
    | cons b before =>
      obtain ⟨-,rest⟩ := List.cons.inj whole
      exact ⟨before,behind,rest,filled,fun c member => blank c (by simp [member]),kept,ends⟩
  · rintro ⟨before,behind,rfl,filled,blank,kept,ends⟩
    refine ⟨a :: before,behind,rfl,filled,?_,kept,ends⟩
    intro b member
    rcases List.mem_cons.mp member with rfl | member
    · exact stops
    · exact blank b member

theorem firstPiece_start (starts : stop a = false) :
    FirstPiece stop (a :: list) piece ↔ a :: list.takeWhile (fun b => !stop b) = piece := by
  constructor
  · rintro ⟨before,behind,whole,filled,blank,kept,ends⟩
    cases before with
    | cons b before =>
      obtain ⟨rfl,-⟩ := List.cons.inj whole
      exact absurd (blank a (by simp)) (by rw [starts]; simp)
    | nil =>
      obtain ⟨b,piece,rfl⟩ := List.exists_cons_of_ne_nil filled
      obtain ⟨rfl,rfl⟩ := List.cons.inj whole
      have all : ∀ c ∈ piece, (!stop c) = true := fun c member => by
        rw [kept c (by simp [member])]
        rfl
      have none_ : behind.takeWhile (fun c => !stop c) = [] := by
        cases behind with
        | nil => rfl
        | cons c behind =>
          rw [List.takeWhile_cons_of_neg]
          rw [ends c rfl]
          decide
      rw [List.append_eq,List.takeWhile_append_of_pos all,none_,List.append_nil]
  · rintro rfl
    refine ⟨[],list.dropWhile fun b => !stop b,?_,by simp,by simp,?_,?_⟩
    · rw [List.nil_append,List.cons_append,List.takeWhile_append_dropWhile]
    · intro b member
      rcases List.mem_cons.mp member with rfl | member
      · exact starts
      · simpa using List.mem_takeWhile_imp member
    · intro b first
      have refused := List.head?_dropWhile_not (fun b => !stop b) list
      rw [Option.mem_def.mp first] at refused
      simpa using refused

/-- The first piece that is not empty. -/
theorem firstPiece_iff :
    ((list.splitOnP stop).filter fun piece => !piece.isEmpty).head? = some piece ↔
      FirstPiece stop list piece := by
  induction list with
  | nil =>
    constructor
    · intro found
      cases found
    · rintro ⟨before,behind,whole,filled,-⟩
      exact absurd (List.append_eq_nil_iff.mp (List.append_eq_nil_iff.mp whole.symm).2).1 filled
  | cons a list ih =>
    rw [List.splitOnP_cons_eq_if_modifyHead]
    cases stops : stop a with
    | true => rw [if_pos rfl,List.filter_cons_of_neg (by simp),ih,firstPiece_skip stops]
    | false =>
      obtain ⟨more,same⟩ := splitOnP_head stop list
      rw [if_neg (by simp),same,List.modifyHead_cons,List.filter_cons_of_pos (by simp),List.head?_cons,
        Option.some_inj,firstPiece_start stops]

end FirstPiece

end Splitting

section Trimming

variable {α : Type*} {p q : α → Bool}

theorem trimChars_eq (blank : Char → Bool) (cs : List Char) :
    trimChars blank cs = (cs.dropWhile blank).rdropWhile blank := rfl

theorem rdropWhile_cons (c : α) (l : List α) :
    (c :: l).rdropWhile p =
      if l.rdropWhile p = [] then (if p c = true then [] else [c]) else c :: l.rdropWhile p := by
  induction l using List.reverseRecOn with
  | nil => simp [List.rdropWhile_singleton]
  | append_singleton l last ih =>
    rw [← List.cons_append,List.rdropWhile_concat,List.rdropWhile_concat]
    by_cases drops : p last = true
    · rw [if_pos drops,if_pos drops,ih]
    · rw [if_neg drops,if_neg drops,if_neg (by simp)]
      rfl

/-- Trimming one end and then the other gives the same in either order. -/
theorem dropWhile_rdropWhile (l : List α) :
    (l.rdropWhile p).dropWhile q = (l.dropWhile q).rdropWhile p := by
  induction l with
  | nil => rfl
  | cons c l ih =>
    by_cases drops : q c = true
    · rw [List.dropWhile_cons_of_pos drops,← ih,rdropWhile_cons]
      split
      · rename_i nothing
        rw [nothing]
        split <;> simp [drops]
      · rw [List.dropWhile_cons_of_pos drops]
    · rw [List.dropWhile_cons_of_neg drops,rdropWhile_cons]
      split
      · split <;> simp [drops]
      · rw [List.dropWhile_cons_of_neg drops]

theorem rdropWhile_append_of_last {l : List α} {last : α} (stays : p last = false)
    (rest : List α) : (l ++ last :: rest).rdropWhile p = l ++ last :: rest.rdropWhile p := by
  induction rest using List.reverseRecOn with
  | nil => rw [List.rdropWhile_concat_neg _ _ _ (by simp [stays])]; rfl
  | append_singleton rest final ih =>
    rw [← List.cons_append,← List.append_assoc,List.rdropWhile_concat,List.rdropWhile_concat]
    by_cases drops : p final = true
    · rw [if_pos drops,if_pos drops,ih]
    · rw [if_neg drops,if_neg drops,List.append_assoc,List.cons_append]

theorem trimChars_of_ends {blank : Char → Bool} {first last : Char} (starts : blank first = false)
    (stays : blank last = false) (middle rest : List Char) :
    trimChars blank (first :: middle ++ last :: rest) =
      first :: middle ++ last :: rest.rdropWhile blank := by
  rw [trimChars_eq,List.cons_append,List.dropWhile_cons_of_neg (by simp [starts]),
    ← List.cons_append,rdropWhile_append_of_last stays]

theorem trimChars_of_first {blank : Char → Bool} {first : Char} (starts : blank first = false)
    (rest : List Char) : trimChars blank (first :: rest) = first :: rest.rdropWhile blank := by
  rw [trimChars_eq,List.dropWhile_cons_of_neg (by simp [starts])]
  exact @rdropWhile_append_of_last Char blank [] first starts rest

theorem trimChars_of_solid {blank : Char → Bool} {cs : List Char}
    (solid : ∀ c ∈ cs, blank c = false) : trimChars blank cs = cs := by
  have front : cs.dropWhile blank = cs := by
    cases cs with
    | nil => rfl
    | cons c rest => rw [List.dropWhile_cons_of_neg (by simp [solid c])]
  rw [trimChars_eq,front,List.rdropWhile_eq_self_iff]
  intro nonempty
  simp [solid _ (List.getLast_mem nonempty)]

/-- What has no blanks is not trimmed away. -/
theorem infix_trimChars {blank : Char → Bool} {part cs : List Char} (solid : ∀ c ∈ part, blank c = false)
    (within : part <:+: cs) : part <:+: trimChars blank cs := by
  cases part using List.reverseRecOn with
  | nil => exact List.nil_infix
  | append_singleton part last =>
    obtain ⟨before,after,rfl⟩ := within
    have stays : blank last = false := solid last (List.mem_append_right _ List.mem_cons_self)
    obtain ⟨first,middle,shape⟩ : ∃ first middle, part ++ [last] = first :: middle :=
      List.exists_cons_of_ne_nil (by simp)
    have starts : blank first = false := solid first (by rw [shape]; exact List.mem_cons_self)
    have front : (part ++ [last] ++ after).dropWhile blank = part ++ [last] ++ after := by
      rw [shape,List.cons_append,List.dropWhile_cons_of_neg (by simp [starts])]
    obtain ⟨kept,dropped⟩ : ∃ kept, (before ++ (part ++ [last] ++ after)).dropWhile blank =
        kept ++ (part ++ [last] ++ after) := by
      rw [List.dropWhile_append,front]
      split
      · exact ⟨[],rfl⟩
      · exact ⟨_,rfl⟩
    have trimmed : trimChars blank (before ++ (part ++ [last]) ++ after) =
        kept ++ part ++ last :: after.rdropWhile blank := by
      rw [trimChars_eq,List.append_assoc before,dropped]
      have shape_ : kept ++ (part ++ [last] ++ after) = kept ++ part ++ last :: after := by simp
      rw [shape_,rdropWhile_append_of_last stays]
    rw [trimmed]
    exact ⟨kept,after.rdropWhile blank,by simp⟩

theorem trimChars_idem (blank : Char → Bool) (cs : List Char) :
    trimChars blank (trimChars blank cs) = trimChars blank cs := by
  rw [trimChars_eq,trimChars_eq,dropWhile_rdropWhile,List.dropWhile_idempotent,
    List.rdropWhile_idempotent]

theorem trimChars_cons {unwanted : Char → Bool} {c : Char} (drops : unwanted c = true)
    (cs : List Char) : trimChars unwanted (c :: cs) = trimChars unwanted cs := by
  rw [trimChars_eq,trimChars_eq,List.dropWhile_cons_of_pos drops]

theorem trimChars_concat {unwanted : Char → Bool} {c : Char} (drops : unwanted c = true)
    (cs : List Char) : trimChars unwanted (cs ++ [c]) = trimChars unwanted cs := by
  rw [trimChars_eq,trimChars_eq,← dropWhile_rdropWhile,← dropWhile_rdropWhile,
    List.rdropWhile_concat_pos _ _ _ drops]

end Trimming

end Text
