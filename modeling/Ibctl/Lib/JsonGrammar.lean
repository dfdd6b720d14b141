import Ibctl.Lib.Decimal
import Mathlib.Data.List.Nodup

/-! The grammar of JSON over the UTF-16 units of a text, without white space and without fractions
and exponents. A derivation says which value the text stands for. -/
namespace JsonGrammar

/-- A string is its units, which need not be those of whole characters. -/
inductive Value where
  | null
  | bool (b : Bool)
  | int (n : Int)
  | string (us : List Nat)
  | object (members : List (List Nat × Value))

def Value.members : Value → List (List Nat × Value)
  | object members => members
  | _ => []

/-- A text of ASCII. -/
def ascii (s : String) : List Nat := s.toList.map Char.toNat

/-- The letters behind a backslash and the units they stand for. -/
def shortEscapes : List (Nat × Nat) :=
  [('"'.toNat,'"'.toNat),('\\'.toNat,'\\'.toNat),('/'.toNat,'/'.toNat),('b'.toNat,8),('f'.toNat,12),
    ('n'.toNat,10),('r'.toNat,13),('t'.toNat,9)]

/-- A hexadecimal digit, in either case. -/
def HexDigit (unit digit : Nat) : Prop :=
  digit < 10 ∧ unit = '0'.toNat + digit ∨
    10 ≤ digit ∧ digit < 16 ∧ (unit = 'a'.toNat + (digit - 10) ∨ unit = 'A'.toNat + (digit - 10))

/-- The inside of a string and the units that it stands for. -/
inductive Chars : List Nat → List Nat → Prop
  | nil : Chars [] []
  | plain {u : Nat} {text us : List Nat} (printed : 0x20 ≤ u) (quote : u ≠ '"'.toNat)
      (slash : u ≠ '\\'.toNat) (rest : Chars text us) : Chars (u :: text) (u :: us)
  | short {letter u : Nat} {text us : List Nat} (known : (letter,u) ∈ shortEscapes)
      (rest : Chars text us) : Chars ('\\'.toNat :: letter :: text) (u :: us)
  | hex {a b c d p q r s : Nat} {text us : List Nat} (first : HexDigit a p) (second : HexDigit b q)
      (third : HexDigit c r) (fourth : HexDigit d s) (rest : Chars text us) :
      Chars ('\\'.toNat :: 'u'.toNat :: a :: b :: c :: d :: text)
        ((((p * 16 + q) * 16 + r) * 16 + s) :: us)

def quoted (text : List Nat) : List Nat := '"'.toNat :: text ++ ['"'.toNat]

mutual

inductive Denotes : List Nat → Value → Prop
  | null : Denotes (ascii "null") .null
  | bool (b : Bool) : Denotes (ascii (if b then "true" else "false")) (.bool b)
  | int (n : Int) : Denotes ((Decimal.writeInt n).map Char.toNat) (.int n)
  | string {text us : List Nat} (chars : Chars text us) : Denotes (quoted text) (.string us)
  | empty : Denotes (ascii "\x7b\x7d") (.object [])
  | object {text : List Nat} {members : List (List Nat × Value)} (listed : Members text members) :
      Denotes ('{'.toNat :: text ++ ['}'.toNat]) (.object members)

/-- One or more members with commas between them. -/
inductive Members : List Nat → List (List Nat × Value) → Prop
  | last {name us text : List Nat} {value : Value} (chars : Chars name us) (denotes : Denotes text value) :
      Members (quoted name ++ ':'.toNat :: text) [(us,value)]
  | more {name us text rest : List Nat} {value : Value} {members : List (List Nat × Value)}
      (chars : Chars name us) (denotes : Denotes text value) (others : Members rest members) :
      Members (quoted name ++ ':'.toNat :: text ++ ','.toNat :: rest) ((us,value) :: members)

end

/-- A text without quotation marks, backslashes and control characters stands for itself. -/
theorem chars_plain {us : List Nat} (plain : ∀ u ∈ us, 0x20 ≤ u ∧ u ≠ '"'.toNat ∧ u ≠ '\\'.toNat) :
    Chars us us := by
  induction us with
  | nil => exact .nil
  | cons u us ih =>
    obtain ⟨printed,quote,slash⟩ := plain u List.mem_cons_self
    exact .plain printed quote slash (ih fun v among => plain v (List.mem_cons_of_mem _ among))

section Unambiguous

theorem hexDigit_unique {unit p q : Nat} (first : HexDigit unit p) (second : HexDigit unit q) : p = q := by
  have zero : '0'.toNat = 48 := rfl
  have small : 'a'.toNat = 97 := rfl
  have large : 'A'.toNat = 65 := rfl
  unfold HexDigit at first second
  omega

theorem shortEscapes_unique {letter u v : Nat} (first : (letter,u) ∈ shortEscapes)
    (second : (letter,v) ∈ shortEscapes) : u = v := by
  have keys : (shortEscapes.map Prod.fst).Nodup := by decide
  exact (Prod.mk.inj (List.inj_on_of_nodup_map keys first second rfl)).2

theorem shortEscapes_not_hex {u : Nat} : ('u'.toNat,u) ∉ shortEscapes := fun known => by
  have among : 'u'.toNat ∈ shortEscapes.map Prod.fst := List.mem_map_of_mem known
  exact absurd among (by decide)

/-- A string ends at its first quotation mark without a backslash, and has one reading. -/
theorem chars_unique {text text' us us' : List Nat} (chars : Chars text us) (chars' : Chars text' us') {r r' : List Nat}
    (same : text ++ '"'.toNat :: r = text' ++ '"'.toNat :: r') : us = us' ∧ r = r' := by
  induction chars generalizing text' us' with
  | nil =>
    cases chars' with
    | nil => exact ⟨rfl,(List.cons.inj same).2⟩
    | plain printed quote slash rest => exact absurd (List.cons.inj same).1.symm quote
    | short known rest => exact absurd (List.cons.inj same).1 (by decide)
    | hex first second third fourth rest => exact absurd (List.cons.inj same).1 (by decide)
  | plain printed quote slash rest ih =>
    cases chars' with
    | nil => exact absurd (List.cons.inj same).1 quote
    | plain printed' quote' slash' rest' =>
      obtain ⟨rfl,behind⟩ := List.cons.inj same
      obtain ⟨rfl,rfl⟩ := ih rest' behind
      exact ⟨rfl,rfl⟩
    | short known rest' => exact absurd (List.cons.inj same).1 slash
    | hex first second third fourth rest' => exact absurd (List.cons.inj same).1 slash
  | short known rest ih =>
    cases chars' with
    | nil => exact absurd (List.cons.inj same).1 (by decide)
    | plain printed' quote' slash' rest' => exact absurd (List.cons.inj same).1.symm slash'
    | short known' rest' =>
      obtain ⟨rfl,behind⟩ := List.cons.inj (List.cons.inj same).2
      obtain ⟨rfl,rfl⟩ := ih rest' behind
      exact ⟨by rw [shortEscapes_unique known known'],rfl⟩
    | hex first second third fourth rest' =>
      obtain ⟨rfl,-⟩ := List.cons.inj (List.cons.inj same).2
      exact absurd known shortEscapes_not_hex
  | hex first second third fourth rest ih =>
    cases chars' with
    | nil => exact absurd (List.cons.inj same).1 (by decide)
    | plain printed' quote' slash' rest' => exact absurd (List.cons.inj same).1.symm slash'
    | short known' rest' =>
      obtain ⟨rfl,-⟩ := List.cons.inj (List.cons.inj same).2
      exact absurd known' shortEscapes_not_hex
    | hex first' second' third' fourth' rest' =>
      simp only [List.cons_append,List.cons.injEq] at same
      obtain ⟨-,-,rfl,rfl,rfl,rfl,behind⟩ := same
      obtain ⟨rfl,rfl⟩ := ih rest' behind
      rw [hexDigit_unique first first',hexDigit_unique second second',hexDigit_unique third third',
        hexDigit_unique fourth fourth']
      exact ⟨rfl,rfl⟩

/-- Behind a value stands the end of the text, a comma or a brace. -/
def Ends (r : List Nat) : Prop := ∀ u ∈ r.head?, u = ','.toNat ∨ u = '}'.toNat

theorem mem_writeInt {n : Int} {u : Nat} (among : u ∈ (Decimal.writeInt n).map Char.toNat) :
    u = '-'.toNat ∨ '0'.toNat ≤ u ∧ u ≤ '9'.toNat := by
  obtain ⟨c,found,rfl⟩ := List.mem_map.mp among
  have digit {m : Nat} (found : c ∈ Decimal.write m) : '0'.toNat ≤ c.toNat ∧ c.toNat ≤ '9'.toNat :=
    Decimal.isDigit_bounds (Decimal.isDigit_of_mem_write found)
  cases n with
  | ofNat m => exact .inr (digit found)
  | negSucc m =>
    rcases List.mem_cons.mp found with rfl | found
    · exact .inl rfl
    · exact .inr (digit found)

theorem run_unique {p : Nat → Prop} {run run' r r' : List Nat} (all : ∀ u ∈ run, p u) (all' : ∀ u ∈ run', p u)
    (stop : ∀ u ∈ r.head?, ¬ p u) (stop' : ∀ u ∈ r'.head?, ¬ p u) (same : run ++ r = run' ++ r') :
    run = run' ∧ r = r' := by
  induction run generalizing run' with
  | nil =>
    cases run' with
    | nil => exact ⟨rfl,same⟩
    | cons u run' => exact absurd (all' u List.mem_cons_self) (stop u (by rw [List.nil_append] at same; rw [same]; rfl))
  | cons u run ih =>
    cases run' with
    | nil => exact absurd (all u List.mem_cons_self) (stop' u (by rw [List.nil_append] at same; rw [← same]; rfl))
    | cons v run' =>
      obtain ⟨rfl,behind⟩ := List.cons.inj same
      obtain ⟨rfl,rfl⟩ := ih (fun w among => all w (List.mem_cons_of_mem _ among))
        (fun w among => all' w (List.mem_cons_of_mem _ among)) behind
      exact ⟨rfl,rfl⟩

theorem int_unique {n n' : Int} {r r' : List Nat} (ends : Ends r) (ends' : Ends r')
    (same : (Decimal.writeInt n).map Char.toNat ++ r = (Decimal.writeInt n').map Char.toNat ++ r') :
    n = n' ∧ r = r' := by
  have stop {r : List Nat} (ends : Ends r) :
      ∀ u ∈ r.head?, ¬ (u = '-'.toNat ∨ '0'.toNat ≤ u ∧ u ≤ '9'.toNat) := fun u first => by
    rcases ends u first with rfl | rfl <;> decide
  obtain ⟨digits,behind⟩ := run_unique (fun u => mem_writeInt) (fun u => mem_writeInt) (stop ends) (stop ends') same
  exact ⟨Decimal.writeInt_injective (List.map_injective_iff.mpr (fun _ _ => Char.toNat_inj.mp) digits),behind⟩

def Value.kind : Value → Nat
  | null => 0
  | bool true => 1
  | bool false => 2
  | string _ => 3
  | object _ => 4
  | int _ => 5

/-- The kind of a value that starts with the unit. -/
def kindAt (u : Nat) : Nat :=
  if u = 'n'.toNat then 0
  else if u = 't'.toNat then 1
  else if u = 'f'.toNat then 2
  else if u = '"'.toNat then 3
  else if u = '{'.toNat then 4
  else 5

theorem denotes_kind {text : List Nat} {value : Value} (denotes : Denotes text value) :
    ∃ u rest, text = u :: rest ∧ kindAt u = value.kind := by
  cases denotes with
  | null => exact ⟨_,_,rfl,rfl⟩
  | bool b => cases b <;> exact ⟨_,_,rfl,rfl⟩
  | int n =>
    cases digits : (Decimal.writeInt n).map Char.toNat with
    | nil => exact absurd digits (by cases n <;> simp [Decimal.writeInt,Decimal.write_ne_nil])
    | cons u rest =>
      refine ⟨u,rest,rfl,?_⟩
      have unit := mem_writeInt (n := n) (by rw [digits]; exact List.mem_cons_self)
      have apart (c : Nat) (other : ¬ (c = '-'.toNat ∨ '0'.toNat ≤ c ∧ c ≤ '9'.toNat)) : u ≠ c :=
        fun same => other (same ▸ unit)
      unfold kindAt
      rw [if_neg (apart _ (by decide)),if_neg (apart _ (by decide)),if_neg (apart _ (by decide)),
        if_neg (apart _ (by decide)),if_neg (apart _ (by decide))]
      rfl
  | string chars => exact ⟨_,_,rfl,rfl⟩
  | empty => exact ⟨_,_,rfl,rfl⟩
  | object listed => exact ⟨_,_,rfl,rfl⟩

theorem kind_unique {text text' : List Nat} {value value' : Value} (denotes : Denotes text value)
    (denotes' : Denotes text' value') {r r' : List Nat} (same : text ++ r = text' ++ r') :
    value.kind = value'.kind := by
  obtain ⟨u,rest,rfl,kind⟩ := denotes_kind denotes
  obtain ⟨u',rest',rfl,kind'⟩ := denotes_kind denotes'
  rw [← kind,← kind',(List.cons.inj same).1]

theorem members_starts {text : List Nat} {members : List (List Nat × Value)} (listed : Members text members) :
    ∃ rest, text = '"'.toNat :: rest := by
  cases listed <;> exact ⟨_,rfl⟩

theorem ends_comma (r : List Nat) : Ends (','.toNat :: r) := fun _ first => .inl (Option.some.inj first).symm

theorem ends_brace (r : List Nat) : Ends ('}'.toNat :: r) := fun _ first => .inr (Option.some.inj first).symm

mutual

/-- A value in front of an end has one reading, and the end is found in one way. -/
theorem denotes_unique {text text' : List Nat} {value value' : Value} (denotes : Denotes text value)
    (denotes' : Denotes text' value') {r r' : List Nat} (ends : Ends r) (ends' : Ends r')
    (same : text ++ r = text' ++ r') : value = value' ∧ r = r' := by
  have kind := kind_unique denotes denotes' same
  cases denotes with
  | null =>
    cases denotes' with
    | null => exact ⟨rfl,List.append_cancel_left same⟩
    | bool b => cases b <;> nomatch kind
    | _ => nomatch kind
  | bool b =>
    cases denotes' with
    | bool b' =>
      obtain rfl : b = b' := by cases b <;> cases b' <;> first | rfl | nomatch kind
      exact ⟨rfl,List.append_cancel_left same⟩
    | _ => cases b <;> nomatch kind
  | int n =>
    cases denotes' with
    | int n' =>
      obtain ⟨rfl,behind⟩ := int_unique ends ends' same
      exact ⟨rfl,behind⟩
    | bool b => cases b <;> nomatch kind
    | _ => nomatch kind
  | string chars =>
    cases denotes' with
    | string chars' =>
      simp only [quoted,List.cons_append,List.append_assoc,List.cons.injEq,true_and,List.nil_append] at same
      obtain ⟨rfl,behind⟩ := chars_unique chars chars' same
      exact ⟨rfl,behind⟩
    | bool b => cases b <;> nomatch kind
    | _ => nomatch kind
  | empty =>
    cases denotes' with
    | empty => exact ⟨rfl,List.append_cancel_left same⟩
    | object listed' =>
      obtain ⟨rest,rfl⟩ := members_starts listed'
      exact absurd (List.cons.inj (List.cons.inj same).2).1 (by decide)
    | bool b => cases b <;> nomatch kind
    | _ => nomatch kind
  | object listed =>
    cases denotes' with
    | empty =>
      obtain ⟨rest,rfl⟩ := members_starts listed
      exact absurd (List.cons.inj (List.cons.inj same).2).1 (by decide)
    | object listed' =>
      simp only [List.cons_append,List.append_assoc,List.cons.injEq,true_and,List.nil_append] at same
      obtain ⟨rfl,behind⟩ := members_unique listed listed' same
      exact ⟨rfl,behind⟩
    | bool b => cases b <;> nomatch kind
    | _ => nomatch kind

theorem members_unique {text text' : List Nat} {members members' : List (List Nat × Value)}
    (listed : Members text members) (listed' : Members text' members') {r r' : List Nat}
    (same : text ++ '}'.toNat :: r = text' ++ '}'.toNat :: r') : members = members' ∧ r = r' := by
  cases listed with
  | last chars denotes =>
    cases listed' with
    | last chars' denotes' =>
      simp only [quoted,List.cons_append,List.append_assoc,List.cons.injEq,true_and,List.nil_append] at same
      obtain ⟨rfl,value⟩ := chars_unique chars chars' same
      obtain ⟨rfl,behind⟩ := denotes_unique denotes denotes' (ends_brace _) (ends_brace _) (List.cons.inj value).2
      exact ⟨rfl,(List.cons.inj behind).2⟩
    | more chars' denotes' others' =>
      simp only [quoted,List.cons_append,List.append_assoc,List.cons.injEq,true_and,List.nil_append] at same
      obtain ⟨rfl,value⟩ := chars_unique chars chars' same
      obtain ⟨-,behind⟩ := denotes_unique denotes denotes' (ends_brace _) (ends_comma _) (List.cons.inj value).2
      exact absurd (List.cons.inj behind).1 (by decide)
  | more chars denotes others =>
    cases listed' with
    | last chars' denotes' =>
      simp only [quoted,List.cons_append,List.append_assoc,List.cons.injEq,true_and,List.nil_append] at same
      obtain ⟨rfl,value⟩ := chars_unique chars chars' same
      obtain ⟨-,behind⟩ := denotes_unique denotes denotes' (ends_comma _) (ends_brace _) (List.cons.inj value).2
      exact absurd (List.cons.inj behind).1 (by decide)
    | more chars' denotes' others' =>
      simp only [quoted,List.cons_append,List.append_assoc,List.cons.injEq,true_and,List.nil_append] at same
      obtain ⟨rfl,value⟩ := chars_unique chars chars' same
      obtain ⟨rfl,behind⟩ := denotes_unique denotes denotes' (ends_comma _) (ends_comma _) (List.cons.inj value).2
      obtain ⟨rfl,behind⟩ := members_unique others others' (List.cons.inj behind).2
      exact ⟨rfl,behind⟩

end

/-- A text has at most one reading. -/
theorem reading_unique {text : List Nat} {value value' : Value} (denotes : Denotes text value)
    (denotes' : Denotes text value') : value = value' :=
  (@denotes_unique _ _ _ _ denotes denotes' [] [] (fun _ none => nomatch none) (fun _ none => nomatch none) rfl).1

end Unambiguous

end JsonGrammar
