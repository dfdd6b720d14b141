import Ibctl.Agent.ActionResults
import Ibctl.Lib.Occurrence

/-! Every result of an action is an object, and the search in its text finds the members of a
failure and nothing else: a quotation mark of a UI text stands behind a backslash. -/
namespace Ibctl.Agent
open JsonGrammar

section Objects

/-- What the actions write behind a key. -/
inductive Field where
  | bool (b : Bool)
  | int (n : Int)
  | text (value : Option JavaText)

def Field.write : Field → JavaText
  | bool b => ofBool b
  | int n => ofInt n
  | text value => jsonString value

def Field.value : Field → Value
  | bool b => .bool b
  | int n => .int n
  | text none => .null
  | text (some value) => .string value

def writeMembers : List (String × Field) → JavaText
  | [] => []
  | [(key,field)] => quoted (ascii key) ++ ':'.toNat :: field.write
  | (key,field) :: member :: rest =>
    quoted (ascii key) ++ ':'.toNat :: field.write ++ ','.toNat :: writeMembers (member :: rest)

def writeObject (members : List (String × Field)) : JavaText := '{'.toNat :: writeMembers members ++ ['}'.toNat]

def values (members : List (String × Field)) : List (JavaText × Value) :=
  members.map fun member => (ascii member.1,member.2.value)

/-- Neither a quotation mark nor a backslash nor a control character. -/
def Plain (text : JavaText) : Prop := ∀ u ∈ text, 0x20 ≤ u ∧ u ≠ '"'.toNat ∧ u ≠ '\\'.toNat

def isPlain (text : String) : Bool :=
  (ascii text).all fun u => decide (0x20 ≤ u ∧ u ≠ '"'.toNat ∧ u ≠ '\\'.toNat)

theorem plain_of_isPlain {text : String} (plain : isPlain text = true) : Plain (ascii text) :=
  fun _ among => of_decide_eq_true (List.all_eq_true.mp plain _ among)

theorem hexUnit_digit {digit : Nat} (bound : digit < 16) : HexDigit (escapeUnit.hexUnit digit) digit := by
  unfold escapeUnit.hexUnit
  split_ifs with small
  · exact .inl ⟨small,rfl⟩
  · exact .inr ⟨by omega,bound,.inl rfl⟩

theorem hexUnit_ne_quote (digit : Nat) : escapeUnit.hexUnit digit ≠ '"'.toNat := by
  have zero : '0'.toNat = 48 := rfl
  have letter : 'a'.toNat = 97 := rfl
  have quote : '"'.toNat = 34 := rfl
  unfold escapeUnit.hexUnit
  split_ifs <;> omega

/-- The escape of a unit is the unit itself, or a backslash and units with no quotation mark but
one that is the last. -/
theorem escapeUnit_shape (u : Nat) :
    escapeUnit u = [u] ∧ u ≠ '"'.toNat ∧ u ≠ '\\'.toNat ∨
      ∃ v rest, escapeUnit u = '\\'.toNat :: v :: rest ∧ '"'.toNat ∉ rest ∧ (v = '"'.toNat → rest = []) := by
  unfold escapeUnit
  split_ifs with quote slash back feed line carriage tab control
  · exact .inr ⟨_,[],rfl,List.not_mem_nil,fun _ => rfl⟩
  · exact .inr ⟨_,[],rfl,List.not_mem_nil,fun _ => rfl⟩
  · exact .inr ⟨_,[],rfl,List.not_mem_nil,fun _ => rfl⟩
  · exact .inr ⟨_,[],rfl,List.not_mem_nil,fun _ => rfl⟩
  · exact .inr ⟨_,[],rfl,List.not_mem_nil,fun _ => rfl⟩
  · exact .inr ⟨_,[],rfl,List.not_mem_nil,fun _ => rfl⟩
  · exact .inr ⟨_,[],rfl,List.not_mem_nil,fun _ => rfl⟩
  · refine .inr ⟨'u'.toNat,['0'.toNat,'0'.toNat,escapeUnit.hexUnit (u / 16),escapeUnit.hexUnit (u % 16)],rfl,?_,
      fun same => absurd same (by decide)⟩
    intro among
    obtain zero | zero | first | second | none := by simpa only [List.mem_cons] using among
    · exact absurd zero (by decide)
    · exact absurd zero (by decide)
    · exact hexUnit_ne_quote _ first.symm
    · exact hexUnit_ne_quote _ second.symm
    · exact List.not_mem_nil none
  · exact .inl ⟨rfl,quote,slash⟩

/-- An escaped text is the inside of a string that stands for the text. -/
theorem chars_escapeJson (s : JavaText) : Chars (escapeJson s) s := by
  induction s with
  | nil => exact .nil
  | cons u s rest =>
    rw [escapeJson,List.flatMap_cons]
    change Chars (escapeUnit u ++ escapeJson s) (u :: s)
    unfold escapeUnit
    split_ifs with quote slash back feed line carriage tab control
    · exact @Chars.short '"'.toNat _ _ _ (by simp [shortEscapes,quote]) rest
    · exact @Chars.short '\\'.toNat _ _ _ (by simp [shortEscapes,slash]) rest
    · exact @Chars.short 'b'.toNat _ _ _ (by simp [shortEscapes,back]) rest
    · exact @Chars.short 'f'.toNat _ _ _ (by simp [shortEscapes,feed]) rest
    · exact @Chars.short 'n'.toNat _ _ _ (by simp [shortEscapes,line]) rest
    · exact @Chars.short 'r'.toNat _ _ _ (by simp [shortEscapes,carriage]) rest
    · exact @Chars.short 't'.toNat _ _ _ (by simp [shortEscapes,tab]) rest
    · have digits := Chars.hex (.inl ⟨Nat.zero_lt_succ 9,rfl⟩) (.inl ⟨Nat.zero_lt_succ 9,rfl⟩)
        (hexUnit_digit (show u / 16 < 16 by omega)) (hexUnit_digit (show u % 16 < 16 by omega)) rest
      have sum : ((0 * 16 + 0) * 16 + u / 16) * 16 + u % 16 = u := by omega
      rw [sum] at digits
      exact digits
    · exact .plain (by omega) quote slash rest

theorem escapeJson_append (s t : JavaText) : escapeJson (s ++ t) = escapeJson s ++ escapeJson t :=
  List.flatMap_append

theorem escapeJson_plain {text : JavaText} (plain : Plain text) : escapeJson text = text := by
  induction text with
  | nil => rfl
  | cons u text ih =>
    obtain ⟨printed,quote,slash⟩ := plain u List.mem_cons_self
    have itself : escapeUnit u = [u] := by
      unfold escapeUnit
      rw [if_neg quote,if_neg slash,if_neg (by omega),if_neg (by omega),if_neg (by omega),if_neg (by omega),
        if_neg (by omega),if_neg (by omega)]
    have rest : escapeJson text = text := ih fun v among => plain v (List.mem_cons_of_mem _ among)
    rw [escapeJson,List.flatMap_cons,itself]
    exact congrArg (u :: ·) rest

theorem field_denotes (field : Field) : Denotes field.write field.value := by
  cases field with
  | bool b => exact .bool b
  | int n => exact .int n
  | text value =>
    cases value with
    | none => exact .null
    | some value => exact .string (chars_escapeJson value)

theorem members_denotes (members : List (String × Field)) (member : String × Field)
    (plain : ∀ m ∈ member :: members, Plain (ascii m.1)) :
    Members (writeMembers (member :: members)) (values (member :: members)) := by
  induction members generalizing member with
  | nil => exact .last (chars_plain (plain member List.mem_cons_self)) (field_denotes member.2)
  | cons next members ih =>
    exact .more (chars_plain (plain member List.mem_cons_self)) (field_denotes member.2)
      (ih next fun m among => plain m (List.mem_cons_of_mem _ among))

theorem object_denotes (members : List (String × Field)) (plain : ∀ m ∈ members, Plain (ascii m.1)) :
    Denotes (writeObject members) (.object (values members)) := by
  cases members with
  | nil => exact .empty
  | cons member members => exact .object (members_denotes members member plain)

end Objects

section Search

theorem plain_ofInt {n : Int} : Plain (ofInt n) := by
  intro u among
  have dash : '-'.toNat = 45 := rfl
  have zero : '0'.toNat = 48 := rfl
  have nine : '9'.toNat = 57 := rfl
  have quote : '"'.toNat = 34 := rfl
  have slash : '\\'.toNat = 92 := rfl
  have unit := mem_writeInt among
  omega

/-- What stands behind a value in an object. -/
def Closing (c : Nat) : Prop := c = ','.toNat ∨ c = '}'.toNat

/-- The names that the envelope looks for. -/
def Word (name : JavaText) : Prop := name ≠ [] ∧ ∀ u ∈ name, 'a'.toNat ≤ u ∧ u ≤ 'z'.toNat

theorem closing_ne {c u : Nat} (closing : Closing c) (letter : 'a'.toNat ≤ u ∧ u ≤ 'z'.toNat) : u ≠ c := by
  have comma : ','.toNat = 44 := rfl
  have brace : '}'.toNat = 125 := rfl
  have a : 'a'.toNat = 97 := rfl
  have z : 'z'.toNat = 122 := rfl
  unfold Closing at closing
  omega

variable {name tail : JavaText}

/-- Inside a string nothing ends a name and puts a colon behind it. -/
theorem not_prefix_string {c : Nat} (closing : Closing c) (plain : Plain name) (s rest : JavaText) :
    ¬ name ++ '"'.toNat :: ':'.toNat :: tail <+: escapeJson s ++ '"'.toNat :: c :: rest := by
  induction s generalizing name with
  | nil =>
    intro start
    cases name with
    | nil =>
      have colon := (List.cons_prefix_cons.mp (List.cons_prefix_cons.mp start).2).1
      rcases closing with rfl | rfl <;> exact absurd colon (by decide)
    | cons u name => exact (plain u List.mem_cons_self).2.1 (List.cons_prefix_cons.mp start).1
  | cons v s ih =>
    intro start
    change _ <+: (escapeUnit v ++ escapeJson s) ++ _ at start
    obtain ⟨itself,quote,-⟩ | ⟨w,more,escaped,-,-⟩ := escapeUnit_shape v
    · rw [itself] at start
      cases name with
      | nil => exact quote (List.cons_prefix_cons.mp start).1.symm
      | cons u name =>
        exact ih (fun u among => plain u (List.mem_cons_of_mem _ among)) (List.cons_prefix_cons.mp start).2
    · rw [escaped] at start
      cases name with
      | nil => exact absurd (List.cons_prefix_cons.mp start).1 (by decide)
      | cons u name => exact (plain u List.mem_cons_self).2.2 (List.cons_prefix_cons.mp start).1

/-- An escaped text holds no occurrence. -/
theorem infix_escapeJson {c : Nat} (closing : Closing c) (plain : Plain name) (s rest : JavaText) :
    '"'.toNat :: (name ++ '"'.toNat :: ':'.toNat :: tail) <:+: escapeJson s ++ '"'.toNat :: c :: rest ↔
      '"'.toNat :: (name ++ '"'.toNat :: ':'.toNat :: tail) <:+: '"'.toNat :: c :: rest := by
  induction s with
  | nil => rfl
  | cons v s ih =>
    change _ <:+: (escapeUnit v ++ escapeJson s) ++ _ ↔ _
    rw [List.append_assoc]
    obtain ⟨itself,quote,-⟩ | ⟨w,more,escaped,absent,last⟩ := escapeUnit_shape v
    · rw [itself,List.singleton_append,Occurrence.infix_of_ne quote,ih]
    · rw [escaped,List.cons_append,Occurrence.infix_of_ne (by decide),List.cons_append]
      by_cases mark : w = '"'.toNat
      · rw [last mark,List.nil_append,List.infix_cons_iff,← ih]
        refine or_iff_right fun start => ?_
        exact not_prefix_string closing plain s rest (List.cons_prefix_cons.mp start).2
      · rw [Occurrence.infix_of_ne mark,Occurrence.infix_of_absent absent,ih]

theorem plain_of_word (word : Word name) : Plain name := by
  intro u among
  obtain ⟨low,high⟩ := word.2 u among
  have a : 'a'.toNat = 97 := rfl
  have z : 'z'.toNat = 122 := rfl
  have quote : '"'.toNat = 34 := rfl
  have slash : '\\'.toNat = 92 := rfl
  omega

/-- At the end of a string the name does not follow. -/
theorem infix_closing {c : Nat} (word : Word name) (closing : Closing c) (rest : JavaText) :
    '"'.toNat :: (name ++ '"'.toNat :: ':'.toNat :: tail) <:+: '"'.toNat :: c :: rest ↔
      '"'.toNat :: (name ++ '"'.toNat :: ':'.toNat :: tail) <:+: rest := by
  have quote : c ≠ '"'.toNat := by rcases closing with rfl | rfl <;> decide
  rw [List.infix_cons_iff,Occurrence.infix_of_ne quote]
  refine or_iff_right fun start => ?_
  obtain ⟨u,name,rfl⟩ := List.exists_cons_of_ne_nil word.1
  have same : u = c := (List.cons_prefix_cons.mp (List.cons_prefix_cons.mp start).2).1
  exact closing_ne closing (word.2 u List.mem_cons_self) same

/-- A value holds no occurrence, whatever its text. -/
theorem infix_field {c : Nat} (word : Word name) (closing : Closing c) (field : Field) (rest : JavaText) :
    '"'.toNat :: (name ++ '"'.toNat :: ':'.toNat :: tail) <:+: field.write ++ c :: rest ↔
      '"'.toNat :: (name ++ '"'.toNat :: ':'.toNat :: tail) <:+: rest := by
  have quote : c ≠ '"'.toNat := by rcases closing with rfl | rfl <;> decide
  cases field with
  | bool b =>
    have absent : '"'.toNat ∉ ofBool b := by cases b <;> decide
    rw [Field.write,Occurrence.infix_of_absent absent,Occurrence.infix_of_ne quote]
  | int n =>
    have absent : '"'.toNat ∉ ofInt n := fun among => by
      rcases mem_writeInt among with dash | digit
      · exact absurd dash (by decide)
      · exact absurd digit (by decide)
    rw [Field.write,Occurrence.infix_of_absent absent,Occurrence.infix_of_ne quote]
  | text value =>
    cases value with
    | none =>
      have absent : '"'.toNat ∉ ascii "null" := by decide
      rw [Field.write,jsonString,Occurrence.infix_of_absent absent,Occurrence.infix_of_ne quote]
    | some s =>
      have text : Field.write (.text (some s)) ++ c :: rest =
          '"'.toNat :: (escapeJson s ++ '"'.toNat :: c :: rest) := by
        change ('"'.toNat :: escapeJson s ++ ['"'.toNat]) ++ c :: rest = _
        simp only [List.cons_append,List.append_assoc,List.nil_append]
      rw [text,List.infix_cons_iff,infix_escapeJson closing (plain_of_word word),infix_closing word closing]
      refine or_iff_right fun start => ?_
      exact not_prefix_string closing (plain_of_word word) s rest (List.cons_prefix_cons.mp start).2

/-- A name up to its quotation mark is the key. -/
theorem name_prefix_key {key more : JavaText} (plainName : Plain name) (plainKey : Plain key) :
    name ++ '"'.toNat :: ':'.toNat :: tail <+: key ++ '"'.toNat :: ':'.toNat :: more ↔ key = name ∧ tail <+: more := by
  induction key generalizing name with
  | nil =>
    cases name with
    | nil => simp
    | cons u name =>
      refine ⟨fun start => ?_,fun same => nomatch same.1⟩
      exact absurd (List.cons_prefix_cons.mp start).1 (plainName u List.mem_cons_self).2.1
  | cons v key ih =>
    cases name with
    | nil =>
      refine ⟨fun start => ?_,fun same => nomatch same.1⟩
      exact absurd (List.cons_prefix_cons.mp start).1.symm (plainKey v List.mem_cons_self).2.1
    | cons u name =>
      have inner := @ih name (fun w among => plainName w (List.mem_cons_of_mem _ among))
        fun w among => plainKey w (List.mem_cons_of_mem _ among)
      rw [List.cons_append,List.cons_append,List.cons_prefix_cons,inner,List.cons.injEq,and_assoc]
      exact and_congr_left' eq_comm

/-- A key holds the occurrence that starts with it and no other one. -/
theorem infix_key {key more : JavaText} (word : Word name) (plain : Plain key) :
    '"'.toNat :: (name ++ '"'.toNat :: ':'.toNat :: tail) <:+: quoted key ++ ':'.toNat :: more ↔
      key = name ∧ tail <+: more ∨ '"'.toNat :: (name ++ '"'.toNat :: ':'.toNat :: tail) <:+: more := by
  have absent : '"'.toNat ∉ key := fun among => (plain _ among).2.1 rfl
  have colon : ¬ '"'.toNat :: (name ++ '"'.toNat :: ':'.toNat :: tail) <+: '"'.toNat :: ':'.toNat :: more := fun start => by
    obtain ⟨u,name,rfl⟩ := List.exists_cons_of_ne_nil word.1
    have same : u = ':'.toNat := (List.cons_prefix_cons.mp (List.cons_prefix_cons.mp start).2).1
    exact absurd (word.2 u List.mem_cons_self) (by rw [same]; decide)
  have text : quoted key ++ ':'.toNat :: more = '"'.toNat :: (key ++ '"'.toNat :: ':'.toNat :: more) := by
    simp only [quoted,List.cons_append,List.append_assoc,List.nil_append]
  rw [text,List.infix_cons_iff,List.cons_prefix_cons,name_prefix_key (plain_of_word word) plain,
    Occurrence.infix_of_absent absent,List.infix_cons_iff,or_iff_right colon,Occurrence.infix_of_ne (by decide)]
  exact or_congr_left (and_iff_right rfl)

section Members

variable {Wanted : Field → Prop}

/-- The search hits a member of the name whose value is a wanted one. -/
theorem infix_members (word : Word name)
    (decides : ∀ field c rest, Closing c → (tail <+: field.write ++ c :: rest ↔ Wanted field))
    (members : List (String × Field)) (plain : ∀ m ∈ members, Plain (ascii m.1)) :
    '"'.toNat :: (name ++ '"'.toNat :: ':'.toNat :: tail) <:+: writeMembers members ++ ['}'.toNat] ↔
      ∃ m ∈ members, ascii m.1 = name ∧ Wanted m.2 := by
  induction members with
  | nil =>
    refine ⟨fun found => ?_,fun ⟨_,among,_⟩ => absurd among List.not_mem_nil⟩
    have short := found.length_le
    simp [writeMembers] at short
  | cons member members ih =>
    obtain ⟨key,field⟩ := member
    have plainKey : Plain (ascii key) := plain _ List.mem_cons_self
    have rest := ih fun m among => plain m (List.mem_cons_of_mem _ among)
    rw [List.exists_mem_cons_iff,← rest]
    cases members with
    | nil =>
      have text : writeMembers [(key,field)] ++ ['}'.toNat] =
          quoted (ascii key) ++ ':'.toNat :: (field.write ++ '}'.toNat :: []) := by
        simp only [writeMembers,List.append_assoc,List.cons_append]
      rw [text,infix_key word plainKey,decides field _ _ (.inr rfl),infix_field word (.inr rfl)]
      refine or_congr_right ?_
      refine ⟨fun found => ?_,fun found => ?_⟩
      all_goals
        have short := found.length_le
        simp [writeMembers] at short
    | cons next members =>
      have text : writeMembers ((key,field) :: next :: members) ++ ['}'.toNat] =
          quoted (ascii key) ++ ':'.toNat ::
            (field.write ++ ','.toNat :: (writeMembers (next :: members) ++ ['}'.toNat])) := by
        simp only [writeMembers,List.append_assoc,List.cons_append]
      rw [text,infix_key word plainKey,decides field _ _ (.inl rfl),infix_field word (.inl rfl)]

theorem false_prefix_field (field : Field) (c : Nat) (rest : JavaText) (closing : Closing c) :
    ascii "false" <+: field.write ++ c :: rest ↔ field = .bool false := by
  cases field with
  | bool b =>
    cases b with
    | false => exact ⟨fun _ => rfl,fun _ => List.prefix_append _ _⟩
    | true =>
      refine ⟨fun start => ?_,fun same => nomatch same⟩
      exact absurd (List.cons_prefix_cons.mp start).1 (by decide)
  | int n =>
    refine ⟨fun start => ?_,fun same => nomatch same⟩
    change _ <+: ofInt n ++ c :: rest at start
    cases digits : ofInt n with
    | nil =>
      rw [digits] at start
      have same : 'f'.toNat = c := (List.cons_prefix_cons.mp start).1
      rcases closing with rfl | rfl <;> exact absurd same (by decide)
    | cons u more =>
      rw [digits] at start
      have same : 'f'.toNat = u := (List.cons_prefix_cons.mp start).1
      have among : u ∈ ofInt n := by rw [digits]; exact List.mem_cons_self
      rw [← same] at among
      rcases mem_writeInt among with dash | digit
      · exact absurd dash (by decide)
      · exact absurd digit (by decide)
  | text value =>
    refine ⟨fun start => ?_,fun same => nomatch same⟩
    cases value <;> exact absurd (List.cons_prefix_cons.mp start).1 (by decide)

end Members

theorem contains_iff (text : JavaText) (part : String) : contains text part = true ↔ ascii part <:+: text := by
  unfold contains
  rw [List.any_eq_true,List.infix_iff_prefix_suffix]
  refine exists_congr fun rest => ?_
  rw [List.mem_tails,List.isPrefixOf_iff_prefix,and_comm]

theorem contains_object {part : String} {Wanted : Field → Prop}
    (spelled : ascii part = '"'.toNat :: (name ++ '"'.toNat :: ':'.toNat :: tail)) (word : Word name)
    (decides : ∀ field c rest, Closing c → (tail <+: field.write ++ c :: rest ↔ Wanted field))
    {members : List (String × Field)} (plain : ∀ m ∈ members, Plain (ascii m.1)) :
    contains (writeObject members) part = true ↔ ∃ m ∈ members, ascii m.1 = name ∧ Wanted m.2 := by
  rw [contains_iff,spelled,← infix_members word decides members plain]
  exact Occurrence.infix_of_ne (by decide)

theorem word_of_all {text : JavaText}
    (letters : (text ≠ [] ∧ text.all (fun u => decide ('a'.toNat ≤ u ∧ u ≤ 'z'.toNat)) = true)) : Word text :=
  ⟨letters.1,fun _ among => of_decide_eq_true (List.all_eq_true.mp letters.2 _ among)⟩

/-- What the members of a result say about the action. -/
def Succeeded (members : List (JavaText × Value)) : Prop :=
  (∀ member ∈ members, member.1 ≠ ascii "error") ∧
    ∀ name ∈ ["found","typed","sent","clicked"], (ascii name,Value.bool false) ∉ members

theorem mem_values_false {members : List (String × Field)} {name : JavaText} :
    (name,Value.bool false) ∈ values members ↔ ∃ m ∈ members, ascii m.1 = name ∧ m.2 = .bool false := by
  unfold values
  rw [List.mem_map]
  refine exists_congr fun m => and_congr_right fun _ => ?_
  obtain ⟨key,field⟩ := m
  rw [Prod.mk.injEq]
  refine and_congr_right fun _ => ?_
  rcases field with (_ | _) | _ | (_ | _) <;> simp [Field.value]

theorem actionSucceeded_object {members : List (String × Field)} (plain : ∀ m ∈ members, Plain (ascii m.1)) :
    actionSucceeded (writeObject members) = true ↔ Succeeded (values members) := by
  have found := @contains_object (ascii "found") (ascii "false") "\"found\":false" _ rfl
    (word_of_all ⟨by decide,rfl⟩) false_prefix_field _ plain
  have typed := @contains_object (ascii "typed") (ascii "false") "\"typed\":false" _ rfl
    (word_of_all ⟨by decide,rfl⟩) false_prefix_field _ plain
  have sent := @contains_object (ascii "sent") (ascii "false") "\"sent\":false" _ rfl
    (word_of_all ⟨by decide,rfl⟩) false_prefix_field _ plain
  have clicked := @contains_object (ascii "clicked") (ascii "false") "\"clicked\":false" _ rfl
    (word_of_all ⟨by decide,rfl⟩) false_prefix_field _ plain
  have error := @contains_object (ascii "error") [] "\"error\":" (fun _ => True) rfl
    (word_of_all ⟨by decide,rfl⟩) (fun _ _ _ _ => iff_of_true List.nil_prefix trivial) _ plain
  rw [← mem_values_false] at found typed sent clicked
  have errors : (∃ m ∈ members, ascii m.1 = ascii "error" ∧ True) ↔ ∃ m ∈ values members, m.1 = ascii "error" := by
    simp [values]
  rw [errors] at error
  unfold actionSucceeded Succeeded
  simp only [Bool.and_eq_true,Bool.not_eq_true',← Bool.not_eq_true,found,typed,sent,clicked,error,
    List.forall_mem_cons,List.not_mem_nil,false_implies,implies_true,not_exists,not_and,and_true,and_assoc]
  refine ⟨fun passed => ?_,fun truth => ?_⟩
  · obtain ⟨found,typed,sent,clicked,errors⟩ := passed
    exact ⟨errors,found,typed,sent,clicked⟩
  · obtain ⟨errors,found,typed,sent,clicked⟩ := truth
    exact ⟨found,typed,sent,clicked,errors⟩

end Search

section Results

/-- The text of an object whose keys need no escape. -/
def Written (result : JavaText) : Prop :=
  ∃ members, result = writeObject members ∧ ∀ m ∈ members, Plain (ascii m.1)

theorem written_of_keys {result : JavaText} {members : List (String × Field)} {keys : List String}
    (same : result = writeObject members) (listed : members.map Prod.fst = keys)
    (plain : keys.all isPlain = true) : Written result := by
  refine ⟨members,same,fun m among => plain_of_isPlain (List.all_eq_true.mp plain _ ?_)⟩
  rw [← listed]
  exact List.mem_map_of_mem among

theorem written_notFound {message : String} (plain : isPlain message = true) (text : JavaText) :
    Written (notFound message text) := by
  refine @written_of_keys _ [("found",.bool false),("error",.text (some (ascii message ++ text)))]
    ["found","error"] ?_ rfl rfl
  have escaped : escapeJson (ascii message ++ text) = ascii message ++ escapeJson text := by
    rw [escapeJson_append,escapeJson_plain (plain_of_isPlain plain)]
  simp only [writeObject,writeMembers,Field.write,jsonString,escaped,notFound,List.append_assoc,List.cons_append]
  rfl

theorem written_interrupted {step : String} {message : Option JavaText}
    (plain : ["found",step,"error"].all isPlain = true) : Written (interrupted step message) := by
  refine @written_of_keys _ [("found",.bool true),(step,.bool false),("error",.text message)] _ ?_ rfl plain
  simp only [writeObject,writeMembers,Field.write,interrupted,quoted,List.append_assoc,List.cons_append]
  rfl

theorem written_failed (message : Option JavaText) : Written (failed message) := by
  refine @written_of_keys _ [("found",.bool true),("error",.text message)] ["found","error"] ?_ rfl rfl
  simp only [writeObject,writeMembers,Field.write,failed,quoted,List.append_assoc,List.cons_append]
  rfl

/-- Every action returns the text of an object. -/
theorem written_returns {action : Action} {result : JavaText} (returned : Returns action result) :
    Written result := by
  cases returned with
  | screenshotWindow =>
    exact @written_of_keys _ [("error",.text (some (ascii "Window not found")))] ["error"] rfl rfl rfl
  | screenshotBounds =>
    exact @written_of_keys _ [("error",.text (some (ascii "Window has empty bounds")))] ["error"] rfl rfl rfl
  | screenshot width height pngBase64 =>
    refine @written_of_keys _ [("format",.text (some (ascii "png"))),("width",.int width),("height",.int height),
      ("png_base64",.text (some pngBase64))] ["format","width","height","png_base64"] ?_ rfl rfl
    simp only [writeObject,writeMembers,Field.write,quoted,List.append_assoc,List.cons_append]
    rfl
  | screenshotFailed message =>
    refine @written_of_keys _ [("error",.text message)] ["error"] ?_ rfl rfl
    simp only [writeObject,writeMembers,Field.write,quoted,List.append_assoc,List.cons_append]
    rfl
  | buttonClicked | menuClicked =>
    exact @written_of_keys _ [("found",.bool true),("clicked",.bool true)] ["found","clicked"] rfl rfl rfl
  | fieldTyped =>
    exact @written_of_keys _ [("found",.bool true),("typed",.bool true)] ["found","typed"] rfl rfl rfl
  | keySent =>
    exact @written_of_keys _ [("found",.bool true),("sent",.bool true)] ["found","sent"] rfl rfl rfl
  | fieldInterrupted | labelledInterrupted | bestInterrupted => exact @written_interrupted "typed" _ rfl
  | keyInterrupted => exact @written_interrupted "sent" _ rfl
  | menuInterrupted => exact @written_interrupted "clicked" _ rfl
  | boxFailed | comboFailed | treeInterrupted => exact written_failed _
  | fieldMissing fieldIndex =>
    have digits : escapeJson (ofInt fieldIndex) = ofInt fieldIndex := escapeJson_plain plain_ofInt
    have missing := @written_notFound "TextField not found at index: " rfl (ofInt fieldIndex)
    rw [notFound,digits] at missing
    exact missing
  | keyInvalid keyStroke =>
    refine @written_of_keys _ [("found",.bool true),("sent",.bool false),
      ("error",.text (some (ascii "Invalid keystroke: " ++ keyStroke)))] ["found","sent","error"] ?_ rfl rfl
    have escaped : escapeJson (ascii "Invalid keystroke: " ++ keyStroke) =
        ascii "Invalid keystroke: " ++ escapeJson keyStroke := by
      rw [escapeJson_append,escapeJson_plain (plain_of_isPlain rfl)]
    simp only [writeObject,writeMembers,Field.write,jsonString,escaped,quoted,List.append_assoc,List.cons_append]
    rfl
  | labelledTyped label matchedLabel =>
    refine @written_of_keys _ [("found",.bool true),("typed",.bool true),("label",.text matchedLabel)]
      ["found","typed","label"] ?_ rfl rfl
    simp only [writeObject,writeMembers,Field.write,quoted,List.append_assoc,List.cons_append]
    rfl
  | bestTyped verified selectedIndex bestScore bestMetadata =>
    refine @written_of_keys _ [("found",.bool true),("typed",.bool verified),("fieldIndex",.int selectedIndex),
      ("score",.int bestScore),("selector",.text (some (ascii (if bestMetadata = [] then "single-editable-field"
        else "semantic-metadata"))))] ["found","typed","fieldIndex","score","selector"] ?_ rfl rfl
    simp only [writeObject,writeMembers,Field.write,quoted,List.append_assoc,List.cons_append]
    rfl
  | atClicked x y =>
    refine @written_of_keys _ [("found",.bool true),("clicked",.bool true),("x",.int x),("y",.int y)]
      ["found","clicked","x","y"] ?_ rfl rfl
    simp only [writeObject,writeMembers,Field.write,quoted,List.append_assoc,List.cons_append]
    rfl
  | listSelected itemText index text =>
    refine @written_of_keys _ [("found",.bool true),("index",.int index),("text",.text (some text))]
      ["found","index","text"] ?_ rfl rfl
    simp only [writeObject,writeMembers,Field.write,quoted,List.append_assoc,List.cons_append]
    rfl
  | menuItemClicked menuPath item =>
    refine @written_of_keys _ [("found",.bool true),("clicked",.bool true),("item",.text item)]
      ["found","clicked","item"] ?_ rfl rfl
    simp only [writeObject,writeMembers,Field.write,quoted,List.append_assoc,List.cons_append]
    rfl
  | boxRead label text currentState simpleName =>
    refine @written_of_keys _ [("found",.bool true),("label",.text (some text)),("selected",.bool currentState),
      ("class",.text (some simpleName))] ["found","label","selected","class"] ?_ rfl rfl
    simp only [writeObject,writeMembers,Field.write,quoted,List.append_assoc,List.cons_append]
    rfl
  | boxSet label text desiredState currentState simpleName =>
    refine @written_of_keys _ [("found",.bool true),("label",.text (some text)),("selected",.bool desiredState),
      ("changed",.bool (currentState ≠ desiredState)),("class",.text (some simpleName))]
      ["found","label","selected","changed","class"] ?_ rfl rfl
    simp only [writeObject,writeMembers,Field.write,quoted,List.append_assoc,List.cons_append]
    rfl
  | comboSet label itemText matchedLabel item changed simpleName =>
    refine @written_of_keys _ [("found",.bool true),("label",.text matchedLabel),("item",.text (some item)),
      ("changed",.bool changed),("class",.text (some simpleName))] ["found","label","item","changed","class"] ?_ rfl rfl
    simp only [writeObject,writeMembers,Field.write,quoted,List.append_assoc,List.cons_append]
    rfl
  | treeSelected nodePath row nodeText =>
    refine @written_of_keys _ [("found",.bool true),("row",.int row),("node",.text (some nodeText))]
      ["found","row","node"] ?_ rfl rfl
    simp only [writeObject,writeMembers,Field.write,quoted,List.append_assoc,List.cons_append]
    rfl
  | _ => exact written_notFound rfl _

theorem denotes_envelope (ok : Bool) {result : JavaText} {data : Value} (denotes : Denotes result data) :
    Denotes (ascii "\x7b\"ok\":" ++ ofBool ok ++ ascii ",\"data\":" ++ result ++ ascii ",\"error\":" ++
        (if ok then ascii "null" else jsonString (some (ascii "Agent action failed"))) ++ ascii "\x7d")
      (.object [(ascii "ok",.bool ok),(ascii "data",data),
        (ascii "error",if ok then .null else .string (ascii "Agent action failed"))]) := by
  have key {key : String} (plain : isPlain key = true) : Chars (ascii key) (ascii key) :=
    chars_plain (plain_of_isPlain plain)
  have error : Denotes (if ok then ascii "null" else jsonString (some (ascii "Agent action failed")))
      (if ok then .null else .string (ascii "Agent action failed")) := by
    cases ok with
    | false => exact field_denotes (.text (some (ascii "Agent action failed")))
    | true => exact .null
  have listed := Members.more (@key "ok" rfl) (.bool ok)
    (.more (@key "data" rfl) denotes (.last (@key "error" rfl) error))
  have object := Denotes.object listed
  simp only [quoted,List.append_assoc,List.cons_append] at object ⊢
  exact object

/-- The envelope is JSON around the object of the action, and tells whether it reports a failure. -/
theorem envelope_truth {action : Action} {result : JavaText} (returned : Returns action result) :
    (∃ members, Denotes result (.object members)) ∧
      ∀ members, Denotes result (.object members) → ∃ ok : Bool,
        Denotes (wrapActionResult result) (.object [(ascii "ok",.bool ok),(ascii "data",.object members),
          (ascii "error",if ok then .null else .string (ascii "Agent action failed"))]) ∧
        (ok = true ↔ Succeeded members) := by
  obtain ⟨fields,rfl,plain⟩ := written_returns returned
  have object := object_denotes fields plain
  refine ⟨⟨_,object⟩,fun members denotes => ⟨actionSucceeded (writeObject fields),denotes_envelope _ denotes,?_⟩⟩
  obtain rfl : members = values fields := Value.object.inj (reading_unique denotes object)
  exact actionSucceeded_object plain

/-- A list item with the text of a failure is selected like any other one. -/
theorem quoted_failure_selected :
    Denotes (wrapActionResult (ascii "\x7b\"found\":true,\"index\":" ++ ofInt 2 ++ ascii ",\"text\":" ++
        jsonString (some (ascii "\"found\":false,\"error\":")) ++ ascii "\x7d"))
      (.object [(ascii "ok",.bool true),
        (ascii "data",.object [(ascii "found",.bool true),(ascii "index",.int 2),
          (ascii "text",.string (ascii "\"found\":false,\"error\":"))]),(ascii "error",.null)]) := by
  have denotes := object_denotes [("found",.bool true),("index",.int 2),
    ("text",.text (some (ascii "\"found\":false,\"error\":")))]
    (List.forall_mem_cons.mpr ⟨plain_of_isPlain rfl,List.forall_mem_cons.mpr ⟨plain_of_isPlain rfl,
      List.forall_mem_singleton.mpr (plain_of_isPlain rfl)⟩⟩)
  obtain ⟨-,told⟩ := envelope_truth (.listSelected (ascii "phone") 2 (ascii "\"found\":false,\"error\":"))
  obtain ⟨ok,envelope,decided⟩ := told _ denotes
  have succeeded : Succeeded (values [("found",.bool true),("index",.int 2),
      ("text",.text (some (ascii "\"found\":false,\"error\":")))]) := by
    have keys : ∀ key ∈ [ascii "found",ascii "index",ascii "text"], key ≠ ascii "error" := by decide
    refine ⟨fun member among => keys _ (List.mem_map_of_mem among),?_⟩
    simp [values,Field.value]
  obtain rfl : ok = true := decided.mpr succeeded
  exact envelope

end Results

end Ibctl.Agent
