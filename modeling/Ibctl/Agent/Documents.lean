import Ibctl.Agent.JsonField
import Mathlib.Algebra.Group.Int.Defs

/-! The documents that the agent and the client exchange: the text `serde_json` writes for them, and
that it reads what it writes. -/
namespace Ibctl.Agent
open Json

section Writing

mutual

/-- The compact text of a document. -/
def document : Json → List Char
  | .null => "null".toList
  | .bool b => (if b then "true" else "false").toList
  | .number text => text.toList
  | .string s => quote s
  | .array [] => "[]".toList
  | .array (element :: rest) => '[' :: document element ++ documentElements rest
  | .object [] => "\x7b\x7d".toList
  | .object ((key,value) :: rest) => '{' :: quote key ++ ':' :: document value ++ documentMembers rest

/-- The elements behind the first one, up to the bracket. -/
def documentElements : List Json → List Char
  | [] => [']']
  | element :: rest => ',' :: document element ++ documentElements rest

def documentMembers : List (String × Json) → List Char
  | [] => ['}']
  | (key,value) :: rest => ',' :: quote key ++ ':' :: document value ++ documentMembers rest

end

/-- A document that `serde_json` reads as it is: its numbers are integers of 64 bits, no object has a
key twice, and the nesting has a limit. -/
def Readable : Nat → Json → Prop
  | _,.null | _,.bool _ | _,.string _ => True
  | _,.number text => ∃ n : Int, text = String.ofList (Decimal.writeInt n) ∧ -2 ^ 63 ≤ n ∧ n < 2 ^ 64
  | depth + 1,.array elements => ∀ element ∈ elements, Readable depth element
  | depth + 1,.object members => (members.map Prod.fst).Nodup ∧ ∀ member ∈ members, Readable depth member.2
  | 0,.array _ | 0,.object _ => False

/-- The objects that are written are read. -/
def ReadsDocuments (fromStr : List Char → Option Json) : Prop :=
  ∀ members, Readable 127 (.object members) → fromStr (document (.object members)) = some (.object members)

end Writing

section Reading

/-- Behind a value stands the end of the text, a comma or a bracket. -/
def Follows (rest : List Char) : Prop := ∀ c ∈ rest.head?, c = ',' ∨ c = ']' ∨ c = '}'

theorem follows_elements (elements : List Json) (rest : List Char) : Follows (documentElements elements ++ rest) := by
  cases elements with
  | nil =>
    rintro c ⟨⟩
    exact .inr (.inl rfl)
  | cons element elements =>
    rintro c ⟨⟩
    exact .inl rfl

theorem follows_members (members : List (String × Json)) (rest : List Char) :
    Follows (documentMembers members ++ rest) := by
  cases members with
  | nil =>
    rintro c ⟨⟩
    exact .inr (.inr rfl)
  | cons member members =>
    rintro c ⟨⟩
    exact .inl rfl

theorem readUnits_escapeChar (c : Char) (rest : List Char) :
    readUnits (escapeChar c ++ rest) = (readUnits rest).map (fun read => (units c ++ read.1,read.2)) := by
  unfold escapeChar
  cases short : shortEscapes.find? (fun pair => pair.2 = c) with
  | some pair =>
    obtain rfl : pair.2 = c := by simpa using List.find?_some short
    exact readUnits_short pair (List.mem_of_find?_eq_some short) rest
  | none =>
    have others := List.find?_eq_none.mp short
    have quote : c ≠ '"' := fun same => others ('"','"') (by decide) (by simp [same])
    have slash : c ≠ '\\' := fun same => others ('\\','\\') (by decide) (by simp [same])
    dsimp only
    split
    · next control =>
      rw [readUnits_escape (by omega),units_ascii (by omega)]
      rfl
    · next printed => exact readUnits_plain quote slash (by omega) rest

theorem readString_quote (s : String) (rest : List Char) :
    readString (s.toList.flatMap escapeChar ++ '"' :: rest) = some (s,rest) := by
  have read (cs : List Char) : readUnits (cs.flatMap escapeChar ++ '"' :: rest) = some (cs.flatMap units,rest) := by
    induction cs with
    | nil =>
      rw [List.flatMap_nil,List.nil_append,readUnits.eq_def]
      rfl
    | cons c cs ih =>
      rw [List.flatMap_cons,List.append_assoc,readUnits_escapeChar,ih]
      rfl
  rw [readString,read]
  simp only [joinUnits_units,Option.map_some,String.ofList_toList]

theorem digits_follow (n : Nat) {rest : List Char} (follows : Follows rest) :
    intPart (Decimal.write n ++ rest) = some (Decimal.write n,rest) := by
  cases rest with
  | cons c rest =>
    refine intPart_write n ?_ rest
    rcases follows c rfl with rfl | rfl | rfl <;> rfl
  | nil =>
    have digits : ∀ c ∈ Decimal.write n, c.isDigit = true := fun _ found => Decimal.isDigit_of_mem_write found
    rw [List.append_nil]
    unfold intPart
    rcases Nat.eq_zero_or_pos n with rfl | pos
    · rfl
    · rw [if_neg (write_head pos),List.takeWhile_eq_self_iff.mpr digits,if_neg (Decimal.write_ne_nil n),
        List.dropWhile_eq_nil_iff.mpr digits]

theorem fraction_follows {rest : List Char} (follows : Follows rest) : fracPart rest = ([],rest) ∧ expPart rest = ([],rest) := by
  cases rest with
  | nil => exact ⟨rfl,rfl⟩
  | cons c rest => rcases follows c rfl with rfl | rfl | rfl <;> exact ⟨rfl,rfl⟩

theorem readNumber_document (n : Int) {rest : List Char} (follows : Follows rest) :
    readNumber (Decimal.writeInt n ++ rest) = some (String.ofList (Decimal.writeInt n),rest) := by
  obtain ⟨frac,exp⟩ := fraction_follows follows
  cases n with
  | ofNat n =>
    have sign : (Decimal.write n ++ rest).head? ≠ some '-' := by
      rw [List.head?_append_of_ne_nil _ (Decimal.write_ne_nil n)]
      intro minus
      cases Decimal.isDigit_of_mem_write (List.mem_of_mem_head? minus)
    unfold readNumber Decimal.writeInt
    dsimp only
    rw [if_neg sign,List.length_nil,List.drop_zero,digits_follow n follows]
    simp [frac,exp]
  | negSucc n =>
    have sign : ('-' :: Decimal.write (n + 1) ++ rest).head? = some '-' := rfl
    unfold readNumber Decimal.writeInt
    dsimp only
    rw [if_pos sign,List.length_singleton,List.cons_append,List.drop_one,List.tail_cons,digits_follow (n + 1) follows]
    simp [frac,exp]

/-- A number starts with a dash and a digit, or with a digit. -/
theorem writeInt_head (n : Int) : ∃ c more, Decimal.writeInt n = c :: more ∧
    (∀ e : Char, e.isDigit = false → e ≠ '-' → e ≠ c) ∧
      (c = '-' → ∃ d later, more = d :: later ∧ d.isDigit = true) := by
  have digit {m : Nat} : ∃ c more, Decimal.write m = c :: more ∧ c.isDigit = true := by
    obtain ⟨c,more,written⟩ := List.exists_cons_of_ne_nil (Decimal.write_ne_nil m)
    exact ⟨c,more,written,Decimal.isDigit_of_mem_write (by rw [written]; exact List.mem_cons_self)⟩
  cases n with
  | ofNat m =>
    obtain ⟨c,more,written,isDigit⟩ := @digit m
    refine ⟨c,more,written,?_,?_⟩
    · rintro e other - rfl
      rw [isDigit] at other
      cases other
    · rintro rfl
      cases isDigit
  | negSucc m => exact ⟨'-',_,rfl,fun e _ dash => dash,fun _ => @digit (m + 1)⟩

/-- A number is none of the words. -/
theorem no_constant (n : Int) (rest : List Char) :
    constants.find? (fun constant => constant.1.toList.isPrefixOf (Decimal.writeInt n ++ rest)) = none := by
  obtain ⟨c,more,written,apart,dashed⟩ := writeInt_head n
  rw [written,List.find?_eq_none]
  have letters : ∀ constant ∈ constants, ∃ e tail, constant.1.toList = e :: tail ∧
      (e.isDigit = false ∧ e ≠ '-' ∨ e = '-' ∧ ∃ f later, tail = f :: later ∧ f.isDigit = false) := by
    intro constant known
    simp only [constants,List.mem_cons,List.not_mem_nil,or_false] at known
    rcases known with rfl | rfl | rfl | rfl | rfl | rfl
    iterate 5 exact ⟨_,_,rfl,.inl ⟨rfl,by decide⟩⟩
    exact ⟨_,_,rfl,.inr ⟨rfl,_,_,rfl,rfl⟩⟩
  intro constant known
  obtain ⟨e,tail,spelled,⟨other,dash⟩ | ⟨rfl,f,later,rfl,other⟩⟩ := letters constant known
  · simp [spelled,List.isPrefixOf,apart e other dash]
  · rw [spelled]
    by_cases dash : '-' = c
    · obtain ⟨d,digits,rfl,isDigit⟩ := dashed dash.symm
      have ne : f ≠ d := by
        rintro rfl
        rw [isDigit] at other
        cases other
      simp [List.isPrefixOf,ne]
    · simp [List.isPrefixOf,dash]

theorem readValue_document_number (fuel : Nat) (n : Int) {rest : List Char} (follows : Follows rest) :
    readValue (fuel + 1) (Decimal.writeInt n ++ rest) = some (.number (String.ofList (Decimal.writeInt n)),rest) := by
  have number := readNumber_document n follows
  have word := no_constant n rest
  obtain ⟨c,more,written,apart,-⟩ := writeInt_head n
  rw [written,List.cons_append] at number word ⊢
  rw [readValue,if_neg (apart '"' rfl (by decide)).symm,if_neg (apart '{' rfl (by decide)).symm,
    if_neg (apart '[' rfl (by decide)).symm,word]
  dsimp only
  rw [number]
  rfl

/-- A document starts with neither a blank nor the end of a list. -/
theorem document_head {depth : Nat} {doc : Json} (readable : Readable depth doc) (rest : List Char) :
    skipBlanks (document doc ++ rest) = document doc ++ rest ∧ (document doc ++ rest).head? ≠ some ']' := by
  have head {c : Char} {more : List Char} (solid : ¬ (c = ' ' ∨ c = '\t' ∨ c = '\n' ∨ c = '\r')) (other : c ≠ ']') :
      skipBlanks (c :: more ++ rest) = c :: more ++ rest ∧ (c :: more ++ rest).head? ≠ some ']' :=
    ⟨skipBlanks_cons solid _,fun same => other (Option.some.inj same)⟩
  cases doc with
  | null => exact head (by decide) (by decide)
  | bool b => cases b <;> exact head (by decide) (by decide)
  | string s => exact head (by decide) (by decide)
  | number text =>
    cases depth <;>
    · obtain ⟨n,rfl,-⟩ := readable
      obtain ⟨c,more,written,apart,-⟩ := writeInt_head n
      rw [document,String.toList_ofList,written]
      refine head ?_ (apart ']' rfl (by decide)).symm
      rintro (same | same | same | same) <;> exact apart _ rfl (by decide) same.symm
  | array elements => cases elements <;> exact head (by decide) (by decide)
  | object members => cases members <;> exact head (by decide) (by decide)

variable {depth : Nat}

/-- The elements of an array, of which each is read. -/
theorem readElements_document
    (value : ∀ {doc : Json}, Readable depth doc → ∀ {fuel : Nat} {rest : List Char},
      (document doc).length < fuel → Follows rest → readValue fuel (document doc ++ rest) = some (doc,rest))
    {elements : List Json} {element : Json} {fuel : Nat} {rest : List Char}
    (readable : ∀ e ∈ element :: elements, Readable depth e)
    (long : (document element ++ documentElements elements).length < fuel) :
    readElements fuel (document element ++ documentElements elements ++ rest) = some (element :: elements,rest) := by
  induction elements generalizing element fuel with
  | nil =>
    obtain ⟨fuel,rfl⟩ := Nat.exists_eq_add_of_lt (Nat.zero_lt_of_lt long)
    rw [Nat.zero_add] at long ⊢
    rw [documentElements,List.length_append,List.length_singleton] at long
    have first := @value _ (readable element List.mem_cons_self) fuel _ (by omega) (follows_elements [] rest)
    rw [List.append_assoc,readElements,first]
    rfl
  | cons next elements ih =>
    obtain ⟨fuel,rfl⟩ := Nat.exists_eq_add_of_lt (Nat.zero_lt_of_lt long)
    rw [Nat.zero_add] at long ⊢
    simp only [documentElements,List.length_append,List.length_cons] at long
    have further : ∀ e ∈ next :: elements, Readable depth e := fun e among => readable e (List.mem_cons_of_mem _ among)
    have others := @ih next fuel further (by rw [List.length_append]; omega)
    have head := (document_head (further next List.mem_cons_self) (documentElements elements ++ rest)).1
    have comma := @skipBlanks_cons ',' (by decide)
    have first := @value _ (readable element List.mem_cons_self) fuel _ (by omega) (follows_elements (next :: elements) rest)
    rw [List.append_assoc] at others
    rw [List.append_assoc,readElements,first,documentElements]
    simp only [List.cons_append,List.append_assoc,comma,head,others,Option.map_some]

theorem readMembers_document
    (value : ∀ {doc : Json}, Readable depth doc → ∀ {fuel : Nat} {rest : List Char},
      (document doc).length < fuel → Follows rest → readValue fuel (document doc ++ rest) = some (doc,rest))
    {members : List (String × Json)} {member : String × Json} {fuel : Nat} {rest : List Char}
    (readable : ∀ m ∈ member :: members, Readable depth m.2)
    (long : (quote member.1 ++ ':' :: document member.2 ++ documentMembers members).length < fuel) :
    readMembers fuel (quote member.1 ++ ':' :: document member.2 ++ documentMembers members ++ rest) =
      some (member :: members,rest) := by
  have colon := @skipBlanks_cons ':' (by decide)
  induction members generalizing member fuel with
  | nil =>
    obtain ⟨fuel,rfl⟩ := Nat.exists_eq_add_of_lt (Nat.zero_lt_of_lt long)
    rw [Nat.zero_add] at long ⊢
    simp only [documentMembers,List.length_append,List.length_cons,List.length_nil] at long
    have head := (document_head (readable member List.mem_cons_self) (documentMembers [] ++ rest)).1
    have first := @value _ (readable member List.mem_cons_self) fuel _ (by omega) (follows_members [] rest)
    have closing := @skipBlanks_cons '}' (by decide)
    simp only [quote,List.cons_append,List.append_assoc,List.nil_append]
    rw [readMembers,readString_quote]
    simp only [colon,head,first]
    simp only [documentMembers,List.cons_append,closing,List.nil_append]
  | cons next members ih =>
    obtain ⟨fuel,rfl⟩ := Nat.exists_eq_add_of_lt (Nat.zero_lt_of_lt long)
    rw [Nat.zero_add] at long ⊢
    simp only [documentMembers,List.length_append,List.length_cons] at long
    have further : ∀ m ∈ next :: members, Readable depth m.2 := fun m among => readable m (List.mem_cons_of_mem _ among)
    have others := @ih next fuel further (by simp only [List.length_append,List.length_cons]; omega)
    have head := (document_head (readable member List.mem_cons_self) (documentMembers (next :: members) ++ rest)).1
    have first := @value _ (readable member List.mem_cons_self) fuel _ (by omega) (follows_members (next :: members) rest)
    have comma := @skipBlanks_cons ',' (by decide)
    have mark := @skipBlanks_cons '"' (by decide)
    simp only [quote,List.cons_append,List.append_assoc,List.nil_append] at others ⊢
    rw [readMembers,readString_quote]
    simp only [colon,head,first]
    simp only [documentMembers,quote,List.cons_append,List.append_assoc,List.nil_append,comma,mark,others,
      Option.map_some]

theorem lastWins_nodup {members : List (String × Json)} (distinct : (members.map Prod.fst).Nodup) :
    lastWins members = members := by
  induction members with
  | nil => rfl
  | cons member members ih =>
    obtain ⟨once,rest⟩ := List.nodup_cons.mp distinct
    have absent : members.any (fun other => other.1 = member.1) = false := by
      rw [List.any_eq_false]
      intro other among same
      exact once (of_decide_eq_true same ▸ List.mem_map_of_mem among)
    rw [lastWins,absent,ih rest]
    rfl

theorem readValue_scalar {doc : Json} (readable : Readable 0 doc) {fuel : Nat} {rest : List Char}
    (follows : Follows rest) : readValue (fuel + 1) (document doc ++ rest) = some (doc,rest) := by
  cases doc with
  | null => rfl
  | bool b => cases b <;> rfl
  | number text =>
    obtain ⟨n,rfl,-⟩ := readable
    rw [document,String.toList_ofList]
    exact readValue_document_number fuel n follows
  | string s =>
    simp only [document,quote,List.cons_append,List.append_assoc,List.nil_append]
    rw [readValue,if_pos rfl,readString_quote]
    rfl
  | array elements => cases readable
  | object members => cases readable

/-- An object is read whatever stands behind it. -/
theorem readValue_object
    (value : ∀ {doc : Json}, Readable depth doc → ∀ {fuel : Nat} {rest : List Char},
      (document doc).length < fuel → Follows rest → readValue fuel (document doc ++ rest) = some (doc,rest))
    {members : List (String × Json)} (readable : Readable (depth + 1) (.object members)) {fuel : Nat} (rest : List Char)
    (long : (document (.object members)).length < fuel + 1) :
    readValue (fuel + 1) (document (.object members) ++ rest) = some (.object members,rest) := by
  cases members with
  | nil => rfl
  | cons member members =>
    obtain ⟨distinct,values⟩ := readable
    rw [document,List.cons_append,List.cons_append,List.length_cons] at long
    have listed := @readMembers_document depth value members member fuel rest values (by simpa using long)
    have mark := @skipBlanks_cons '"' (by decide)
    simp only [quote,List.cons_append,List.append_assoc,List.nil_append] at listed
    simp only [document,quote,List.cons_append,List.append_assoc,List.nil_append]
    rw [readValue,if_neg (by decide),if_pos rfl,mark,if_neg (by simp),listed]
    simp only [Option.map_some,lastWins_nodup distinct]

/-- By induction on the nesting. -/
theorem readValue_document {doc : Json} (readable : Readable depth doc) {fuel : Nat} {rest : List Char}
    (long : (document doc).length < fuel) (follows : Follows rest) :
    readValue fuel (document doc ++ rest) = some (doc,rest) := by
  obtain ⟨fuel,rfl⟩ := Nat.exists_eq_add_of_lt (Nat.zero_lt_of_lt long)
  rw [Nat.zero_add] at long ⊢
  induction depth generalizing doc fuel rest with
  | zero => exact readValue_scalar readable follows
  | succ depth ih =>
    have value {doc : Json} (readable : Readable depth doc) {fuel : Nat} {rest : List Char}
        (long : (document doc).length < fuel) (follows : Follows rest) :
        readValue fuel (document doc ++ rest) = some (doc,rest) := by
      obtain ⟨fuel,rfl⟩ := Nat.exists_eq_add_of_lt (Nat.zero_lt_of_lt long)
      rw [Nat.zero_add] at long ⊢
      exact ih readable follows fuel long
    cases doc with
    | null => exact @readValue_scalar .null trivial _ _ follows
    | bool b => exact @readValue_scalar (.bool b) trivial _ _ follows
    | string s => exact @readValue_scalar (.string s) trivial _ _ follows
    | number text => exact @readValue_scalar (.number text) readable _ _ follows
    | array elements =>
      cases elements with
      | nil => rfl
      | cons element elements =>
        obtain ⟨head,open_⟩ := document_head (readable element List.mem_cons_self) (documentElements elements ++ rest)
        rw [document,List.cons_append,List.length_cons] at long
        have listed := @readElements_document depth value elements element fuel rest readable (by omega)
        rw [List.append_assoc] at listed
        rw [document,List.cons_append,List.cons_append,List.append_assoc,readValue,if_neg (by decide),
          if_neg (by decide),if_pos rfl,head,if_neg open_,listed]
        rfl
    | object members => exact readValue_object value readable rest long

/-- No object is the beginning of another one. -/
theorem document_whole {members others : List (String × Json)} (readable : Readable 127 (.object members))
    (readable' : Readable 127 (.object others)) (front : document (.object others) <+: document (.object members)) :
    others = members := by
  have value {doc : Json} (readable : Readable 126 doc) {fuel : Nat} {rest : List Char}
      (long : (document doc).length < fuel) (follows : Follows rest) :
      readValue fuel (document doc ++ rest) = some (doc,rest) := readValue_document readable long follows
  obtain ⟨rest,same⟩ := front
  have short := congrArg List.length same
  rw [List.length_append] at short
  have whole := @readValue_object 126 value members readable (document (.object members)).length [] (Nat.lt_succ_self _)
  have part := @readValue_object 126 value others readable' (document (.object members)).length rest (by omega)
  rw [same] at part
  rw [List.append_nil,part] at whole
  exact Json.object.inj (Prod.mk.inj (Option.some.inj whole)).1

/-- Python's reader reads them too. -/
theorem loads_reads : ReadsDocuments loads := by
  intro members readable
  have read := @readValue_document 127 _ readable ((document (.object members)).length + 1) []
    (Nat.lt_succ_self _) (fun _ none => by cases none)
  have head := (document_head readable []).1
  rw [List.append_nil] at read head
  rw [loads,head,read]
  rfl

end Reading

end Ibctl.Agent
