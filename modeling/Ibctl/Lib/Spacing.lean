import Ibctl.Lib.Words

/-! Words and the white space between them. However much of it stands there, splitting at white
space finds the words; and letter case does not move it. -/
namespace Text

def Blank (cs : List Char) : Prop := ∀ c ∈ cs, isWhitespace c = true

/-- A word: something, and no white space in it. -/
def Solid (cs : List Char) : Prop := cs ≠ [] ∧ ∀ c ∈ cs, isWhitespace c = false

/-- A phrase may have white space, but neither at its start nor at its end. -/
def Phrase (cs : List Char) : Prop :=
  ∃ first last, cs.head? = some first ∧ cs.getLast? = some last ∧
    isWhitespace first = false ∧ isWhitespace last = false

/-- Words, each behind the white space that goes before it. -/
def spaced (words : List (List Char × List Char)) : List Char := words.flatMap (fun w => w.1 ++ w.2)

def Gap (cs : List Char) : Prop := cs ≠ [] ∧ Blank cs

section Splitting

variable {blank word rest : List Char}

theorem splitWhitespace_cons {c : Char} (blanks : isWhitespace c = true) (cs : List Char) :
    splitWhitespace (c :: cs) = splitWhitespace cs := by
  unfold splitWhitespace
  rw [List.splitOnP_cons_eq_if_modifyHead,if_pos blanks]
  rfl

theorem splitWhitespace_blank (all : Blank blank) (rest : List Char) :
    splitWhitespace (blank ++ rest) = splitWhitespace rest := by
  induction blank with
  | nil => rfl
  | cons c blank ih =>
    rw [List.cons_append,splitWhitespace_cons (all c List.mem_cons_self)]
    exact ih fun d among => all d (List.mem_cons_of_mem _ among)

theorem splitWhitespace_word (solid : Solid word) : splitWhitespace word = [word] := by
  unfold splitWhitespace
  rw [List.splitOnP_eq_singleton solid.2,List.filter_cons_of_pos (by simpa using solid.1)]
  rfl

theorem splitWhitespace_gap (solid : Solid word) (gap : Gap blank) (rest : List Char) :
    splitWhitespace (word ++ (blank ++ rest)) = word :: splitWhitespace rest := by
  obtain ⟨nonempty,all⟩ := gap
  cases blank with
  | nil => exact absurd rfl nonempty
  | cons c blank =>
    have blanks := all c List.mem_cons_self
    have after := splitWhitespace_blank (fun d among => all d (List.mem_cons_of_mem _ among)) rest
    rw [← after]
    unfold splitWhitespace
    rw [List.cons_append,List.splitOnP_append_cons_of_forall_mem solid.2 c blanks,
      List.filter_cons_of_pos (by simpa using solid.1)]

/-- The words are found, whatever white space stands between them and at the end. -/
theorem splitWhitespace_spaced {words : List (List Char × List Char)} {trail : List Char}
    (solid : Solid word) (each : ∀ w ∈ words, Gap w.1 ∧ Solid w.2) (trailing : Blank trail) :
    splitWhitespace (word ++ (spaced words ++ trail)) = word :: words.map Prod.snd := by
  induction words generalizing word with
  | nil =>
    cases trail with
    | nil =>
      simp only [spaced,List.flatMap_nil,List.append_nil]
      exact splitWhitespace_word solid
    | cons c trail =>
      have gap : Gap (c :: trail) := ⟨nofun,trailing⟩
      have found := splitWhitespace_gap solid gap []
      rw [List.append_nil] at found
      exact found
  | cons next words ih =>
    obtain ⟨gap,nextSolid⟩ := each next List.mem_cons_self
    have others := ih nextSolid fun other among => each other (List.mem_cons_of_mem _ among)
    have shape : spaced (next :: words) ++ trail = next.1 ++ (next.2 ++ (spaced words ++ trail)) := by
      simp [spaced,List.append_assoc]
    rw [shape,splitWhitespace_gap solid gap,others]
    rfl

/-- The first word is found whatever follows. -/
theorem splitWhitespace_first (solid : Solid word) (gap : Gap blank) (rest : List Char) :
    (splitWhitespace (word ++ (blank ++ rest))).head? = some word := by
  rw [splitWhitespace_gap solid gap]
  rfl

end Splitting

section Trimming

variable {cs lead trail : List Char}

theorem Solid.phrase (solid : Solid cs) : Phrase cs := by
  obtain ⟨nonempty,all⟩ := solid
  exact ⟨cs.head nonempty,cs.getLast nonempty,(List.head?_eq_some_head nonempty),
    (List.getLast?_eq_some_getLast nonempty),all _ (List.head_mem nonempty),
    all _ (List.getLast_mem nonempty)⟩

theorem Phrase.ne_nil (phrase : Phrase cs) : cs ≠ [] := by
  rintro rfl
  obtain ⟨first,last,starts,-⟩ := phrase
  cases starts

theorem trimChars_lead (all : Blank lead) (cs : List Char) :
    trimChars isWhitespace (lead ++ cs) = trimChars isWhitespace cs := by
  induction lead with
  | nil => rfl
  | cons c lead ih =>
    rw [List.cons_append,trimChars_cons (all c List.mem_cons_self)]
    exact ih fun d among => all d (List.mem_cons_of_mem _ among)

theorem trimChars_trail (all : Blank trail) (cs : List Char) :
    trimChars isWhitespace (cs ++ trail) = trimChars isWhitespace cs := by
  induction trail using List.reverseRecOn with
  | nil => rw [List.append_nil]
  | append_singleton trail c ih =>
    rw [← List.append_assoc,trimChars_concat (all c (by simp))]
    exact ih fun d among => all d (by simp [among])

theorem Phrase.trimChars (phrase : Phrase cs) : trimChars isWhitespace cs = cs := by
  obtain ⟨first,last,starts,ends,noFirst,noLast⟩ := phrase
  cases cs with
  | nil => cases starts
  | cons c rest =>
    cases starts
    rw [trimChars_of_first noFirst]
    induction rest using List.reverseRecOn with
    | nil => rfl
    | append_singleton rest d _ =>
      rw [← List.cons_append,List.getLast?_concat] at ends
      cases ends
      rw [List.rdropWhile_concat_neg _ _ _ (by simp [noLast])]

/-- A phrase is what is left of it between white space. -/
theorem trimChars_between (leading : Blank lead) (phrase : Phrase cs) (trailing : Blank trail) :
    Text.trimChars isWhitespace (lead ++ (cs ++ trail)) = cs := by
  rw [trimChars_lead leading,trimChars_trail trailing,phrase.trimChars]

end Trimming

section Case

theorem toNat_ofNat {n : Nat} (small : n < 0xD800) : (Char.ofNat n).toNat = n := by
  rw [Char.ofNat,dif_pos (.inl small)]
  rfl

theorem upperChars_append (first second : List Char) :
    upperChars (first ++ second) = upperChars first ++ upperChars second :=
  List.flatMap_append

theorem upperChar_blank {c : Char} (blank : isWhitespace c = true) : upperChar c = [c] := by
  have low : ¬ ('a' ≤ c ∧ c ≤ 'z') := by
    rintro ⟨above,below⟩
    have above' : 'a'.toNat ≤ c.toNat := above
    have below' : c.toNat ≤ 'z'.toNat := below
    simp only [isWhitespace,Bool.or_eq_true,Bool.and_eq_true,decide_eq_true_eq] at blank
    simp only [show 'a'.toNat = 97 from rfl,show 'z'.toNat = 122 from rfl] at above' below'
    omega
  unfold upperChar
  rw [if_neg low]
  split <;> first | rfl | (rename_i value; simp [isWhitespace,value] at blank)

theorem upperChar_solid {c : Char} (solid : isWhitespace c = false) : Solid (upperChar c) := by
  unfold upperChar
  split
  · rename_i small
    refine ⟨nofun,fun d among => ?_⟩
    cases List.mem_singleton.mp among
    have above : 'a'.toNat ≤ c.toNat := small.1
    have below : c.toNat ≤ 'z'.toNat := small.2
    simp only [show 'a'.toNat = 97 from rfl,show 'z'.toNat = 122 from rfl] at above below
    have value : (Char.ofNat (c.toNat - 32)).toNat = c.toNat - 32 := toNat_ofNat (by omega)
    simp only [isWhitespace,value,Bool.or_eq_false_iff,Bool.and_eq_false_iff,decide_eq_false_iff_not]
    omega
  · split
    all_goals first
      | exact ⟨nofun,solid_of_all rfl⟩
      | (refine ⟨nofun,fun d among => ?_⟩; cases List.mem_singleton.mp among; exact solid)

theorem upperChar_ne_nil (c : Char) : upperChar c ≠ [] := by
  cases blank : isWhitespace c with
  | false => exact (upperChar_solid blank).1
  | true =>
    rw [upperChar_blank blank]
    nofun

theorem upperChars_blank {cs : List Char} (blank : Blank cs) : upperChars cs = cs := by
  induction cs with
  | nil => rfl
  | cons c rest ih =>
    have first := upperChar_blank (blank c List.mem_cons_self)
    have others := ih fun d among => blank d (List.mem_cons_of_mem _ among)
    unfold upperChars at others ⊢
    rw [List.flatMap_cons,first,others]
    rfl

theorem upperChars_solid {cs : List Char} (solid : Solid cs) : Solid (upperChars cs) := by
  obtain ⟨nonempty,all⟩ := solid
  constructor
  · cases cs with
    | nil => exact absurd rfl nonempty
    | cons c rest =>
      intro nothing
      exact upperChar_ne_nil c (List.append_eq_nil_iff.mp nothing).1
  · intro d among
    obtain ⟨c,member,mapped⟩ := List.mem_flatMap.mp among
    exact (upperChar_solid (all c member)).2 d mapped

/-- The same letters, in whatever case each of them is. -/
def SameLetters (cs ds : List Char) : Prop := cs.map asciiLowerChar = ds.map asciiLowerChar

/-- A character of a keyword: a capital letter or an underscore. -/
def isKeywordChar (c : Char) : Bool := ('A' ≤ c && c ≤ 'Z') || c = '_'

private theorem code {c : Char} (bounds : 'A' ≤ c ∧ c ≤ 'Z') : 65 ≤ c.toNat ∧ c.toNat ≤ 90 := bounds

theorem asciiLowerChar_toNat (c : Char) :
    (asciiLowerChar c).toNat = if 65 ≤ c.toNat ∧ c.toNat ≤ 90 then c.toNat + 32 else c.toNat := by
  unfold asciiLowerChar
  by_cases capital : 'A' ≤ c ∧ c ≤ 'Z'
  · have bounds := code capital
    rw [if_pos capital,if_pos bounds,toNat_ofNat (by omega)]
  · have bounds : ¬ (65 ≤ c.toNat ∧ c.toNat ≤ 90) := capital
    rw [if_neg capital,if_neg bounds]

theorem upperChar_keyword {c d : Char} (keyword : isKeywordChar d = true)
    (same : asciiLowerChar c = asciiLowerChar d) : upperChar c = [d] := by
  have codes : 65 ≤ d.toNat ∧ d.toNat ≤ 90 ∨ d.toNat = 95 := by
    simp only [isKeywordChar,Bool.or_eq_true,Bool.and_eq_true,decide_eq_true_eq] at keyword
    rcases keyword with capital | rfl
    · exact .inl (code capital)
    · exact .inr rfl
  have lowered := congrArg Char.toNat same
  rw [asciiLowerChar_toNat,asciiLowerChar_toNat] at lowered
  by_cases small : 'a' ≤ c ∧ c ≤ 'z'
  · have bounds : 97 ≤ c.toNat ∧ c.toNat ≤ 122 := small
    unfold upperChar
    rw [if_pos small]
    have value : c.toNat - 32 = d.toNat := by
      split at lowered <;> split at lowered <;> omega
    rw [value,Char.ofNat_toNat]
  · have bounds : ¬ (97 ≤ c.toNat ∧ c.toNat ≤ 122) := small
    have value : c.toNat = d.toNat := by
      split at lowered <;> split at lowered <;> omega
    have letter : c = d := Char.toNat_inj.mp value
    subst letter
    unfold upperChar
    rw [if_neg small]
    split <;> first | rfl | omega

/-- A keyword in any case becomes the keyword. -/
theorem upperChars_sameLetters {cs ds : List Char} (keyword : ds.all isKeywordChar = true)
    (same : SameLetters cs ds) : upperChars cs = ds := by
  unfold SameLetters at same
  induction cs generalizing ds with
  | nil =>
    rw [List.map_nil,eq_comm,List.map_eq_nil_iff] at same
    rw [same]
    rfl
  | cons c cs ih =>
    cases ds with
    | nil => cases same
    | cons d ds =>
      obtain ⟨first,others⟩ := List.cons.inj same
      obtain ⟨firstKeyword,otherKeywords⟩ := Bool.and_eq_true_iff.mp keyword
      have rest := ih otherKeywords others
      unfold upperChars at rest ⊢
      rw [List.flatMap_cons,upperChar_keyword firstKeyword first,rest]
      rfl

/-- Digits and signs stay what they are. -/
theorem upperChar_low {c : Char} (low : c.toNat < 65) : upperChar c = [c] := by
  have small : ¬ ('a' ≤ c ∧ c ≤ 'z') := by
    rintro ⟨above,-⟩
    have bound : 97 ≤ c.toNat := above
    omega
  unfold upperChar
  rw [if_neg small]
  split <;> first | rfl | omega

private theorem high_of_all {cs : List Char} (all : cs.all (fun c => decide (65 ≤ c.toNat)) = true) :
    ∀ c ∈ cs, 65 ≤ c.toNat := by
  simpa using all

/-- Nothing else becomes a digit or a sign. -/
theorem upperChar_becomes {c d : Char} (mapped : d ∈ upperChar c) (low : d.toNat < 65) : d = c := by
  unfold upperChar at mapped
  split at mapped
  · rename_i small
    have above : 97 ≤ c.toNat := small.1
    have below : c.toNat ≤ 122 := small.2
    cases List.mem_singleton.mp mapped
    rw [toNat_ofNat (by omega)] at low
    omega
  · split at mapped
    all_goals first
      | exact List.mem_singleton.mp mapped
      | exact absurd low (Nat.not_lt.mpr (high_of_all rfl d mapped))

theorem upperChars_low {cs : List Char} (low : ∀ c ∈ cs, c.toNat < 65) : upperChars cs = cs := by
  induction cs with
  | nil => rfl
  | cons c rest ih =>
    have first := upperChar_low (low c List.mem_cons_self)
    have others := ih fun d among => low d (List.mem_cons_of_mem _ among)
    unfold upperChars at others ⊢
    rw [List.flatMap_cons,first,others]
    rfl

theorem digit_low {c : Char} (digit : isAsciiDigit c = true) : c.toNat < 65 := by
  have above : c.toNat ≤ 57 := of_decide_eq_true (Bool.and_eq_true_iff.mp digit).2
  omega

theorem upperChars_digits (cs : List Char) :
    (upperChars cs).all isAsciiDigit = cs.all isAsciiDigit := by
  rw [Bool.eq_iff_iff,List.all_eq_true,List.all_eq_true]
  constructor
  · intro all c member
    obtain ⟨d,among⟩ := List.exists_mem_of_ne_nil _ (upperChar_ne_nil c)
    have digit := all d (List.mem_flatMap.mpr ⟨c,member,among⟩)
    rw [← upperChar_becomes among (digit_low digit)]
    exact digit
  · intro all d among
    have same := upperChars_low fun c member => digit_low (all c member)
    rw [same] at among
    exact all d among

/-- A number is read the same in capitals. -/
theorem parseUnsigned_upperChars (bits : Nat) (cs : List Char) :
    parseUnsigned bits (upperChars cs) = parseUnsigned bits cs := by
  have digits : ∀ cs : List Char,
      (if upperChars cs ≠ [] ∧ (upperChars cs).all isAsciiDigit ∧ digitsValue (upperChars cs) < 2 ^ bits then
        some (digitsValue (upperChars cs)) else none) =
      if cs ≠ [] ∧ cs.all isAsciiDigit ∧ digitsValue cs < 2 ^ bits then some (digitsValue cs) else none := by
    intro cs
    by_cases all : cs.all isAsciiDigit = true
    · rw [upperChars_low fun c member => digit_low (List.all_eq_true.mp all c member)]
    · rw [if_neg fun parts => all ((upperChars_digits cs).symm.trans parts.2.1),
        if_neg fun parts => all parts.2.1]
  unfold parseUnsigned
  dsimp only
  cases cs with
  | nil => rfl
  | cons c rest =>
    by_cases sign : c = '+'
    · subst sign
      have shape : upperChars ('+' :: rest) = '+' :: upperChars rest := rfl
      rw [shape]
      exact digits rest
    · have kept : (upperChars (c :: rest)).head? ≠ some '+' := by
        intro plus
        have mapped : (upperChar c ++ upperChars rest).head? = some '+' := plus
        cases first : upperChar c with
        | nil => exact upperChar_ne_nil c first
        | cons d others =>
          rw [first] at mapped
          cases mapped
          exact sign (upperChar_becomes (by simp [first]) (by decide)).symm
      have unsigned : (c :: rest).head? ≠ some '+' := by simpa using sign
      simp only [if_neg kept,if_neg unsigned]
      exact digits (c :: rest)

end Case

end Text
