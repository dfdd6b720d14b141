import Ibctl.Lib.Words
import Ibctl.StateMachine.TimeSync

/-! Which sentence a wait is read from. The callers of the parser join the texts of a screen
with blanks, so a sentence of the joined text can have parts of several texts. -/
namespace Ibctl.Machine
open Text

section Splitting

variable {α : Type*} {stop : α → Bool}

/-- Where two lists meet, the last piece of one and the first piece of the other become one. -/
theorem splitOnP_append (xs ys : List α) :
    (xs ++ ys).splitOnP stop =
      (xs.splitOnP stop).dropLast ++
        (ys.splitOnP stop).modifyHead ((xs.splitOnP stop).getLastD [] ++ ·) := by
  induction xs with
  | nil =>
    obtain ⟨piece,pieces,split_⟩ := List.exists_cons_of_ne_nil (List.splitOnP_ne_nil stop ys)
    simp [split_]
  | cons x xs ih =>
    obtain ⟨piece,pieces,split_⟩ := List.exists_cons_of_ne_nil (List.splitOnP_ne_nil stop xs)
    rw [List.cons_append,List.splitOnP_cons_eq_if_modifyHead,List.splitOnP_cons_eq_if_modifyHead,ih,
      split_]
    split
    · simp [List.dropLast_cons_of_ne_nil]
    · cases pieces with
      | nil => cases ys.splitOnP stop <;> simp
      | cons next rest => simp

theorem splitWhitespace_blank (xs ys : List Char) :
    splitWhitespace (xs ++ ' ' :: ys) = splitWhitespace xs ++ splitWhitespace ys := by
  unfold splitWhitespace
  rw [List.splitOnP_append_cons xs ys (by decide),List.filter_append]

/-- A text that can be put before another, or after it, without touching its words. -/
def Leads (p : List Char) : Prop := p = [] ∨ ∃ front, p = front ++ [' ']

def Trails (q : List Char) : Prop := q = [] ∨ ∃ back, q = ' ' :: back

theorem splitWhitespace_between {p q : List Char} (leads : Leads p) (trails : Trails q)
    (s : List Char) : ∃ front back, splitWhitespace (p ++ s ++ q) = front ++ splitWhitespace s ++ back := by
  have begun : ∃ front, splitWhitespace (p ++ s) = front ++ splitWhitespace s := by
    rcases leads with rfl | ⟨front,rfl⟩
    · exact ⟨[],rfl⟩
    · exact ⟨splitWhitespace front,by rw [List.append_assoc]; exact splitWhitespace_blank front s⟩
  obtain ⟨front,begun⟩ := begun
  rcases trails with rfl | ⟨back,rfl⟩
  · exact ⟨front,[],by rw [List.append_nil,List.append_nil,begun]⟩
  · exact ⟨front,splitWhitespace back,by rw [splitWhitespace_blank,begun]⟩

theorem Leads.map {p : List Char} (leads : Leads p) {f : Char → Char} (keeps : f ' ' = ' ') :
    Leads (p.map f) := by
  rcases leads with rfl | ⟨front,rfl⟩
  · exact .inl rfl
  · exact .inr ⟨front.map f,by simp [keeps]⟩

theorem Trails.map {q : List Char} (trails : Trails q) {f : Char → Char} (keeps : f ' ' = ' ') :
    Trails (q.map f) := by
  rcases trails with rfl | ⟨back,rfl⟩
  · exact .inl rfl
  · exact .inr ⟨back.map f,by simp [keeps]⟩

end Splitting

section Sentence

/-- The language of a sentence that asks to wait. -/
def mentionsRetry (sentence : List Char) : Bool :=
  ["retry","try again","wait","attempt again","until retry"].any
    (fun needle => containsChars sentence needle.toList)

def letterOrBlank (c : Char) : Char := if isAsciiAlphanumeric c then c else ' '

def wordsOf (sentence : List Char) : List (List Char) :=
  splitWhitespace (sentence.map letterOrBlank)

/-- What the durations of a sentence come to: its first clock, or all its minutes and seconds. -/
def waitOf (sentence : List Char) : Option Nat :=
  match (splitWhitespace sentence).findSome? clockToken with
  | some seconds => some seconds
  | none =>
    if (wordsDuration 0 false (wordsOf sentence)).2 then
      some (min (wordsDuration 0 false (wordsOf sentence)).1 3600)
    else none

def asks (sentence : List Char) : Bool := mentionsRetry sentence && (waitOf sentence).isSome

theorem segmentRetrySeconds_eq (sentence : List Char) :
    segmentRetrySeconds sentence = if mentionsRetry sentence then waitOf sentence else none := by
  unfold segmentRetrySeconds waitOf
  cases named : mentionsRetry sentence with
  | false =>
    unfold mentionsRetry at named
    simp [named]
  | true =>
    unfold mentionsRetry at named
    cases clock : (splitWhitespace sentence).findSome? clockToken with
    | some seconds => simp [named]
    | none =>
      simp only [named,Bool.not_true,Bool.false_eq_true,if_false,if_true]
      rfl

theorem findSome_segments (sentences : List (List Char)) :
    sentences.findSome? segmentRetrySeconds = (sentences.find? asks).bind waitOf := by
  induction sentences with
  | nil => rfl
  | cons sentence rest ih =>
    rw [List.findSome?_cons,segmentRetrySeconds_eq,List.find?_cons]
    cases named : mentionsRetry sentence with
    | false => simp [asks,named,ih]
    | true =>
      cases wait : waitOf sentence with
      | none => simp [asks,named,wait,ih]
      | some seconds => simp [asks,named,wait]

/-- Some word is a number that counts minutes or seconds. -/
def counts : List (List Char) → Bool
  | [] => false
  | word :: rest =>
    ((parseUnsigned 64 word).isSome && ("sec".toList.isPrefixOf (rest.head?.getD []) ||
      "min".toList.isPrefixOf (rest.head?.getD []))) || counts rest

theorem wordsDuration_snd (total : Nat) (found : Bool) (words : List (List Char)) :
    (wordsDuration total found words).2 = (found || counts words) := by
  induction words generalizing total found with
  | nil => simp [wordsDuration,counts]
  | cons word rest ih =>
    unfold wordsDuration counts
    cases parseUnsigned 64 word with
    | none => simp [ih]
    | some value =>
      simp only [Option.isSome_some,Bool.true_and]
      split
      · rename_i seconds
        rw [ih,seconds]
        simp
      · rename_i seconds
        rw [eq_false_of_ne_true seconds]
        split
        · rename_i minutes
          rw [ih,minutes]
          simp
        · rename_i minutes
          rw [ih,eq_false_of_ne_true minutes]
          rfl

theorem counts_between {words : List (List Char)} (counted : counts words = true)
    (front back : List (List Char)) : counts (front ++ words ++ back) = true := by
  have ended : counts (words ++ back) = true := by
    induction words with
    | nil => cases counted
    | cons word rest ih =>
      cases rest with
      | nil => simp [counts] at counted
      | cons next rest =>
        rw [counts,Bool.or_eq_true] at counted
        rw [List.cons_append,counts,Bool.or_eq_true]
        exact counted.imp id ih
  rw [List.append_assoc]
  induction front with
  | nil => exact ended
  | cons word rest ih =>
    rw [List.cons_append,counts,ih,Bool.or_true]

theorem containsChars_between {s needle : List Char} (found : containsChars s needle = true)
    (p q : List Char) : containsChars (p ++ s ++ q) needle = true := by
  rw [containsChars_iff] at found ⊢
  exact found.trans ⟨p,q,rfl⟩

theorem waitOf_isSome_iff (sentence : List Char) :
    (waitOf sentence).isSome ↔
      (∃ token ∈ splitWhitespace sentence, (clockToken token).isSome) ∨
        counts (wordsOf sentence) = true := by
  unfold waitOf
  rw [← List.findSome?_isSome_iff]
  cases clock : (splitWhitespace sentence).findSome? clockToken with
  | some seconds => simp
  | none =>
    simp only [wordsDuration_snd,Bool.false_or]
    cases counts (wordsOf sentence) <;> simp

/-- What is put around a sentence does not stop it from asking. -/
theorem asks_between {s p q : List Char} (leads : Leads p) (trails : Trails q)
    (asking : asks s = true) : asks (p ++ s ++ q) = true := by
  unfold asks mentionsRetry at asking ⊢
  rw [Bool.and_eq_true,List.any_eq_true] at asking ⊢
  obtain ⟨⟨needle,listed,found⟩,named⟩ := asking
  refine ⟨⟨needle,listed,containsChars_between found p q⟩,?_⟩
  rw [waitOf_isSome_iff] at named ⊢
  rcases named with ⟨token,member,clock⟩ | counted
  · obtain ⟨front,back,tokens⟩ := splitWhitespace_between leads trails s
    refine .inl ⟨token,?_,clock⟩
    rw [tokens]
    simp [member]
  · right
    unfold wordsOf at counted ⊢
    rw [List.map_append,List.map_append]
    have blank : letterOrBlank ' ' = ' ' := by decide
    obtain ⟨front,back,words⟩ :=
      splitWhitespace_between (leads.map blank) (trails.map blank) (s.map letterOrBlank)
    rw [words]
    exact counts_between counted front back

end Sentence

section Joined

def sentences (text : List Char) : List (List Char) :=
  text.splitOnP (fun c => c = '.' || c = '!' || c = '\n' || c = ';')

/-- The sentences of a text with something before its first and after its last, and whether
that is anything. -/
def touch (p q : List Char) : List (List Char) → List (Bool × List Char)
  | [] => []
  | [s] => [(p ≠ [] || q ≠ [],p ++ s ++ q)]
  | s :: next :: rest => (p ≠ [],p ++ s) :: touch [] q (next :: rest)

/-- The sentences of a text between others; the mark says that a sentence is not the text's own
alone. -/
def markedSentences (lead text trail : List Char) : List (Bool × List Char) :=
  (sentences lead).dropLast.map (fun s => (true,s)) ++
    touch ((sentences lead).getLastD []) ((sentences trail).headD []) (sentences text) ++
    (sentences trail).tail.map (fun s => (true,s))

theorem touch_snd (p q : List Char) {own : List (List Char)} (some_ : own ≠ []) :
    (touch p q own).map Prod.snd =
      (own.dropLast ++ [own.getLastD [] ++ q]).modifyHead (p ++ ·) := by
  induction own generalizing p with
  | nil => exact absurd rfl some_
  | cons s rest ih =>
    cases rest with
    | nil => simp [touch]
    | cons next rest =>
      rw [touch,List.map_cons,ih [] (by simp)]
      cases rest <;> simp

theorem markedSentences_snd (lead text trail : List Char) :
    (markedSentences lead text trail).map Prod.snd = sentences (lead ++ text ++ trail) := by
  unfold markedSentences
  obtain ⟨piece,pieces,split_⟩ := List.exists_cons_of_ne_nil (List.splitOnP_ne_nil
    (fun c => c = '.' || c = '!' || c = '\n' || c = ';') trail)
  have ends : sentences trail = piece :: pieces := split_
  have own : sentences text ≠ [] := List.splitOnP_ne_nil _ _
  have joined : sentences (lead ++ text ++ trail) = (sentences lead).dropLast ++
      ((sentences text).dropLast ++ (sentences trail).modifyHead ((sentences text).getLastD [] ++ ·)
        ).modifyHead ((sentences lead).getLastD [] ++ ·) := by
    rw [List.append_assoc]
    exact (splitOnP_append lead (text ++ trail)).trans
      (by rw [splitOnP_append text trail]; rfl)
  rw [joined,ends,List.map_append,List.map_append,touch_snd _ _ own,List.append_assoc]
  cases (sentences text).dropLast <;> simp [Function.comp_def]

/-- Where no sentence with something around it asks, or one that has nothing around it is the
first that does, the text alone is no different. -/
theorem touch_find {p q : List Char} (leads : Leads p) (trails : Trails q)
    (own : List (List Char)) :
    ((touch p q own).find? (fun m => asks m.2) = none → own.find? asks = none) ∧
      ∀ s, (touch p q own).find? (fun m => asks m.2) = some (false,s) →
        own.find? asks = some s := by
  induction own generalizing p with
  | nil => exact ⟨fun _ => rfl,fun s found => by cases found⟩
  | cons s rest ih =>
    cases rest with
    | nil =>
      rw [touch,List.find?_singleton]
      cases asking : asks (p ++ s ++ q) with
      | false =>
        have silent : asks s = false := eq_false_of_ne_true fun alone =>
          Bool.false_ne_true (asking.symm.trans (asks_between leads trails alone))
        simp [silent]
      | true =>
        refine ⟨fun none_ => by simp at none_,fun t found => ?_⟩
        obtain ⟨⟨rfl,rfl⟩,rfl⟩ : (p = [] ∧ q = []) ∧ p ++ s ++ q = t := by simpa using found
        simpa using asking
    | cons next rest =>
      rw [touch,List.find?_cons]
      cases asking : asks (p ++ s) with
      | false =>
        have silent : asks s = false := eq_false_of_ne_true fun alone => by
          have around := asks_between leads (.inl rfl) alone
          simp [asking] at around
        rw [List.find?_cons,silent]
        exact ih (.inl rfl)
      | true =>
        refine ⟨fun none_ => by simp at none_,fun t found => ?_⟩
        obtain ⟨rfl,rfl⟩ : p = [] ∧ p ++ s = t := by simpa using found
        rw [List.nil_append] at asking ⊢
        rw [List.find?_cons,asking]

theorem leads_sentences {lead : List Char} (leads : Leads lead) :
    Leads ((sentences lead).getLastD []) := by
  rcases leads with rfl | ⟨front,rfl⟩
  · exact .inl rfl
  · right
    refine ⟨(sentences front).getLastD [],?_⟩
    have split_ : sentences (front ++ [' ']) =
        (sentences front).dropLast ++ [(sentences front).getLastD [] ++ [' ']] :=
      splitOnP_append front [' ']
    rw [split_]
    simp

theorem trails_sentences {trail : List Char} (trails : Trails trail) :
    Trails ((sentences trail).headD []) := by
  rcases trails with rfl | ⟨back,rfl⟩
  · exact .inl rfl
  · right
    obtain ⟨piece,pieces,split_⟩ := List.exists_cons_of_ne_nil (List.splitOnP_ne_nil
      (fun c => c = '.' || c = '!' || c = '\n' || c = ';') back)
    refine ⟨piece,?_⟩
    unfold sentences
    rw [List.splitOnP_cons_eq_if_modifyHead,split_]
    rfl

theorem marked_find {lead trail : List Char} (leads : Leads lead) (trails : Trails trail)
    (text : List Char) :
    ((markedSentences lead text trail).find? (fun m => asks m.2) = none →
        (sentences text).find? asks = none) ∧
      ∀ s, (markedSentences lead text trail).find? (fun m => asks m.2) = some (false,s) →
        (sentences text).find? asks = some s := by
  have own := touch_find (leads_sentences leads) (trails_sentences trails) (sentences text)
  unfold markedSentences
  rw [List.find?_append,List.find?_append]
  constructor
  · intro none_
    rw [Option.or_eq_none_iff,Option.or_eq_none_iff] at none_
    exact own.1 none_.1.2
  · intro s found
    have foreign : ∀ pieces : List (List Char),
        (pieces.map fun s => (true,s)).find? (fun m => asks m.2) ≠ some (false,s) := by
      intro pieces found
      obtain ⟨piece,-,same⟩ := List.mem_map.mp (List.mem_of_find?_eq_some found)
      cases same
    rcases Option.or_eq_some_iff.mp found with found | ⟨-,found⟩
    · rcases Option.or_eq_some_iff.mp found with found | ⟨-,found⟩
      · exact absurd found (foreign _)
      · exact own.2 s found
    · exact absurd found (foreign _)

end Joined

section Texts

def lowered (text : String) : List Char := (toAsciiLowercase text).toList

def leading (before : List String) : List Char := before.flatMap (fun text => lowered text ++ [' '])

def trailing (after : List String) : List Char := after.flatMap (fun text => ' ' :: lowered text)

theorem lowered_append (s t : String) : lowered (s ++ t) = lowered s ++ lowered t := by
  simp [lowered,toAsciiLowercase]

theorem lowered_intercalate (text : String) (after : List String) :
    lowered (" ".intercalate (text :: after)) = lowered text ++ trailing after := by
  have blank : lowered " " = [' '] := by decide
  induction after generalizing text with
  | nil => simp [trailing]
  | cons next rest ih =>
    rw [String.intercalate_cons_cons,lowered_append,lowered_append,ih,blank]
    simp [trailing]

theorem lowered_joined (before : List String) (text : String) (after : List String) :
    lowered (" ".intercalate (before ++ text :: after)) =
      leading before ++ lowered text ++ trailing after := by
  have split_ : trailing (before ++ text :: after) =
      ' ' :: (leading before ++ lowered text ++ trailing after) := by
    induction before with
    | nil => simp [trailing,leading]
    | cons first rest ih =>
      have step : trailing (first :: rest ++ text :: after) =
          ' ' :: lowered first ++ trailing (rest ++ text :: after) := by simp [trailing]
      rw [step,ih]
      simp [leading]
  cases before with
  | nil => simpa [leading] using lowered_intercalate text after
  | cons first rest =>
    rw [List.cons_append,lowered_intercalate]
    have step : ' ' :: (lowered first ++ trailing (rest ++ text :: after)) =
        trailing (first :: rest ++ text :: after) := by simp [trailing]
    exact List.cons_injective (step.trans split_)

theorem leads_leading (before : List String) : Leads (leading before) := by
  rcases List.eq_nil_or_concat before with rfl | ⟨front,last,rfl⟩
  · exact .inl rfl
  · exact .inr ⟨leading front ++ lowered last,by simp [leading]⟩

theorem trails_trailing (after : List String) : Trails (trailing after) := by
  cases after with
  | nil => exact .inl rfl
  | cons first rest => exact .inr ⟨lowered first ++ trailing rest,by simp [trailing]⟩

theorem parseRetrySeconds_eq (text : String) :
    parseRetrySeconds text = ((sentences (lowered text)).find? asks).bind waitOf :=
  findSome_segments _

/-- The first sentence of the joined texts that asks for a wait is one of this text alone, or its
durations come to the same as those of the first sentence of this text that asks. -/
def CountdownKept (before : List String) (text : String) (after : List String) : Prop :=
  ∀ mixed, (markedSentences (leading before) (lowered text) (trailing after)).find?
      (fun m => asks m.2) = some (true,mixed) →
    ∃ own, (sentences (lowered text)).find? asks = some own ∧ waitOf own = waitOf mixed

end Texts

end Ibctl.Machine
