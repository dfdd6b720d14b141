import Ibctl.Agent.EventSchema
import Ibctl.Agent.LineDocuments
import Ibctl.Agent.RequestReader

/-! What the client reads of the lines that the agent writes: every line, where no title is null and
the texts consist of whole characters, and otherwise not. -/
namespace Ibctl.Agent
open JsonGrammar
open Machine (AgentEvent ObservedWindow WindowInfo)

section Promise

/-- The client has the text that the agent had. -/
def Same (text : Option JavaText) (s : String) : Prop := text = some (javaString s.toList)

/-- An optional text on both sides. -/
def SameOption (text : Option JavaText) (s : Option String) : Prop := text = s.map fun s => javaString s.toList

def SameAll (texts : List JavaText) (ss : List String) : Prop := texts = ss.map fun s => javaString s.toList

/-- The event has the ids and the texts of the message. -/
def StreamMessage.Matches (stamp : Stamp) : StreamMessage → AgentEvent → Prop
  | snapshot windows,event =>
    ∃ observed : List ObservedWindow, event = .snapshot stamp.seq observed ∧
      List.Forall₂ (fun w o => o.id = w.identityHash ∧ Same (getWindowTitle w) o.title ∧
        Same (some w.className) o.className ∧ o.hasLoginButton = hasLoginButton w) windows observed
  | windowOpened w,event =>
    ∃ title className, event = .windowOpened stamp.seq w.identityHash title className (hasLoginButton w) ∧
      Same (getWindowTitle w) title ∧ Same (some w.className) className
  | windowClosed w,event =>
    ∃ title, event = .windowClosed stamp.seq w.identityHash title ∧ Same (getWindowTitle w) title
  | loginFormReady _ textFieldCount passwordFieldCount loginButton selectedMode,event =>
    ∃ label mode, event = .loginFormReady textFieldCount passwordFieldCount label mode ∧
      SameOption loginButton label ∧ SameOption selectedMode mode
  | twofaPrompt _ promptType devices,event => ∃ names, event = .twofaPrompt promptType names ∧ SameAll devices names
  | errorDialog _ title message buttons,event =>
    ∃ windowTitle text labels, event = .errorDialog windowTitle text labels ∧ Same (some title) windowTitle ∧
      SameOption message text ∧ SameAll buttons labels
  | connectionStatusChanged prev status,event => event = .connectionStatusChanged prev status

variable (fromStr : List Char → Option Json)

/-- Whatever its number and its time, the line is one line, and the client reads the message in it. -/
def Delivered (message : StreamMessage) : Prop :=
  ∀ stamp : Stamp, '\n'.toNat ∉ message.line stamp ∧
    ∃ event, (fromStr (decoded (message.line stamp))).bind readEvent = some event ∧ message.Matches stamp event

/-- The reply to `/windows` is read as one entry for each window that is showing. -/
def Listed (windows : List AwtWindow) : Prop :=
  ∃ infos : List WindowInfo, (fromStr (decoded (windowsReply windows))).bind readWindows = some infos ∧
    List.Forall₂ (fun w info => info.id.id = w.identityHash.val ∧ Same (getWindowTitle w) info.title ∧
      Same (some w.className) info.className) (windows.filter (·.showing)) infos

/-- What the agent writes about these windows the client reads. -/
structure ReadsBack (toLowerCase : JavaText → JavaText) (windows : List AwtWindow) : Prop where
  opened : ∀ w ∈ windows, (emitWindowOpened toLowerCase w).throws = false ∧
    ∀ message ∈ (emitWindowOpened toLowerCase w).messages, Delivered fromStr message
  closed : ∀ w ∈ windows, (emitWindowClosed w).throws = false ∧
    ∀ message ∈ (emitWindowClosed w).messages, Delivered fromStr message
  snapshot : Delivered fromStr (.snapshot windows)
  status : ∀ prev status, Delivered fromStr (.connectionStatusChanged prev status)
  listed : Listed fromStr windows

/-- The text is there and consists of whole characters. -/
def Whole (text : Option JavaText) : Prop := ∃ t, text = some t ∧ Clean t

/-- The labels of more than three units. -/
def labelsOf (components : List Component) : List JavaText :=
  components.filterMap fun component =>
    match component with
    | .label (some text) => if 3 < text.length then some text else none
    | _ => none

def itemsOf (components : List Component) : List JavaText :=
  components.flatMap fun component =>
    match component with
    | .list items => items.reduceOption
    | _ => []

/-- The texts of a window that its semantic events show. -/
def shownTexts (toLowerCase : JavaText → JavaText) (w : AwtWindow) (title : JavaText) : List JavaText :=
  let titleLower := toLowerCase title
  (if contains titleLower "ib gateway" || contains titleLower "ibkr gateway" then
    (loginButtonLabel toLowerCase w.components).toList else []) ++
  (if isTwofaTitle titleLower then itemsOf w.components else []) ++
  (if isErrorDialog w titleLower then labelsOf w.components ++ buttonsOf w.components else [])

/-- The title is not null, and what the lines of the window show consists of whole characters. -/
def Presentable (toLowerCase : JavaText → JavaText) (w : AwtWindow) : Prop :=
  Whole (getWindowTitle w) ∧ Clean w.className ∧
    ∀ title ∈ getWindowTitle w, ∀ text ∈ shownTexts toLowerCase w title, Clean text

end Promise

section Same

theorem same_textOf {text : JavaText} (clean : Clean text) : Same (some text) (textOf text) :=
  congrArg some (javaString_textOf clean).symm

theorem clean_of_same {text : JavaText} {s : String} (same : Same (some text) s) : Clean text :=
  Option.some.inj same ▸ clean_javaString s.toList

theorem whole_of_same {text : Option JavaText} {s : String} (same : Same text s) : Whole text :=
  ⟨_,same,clean_javaString s.toList⟩

theorem sameOption_textOf {text : Option JavaText} (clean : ∀ t ∈ text, Clean t) :
    SameOption text (text.map textOf) := by
  cases text with
  | none => rfl
  | some t => exact same_textOf (clean t rfl)

theorem clean_of_sameOption {text : Option JavaText} {s : Option String} (same : SameOption text s) :
    ∀ t ∈ text, Clean t := by
  rintro t among
  rw [same] at among
  obtain ⟨s,-,rfl⟩ := Option.map_eq_some_iff.mp among
  exact clean_javaString s.toList

theorem sameAll_textOf {texts : List JavaText} (clean : ∀ t ∈ texts, Clean t) :
    SameAll texts (texts.map textOf) := by
  have each : ∀ t ∈ texts, ((fun s : String => javaString s.toList) ∘ textOf) t = id t :=
    fun t among => javaString_textOf (clean t among)
  rw [SameAll,List.map_map,List.map_congr_left each,List.map_id]

theorem clean_of_sameAll {texts : List JavaText} {ss : List String} (same : SameAll texts ss) :
    ∀ t ∈ texts, Clean t := by
  intro t among
  rw [same] at among
  obtain ⟨s,-,rfl⟩ := List.mem_map.mp among
  exact clean_javaString s.toList

end Same

section Schema

theorem digitsValue_write (n : Nat) : Text.digitsValue (Decimal.write n) = n := by
  have value := @Nat.ofDigitChars_ten_toDigits n
  rw [Nat.ofDigitChars_eq_foldl] at value
  unfold Text.digitsValue Decimal.write
  simp only [Nat.mul_comm] at value ⊢
  exact value

theorem parseUnsigned_write {bits n : Nat} (fits : n < 2 ^ bits) :
    Text.parseUnsigned bits (Decimal.write n) = some n := by
  have digits : ∀ c ∈ Decimal.write n, Text.isAsciiDigit c = true := fun c among => by
    have bounds := Decimal.isDigit_bounds (Decimal.isDigit_of_mem_write among)
    unfold Text.isAsciiDigit
    rw [Bool.and_eq_true,decide_eq_true_iff,decide_eq_true_iff]
    exact bounds
  have unsigned : (Decimal.write n).head? ≠ some '+' := fun plus => by
    cases digits '+' (List.mem_of_mem_head? plus)
  unfold Text.parseUnsigned
  rw [if_neg unsigned]
  dsimp only
  rw [digitsValue_write]
  exact if_pos ⟨Decimal.write_ne_nil n,List.all_eq_true.mpr digits,fits⟩

theorem readUnsigned_number {bits n : Nat} (fits : n < 2 ^ bits) : readUnsigned bits (number n) = some n := by
  rw [number,readUnsigned,String.toList_ofList]
  exact parseUnsigned_write fits

theorem readI32_number (x : Int32) : readI32 (number x.toInt) = some x.toInt := by
  have low := x.le_toInt
  have high := x.toInt_lt
  rw [number,readI32,String.toList_ofList]
  cases value : x.toInt with
  | ofNat n =>
    have head : ∀ digits, Decimal.write n ≠ '-' :: digits := fun digits same => by
      cases Decimal.isDigit_of_mem_write (n := n) (by rw [same]; exact List.mem_cons_self)
    have same : x.toInt = n := value
    have parsed : Text.parseUnsigned 31 (Decimal.write n) = some n := parseUnsigned_write (by omega)
    dsimp only [Decimal.writeInt]
    split
    · rename_i digits same
      exact absurd same (head digits)
    · rw [parsed]
      rfl
  | negSucc n =>
    have same : x.toInt = -(n + 1 : Nat) := value
    have parsed : Text.parseUnsigned 64 (Decimal.write (n + 1)) = some (n + 1) := parseUnsigned_write (by omega)
    change (Text.parseUnsigned 64 (Decimal.write (n + 1))).bind _ = _
    rw [parsed,Option.bind_some,if_pos (by omega)]
    rfl

theorem readVec_map {α β : Type} {read : Json → Option β} {items : List α} {doc : α → Json} {value : α → β}
    (each : ∀ a ∈ items, read (doc a) = some (value a)) :
    readVec read (.array (items.map doc)) = some (items.map value) := by
  rw [readVec,Json.asArray,Option.bind_some,List.mapM_map]
  induction items with
  | nil => rfl
  | cons a items ih =>
    rw [List.mapM_cons,Function.comp_apply,each a List.mem_cons_self,
      ih fun b among => each b (List.mem_cons_of_mem _ among)]
    rfl

section Members

variable {α : Type} (read : Json → Option α) (default_ : α) (key name : String) (value : Json)
  (members : List (String × Json))

theorem get_cons : Json.get key (.object ((name,value) :: members)) =
    if name = key then some value else Json.get key (.object members) := by
  unfold Json.get
  dsimp only
  rw [List.find?_cons]
  by_cases same : name = key
  · rw [if_pos same,decide_eq_true same]
    rfl
  · rw [if_neg same,decide_eq_false same]

theorem required_cons : required read key (.object ((name,value) :: members)) =
    if name = key then read value else required read key (.object members) := by
  unfold required
  rw [get_cons]
  by_cases same : name = key
  · rw [if_pos same,if_pos same]
    rfl
  · rw [if_neg same,if_neg same]

theorem defaulted_nil : defaulted read default_ key (.object []) = some default_ := rfl

theorem defaulted_cons : defaulted read default_ key (.object ((name,value) :: members)) =
    if name = key then read value else defaulted read default_ key (.object members) := by
  unfold defaulted
  rw [get_cons]
  by_cases same : name = key
  · rw [if_pos same,if_pos same]
  · rw [if_neg same,if_neg same]

end Members

theorem readEventBounds_doc (w : AwtWindow) :
    readEventBounds (boundsDoc w) = some ⟨w.bounds.x.toInt,w.bounds.y.toInt,w.bounds.width.toInt,
      w.bounds.height.toInt⟩ := by
  simp [readEventBounds,boundsDoc,required_cons,readI32_number]

variable {w : AwtWindow} {t : JavaText}

theorem titleDoc_some (titled : getWindowTitle w = some t) : titleDoc w = .string (textOf t) := by
  rw [titleDoc,titled]
  rfl

theorem readUnsigned_id (w : AwtWindow) : readUnsigned 64 (number w.identityHash) = some w.identityHash.val :=
  readUnsigned_number (Nat.lt_trans w.identityHash.isLt (by decide))

theorem readString_string (s : String) : readString (.string s) = some s := rfl

theorem readBool_bool (b : Bool) : readBool (.bool b) = some b := rfl

/-- What the client keeps of a window of a snapshot. -/
def observe (w : AwtWindow) : ObservedWindow :=
  ⟨w.identityHash,textOf ((getWindowTitle w).getD []),textOf w.className,hasLoginButton w⟩

/-- What it keeps of a window of the list. -/
def inform (w : AwtWindow) : WindowInfo :=
  ⟨⟨w.identityHash⟩,textOf ((getWindowTitle w).getD []),textOf w.className,
    some ⟨w.bounds.width.toInt,w.bounds.height.toInt⟩⟩

theorem readSnapshotWindow_doc (titled : getWindowTitle w = some t) :
    readSnapshotWindow (windowDoc w) = some (observe w) := by
  have bounds : readOption readEventBounds (boundsDoc w) = (readEventBounds (boundsDoc w)).map some := rfl
  simp [readSnapshotWindow,windowDoc,required_cons,optional,defaulted_cons,titleDoc_some titled,readUnsigned_id,
    readString_string,readBool_bool,bounds,readEventBounds_doc,observe,titled]

theorem readWindowInfo_doc (titled : getWindowTitle w = some t) :
    readWindowInfo (listedDoc w) = some (inform w) := by
  have bounds : readBounds (boundsDoc w) = some ⟨w.bounds.width.toInt,w.bounds.height.toInt⟩ := by
    simp [readBounds,boundsDoc,defaulted_cons,readI32_number]
  have solid : readOption readBounds (boundsDoc w) = (readBounds (boundsDoc w)).map some := rfl
  simp [readWindowInfo,listedDoc,required_cons,optional,defaulted_cons,defaulted_nil,get_cons,titleDoc_some titled,
    readUnsigned_id,readString_string,solid,bounds,inform,titled]

theorem readOption_orNull (s : Option String) : readOption readString (orNull s) = some s := by
  cases s with
  | none => rfl
  | some s => rfl

theorem readTexts_doc (values : List JavaText) : readVec readString (textsDoc values) = some (values.map textOf) :=
  readVec_map fun _ _ => rfl

/-- The message has its titles, and its texts consist of whole characters. -/
def StreamMessage.Shown : StreamMessage → Prop
  | snapshot windows => ∀ w ∈ windows, Whole (getWindowTitle w) ∧ Clean w.className
  | windowOpened w => Whole (getWindowTitle w) ∧ Clean w.className
  | windowClosed w => Whole (getWindowTitle w)
  | loginFormReady _ _ _ loginButton selectedMode => (∀ t ∈ loginButton, Clean t) ∧ ∀ t ∈ selectedMode, Clean t
  | twofaPrompt _ _ devices => ∀ t ∈ devices, Clean t
  | errorDialog _ title message buttons => Clean title ∧ (∀ t ∈ message, Clean t) ∧ ∀ t ∈ buttons, Clean t
  | connectionStatusChanged .. => True

theorem readEvent_doc {m : StreamMessage} (fits : m.Fits) (shown : m.Shown) (stamp : Stamp) :
    ∃ event, readEvent (m.doc stamp) = some event ∧ m.Matches stamp event := by
  have stamped (n : Fin (2 ^ 63)) : readUnsigned 64 (number n) = some n.val :=
    readUnsigned_number (Nat.lt_trans n.isLt (by decide))
  unfold readEvent StreamMessage.doc
  cases m with
  | snapshot windows =>
    have each : ∀ w ∈ windows, readSnapshotWindow (windowDoc w) = some (observe w) := fun w among =>
      readSnapshotWindow_doc (shown w among).1.choose_spec.1
    have same : List.Forall₂ (fun w o => o.id = w.identityHash ∧ Same (getWindowTitle w) o.title ∧
        Same (some w.className) o.className ∧ o.hasLoginButton =
          hasLoginButton w) windows (windows.map observe) := by
      refine List.forall₂_map_right_iff.mpr (List.forall₂_same.mpr fun w among => ?_)
      obtain ⟨⟨t,titled,clean⟩,named⟩ := shown w among
      refine ⟨rfl,?_,same_textOf named,rfl⟩
      rw [observe,titled]
      exact same_textOf clean
    refine ⟨.snapshot stamp.seq (windows.map observe),?_,_,rfl,same⟩
    simp [required_cons,readString_string,readTagged,stamped,readVec_map each]
  | windowOpened w =>
    obtain ⟨⟨t,titled,clean⟩,named⟩ := shown
    refine ⟨.windowOpened stamp.seq w.identityHash (textOf t) (textOf w.className) (hasLoginButton w),?_,_,_,rfl,
      titled.trans (same_textOf clean),same_textOf named⟩
    simp [required_cons,readString_string,readTagged,titleDoc_some titled,stamped,readUnsigned_id,readBool_bool]
  | windowClosed w =>
    obtain ⟨t,titled,clean⟩ := shown
    refine ⟨.windowClosed stamp.seq w.identityHash (textOf t),?_,_,rfl,titled.trans (same_textOf clean)⟩
    simp [required_cons,readString_string,readTagged,titleDoc_some titled,stamped,readUnsigned_id]
  | loginFormReady w textFieldCount passwordFieldCount loginButton selectedMode =>
    obtain ⟨label,mode⟩ := shown
    have texts : readUnsigned 32 (number textFieldCount) = some textFieldCount :=
      readUnsigned_number (Nat.lt_trans fits.1 (by decide))
    have passwords : readUnsigned 32 (number passwordFieldCount) = some passwordFieldCount :=
      readUnsigned_number (Nat.lt_trans fits.2 (by decide))
    refine ⟨.loginFormReady textFieldCount passwordFieldCount (loginButton.map textOf)
      (selectedMode.map textOf),?_,_,_,
      rfl,sameOption_textOf label,sameOption_textOf mode⟩
    simp [required_cons,optional,defaulted_cons,readString_string,readOption_orNull,readTagged,texts,passwords]
  | twofaPrompt w promptType devices =>
    refine ⟨.twofaPrompt promptType (devices.map textOf),?_,_,rfl,sameAll_textOf shown⟩
    simp [required_cons,readString_string,readTagged,readTexts_doc]
  | errorDialog w title message buttons =>
    obtain ⟨titled,told,labels⟩ := shown
    refine ⟨.errorDialog (textOf title) (message.map textOf) (buttons.map textOf),?_,_,_,_,rfl,same_textOf titled,
      sameOption_textOf told,sameAll_textOf labels⟩
    simp [required_cons,optional,defaulted_cons,readString_string,readOption_orNull,readTagged,readTexts_doc]
  | connectionStatusChanged prev status =>
    refine ⟨.connectionStatusChanged prev status,?_,rfl⟩
    simp [required_cons,readString_string,readTagged]

end Schema

section Delivery

variable {fromStr : List Char → Option Json}

theorem shown_of_matches {m : StreamMessage} {stamp : Stamp} {event : AgentEvent} (same : m.Matches stamp event) :
    m.Shown := by
  cases m with
  | snapshot windows =>
    obtain ⟨observed,-,all⟩ := same
    exact (List.forall₂_and_left _ _).mp (all.imp fun w o same =>
      ⟨⟨whole_of_same same.2.1,clean_of_same same.2.2.1⟩,trivial⟩) |>.1
  | windowOpened w =>
    obtain ⟨title,className,-,titled,named⟩ := same
    exact ⟨whole_of_same titled,clean_of_same named⟩
  | windowClosed w =>
    obtain ⟨title,-,titled⟩ := same
    exact whole_of_same titled
  | loginFormReady =>
    obtain ⟨label,mode,-,labelled,selected⟩ := same
    exact ⟨clean_of_sameOption labelled,clean_of_sameOption selected⟩
  | twofaPrompt =>
    obtain ⟨names,-,devices⟩ := same
    exact clean_of_sameAll devices
  | errorDialog =>
    obtain ⟨title,text,labels,-,titled,told,buttons⟩ := same
    exact ⟨clean_of_same titled,clean_of_sameOption told,clean_of_sameAll buttons⟩
  | connectionStatusChanged => trivial

theorem doc_object (m : StreamMessage) (stamp : Stamp) : ∃ members, m.doc stamp = .object members := by
  cases m <;> exact ⟨_,rfl⟩

/-- A message is read exactly when it has its titles and shows whole characters. -/
theorem delivered_iff (reads : ReadsDocuments fromStr) {m : StreamMessage} (fits : m.Fits) :
    Delivered fromStr m ↔ m.Shown := by
  constructor
  · intro delivered
    obtain ⟨-,event,-,same⟩ := delivered ⟨0,0⟩
    exact shown_of_matches same
  · intro shown stamp
    obtain ⟨members,object⟩ := doc_object m stamp
    have readable : Readable 127 (.object members) := object ▸ readable_doc fits stamp
    have read : fromStr (decoded (m.line stamp)) = some (m.doc stamp) := by
      rw [(arrives_line m stamp).whole,object,reads members readable]
    obtain ⟨event,known,same⟩ := readEvent_doc fits shown stamp
    have printed : '\n'.toNat ∉ m.line stamp := fun among => absurd (printed_line m stamp _ among) (by decide)
    exact ⟨printed,event,by rw [read,Option.bind_some,known],same⟩

theorem listed_of_whole (reads : ReadsDocuments fromStr) {windows : List AwtWindow}
    (whole : ∀ w ∈ windows, Whole (getWindowTitle w) ∧ Clean w.className) : Listed fromStr windows := by
  have showing : ∀ w ∈ windows.filter (·.showing), Whole (getWindowTitle w) ∧ Clean w.className := fun w among =>
    whole w (List.mem_of_mem_filter among)
  have each : ∀ w ∈ windows.filter (·.showing), readWindowInfo (listedDoc w) = some (inform w) := fun w among =>
    readWindowInfo_doc (showing w among).1.choose_spec.1
  refine ⟨(windows.filter (·.showing)).map inform,?_,
    List.forall₂_map_right_iff.mpr (List.forall₂_same.mpr fun w among => ?_)⟩
  · rw [windowsReply,(arrives_wrapOk (arrives_listWindows windows)).whole,replyDoc,
      reads _ (readable_reply (readable_list windows)),Option.bind_some]
    have null : readOption readString .null = some none := rfl
    have some_ : ∀ elements, readOption (readVec readWindowInfo) (.array elements) =
      (readVec readWindowInfo (.array elements)).map some := fun _ => rfl
    simp [readWindows,listDoc,required_cons,optional,defaulted_cons,readBool_bool,some_,readVec_map each,null]
  · obtain ⟨⟨t,titled,clean⟩,named⟩ := showing w among
    refine ⟨rfl,?_,same_textOf named⟩
    rw [inform,titled]
    exact same_textOf clean

end Delivery

section Blanks

theorem clean_iff {text : JavaText} : Clean text ↔ ∃ cs, text = javaString cs :=
  ⟨fun clean => ⟨decoded text,clean.symm⟩,fun ⟨cs,same⟩ => same ▸ clean_javaString cs⟩

/-- A text of whole characters is cut at a blank into texts of whole characters. -/
theorem cut_javaString {cs : List Char} {a b : JavaText} (same : javaString cs = a ++ 0x20 :: b) :
    Clean a ∧ Clean b := by
  induction cs generalizing a with
  | nil => exact absurd same (by simp)
  | cons c cs ih =>
    rw [javaString_cons] at same
    rcases List.append_eq_append_iff.mp same with ⟨more,rfl,rest⟩ | ⟨more,unit,rest⟩
    · obtain ⟨cleanA,cleanB⟩ := ih rest
      obtain ⟨ds,rfl⟩ := clean_iff.mp cleanA
      exact ⟨clean_iff.mpr ⟨c :: ds,rfl⟩,cleanB⟩
    · cases more with
      | nil =>
        rw [List.append_nil] at unit
        obtain ⟨-,cleanB⟩ := ih (a := []) rest.symm
        exact ⟨clean_iff.mpr ⟨[c],by rw [javaString_cons,javaString_nil,List.append_nil,unit]⟩,cleanB⟩
      | cons v more =>
        obtain ⟨rfl,rest⟩ := List.cons.inj rest
        -- The blank is a unit of this character, so it is the character.
        rcases units_cases c with only | ⟨-,-,-,far⟩
        · rw [only] at unit
          obtain ⟨rfl,unit⟩ := List.append_eq_singleton_iff.mp unit.symm |>.resolve_right (by simp)
          obtain ⟨-,rfl⟩ := List.cons.inj unit
          exact ⟨clean_javaString [],clean_iff.mpr ⟨cs,(List.cons.inj rest).2⟩⟩
        · have blank : 0x20 ∈ Json.units c := by
            rw [unit]
            exact List.mem_append_right _ List.mem_cons_self
          exact absurd (far _ blank) (by decide)

theorem clean_blank {a b : JavaText} : Clean (a ++ 0x20 :: b) ↔ Clean a ∧ Clean b := by
  constructor
  · intro clean
    obtain ⟨cs,same⟩ := clean_iff.mp clean
    exact cut_javaString same.symm
  · rintro ⟨cleanA,cleanB⟩
    obtain ⟨cs,rfl⟩ := clean_iff.mp cleanA
    obtain ⟨ds,rfl⟩ := clean_iff.mp cleanB
    exact clean_iff.mpr ⟨cs ++ ' ' :: ds,by rw [javaString_append]; rfl⟩

theorem clean_joinBlank {texts : List JavaText} (some_ : texts ≠ []) :
    Clean (joinBlank texts) ↔ ∀ t ∈ texts, Clean t := by
  have further (first : JavaText) (rest : List JavaText) :
      Clean (first ++ rest.flatMap fun text => ascii " " ++ text) ↔ ∀ t ∈ first :: rest, Clean t := by
    induction rest generalizing first with
    | nil => simp
    | cons second rest ih =>
      have shape : (first ++ (second :: rest).flatMap fun text => ascii " " ++ text) =
          first ++ 0x20 :: (second ++ rest.flatMap fun text => ascii " " ++ text) := rfl
      rw [shape,clean_blank,ih second]
      exact List.forall_mem_cons.symm
  cases texts with
  | nil => exact absurd rfl some_
  | cons first rest => exact further first rest

theorem mem_messagesOf {components : List Component} {t : JavaText} :
    t ∈ messagesOf components ↔ t ∈ labelsOf components := by
  have step (messages : List JavaText) : t ∈ components.foldl (fun messages component =>
      match component with
      | .label (some text) => if 3 < text.length ∧ text ∉ messages then messages ++ [text] else messages
      | _ => messages) messages ↔ t ∈ messages ∨ t ∈ labelsOf components := by
    induction components generalizing messages with
    | nil => simp [labelsOf]
    | cons component components ih =>
      rw [List.foldl_cons,ih]
      cases component with
      | label text =>
        cases text with
        | none => exact Iff.rfl
        | some text =>
          have labels : labelsOf (.label (some text) :: components) =
              if 3 < text.length then text :: labelsOf components else labelsOf components := by
            unfold labelsOf
            rw [List.filterMap_cons]
            dsimp only
            by_cases long : 3 < text.length
            · rw [if_pos long,if_pos long]
            · rw [if_neg long,if_neg long]
          rw [labels]
          dsimp only
          by_cases long : 3 < text.length
          · by_cases known : text ∈ messages
            · rw [if_neg fun both => both.2 known,if_pos long,List.mem_cons]
              constructor
              · exact Or.imp_right .inr
              · rintro (among | rfl | among)
                exacts [.inl among,.inl known,.inr among]
            · rw [if_pos ⟨long,known⟩,if_pos long,List.mem_append,List.mem_singleton,List.mem_cons,or_assoc]
          · rw [if_neg fun both => long both.1,if_neg long]
      | textField | passwordField | button | list | other => exact Iff.rfl
  exact (step []).trans (by simp)

end Blanks

section Semantic

variable {toLowerCase : JavaText → JavaText} {w : AwtWindow}

theorem shown_login : (∀ m ∈ emitLoginFormEvent toLowerCase w, m.Shown) ↔
    ∀ t ∈ (loginButtonLabel toLowerCase w.components).toList, Clean t := by
  unfold emitLoginFormEvent
  dsimp only
  by_cases nothing : w.components.count .textField = 0 ∧ w.components.count .passwordField = 0 ∧
      loginButtonLabel toLowerCase w.components = none
  · rw [if_pos nothing,nothing.2.2]
    simp
  · rw [if_neg nothing,List.forall_mem_singleton]
    simp [StreamMessage.Shown]

theorem shown_twofa : (∀ m ∈ emitTwofaEvent w, m.Shown) ↔ ∀ t ∈ itemsOf w.components, Clean t :=
  List.forall_mem_singleton

theorem shown_dialog {title : JavaText} (clean : Clean title) : (∀ m ∈ emitErrorDialogEvent w title, m.Shown) ↔
    ∀ t ∈ labelsOf w.components ++ buttonsOf w.components, Clean t := by
  have labels : (∀ t ∈ labelsOf w.components, Clean t) ↔ ∀ t ∈ messagesOf w.components, Clean t :=
    forall_congr' fun t => by rw [mem_messagesOf]
  rw [List.forall_mem_append,labels]
  unfold emitErrorDialogEvent
  dsimp only
  by_cases none_ : messagesOf w.components = []
  · by_cases silent : buttonsOf w.components = []
    · rw [if_pos ⟨none_,silent⟩,none_,silent]
      simp
    · rw [if_neg fun both => silent both.2,List.forall_mem_singleton,if_pos none_,none_]
      simp [StreamMessage.Shown,clean]
  · rw [if_neg fun both => none_ both.1,List.forall_mem_singleton,if_neg none_,← clean_joinBlank none_]
    simp [StreamMessage.Shown,clean]

/-- The semantic events show what the window shows. -/
theorem shown_semantic {title : JavaText} (clean : Clean title) :
    (∀ m ∈ emitSemanticEvents toLowerCase w title, m.Shown) ↔ ∀ t ∈ shownTexts toLowerCase w title, Clean t := by
  have guarded {α β : Type} {c : Prop} [Decidable c] {ms : List α} {ts : List β} {P : α → Prop} {Q : β → Prop}
      (same : (∀ m ∈ ms, P m) ↔ ∀ t ∈ ts, Q t) :
      (∀ m ∈ if c then ms else [], P m) ↔ ∀ t ∈ if c then ts else [], Q t := by
    by_cases holds : c
    · rw [if_pos holds,if_pos holds,same]
    · rw [if_neg holds,if_neg holds]
      simp
  unfold emitSemanticEvents shownTexts
  dsimp only
  rw [List.forall_mem_append,List.forall_mem_append,List.forall_mem_append,List.forall_mem_append,
    guarded shown_login,
    guarded shown_twofa,guarded (shown_dialog clean)]

theorem fits_semantic {title : JavaText} : ∀ m ∈ emitSemanticEvents toLowerCase w title, m.Fits := by
  have guarded {c : Prop} [Decidable c] {ms : List StreamMessage} (all : ∀ m ∈ ms, m.Fits) :
      ∀ m ∈ if c then ms else [], m.Fits := by
    by_cases holds : c
    · rw [if_pos holds]
      exact all
    · rw [if_neg holds]
      simp
  have count (component : Component) : w.components.count component < 2 ^ 31 :=
    Nat.lt_of_le_of_lt List.count_le_length w.components_lt
  have login : ∀ m ∈ emitLoginFormEvent toLowerCase w, m.Fits := by
    unfold emitLoginFormEvent
    dsimp only
    split
    · simp
    · exact List.forall_mem_singleton.mpr ⟨count _,count _⟩
  have dialog : ∀ m ∈ emitErrorDialogEvent w title, m.Fits := by
    unfold emitErrorDialogEvent
    dsimp only
    split
    · simp
    · exact List.forall_mem_singleton.mpr trivial
  unfold emitSemanticEvents
  dsimp only
  rw [List.forall_mem_append,List.forall_mem_append]
  exact ⟨⟨guarded login,guarded (List.forall_mem_singleton.mpr trivial)⟩,guarded dialog⟩

end Semantic

section Windows

variable {fromStr : List Char → Option Json} {toLowerCase : JavaText → JavaText}

/-- An opened window is read, with all that is told of it, exactly when it is presentable. -/
theorem opened_iff (reads : ReadsDocuments fromStr) (w : AwtWindow) :
    (emitWindowOpened toLowerCase w).throws = false ∧
      (∀ message ∈ (emitWindowOpened toLowerCase w).messages, Delivered fromStr message) ↔
    Presentable toLowerCase w := by
  unfold emitWindowOpened Presentable
  cases titled : getWindowTitle w with
  | none =>
    constructor
    · rintro ⟨⟨⟩,-⟩
    · rintro ⟨⟨t,⟨⟩,-⟩,-⟩
  | some title =>
    have whole : Whole (some title) ↔ Clean title :=
      ⟨fun ⟨t,same,clean⟩ => Option.some.inj same ▸ clean,fun clean => ⟨title,rfl,clean⟩⟩
    have first : Delivered fromStr (.windowOpened w) ↔ Clean title ∧ Clean w.className := by
      rw [@delivered_iff _ reads (.windowOpened w) trivial,StreamMessage.Shown,titled,whole]
    have further : (∀ m ∈ emitSemanticEvents toLowerCase w title, Delivered fromStr m) ↔
        ∀ m ∈ emitSemanticEvents toLowerCase w title, m.Shown :=
      forall₂_congr fun m among => delivered_iff reads (fits_semantic m among)
    rw [List.forall_mem_cons,first,further,whole]
    constructor
    · rintro ⟨-,⟨clean,named⟩,semantic⟩
      exact ⟨clean,named,fun t same => Option.some.inj same ▸ (shown_semantic clean).mp semantic⟩
    · rintro ⟨clean,named,shows⟩
      exact ⟨rfl,⟨clean,named⟩,(shown_semantic clean).mpr (shows title rfl)⟩

end Windows

/-- The login window of the Gateway, with quotes in its title. -/
def shownLogin : AwtWindow where
  identityHash := 7
  kind := .frame (ascii "IBKR Gateway \"LIVE\"")
  className := ascii "jclient.LoginFrame"
  bounds := ⟨0,-5,790,610⟩
  components := [.textField,.passwordField,.button true (some (ascii "Log In"))]
  components_lt := by decide
  showing := true

end Ibctl.Agent
