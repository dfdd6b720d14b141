import Ibctl.Agent.ComponentDump
import Ibctl.Agent.EventReading
import Ibctl.Lib.Neighbours

/-! What the supervisor sees of a window through the agent. The replies about any tree of components are
read whole, and the tests on them say of the reply what holds of the tree. -/
namespace Ibctl.Swing
open JsonGrammar Agent Neighbours
open Machine (apiServerRowStatus statusAfterApiServer componentsHaveLoginForm componentsIndicateConnected
  componentsIndicateDisconnected nonEmptyArray)
open Text (containsText toLowercase splitWhitespace parseUnsigned)

section Trees

/-- The part stands somewhere in the tree. -/
inductive Inside (part : Part) : List Component → Prop where
  | here (children rest : List Component) : Inside part (.node part children :: rest)
  | within {top : Part} {children : List Component} (rest : List Component) (inside : Inside part children) :
    Inside part (.node top children :: rest)
  | beside (c : Component) {rest : List Component} (inside : Inside part rest) : Inside part (c :: rest)

variable {α : Type} (cast : Part → Option α)

theorem collectComponents_node (part : Part) (children rest : List Component) :
    collectComponents cast (.node part children :: rest) =
      (cast part).toList ++ collectComponents cast children ++ collectComponents cast rest := by
  rw [collectComponents,collectComponent]

mutual

/-- The parts of a class are collected from the parts of all. -/
theorem collectComponents_cast : (cs : List Component) →
    collectComponents cast cs = (collectComponents some cs).filterMap cast
  | [] => rfl
  | c :: rest => by
    rw [collectComponents,collectComponents,collectComponent_cast c,collectComponents_cast rest,
      List.filterMap_append]

theorem collectComponent_cast : (c : Component) →
    collectComponent cast c = (collectComponent some c).filterMap cast
  | .node part children => by
    rw [collectComponent,collectComponent,collectComponents_cast children,List.filterMap_append]
    cases found : cast part with
    | none =>
      rw [Option.toList_none,Option.toList_some,List.filterMap_cons_none found]
      rfl
    | some a =>
      rw [Option.toList_some,Option.toList_some,List.filterMap_cons_some found]
      rfl

end

mutual

theorem inside_of_collected {part : Part} : (cs : List Component) → part ∈ collectComponents some cs → Inside part cs
  | [],among => absurd among (by rw [collectComponents]; exact List.not_mem_nil)
  | c :: rest,among => by
    rw [collectComponents,List.mem_append] at among
    rcases among with first | further
    · exact inside_of_collected_node c rest first
    · exact .beside c (inside_of_collected rest further)

theorem inside_of_collected_node {part : Part} : (c : Component) → (rest : List Component) →
    part ∈ collectComponent some c → Inside part (c :: rest)
  | .node top children,rest,among => by
    rw [collectComponent,Option.toList_some,List.singleton_append,List.mem_cons] at among
    rcases among with rfl | deeper
    · exact .here children rest
    · exact .within rest (inside_of_collected children deeper)

end

theorem collected_of_inside {part : Part} {cs : List Component} (inside : Inside part cs) :
    part ∈ collectComponents some cs := by
  induction inside with
  | here children rest =>
    rw [collectComponents_node]
    exact List.mem_append_left _ (List.mem_append_left _ List.mem_cons_self)
  | within rest inside ih =>
    rw [collectComponents_node]
    exact List.mem_append_left _ (List.mem_append_right _ ih)
  | beside c inside ih =>
    rw [collectComponents]
    exact List.mem_append_right _ ih

variable {cast}

theorem mem_collect {w : Window} {a : α} :
    a ∈ w.collect cast ↔ ∃ part, Inside part w.components ∧ cast part = some a := by
  rw [Window.collect,collectComponents_cast,List.mem_filterMap]
  exact ⟨fun ⟨part,among,same⟩ => ⟨part,inside_of_collected _ among,same⟩,
    fun ⟨part,inside,same⟩ => ⟨part,collected_of_inside inside,same⟩⟩

theorem collect_few (w : Window) : (w.collect cast).length < 2 ^ 31 := by
  rw [Window.collect,collectComponents_cast]
  exact Nat.lt_of_le_of_lt (List.length_filterMap_le _ _) w.few

end Trees

section Limits

variable {depth : Nat}

theorem index_lt {α : Type} {items : List α} (few : items.length < 2 ^ 31) {item : α × Nat}
    (among : item ∈ items.zipIdx) : item.2 < 2 ^ 63 := by
  have below := (List.mem_zipIdx among).2.1
  omega

theorem readable_button (b : Button) : Readable (depth + 1) (buttonDoc b) := by
  refine readable_object rfl ?_
  simp only [List.forall_mem_cons,readable_string,readable_bool,readable_orNull,true_and,List.not_mem_nil,
    false_implies,
    implies_true]

theorem readable_field (labels : List Label) {f : TextField × Nat} (small : f.2 < 2 ^ 63) :
    Readable (depth + 1) (fieldDoc labels f) := by
  refine readable_object rfl ?_
  have index : ∀ depth, Readable depth (number f.2) := fun _ => readable_unsigned small
  simp only [List.forall_mem_cons,index,readable_string,readable_bool,readable_orNull,readable_int,true_and,
    List.not_mem_nil,false_implies,implies_true]

theorem readable_combo {c : ComboBox × Nat} (small : c.2 < 2 ^ 63) : Readable (depth + 2) (comboDoc c) := by
  refine readable_object rfl ?_
  have index : ∀ depth, Readable depth (number c.2) := fun _ => readable_unsigned small
  simp only [List.forall_mem_cons,index,readable_string,readable_bool,readable_texts,true_and,List.not_mem_nil,
    false_implies,implies_true]

theorem readable_tree (t : Tree) : Readable (depth + 2) (treeDoc t) := by
  refine readable_object rfl ?_
  have count : ∀ depth, Readable depth (number t.rows.val.length) := fun _ =>
    readable_unsigned (Nat.lt_trans t.rows.property (by decide))
  simp only [List.forall_mem_cons,count,readable_string,readable_texts,true_and,List.not_mem_nil,false_implies,
    implies_true]

theorem readable_table (rows : List (List (Option JavaText))) : Readable (depth + 3) (tableDoc rows) :=
  readable_object rfl (List.forall_mem_singleton.mpr (readable_array fun row _ => readable_texts (row.map shown)))

theorem readable_tab {t : Tab} (small : t.index < 2 ^ 63) : Readable (depth + 1) (tabDoc t) := by
  refine readable_object rfl ?_
  have index : ∀ depth, Readable depth (number t.index) := fun _ => readable_unsigned small
  simp only [List.forall_mem_cons,index,readable_string,readable_bool,true_and,List.not_mem_nil,
    false_implies,implies_true]

variable (w : Window)

theorem readable_dump : Readable (depth + 5) (dumpDoc w) := by
  have fields : Readable (depth + 4) (.array ((w.collect Part.asTextField).zipIdx.map (fieldDoc (w.collect Part.asLabel)))) :=
    readable_array fun f among => readable_field _ (index_lt (collect_few w) among)
  have combos : Readable (depth + 4) (.array ((w.collect Part.asComboBox).zipIdx.map comboDoc)) :=
    readable_array fun c among => readable_combo (index_lt (collect_few w) among)
  have buttons : Readable (depth + 4) (.array ((w.collect Part.asButton).map buttonDoc)) :=
    readable_array fun b _ => readable_button b
  have trees : Readable (depth + 4) (.array ((w.collect Part.asTree).map treeDoc)) :=
    readable_array fun t _ => readable_tree t
  have tables : Readable (depth + 4) (.array ((w.collect Part.asTable).map tableDoc)) :=
    readable_array fun rows _ => readable_table rows
  refine readable_object rfl ?_
  simp only [List.forall_mem_cons,fields,combos,buttons,trees,tables,readable_texts,true_and,List.not_mem_nil,
    false_implies,implies_true]

theorem tab_index {t : Tab} (among : t ∈ tabs w) : t.index < 2 ^ 63 := by
  obtain ⟨pane,-,found⟩ := List.mem_flatMap.mp among
  obtain ⟨title,known,rfl⟩ := List.mem_map.mp found
  exact index_lt pane.titles.property known

theorem readable_clients (toLowerCase : JavaText → JavaText) : Readable (depth + 3) (clientsDoc toLowerCase w) := by
  have list : Readable (depth + 2) (.array ((tabs w).map tabDoc)) :=
    readable_array fun t among => readable_tab (tab_index w among)
  refine readable_object rfl ?_
  simp only [List.forall_mem_cons,readable_orNull,list,true_and,List.not_mem_nil,false_implies,implies_true]

end Limits

section Replies

/-- The data of the envelope when it says so, none for any error. A null is no data. -/
def readData (doc : Json) : Option Json := do
  let ok ← required readBool "ok" doc
  let data ← optional some "data" doc
  let _ ← optional readString "error" doc
  if ok then data else none

variable (fromStr : List Char → Option Json)

/-- What the client has of a reply with this data. -/
def replied (data : JavaText) : Option Json := (fromStr (decoded (wrapOk data))).bind readData

variable {fromStr}

theorem replied_doc (reads : ReadsDocuments fromStr) {data : JavaText} {members : List (String × Json)}
    (arrives : Arrives data (document (.object members))) (readable : Readable 126 (.object members)) :
    replied fromStr data = some (.object members) := by
  rw [replied,(arrives_wrapOk arrives).whole,replyDoc,reads _ (readable_reply readable),Option.bind_some]
  have null : readOption readString .null = some none := rfl
  have solid : readOption some (.object members) = some (some (.object members)) := rfl
  simp [readData,required_cons,Agent.optional,defaulted_cons,readBool_bool,null,solid]

end Replies

section Tests

def namesServer (purpose _ : String) : Bool := containsText purpose "api server"

/-- The label behind the first one that names the API server has this text, all in lower case. -/
def RowSays (w : Window) (status : String) : Prop :=
  ∃ purpose, First namesServer ((labelTexts w).map fun text => toLowercase (textOf text)) purpose status

theorem statusAfterApiServer_pair (labels : List String) :
    statusAfterApiServer labels = (firstPair namesServer labels).map Prod.snd := by
  induction labels using Machine.statusAfterApiServer.induct with
  | case1 => rfl
  | case2 text => rfl
  | case3 text next rest names => rw [statusAfterApiServer,firstPair,namesServer,if_pos names,if_pos names,
    Option.map_some]
  | case4 text next rest silent ih => rw [statusAfterApiServer,firstPair,namesServer,if_neg silent,if_neg silent,ih]

variable (w : Window)

theorem apiServerRowStatus_dump (status : String) :
    apiServerRowStatus (dumpDoc w) = some status ↔ RowSays w status := by
  have texts : (Json.get "labels" (dumpDoc w)).bind Json.asArray =
      some ((labelTexts w).map fun text => .string (textOf text)) := by
    simp [dumpDoc,get_cons,textsDoc,Json.asArray]
  have strings : (((labelTexts w).map fun text => Json.string (textOf text)).filterMap Json.asStr).map toLowercase =
      (labelTexts w).map fun text => toLowercase (textOf text) := by
    rw [List.filterMap_map]
    simp [Function.comp_def,Json.asStr]
  rw [apiServerRowStatus,texts,Option.bind_some,strings,statusAfterApiServer_pair,Option.map_eq_some_iff,RowSays]
  constructor
  · rintro ⟨⟨purpose,next⟩,found,rfl⟩
    exact ⟨purpose,(firstPair_iff _).mp found⟩
  · rintro ⟨purpose,first⟩
    exact ⟨(purpose,status),(firstPair_iff _).mpr first,rfl⟩

theorem loginForm_dump : componentsHaveLoginForm (dumpDoc w) = true ↔ ∃ f, Inside (.textField f) w.components := by
  have fields : (Json.get "textfields" (dumpDoc w)).bind Json.asArray =
      some ((w.collect Part.asTextField).zipIdx.map (fieldDoc (w.collect Part.asLabel))) := by
    simp [dumpDoc,get_cons,Json.asArray]
  have found : w.collect Part.asTextField ≠ [] ↔ ∃ f, Inside (.textField f) w.components := by
    constructor
    · intro filled
      obtain ⟨f,among⟩ := List.exists_mem_of_ne_nil _ filled
      obtain ⟨part,inside,same⟩ := mem_collect.mp among
      cases part with
      | textField g => exact ⟨g,inside⟩
      | button | comboBox | tree | label | textArea | textPane | table | tabbedPane | other => cases same
    · rintro ⟨f,inside⟩
      exact List.ne_nil_of_mem (mem_collect.mpr ⟨_,inside,rfl⟩)
  rw [componentsHaveLoginForm,nonEmptyArray,fields,← found]
  simp

/-- What the tests on a dump say is so in the window. -/
structure Told (w : Window) (components : Json) : Prop where
  loginForm : componentsHaveLoginForm components = true ↔ ∃ f, Inside (.textField f) w.components
  connected : componentsIndicateConnected components = true ↔ RowSays w "connected"
  disconnected : componentsIndicateDisconnected components = true ↔ RowSays w "disconnected"

variable {fromStr : List Char → Option Json}

/-- The client reads the dump of any tree, and its tests see the text fields and the row of the API server that
are in the tree. -/
theorem dump_told (reads : ReadsDocuments fromStr) :
    ∃ components, replied fromStr (dumpInteractiveComponents w) = some components ∧ Told w components := by
  refine ⟨dumpDoc w,replied_doc reads (arrives_dump w) (readable_dump w),loginForm_dump w,?_,?_⟩
  · rw [componentsIndicateConnected,decide_eq_true_iff,apiServerRowStatus_dump]
  · rw [componentsIndicateDisconnected,decide_eq_true_iff,apiServerRowStatus_dump]

end Tests

section Clients

/-- The clients that are connected, out of the tabs. -/
def deriveClientIds (view : Json) (max : Nat) : List String :=
  let status := ((view.get "api_client_row_status").bind Json.asStr).getD ""
  let tokens := splitWhitespace (toLowercase status).toList
  match tokens.findIdx? (· = "connected".toList) with
  | none => []
  | some connectedIdx =>
    let countHint := if 0 < connectedIdx then (tokens[connectedIdx - 1]?).bind (parseUnsigned 64) else none
    match (view.get "tabs").bind Json.asArray with
    | none => []
    | some tabs =>
      let target := min (countHint.getD tabs.length) max
      if target = 0 then [] else (tabs.take target).filterMap fun tab => (tab.get "title").bind Json.asStr

variable (toLowerCase : JavaText → JavaText) (w : Window)

def namesClient (text next : Option JavaText) : Bool :=
  (text.any fun text => contains (toLowerCase text) "api client") && next.any fun next => next ≠ []

/-- The label right behind the first one that names the API client and is not followed by an empty one. -/
def ClientRow (status : JavaText) : Prop :=
  ∃ purpose, First (namesClient toLowerCase) ((w.collect Part.asLabel).map (·.text)) purpose (some status)

def words (status : JavaText) : List (List Char) := splitWhitespace (toLowercase (textOf status)).toList

def titles : List String := (tabs w).map fun t => textOf t.title

/-- Whom the list of clients names. -/
structure Named (view : Json) (max : Nat) : Prop where
  absent : (∀ status, ¬ ClientRow toLowerCase w status) → deriveClientIds view max = []
  silent : ∀ status, ClientRow toLowerCase w status → "connected".toList ∉ words status →
    deriveClientIds view max = []
  counted : ∀ status before after, ClientRow toLowerCase w status → words status =
    before ++ "connected".toList :: after →
    "connected".toList ∉ before → deriveClientIds view max =
      (titles w).take (min ((before.getLast?.bind (parseUnsigned 64)).getD (titles w).length) max)

theorem apiClientRow_pair (labels : List (Option JavaText)) :
    apiClientRow toLowerCase labels = (firstPair (namesClient toLowerCase) labels).bind Prod.snd := by
  induction labels with
  | nil => rfl
  | cons text rest ih =>
    cases rest with
    | nil => rfl
    | cons next rest =>
      rw [apiClientRow,firstPair]
      unfold namesClient at ih ⊢
      split
      · rfl
      · exact ih

theorem clientRow_iff (status : JavaText) :
    apiClientRow toLowerCase ((w.collect Part.asLabel).map (·.text)) = some status ↔
      ClientRow toLowerCase w status := by
  rw [apiClientRow_pair,Option.bind_eq_some_iff,ClientRow]
  constructor
  · rintro ⟨⟨purpose,next⟩,found,rfl⟩
    exact ⟨purpose,(firstPair_iff _).mp found⟩
  · rintro ⟨purpose,first⟩
    exact ⟨(purpose,some status),(firstPair_iff _).mpr first,rfl⟩

variable {toLowerCase w}

theorem titles_doc (n : Nat) : (((tabs w).map tabDoc).take n).filterMap (fun tab => (tab.get "title").bind Json.asStr) =
    (titles w).take n := by
  have each : ∀ t : Tab, (Json.get "title" (tabDoc t)).bind Json.asStr = some (textOf t.title) := fun t => by
    simp [tabDoc,get_cons,Json.asStr]
  rw [← List.map_take,List.filterMap_map,titles,← List.map_take]
  simp [each]

variable {view : Json} {max : Nat} {status : String}

theorem deriveClientIds_silent (said : ((view.get "api_client_row_status").bind Json.asStr).getD "" = status)
    (silent : "connected".toList ∉ splitWhitespace (toLowercase status).toList) : deriveClientIds view max = [] := by
  have unfound : (splitWhitespace (toLowercase status).toList).findIdx? (· = "connected".toList) = none := by
    rw [List.findIdx?_eq_none_iff]
    intro word among
    exact decide_eq_false (ne_of_mem_of_not_mem among silent)
  rw [deriveClientIds,said,unfound]

/-- The word before the first that says connected counts the tabs, if it is a number. -/
theorem deriveClientIds_counted {entries : List Json} {before after : List (List Char)}
    (said : ((view.get "api_client_row_status").bind Json.asStr).getD "" = status)
    (listed : (view.get "tabs").bind Json.asArray = some entries)
    (split : splitWhitespace (toLowercase status).toList = before ++ "connected".toList :: after)
    (first : "connected".toList ∉ before) : deriveClientIds view max =
      (entries.take (min ((before.getLast?.bind (parseUnsigned 64)).getD entries.length) max)).filterMap
        fun tab => (tab.get "title").bind Json.asStr := by
  have found : (before ++ "connected".toList :: after).findIdx? (· = "connected".toList) = some before.length := by
    have none_ : before.findIdx? (· = "connected".toList) = none := by
      rw [List.findIdx?_eq_none_iff]
      intro word among
      exact decide_eq_false (ne_of_mem_of_not_mem among first)
    rw [List.findIdx?_append,none_,List.findIdx?_cons]
    simp
  have hint : (if 0 < before.length then
      ((before ++ "connected".toList :: after)[before.length - 1]?).bind (parseUnsigned 64) else none) =
      before.getLast?.bind (parseUnsigned 64) := by
    cases before using List.reverseRecOn with
    | nil => rfl
    | append_singleton before word => simp
  rw [deriveClientIds,said,split,found]
  dsimp only
  rw [hint,listed]
  dsimp only
  split
  · rename_i nobody
    rw [nobody,List.take_zero,List.filterMap_nil]
  · rfl

theorem status_doc {row : Option JavaText}
    (found : apiClientRow toLowerCase ((w.collect Part.asLabel).map (·.text)) = row) :
    ((Json.get "api_client_row_status" (clientsDoc toLowerCase w)).bind Json.asStr).getD "" =
      textOf (row.getD []) := by
  rw [clientsDoc,get_cons,if_pos rfl,found]
  cases row with
  | none => rfl
  | some status => rfl

theorem tabs_doc : (Json.get "tabs" (clientsDoc toLowerCase w)).bind Json.asArray = some ((tabs w).map tabDoc) := by
  simp [clientsDoc,get_cons,Json.asArray]

variable {fromStr : List Char → Option Json}

/-- The client reads the list of clients about any tree. It names nobody unless the row says connected; then it
names as many tabs as the word before says, or all, in their order and up to the limit. -/
theorem clients_named (reads : ReadsDocuments fromStr) (toLowerCase : JavaText → JavaText) (w : Window) (max : Nat) :
    ∃ view, replied fromStr (listClients toLowerCase w) = some view ∧ Named toLowerCase w view max := by
  refine ⟨clientsDoc toLowerCase w,replied_doc reads (arrives_clients w toLowerCase)
    (readable_clients w toLowerCase),?_,?_,?_⟩
  · intro absent
    have none_ : apiClientRow toLowerCase ((w.collect Part.asLabel).map (·.text)) = none :=
      Option.eq_none_iff_forall_not_mem.mpr fun status found => absent status ((clientRow_iff toLowerCase w status).mp found)
    have wordless : "connected".toList ∉ splitWhitespace (toLowercase (textOf [])).toList := by decide
    exact deriveClientIds_silent (status_doc none_) wordless
  · intro status row silent
    exact deriveClientIds_silent (status_doc ((clientRow_iff toLowerCase w status).mpr row)) silent
  · intro status before after row split first
    have count : ((tabs w).map tabDoc).length = (titles w).length := by
      rw [titles,List.length_map,List.length_map]
    rw [deriveClientIds_counted (status_doc ((clientRow_iff toLowerCase w status).mpr row)) tabs_doc split first,
      titles_doc,count]

end Clients

section Example

def rowLabel (text : String) : Component := .node (.label ⟨some (ascii text),none,⟨0,0,90,16⟩⟩) []

/-- The main window with its rows, and tabs for three clients. -/
def statusWindow : Window where
  components := [.node .other [rowLabel "API Server",rowLabel "connected",rowLabel "API Client",
    rowLabel "2 connected"],
    .node (.tabbedPane ⟨0,[some (ascii "Client 1"),some (ascii "Client 2"),none],by decide⟩) []]
  few := by decide

theorem statusWindow_told : ∃ components, replied Json.loads (dumpInteractiveComponents statusWindow) =
    some components ∧
    componentsIndicateConnected components = true := by
  obtain ⟨components,known,told⟩ := dump_told statusWindow loads_reads
  have row : RowSays statusWindow "connected" :=
    ⟨"api server",[],["api client","2 connected"],by decide +kernel,by decide +kernel,List.isChain_singleton _⟩
  exact ⟨components,known,told.connected.mpr row⟩

theorem statusWindow_named : ∃ view, replied Json.loads (listClients Agent.toLowerCase statusWindow) = some view ∧
    deriveClientIds view 256 = ["Client 1","Client 2"] := by
  obtain ⟨view,known,named⟩ := clients_named loads_reads Agent.toLowerCase statusWindow 256
  have row : ClientRow Agent.toLowerCase statusWindow (ascii "2 connected") :=
    ⟨some (ascii "API Client"),[some (ascii "API Server"),some (ascii "connected")],[],by decide +kernel,
      by decide +kernel,
      by decide +kernel⟩
  exact ⟨view,known,(named.counted _ [['2']] [] row (by decide +kernel) (by decide)).trans (by decide +kernel)⟩

end Example

end Ibctl.Swing
