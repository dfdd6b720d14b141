import Ibctl.Agent.LineDocuments
import Ibctl.Agent.RequestReader

/-! The tree of components in a window of Swing, and the texts that `SwingInspector` writes about it: the
dump of all interactive components and the list of API clients. -/
namespace Ibctl.Swing
open JsonGrammar Agent

section Components

/-- A collection of Java, which counts its elements in an `int`. -/
abbrev Counted (α : Type) := { items : List α // items.length < 2 ^ 31 }

structure Button where
  className : JavaText
  simpleName : JavaText
  text : Option JavaText
  visible : Bool
  enabled : Bool
  selected : Bool
deriving DecidableEq, Repr

/-- A text field. The bounds are those in the window, and the accessible context has a name and a
description. -/
structure TextField where
  identity : Nat
  className : JavaText
  text : Option JavaText
  visible : Bool
  enabled : Bool
  editable : Bool
  columns : Int32
  focused : Bool
  name : Option JavaText
  toolTip : Option JavaText
  placeholder : Option JavaText
  accessible : Option (Option JavaText × Option JavaText)
  bounds : Rectangle
deriving DecidableEq, Repr

/-- A combo box. An item may be null. -/
structure ComboBox where
  className : JavaText
  selected : Option JavaText
  visible : Bool
  enabled : Bool
  items : List (Option JavaText)
deriving DecidableEq, Repr

/-- A tree, with the path of each row as it prints. -/
structure Tree where
  className : JavaText
  rows : Counted (Option JavaText)
deriving DecidableEq, Repr

structure Label where
  text : Option JavaText
  labelFor : Option Nat
  bounds : Rectangle
deriving DecidableEq, Repr

structure TabbedPane where
  selectedIndex : Int32
  titles : Counted (Option JavaText)
deriving DecidableEq, Repr

/-- What a component is. The classes do not extend each other; a password field is a text field. -/
inductive Part where
  | button (b : Button)
  | textField (f : TextField)
  | comboBox (c : ComboBox)
  | tree (t : Tree)
  | label (l : Label)
  | textArea (text : Option JavaText)
  | textPane (text : Option JavaText)
  | table (rows : List (List (Option JavaText)))
  | tabbedPane (p : TabbedPane)
  | other
deriving DecidableEq, Repr

namespace Part

def asButton : Part → Option Button
  | button b => some b
  | _ => none

def asTextField : Part → Option TextField
  | textField f => some f
  | _ => none

def asComboBox : Part → Option ComboBox
  | comboBox c => some c
  | _ => none

def asTree : Part → Option Tree
  | tree t => some t
  | _ => none

def asLabel : Part → Option Label
  | label l => some l
  | _ => none

def asTextArea : Part → Option (Option JavaText)
  | textArea text => some text
  | _ => none

def asTextPane : Part → Option (Option JavaText)
  | textPane text => some text
  | _ => none

def asTable : Part → Option (List (List (Option JavaText)))
  | table rows => some rows
  | _ => none

def asTabbedPane : Part → Option TabbedPane
  | tabbedPane p => some p
  | _ => none

end Part

/-- A component with those inside it. -/
inductive Component where
  | node (part : Part) (children : List Component)

variable {α : Type} (cast : Part → Option α)

mutual

/-- The components of a class, each before those inside it. -/
def collectComponents : List Component → List α
  | [] => []
  | c :: rest => collectComponent c ++ collectComponents rest

def collectComponent : Component → List α
  | .node part children => (cast part).toList ++ collectComponents children

end

/-- A window with the components in it. -/
structure Window where
  components : List Component
  few : (collectComponents some components).length < 2 ^ 31

namespace Window

def collect (w : Window) : List α := collectComponents cast w.components

end Window

end Components

section Metadata

/-- The middle of a rectangle, in the arithmetic of `int`. -/
def centerY (r : Rectangle) : Int32 := r.y + r.height / 2

def appendMetadata (target : JavaText) : Option JavaText → JavaText
  | none => target
  | some value =>
    if trim value = [] then target
    else if target = [] then trim value
    else target ++ ascii " " ++ trim value

/-- The label belongs to the field, or stands on its line to the left of its right edge. -/
def describes (field : TextField) (label : Label) : Bool :=
  label.labelFor = some field.identity ||
    (decide ((centerY label.bounds - centerY field.bounds).abs ≤ max 24 field.bounds.height) &&
      decide (label.bounds.x ≤ field.bounds.x + field.bounds.width))

def textFieldMetadata (field : TextField) (labels : List Label) : JavaText :=
  let own := [field.name,field.toolTip,field.placeholder] ++
    (field.accessible.map fun context => [context.1,context.2]).getD []
  let near := (labels.filter fun label => (label.text.any fun text => trim text ≠ []) && describes field label).map (·.text)
  trim ((own ++ near).foldl appendMetadata [])

end Metadata

section Dump

def buttonText (b : Button) : JavaText :=
  ascii "\x7b\"class\":" ++ jsonString (some b.className) ++ ascii ",\"text\":" ++ jsonString b.text ++
    ascii ",\"visible\":" ++ ofBool b.visible ++ ascii ",\"enabled\":" ++ ofBool b.enabled ++
    ascii ",\"selected\":" ++ ofBool b.selected ++ ascii ",\"type\":" ++ jsonString (some b.simpleName) ++ ascii "\x7d"

def fieldText (labels : List Label) (f : TextField × Nat) : JavaText :=
  ascii "\x7b\"index\":" ++ ofInt f.2 ++ ascii ",\"class\":" ++ jsonString (some f.1.className) ++
    ascii ",\"text\":" ++ jsonString f.1.text ++ ascii ",\"visible\":" ++ ofBool f.1.visible ++
    ascii ",\"enabled\":" ++ ofBool f.1.enabled ++ ascii ",\"editable\":" ++ ofBool f.1.editable ++
    ascii ",\"columns\":" ++ ofInt f.1.columns.toInt ++ ascii ",\"focused\":" ++ ofBool f.1.focused ++
    ascii ",\"metadata\":" ++ jsonString (some (textFieldMetadata f.1 labels)) ++ ascii "\x7d"

/-- Of a null the text is empty. -/
def shown (value : Option JavaText) : JavaText := value.getD []

def comboText (c : ComboBox × Nat) : JavaText :=
  ascii "\x7b\"index\":" ++ ofInt c.2 ++ ascii ",\"class\":" ++ jsonString (some c.1.className) ++
    ascii ",\"selected\":" ++ jsonString (some (shown c.1.selected)) ++ ascii ",\"visible\":" ++ ofBool c.1.visible ++
    ascii ",\"enabled\":" ++ ofBool c.1.enabled ++ ascii ",\"items\":[" ++
    textElements ((c.1.items.take 20).map shown) ++ ascii "]\x7d"

def treeText (t : Tree) : JavaText :=
  ascii "\x7b\"class\":" ++ jsonString (some t.className) ++ ascii ",\"rowCount\":" ++ ofInt t.rows.val.length ++
    ascii ",\"rows\":[" ++ textElements ((t.rows.val.take 50).map fun row => row.getD (ascii "null")) ++ ascii "]\x7d"

def rowText (row : List (Option JavaText)) : JavaText :=
  ascii "[" ++ textElements (row.map shown) ++ ascii "]"

def tableText (rows : List (List (Option JavaText))) : JavaText :=
  ascii "\x7b\"rows\":[" ++ separated ((rows.take 20).map rowText) ++ ascii "]\x7d"

/-- The texts that are not null and not empty. -/
def nonEmpty (texts : List (Option JavaText)) : List JavaText := texts.reduceOption.filter (· ≠ [])

variable (w : Window)

/-- The texts of the labels that the dump shows. -/
def labelTexts : List JavaText := nonEmpty ((w.collect Part.asLabel).map (·.text))

def dumpInteractiveComponents : JavaText :=
  ascii "\x7b\"buttons\":[" ++ separated ((w.collect Part.asButton).map buttonText) ++
    ascii "],\"textfields\":[" ++
    separated ((w.collect Part.asTextField).zipIdx.map (fieldText (w.collect Part.asLabel))) ++
    ascii "],\"comboboxes\":[" ++ separated ((w.collect Part.asComboBox).zipIdx.map comboText) ++
    ascii "],\"trees\":[" ++ separated ((w.collect Part.asTree).map treeText) ++
    ascii "],\"labels\":[" ++ textElements (labelTexts w) ++
    ascii "],\"textareas\":[" ++ textElements (nonEmpty (w.collect Part.asTextArea)) ++
    ascii "],\"textpanes\":[" ++ textElements (nonEmpty (w.collect Part.asTextPane)) ++
    ascii "],\"tables\":[" ++ separated ((w.collect Part.asTable).map tableText) ++ ascii "]\x7d"

end Dump

section Clients

-- `toLowerCase` is that of `String` in the locale of the JVM.
variable (toLowerCase : JavaText → JavaText)

/-- The text of the label right behind one that names the API client. -/
def apiClientRow : List (Option JavaText) → Option JavaText
  | text :: next :: rest =>
    if (text.any fun text => contains (toLowerCase text) "api client") && (next.any fun next => next ≠ []) then next
    else apiClientRow (next :: rest)
  | _ => none

/-- A tab: its index, its title and whether it is selected. -/
structure Tab where
  index : Nat
  title : JavaText
  selected : Bool
deriving DecidableEq, Repr

def tabsOf (p : TabbedPane) : List Tab :=
  p.titles.val.zipIdx.map fun title => ⟨title.2,shown title.1,p.selectedIndex.toInt = title.2⟩

def tabText (t : Tab) : JavaText :=
  ascii "\x7b\"index\":" ++ ofInt t.index ++ ascii ",\"title\":" ++ jsonString (some t.title) ++
    ascii ",\"selected\":" ++ ofBool t.selected ++ ascii "\x7d"

variable (w : Window)

/-- The tabs of all panes one after the other. -/
def tabs : List Tab := (w.collect Part.asTabbedPane).flatMap tabsOf

def listClients : JavaText :=
  ascii "\x7b\"api_client_row_status\":" ++
    jsonString (apiClientRow toLowerCase ((w.collect Part.asLabel).map (·.text))) ++
    ascii ",\"tabs\":[" ++ separated ((tabs w).map tabText) ++ ascii "]\x7d"

end Clients

section Documents

def buttonDoc (b : Button) : Json :=
  .object [("class",.string (textOf b.className)),("text",orNull (b.text.map textOf)),("visible",.bool b.visible),
    ("enabled",.bool b.enabled),("selected",.bool b.selected),("type",.string (textOf b.simpleName))]

def fieldDoc (labels : List Label) (f : TextField × Nat) : Json :=
  .object [("index",number f.2),("class",.string (textOf f.1.className)),("text",orNull (f.1.text.map textOf)),
    ("visible",.bool f.1.visible),("enabled",.bool f.1.enabled),("editable",.bool f.1.editable),
    ("columns",number f.1.columns.toInt),("focused",.bool f.1.focused),
    ("metadata",.string (textOf (textFieldMetadata f.1 labels)))]

def comboDoc (c : ComboBox × Nat) : Json :=
  .object [("index",number c.2),("class",.string (textOf c.1.className)),
    ("selected",.string (textOf (shown c.1.selected))),("visible",.bool c.1.visible),("enabled",.bool c.1.enabled),
    ("items",textsDoc ((c.1.items.take 20).map shown))]

def treeDoc (t : Tree) : Json :=
  .object [("class",.string (textOf t.className)),("rowCount",number t.rows.val.length),
    ("rows",textsDoc ((t.rows.val.take 50).map fun row => row.getD (ascii "null")))]

def rowDoc (row : List (Option JavaText)) : Json := textsDoc (row.map shown)

def tableDoc (rows : List (List (Option JavaText))) : Json := .object [("rows",.array ((rows.take 20).map rowDoc))]

def tabDoc (t : Tab) : Json :=
  .object [("index",number t.index),("title",.string (textOf t.title)),("selected",.bool t.selected)]

/-- The document of the dump. -/
def dumpDoc (w : Window) : Json :=
  .object [("buttons",.array ((w.collect Part.asButton).map buttonDoc)),
    ("textfields",.array ((w.collect Part.asTextField).zipIdx.map (fieldDoc (w.collect Part.asLabel)))),
    ("comboboxes",.array ((w.collect Part.asComboBox).zipIdx.map comboDoc)),
    ("trees",.array ((w.collect Part.asTree).map treeDoc)),("labels",textsDoc (labelTexts w)),
    ("textareas",textsDoc (nonEmpty (w.collect Part.asTextArea))),
    ("textpanes",textsDoc (nonEmpty (w.collect Part.asTextPane))),
    ("tables",.array ((w.collect Part.asTable).map tableDoc))]

/-- The document of the list of clients. -/
def clientsDoc (toLowerCase : JavaText → JavaText) (w : Window) : Json :=
  .object [("api_client_row_status",
      orNull ((apiClientRow toLowerCase ((w.collect Part.asLabel).map (·.text))).map textOf)),
    ("tabs",.array ((tabs w).map tabDoc))]

end Documents

section Arrival

theorem closeBrace : ascii "]\x7d" = ascii "]" ++ ascii "\x7d" := rfl

theorem arrives_button (b : Button) : Arrives (buttonText b) (document (buttonDoc b)) := by
  unfold buttonText
  simp only [List.append_assoc]
  exact object rfl (arrives_string _) (member rfl (arrives_jsonString _) (member rfl (arrives_ofBool _)
    (member rfl (arrives_ofBool _) (member rfl (arrives_ofBool _) (member rfl (arrives_string _) lastMember)))))

theorem arrives_field (labels : List Label) (f : TextField × Nat) :
    Arrives (fieldText labels f) (document (fieldDoc labels f)) := by
  unfold fieldText
  simp only [List.append_assoc]
  exact object rfl (arrives_ofInt _) (member rfl (arrives_string _) (member rfl (arrives_jsonString _)
    (member rfl (arrives_ofBool _) (member rfl (arrives_ofBool _) (member rfl (arrives_ofBool _)
      (member rfl (arrives_ofInt _) (member rfl (arrives_ofBool _) (member rfl (arrives_string _) lastMember))))))))

theorem arrives_combo (c : ComboBox × Nat) : Arrives (comboText c) (document (comboDoc c)) := by
  unfold comboText
  rw [closeBrace]
  simp only [List.append_assoc]
  exact object rfl (arrives_ofInt _) (member rfl (arrives_string _) (member rfl (arrives_string _)
    (member rfl (arrives_ofBool _) (member rfl (arrives_ofBool _)
      (arrayMember rfl (fun t _ => arrives_string t) lastMember)))))

theorem arrives_tree (t : Tree) : Arrives (treeText t) (document (treeDoc t)) := by
  unfold treeText
  rw [closeBrace]
  simp only [List.append_assoc]
  exact object rfl (arrives_string _) (member rfl (arrives_ofInt _)
    (arrayMember rfl (fun t _ => arrives_string t) lastMember))

theorem arrives_tab (t : Tab) : Arrives (tabText t) (document (tabDoc t)) := by
  unfold tabText
  simp only [List.append_assoc]
  exact object rfl (arrives_ofInt _) (member rfl (arrives_string _) (member rfl (arrives_ofBool _) lastMember))

variable {α : Type} {items : List α} {text : α → JavaText} {doc : α → Json}

/-- An array on its own. -/
theorem arrives_array (each : ∀ a ∈ items, Arrives (text a) (document (doc a))) :
    Arrives (ascii "[" ++ separated (items.map text) ++ ascii "]") (document (.array (items.map doc))) := by
  have bracket : Arrives (ascii "[") ['['] := arrives_spelled rfl rfl
  have nothing : Arrives [] [] := ⟨fun _ head => absurd head (by simp),rfl⟩
  have whole := bracket.append (arrives_separated each nothing)
  rw [document_array]
  simp only [List.append_assoc,List.append_nil,List.singleton_append] at whole ⊢
  exact whole

theorem arrives_row (row : List (Option JavaText)) : Arrives (rowText row) (document (rowDoc row)) :=
  arrives_array fun t _ => arrives_string t

/-- An object whose first member is an array. -/
theorem arrayObject {literal name : String} {rest : JavaText} {members : List (String × Json)}
    (spelled : ascii literal = javaString ('{' :: (quote name ++ [':','['])))
    (same : ∀ a ∈ items, Arrives (text a) (document (doc a))) (further : Arrives rest (documentMembers members)) :
    Arrives (ascii literal ++ (separated (items.map text) ++ (ascii "]" ++ rest)))
      (document (.object ((name,.array (items.map doc)) :: members))) := by
  have whole := (arrives_spelled spelled rfl).append (arrives_separated same further)
  rw [document,document_array]
  simp only [List.append_assoc,List.cons_append,List.nil_append] at whole ⊢
  exact whole

theorem arrives_table (rows : List (List (Option JavaText))) :
    Arrives (tableText rows) (document (tableDoc rows)) := by
  unfold tableText
  rw [closeBrace]
  simp only [List.append_assoc]
  exact arrayObject rfl (fun row _ => arrives_row row) lastMember

/-- The next array starts where the one before it ends. -/
theorem closeArray : ascii "],\"textfields\":[" = ascii "]" ++ ascii ",\"textfields\":[" ∧
    ascii "],\"comboboxes\":[" = ascii "]" ++ ascii ",\"comboboxes\":[" ∧
    ascii "],\"trees\":[" = ascii "]" ++ ascii ",\"trees\":[" ∧
    ascii "],\"labels\":[" = ascii "]" ++ ascii ",\"labels\":[" ∧
    ascii "],\"textareas\":[" = ascii "]" ++ ascii ",\"textareas\":[" ∧
    ascii "],\"textpanes\":[" = ascii "]" ++ ascii ",\"textpanes\":[" ∧
    ascii "],\"tables\":[" = ascii "]" ++ ascii ",\"tables\":[" := ⟨rfl,rfl,rfl,rfl,rfl,rfl,rfl⟩

variable (w : Window)

theorem arrives_dump : Arrives (dumpInteractiveComponents w) (document (dumpDoc w)) := by
  unfold dumpInteractiveComponents textElements
  simp only [closeArray,closeBrace,List.append_assoc]
  exact arrayObject rfl (fun b _ => arrives_button b) (arrayMember rfl (fun f _ => arrives_field _ f)
    (arrayMember rfl (fun c _ => arrives_combo c) (arrayMember rfl (fun t _ => arrives_tree t)
      (arrayMember rfl (fun t _ => arrives_string t) (arrayMember rfl (fun t _ => arrives_string t)
        (arrayMember rfl (fun t _ => arrives_string t) (arrayMember rfl (fun rows _ => arrives_table rows)
          lastMember)))))))

theorem arrives_clients (toLowerCase : JavaText → JavaText) :
    Arrives (listClients toLowerCase w) (document (clientsDoc toLowerCase w)) := by
  unfold listClients
  rw [closeBrace]
  simp only [List.append_assoc]
  exact object rfl (arrives_jsonString _) (arrayMember rfl (fun t _ => arrives_tab t) lastMember)

end Arrival

end Ibctl.Swing
