import Folio.Document.Json
import Folio.Proofs.Json.Members
import Folio.Proofs.Json.Written
/-!
# Reading a document back

A reader for the data form of documents, and the proof that it finds the document again. It takes the
format at its word: a node is told by its kind, a margin is four numbers from the left around to the
bottom, a mark that is not there is off, and a link, a style or an attribute that is not there is not
set.

Every record is read back member by member. What a record has under a name is known as soon as its
members have different names, also if some of them are left out.
-/

namespace Folio

open Json (required?_eq_some optional?_eq_some)

/-! ### Readers -/

def Margin.ofJson? : Json → Option Margin
  | .array [.double left, .double top, .double right, .double bottom] => some ⟨left, top, right, bottom⟩
  | _ => none

def Line.ofJson? (value : Json) : Option Line := do
  some {
    x1 := ← value.required? "x1" Json.double?
    y1 := ← value.required? "y1" Json.double?
    x2 := ← value.required? "x2" Json.double?
    y2 := ← value.required? "y2" Json.double? }

def StyleName.ofJson? (value : Json) : Option StyleName :=
  value.text?.bind StyleName.ofLabel?

def Decoration.ofJson? (value : Json) : Option Decoration :=
  value.text?.bind Decoration.ofLabel?

def Run.ofJson? (value : Json) : Option Run := do
  some {
    text := ← value.required? "text" Json.text?
    bold := ← value.mark? "bold"
    italic := ← value.mark? "italic"
    strikethrough := ← value.mark? "strikethrough"
    link := ← value.optional? "link" Json.text?
    style := ← value.optional? "style" StyleName.ofJson? }

def Node.ofJson? (value : Json) : Option Node := do
  let kind ← value.required? "kind" Json.text?
  let margin ← value.required? "margin" Margin.ofJson?
  if kind = "textBlock" then
    some (.textBlock
      (← value.required? "runs" (Json.list? Run.ofJson?))
      (← value.required? "style" StyleName.ofJson?)
      margin)
  else if kind = "listBlock" then
    some (.listBlock
      (← value.required? "ordered" Json.bool?)
      (← value.required? "items" (Json.list? (Json.list? Run.ofJson?)))
      margin)
  else if kind = "ruleBlock" then
    some (.ruleBlock
      (← value.required? "line" Line.ofJson?)
      (← value.required? "lineWidth" Json.double?)
      (← value.required? "color" Json.text?)
      margin)
  else none

def Style.ofJson? (value : Json) : Option Style := do
  some {
    font := ← value.optional? "font" Json.text?
    fontSize := ← value.optional? "fontSize" Json.double?
    lineHeight := ← value.optional? "lineHeight" Json.double?
    bold := ← value.required? "bold" Json.bool?
    italics := ← value.required? "italics" Json.bool?
    color := ← value.optional? "color" Json.text?
    background := ← value.optional? "background" Json.text?
    decoration := ← value.optional? "decoration" Decoration.ofJson?
    preserveLeadingSpaces := ← value.required? "preserveLeadingSpaces" Json.bool?
    margin := ← value.optional? "margin" Margin.ofJson? }

def StyleTable.ofJson? (value : Json) : Option StyleTable := do
  let entry (name : StyleName) := value.required? name.label Style.ofJson?
  some {
    header := ← entry .header
    subheader := ← entry .subheader
    h3 := ← entry .h3
    body := ← entry .body
    code := ← entry .code
    inlineCode := ← entry .inlineCode
    link := ← entry .link
    blockquote := ← entry .blockquote
    list := ← entry .list }

def Document.ofJson? (value : Json) : Option Document := do
  some {
    content := ← value.required? "content" (Json.list? Node.ofJson?)
    styles := ← value.required? "styles" StyleTable.ofJson?
    defaultFont := ← value.required? "defaultFont" Json.text? }

/-! ### Each record is read back -/

theorem mark?_eq_some {name : String} {value : Json} {on : Bool}
    (hmember : value.member? name = markMember on) : value.mark? name = some on := by
  rw [Json.mark?, Json.optional?, hmember]
  cases on <;> rfl

theorem Margin.ofJson?_toJson (margin : Margin) : Margin.ofJson? margin.toJson = some margin := rfl

theorem Line.ofJson?_toJson (line : Line) : Line.ofJson? line.toJson = some line := rfl

theorem StyleName.ofJson?_toJson (name : StyleName) : StyleName.ofJson? name.toJson = some name := by
  cases name <;> rfl

theorem Decoration.ofJson?_label (decoration : Decoration) :
    Decoration.ofJson? (.text decoration.label) = some decoration := by
  cases decoration <;> rfl

theorem Run.member?_toJson (run : Run) (name : String) : run.toJson.member? name =
    (List.lookup name [
      ("text", some (.text run.text)),
      ("bold", markMember run.bold),
      ("italic", markMember run.italic),
      ("strikethrough", markMember run.strikethrough),
      ("link", run.link.map .text),
      ("style", run.style.map StyleName.toJson)]).join :=
  Json.member?_present (by simp) name

theorem Run.ofJson?_toJson (run : Run) : Run.ofJson? run.toJson = some run := by
  have htext : run.toJson.required? "text" Json.text? = some run.text :=
    required?_eq_some (run.member?_toJson "text") rfl
  have hbold : run.toJson.mark? "bold" = some run.bold := mark?_eq_some (run.member?_toJson "bold")
  have hitalic : run.toJson.mark? "italic" = some run.italic := mark?_eq_some (run.member?_toJson "italic")
  have hstrikethrough : run.toJson.mark? "strikethrough" = some run.strikethrough :=
    mark?_eq_some (run.member?_toJson "strikethrough")
  have hlink : run.toJson.optional? "link" Json.text? = some run.link :=
    optional?_eq_some (run.member?_toJson "link") fun _ => rfl
  have hstyle : run.toJson.optional? "style" StyleName.ofJson? = some run.style :=
    optional?_eq_some (run.member?_toJson "style") StyleName.ofJson?_toJson
  rw [Run.ofJson?, htext, hbold, hitalic, hstrikethrough, hlink, hstyle]
  rfl

theorem Style.member?_toJson (style : Style) (name : String) : style.toJson.member? name =
    (List.lookup name [
      ("font", style.font.map .text),
      ("fontSize", style.fontSize.map .double),
      ("lineHeight", style.lineHeight.map .double),
      ("bold", some (.bool style.bold)),
      ("italics", some (.bool style.italics)),
      ("color", style.color.map .text),
      ("background", style.background.map .text),
      ("decoration", style.decoration.map fun d => .text d.label),
      ("preserveLeadingSpaces", some (.bool style.preserveLeadingSpaces)),
      ("margin", style.margin.map Margin.toJson)]).join :=
  Json.member?_present (by simp) name

theorem Style.ofJson?_toJson (style : Style) : Style.ofJson? style.toJson = some style := by
  have hfont : style.toJson.optional? "font" Json.text? = some style.font :=
    optional?_eq_some (style.member?_toJson "font") fun _ => rfl
  have hfontSize : style.toJson.optional? "fontSize" Json.double? = some style.fontSize :=
    optional?_eq_some (style.member?_toJson "fontSize") fun _ => rfl
  have hlineHeight : style.toJson.optional? "lineHeight" Json.double? = some style.lineHeight :=
    optional?_eq_some (style.member?_toJson "lineHeight") fun _ => rfl
  have hbold : style.toJson.required? "bold" Json.bool? = some style.bold :=
    required?_eq_some (style.member?_toJson "bold") rfl
  have hitalics : style.toJson.required? "italics" Json.bool? = some style.italics :=
    required?_eq_some (style.member?_toJson "italics") rfl
  have hcolor : style.toJson.optional? "color" Json.text? = some style.color :=
    optional?_eq_some (style.member?_toJson "color") fun _ => rfl
  have hbackground : style.toJson.optional? "background" Json.text? = some style.background :=
    optional?_eq_some (style.member?_toJson "background") fun _ => rfl
  have hdecoration : style.toJson.optional? "decoration" Decoration.ofJson? = some style.decoration :=
    optional?_eq_some (style.member?_toJson "decoration") Decoration.ofJson?_label
  have hspaces : style.toJson.required? "preserveLeadingSpaces" Json.bool? = some style.preserveLeadingSpaces :=
    required?_eq_some (style.member?_toJson "preserveLeadingSpaces") rfl
  have hmargin : style.toJson.optional? "margin" Margin.ofJson? = some style.margin :=
    optional?_eq_some (style.member?_toJson "margin") Margin.ofJson?_toJson
  rw [Style.ofJson?, hfont, hfontSize, hlineHeight, hbold, hitalics, hcolor, hbackground, hdecoration, hspaces,
    hmargin]
  rfl

theorem Node.ofJson?_toJson (node : Node) : Node.ofJson? node.toJson = some node := by
  cases node with
  | textBlock runs style margin =>
    have hkind : (textBlock runs style margin).toJson.required? "kind" Json.text? = some "textBlock" := rfl
    have hmargin : (textBlock runs style margin).toJson.required? "margin" Margin.ofJson? = some margin := rfl
    have hruns : (textBlock runs style margin).toJson.required? "runs" (Json.list? Run.ofJson?) = some runs :=
      required?_eq_some rfl (Json.list?_map Run.ofJson?_toJson runs)
    have hstyle : (textBlock runs style margin).toJson.required? "style" StyleName.ofJson? = some style :=
      required?_eq_some rfl style.ofJson?_toJson
    rw [Node.ofJson?, hkind, hmargin, hruns, hstyle]
    rfl
  | listBlock ordered items margin =>
    have hkind : (listBlock ordered items margin).toJson.required? "kind" Json.text? = some "listBlock" := rfl
    have hmargin : (listBlock ordered items margin).toJson.required? "margin" Margin.ofJson? = some margin := rfl
    have hordered : (listBlock ordered items margin).toJson.required? "ordered" Json.bool? = some ordered := rfl
    have hitems : (listBlock ordered items margin).toJson.required? "items"
        (Json.list? (Json.list? Run.ofJson?)) = some items :=
      required?_eq_some rfl (Json.list?_map (fun item => Json.list?_map Run.ofJson?_toJson item) items)
    rw [Node.ofJson?, hkind, hmargin, hordered, hitems]
    rfl
  | ruleBlock line lineWidth color margin => rfl

theorem StyleTable.ofJson?_toJson (table : StyleTable) : StyleTable.ofJson? table.toJson = some table := by
  have hentry : ∀ name : StyleName, table.toJson.required? name.label Style.ofJson? = some (table.get name) := by
    intro name
    have hmember : table.toJson.member? name.label = some (table.get name).toJson := by
      cases name <;> rfl
    exact required?_eq_some hmember (table.get name).ofJson?_toJson
  simp only [StyleTable.ofJson?, hentry]
  rfl

theorem Document.ofJson?_toJson (document : Document) : Document.ofJson? document.toJson = some document := by
  have hcontent : document.toJson.required? "content" (Json.list? Node.ofJson?) = some document.content :=
    required?_eq_some rfl (Json.list?_map Node.ofJson?_toJson document.content)
  have hstyles : document.toJson.required? "styles" StyleTable.ofJson? = some document.styles :=
    required?_eq_some rfl document.styles.ofJson?_toJson
  have hfont : document.toJson.required? "defaultFont" Json.text? = some document.defaultFont := rfl
  rw [Document.ofJson?, hcontent, hstyles, hfont]
  rfl

/-! ### Documents whose numbers can be written -/

def Margin.numbers (margin : Margin) : List Float :=
  [margin.left, margin.top, margin.right, margin.bottom]

def Line.numbers (line : Line) : List Float :=
  [line.x1, line.y1, line.x2, line.y2]

def Node.numbers : Node → List Float
  | .textBlock _ _ margin => margin.numbers
  | .listBlock _ _ margin => margin.numbers
  | .ruleBlock line lineWidth _ margin => line.numbers ++ lineWidth :: margin.numbers

def Style.numbers (style : Style) : List Float :=
  style.fontSize.toList ++ style.lineHeight.toList ++ style.margin.toList.flatMap Margin.numbers

def StyleTable.numbers (table : StyleTable) : List Float :=
  StyleName.all.flatMap fun name => (table.get name).numbers

/-- All numbers of a document, those of its style table included. -/
def Document.numbers (document : Document) : List Float :=
  document.content.flatMap Node.numbers ++ document.styles.numbers

open Decimal (IsFinite)

theorem written_map {α : Type} {write : α → Json} (hwrite : ∀ a, (write a).written = write a) (a : Option α) :
    ∀ value, a.map write = some value → value.written = value := by
  intro value hvalue
  obtain ⟨a, -, rfl⟩ := Option.map_eq_some_iff.mp hvalue
  exact hwrite a

theorem Margin.written_toJson {margin : Margin} (hfinite : ∀ x ∈ margin.numbers, IsFinite x) :
    margin.toJson.written = margin.toJson := by
  refine Json.written_array (List.forall_mem_map.mpr ?_ : ∀ item ∈ margin.numbers.map Json.double, _)
  exact fun x hx => Json.written_double (hfinite x hx)

theorem Line.written_toJson {line : Line} (hfinite : ∀ x ∈ line.numbers, IsFinite x) :
    line.toJson.written = line.toJson := by
  refine Json.written_object ?_
  simp only [Line.numbers, List.forall_mem_cons] at hfinite
  obtain ⟨hx1, hy1, hx2, hy2, -⟩ := hfinite
  simp [Json.written_double, hx1, hy1, hx2, hy2]

theorem written_markMember (on : Bool) : ∀ value, markMember on = some value → value.written = value := by
  intro value hvalue
  cases on with
  | false => cases hvalue
  | true =>
    obtain rfl := Option.some.inj hvalue
    rfl

theorem Run.written_toJson (run : Run) : run.toJson.written = run.toJson := by
  refine Json.written_present ?_
  simp only [List.forall_mem_cons]
  refine ⟨?_, written_markMember _, written_markMember _, written_markMember _, written_map (fun _ => rfl) _,
    written_map (fun _ => rfl) _, by simp⟩
  rintro value ⟨⟩
  rfl

theorem Run.written_list (runs : List Run) :
    (Json.array (runs.map Run.toJson)).written = .array (runs.map Run.toJson) :=
  Json.written_array (List.forall_mem_map.mpr fun run _ => run.written_toJson)

theorem Node.written_toJson {node : Node} (hfinite : ∀ x ∈ node.numbers, IsFinite x) :
    node.toJson.written = node.toJson := by
  cases node with
  | textBlock runs style margin =>
    refine Json.written_object ?_
    simp only [List.forall_mem_cons]
    exact ⟨rfl, Run.written_list runs, rfl, Margin.written_toJson hfinite, by simp⟩
  | listBlock ordered items margin =>
    refine Json.written_object ?_
    simp only [List.forall_mem_cons]
    refine ⟨rfl, rfl, ?_, Margin.written_toJson hfinite, by simp⟩
    exact Json.written_array (List.forall_mem_map.mpr fun item _ => Run.written_list item)
  | ruleBlock line lineWidth color margin =>
    rw [Node.numbers, List.forall_mem_append, List.forall_mem_cons] at hfinite
    obtain ⟨hline, hwidth, hmargin⟩ := hfinite
    refine Json.written_object ?_
    simp only [List.forall_mem_cons]
    exact ⟨rfl, Line.written_toJson hline, Json.written_double hwidth, rfl, Margin.written_toJson hmargin, by simp⟩

theorem Style.written_toJson {style : Style} (hfinite : ∀ x ∈ style.numbers, IsFinite x) :
    style.toJson.written = style.toJson := by
  rw [Style.numbers, List.forall_mem_append, List.forall_mem_append] at hfinite
  obtain ⟨⟨hsize, hheight⟩, hmargin⟩ := hfinite
  have hnumber : ∀ {number : Option Float}, (∀ x ∈ number.toList, IsFinite x) →
      ∀ value, number.map Json.double = some value → value.written = value := by
    intro number hnumber value hvalue
    obtain ⟨x, rfl, rfl⟩ := Option.map_eq_some_iff.mp hvalue
    exact Json.written_double (hnumber x (by simp))
  have hspace : ∀ value, style.margin.map Margin.toJson = some value → value.written = value := by
    intro value hvalue
    obtain ⟨margin, hmargin', rfl⟩ := Option.map_eq_some_iff.mp hvalue
    refine Margin.written_toJson fun x hx => hmargin x ?_
    exact List.mem_flatMap.mpr ⟨margin, by simp [hmargin'], hx⟩
  have hset : ∀ {member : Json}, member.written = member →
      ∀ value, some member = some value → value.written = value := by
    rintro member hmember value ⟨⟩
    exact hmember
  refine Json.written_present ?_
  simp only [List.forall_mem_cons]
  exact ⟨written_map (fun _ => rfl) _, hnumber hsize, hnumber hheight, hset rfl, hset rfl,
    written_map (fun _ => rfl) _, written_map (fun _ => rfl) _, written_map (fun _ => rfl) _, hset rfl, hspace,
    by simp⟩

theorem StyleTable.written_toJson {table : StyleTable} (hfinite : ∀ x ∈ table.numbers, IsFinite x) :
    table.toJson.written = table.toJson := by
  refine Json.written_object (List.forall_mem_map.mpr fun name hname => ?_)
  refine Style.written_toJson fun x hx => hfinite x ?_
  exact List.mem_flatMap.mpr ⟨name, hname, hx⟩

theorem Document.written_toJson {document : Document} (hfinite : ∀ x ∈ document.numbers, IsFinite x) :
    document.toJson.written = document.toJson := by
  rw [Document.numbers, List.forall_mem_append] at hfinite
  obtain ⟨hcontent, hstyles⟩ := hfinite
  refine Json.written_object ?_
  simp only [List.forall_mem_cons]
  refine ⟨Json.written_array (List.forall_mem_map.mpr fun node hnode => ?_),
    StyleTable.written_toJson hstyles, rfl, by simp⟩
  refine Node.written_toJson fun x hx => hcontent x ?_
  exact List.mem_flatMap.mpr ⟨node, hnode, hx⟩

/-- **The data form of a document loses nothing.** If all its numbers are finite, the value that is
written reads back as the same document: content, style table and default font. -/
theorem Document.ofJson?_written_toJson (document : Document) (hfinite : ∀ x ∈ document.numbers, IsFinite x) :
    Document.ofJson? document.toJson.written = some document := by
  rw [Document.written_toJson hfinite]
  exact document.ofJson?_toJson

/-- A link without a target beside a run without a link, a ruled line, and a style of its own. -/
theorem Document.ofJson?_written_toJson_emptyLink :
    let linked : Run := { text := "a", link := some "", style := some .link, strikethrough := true }
    let document : Document := {
      content := [
        .listBlock true [[linked, Run.plain ""], []] ⟨10, 5, 0, 10⟩,
        .ruleBlock ⟨0, 5, 515, 5⟩ 0.5 "#cccccc" ⟨0, 10, 0, 10⟩]
      styles := standardStyles.set .h3 { decoration := some .lineThrough, lineHeight := some 1.5 }
      defaultFont := "Serif" }
    (∀ x ∈ document.numbers, IsFinite x) ∧ Document.ofJson? document.toJson.written = some document := by
  intro linked document
  have hfinite : ∀ x ∈ document.numbers, IsFinite x := by decide
  exact ⟨hfinite, document.ofJson?_written_toJson hfinite⟩

/-- An infinite margin is written as `null`, and such a margin is not read. -/
example : Document.ofJson? (Document.toJson { content := [.listBlock false [] ⟨1 / 0, 0, 0, 0⟩] }).written = none := by
  decide

end Folio
