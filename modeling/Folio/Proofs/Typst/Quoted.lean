import Folio.Proofs.Typst.Layers
import Folio.Proofs.Typst.Scan
/-!
# What a document quotes

The literals of the markup are listed here by what they say: the texts of a document and the few fixed
words of the code, in the order in which they stand in the markup. The list is read off the document, and
each emitting function is shown to quote what is listed for it.
-/

namespace Folio

/-- A colour is quoted where the markup has no name for it. -/
def quotedColor (text : String) : List String :=
  if text = "grey" || text = "gray" || Typst.namedColors.contains text then [] else [text]

namespace Typst

def TextArguments.quoted (arguments : TextArguments) : List String :=
  arguments.font.toList ++ (if arguments.bold then ["bold"] else []) ++
    (if arguments.italic then ["italic"] else []) ++ arguments.fill.toList.flatMap quotedColor

end Typst

/-- From the outermost call inwards. -/
def Run.quoted (styles : StyleTable) (run : Run) : List String :=
  let style := run.style.map styles.get
  run.target.toList ++ (style.bind Style.background).toList.flatMap quotedColor ++
    (Typst.runArguments style run).quoted ++ [run.text]

def Style.quoted (style : Style) : List String :=
  (Typst.TextArguments.ofStyle style).quoted

def Node.quoted (styles : StyleTable) : Node → List String
  | textBlock runs style _ => (styles.get style).quoted ++ runs.flatMap (Run.quoted styles)
  | listBlock _ items _ =>
    styles.list.quoted ++ items.flatMap fun runs => runs.flatMap (Run.quoted styles)
  | ruleBlock _ _ color _ => quotedColor color

/-- Every text, link target, font name, unnamed colour and fixed word of the markup, in order. -/
def Document.quoted (document : Document) : List String :=
  "a4" :: document.defaultFont :: Typst.fallbackFonts ++
    document.content.flatMap (Node.quoted document.styles)

namespace Typst

variable {s t : List Piece}

/-! ### The literals among the pieces -/

@[simp]
theorem literalTexts_nil : literalTexts [] = [] :=
  rfl

@[simp]
theorem literalTexts_code (text : String) : literalTexts (.code text :: t) = literalTexts t :=
  rfl

@[simp]
theorem literalTexts_points (x : Float) : literalTexts (points x :: t) = literalTexts t :=
  rfl

@[simp]
theorem literalTexts_append : literalTexts (s ++ t) = literalTexts s ++ literalTexts t :=
  List.filterMap_append

theorem literalTexts_flatMap {α : Type} (write : α → List Piece) (xs : List α) :
    literalTexts (xs.flatMap write) = xs.flatMap fun x => literalTexts (write x) := by
  induction xs with
  | nil => rfl
  | cons x xs ih => rw [List.flatMap_cons, literalTexts_append, ih, List.flatMap_cons]

@[simp]
theorem literalTexts_color (text : String) : literalTexts (color text) = quotedColor text := by
  rw [color, quotedColor]
  split
  · next hgrey => rw [hgrey, Bool.true_or, if_pos rfl, literalTexts_code, literalTexts_nil]
  · next hgrey =>
    rw [Bool.not_eq_true] at hgrey
    rw [hgrey, Bool.false_or]
    split <;> rfl

@[simp]
theorem literalTexts_padding (margin : Margin) : literalTexts (padding margin) = [] :=
  rfl

theorem literalTexts_commaSeparated (items : List (List Piece)) :
    literalTexts (commaSeparated items) = items.flatMap literalTexts := by
  induction items using commaSeparated.induct with
  | case1 => rfl
  | case2 item => exact (List.append_nil _).symm
  | case3 item rest hrest ih =>
    rw [commaSeparated.eq_3 item rest hrest, literalTexts_append, literalTexts_code, ih,
      List.flatMap_cons]

theorem literalTexts_arguments (arguments : TextArguments) :
    arguments.pieces.flatMap literalTexts = arguments.quoted := by
  obtain ⟨font, size, bold, italic, fill⟩ := arguments
  have hfont : ((font.map fun font => [.code "font: ", .literal font]).toList).flatMap
      literalTexts = font.toList := by cases font <;> rfl
  have hsize : ((size.map fun size => [.code "size: ", points size]).toList).flatMap
      literalTexts = [] := by cases size <;> rfl
  have hbold : (if bold then [[.code "weight: ", .literal "bold"]] else []).flatMap
      literalTexts = if bold then ["bold"] else [] := by cases bold <;> rfl
  have hitalic : (if italic then [[.code "style: ", .literal "italic"]] else []).flatMap
      literalTexts = if italic then ["italic"] else [] := by cases italic <;> rfl
  have hfill : ((fill.map fun fill => .code "fill: " :: color fill).toList).flatMap
      literalTexts = fill.toList.flatMap quotedColor := by
    cases fill with
    | none => rfl
    | some fill =>
      rw [Option.map_some, Option.toList_some, Option.toList_some, List.flatMap_singleton,
        List.flatMap_singleton, literalTexts_code, literalTexts_color]
  simp only [TextArguments.pieces, List.flatMap_append, hfont, hsize, hbold, hitalic, hfill,
    List.append_nil, TextArguments.quoted]

theorem literalTexts_wrap (function : String) (arguments expression : List Piece) :
    literalTexts (wrap function arguments expression) =
      literalTexts arguments ++ literalTexts expression := by
  simp only [wrap, List.cons_append, literalTexts_code, literalTexts_append, literalTexts_nil,
    List.append_nil]

theorem literalTexts_wrapped (function : String) (arguments : Option (List Piece))
    (expression : List Piece) :
    literalTexts (wrapped function arguments expression) =
      arguments.toList.flatMap literalTexts ++ literalTexts expression := by
  cases arguments with
  | none => rfl
  | some arguments =>
    rw [wrapped, literalTexts_wrap, Option.toList_some, List.flatMap_singleton]

theorem literalTexts_bareLayer (present : Bool) :
    (bareLayer present).toList.flatMap literalTexts = [] := by
  cases present <;> rfl

theorem literalTexts_runExpression (styles : StyleTable) (run : Run) :
    literalTexts (runExpression styles run) = run.quoted styles := by
  have hlink : ((run.target.map linkArguments).toList).flatMap literalTexts =
      run.target.toList := by
    cases run.target <;> rfl
  have hhighlight (background : Option String) :
      ((background.map fun background => highlightArguments (color background)).toList).flatMap
        literalTexts = background.toList.flatMap quotedColor := by
    cases background with
    | none => rfl
    | some background =>
      simp only [Option.map_some, Option.toList_some, List.flatMap_singleton, highlightArguments,
        List.cons_append, literalTexts_code, literalTexts_append, literalTexts_color,
        literalTexts_nil, List.append_nil]
  have htext (arguments : TextArguments) (text : String) :
      literalTexts (textCall arguments.pieces text) = arguments.quoted ++ [text] := by
    rw [textCall, literalTexts_wrap, literalTexts_commaSeparated, List.flatMap_append,
      literalTexts_arguments, literalTexts_nil, List.append_nil]
    rfl
  rw [runExpression_eq, literalTexts_wrapped, literalTexts_wrapped, literalTexts_wrapped,
    literalTexts_wrapped, literalTexts_bareLayer, literalTexts_bareLayer, hlink, hhighlight, htext,
    List.nil_append, List.nil_append, Run.quoted, List.append_assoc, List.append_assoc]

theorem literalTexts_runBlock (styles : StyleTable) (runs : List Run) :
    literalTexts (runBlock styles runs) = runs.flatMap (Run.quoted styles) := by
  have hline (run : Run) : literalTexts (runLine styles run) = run.quoted styles := by
    rw [runLine, List.cons_append, literalTexts_code, literalTexts_append,
      literalTexts_runExpression, literalTexts_code, literalTexts_nil, List.append_nil]
  rw [runBlock, List.cons_append, literalTexts_code, literalTexts_append, literalTexts_flatMap,
    literalTexts_code, literalTexts_nil, List.append_nil]
  simp only [hline]

theorem literalTexts_blockRules (style : Style) : literalTexts (blockRules style) = style.quoted := by
  have hleading : literalTexts ((style.lineHeight.map leadingRule).getD []) = [] := by
    cases style.lineHeight <;> rfl
  have htext (arguments : List (List Piece)) :
      literalTexts (textRule arguments) = arguments.flatMap literalTexts := by
    cases arguments with
    | nil => rfl
    | cons item items =>
      rw [textRule, List.isEmpty_cons, if_neg Bool.false_ne_true, List.cons_append,
        literalTexts_code, literalTexts_append, literalTexts_commaSeparated, literalTexts_code,
        literalTexts_nil, List.append_nil]
  rw [blockRules_eq, literalTexts_append, htext, literalTexts_arguments, hleading, List.append_nil,
    Style.quoted]

theorem literalTexts_listItem (styles : StyleTable) (runs : List Run) :
    literalTexts (listItem styles runs) = runs.flatMap (Run.quoted styles) := by
  simp only [listItem, List.cons_append, literalTexts_code, literalTexts_append,
    literalTexts_padding, literalTexts_runBlock, literalTexts_nil, List.nil_append, List.append_nil]

theorem literalTexts_nodeMarkup (styles : StyleTable) (node : Node) :
    literalTexts (nodeMarkup styles node) = node.quoted styles := by
  cases node with
  | textBlock runs style margin =>
    simp only [nodeMarkup, List.cons_append, literalTexts_code, literalTexts_append,
      literalTexts_padding, literalTexts_blockRules, literalTexts_runBlock, literalTexts_nil,
      List.nil_append, List.append_nil, Node.quoted]
  | listBlock ordered items margin =>
    simp only [nodeMarkup, List.cons_append, literalTexts_code, literalTexts_append,
      literalTexts_padding, literalTexts_blockRules, literalTexts_flatMap, literalTexts_listItem,
      literalTexts_nil, List.nil_append, List.append_nil, StyleTable.get, Node.quoted]
  | ruleBlock line lineWidth lineColor margin =>
    simp only [nodeMarkup, List.cons_append, literalTexts_code, literalTexts_append,
      literalTexts_points, literalTexts_padding, literalTexts_color, literalTexts_nil,
      List.nil_append, List.append_nil, Node.quoted]

/-- The markup quotes what is listed for the document. -/
theorem literalTexts_pieces (document : Document) :
    literalTexts (pieces document) = document.quoted := by
  rw [pieces, literalTexts_append, literalTexts_flatMap]
  simp only [literalTexts_nodeMarkup]
  rfl

end Typst

end Folio
