import Folio.Proofs.Typst.Determined
/-!
# The markup shows just what is visible

What is visible can be written out without the document: there is a printer for visible nodes, and the
markup of a node is what this printer makes of the node's view. So documents that show the same have the
same markup. With the converse the view is exact. It leaves out nothing that the markup tells, and it
holds nothing that the markup does not tell.
-/

namespace Folio.Typst

/-! ### Printing what is visible -/

/-- A call around a text, where there are arguments for the call. -/
def writeCall (function : String) : Option (List Char) → List Char → List Char
  | some arguments, inner => (function ++ "(").toList ++ (arguments ++ (inner ++ [')']))
  | none, inner => inner

def Argument.write : Argument (List Char) (List Char) → List Char
  | .font name => "font: ".toList ++ literal name.toList
  | .size x => "size: ".toList ++ (x ++ "pt".toList)
  | .bold => "weight: \"bold\"".toList
  | .italic => "style: \"italic\"".toList
  | .fill color => "fill: ".toList ++ color
  | .body text => literal text.toList

def writeArguments (arguments : List (Argument (List Char) (List Char))) : List Char :=
  ", ".toList.intercalate (arguments.map Argument.write)

def Look.arguments (look : Look) : List (Argument (List Char) (List Char)) :=
  (look.font.map Argument.font).toList ++ (look.size.map Argument.size).toList ++
    (if look.bold then [.bold] else []) ++ (if look.italic then [.italic] else []) ++
    (look.fill.map Argument.fill).toList

def writeRun (run : VisibleRun) : List Char :=
  writeCall "link" (run.target.map fun href => literal href.toList ++ ", ".toList)
    (writeCall "highlight"
      (run.background.map fun color => "fill: ".toList ++ (color ++ ", ".toList))
      (writeCall "underline" (if run.underlined then some [] else none)
        (writeCall "strike" (if run.struck then some [] else none)
          (writeCall "text" (some (writeArguments (run.look.arguments ++ [.body run.text]))) []))))

def writeRuns (runs : List VisibleRun) : List Char :=
  "#\x7b\n".toList ++
    (runs.flatMap (fun run => "  ".toList ++ (writeRun run ++ "\n".toList)) ++ "\x7d".toList)

def writeRules (rules : BlockLook) : List Char :=
  (if rules.look.arguments.isEmpty then []
    else "#set text(".toList ++ (writeArguments rules.look.arguments ++ ")\n".toList)) ++
  rules.leading.elim [] fun leading => ("#set par(leading: " ++ leading ++ "em)\n").toList

/-- Numbers in points, each behind its label. -/
def writePoints (labels : List String) (numbers : List (List Char)) : List Char :=
  (List.zipWith (fun label x => label.toList ++ (x ++ "pt".toList)) labels numbers).flatten

def writePadding (margin : List (List Char)) : List Char :=
  writePoints ["left: ", ", top: ", ", right: ", ", bottom: "] margin

def writeItem (runs : List VisibleRun) : List Char :=
  "  pad(".toList ++ (writePadding listItemMargin.printed ++
    (")[".toList ++ (writeRuns runs ++ "],\n".toList)))

def writeRule (line : List (List Char)) (lineWidth color : List Char) : List Char :=
  writePoints ["#line(start: (", ", ", "), end: (", ", "] line ++
    (writePoints ["), stroke: "] [lineWidth] ++ (" + ".toList ++ (color ++ ")]\n\n".toList)))

def writeText (runs : List VisibleRun) (style : BlockLook) : List Char :=
  "\n".toList ++ (writeRules style ++ (writeRuns runs ++ "]\n\n".toList))

def writeList (ordered : Bool) (items : List (List VisibleRun)) (style : BlockLook) : List Char :=
  "\n".toList ++ (writeRules style ++ ((listWord ordered).toList ++
    (items.flatMap writeItem ++ ")\n]\n\n".toList)))

def writeBody : VisibleNode → List Char
  | .textBlock runs style _ => writeText runs style
  | .listBlock ordered items style _ => writeList ordered items style
  | .ruleBlock line lineWidth color _ => writeRule line lineWidth color

def visibleMargin : VisibleNode → List (List Char)
  | .textBlock _ _ margin => margin
  | .listBlock _ _ _ margin => margin
  | .ruleBlock _ _ _ margin => margin

def writeNode (node : VisibleNode) : List Char :=
  "#pad(".toList ++ (writePadding (visibleMargin node) ++ (")[".toList ++ writeBody node))

/-! ### The markup as printed -/

theorem render_wrapped (function : String) (arguments : Option (List Piece))
    (expression : List Piece) :
    render (wrapped function arguments expression) =
      writeCall function (arguments.map render) (render expression) := by
  cases arguments with
  | none => rfl
  | some arguments =>
    have hcall := render_wrap function arguments expression []
    rw [List.append_nil] at hcall
    exact hcall

theorem render_commaSeparated (items : List (List Piece)) :
    render (commaSeparated items) = ", ".toList.intercalate (items.map render) := by
  induction items using commaSeparated.induct with
  | case1 => rfl
  | case2 item => exact List.intercalate_singleton.symm
  | case3 item rest hrest ih =>
    obtain ⟨next, rest, rfl⟩ := List.exists_cons_of_ne_nil hrest
    rw [commaSeparated.eq_3 item _ hrest, render_append, render_code, ih]
    simp only [List.map_cons, List.intercalate_cons_cons, List.append_assoc]

theorem render_points (x : Float) : (points x).render = Decimal.plain x ++ "pt".toList := by
  rw [points, Piece.render, String.toList_append, Decimal.toList_plainString]

theorem Argument.render_eq_write (argument : Argument Float String) :
    render argument.pieces = argument.printed.write := by
  cases argument with
  | size x =>
    show render [.code "size: ", points x] = "size: ".toList ++ (Decimal.plain x ++ "pt".toList)
    rw [render_code, render_cons, render_points]
    exact congrArg _ (List.append_nil _)
  | fill color => rfl
  | font name => exact congrArg _ (List.append_nil _)
  | body text => exact List.append_nil _
  | _ => rfl

theorem look_arguments (arguments : TextArguments) :
    arguments.look.arguments = arguments.arguments.map Argument.printed := by
  obtain ⟨font, size, bold, italic, fill⟩ := arguments
  cases font <;> cases size <;> cases bold <;> cases italic <;> cases fill <;> rfl

theorem render_arguments (arguments : List (Argument Float String)) :
    render (commaSeparated (arguments.map Argument.pieces)) =
      writeArguments (arguments.map Argument.printed) := by
  rw [render_commaSeparated, writeArguments, List.map_map, List.map_map]
  exact congrArg _ (List.map_congr_left fun argument _ => argument.render_eq_write)

theorem render_textCall (arguments : TextArguments) (text : String) :
    render (textCall arguments.pieces text) =
      writeCall "text" (some (writeArguments (arguments.look.arguments ++ [.body text]))) [] := by
  have hpieces : arguments.pieces ++ [[.literal text]] =
      (arguments.arguments ++ [Argument.body text]).map Argument.pieces := by
    rw [arguments_pieces, List.map_append]
    rfl
  have hprinted : (arguments.arguments ++ [Argument.body text]).map Argument.printed =
      arguments.look.arguments ++ [.body text] := by
    rw [look_arguments, List.map_append]
    rfl
  have hcall := render_wrapped "text"
    (some (commaSeparated (arguments.pieces ++ [[.literal text]]))) []
  rw [hpieces, Option.map_some, render_arguments, hprinted] at hcall
  rw [textCall, hpieces]
  exact hcall

theorem render_bareLayer (present : Bool) :
    (bareLayer present).map render = if present then some [] else none := by
  cases present <;> rfl

theorem render_runExpression (styles : StyleTable) (run : Run) :
    render (runExpression styles run) = writeRun (run.visible styles) := by
  have hlink : (run.target.map linkArguments).map render =
      run.target.map fun href => literal href.toList ++ ", ".toList := by
    cases run.target <;> rfl
  have hhighlight (background : Option String) :
      (background.map fun background => highlightArguments (color background)).map render =
        (background.map colorText).map fun color => "fill: ".toList ++ (color ++ ", ".toList) := by
    cases background with
    | none => rfl
    | some background =>
      simp only [Option.map_some, highlightArguments, List.cons_append, render_code, render_append,
        colorText]
      rfl
  rw [runExpression_eq, render_wrapped, render_wrapped, render_wrapped, render_wrapped, hlink,
    hhighlight, render_bareLayer, render_bareLayer, render_textCall]
  rfl

theorem render_runBlock (styles : StyleTable) (runs : List Run) :
    render (runBlock styles runs) = writeRuns (runs.map (Run.visible styles)) := by
  have hline (run : Run) : render (runLine styles run) =
      "  ".toList ++ (writeRun (run.visible styles) ++ "\n".toList) := by
    rw [runLine, List.cons_append, render_code, render_append, render_runExpression]
    rfl
  rw [runBlock, List.cons_append, render_code, render_append, render_flatMap, writeRuns,
    List.flatMap_map]
  simp only [hline]
  rfl

theorem render_textRule (arguments : TextArguments) : render (textRule arguments.pieces) =
    if arguments.look.arguments.isEmpty then []
    else "#set text(".toList ++ (writeArguments arguments.look.arguments ++ ")\n".toList) := by
  rw [look_arguments, arguments_pieces, textRule, List.isEmpty_map, List.isEmpty_map]
  split
  · rfl
  · rw [List.cons_append, render_code, render_append, render_arguments]
    rfl

theorem render_blockRules (style : Style) : render (blockRules style) = writeRules style.visible := by
  have hleading : render ((style.lineHeight.map leadingRule).getD []) =
      (style.lineHeight.map leading).elim [] fun leading =>
        ("#set par(leading: " ++ leading ++ "em)\n").toList := by
    cases style.lineHeight with
    | none => rfl
    | some lineHeight => exact List.append_nil _
  rw [blockRules_eq, render_append, render_textRule, hleading]
  rfl

theorem render_padding (margin : Margin) :
    render (padding margin) = writePadding margin.printed := by
  rw [padding, writePadding, Margin.printed]
  simp only [render_cons, render_points, writePoints, List.map_cons, List.map_nil,
    List.zipWith_cons_cons, List.zipWith_nil_right, List.flatten_cons, List.flatten_nil,
    List.append_assoc]
  rfl

theorem render_listItem (styles : StyleTable) (runs : List Run) :
    render (listItem styles runs) = writeItem (runs.map (Run.visible styles)) := by
  simp only [listItem, List.cons_append, render_code, render_append, render_padding,
    render_runBlock, List.append_assoc]
  rfl

theorem render_nodeBody (styles : StyleTable) (node : Node) :
    render (nodeBody styles node) = writeBody (node.visible styles) := by
  cases node with
  | textBlock runs style margin =>
    show _ = writeText (runs.map (Run.visible styles)) (styles.get style).visible
    simp only [nodeBody, writeText, List.cons_append, render_code, render_append,
      render_blockRules, render_runBlock]
    rfl
  | listBlock ordered items margin =>
    show _ = writeList ordered (items.map (List.map (Run.visible styles))) styles.list.visible
    simp only [nodeBody, writeList, List.cons_append, render_code, render_append,
      render_blockRules, render_flatMap, render_listItem, List.flatMap_map]
    rfl
  | ruleBlock line lineWidth lineColor margin =>
    show _ = writeRule line.printed (Decimal.plain lineWidth) (colorText lineColor)
    simp only [nodeBody, writeRule, Line.printed, writePoints, List.cons_append, render_cons,
      render_append, render_points, List.map_cons, List.map_nil, List.zipWith_cons_cons,
      List.zipWith_nil_right, List.flatten_cons, List.flatten_nil, List.append_assoc]
    rfl

/-- The markup of a node is what is visible of it, written out. -/
theorem render_nodeMarkup_eq_writeNode (styles : StyleTable) (node : Node) :
    render (nodeMarkup styles node) = writeNode (node.visible styles) := by
  have hmargin : (nodeMargin node).printed = visibleMargin (node.visible styles) := by
    cases node <;> rfl
  rw [render_nodeMarkup, render_padding, hmargin, render_nodeBody]
  rfl

end Folio.Typst
