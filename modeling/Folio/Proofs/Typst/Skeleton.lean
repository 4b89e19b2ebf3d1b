import Folio.Proofs.Typst.Code
import Folio.Proofs.Typst.Quoted
/-!
# The skeleton of a document's markup

The texts of the runs, the targets of the links and the names of the fonts come from outside, and none of
them can change the program that the markup is. Redaction takes them out of a document and keeps
everything else. Documents that agree when redacted have markup with one skeleton, and the literals that
fill the skeleton mean exactly what each document says, in order.
-/

namespace Folio

/-! ### Redaction -/

def Style.redact (style : Style) : Style :=
  { style with font := style.font.map fun _ => "" }

def StyleTable.redact (table : StyleTable) : StyleTable where
  header := table.header.redact
  subheader := table.subheader.redact
  h3 := table.h3.redact
  body := table.body.redact
  code := table.code.redact
  inlineCode := table.inlineCode.redact
  link := table.link.redact
  blockquote := table.blockquote.redact
  list := table.list.redact

/-- Whether a link leads anywhere is kept, where it leads is not. -/
def Run.redact (run : Run) : Run :=
  { run with text := "", link := run.target.map fun _ => "link" }

def Node.redact : Node → Node
  | textBlock runs style margin => textBlock (runs.map Run.redact) style margin
  | listBlock ordered items margin => listBlock ordered (items.map (List.map Run.redact)) margin
  | ruleBlock line lineWidth color margin => ruleBlock line lineWidth color margin

def Document.redact (document : Document) : Document where
  content := document.content.map Node.redact
  styles := document.styles.redact
  defaultFont := ""

theorem StyleTable.get_redact (table : StyleTable) (name : StyleName) :
    table.redact.get name = (table.get name).redact := by
  cases name <;> rfl

theorem Run.target_redact (run : Run) : run.redact.target = run.target.map fun _ => "link" := by
  rw [target, redact]
  cases run.target <;> rfl

namespace Typst

/-! ### Hollow pieces -/

variable {s t : List Piece}

theorem hollow_append : hollow (s ++ t) = hollow s ++ hollow t :=
  List.map_append

theorem hollow_cons (piece : Piece) : hollow (piece :: t) = piece.hollow :: hollow t :=
  rfl

theorem hollow_commaSeparated (items : List (List Piece)) :
    hollow (commaSeparated items) = commaSeparated (items.map hollow) := by
  induction items using commaSeparated.induct with
  | case1 => rfl
  | case2 item => rfl
  | case3 item rest hrest ih =>
    obtain ⟨next, rest, rfl⟩ := List.exists_cons_of_ne_nil hrest
    rw [commaSeparated.eq_3 item _ hrest, hollow_append, hollow_cons, ih]
    rfl

theorem hollow_flatMap_map {α : Type} {write write' : α → List Piece} {redact : α → α}
    (hwrite : ∀ x, hollow (write' (redact x)) = hollow (write x)) (xs : List α) :
    hollow ((xs.map redact).flatMap write') = hollow (xs.flatMap write) := by
  induction xs with
  | nil => rfl
  | cons x xs ih =>
    rw [List.map_cons, List.flatMap_cons, List.flatMap_cons, hollow_append, hollow_append, hwrite, ih]

def TextArguments.redact (arguments : TextArguments) : TextArguments :=
  { arguments with font := arguments.font.map fun _ => "" }

theorem ofStyle_redact (style : Style) :
    TextArguments.ofStyle style.redact = (TextArguments.ofStyle style).redact :=
  rfl

theorem runArguments_redact (style : Option Style) (run : Run) :
    runArguments (style.map Style.redact) run.redact = (runArguments style run).redact := by
  cases style <;> rfl

theorem hollow_arguments (arguments : TextArguments) :
    arguments.redact.pieces.map hollow = arguments.pieces.map hollow := by
  obtain ⟨font, size, bold, italic, fill⟩ := arguments
  simp only [TextArguments.redact, TextArguments.pieces, List.map_append]
  congr 4
  cases font <;> rfl

theorem hollow_wrap (function : String) (arguments expression : List Piece) :
    hollow (wrap function arguments expression) =
      wrap function (hollow arguments) (hollow expression) := by
  simp only [wrap, List.cons_append, hollow_cons, hollow_append]
  rfl

theorem hollow_wrapped (function : String) (arguments : Option (List Piece))
    (expression : List Piece) :
    hollow (wrapped function arguments expression) =
      wrapped function (arguments.map hollow) (hollow expression) := by
  cases arguments with
  | none => rfl
  | some arguments => exact hollow_wrap function arguments expression

theorem hollow_textCall (arguments : TextArguments) (text : String) :
    hollow (textCall arguments.redact.pieces "") = hollow (textCall arguments.pieces text) := by
  simp only [textCall, hollow_wrap, hollow_commaSeparated, List.map_append, hollow_arguments]
  rfl

/-! ### Redacted values -/

variable (styles : StyleTable)

theorem hollow_runExpression (run : Run) :
    hollow (runExpression styles.redact run.redact) = hollow (runExpression styles run) := by
  have hstyle : run.redact.style.map styles.redact.get =
      (run.style.map styles.get).map Style.redact := by
    rw [Option.map_map]
    exact congrFun (congrArg _ (funext styles.get_redact)) run.style
  have hlink : (run.redact.target.map linkArguments).map hollow =
      (run.target.map linkArguments).map hollow := by
    rw [Run.target_redact]
    cases run.target <;> rfl
  rw [runExpression_eq, runExpression_eq, hstyle]
  generalize run.style.map styles.get = style
  have hbackground : (style.map Style.redact).bind Style.background = style.bind Style.background := by
    cases style <;> rfl
  have hunderlined : Style.isUnderlined (style.map Style.redact) = Style.isUnderlined style := by
    cases style <;> rfl
  have hstruck : run.redact.isStruck (style.map Style.redact) = run.isStruck style := by
    cases style <;> rfl
  have htext : run.redact.text = "" := rfl
  simp only [hollow_wrapped, hlink, hbackground, hunderlined, hstruck, runArguments_redact, htext,
    hollow_textCall _ run.text]

theorem hollow_runBlock (runs : List Run) :
    hollow (runBlock styles.redact (runs.map Run.redact)) = hollow (runBlock styles runs) := by
  have hline (run : Run) :
      hollow (runLine styles.redact run.redact) = hollow (runLine styles run) := by
    simp only [runLine, List.cons_append, hollow_cons, hollow_append, hollow_runExpression]
  simp only [runBlock, List.cons_append, hollow_cons, hollow_append, hollow_flatMap_map hline]

theorem hollow_textRule {arguments arguments' : List (List Piece)}
    (hsame : arguments'.map hollow = arguments.map hollow) :
    hollow (textRule arguments') = hollow (textRule arguments) := by
  have hempty : arguments'.isEmpty = arguments.isEmpty := by
    have h := congrArg List.isEmpty hsame
    rwa [List.isEmpty_map, List.isEmpty_map] at h
  rw [textRule, textRule, hempty]
  split
  · rfl
  · simp only [List.cons_append, hollow_cons, hollow_append, hollow_commaSeparated, hsame]

theorem hollow_blockRules (style : Style) :
    hollow (blockRules style.redact) = hollow (blockRules style) := by
  have harguments := hollow_arguments (TextArguments.ofStyle style)
  have hlineHeight : style.redact.lineHeight = style.lineHeight := rfl
  rw [blockRules_eq, blockRules_eq, ofStyle_redact, hollow_append, hollow_append,
    hollow_textRule harguments, hlineHeight]

theorem hollow_nodeMarkup (node : Node) :
    hollow (nodeMarkup styles.redact node.redact) = hollow (nodeMarkup styles node) := by
  cases node with
  | textBlock runs style margin =>
    simp only [Node.redact, nodeMarkup, List.cons_append, hollow_cons, hollow_append,
      StyleTable.get_redact, hollow_blockRules, hollow_runBlock]
  | listBlock ordered items margin =>
    have hitem (runs : List Run) :
        hollow (listItem styles.redact (runs.map Run.redact)) = hollow (listItem styles runs) := by
      simp only [listItem, List.cons_append, hollow_cons, hollow_append, hollow_runBlock]
    simp only [Node.redact, nodeMarkup, List.cons_append, hollow_cons, hollow_append,
      StyleTable.get_redact, hollow_blockRules, hollow_flatMap_map hitem]
  | ruleBlock line lineWidth lineColor margin => rfl

theorem hollow_pieces (document : Document) :
    hollow (pieces document.redact) = hollow (pieces document) := by
  have hpreamble : hollow (preamble document.redact.defaultFont) =
      hollow (preamble document.defaultFont) := by
    simp only [preamble, hollow_cons, hollow_append, hollow_commaSeparated]
    rfl
  have hcontent : hollow (document.redact.content.flatMap (nodeMarkup document.redact.styles)) =
      hollow (document.content.flatMap (nodeMarkup document.styles)) :=
    hollow_flatMap_map (hollow_nodeMarkup document.styles) document.content
  rw [pieces, pieces, hollow_append, hollow_append, hpreamble, hcontent]

/-- No text, link target or font name changes the program: documents that agree in all else have one
skeleton, and each fills it with what it quotes. -/
theorem skeleton?_markup_of_redact_eq {d e : Document} (hagree : d.redact = e.redact) :
    ∃ skeleton, skeleton? (markup d).toList = some skeleton ∧
      skeleton? (markup e).toList = some skeleton ∧
      literals? (markup d).toList = some (d.quoted.map String.toList) ∧
      literals? (markup e).toList = some (e.quoted.map String.toList) := by
  have hmarkup (document : Document) : (markup document).toList = render (pieces document) := by
    rw [markup, String.toList_ofList]
  have hquoted (document : Document) : literals? (markup document).toList =
      some (document.quoted.map String.toList) := by
    rw [hmarkup, literals?_render (pieces_clean document), literalTexts_pieces]
  have hskeleton (document : Document) : skeleton? (markup document).toList =
      some ((hollow (pieces document.redact)).flatMap fun piece =>
        piece.symbols.map Symbol.outline) := by
    rw [hmarkup, skeleton?_render (pieces_clean document), hollow_pieces]
  exact ⟨_, hskeleton d, hagree ▸ hskeleton e, hquoted d, hquoted e⟩

/-- A text, a link target and a font that try to break out of their literals. -/
def hostileDocument : Document where
  content := [.textBlock [{ text := "\")#panic()\\", link := some "\n\"]" }] .body ⟨0, 0, 0, 0⟩]
  defaultFont := "\"))"

def tameDocument : Document where
  content := [.textBlock [{ text := "", link := some "a" }] .body ⟨0, 0, 0, 0⟩]

theorem skeleton?_markup_hostileDocument :
    hostileDocument.redact = tameDocument.redact ∧
      ∃ skeleton, skeleton? (markup hostileDocument).toList = some skeleton ∧
        skeleton? (markup tameDocument).toList = some skeleton ∧
        literals? (markup hostileDocument).toList =
          some (hostileDocument.quoted.map String.toList) ∧
        literals? (markup tameDocument).toList = some (tameDocument.quoted.map String.toList) :=
  ⟨rfl, skeleton?_markup_of_redact_eq rfl⟩

end Typst

end Folio
