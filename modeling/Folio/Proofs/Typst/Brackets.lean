import Folio.Proofs.Typst.Code
/-!
# The brackets of the markup

Whatever a document holds, the brackets of its markup match. Brackets in a literal are text and count for
nothing; those of the code open and close like a stack, and at the end of every node the stack is empty,
so a node ends in its own markup and cannot take in the next one.

Pieces are followed one after another from the brackets that they close to those that they open. Most
parts of the markup are level: they leave the open brackets as they found them, whichever these are. A
part that is put together from words with a bracket and level parts in between is level if the words
match, and this is all that is looked at for each of them.
-/

namespace Folio.Typst

inductive Bracket where
  | round
  | square
  | curly
deriving DecidableEq, Repr

def Bracket.opening? : Char → Option Bracket
  | '(' => some round
  | '[' => some square
  | '{' => some curly
  | _ => none

def Bracket.closing? : Char → Option Bracket
  | ')' => some round
  | ']' => some square
  | '}' => some curly
  | _ => none

/-- The open brackets after a symbol, innermost first; `none` if it closes another than the innermost. -/
def nest? (opened : List Bracket) : Symbol → Option (List Bracket)
  | .literal _ => some opened
  | .code c =>
    match Bracket.opening? c, Bracket.closing? c, opened with
    | some bracket, _, opened => some (bracket :: opened)
    | none, none, opened => some opened
    | none, some bracket, top :: outer => if bracket = top then some outer else none
    | none, some _, [] => none

/-- The brackets that are open at the end of a text; `none` where the text ends in a literal or its
brackets do not match. -/
def openBrackets? (text : List Char) : Option (List Bracket) :=
  (scan? text).bind fun symbols => symbols.foldlM nest? []

/-! ### Following pieces -/

/-- The open brackets after some pieces. -/
def follow? (opened : List Bracket) (pieces : List Piece) : Option (List Bracket) :=
  (pieces.flatMap Piece.symbols).foldlM nest? opened

/-- Inside any brackets, pieces that close some and open others. -/
def Turns (pieces : List Piece) (closed opened : List Bracket) : Prop :=
  ∀ outer, follow? (closed ++ outer) pieces = some (opened ++ outer)

/-- Pieces that leave the open brackets as they are. -/
def Level (pieces : List Piece) : Prop :=
  Turns pieces [] []

variable {s t : List Piece} {a b c : List Bracket}

theorem follow?_append (opened : List Bracket) (s t : List Piece) :
    follow? opened (s ++ t) = (follow? opened s).bind fun between => follow? between t := by
  rw [follow?, List.flatMap_append, List.foldlM_append]
  rfl

theorem Turns.append (hs : Turns s a b) (ht : Turns t b c) : Turns (s ++ t) a c := by
  intro outer
  rw [follow?_append, hs, Option.bind_some, ht]

theorem Turns.cons {piece : Piece} (hpiece : Turns [piece] a b) (ht : Turns t b c) :
    Turns (piece :: t) a c :=
  hpiece.append ht

theorem Level.nil : Level [] := fun _ => rfl

/-- Level pieces may stand inside any brackets. -/
theorem Level.within (hs : Level s) (a : List Bracket) : Turns s a a := fun outer => hs (a ++ outer)

theorem Level.append (hs : Level s) (ht : Level t) : Level (s ++ t) :=
  Turns.append hs ht

theorem Level.cons {piece : Piece} (hpiece : Level [piece]) (ht : Level t) : Level (piece :: t) :=
  Turns.cons hpiece ht

theorem Level.flatMap {α : Type} {write : α → List Piece} (hwrite : ∀ x, Level (write x)) (xs : List α) :
    Level (xs.flatMap write) := by
  induction xs with
  | nil => exact Level.nil
  | cons x xs ih => exact (hwrite x).append ih

theorem Level.literal (text : String) : Level [.literal text] := fun _ => rfl

/-! ### Code without brackets -/

def Bracketless (text : List Char) : Prop :=
  ∀ c ∈ text, Bracket.opening? c = none ∧ Bracket.closing? c = none

instance (text : List Char) : Decidable (Bracketless text) :=
  List.decidableBAll _ text

theorem bracketless_append {first second : List Char} :
    Bracketless (first ++ second) ↔ Bracketless first ∧ Bracketless second :=
  List.forall_mem_append

theorem foldlM_nest?_of_bracketless {text : List Char} (htext : Bracketless text) (opened : List Bracket) :
    (text.map Symbol.code).foldlM nest? opened = some opened := by
  induction text with
  | nil => rfl
  | cons c text ih =>
    obtain ⟨⟨hopening, hclosing⟩, htext⟩ := List.forall_mem_cons.mp htext
    have hstep : nest? opened (.code c) = some opened := by
      simp only [nest?, hopening, hclosing]
    rw [List.map_cons, List.foldlM_cons, hstep]
    exact ih htext

theorem Level.code {text : String} (htext : Bracketless text.toList) : Level [.code text] := by
  intro outer
  have hpiece : [Piece.code text].flatMap Piece.symbols = text.toList.map Symbol.code :=
    List.append_nil _
  rw [follow?, hpiece]
  exact foldlM_nest?_of_bracketless htext outer

theorem bracketless_of_numberChars {text : List Char} (htext : Decimal.AllNumberChars text) :
    Bracketless text := by
  intro c hc
  have hnumber := htext c hc
  constructor
  · unfold Bracket.opening?
    split
    case h_4 => rfl
    all_goals exact absurd hnumber (by decide)
  · unfold Bracket.closing?
    split
    case h_4 => rfl
    all_goals exact absurd hnumber (by decide)

theorem points_level (x : Float) : Level [points x] := by
  apply Level.code
  rw [String.toList_append, Decimal.toList_plainString, bracketless_append]
  exact ⟨bracketless_of_numberChars (Decimal.plain_allNumberChars x), by decide⟩

/-! ### The parts of the markup -/

theorem color_level (text : String) : Level (color text) := by
  unfold color
  split
  · exact fun _ => rfl
  · split
    · next hnamed =>
      have hnames : ∀ name ∈ namedColors, Bracketless name.toList := by decide
      exact Level.code (hnames text (List.contains_iff_mem.mp hnamed))
    · have hopen : Turns [.code "rgb("] [] [.round] := fun _ => rfl
      have hclose : Turns [.code ")"] [.round] [] := fun _ => rfl
      exact hopen.cons (((Level.literal text).within _).cons hclose)

theorem padding_level (margin : Margin) : Level (padding margin) := by
  have hside (label : String) (hlabel : Bracketless label.toList) (x : Float) :
      Level [.code label, points x] := (Level.code hlabel).cons (points_level x)
  exact (hside "left: " (by decide) margin.left).append
    ((hside ", top: " (by decide) margin.top).append
      ((hside ", right: " (by decide) margin.right).append
        (hside ", bottom: " (by decide) margin.bottom)))

theorem commaSeparated_level {items : List (List Piece)} (hitems : ∀ item ∈ items, Level item) :
    Level (commaSeparated items) := by
  induction items using commaSeparated.induct with
  | case1 => exact Level.nil
  | case2 item => exact hitems item List.mem_cons_self
  | case3 item rest hrest ih =>
    obtain ⟨hitem, hitems⟩ := List.forall_mem_cons.mp hitems
    have hcomma : Level [.code ", "] := Level.code (by decide)
    rw [commaSeparated.eq_3 item rest hrest]
    exact hitem.append (hcomma.cons (ih hitems))

theorem arguments_level (arguments : TextArguments) : ∀ item ∈ arguments.pieces, Level item := by
  intro item hitem
  obtain ⟨font, rfl⟩ | ⟨size, rfl⟩ | rfl | rfl | ⟨fill, rfl⟩ := arguments_cases hitem
  · exact (Level.code (by decide)).cons (Level.literal font)
  · exact (Level.code (by decide)).cons (points_level size)
  · exact (Level.code (by decide)).cons (Level.literal "bold")
  · exact (Level.code (by decide)).cons (Level.literal "italic")
  · exact (Level.code (by decide)).cons (color_level fill)

/-- A call closes the bracket that it opens. -/
theorem wrap_level {function : String} {arguments expression : List Piece}
    (hfunction : Bracketless function.toList) (harguments : Level arguments)
    (hexpression : Level expression) : Level (wrap function arguments expression) := by
  have hopen : Turns [.code (function ++ "(")] [] [.round] := by
    intro outer
    have hpiece : [Piece.code (function ++ "(")].flatMap Piece.symbols =
        function.toList.map Symbol.code ++ [.code '('] := by
      simp [Piece.symbols]
    rw [follow?, hpiece, List.foldlM_append, List.nil_append,
      foldlM_nest?_of_bracketless hfunction]
    rfl
  have hclose : Turns [.code ")"] [.round] [] := fun _ => rfl
  exact ((hopen.cons (harguments.within _)).append (hexpression.within _)).append hclose

theorem wrapped_level {function : String} {arguments : Option (List Piece)} {expression : List Piece}
    (hfunction : Bracketless function.toList) (harguments : ∀ given ∈ arguments, Level given)
    (hexpression : Level expression) : Level (wrapped function arguments expression) := by
  cases arguments with
  | none => exact hexpression
  | some arguments => exact wrap_level hfunction (harguments arguments rfl) hexpression

theorem bareLayer_level (present : Bool) : ∀ given ∈ bareLayer present, Level given := by
  intro given hgiven
  cases present with
  | false => cases hgiven
  | true =>
    obtain rfl := Option.some.inj hgiven
    exact Level.nil

theorem runExpression_level (styles : StyleTable) (run : Run) : Level (runExpression styles run) := by
  have htext : ∀ item ∈ (runArguments (run.style.map styles.get) run).pieces ++
      [[Piece.literal run.text]], Level item :=
    List.forall_mem_append.mpr ⟨arguments_level _,
      List.forall_mem_singleton.mpr (Level.literal run.text)⟩
  have hcomma : Level [.code ", "] := Level.code (by decide)
  rw [runExpression_eq]
  refine wrapped_level (by decide) ?_ (wrapped_level (by decide) ?_
    (wrapped_level (by decide) (bareLayer_level _) (wrapped_level (by decide) (bareLayer_level _)
      (wrap_level (by decide) (commaSeparated_level htext) Level.nil))))
  · intro given hgiven
    obtain ⟨href, -, rfl⟩ := Option.map_eq_some_iff.mp hgiven
    exact (Level.literal href).cons hcomma
  · intro given hgiven
    obtain ⟨background, -, rfl⟩ := Option.map_eq_some_iff.mp hgiven
    have hfill : Level [.code "fill: "] := Level.code (by decide)
    exact (hfill.cons (color_level background)).append hcomma

theorem runBlock_level (styles : StyleTable) (runs : List Run) : Level (runBlock styles runs) := by
  have hline (run : Run) : Level (runLine styles run) := by
    have hindent : Level [.code "  "] := Level.code (by decide)
    have hbreak : Level [.code "\n"] := Level.code (by decide)
    exact (hindent.cons (runExpression_level styles run)).append hbreak
  have hopen : Turns [.code "#\x7b\n"] [] [.curly] := fun _ => rfl
  have hclose : Turns [.code "\x7d"] [.curly] [] := fun _ => rfl
  exact (hopen.cons ((Level.flatMap hline runs).within _)).append hclose

theorem textRule_level (arguments : TextArguments) : Level (textRule arguments.pieces) := by
  rw [textRule]
  split
  · exact Level.nil
  · have hopen : Turns [.code "#set text("] [] [.round] := fun _ => rfl
    have hclose : Turns [.code ")\n"] [.round] [] := fun _ => rfl
    exact (hopen.cons ((commaSeparated_level (arguments_level arguments)).within _)).append hclose

theorem leadingRule_level (lineHeight : Float) : Level (leadingRule lineHeight) := by
  intro outer
  have hleading : Bracketless (leading lineHeight).toList := by
    rw [leading, String.toList_ofList]
    exact bracketless_of_numberChars (Decimal.fixed_allNumberChars 2 _)
  have hsymbols : (leadingRule lineHeight).flatMap Piece.symbols =
      "#set par(leading: ".toList.map Symbol.code ++
        ((leading lineHeight).toList.map Symbol.code ++ "em)\n".toList.map Symbol.code) := by
    simp [leadingRule, Piece.symbols]
  have hopen : ("#set par(leading: ".toList.map Symbol.code).foldlM nest? outer =
      some (.round :: outer) := rfl
  rw [follow?, hsymbols, List.foldlM_append, List.nil_append, hopen]
  show ((leading lineHeight).toList.map Symbol.code ++ _).foldlM nest? (.round :: outer) = _
  rw [List.foldlM_append, foldlM_nest?_of_bracketless hleading]
  rfl

theorem blockRules_level (style : Style) : Level (blockRules style) := by
  rw [blockRules_eq]
  apply (textRule_level (TextArguments.ofStyle style)).append
  cases style.lineHeight with
  | none => exact Level.nil
  | some lineHeight => exact leadingRule_level lineHeight

theorem listItem_level (styles : StyleTable) (runs : List Run) : Level (listItem styles runs) := by
  have hpad : Turns [.code "  pad("] [] [.round] := fun _ => rfl
  have hbody : Turns [.code ")["] [.round] [.square] := fun _ => rfl
  have hclose : Turns [.code "],\n"] [.square] [] := fun _ => rfl
  exact ((hpad.cons ((padding_level listItemMargin).within _)).append
    (hbody.cons ((runBlock_level styles runs).within _))).append hclose

theorem nodeMarkup_level (styles : StyleTable) (node : Node) : Level (nodeMarkup styles node) := by
  -- Every node opens a round bracket for its margins and closes it for the square one of its body.
  have hmargins (margin : Margin) : Turns (.code "#pad(" :: padding margin) [] [.round] := by
    have hpad : Turns [.code "#pad("] [] [.round] := fun _ => rfl
    exact hpad.cons ((padding_level margin).within _)
  have hrules (style : Style) : Turns (.code ")[\n" :: blockRules style) [.round] [.square] := by
    have hbody : Turns [.code ")[\n"] [.round] [.square] := fun _ => rfl
    exact hbody.cons ((blockRules_level style).within _)
  cases node with
  | textBlock runs style margin =>
    have hruns : Turns (runBlock styles runs) [.square] [.square] := (runBlock_level styles runs).within _
    have hclose : Turns [.code "]\n\n"] [.square] [] := fun _ => rfl
    exact (((hmargins margin).append (hrules (styles.get style))).append hruns).append hclose
  | listBlock ordered items margin =>
    have hlist : Turns [.code (if ordered then "#enum(\n" else "#list(\n")] [.square]
        [.round, .square] := by
      cases ordered <;> exact fun _ => rfl
    have hitems : Turns (items.flatMap (listItem styles)) [.round, .square] [.round, .square] :=
      (Level.flatMap (listItem_level styles) items).within _
    have hclose : Turns [.code ")\n]\n\n"] [.round, .square] [] := fun _ => rfl
    exact (((hmargins margin).append (hrules styles.list)).append (hlist.cons hitems)).append hclose
  | ruleBlock line lineWidth lineColor margin =>
    have hcomma : Level [.code ", "] := Level.code (by decide)
    have hpoint (x y : Float) : Level [points x, .code ", ", points y] :=
      (points_level x).cons (hcomma.cons (points_level y))
    have hplus : Level [.code " + "] := Level.code (by decide)
    have hpen : Level (points lineWidth :: .code " + " :: color lineColor) :=
      (points_level lineWidth).cons (hplus.cons (color_level lineColor))
    have hline : Turns [.code ")[#line(start: ("] [.round] [.round, .round, .square] := fun _ => rfl
    have hend : Turns [.code "), end: ("] [.round, .round, .square] [.round, .round, .square] :=
      fun _ => rfl
    have hstroke : Turns [.code "), stroke: "] [.round, .round, .square] [.round, .square] := fun _ => rfl
    have hclose : Turns [.code ")]\n\n"] [.round, .square] [] := fun _ => rfl
    have hlines : Turns ([.code ")[#line(start: ("] ++ [points line.x1, .code ", ", points line.y1] ++
        [.code "), end: ("] ++ [points line.x2, .code ", ", points line.y2] ++ [.code "), stroke: "] ++
        (points lineWidth :: .code " + " :: color lineColor)) [.round] [.round, .square] :=
      ((((hline.append ((hpoint _ _).within _)).append hend).append ((hpoint _ _).within _)).append
        hstroke).append (hpen.within _)
    exact ((hmargins margin).append hlines).append hclose

theorem preamble_level (font : String) : Level (preamble font) := by
  have hfonts : Level (commaSeparated ((font :: fallbackFonts).map fun name => [.literal name])) := by
    apply commaSeparated_level
    intro item hitem
    obtain ⟨name, -, rfl⟩ := List.mem_map.mp hitem
    exact Level.literal name
  have hpage : Turns [.code "#set page(paper: "] [] [.round] := fun _ => rfl
  have hmargin : Level [.code ", margin: "] := Level.code (by decide)
  have htext : Turns [.code ")\n#set text(font: ("] [.round] [.round, .round] := fun _ => rfl
  have hsize : Turns [.code "), size: "] [.round, .round] [.round] := fun _ => rfl
  have hrules : Turns [.code ")\n#set par(spacing: 0pt)\n#set block(spacing: 0pt)\n\n"] [.round] [] :=
    fun _ => rfl
  have hpaper : Level [.literal "a4", .code ", margin: ", points pageMargin] :=
    (Level.literal "a4").cons (hmargin.cons (points_level pageMargin))
  exact (((hpage.cons (hpaper.within _)).append htext).append (hfonts.within _)).append
    (hsize.cons (((points_level baseFontSize).within _).cons hrules))

theorem pieces_level (document : Document) : Level (pieces document) :=
  (preamble_level document.defaultFont).append
    (Level.flatMap (nodeMarkup_level document.styles) document.content)

/-! ### The markup -/

theorem openBrackets?_render {pieces : List Piece} (hclean : Clean pieces) (hlevel : Level pieces) :
    openBrackets? (render pieces) = some [] := by
  rw [openBrackets?, scan?_render hclean, Option.bind_some]
  exact hlevel []

/-- **The brackets of the markup match.** Read from its beginning to its end the markup ends outside a
literal, each bracket of its code closes the one that was opened last, and none is left open. The same
holds up to the end of every node: the markup of the first nodes of a document is a beginning of its
markup, with the markup of the other nodes behind it, and there too nothing is open. -/
theorem openBrackets?_markup (document : Document) :
    openBrackets? (markup document).toList = some [] ∧
      ∀ n, (markup document).toList =
          (markup { document with content := document.content.take n }).toList ++
            render ((document.content.drop n).flatMap (nodeMarkup document.styles)) ∧
        openBrackets? (markup { document with content := document.content.take n }).toList = some [] := by
  have hmarkup (document : Document) : (markup document).toList = render (pieces document) := by
    rw [markup, String.toList_ofList]
  have hclosed (document : Document) : openBrackets? (markup document).toList = some [] := by
    rw [hmarkup]
    exact openBrackets?_render (pieces_clean document) (pieces_level document)
  refine ⟨hclosed document, fun n => ⟨?_, hclosed _⟩⟩
  have hsplit : pieces document = pieces { document with content := document.content.take n } ++
      (document.content.drop n).flatMap (nodeMarkup document.styles) := by
    rw [pieces, pieces, List.append_assoc, ← List.flatMap_append, List.take_append_drop]
  rw [hmarkup, hmarkup, hsplit]
  exact List.flatMap_append

end Folio.Typst
