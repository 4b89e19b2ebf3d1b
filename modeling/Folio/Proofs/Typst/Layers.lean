import Folio.Typst.Markup
/-!
# The parts of a run and of a block

The expression of a run is a call of `text` with up to four calls around it. Each of these is there or
not for a reason of its own, independent of the others, so a fact about the expression is a fact about
the call of `text` and one about a single layer, used four times. In the same way the rules of a block
are one rule for its text and one for its leading.
-/

namespace Folio.Typst

/-- An expression inside a call, where there are arguments for the call. -/
def wrapped (function : String) : Option (List Piece) → List Piece → List Piece
  | some arguments, expression => wrap function arguments expression
  | none, expression => expression

/-- The arguments of a call that has none before the expression. -/
def bareLayer (present : Bool) : Option (List Piece) :=
  if present then some [] else none

def highlightArguments (color : List Piece) : List Piece :=
  .code "fill: " :: color ++ [.code ", "]

def linkArguments (href : String) : List Piece :=
  [.literal href, .code ", "]

def textCall (arguments : List (List Piece)) (text : String) : List Piece :=
  wrap "text" (commaSeparated (arguments ++ [[.literal text]])) []

end Folio.Typst

namespace Folio

/-- A run is struck by its own mark or by its style. -/
def Run.isStruck (style : Option Style) (run : Run) : Bool :=
  run.strikethrough || style.bind Style.decoration = some .lineThrough

def Style.isUnderlined (style : Option Style) : Bool :=
  style.bind Style.decoration = some .underline

/-- An empty link leads nowhere. -/
def Run.target (run : Run) : Option String :=
  run.link.filter (· ≠ "")

end Folio

namespace Folio.Typst

theorem runExpression_eq (styles : StyleTable) (run : Run) :
    runExpression styles run =
      wrapped "link" (run.target.map linkArguments)
        (wrapped "highlight"
          (((run.style.map styles.get).bind Style.background).map fun background =>
            highlightArguments (color background))
          (wrapped "underline" (bareLayer (Style.isUnderlined (run.style.map styles.get)))
            (wrapped "strike" (bareLayer (run.isStruck (run.style.map styles.get)))
              (textCall (runArguments (run.style.map styles.get) run).pieces run.text)))) := by
  unfold runExpression
  extract_lets style decoration plain struck underlined highlighted
  have hstruck : struck = wrapped "strike" (bareLayer (run.isStruck style)) plain := by
    show (if run.isStruck style then wrap "strike" [] plain else plain) = _
    cases run.isStruck style <;> rfl
  have hunderlined :
      underlined = wrapped "underline" (bareLayer (Style.isUnderlined style)) struck := by
    by_cases hdecoration : decoration = some .underline
    · have hmark : Style.isUnderlined style = true := decide_eq_true hdecoration
      rw [hmark]
      exact if_pos hdecoration
    · have hmark : Style.isUnderlined style = false := decide_eq_false hdecoration
      rw [hmark]
      exact if_neg hdecoration
  have hhighlighted : highlighted = wrapped "highlight"
      ((style.bind Style.background).map fun background => highlightArguments (color background))
      underlined := by
    simp only [highlighted]
    cases style.bind Style.background <;> rfl
  have hinner : highlighted = wrapped "highlight"
      (((run.style.map styles.get).bind Style.background).map fun background =>
        highlightArguments (color background))
      (wrapped "underline" (bareLayer (Style.isUnderlined (run.style.map styles.get)))
        (wrapped "strike" (bareLayer (run.isStruck (run.style.map styles.get)))
          (textCall (runArguments (run.style.map styles.get) run).pieces run.text))) := by
    rw [hhighlighted, hunderlined, hstruck]
    rfl
  rw [← hinner, Run.target]
  cases run.link with
  | none => rfl
  | some href =>
    by_cases hempty : href = ""
    · simp only [hempty, if_pos, Option.filter_some, ne_eq, not_true, decide_false]
      rfl
    · simp only [hempty, if_false, Option.filter_some, ne_eq, not_false_iff, decide_true, if_true]
      rfl

/-! ### The rules of a block -/

/-- The rule that sets the attributes of a block, where there are any. -/
def textRule (arguments : List (List Piece)) : List Piece :=
  if arguments.isEmpty then []
  else .code "#set text(" :: commaSeparated arguments ++ [.code ")\n"]

def leadingRule (lineHeight : Float) : List Piece :=
  [.code ("#set par(leading: " ++ leading lineHeight ++ "em)\n")]

theorem blockRules_eq (style : Style) : blockRules style =
    textRule (TextArguments.ofStyle style).pieces ++
      (style.lineHeight.map leadingRule).getD [] := by
  rw [blockRules, textRule]
  cases style.lineHeight <;> rfl

end Folio.Typst
