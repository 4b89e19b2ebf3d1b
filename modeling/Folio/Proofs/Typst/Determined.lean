import Folio.Proofs.Typst.Reading
/-!
# The markup determines what is visible

The markup is read back from its beginning: of two equal markup texts, each emitting function takes the
same stretch off both, and the two stretches show the same. The calls around a run are told from the run
and from each other by their names, the rules of a block from the block, and the lines, items and nodes
from what closes their sequence.
-/

namespace Folio.Typst

open Text

variable {α β : Type} {r s : List Char}

theorem render_flatMap (write : α → List Piece) (xs : List α) :
    render (xs.flatMap write) = xs.flatMap fun x => render (write x) :=
  List.flatMap_assoc

theorem render_cons (piece : Piece) (t : List Piece) :
    render (piece :: t) = piece.render ++ render t :=
  rfl

theorem prefix_render_code (text : String) (t : List Piece) :
    text.toList <+: render (.code text :: t) :=
  List.prefix_append _ _

/-! ### Runs -/

theorem render_wrap (function : String) (arguments expression : List Piece) (rest : List Char) :
    render (wrap function arguments expression) ++ rest =
      (function ++ "(").toList ++ (render arguments ++ (render expression ++ ')' :: rest)) := by
  rw [wrap, List.cons_append, List.cons_append, render_code, render_append, render_append]
  simp only [List.append_assoc]
  rfl

theorem wrapped_startsIn (function : String) (arguments : Option (List Piece))
    {expression : List Piece} {words : List (List Char)}
    (hexpression : StartsIn words (render expression)) :
    StartsIn ((function ++ "(").toList :: words) (render (wrapped function arguments expression)) := by
  cases arguments with
  | none =>
    obtain ⟨w, hw, hbegins⟩ := hexpression
    exact ⟨w, List.mem_cons_of_mem _ hw, hbegins⟩
  | some arguments =>
    exact ⟨_, List.mem_cons_self, ⟨_, (render_wrap function arguments expression []).symm.trans
      (List.append_nil _)⟩⟩

/-- A call around an expression is recognised by the name of its function, since no expression inside
begins with that. -/
theorem wrapped_read {function : String} {arguments : α → List Piece} {view : α → β}
    (harguments : Readable (fun a => render (arguments a)) view) {words : List (List Char)}
    (hapart : ∀ w ∈ words, Apart (function ++ "(").toList w) {e e' : List Piece}
    (he : StartsIn words (render e)) (he' : StartsIn words (render e')) {o o' : Option α}
    (h : render (wrapped function (o.map arguments) e) ++ r =
      render (wrapped function (o'.map arguments) e') ++ s) :
    o.map view = o'.map view ∧ ∃ r' s', render e ++ r' = render e' ++ s' ∧ (r' = s' → r = s) := by
  have hname (given inner : List Piece) (rest : List Char) : (function ++ "(").toList <+:
      render (wrap function given inner) ++ rest := ⟨_, (render_wrap function given inner rest).symm⟩
  cases o with
  | none =>
    cases o' with
    | none => exact ⟨rfl, r, s, h, id⟩
    | some b =>
      -- Were the call on one side only, the other side would begin with its name as well.
      have hcall : render e ++ r = render (wrap function (arguments b) e') ++ s := h
      exact absurd (hcall ▸ hname (arguments b) e' s) ((he.append r).not_prefix_of_apart hapart)
  | some a =>
    cases o' with
    | none =>
      have hcall : render (wrap function (arguments a) e) ++ r = render e' ++ s := h
      exact absurd (hcall ▸ hname (arguments a) e r) ((he'.append s).not_prefix_of_apart hapart)
    | some b =>
      have hcall : render (wrap function (arguments a) e) ++ r =
          render (wrap function (arguments b) e') ++ s := h
      rw [render_wrap, render_wrap] at hcall
      obtain ⟨hview, hinner⟩ := harguments (List.append_cancel_left hcall)
      refine ⟨congrArg some hview, _, _, hinner, fun hrest => (List.cons.inj hrest).2⟩

theorem bareLayer_read {function : String} {words : List (List Char)}
    (hapart : ∀ w ∈ words, Apart (function ++ "(").toList w) {e e' : List Piece}
    (he : StartsIn words (render e)) (he' : StartsIn words (render e')) {present present' : Bool}
    (h : render (wrapped function (bareLayer present) e) ++ r =
      render (wrapped function (bareLayer present') e') ++ s) :
    present = present' ∧ ∃ r' s', render e ++ r' = render e' ++ s' ∧ (r' = s' → r = s) := by
  have hlayer (present : Bool) : bareLayer present =
      (if present then some () else none).map fun _ => [] := by cases present <;> rfl
  have hnothing : Readable (fun _ : Unit => render []) id := fun _ _ _ _ h => ⟨rfl, h⟩
  rw [hlayer, hlayer] at h
  obtain ⟨hpresent, hinner⟩ := wrapped_read hnothing hapart he he' h
  refine ⟨?_, hinner⟩
  cases present <;> cases present' <;> first | rfl | cases hpresent

theorem textCall_read {a b : TextArguments} {v w : String}
    (h : render (textCall a.pieces v) ++ r = render (textCall b.pieces w) ++ s) :
    a.look = b.look ∧ v = w ∧ r = s := by
  have hcall (a : TextArguments) (v : String) : textCall a.pieces v = wrap "text"
      (commaSeparated ((a.arguments ++ [Argument.body v]).map Argument.pieces)) [] := by
    rw [textCall, arguments_pieces, List.map_append]
    rfl
  rw [hcall, hcall, render_wrap, render_wrap] at h
  obtain ⟨harguments, hrest⟩ := arguments_read (List.append_cancel_left h)
  rw [List.map_append, List.map_append] at harguments
  obtain ⟨hlook, hbody⟩ := List.append_inj' harguments rfl
  obtain ⟨htext, -⟩ := List.cons.inj hbody
  exact ⟨look_eq_of_arguments hlook, Argument.body.inj htext, hrest⟩

theorem textCall_startsIn (arguments : List (List Piece)) (text : String) :
    StartsIn ["text(".toList] (render (textCall arguments text)) := by
  have hcall := render_wrap "text" (commaSeparated (arguments ++ [[.literal text]])) [] []
  exact ⟨_, List.mem_cons_self, ⟨_, hcall.symm.trans (List.append_nil _)⟩⟩

theorem linkArguments_readable : Readable (fun href => render (linkArguments href)) id := by
  intro a b r s h
  simp only [linkArguments, render_cons, List.append_assoc] at h
  obtain ⟨hhref, hrest⟩ := literalPiece_readable h
  exact ⟨hhref, List.append_cancel_left hrest⟩

theorem highlightArguments_readable :
    Readable (fun background => render (highlightArguments (color background))) colorText := by
  intro a b r s h
  simp only [highlightArguments, List.cons_append, render_code, render_append, List.append_assoc] at h
  obtain ⟨hcolor, hrest⟩ := color_readable (List.append_cancel_left h)
  exact ⟨hcolor, List.append_cancel_left hrest⟩

theorem runExpression_readable (styles : StyleTable) :
    Readable (fun run => render (runExpression styles run)) (Run.visible styles) := by
  intro a b r s h
  simp only [runExpression_eq] at h
  have htext (run : Run) := textCall_startsIn
    (runArguments (run.style.map styles.get) run).pieces run.text
  have hstruck (run : Run) := wrapped_startsIn "strike"
    (bareLayer (run.isStruck (run.style.map styles.get))) (htext run)
  have hunderlined (run : Run) := wrapped_startsIn "underline"
    (bareLayer (Style.isUnderlined (run.style.map styles.get))) (hstruck run)
  have hhighlighted (run : Run) := wrapped_startsIn "highlight"
    (((run.style.map styles.get).bind Style.background).map fun background =>
      highlightArguments (color background)) (hunderlined run)
  obtain ⟨htarget, r₁, s₁, h, hback₁⟩ := wrapped_read linkArguments_readable (by decide)
    (hhighlighted a) (hhighlighted b) h
  obtain ⟨hbackground, r₂, s₂, h, hback₂⟩ := wrapped_read highlightArguments_readable
    (by decide) (hunderlined a) (hunderlined b) h
  obtain ⟨hunderline, r₃, s₃, h, hback₃⟩ := bareLayer_read (by decide) (hstruck a)
    (hstruck b) h
  obtain ⟨hstrike, r₄, s₄, h, hback₄⟩ := bareLayer_read (by decide) (htext a) (htext b) h
  obtain ⟨hlook, htexts, hrest⟩ := textCall_read h
  refine ⟨?_, hback₁ (hback₂ (hback₃ (hback₄ hrest)))⟩
  simp only [Option.map_id, id_eq] at htarget
  simp only [Run.visible, htexts, hlook, hstrike, hunderline, hbackground, htarget]

/-! ### Blocks -/

theorem runLine_readable (styles : StyleTable) :
    Readable (fun run => render (runLine styles run)) (Run.visible styles) := by
  intro a b r s h
  simp only [runLine, List.cons_append, render_code, render_append, List.append_assoc] at h
  obtain ⟨hrun, hrest⟩ := runExpression_readable styles (List.append_cancel_left h)
  exact ⟨hrun, List.append_cancel_left hrest⟩

theorem runBlock_readable (styles : StyleTable) :
    Readable (fun runs => render (runBlock styles runs)) (List.map (Run.visible styles)) := by
  intro a b r s h
  have hclose (rest : List Char) : ¬ "  ".toList <+: "\x7d".toList ++ rest :=
    Apart.not_prefix_append (by decide) rest
  simp only [runBlock, List.cons_append, render_code, render_append, render_flatMap,
    List.append_assoc] at h
  obtain ⟨hruns, hrest⟩ := many_read (runLine_readable styles)
    (fun run => prefix_render_code "  " _) (hclose _) (hclose _) (List.append_cancel_left h)
  exact ⟨hruns, List.append_cancel_left hrest⟩

theorem padding_readable : Readable (fun margin => render (padding margin)) Margin.printed := by
  intro a b r s h
  simp only [padding, render_cons, List.append_assoc] at h
  obtain ⟨hleft, h⟩ := points_readable (List.append_cancel_left h)
  obtain ⟨htop, h⟩ := points_readable (List.append_cancel_left h)
  obtain ⟨hright, h⟩ := points_readable (List.append_cancel_left h)
  obtain ⟨hbottom, h⟩ := points_readable (List.append_cancel_left h)
  refine ⟨?_, h⟩
  simp only [Margin.printed, List.map_cons, List.map_nil, hleft, htop, hright, hbottom]

theorem textRule_read {xs ys : List (Argument Float String)}
    (hr : ¬ "#set text(".toList <+: r) (hs : ¬ "#set text(".toList <+: s)
    (h : render (textRule (xs.map Argument.pieces)) ++ r =
      render (textRule (ys.map Argument.pieces)) ++ s) :
    xs.map Argument.printed = ys.map Argument.printed ∧ r = s := by
  have hrule (x : Argument Float String) (xs : List (Argument Float String)) (rest : List Char) :
      render (textRule ((x :: xs).map Argument.pieces)) ++ rest = "#set text(".toList ++
        (render (commaSeparated ((x :: xs).map Argument.pieces)) ++ ')' :: '\n' :: rest) := by
    rw [textRule, List.map_cons, List.isEmpty_cons, if_neg Bool.false_ne_true, List.cons_append,
      render_code, render_append, List.append_assoc, List.append_assoc]
    rfl
  cases xs with
  | nil =>
    cases ys with
    | nil => exact ⟨rfl, h⟩
    | cons y ys =>
      rw [hrule] at h
      have hbegins : r = _ := h
      exact absurd (hbegins ▸ List.prefix_append _ _) hr
  | cons x xs =>
    cases ys with
    | nil =>
      rw [hrule] at h
      have hbegins : s = _ := h.symm
      exact absurd (hbegins ▸ List.prefix_append _ _) hs
    | cons y ys =>
      rw [hrule, hrule] at h
      obtain ⟨hviews, hrest⟩ := arguments_read (List.append_cancel_left h)
      exact ⟨hviews, (List.cons.inj hrest).2⟩

theorem render_leadingRule (x : Float) (rest : List Char) : render (leadingRule x) ++ rest =
    "#set par(leading: ".toList ++
      (Decimal.fixed 2 (baseLeading * x) ++ 'e' :: ("m)\n".toList ++ rest)) := by
  rw [leadingRule, render_code, leading]
  simp only [String.toList_append, String.toList_ofList, List.append_assoc]
  rfl

theorem leadingRule_readable : Readable (fun x => render (leadingRule x)) leading := by
  intro x y r s h
  simp only [render_leadingRule] at h
  obtain ⟨hleading, hrest⟩ := stretch_read (Decimal.fixed_allNumberChars 2 _)
    (Decimal.fixed_allNumberChars 2 _) (by decide) (by decide) (List.append_cancel_left h)
  exact ⟨congrArg String.ofList hleading, List.append_cancel_left (List.cons.inj hrest).2⟩

/-- What stands behind the rules of a block: its runs, or the call of its list. -/
def blockWords : List (List Char) :=
  ["#\x7b\n".toList, "#enum(\n".toList, "#list(\n".toList]

theorem blockRules_read {style style' : Style} (hr : StartsIn blockWords r)
    (hs : StartsIn blockWords s)
    (h : render (blockRules style) ++ r = render (blockRules style') ++ s) :
    style.visible = style'.visible ∧ r = s := by
  have hleading (x : Float) : "#set par(leading: ".toList <+: render (leadingRule x) :=
    ⟨_, (render_leadingRule x []).symm.trans (List.append_nil _)⟩
  have helim (o : Option Float) : render ((o.map leadingRule).getD []) =
      o.elim [] fun x => render (leadingRule x) := by cases o <;> rfl
  have hafter (o : Option Float) {t : List Char} (ht : StartsIn blockWords t) :
      ¬ "#set text(".toList <+: (o.elim [] fun x => render (leadingRule x)) ++ t := by
    cases o with
    | none => exact ht.not_prefix_of_apart (by decide)
    | some x =>
      show ¬ "#set text(".toList <+: render (leadingRule x) ++ t
      rw [render_leadingRule]
      exact Apart.not_prefix_append (by decide) _
  simp only [blockRules_eq, render_append, arguments_pieces, helim, List.append_assoc] at h
  obtain ⟨harguments, h⟩ := textRule_read (hafter _ hr) (hafter _ hs) h
  obtain ⟨hlineHeight, h⟩ := optional_read leadingRule_readable hleading
    (hr.not_prefix_of_apart (by decide)) (hs.not_prefix_of_apart (by decide)) h
  refine ⟨?_, h⟩
  rw [Style.visible, Style.visible, look_eq_of_arguments harguments, hlineHeight]

/-! ### Nodes -/

theorem listItem_readable (styles : StyleTable) :
    Readable (fun runs => render (listItem styles runs)) (List.map (Run.visible styles)) := by
  intro a b r s h
  simp only [listItem, List.cons_append, render_code, render_append, List.append_assoc] at h
  have h := List.append_cancel_left (List.append_cancel_left (List.append_cancel_left h))
  obtain ⟨hruns, h⟩ := runBlock_readable styles h
  exact ⟨hruns, List.append_cancel_left h⟩

/-- The word that opens a list. -/
def listWord (ordered : Bool) : String :=
  if ordered then "#enum(\n" else "#list(\n"

theorem listWord_read {ordered ordered' : Bool}
    (h : (listWord ordered).toList ++ r = (listWord ordered').toList ++ s) :
    ordered = ordered' ∧ r = s := by
  have hapart : ordered ≠ ordered' →
      Apart (listWord ordered).toList (listWord ordered').toList := by
    cases ordered <;> cases ordered' <;> decide
  exact @word_read Bool (fun ordered => (listWord ordered).toList) _ _ hapart _ _ h

/-- What a node writes behind the opening of its padded block. -/
def nodeBody (styles : StyleTable) : Node → List Piece
  | .textBlock runs style _ =>
    .code "\n" :: blockRules (styles.get style) ++ (runBlock styles runs ++ [.code "]\n\n"])
  | .listBlock ordered items _ =>
    .code "\n" :: blockRules styles.list ++ (.code (listWord ordered) ::
      items.flatMap (listItem styles) ++ [.code ")\n]\n\n"])
  | .ruleBlock line lineWidth lineColor _ =>
    .code "#line(start: (" :: points line.x1 :: .code ", " :: points line.y1 ::
      .code "), end: (" :: points line.x2 :: .code ", " :: points line.y2 ::
      .code "), stroke: " :: points lineWidth :: .code " + " :: color lineColor ++
      [.code ")]\n\n"]

def nodeMargin : Node → Margin
  | .textBlock _ _ margin => margin
  | .listBlock _ _ margin => margin
  | .ruleBlock _ _ _ margin => margin

theorem render_nodeMarkup (styles : StyleTable) (node : Node) :
    render (nodeMarkup styles node) = "#pad(".toList ++
      (render (padding (nodeMargin node)) ++ (")[".toList ++ render (nodeBody styles node))) := by
  cases node with
  | textBlock runs style margin =>
    simp only [nodeMarkup, nodeBody, List.cons_append, render_code, render_append, List.append_assoc]
    rfl
  | listBlock ordered items margin =>
    simp only [nodeMarkup, nodeBody, List.cons_append, render_code, render_append, List.append_assoc]
    rfl
  | ruleBlock line lineWidth lineColor margin =>
    simp only [nodeMarkup, nodeBody, List.cons_append, render_cons, render_append, List.append_assoc]
    rfl

theorem runBlock_startsIn (styles : StyleTable) (runs : List Run) :
    StartsIn blockWords (render (runBlock styles runs)) :=
  ⟨_, List.mem_cons_self, prefix_render_code "#\x7b\n" _⟩

theorem listWord_startsIn (ordered : Bool) (rest : List Char) :
    StartsIn blockWords ((listWord ordered).toList ++ rest) := by
  refine ⟨(listWord ordered).toList, ?_, List.prefix_append _ rest⟩
  cases ordered <;> decide

theorem runBlock_ne_listWord (styles : StyleTable) (runs : List Run) (ordered : Bool)
    (v w : List Char) : render (runBlock styles runs) ++ v ≠ (listWord ordered).toList ++ w := by
  have hapart : Apart "#\x7b\n".toList (listWord ordered).toList := by
    cases ordered <;> decide
  rw [runBlock, List.cons_append, render_code, List.append_assoc]
  exact hapart.append_ne _ w

theorem textBody_read (styles : StyleTable) {runs runs' : List Run} {style style' : StyleName}
    {margin margin' : Margin}
    (h : render (nodeBody styles (.textBlock runs style margin)) ++ r =
      render (nodeBody styles (.textBlock runs' style' margin')) ++ s) :
    (styles.get style).visible = (styles.get style').visible ∧
      runs.map (Run.visible styles) = runs'.map (Run.visible styles) ∧ r = s := by
  simp only [nodeBody, List.cons_append, render_cons, render_append, List.append_assoc] at h
  obtain ⟨hstyle, h⟩ := blockRules_read ((runBlock_startsIn styles runs).append _)
    ((runBlock_startsIn styles runs').append _) (List.append_cancel_left h)
  obtain ⟨hruns, h⟩ := runBlock_readable styles h
  exact ⟨hstyle, hruns, List.append_cancel_left h⟩

theorem listBody_read (styles : StyleTable) {ordered ordered' : Bool} {items items' : List (List Run)}
    {margin margin' : Margin}
    (h : render (nodeBody styles (.listBlock ordered items margin)) ++ r =
      render (nodeBody styles (.listBlock ordered' items' margin')) ++ s) :
    ordered = ordered' ∧
      items.map (List.map (Run.visible styles)) = items'.map (List.map (Run.visible styles)) ∧
      r = s := by
  have hclose (rest : List Char) : ¬ "  pad(".toList <+: ")\n]\n\n".toList ++ rest :=
    Apart.not_prefix_append (by decide) rest
  simp only [nodeBody, List.cons_append, render_cons, render_append, List.append_assoc] at h
  obtain ⟨-, h⟩ := blockRules_read (listWord_startsIn ordered _) (listWord_startsIn ordered' _)
    (List.append_cancel_left h)
  obtain ⟨hordered, h⟩ := listWord_read h
  rw [render_flatMap, render_flatMap] at h
  obtain ⟨hitems, h⟩ := many_read (listItem_readable styles)
    (fun runs => prefix_render_code "  pad(" _) (hclose r) (hclose s) h
  exact ⟨hordered, hitems, List.append_cancel_left h⟩

theorem ruleBody_read (styles : StyleTable) {line line' : Line} {lineWidth lineWidth' : Float}
    {lineColor lineColor' : String} {margin margin' : Margin}
    (h : render (nodeBody styles (.ruleBlock line lineWidth lineColor margin)) ++ r =
      render (nodeBody styles (.ruleBlock line' lineWidth' lineColor' margin')) ++ s) :
    line.printed = line'.printed ∧ Decimal.plain lineWidth = Decimal.plain lineWidth' ∧
      colorText lineColor = colorText lineColor' ∧ r = s := by
  simp only [nodeBody, List.cons_append, render_cons, render_append, List.append_assoc] at h
  obtain ⟨hx1, h⟩ := points_readable (List.append_cancel_left h)
  obtain ⟨hy1, h⟩ := points_readable (List.append_cancel_left h)
  obtain ⟨hx2, h⟩ := points_readable (List.append_cancel_left h)
  obtain ⟨hy2, h⟩ := points_readable (List.append_cancel_left h)
  obtain ⟨hwidth, h⟩ := points_readable (List.append_cancel_left h)
  obtain ⟨hcolor, h⟩ := color_readable (List.append_cancel_left h)
  refine ⟨?_, hwidth, hcolor, List.append_cancel_left h⟩
  simp only [Line.printed, List.map_cons, List.map_nil, hx1, hy1, hx2, hy2]

/-- A rule is told from a block by what follows its padding. -/
theorem ruleBody_ne {styles : StyleTable} {line : Line} {lineWidth : Float} {lineColor : String}
    {margin : Margin} (t : List Piece) :
    render (.code "\n" :: t) ++ r ≠
      render (nodeBody styles (.ruleBlock line lineWidth lineColor margin)) ++ s := by
  have hline : Apart "\n".toList "#line(start: (".toList := by decide
  simp only [nodeBody, List.cons_append, render_code, List.append_assoc]
  exact hline.append_ne _ _

/-- A text is told from a list by what follows its rules. -/
theorem textBody_ne (styles : StyleTable) {runs : List Run} {style : StyleName} {ordered : Bool}
    {items : List (List Run)} {margin margin' : Margin} :
    render (nodeBody styles (.textBlock runs style margin)) ++ r ≠
      render (nodeBody styles (.listBlock ordered items margin')) ++ s := by
  intro h
  simp only [nodeBody, List.cons_append, render_cons, render_append, List.append_assoc] at h
  obtain ⟨-, h⟩ := blockRules_read ((runBlock_startsIn styles runs).append _)
    (listWord_startsIn ordered _) (List.append_cancel_left h)
  exact runBlock_ne_listWord styles runs ordered _ _ h

theorem nodeBody_read (styles : StyleTable) {a b : Node}
    (hmargins : (nodeMargin a).printed = (nodeMargin b).printed)
    (h : render (nodeBody styles a) ++ r = render (nodeBody styles b) ++ s) :
    a.visible styles = b.visible styles ∧ r = s := by
  cases a with
  | textBlock runs style margin =>
    cases b with
    | textBlock runs' style' margin' =>
      obtain ⟨hstyle, hruns, hrest⟩ := textBody_read styles h
      have hmargin : margin.printed = margin'.printed := hmargins
      refine ⟨?_, hrest⟩
      rw [Node.visible, Node.visible, hruns, hstyle, hmargin]
    | listBlock ordered' items' margin' => exact absurd h (textBody_ne styles)
    | ruleBlock line' lineWidth' lineColor' margin' => exact absurd h (ruleBody_ne _)
  | listBlock ordered items margin =>
    cases b with
    | textBlock runs' style' margin' => exact absurd h.symm (textBody_ne styles)
    | listBlock ordered' items' margin' =>
      obtain ⟨hordered, hitems, hrest⟩ := listBody_read styles h
      have hmargin : margin.printed = margin'.printed := hmargins
      refine ⟨?_, hrest⟩
      rw [Node.visible, Node.visible, hordered, hitems, hmargin]
    | ruleBlock line' lineWidth' lineColor' margin' => exact absurd h (ruleBody_ne _)
  | ruleBlock line lineWidth lineColor margin =>
    cases b with
    | textBlock runs' style' margin' => exact absurd h.symm (ruleBody_ne _)
    | listBlock ordered' items' margin' => exact absurd h.symm (ruleBody_ne _)
    | ruleBlock line' lineWidth' lineColor' margin' =>
      obtain ⟨hline, hwidth, hcolor, hrest⟩ := ruleBody_read styles h
      have hmargin : margin.printed = margin'.printed := hmargins
      refine ⟨?_, hrest⟩
      rw [Node.visible, Node.visible, hline, hwidth, hcolor, hmargin]

theorem nodeMarkup_readable (styles : StyleTable) :
    Readable (fun node => render (nodeMarkup styles node)) (Node.visible styles) := by
  intro a b r s h
  simp only [render_nodeMarkup, List.append_assoc] at h
  obtain ⟨hmargin, h⟩ := padding_readable (List.append_cancel_left h)
  exact nodeBody_read styles hmargin (List.append_cancel_left h)

end Folio.Typst
