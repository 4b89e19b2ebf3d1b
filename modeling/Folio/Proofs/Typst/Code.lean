import Folio.Proofs.Typst.Layers
import Folio.Proofs.Typst.Scan
/-!
# No quote in the code

The code of the markup is made of fixed words, names of colours and written numbers. None of these has a
quote, so the only quotes outside the literals' bodies are the ones that rendering puts around them.
-/

namespace Folio.Typst

variable {s t : List Piece}

theorem clean_nil : Clean [] :=
  List.forall_mem_nil _

@[simp]
theorem clean_cons {piece : Piece} : Clean (piece :: t) ↔ piece.Clean ∧ Clean t :=
  List.forall_mem_cons

@[simp]
theorem clean_append : Clean (s ++ t) ↔ Clean s ∧ Clean t :=
  List.forall_mem_append

theorem clean_flatMap {α : Type} {write : α → List Piece} {xs : List α}
    (h : ∀ x ∈ xs, Clean (write x)) : Clean (xs.flatMap write) := by
  intro piece hpiece
  obtain ⟨x, hx, hmem⟩ := List.mem_flatMap.mp hpiece
  exact h x hx piece hmem

theorem clean_literal (text : String) : (Piece.literal text).Clean :=
  trivial

theorem quote_not_mem_of_numberChars {text : List Char} (htext : Decimal.AllNumberChars text) :
    '"' ∉ text := by
  intro hquote
  have hnumber := htext '"' hquote
  revert hnumber
  decide

theorem points_clean (x : Float) : (points x).Clean := by
  have hnumber := quote_not_mem_of_numberChars (Decimal.plain_allNumberChars x)
  have hunit : '"' ∉ "pt".toList := by decide
  simp only [points, Piece.Clean, String.toList_append, Decimal.toList_plainString, List.mem_append]
  exact fun h => h.elim hnumber hunit

theorem leading_clean (lineHeight : Float) : '"' ∉ (leading lineHeight).toList := by
  rw [leading, String.toList_ofList]
  exact quote_not_mem_of_numberChars (Decimal.fixed_allNumberChars 2 _)

theorem namedColors_clean : ∀ name ∈ namedColors, (Piece.code name).Clean := by
  decide

theorem color_clean (text : String) : Clean (color text) := by
  unfold color
  split
  · decide
  · split
    · next hnamed =>
      have hname : (Piece.code text).Clean :=
        namedColors_clean text (List.contains_iff_mem.mp hnamed)
      exact List.forall_mem_singleton.mpr hname
    · exact clean_cons.mpr ⟨by decide, clean_cons.mpr ⟨trivial, by decide⟩⟩

theorem padding_clean (margin : Margin) : Clean (padding margin) := by
  simp only [padding, clean_cons, points_clean, true_and]
  decide

theorem commaSeparated_clean {items : List (List Piece)} (hitems : ∀ item ∈ items, Clean item) :
    Clean (commaSeparated items) := by
  induction items using commaSeparated.induct with
  | case1 => exact clean_nil
  | case2 item => exact hitems item List.mem_cons_self
  | case3 item rest hrest ih =>
    obtain ⟨hitem, hitems⟩ := List.forall_mem_cons.mp hitems
    rw [commaSeparated.eq_3 item rest hrest, clean_append, clean_cons]
    exact ⟨hitem, by decide, ih hitems⟩

/-- The five kinds of argument. -/
theorem arguments_cases {arguments : TextArguments} {item : List Piece}
    (hitem : item ∈ arguments.pieces) :
    (∃ font, item = [.code "font: ", .literal font]) ∨
      (∃ size, item = [.code "size: ", points size]) ∨
      item = [.code "weight: ", .literal "bold"] ∨
      item = [.code "style: ", .literal "italic"] ∨
      ∃ fill, item = .code "fill: " :: color fill := by
  simp only [TextArguments.pieces, List.mem_append, Option.mem_toList, Option.map_eq_some_iff] at hitem
  obtain (((⟨font, -, rfl⟩ | ⟨size, -, rfl⟩) | hbold) | hitalic) | ⟨fill, -, rfl⟩ := hitem
  · exact Or.inl ⟨font, rfl⟩
  · exact Or.inr (Or.inl ⟨size, rfl⟩)
  · split at hbold
    · exact Or.inr (Or.inr (Or.inl (List.mem_singleton.mp hbold)))
    · exact absurd hbold List.not_mem_nil
  · split at hitalic
    · exact Or.inr (Or.inr (Or.inr (Or.inl (List.mem_singleton.mp hitalic))))
    · exact absurd hitalic List.not_mem_nil
  · exact Or.inr (Or.inr (Or.inr (Or.inr ⟨fill, rfl⟩)))

theorem arguments_clean (arguments : TextArguments) : ∀ item ∈ arguments.pieces, Clean item := by
  intro item hitem
  obtain ⟨font, rfl⟩ | ⟨size, rfl⟩ | rfl | rfl | ⟨fill, rfl⟩ := arguments_cases hitem
  · exact clean_cons.mpr ⟨by decide, clean_cons.mpr ⟨trivial, clean_nil⟩⟩
  · exact clean_cons.mpr ⟨by decide, clean_cons.mpr ⟨points_clean size, clean_nil⟩⟩
  · decide
  · decide
  · exact clean_cons.mpr ⟨by decide, color_clean fill⟩

theorem wrap_clean {function : String} {arguments expression : List Piece}
    (hfunction : '"' ∉ function.toList) (harguments : Clean arguments)
    (hexpression : Clean expression) : Clean (wrap function arguments expression) := by
  have hopen : (Piece.code (function ++ "(")).Clean := by
    have hparenthesis : '"' ∉ "(".toList := by decide
    simp only [Piece.Clean, String.toList_append, List.mem_append]
    exact fun h => h.elim hfunction hparenthesis
  rw [wrap, clean_append, List.cons_append, clean_cons, clean_append]
  exact ⟨⟨hopen, harguments, hexpression⟩, by decide⟩

theorem wrapped_clean {function : String} {arguments : Option (List Piece)}
    {expression : List Piece} (hfunction : '"' ∉ function.toList)
    (harguments : ∀ given ∈ arguments, Clean given) (hexpression : Clean expression) :
    Clean (wrapped function arguments expression) := by
  cases arguments with
  | none => exact hexpression
  | some arguments => exact wrap_clean hfunction (harguments arguments rfl) hexpression

theorem bareLayer_clean (present : Bool) : ∀ given ∈ bareLayer present, Clean given := by
  cases present <;> decide

theorem runExpression_clean (styles : StyleTable) (run : Run) :
    Clean (runExpression styles run) := by
  have htext : ∀ item ∈ (runArguments (run.style.map styles.get) run).pieces ++
      [[Piece.literal run.text]], Clean item :=
    List.forall_mem_append.mpr ⟨arguments_clean _,
      List.forall_mem_singleton.mpr (List.forall_mem_singleton.mpr (clean_literal run.text))⟩
  rw [runExpression_eq]
  refine wrapped_clean (by decide) ?_ (wrapped_clean (by decide) ?_
    (wrapped_clean (by decide) (bareLayer_clean _) (wrapped_clean (by decide) (bareLayer_clean _)
      (wrap_clean (by decide) (commaSeparated_clean htext) clean_nil))))
  · intro given hgiven
    obtain ⟨href, -, rfl⟩ := Option.map_eq_some_iff.mp hgiven
    exact clean_cons.mpr ⟨clean_literal href, by decide⟩
  · intro given hgiven
    obtain ⟨background, -, rfl⟩ := Option.map_eq_some_iff.mp hgiven
    simp only [highlightArguments, clean_append, List.cons_append, clean_cons, color_clean, true_and]
    decide

theorem runBlock_clean (styles : StyleTable) (runs : List Run) : Clean (runBlock styles runs) := by
  have hlines : Clean (runs.flatMap (runLine styles)) := by
    refine clean_flatMap fun run _ => ?_
    simp only [runLine, List.cons_append, clean_cons, clean_append, runExpression_clean, true_and]
    decide
  simp only [runBlock, List.cons_append, clean_cons, clean_append, hlines, true_and]
  decide

theorem blockRules_clean (style : Style) : Clean (blockRules style) := by
  rw [blockRules_eq, clean_append]
  constructor
  · rw [textRule]
    split
    · exact clean_nil
    · simp only [List.cons_append, clean_cons, clean_append,
        commaSeparated_clean (arguments_clean _), true_and]
      decide
  · cases style.lineHeight with
    | none => exact clean_nil
    | some lineHeight =>
      refine List.forall_mem_singleton.mpr ?_
      simp only [Piece.Clean, String.toList_append, List.mem_append, leading_clean, or_false]
      decide

theorem nodeMarkup_clean (styles : StyleTable) (node : Node) : Clean (nodeMarkup styles node) := by
  cases node with
  | textBlock runs style margin =>
    simp only [nodeMarkup, List.cons_append, clean_cons, clean_append, padding_clean,
      blockRules_clean, runBlock_clean, true_and]
    decide
  | listBlock ordered items margin =>
    have hitems : Clean (items.flatMap (listItem styles)) := by
      refine clean_flatMap fun runs _ => ?_
      simp only [listItem, List.cons_append, clean_cons, clean_append, padding_clean,
        runBlock_clean, true_and]
      decide
    simp only [nodeMarkup, List.cons_append, clean_cons, clean_append, padding_clean,
      blockRules_clean, hitems, true_and]
    cases ordered <;> decide
  | ruleBlock line lineWidth lineColor margin =>
    simp only [nodeMarkup, List.cons_append, clean_cons, clean_append, padding_clean,
      points_clean, color_clean, true_and]
    decide

theorem preamble_clean (font : String) : Clean (preamble font) := by
  have hfonts : Clean (commaSeparated ((font :: fallbackFonts).map fun name => [.literal name])) := by
    refine commaSeparated_clean fun item hitem => ?_
    obtain ⟨name, -, rfl⟩ := List.mem_map.mp hitem
    exact List.forall_mem_singleton.mpr (clean_literal name)
  simp only [preamble, clean_cons, clean_append, points_clean, hfonts, true_and]
  decide

/-- No code of the markup has a quote. -/
theorem pieces_clean (document : Document) : Clean (pieces document) :=
  clean_append.mpr ⟨preamble_clean document.defaultFont,
    clean_flatMap fun node _ => nodeMarkup_clean document.styles node⟩

end Folio.Typst
