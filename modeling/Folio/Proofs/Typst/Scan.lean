import Folio.Proofs.Decimal.Characters
import Folio.Proofs.Typst.Literal
import Folio.Typst.Markup
/-!
# Scanning a markup text

A scan divides a text into the characters of its code and its string literals, and fails where a literal
is not closed. It knows nothing of pieces. Still it finds them again in a rendered text: a literal ends
at its own quote, and the code has no quotes at all, whatever the document. The skeleton is what the scan
leaves of a text when the literals are covered.
-/

namespace Folio.Typst

/-- A character of the code, or a whole literal by its body as it is written. -/
inductive Symbol where
  | code (c : Char)
  | literal (body : List Char)
deriving DecidableEq, Repr

theorem splitLiteral?_length {text body rest : List Char}
    (hsplit : splitLiteral? text = some (body, rest)) : rest.length < text.length := by
  induction text using splitLiteral?.induct generalizing body with
  | case1 => cases hsplit
  | case2 text =>
    cases hsplit
    exact Nat.lt_succ_self _
  | case3 c text ih =>
    obtain ⟨⟨body, _⟩, hrest, heq⟩ := Option.map_eq_some_iff.mp hsplit
    cases heq
    have := ih hrest
    simp only [List.length_cons]
    omega
  | case4 c text hquote hbackslash ih =>
    rw [splitLiteral?.eq_4 _ _ hquote hbackslash] at hsplit
    obtain ⟨⟨body, _⟩, hrest, heq⟩ := Option.map_eq_some_iff.mp hsplit
    cases heq
    exact Nat.lt_succ_of_lt (ih hrest)

/-- `none` where the text ends inside a literal. -/
def scan? : List Char → Option (List Symbol)
  | [] => some []
  | c :: rest =>
    if c = '"' then
      match hsplit : splitLiteral? rest with
      | none => none
      | some (body, after) =>
        have := splitLiteral?_length hsplit
        (scan? after).map (.literal body :: ·)
    else (scan? rest).map (.code c :: ·)
termination_by text => text.length

/-- A literal leaves a mark that is the same for all literals. -/
def Symbol.outline : Symbol → Option Char
  | code c => some c
  | literal _ => none

def Symbol.body? : Symbol → Option (List Char)
  | code _ => none
  | literal body => some body

/-- The code of a text, with a mark in the place of each literal. -/
def skeleton? (text : List Char) : Option (List (Option Char)) :=
  (scan? text).map fun symbols => symbols.map Symbol.outline

/-- What the literals of a text mean, from left to right. -/
def literals? (text : List Char) : Option (List (List Char)) :=
  (scan? text).bind fun symbols => (symbols.filterMap Symbol.body?).mapM unescape?

theorem scan?_nil : scan? [] = some [] := by
  rw [scan?]

theorem scan?_literal (text rest : List Char) :
    scan? (literal text ++ rest) =
      (scan? rest).map (.literal (text.flatMap literalChar) :: ·) := by
  have hopen : literal text ++ rest = '"' :: (text.flatMap literalChar ++ '"' :: rest) := by
    rw [literal, List.append_assoc]
    rfl
  rw [hopen, scan?, if_pos rfl]
  split
  · next hsplit =>
    rw [splitLiteral?_body] at hsplit
    cases hsplit
  · next body after hsplit =>
    rw [splitLiteral?_body] at hsplit
    cases hsplit
    rfl

theorem scan?_code {text : List Char} (htext : '"' ∉ text) (rest : List Char) :
    scan? (text ++ rest) = (scan? rest).map (text.map .code ++ ·) := by
  induction text with
  | nil => exact Option.map_id'.symm
  | cons c text ih =>
    obtain ⟨hc, htext⟩ := List.ne_and_not_mem_of_not_mem_cons htext
    rw [List.cons_append, scan?, if_neg (Ne.symm hc), ih htext, Option.map_map]
    rfl

/-! ### Rendered pieces -/

/-- Code without a quote. -/
def Piece.Clean : Piece → Prop
  | code text => '"' ∉ text.toList
  | literal _ => True

instance : (piece : Piece) → Decidable piece.Clean
  | .code text => inferInstanceAs (Decidable ('"' ∉ text.toList))
  | .literal _ => inferInstanceAs (Decidable True)

def Clean (pieces : List Piece) : Prop :=
  ∀ piece ∈ pieces, piece.Clean

instance (pieces : List Piece) : Decidable (Clean pieces) :=
  inferInstanceAs (Decidable (∀ piece ∈ pieces, piece.Clean))

def Piece.symbols : Piece → List Symbol
  | code text => text.toList.map .code
  | .literal text => [.literal (text.toList.flatMap literalChar)]

theorem scan?_piece {piece : Piece} (hpiece : piece.Clean) (rest : List Char) :
    scan? (piece.render ++ rest) = (scan? rest).map (piece.symbols ++ ·) := by
  cases piece with
  | code text => exact scan?_code hpiece rest
  | literal text => exact scan?_literal text.toList rest

/-- A scan finds the pieces of a rendered text again. -/
theorem scan?_render {pieces : List Piece} (hpieces : Clean pieces) :
    scan? (render pieces) = some (pieces.flatMap Piece.symbols) := by
  induction pieces with
  | nil => exact scan?_nil
  | cons piece pieces ih =>
    obtain ⟨hpiece, hpieces⟩ := List.forall_mem_cons.mp hpieces
    rw [render, List.flatMap_cons, scan?_piece hpiece, ← render, ih hpieces, Option.map_some,
      List.flatMap_cons]

/-- A piece with the text of a literal taken out. -/
def Piece.hollow : Piece → Piece
  | code text => code text
  | literal _ => literal ""

def Piece.text? : Piece → Option String
  | code _ => none
  | literal text => some text

def hollow (pieces : List Piece) : List Piece :=
  pieces.map Piece.hollow

/-- The texts of the literals among pieces. -/
def literalTexts (pieces : List Piece) : List String :=
  pieces.filterMap Piece.text?

theorem outline_symbols_hollow (piece : Piece) :
    piece.hollow.symbols.map Symbol.outline = piece.symbols.map Symbol.outline := by
  cases piece <;> rfl

/-- The skeleton of a rendered text depends on the hollow pieces alone. -/
theorem skeleton?_render {pieces : List Piece} (hpieces : Clean pieces) :
    skeleton? (render pieces) =
      some ((hollow pieces).flatMap fun piece => piece.symbols.map Symbol.outline) := by
  rw [skeleton?, scan?_render hpieces, Option.map_some, List.map_flatMap, hollow, List.flatMap_map]
  simp only [outline_symbols_hollow]

theorem bodies_symbols (piece : Piece) :
    piece.symbols.filterMap Symbol.body? =
      piece.text?.toList.map fun text => text.toList.flatMap literalChar := by
  cases piece with
  | code text =>
    rw [Piece.symbols, List.filterMap_map]
    exact List.filterMap_eq_nil_iff.mpr fun _ _ => rfl
  | literal text => rfl

theorem mapM_unescape?_bodies (texts : List String) :
    (texts.map fun text => text.toList.flatMap literalChar).mapM unescape? =
      some (texts.map String.toList) := by
  induction texts with
  | nil => rfl
  | cons text texts ih =>
    rw [List.map_cons, List.mapM_cons, unescape?_body, ih]
    rfl

theorem literals?_render {pieces : List Piece} (hpieces : Clean pieces) :
    literals? (render pieces) = some ((literalTexts pieces).map String.toList) := by
  have hbodies : (pieces.flatMap Piece.symbols).filterMap Symbol.body? =
      (literalTexts pieces).map fun text => text.toList.flatMap literalChar := by
    induction pieces with
    | nil => rfl
    | cons piece pieces ih =>
      rw [List.flatMap_cons, List.filterMap_append, bodies_symbols,
        ih (List.forall_mem_cons.mp hpieces).2]
      cases piece <;> rfl
  rw [literals?, scan?_render hpieces, Option.bind_some, hbodies, mapM_unescape?_bodies]

end Folio.Typst
