import Folio.Proofs.Decimal.Characters
import Folio.Proofs.Text.Readable
import Folio.Proofs.Typst.Literal
import Folio.Proofs.Typst.Visible
/-!
# Reading arguments back

The parts of the markup that vary within a line are numbers, literals and colours, and the calls of
`text` combine them. A number ends before its unit, a literal at its closing quote, and each kind of
argument begins with a word of its own.
-/

namespace Folio.Typst

open Text

variable {r s : List Char}

theorem render_append (s t : List Piece) : render (s ++ t) = render s ++ render t :=
  List.flatMap_append

theorem render_code (text : String) (t : List Piece) :
    render (.code text :: t) = text.toList ++ render t :=
  rfl

/-! ### Numbers, literals and colours -/

theorem literal_read {a b : List Char} (h : literal a ++ r = literal b ++ s) : a = b ∧ r = s := by
  have hopen (text rest : List Char) : literal text ++ rest =
      '"' :: (text.flatMap literalChar ++ '"' :: rest) := by
    rw [literal, List.append_assoc]
    rfl
  rw [hopen, hopen] at h
  have hsplit := congrArg splitLiteral? (List.cons.inj h).2
  rw [splitLiteral?_body, splitLiteral?_body] at hsplit
  obtain ⟨hbody, hrest⟩ := Prod.mk.inj (Option.some.inj hsplit)
  have hmeant := congrArg unescape? hbody
  rw [unescape?_body, unescape?_body] at hmeant
  exact ⟨Option.some.inj hmeant, hrest⟩

theorem literalPiece_readable :
    Readable (fun text : String => (Piece.literal text).render) id := by
  intro a b r s h
  obtain ⟨htext, hrest⟩ := literal_read h
  exact ⟨String.toList_inj.mp htext, hrest⟩

theorem points_readable : Readable (fun x => (points x).render) Decimal.plain := by
  intro x y r s h
  have hunit (x : Float) (rest : List Char) :
      (points x).render ++ rest = Decimal.plain x ++ 'p' :: 't' :: rest := by
    rw [points, Piece.render, String.toList_append, Decimal.toList_plainString, List.append_assoc]
    rfl
  simp only [hunit] at h
  obtain ⟨hnumber, hrest⟩ := stretch_read (Decimal.plain_allNumberChars x)
    (Decimal.plain_allNumberChars y) (by decide) (by decide) h
  exact ⟨hnumber, (List.cons.inj (List.cons.inj hrest).2).2⟩

theorem namedColors_apart : ∀ v ∈ "gray" :: namedColors, ∀ w ∈ "gray" :: namedColors,
    v ≠ w → Apart v.toList w.toList := by
  decide

theorem namedColors_apart_rgb :
    ∀ name ∈ "gray" :: namedColors, Apart name.toList "rgb(".toList := by
  decide

theorem color_cases (text : String) :
    (∃ name ∈ "gray" :: namedColors, colorText text = name.toList) ∨
      colorText text = "rgb(".toList ++ (literal text.toList ++ [')']) := by
  rw [colorText, color]
  split
  · exact Or.inl ⟨"gray", List.mem_cons_self, rfl⟩
  · split
    · next hname =>
      have hmem := List.contains_iff_mem.mp hname
      exact Or.inl ⟨text, List.mem_cons_of_mem _ hmem, List.append_nil _⟩
    · exact Or.inr rfl

theorem color_readable : Readable colorText colorText := by
  intro a b r s h
  obtain ⟨v, hv, ha⟩ | ha := color_cases a <;> obtain ⟨w, hw, hb⟩ | hb := color_cases b <;>
    rw [ha, hb] at h ⊢
  · obtain ⟨rfl, hrest⟩ := word_read (namedColors_apart v hv w hw) h
    exact ⟨rfl, hrest⟩
  · rw [List.append_assoc] at h
    exact absurd h ((namedColors_apart_rgb v hv).append_ne _ _)
  · rw [List.append_assoc] at h
    exact absurd h.symm ((namedColors_apart_rgb w hw).append_ne _ _)
  · simp only [List.append_assoc] at h
    obtain ⟨htext, hrest⟩ := literal_read (List.append_cancel_left h)
    rw [htext]
    exact ⟨rfl, List.append_cancel_left hrest⟩

/-! ### Arguments -/

inductive ArgumentKind where
  | font
  | size
  | bold
  | italic
  | fill
  | body
deriving DecidableEq, Repr

def ArgumentKind.keyword : ArgumentKind → List Char
  | font => "font: ".toList
  | size => "size: ".toList
  | bold => "weight: \"bold\"".toList
  | italic => "style: \"italic\"".toList
  | fill => "fill: ".toList
  | body => ['"']

theorem ArgumentKind.keyword_apart (j k : ArgumentKind) (hne : j ≠ k) :
    Apart j.keyword k.keyword := by
  revert hne
  cases j <;> cases k <;> decide

/-- An argument of a call of `text`, with sizes and colours in a form of choice. -/
inductive Argument (σ κ : Type) where
  | font (name : String)
  | size (x : σ)
  | bold
  | italic
  | fill (color : κ)
  | body (text : String)
deriving DecidableEq, Repr

namespace Argument

def printed : Argument Float String → Argument (List Char) (List Char)
  | font name => font name
  | size x => size (Decimal.plain x)
  | bold => bold
  | italic => italic
  | fill color => fill (colorText color)
  | body text => body text

def pieces : Argument Float String → List Piece
  | font name => [.code "font: ", .literal name]
  | size x => [.code "size: ", points x]
  | bold => [.code "weight: ", .literal "bold"]
  | italic => [.code "style: ", .literal "italic"]
  | fill color => .code "fill: " :: Typst.color color
  | body text => [.literal text]

def kind : Argument Float String → ArgumentKind
  | font _ => .font
  | size _ => .size
  | bold => .bold
  | italic => .italic
  | fill _ => .fill
  | body _ => .body

/-- What stands behind the keyword. -/
def content : Argument Float String → List Char
  | font name => (Piece.literal name).render
  | size x => (points x).render
  | bold => []
  | italic => []
  | fill color => colorText color
  | body text => text.toList.flatMap literalChar ++ ['"']

theorem render_pieces (argument : Argument Float String) :
    render argument.pieces = argument.kind.keyword ++ argument.content := by
  cases argument with
  | font name => exact congrArg _ (List.append_nil _)
  | size x => exact congrArg _ (List.append_nil _)
  | bold => rfl
  | italic => rfl
  | fill color => rfl
  | body text => exact List.append_nil _

theorem readable : Readable (fun argument => render argument.pieces) printed := by
  intro a b r s h
  simp only [render_pieces, List.append_assoc] at h
  obtain ⟨hkind, hcontent⟩ := word_read (ArgumentKind.keyword_apart a.kind b.kind) h
  cases a with
  | font name =>
    cases b with
    | font name' =>
      obtain ⟨hname, hrest⟩ := literalPiece_readable hcontent
      exact ⟨congrArg font hname, hrest⟩
    | _ => cases hkind
  | size x =>
    cases b with
    | size y =>
      obtain ⟨hsize, hrest⟩ := points_readable hcontent
      exact ⟨congrArg size hsize, hrest⟩
    | _ => cases hkind
  | bold =>
    cases b with
    | bold => exact ⟨rfl, hcontent⟩
    | _ => cases hkind
  | italic =>
    cases b with
    | italic => exact ⟨rfl, hcontent⟩
    | _ => cases hkind
  | fill color =>
    cases b with
    | fill color' =>
      obtain ⟨hcolor, hrest⟩ := color_readable hcontent
      exact ⟨congrArg fill hcolor, hrest⟩
    | _ => cases hkind
  | body text =>
    cases b with
    | body text' =>
      have hliteral : literal text.toList ++ r = literal text'.toList ++ s :=
        congrArg ('"' :: ·) hcontent
      obtain ⟨htext, hrest⟩ := literal_read hliteral
      exact ⟨congrArg body (String.toList_inj.mp htext), hrest⟩
    | _ => cases hkind

end Argument

def TextArguments.arguments (arguments : TextArguments) : List (Argument Float String) :=
  (arguments.font.map Argument.font).toList ++ (arguments.size.map Argument.size).toList ++
    (if arguments.bold then [.bold] else []) ++ (if arguments.italic then [.italic] else []) ++
    (arguments.fill.map Argument.fill).toList

theorem arguments_pieces (arguments : TextArguments) :
    arguments.pieces = arguments.arguments.map Argument.pieces := by
  obtain ⟨font, size, bold, italic, fill⟩ := arguments
  cases font <;> cases size <;> cases bold <;> cases italic <;> cases fill <;> rfl

/-! ### Lists of arguments -/

theorem commaSeparated_cons (item : List Piece) (items : List (List Piece)) :
    commaSeparated (item :: items) = item ++ items.flatMap (.code ", " :: ·) := by
  induction items generalizing item with
  | nil => exact (List.append_nil item).symm
  | cons next items ih =>
    rw [commaSeparated.eq_3 item _ (List.cons_ne_nil _ _), ih, List.flatMap_cons]
    rfl

/-- What an argument begins with, be it the first one or one behind a comma, cannot close the call. -/
theorem Argument.not_close (argument : Argument Float String) (rest : List Char) :
    ¬ [')'] <+: render argument.pieces ++ rest := by
  have hapart (kind : ArgumentKind) : Apart [')'] kind.keyword := by
    cases kind <;> decide
  rw [render_pieces, List.append_assoc]
  exact (hapart argument.kind).not_prefix_append _

theorem arguments_read {xs ys : List (Argument Float String)}
    (h : render (commaSeparated (xs.map Argument.pieces)) ++ ')' :: r =
      render (commaSeparated (ys.map Argument.pieces)) ++ ')' :: s) :
    xs.map Argument.printed = ys.map Argument.printed ∧ r = s := by
  have hclose (rest : List Char) : [')'] <+: ')' :: rest := ⟨rest, rfl⟩
  have hnext (rest : List Char) : ¬ ", ".toList <+: ')' :: rest :=
    Apart.not_prefix_append (w := [')']) (by decide) rest
  have hbehind : Readable (fun argument : Argument Float String =>
      render (.code ", " :: argument.pieces)) Argument.printed := by
    intro a b r s h
    simp only [render_code, List.append_assoc] at h
    exact Argument.readable (List.append_cancel_left h)
  have hcons (x : Argument Float String) (xs : List (Argument Float String)) (rest : List Char) :
      render (commaSeparated ((x :: xs).map Argument.pieces)) ++ rest =
        render x.pieces ++ (xs.flatMap (fun y => render (.code ", " :: y.pieces)) ++ rest) := by
    rw [List.map_cons, commaSeparated_cons, render_append, List.append_assoc, List.flatMap_map,
      render, render, List.flatMap_assoc]
    rfl
  cases xs with
  | nil =>
    cases ys with
    | nil => exact ⟨rfl, (List.cons.inj h).2⟩
    | cons y ys =>
      rw [hcons] at h
      have hclosed : ')' :: r = render y.pieces ++ _ := h
      exact absurd (hclosed ▸ hclose r) (y.not_close _)
  | cons x xs =>
    cases ys with
    | nil =>
      rw [hcons] at h
      have hclosed : ')' :: s = render x.pieces ++ _ := h.symm
      exact absurd (hclosed ▸ hclose s) (x.not_close _)
    | cons y ys =>
      rw [hcons, hcons] at h
      obtain ⟨hfirst, h⟩ := Argument.readable h
      obtain ⟨hmore, h⟩ := many_read hbehind (fun y => ⟨render y.pieces, rfl⟩) (hnext r) (hnext s) h
      rw [List.map_cons, List.map_cons, hfirst, hmore]
      exact ⟨rfl, (List.cons.inj h).2⟩

/-- An argument sets its attribute. -/
def Look.set (look : Look) : Argument (List Char) (List Char) → Look
  | .font name => { look with font := some name }
  | .size x => { look with size := some x }
  | .bold => { look with bold := true }
  | .italic => { look with italic := true }
  | .fill color => { look with fill := some color }
  | .body _ => look

def Look.plain : Look where
  font := none
  size := none
  bold := false
  italic := false
  fill := none

/-- The arguments of a look say what it is. -/
theorem foldl_set_arguments (arguments : TextArguments) :
    (arguments.arguments.map Argument.printed).foldl Look.set Look.plain = arguments.look := by
  obtain ⟨font, size, bold, italic, fill⟩ := arguments
  cases font <;> cases size <;> cases bold <;> cases italic <;> cases fill <;> rfl

theorem look_eq_of_arguments {a b : TextArguments}
    (h : a.arguments.map Argument.printed = b.arguments.map Argument.printed) : a.look = b.look := by
  rw [← foldl_set_arguments, h, foldl_set_arguments]

end Folio.Typst
