import Folio.Proofs.Text.Hexadecimal
import Folio.Typst.Literal
/-!
# Reading string literals back

A literal is read in two passes, as the compiler of the markup reads it. The first finds its closing
quote, and for this it is enough that a backslash takes the next character with it, whatever that is. The
second replaces the escapes in the body. A written literal passes both: it is closed by its own closing
quote, for every text and whatever follows, and its body gives the text back.
-/

namespace Folio.Typst

/-- The body of a literal whose opening quote has been read, and what follows its closing quote. -/
def splitLiteral? : List Char → Option (List Char × List Char)
  | [] => none
  | '"' :: rest => some ([], rest)
  | '\\' :: escaped :: rest =>
    (splitLiteral? rest).map fun (body, after) => ('\\' :: escaped :: body, after)
  | c :: rest => (splitLiteral? rest).map fun (body, after) => (c :: body, after)

/-- Where the reading of a body stands: between characters, behind a backslash, at the brace of a code
point, or among its digits. -/
inductive EscapeState where
  | outside
  | backslash
  | brace
  | digits (read : List Char)
deriving DecidableEq, Repr

/-- What a letter behind a backslash stands for. -/
def simpleEscape? : Char → Option Char
  | '\\' => some '\\'
  | '"' => some '"'
  | 'n' => some '\n'
  | 'r' => some '\r'
  | 't' => some '\t'
  | _ => none

def charOfCode? (code : Nat) : Option Char :=
  if code.isValidChar then some (Char.ofNat code) else none

/-- `none` for an escape that is not one of the six. -/
def unescapeFrom? : EscapeState → List Char → Option (List Char)
  | .outside, [] => some []
  | .outside, c :: rest =>
    if c = '\\' then unescapeFrom? .backslash rest else (unescapeFrom? .outside rest).map (c :: ·)
  | .backslash, c :: rest =>
    if c = 'u' then unescapeFrom? .brace rest
    else (simpleEscape? c).bind fun meant => (unescapeFrom? .outside rest).map (meant :: ·)
  | .brace, c :: rest => if c = '{' then unescapeFrom? (.digits []) rest else none
  | .digits read, c :: rest =>
    if Text.isHexDigit c then unescapeFrom? (.digits (read ++ [c])) rest
    else if c = '}' && !read.isEmpty then
      (charOfCode? (Text.hexValue read)).bind fun meant =>
        (unescapeFrom? .outside rest).map (meant :: ·)
    else none
  | _, [] => none

def unescape? (body : List Char) : Option (List Char) :=
  unescapeFrom? .outside body

/-- The three forms in which a character is written. -/
theorem literalChar_cases (c : Char) :
    (∃ letter, literalChar c = ['\\', letter] ∧ letter ≠ 'u' ∧ simpleEscape? letter = some c) ∨
      literalChar c = Text.codeEscape c ∨ (literalChar c = [c] ∧ c ≠ '"' ∧ c ≠ '\\') := by
  unfold literalChar
  split
  · exact Or.inl ⟨'\\', rfl, by decide, rfl⟩
  · exact Or.inl ⟨'"', rfl, by decide, rfl⟩
  · exact Or.inl ⟨'n', rfl, by decide, rfl⟩
  · exact Or.inl ⟨'r', rfl, by decide, rfl⟩
  · exact Or.inl ⟨'t', rfl, by decide, rfl⟩
  · next hbackslash hquote _ _ _ =>
    split
    · exact Or.inr (Or.inl rfl)
    · exact Or.inr (Or.inr ⟨rfl, hquote, hbackslash⟩)

/-! ### The closing quote -/

theorem splitLiteral?_quote (rest : List Char) : splitLiteral? ('"' :: rest) = some ([], rest) :=
  rfl

theorem splitLiteral?_escape (c : Char) (rest : List Char) :
    splitLiteral? ('\\' :: c :: rest) =
      (splitLiteral? rest).map fun (body, after) => ('\\' :: c :: body, after) :=
  rfl

theorem splitLiteral?_verbatim {c : Char} (hquote : c ≠ '"') (hbackslash : c ≠ '\\')
    (rest : List Char) :
    splitLiteral? (c :: rest) = (splitLiteral? rest).map fun (body, after) => (c :: body, after) := by
  rw [splitLiteral?]
  · exact hquote
  · intro _ _ h
    exact absurd h hbackslash

/-- A stretch of characters that a reading of a body takes over as it stands. -/
def Transparent (text : List Char) : Prop :=
  ∀ rest, splitLiteral? (text ++ rest) =
    (splitLiteral? rest).map fun (body, after) => (text ++ body, after)

theorem Transparent.nil : Transparent [] := by
  intro rest
  rw [List.nil_append]
  exact Option.map_id'.symm

theorem Transparent.append {s t : List Char} (hs : Transparent s) (ht : Transparent t) :
    Transparent (s ++ t) := by
  intro rest
  rw [List.append_assoc, hs, ht, Option.map_map]
  simp only [Function.comp_def, List.append_assoc]

theorem Transparent.escape (c : Char) : Transparent ['\\', c] :=
  splitLiteral?_escape c

theorem Transparent.verbatim {c : Char} (hquote : c ≠ '"') (hbackslash : c ≠ '\\') :
    Transparent [c] :=
  splitLiteral?_verbatim hquote hbackslash

theorem Transparent.of_forall {text : List Char} (h : ∀ c ∈ text, c ≠ '"' ∧ c ≠ '\\') :
    Transparent text := by
  induction text with
  | nil => exact Transparent.nil
  | cons c text ih =>
    obtain ⟨hc, htext⟩ := List.forall_mem_cons.mp h
    exact (Transparent.verbatim hc.1 hc.2).append (ih htext)

theorem Transparent.flatMap {α : Type} {write : α → List Char} (h : ∀ x, Transparent (write x))
    (xs : List α) : Transparent (xs.flatMap write) := by
  induction xs with
  | nil => exact Transparent.nil
  | cons x xs ih => exact (h x).append ih

theorem isHexDigit_ne {c : Char} (hdigit : Text.isHexDigit c = true) : c ≠ '"' ∧ c ≠ '\\' := by
  constructor <;> rintro rfl <;> revert hdigit <;> decide

theorem codeEscape_transparent (c : Char) : Transparent (Text.codeEscape c) := by
  have hdigits : ∀ digit ∈ Text.hexDigits c.toNat, digit ≠ '"' ∧ digit ≠ '\\' := fun digit h =>
    isHexDigit_ne (Text.hexDigits_isHexDigit c.toNat digit h)
  have hend : Transparent (Text.hexDigits c.toNat ++ ['}']) :=
    (Transparent.of_forall hdigits).append (Transparent.verbatim (by decide) (by decide))
  exact (Transparent.escape 'u').append
    ((Transparent.verbatim (c := '{') (by decide) (by decide)).append hend)

theorem literalChar_transparent (c : Char) : Transparent (literalChar c) := by
  obtain ⟨letter, hc, -, -⟩ | hc | ⟨hc, hquote, hbackslash⟩ := literalChar_cases c <;> rw [hc]
  · exact Transparent.escape letter
  · exact codeEscape_transparent c
  · exact Transparent.verbatim hquote hbackslash

/-- A literal is closed by its own closing quote. -/
theorem splitLiteral?_body (text rest : List Char) :
    splitLiteral? (text.flatMap literalChar ++ '"' :: rest) =
      some (text.flatMap literalChar, rest) := by
  have hclosed := Transparent.flatMap literalChar_transparent text ('"' :: rest)
  rw [splitLiteral?_quote, Option.map_some] at hclosed
  simpa only [List.append_nil] using hclosed

/-! ### The escapes -/

theorem charOfCode?_toNat (c : Char) : charOfCode? c.toNat = some c := by
  have hvalid : c.toNat.isValidChar := c.valid
  rw [charOfCode?, if_pos hvalid, Char.ofNat_toNat]

/-- The digits of a code point are collected until something else stands there. -/
theorem unescapeFrom?_digits {text : List Char} (htext : ∀ c ∈ text, Text.isHexDigit c = true)
    (read rest : List Char) :
    unescapeFrom? (.digits read) (text ++ rest) = unescapeFrom? (.digits (read ++ text)) rest := by
  induction text generalizing read with
  | nil => rw [List.nil_append, List.append_nil]
  | cons c text ih =>
    obtain ⟨hc, htext⟩ := List.forall_mem_cons.mp htext
    rw [List.cons_append, unescapeFrom?, if_pos hc, ih htext, List.append_assoc]
    rfl

theorem hexDigits_ne_nil (n : Nat) : Text.hexDigits n ≠ [] :=
  Nat.toDigits_ne_nil

theorem unescapeFrom?_codeEscape (c : Char) (rest : List Char) :
    unescapeFrom? .outside (Text.codeEscape c ++ rest) =
      (unescapeFrom? .outside rest).map (c :: ·) := by
  have hopen : unescapeFrom? .outside (Text.codeEscape c ++ rest) =
      unescapeFrom? (.digits []) (Text.hexDigits c.toNat ++ '}' :: rest) := by
    simp only [Text.codeEscape, List.cons_append, List.append_assoc, List.nil_append]
    rfl
  have hclose : ¬ Text.isHexDigit '}' = true := by decide
  have hsome : ('}' = '}' && !(Text.hexDigits c.toNat).isEmpty) = true := by
    simp [hexDigits_ne_nil]
  rw [hopen, unescapeFrom?_digits (Text.hexDigits_isHexDigit c.toNat), List.nil_append,
    unescapeFrom?, if_neg hclose, if_pos hsome, Text.hexValue_hexDigits, charOfCode?_toNat]
  rfl

theorem unescapeFrom?_literalChar (c : Char) (rest : List Char) :
    unescapeFrom? .outside (literalChar c ++ rest) =
      (unescapeFrom? .outside rest).map (c :: ·) := by
  obtain ⟨letter, hc, hletter, hmeant⟩ | hc | ⟨hc, -, hbackslash⟩ := literalChar_cases c <;> rw [hc]
  · show unescapeFrom? .backslash (letter :: rest) = _
    rw [unescapeFrom?, if_neg hletter, hmeant, Option.bind_some]
  · exact unescapeFrom?_codeEscape c rest
  · rw [List.singleton_append, unescapeFrom?, if_neg hbackslash]

/-- The body of a written literal means the text. -/
theorem unescape?_body (text : List Char) : unescape? (text.flatMap literalChar) = some text := by
  rw [unescape?]
  induction text with
  | nil => rfl
  | cons c text ih => rw [List.flatMap_cons, unescapeFrom?_literalChar, ih, Option.map_some]

example : unescape? "a\\\"\\u\x7b1b\x7d\\n".toList = some ['a', '"', '\x1b', '\n'] := by decide

/-! ### Whole literals -/

/-- The text that a literal means, and what follows the literal. -/
def readLiteral? : List Char → Option (List Char × List Char)
  | '"' :: rest => (splitLiteral? rest).bind fun (body, after) => (unescape? body).map (·, after)
  | _ => none

theorem isHexDigit_not_isControl {c : Char} (hdigit : Text.isHexDigit c = true) : isControl c = false := by
  have hrange : c.toNat < 0x20 ∨ (0x7f ≤ c.toNat ∧ c.toNat ≤ 0x9f) → Text.hexDigit? c = none := by
    intro hcontrol
    rw [Text.hexDigit?]
    simp only [Bool.and_eq_true, decide_eq_true_eq]
    rw [if_neg (by omega), if_neg (by omega), if_neg (by omega)]
  cases hcontrol : isControl c with
  | false => rfl
  | true =>
    simp only [isControl, Bool.or_eq_true, Bool.and_eq_true, decide_eq_true_eq] at hcontrol
    rw [Text.isHexDigit, hrange hcontrol] at hdigit
    cases hdigit

theorem codeEscape_any_isControl (c : Char) : (Text.codeEscape c).any isControl = false := by
  have hdigits : (Text.hexDigits c.toNat).any isControl = false := by
    rw [List.any_eq_false]
    intro digit hdigit
    rw [isHexDigit_not_isControl (Text.hexDigits_isHexDigit c.toNat digit hdigit)]
    exact Bool.false_ne_true
  have hopen : ['\\', 'u', '{'].any isControl = false := by decide
  have hclose : ['}'].any isControl = false := by decide
  have happend : Text.codeEscape c = ['\\', 'u', '{'] ++ Text.hexDigits c.toNat ++ ['}'] := rfl
  rw [happend, List.any_append, List.any_append, hopen, hdigits, hclose]
  rfl

/-- Controls are written as escapes, and those have none. -/
theorem literalChar_any_isControl (c : Char) : (literalChar c).any isControl = false := by
  unfold literalChar
  split
  case h_6 =>
    by_cases hcontrol : isControl c = true
    · rw [if_pos hcontrol]
      exact codeEscape_any_isControl c
    · rw [if_neg hcontrol]
      simpa using hcontrol
  all_goals decide

theorem literal_any_isControl (text : List Char) : (literal text).any isControl = false := by
  have hbody : (text.flatMap literalChar).any isControl = false := by
    induction text with
    | nil => rfl
    | cons c text ih => rw [List.flatMap_cons, List.any_append, literalChar_any_isControl, ih, Bool.or_false]
  have hquote : ['"'].any isControl = false := by decide
  have happend : literal text = ['"'] ++ text.flatMap literalChar ++ ['"'] := rfl
  rw [happend, List.any_append, List.any_append, hquote, hbody]
  rfl

/-- **A literal is read back as the text that was written, and what follows it stays unread. No control
character is in it, and so no line end.** -/
theorem readLiteral?_literal (text rest : List Char) :
    readLiteral? (literal text ++ rest) = some (text, rest) ∧
      (literal text).any isControl = false ∧ '\n' ∉ literal text := by
  have hcontrol := literal_any_isControl text
  refine ⟨?_, hcontrol, ?_⟩
  · have hliteral : literal text ++ rest = '"' :: (text.flatMap literalChar ++ '"' :: rest) := by
      simp [literal]
    rw [hliteral, readLiteral?, splitLiteral?_body, Option.bind_some]
    dsimp only
    rw [unescape?_body, Option.map_some]
  · intro hfeed
    exact List.any_eq_false.mp hcontrol '\n' hfeed (by decide)

end Folio.Typst
