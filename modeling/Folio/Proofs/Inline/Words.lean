import Folio.Proofs.Block.Content
import Folio.Run
import Mathlib.Tactic.SplitIfs
/-!
# The words of inline content

The plain text of tokens, up to newlines. Newlines are left out because the program puts in its own:
between the pieces of a list or a quote, and for line breaks. What the machine does to content, putting
texts together, joining pieces and closing spans, moves and wraps tokens and never changes their words,
and neither does resolving tokens into runs.
-/

namespace Folio

def withoutNewlines (text : List Char) : List Char :=
  text.filter (· ≠ '\n')

@[simp] theorem withoutNewlines_append (first second : List Char) :
    withoutNewlines (first ++ second) = withoutNewlines first ++ withoutNewlines second :=
  List.filter_append ..

/-! ### Tokens -/

/-- The plain text of tokens, without newlines. -/
def Inline.words (tokens : List Inline) : List Char :=
  withoutNewlines (Inline.plainTextAll tokens).toList

namespace Inline

@[simp] theorem words_nil : words [] = [] := rfl

theorem words_cons (token : Inline) (rest : List Inline) :
    words (token :: rest) = withoutNewlines token.plainText.toList ++ words rest := by
  rw [words, plainTextAll, String.toList_append, withoutNewlines_append, words]

@[simp] theorem words_append (first second : List Inline) :
    words (first ++ second) = words first ++ words second := by
  induction first with
  | nil => rfl
  | cons token first ih => rw [List.cons_append, words_cons, words_cons, ih, List.append_assoc]

theorem words_singleton (token : Inline) : words [token] = withoutNewlines token.plainText.toList := by
  rw [words_cons, words_nil, List.append_nil]

open Folding

theorem words_mergeTexts (tokens : List Inline) : words (mergeTexts tokens) = words tokens := by
  induction tokens with
  | nil => rfl
  | cons token rest ih =>
    rcases mergeTexts_cons token rest with hkept | ⟨first, second, more, rfl, hrest, hmerged⟩
    · rw [hkept, words_cons, words_cons, ih]
    · rw [hmerged, words_cons, words_cons, ← ih, hrest, words_cons]
      simp [plainText]

theorem words_joinWithBreak (first second : List Inline) :
    words (joinWithBreak first second) = words first ++ words second := by
  rcases first with _ | ⟨a, first⟩
  · simp
  rcases second with _ | ⟨b, second⟩
  · simp
  rw [joinWithBreak_of_ne_nil (by simp) (by simp), words_append, words_cons .lineBreak]
  rfl

theorem words_joinPieces (pieces : List (List Inline)) :
    words (joinPieces pieces) = pieces.flatMap words := by
  induction pieces with
  | nil => rfl
  | cons piece rest ih => rw [joinPieces_cons, words_joinWithBreak, ih, List.flatMap_cons]

/-- Whatever a span is closed to, its plain text is that of its children. -/
theorem plainText_closeSpan (kind : SpanKind) (children : List Inline) :
    (closeSpan kind children).plainText = plainTextAll children := by
  cases kind with
  | image =>
    by_cases halt : plainTextAll children = ""
    · simp [closeSpan, halt, plainText]
    · simp [closeSpan, halt, plainText]
  | _ => rfl

end Inline

/-! ### Runs -/

/-- The texts of runs, one after another. -/
def Run.joined (runs : List Run) : List Char :=
  runs.flatMap fun run => run.text.toList

theorem Run.joined_append (first second : List Run) :
    Run.joined (first ++ second) = Run.joined first ++ Run.joined second :=
  List.flatMap_append

mutual

/-- The runs of a token show its plain text, whatever the marks. -/
theorem Run.joined_ofToken : ∀ (token : Inline) (marks : Marks),
    Run.joined (Run.ofToken marks token) = token.plainText.toList
  | .text literal, marks => List.append_nil _
  | .code literal, marks => List.append_nil _
  | .link display href, marks => List.append_nil _
  | .lineBreak, marks => List.append_nil _
  | .strong children, marks => Run.joined_ofTokens children _
  | .emphasis children, marks => Run.joined_ofTokens children _
  | .strikethrough children, marks => Run.joined_ofTokens children _
  | .unrecognized none none, marks => rfl
  | .unrecognized none (some children), marks => Run.joined_ofTokens children _
  | .unrecognized (some literal) none, marks => by
    rw [Run.ofToken, Inline.plainText]
    split_ifs with hempty
    · rw [hempty]
      rfl
    · exact List.append_nil _
  | .unrecognized (some literal) (some children), marks => by
    rw [Run.ofToken, Inline.plainText]
    split_ifs with hempty
    · exact Run.joined_ofTokens children _
    · exact List.append_nil _

theorem Run.joined_ofTokens : ∀ (tokens : List Inline) (marks : Marks),
    Run.joined (Run.ofTokens marks tokens) = (Inline.plainTextAll tokens).toList
  | [], marks => rfl
  | token :: rest, marks => by
    rw [Run.ofTokens, Run.joined_append, Run.joined_ofToken token marks, Run.joined_ofTokens rest marks,
      Inline.plainTextAll, String.toList_append]

end

end Folio
