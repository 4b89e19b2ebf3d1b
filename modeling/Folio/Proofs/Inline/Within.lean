import Folio.Proofs.Block.Content
import Mathlib.Data.List.Chain
/-!
# Sequences within sequences

A sequence of tokens holds further sequences, the children of its tokens, to any depth. A property of
sequences holds everywhere in one if it holds of all of these.

The machine builds sequences in four ways only. It starts with none, a text goes to the end, a token that
is no text goes to the end, and two sequences are joined by a break. What these four ways keep is kept by
everything that the machine does, and a property that they keep is kept by them everywhere.
-/

namespace Folio.Inline

open Folding

def isText : Inline → Bool
  | .text _ => true
  | _ => false

/-- The tokens below a token, also if it has a text that stands for it. -/
def children : Inline → List Inline
  | .strong children | .emphasis children | .strikethrough children => children
  | .unrecognized _ (some children) => children
  | .unrecognized _ none => []
  | .text _ | .code _ | .link .. | .lineBreak => []

/-- A sequence in another one: that one itself, or a sequence in the children of one of its tokens. -/
inductive Within : List Inline → List Inline → Prop where
  | self {tokens : List Inline} : Within tokens tokens
  | inside {inner tokens : List Inline} {token : Inline} (hmem : token ∈ tokens)
    (hwithin : Within inner token.children) : Within inner tokens

def Everywhere (P : List Inline → Prop) (tokens : List Inline) : Prop :=
  ∀ inner, Within inner tokens → P inner

theorem everywhere_iff {P : List Inline → Prop} {tokens : List Inline} :
    Everywhere P tokens ↔ P tokens ∧ ∀ token ∈ tokens, Everywhere P token.children := by
  constructor
  · intro h
    refine ⟨h tokens .self, ?_⟩
    intro token hmem inner hwithin
    exact h inner (.inside hmem hwithin)
  · rintro ⟨hself, hbelow⟩ inner hwithin
    cases hwithin with
    | self => exact hself
    | inside hmem hwithin => exact hbelow _ hmem inner hwithin

/-- The four ways of building keep a property, as long as only allowed texts are added. -/
structure Kept (allowed : String → Prop) (P : List Inline → Prop) : Prop where
  nil : P []
  text : ∀ {tokens literal}, P tokens → allowed literal → P (pushText tokens literal)
  token : ∀ {tokens token}, P tokens → token.isText = false → P token.children → P (tokens ++ [token])
  join : ∀ {first second}, P first → P second → P (joinWithBreak first second)

/-! ### What the ways of building put together -/

/-- A text goes into the text at the end, or it stands behind a last token that is none. -/
theorem pushText_cases (tokens : List Inline) (literal : String) :
    (∃ before last, tokens = before ++ [.text last] ∧
      pushText tokens literal = before ++ [.text (last ++ literal)]) ∨
    ((∀ last ∈ tokens.getLast?, last.isText = false) ∧ pushText tokens literal = tokens ++ [.text literal]) := by
  fun_induction pushText tokens literal with
  | case1 literal => exact .inr ⟨by simp, rfl⟩
  | case2 last literal => exact .inl ⟨[], last, rfl, rfl⟩
  | case3 head rest literal hlone ih =>
    rcases ih with ⟨before, last, hrest, hpushed⟩ | ⟨hlast, hpushed⟩
    · refine .inl ⟨head :: before, last, ?_, ?_⟩
      · rw [hrest, List.cons_append]
      · rw [hpushed, List.cons_append]
    · refine .inr ⟨?_, by rw [hpushed, List.cons_append]⟩
      cases rest with
      | nil =>
        intro token hmem
        rw [List.getLast?_singleton, Option.mem_some_iff] at hmem
        cases token with
        | text text => exact absurd rfl (hlone text hmem)
        | _ => rfl
      | cons next more =>
        rw [List.getLast?_cons_cons]
        exact hlast

theorem mem_pushText {token : Inline} {tokens : List Inline} {literal : String}
    (hmem : token ∈ pushText tokens literal) : token ∈ tokens ∨ token.isText = true := by
  have hends : ∀ {before : List Inline} {text : String}, token ∈ before ++ [.text text] →
      token ∈ before ∨ token.isText = true := by
    intro before text hmem
    rcases List.mem_append.mp hmem with hmem | hmem
    · exact .inl hmem
    · rw [List.mem_singleton.mp hmem]
      exact .inr rfl
  rcases pushText_cases tokens literal with ⟨before, last, htokens, hpushed⟩ | ⟨-, hpushed⟩
  · rw [hpushed] at hmem
    rw [htokens]
    exact (hends hmem).imp_left (List.mem_append_left _)
  · rw [hpushed] at hmem
    exact hends hmem

theorem mem_joinWithBreak {token : Inline} {first second : List Inline}
    (hmem : token ∈ joinWithBreak first second) :
    token ∈ first ∨ token = .lineBreak ∨ token ∈ second := by
  rcases first with _ | ⟨a, first⟩
  · simp_all
  rcases second with _ | ⟨b, second⟩
  · simp_all
  rw [joinWithBreak_of_ne_nil (by simp) (by simp)] at hmem
  rcases List.mem_append.mp hmem with hmem | hmem
  · exact .inl hmem
  · exact .inr (List.mem_cons.mp hmem)

theorem children_of_isText {token : Inline} (htext : token.isText = true) : token.children = [] := by
  cases token <;> simp_all [isText, children]

namespace Kept

variable {allowed : String → Prop} {P : List Inline → Prop}

theorem everywhere (hP : Kept allowed P) : Kept allowed (Everywhere P) where
  nil := by
    rw [everywhere_iff]
    exact ⟨hP.nil, by simp⟩
  text := by
    intro tokens literal htokens hallowed
    rw [everywhere_iff] at htokens ⊢
    refine ⟨hP.text htokens.1 hallowed, ?_⟩
    intro token hmem
    rcases mem_pushText hmem with hmem | htext
    · exact htokens.2 token hmem
    · rw [children_of_isText htext, everywhere_iff]
      exact ⟨hP.nil, by simp⟩
  token := by
    intro tokens token htokens htext hchildren
    rw [everywhere_iff] at htokens ⊢
    refine ⟨hP.token htokens.1 htext (everywhere_iff.mp hchildren).1, ?_⟩
    intro other hmem
    rcases List.mem_append.mp hmem with hmem | hmem
    · exact htokens.2 other hmem
    · rwa [List.mem_singleton.mp hmem]
  join := by
    intro first second hfirst hsecond
    rw [everywhere_iff] at hfirst hsecond ⊢
    refine ⟨hP.join hfirst.1 hsecond.1, ?_⟩
    intro token hmem
    rcases mem_joinWithBreak hmem with hmem | rfl | hmem
    · exact hfirst.2 token hmem
    · rw [everywhere_iff]
      exact ⟨hP.nil, by simp [children]⟩
    · exact hsecond.2 token hmem

theorem singleton (hP : Kept allowed P) {token : Inline} (htext : token.isText = false)
    (hchildren : P token.children) : P [token] :=
  hP.token hP.nil htext hchildren

theorem joinPieces (hP : Kept allowed P) {pieces : List (List Inline)} (hpieces : ∀ piece ∈ pieces, P piece) :
    P (joinPieces pieces) := by
  induction pieces with
  | nil => exact hP.nil
  | cons piece rest ih =>
    rw [joinPieces_cons]
    apply hP.join
    · exact hpieces piece List.mem_cons_self
    · apply ih
      intro later hmem
      exact hpieces later (List.mem_cons_of_mem piece hmem)

/-- A closed span is no text, and below it is what it was closed over or nothing. -/
theorem closeSpan (hP : Kept allowed P) {before inside : List Inline} (hbefore : P before) (hinside : P inside)
    (kind : SpanKind) : P (before ++ [closeSpan kind inside]) := by
  apply hP.token hbefore
  · cases kind <;> rfl
  · cases kind with
    | strong | emphasis | strikethrough | other => exact hinside
    | link | image => exact hP.nil

end Kept

/-! ### Texts that stand next to each other -/

/-- Of two neighbours one is no text. -/
def Merged (tokens : List Inline) : Prop :=
  tokens.IsChain fun first second => first.isText = false ∨ second.isText = false

theorem Merged.append_of_isText {before : List Inline} {last other : Inline} (h : Merged (before ++ [last]))
    (hother : other.isText = last.isText) : Merged (before ++ [other]) := by
  rw [Merged, List.isChain_append] at h ⊢
  refine ⟨h.1, List.isChain_singleton _, ?_⟩
  intro first hfirst second hsecond
  rw [List.head?_singleton, Option.mem_some_iff] at hsecond
  rw [← hsecond, hother]
  exact h.2.2 first hfirst last rfl

theorem Merged.append_token {tokens : List Inline} (h : Merged tokens) {token : Inline}
    (hends : (∀ last ∈ tokens.getLast?, last.isText = false) ∨ token.isText = false) :
    Merged (tokens ++ [token]) := by
  rw [Merged, List.isChain_append]
  refine ⟨h, List.isChain_singleton _, ?_⟩
  intro first hfirst second hsecond
  rw [List.head?_singleton, Option.mem_some_iff] at hsecond
  rw [← hsecond]
  exact hends.imp_left fun hlast => hlast first hfirst

theorem kept_merged : Kept (fun _ => True) Merged where
  nil := List.isChain_nil
  text := by
    intro tokens literal htokens _
    rcases pushText_cases tokens literal with ⟨before, last, rfl, hpushed⟩ | ⟨hlast, hpushed⟩
    · rw [hpushed]
      exact htokens.append_of_isText rfl
    · rw [hpushed]
      exact htokens.append_token (.inl hlast)
  token := by
    intro tokens token htokens htext _
    exact htokens.append_token (.inr htext)
  join := by
    intro first second hfirst hsecond
    rcases first with _ | ⟨a, first⟩
    · simpa using hsecond
    rcases second with _ | ⟨b, second⟩
    · simpa using hfirst
    rw [joinWithBreak_of_ne_nil (by simp) (by simp), Merged, List.isChain_split]
    constructor
    · exact hfirst.append_token (.inr rfl)
    · exact List.isChain_cons_cons.mpr ⟨.inl rfl, hsecond⟩

theorem kept_noEmptyText : Kept (fun literal => literal ≠ "") fun tokens => .text "" ∉ tokens where
  nil := List.not_mem_nil
  text := by
    intro tokens literal htokens hliteral
    rcases pushText_cases tokens literal with ⟨before, last, rfl, hpushed⟩ | ⟨-, hpushed⟩
    · rw [hpushed]
      simp_all
    · rw [hpushed]
      simp_all [eq_comm]
  token := by
    intro tokens token htokens htext _ hmem
    rcases List.mem_append.mp hmem with hmem | hmem
    · exact htokens hmem
    · rw [← List.mem_singleton.mp hmem] at htext
      cases htext
  join := by
    intro first second hfirst hsecond hmem
    rcases mem_joinWithBreak hmem with hmem | hmem | hmem
    · exact hfirst hmem
    · cases hmem
    · exact hsecond hmem

end Folio.Inline
