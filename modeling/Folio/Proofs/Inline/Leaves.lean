import Folio.Run
import Mathlib.Data.List.Forall2
import Mathlib.Tactic.SplitIfs
/-!
# Leaves and the way to them

Inline tokens are a forest. Some tokens are leaves, and a leaf is shown as one piece; the others only
stand around what is below them. A leaf is told by its address, the places to take from the root down,
and its path are the tokens that stand around it.

Resolving tokens into runs goes down the forest with marks that are turned on along the way. What comes out
can be said without going down: one run for each leaf, in the order of the addresses, whose marks are those
of the wrappers on its path and whose text, link and style are the leaf's own. The proof carries the marks
of an enclosing path as a path that is read off in front.
-/

namespace Folio

namespace Inline

/-- A token that is shown as one piece. An unrecognized token is a leaf only with a text of its own. -/
def isLeaf : Inline → Bool
  | .text _ | .code _ | .link .. | .lineBreak => true
  | .unrecognized (some literal) _ => literal ≠ ""
  | .unrecognized none _ => false
  | .strong _ | .emphasis _ | .strikethrough _ => false

/-- The tokens that a token only stands around. An unrecognized token with a text of its own hides its
children. -/
def inner : Inline → List Inline
  | .strong children | .emphasis children | .strikethrough children => children
  | .unrecognized none (some children) => children
  | .unrecognized (some literal) (some children) => if literal = "" then children else []
  | .unrecognized _ none => []
  | .text _ | .code _ | .link .. | .lineBreak => []

/-- A token below a sequence of tokens: its address, the tokens around it from the outermost on, and the
token itself. -/
inductive Below : List Inline → List Nat → List Inline → Inline → Prop where
  | here {tokens : List Inline} {i : Nat} {token : Inline} (hat : tokens[i]? = some token) :
    Below tokens [i] [] token
  | inside {tokens : List Inline} {i : Nat} {outer : Inline} {address : List Nat} {path : List Inline}
    {token : Inline} (hat : tokens[i]? = some outer) (hbelow : Below outer.inner address path token) :
    Below tokens (i :: address) (outer :: path) token

def isStrong : Inline → Bool
  | .strong _ => true
  | _ => false

def isEmphasis : Inline → Bool
  | .emphasis _ => true
  | _ => false

def isStrikethrough : Inline → Bool
  | .strikethrough _ => true
  | _ => false

/-- The text that a leaf shows. -/
def ownText : Inline → String
  | .text literal | .code literal | .unrecognized (some literal) _ => literal
  | .link display _ => display
  | .lineBreak => "\n"
  | .strong _ | .emphasis _ | .strikethrough _ | .unrecognized none _ => ""

/-- Only links lead anywhere, also if their target is empty. -/
def ownLink : Inline → Option String
  | .link _ href => some href
  | _ => none

def ownStyle : Inline → Option StyleName
  | .code _ => some .inlineCode
  | .link .. => some .link
  | _ => none

end Inline

/-- A token at its place in a forest. -/
structure PlacedToken where
  address : List Nat
  path : List Inline
  token : Inline

/-- The leaf in a forest that stands inside a token at a place. -/
def PlacedToken.under (leaf : PlacedToken) (i : Nat) (outer : Inline) : PlacedToken :=
  ⟨i :: leaf.address, outer :: leaf.path, leaf.token⟩

theorem Inline.sizeOf_inner_lt (token : Inline) (htoken : token.isLeaf = false) :
    sizeOf token.inner < sizeOf token := by
  fun_cases Inline.inner token <;> simp_all [Inline.isLeaf] <;> omega

/-- The leaves of a sequence whose first place is `i`. -/
def PlacedToken.leavesFrom (i : Nat) : List Inline → List PlacedToken
  | [] => []
  | token :: rest =>
    (if token.isLeaf then [⟨[i], [], token⟩]
      else (leavesFrom 0 token.inner).map (·.under i token)) ++ leavesFrom (i + 1) rest
termination_by tokens => sizeOf tokens
decreasing_by
  · have hleaf : ¬ token.isLeaf = true := by assumption
    have hsmaller := token.sizeOf_inner_lt (by simpa using hleaf)
    simp only [List.cons.sizeOf_spec]
    omega
  · simp only [List.cons.sizeOf_spec]
    omega

/-! ### The leaves are those below the sequence, in order -/

/-- A leaf has nothing below it. -/
theorem Inline.inner_of_isLeaf {token : Inline} (hleaf : token.isLeaf = true) : token.inner = [] := by
  fun_cases Inline.inner token <;> simp_all [Inline.isLeaf]

theorem Inline.not_below_nil {address : List Nat} {path : List Inline} {token : Inline} :
    ¬ Inline.Below [] address path token := by
  intro hbelow
  cases hbelow with
  | here hat => simp at hat
  | inside hat hbelow => simp at hat

theorem Inline.Below.address_eq_cons {tokens : List Inline} {address : List Nat} {path : List Inline}
    {token : Inline} (hbelow : Inline.Below tokens address path token) :
    ∃ k rest, address = k :: rest := by
  cases hbelow with
  | here hat => exact ⟨_, _, rfl⟩
  | inside hat hbelow => exact ⟨_, _, rfl⟩

/-- A token stands at the first place, inside the token there, or further on. -/
theorem Inline.below_cons {first : Inline} {rest : List Inline} {k : Nat} {address : List Nat}
    {path : List Inline} {token : Inline} :
    Inline.Below (first :: rest) (k :: address) path token ↔
      (k = 0 ∧ address = [] ∧ path = [] ∧ token = first) ∨
      (k = 0 ∧ ∃ path', path = first :: path' ∧ Inline.Below first.inner address path' token) ∨
      (∃ k', k = k' + 1 ∧ Inline.Below rest (k' :: address) path token) := by
  constructor
  · intro hbelow
    cases hbelow with
    | here hat =>
      cases k with
      | zero => exact .inl ⟨rfl, rfl, rfl, (Option.some.inj hat).symm⟩
      | succ k' => exact .inr (.inr ⟨k', rfl, .here hat⟩)
    | inside hat hbelow =>
      cases k with
      | zero =>
        obtain rfl := Option.some.inj hat
        exact .inr (.inl ⟨rfl, _, rfl, hbelow⟩)
      | succ k' => exact .inr (.inr ⟨k', rfl, .inside hat hbelow⟩)
  · rintro (⟨rfl, rfl, rfl, rfl⟩ | ⟨rfl, path', rfl, hbelow⟩ | ⟨k', rfl, hbelow⟩)
    · exact .here rfl
    · exact .inside rfl hbelow
    · cases hbelow with
      | here hat => exact .here hat
      | inside hat hbelow => exact .inside hat hbelow

theorem PlacedToken.mem_leavesFrom {i : Nat} {tokens : List Inline} {leaf : PlacedToken} :
    leaf ∈ leavesFrom i tokens ↔ leaf.token.isLeaf = true ∧
      ∃ k rest, leaf.address = (i + k) :: rest ∧ Inline.Below tokens (k :: rest) leaf.path leaf.token := by
  fun_induction leavesFrom i tokens generalizing leaf with
  | case1 i =>
    refine iff_of_false List.not_mem_nil ?_
    rintro ⟨-, k, rest, -, hbelow⟩
    exact Inline.not_below_nil hbelow
  | case2 i token more hinner hmore =>
    rw [List.mem_append]
    constructor
    · rintro (hmem | hmem)
      · split_ifs at hmem with hleaf
        · obtain rfl := List.mem_singleton.mp hmem
          exact ⟨hleaf, 0, [], rfl, .here rfl⟩
        · obtain ⟨inner, hinnerMem, rfl⟩ := List.mem_map.mp hmem
          obtain ⟨hinnerLeaf, k, rest, haddress, hbelow⟩ := (hinner hleaf).mp hinnerMem
          rw [Nat.zero_add] at haddress
          rw [← haddress] at hbelow
          exact ⟨hinnerLeaf, 0, inner.address, rfl, .inside rfl hbelow⟩
      · obtain ⟨hleaf, k, rest, haddress, hbelow⟩ := hmore.mp hmem
        refine ⟨hleaf, k + 1, rest, ?_, Inline.below_cons.mpr (.inr (.inr ⟨k, rfl, hbelow⟩))⟩
        rw [haddress, Nat.add_assoc, Nat.add_comm 1 k]
    · obtain ⟨address, path, leafToken⟩ := leaf
      rintro ⟨hleaf, k, rest, rfl, hbelow⟩
      rcases Inline.below_cons.mp hbelow with ⟨rfl, rfl, rfl, rfl⟩ | ⟨rfl, path', rfl, hinside⟩ | ⟨k', rfl, hfurther⟩
      · left
        rw [if_pos hleaf]
        exact List.mem_singleton_self _
      · left
        have htoken : ¬ token.isLeaf = true := by
          intro htoken
          rw [Inline.inner_of_isLeaf htoken] at hinside
          exact Inline.not_below_nil hinside
        rw [if_neg htoken]
        obtain ⟨k, deeper, rfl⟩ := hinside.address_eq_cons
        have hmem : ⟨k :: deeper, path', leafToken⟩ ∈ leavesFrom 0 token.inner :=
          (hinner htoken).mpr ⟨hleaf, k, deeper, by rw [Nat.zero_add], hinside⟩
        exact List.mem_map.mpr ⟨_, hmem, rfl⟩
      · right
        refine hmore.mpr ⟨hleaf, k', rest, ?_, hfurther⟩
        rw [Nat.add_assoc, Nat.add_comm 1 k']

/-- The addresses of leaves go up. -/
theorem PlacedToken.pairwise_leavesFrom (i : Nat) (tokens : List Inline) :
    (leavesFrom i tokens).Pairwise fun first second => first.address < second.address := by
  fun_induction leavesFrom i tokens with
  | case1 i => exact List.Pairwise.nil
  | case2 i token rest hinner hrest =>
    rw [List.pairwise_append]
    refine ⟨?_, hrest, ?_⟩
    · split_ifs with hleaf
      · exact List.pairwise_singleton _ _
      · rw [List.pairwise_map]
        refine (hinner hleaf).imp ?_
        intro first second hlt
        exact List.cons_lt_cons_iff.mpr (.inr ⟨rfl, hlt⟩)
    · -- A leaf at the first place comes before those further on by the head of its address.
      intro first hfirst second hsecond
      have hhead : ∃ address, first.address = i :: address := by
        split_ifs at hfirst with hleaf
        · obtain rfl := List.mem_singleton.mp hfirst
          exact ⟨[], rfl⟩
        · obtain ⟨inner, -, rfl⟩ := List.mem_map.mp hfirst
          exact ⟨inner.address, rfl⟩
      obtain ⟨address, haddress⟩ := hhead
      obtain ⟨-, k, more, haddress', -⟩ := mem_leavesFrom.mp hsecond
      rw [haddress, haddress']
      exact List.cons_lt_cons_iff.mpr (.inl (by omega))

/-! ### The runs are those of the leaves -/

/-- The marks inside a token. -/
def Marks.inside (marks : Marks) (outer : Inline) : Marks where
  bold := marks.bold || outer.isStrong
  italic := marks.italic || outer.isEmphasis
  strikethrough := marks.strikethrough || outer.isStrikethrough

/-- The run of a leaf inside tokens that have turned marks on. -/
def PlacedToken.run (marks : Marks) (leaf : PlacedToken) : Run where
  text := leaf.token.ownText
  bold := marks.bold || leaf.path.any Inline.isStrong
  italic := marks.italic || leaf.path.any Inline.isEmphasis
  strikethrough := marks.strikethrough || leaf.path.any Inline.isStrikethrough
  link := leaf.token.ownLink
  style := leaf.token.ownStyle

theorem PlacedToken.run_under (marks : Marks) (leaf : PlacedToken) (i : Nat) (outer : Inline) :
    (leaf.under i outer).run marks = leaf.run (marks.inside outer) := by
  simp only [PlacedToken.run, PlacedToken.under, Marks.inside, List.any_cons, Bool.or_assoc]

/-- A leaf is one run, and any other token gives the runs of what it stands around. -/
theorem Run.ofToken_eq (marks : Marks) (token : Inline) (i : Nat) :
    Run.ofToken marks token =
      if token.isLeaf then [PlacedToken.run marks ⟨[i], [], token⟩]
      else Run.ofTokens (marks.inside token) token.inner := by
  cases token with
  | strong children | emphasis children | strikethrough children =>
    simp [Run.ofToken, Inline.isLeaf, Inline.inner, Marks.inside, Inline.isStrong, Inline.isEmphasis,
      Inline.isStrikethrough]
  | text | code | link | lineBreak =>
    simp [Run.ofToken, Inline.isLeaf, PlacedToken.run, Inline.ownText, Inline.ownLink, Inline.ownStyle, Run.plain,
      Run.styled, Run.mark]
  | unrecognized literal children =>
    -- Nothing is turned on by an unrecognized token, whether it is a leaf or not.
    have hinside : marks.inside (.unrecognized literal children) = marks := by
      simp [Marks.inside, Inline.isStrong, Inline.isEmphasis, Inline.isStrikethrough]
    rw [hinside]
    rcases literal with _ | literal
    · cases children <;> rfl
    · by_cases hempty : literal = ""
      · cases children <;> simp [Run.ofToken, Run.ofTokens, Inline.isLeaf, Inline.inner, hempty]
      · cases children <;> simp [Run.ofToken, Inline.isLeaf, PlacedToken.run, Inline.ownText, Inline.ownLink,
          Inline.ownStyle, Run.plain, Run.mark, hempty]

theorem Run.ofTokens_eq_map_run (marks : Marks) (i : Nat) (tokens : List Inline) :
    Run.ofTokens marks tokens = (PlacedToken.leavesFrom i tokens).map (PlacedToken.run marks) := by
  fun_induction PlacedToken.leavesFrom i tokens generalizing marks with
  | case1 i => rfl
  | case2 i token rest hinner hrest =>
    rw [Run.ofTokens, List.map_append, ← hrest, Run.ofToken_eq marks token i]
    congr 1
    split_ifs with hleaf
    · rfl
    · rw [hinner hleaf, List.map_map]
      exact List.map_congr_left fun leaf _ => (leaf.run_under marks i token).symm

/-- What a run shows of a leaf: the text, link and style are the leaf's own, and a mark is on exactly if a
wrapper of its kind stands around the leaf. -/
structure Run.Renders (run : Run) (leaf : PlacedToken) : Prop where
  text : run.text = leaf.token.ownText
  link : run.link = leaf.token.ownLink
  style : run.style = leaf.token.ownStyle
  bold : run.bold = true ↔ ∃ children, .strong children ∈ leaf.path
  italic : run.italic = true ↔ ∃ children, .emphasis children ∈ leaf.path
  strikethrough : run.strikethrough = true ↔ ∃ children, .strikethrough children ∈ leaf.path

theorem Inline.any_iff_exists_mem {isKind : Inline → Bool} {wrap : List Inline → Inline}
    (hkind : ∀ token, isKind token = true ↔ ∃ children, token = wrap children) {path : List Inline} :
    path.any isKind = true ↔ ∃ children, wrap children ∈ path := by
  rw [List.any_eq_true]
  constructor
  · rintro ⟨token, hmem, htoken⟩
    obtain ⟨children, rfl⟩ := (hkind token).mp htoken
    exact ⟨children, hmem⟩
  · rintro ⟨children, hmem⟩
    exact ⟨wrap children, hmem, (hkind _).mpr ⟨children, rfl⟩⟩

theorem PlacedToken.renders_run (leaf : PlacedToken) : (leaf.run {}).Renders leaf where
  text := rfl
  link := rfl
  style := rfl
  bold := Inline.any_iff_exists_mem fun token => by cases token <;> simp [Inline.isStrong]
  italic := Inline.any_iff_exists_mem fun token => by cases token <;> simp [Inline.isEmphasis]
  strikethrough := Inline.any_iff_exists_mem fun token => by cases token <;> simp [Inline.isStrikethrough]

/-- **The runs are the leaves from left to right.** The leaves below the tokens, listed once each in the
order of their addresses, are shown by the runs one by one. -/
theorem Run.ofInline_renders_leaves (tokens : List Inline) :
    ∃ leaves : List PlacedToken,
      (leaves.Pairwise fun first second => first.address < second.address) ∧
      (∀ leaf, leaf ∈ leaves ↔
        leaf.token.isLeaf = true ∧ Inline.Below tokens leaf.address leaf.path leaf.token) ∧
      List.Forall₂ Run.Renders (Run.ofInline tokens) leaves := by
  refine ⟨PlacedToken.leavesFrom 0 tokens, PlacedToken.pairwise_leavesFrom 0 tokens, fun leaf => ?_, ?_⟩
  · rw [PlacedToken.mem_leavesFrom]
    refine and_congr_right fun _ => ?_
    constructor
    · rintro ⟨k, rest, haddress, hbelow⟩
      rw [haddress, Nat.zero_add]
      exact hbelow
    · intro hbelow
      obtain ⟨k, rest, haddress⟩ := hbelow.address_eq_cons
      rw [haddress] at hbelow
      exact ⟨k, rest, by rw [haddress, Nat.zero_add], hbelow⟩
  · rw [Run.ofInline, Run.ofTokens_eq_map_run {} 0 tokens, List.forall₂_map_left_iff, List.forall₂_same]
    exact fun leaf _ => leaf.renders_run

/-- An unrecognized token with an empty text lets its children through. -/
example : Run.ofInline [.strong [.unrecognized (some "") (some [.text "", .emphasis []])], .lineBreak] =
    [{ text := "", bold := true }, { text := "\n" }] := by
  decide

end Folio
