import Folio.Document.OfBlocks
import Folio.Proofs.Block.TopLevel
import Mathlib.Data.List.Flatten
import Mathlib.Data.List.Forall2
import Mathlib.Data.List.TakeWhile
/-!
# What the policy decides

The policy decides about one kind of block only: a block without a token of its own whose source is not
blank. Passed through it is a paragraph, and dropped it is a warning. Every other block becomes the same
under both policies, a node or nothing.

So the two documents of a list of blocks differ by the paragraphs of those blocks, and the log of the
shorter one has a warning for each of them. Both facts are read off one table of what can become of a
single block.
-/

namespace Folio

namespace Text

/-- Trimming leaves nothing exactly of a text that is all blank. -/
theorem trim_eq_nil_iff (text : List Char) : trim text = [] ↔ text.all isBlank = true := by
  have hstart : trimStart text = [] ↔ text.all isBlank = true := by
    rw [trimStart, List.dropWhile_eq_nil_iff, List.all_eq_true]
  rw [← hstart]
  constructor
  · intro htrim
    rw [trim, trimEnd, List.reverse_eq_nil_iff, List.dropWhile_eq_nil_iff] at htrim
    by_contra hrest
    -- What is left after trimming the start begins with a visible character.
    have hvisible : isBlank ((trimStart text).head hrest) = false := List.head_dropWhile_not isBlank hrest
    have hblank : isBlank ((trimStart text).head hrest) = true := htrim _ (by simp)
    rw [hblank] at hvisible
    contradiction
  · intro hempty
    rw [trim, hempty]
    rfl

end Text

namespace Block

/-- A block without a token of its own whose trimmed source is not empty. -/
def isContested : Block → Bool
  | .unrecognized raw => !(Text.trim raw.toList).isEmpty
  | _ => false

/-- A block without a token of its own whose source is all blank. -/
def isBlankSource : Block → Bool
  | .unrecognized raw => raw.toList.all Text.isBlank
  | _ => false

end Block

/-- A paragraph that is one plain run. -/
def Node.plainParagraph (text : String) : Node :=
  .textBlock [Run.plain text] .body paragraphMargin

/-- The nodes of a single block. -/
def Node.ofBlock (policy : UnrecognizedPolicy) (block : Block) : List Node :=
  (Node.ofBlocks policy [block]).1

/-- The warnings of a log. -/
def LogEntry.warnings (log : List LogEntry) : List LogEntry :=
  log.filter fun entry => entry.level = .warn

/-- A text of at most forty characters as it is, and of a longer text the first forty and three dots. -/
structure Previews (text : String) (shown : List Char) : Prop where
  short : text.length ≤ 40 → shown = text.toList
  long : 40 < text.length → shown = text.toList.take 40 ++ ['.', '.', '.']

/-- A warning that gives the size of a paragraph's text in bytes and a quoted preview of it. -/
structure LogEntry.Reports (entry : LogEntry) (node : Node) : Prop where
  level : entry.level = .warn
  message : ∃ text shown, node = .plainParagraph text ∧ Previews text shown ∧
    entry.message = "dropping unrecognized block (" ++ Nat.repr text.utf8ByteSize ++ " bytes): " ++
      String.ofList (Text.quoted shown)

/-! ### What can become of a block -/

theorem Block.place_cases (block : Block) :
    (block.isContested = false ∧ block.isBlank = false ∧ block.isBlankSource = false ∧
      ∃ node, ∀ policy, block.place policy = .node node) ∨
    (block.isContested = false ∧ (block.isBlank = true ↔ block.isBlankSource = false) ∧
      ∀ policy, block.place policy = .nothing) ∨
    (block.isContested = true ∧ block.isBlank = false ∧ block.isBlankSource = false ∧
      ∃ content, block.place .drop = .dropped content ∧
        block.place .passthrough = .node (.plainParagraph (String.ofList content))) := by
  cases block with
  | blank => exact .inr (.inl ⟨rfl, by simp [isBlank, isBlankSource], fun _ => rfl⟩)
  | unrecognized raw =>
    by_cases hempty : Text.trim raw.toList = []
    · have hblank : isBlankSource (.unrecognized raw) = true := (Text.trim_eq_nil_iff raw.toList).mp hempty
      refine .inr (.inl ⟨?_, ?_, fun policy => ?_⟩)
      · simp [isContested, hempty]
      · simp [isBlank, hblank]
      · simp [place, placeUnrecognized, hempty]
    · have hvisible : isBlankSource (.unrecognized raw) = false := by
        rw [Bool.eq_false_iff]
        exact fun hblank => hempty ((Text.trim_eq_nil_iff raw.toList).mpr hblank)
      refine .inr (.inr ⟨?_, rfl, hvisible, Text.trim raw.toList, ?_, ?_⟩)
      · simp [isContested, hempty]
      · simp [place, placeUnrecognized, hempty]
      · simp [place, placeUnrecognized, hempty, Node.plainParagraph]
  | _ => exact .inl ⟨rfl, rfl, rfl, _, fun _ => rfl⟩

theorem previews_preview (content : List Char) : Previews (String.ofList content) (preview content) where
  short hshort := by
    rw [String.length_ofList] at hshort
    rw [preview, if_neg (by rw [previewLength]; omega), String.toList_ofList]
  long hlong := by
    rw [String.length_ofList] at hlong
    rw [preview, if_pos (by rw [previewLength]; omega), String.toList_ofList, previewLength]

theorem LogEntry.message_droppedBlock (bytes : Nat) (shown : String) :
    (LogEntry.droppedBlock bytes shown).message =
      "dropping unrecognized block (" ++ Nat.repr bytes ++ " bytes): " ++
        String.ofList (Text.quoted shown.toList) := rfl

/-- The warning about a dropped text reports the paragraph that the text would have been. -/
theorem LogEntry.reports_dropped (content : List Char) :
    Reports (.droppedBlock (Text.byteLength content) (String.ofList (preview content)))
      (.plainParagraph (String.ofList content)) where
  level := rfl
  message := by
    refine ⟨String.ofList content, preview content, rfl, previews_preview content, ?_⟩
    rw [message_droppedBlock, String.toList_ofList, Text.utf8ByteSize_ofList]

/-! ### Nodes and warnings of a list, block by block -/

variable {policy : UnrecognizedPolicy} {block : Block} {blocks : List Block}

theorem Node.ofBlock_eq : Node.ofBlock policy block = (block.place policy).node?.toList := by
  rw [Node.ofBlock, Node.ofBlocks]
  cases h : (block.place policy).node? <;> simp [h]

theorem Node.ofBlocks_eq_flatMap : (Node.ofBlocks policy blocks).1 = blocks.flatMap (Node.ofBlock policy) := by
  rw [Node.ofBlocks, List.filterMap_eq_flatMap_toList, List.flatMap_map]
  exact List.flatMap_congr fun block _ => Node.ofBlock_eq.symm

/-- The log is its warnings and the entry with the two counts. -/
theorem Node.log_ofBlocks : (Node.ofBlocks policy blocks).2 =
    blocks.flatMap (fun block => (block.place policy).warning?.toList) ++
      [.transformed blocks.length (Node.ofBlocks policy blocks).1.length] := by
  rw [Node.ofBlocks]
  dsimp only
  rw [List.filterMap_eq_flatMap_toList _ (List.map _ _), List.flatMap_map]

theorem Placement.level_warning {placement : Placement} {entry : LogEntry}
    (hentry : placement.warning? = some entry) : entry.level = .warn := by
  cases placement with
  | dropped content =>
    obtain rfl := Option.some.inj hentry
    rfl
  | node | nothing => cases hentry

theorem Node.warnings_ofBlocks : LogEntry.warnings (Node.ofBlocks policy blocks).2 =
    blocks.flatMap fun block => (block.place policy).warning?.toList := by
  rw [Node.log_ofBlocks, LogEntry.warnings, List.filter_append]
  have hlast : [LogEntry.transformed blocks.length (Node.ofBlocks policy blocks).1.length].filter
      (fun entry => entry.level = .warn) = [] := rfl
  rw [hlast, List.append_nil, List.filter_eq_self]
  intro entry hmem
  obtain ⟨block, -, hentry⟩ := List.mem_flatMap.mp hmem
  simp [Placement.level_warning (Option.mem_toList.mp hentry)]

/-! ### The two policies, side by side -/

theorem Node.ofBlock_drop (block : Block) :
    Node.ofBlock .drop block = if block.isContested then [] else Node.ofBlock .passthrough block := by
  rw [Node.ofBlock_eq, Node.ofBlock_eq]
  rcases block.place_cases with ⟨hcontested, -, -, node, hplace⟩ | ⟨hcontested, -, hplace⟩ |
    ⟨hcontested, -, -, content, hdrop, -⟩
  · rw [hplace, hplace, hcontested]
    rfl
  · rw [hplace, hplace, hcontested]
    rfl
  · rw [hdrop, hcontested]
    rfl

theorem Node.ofBlocks_drop (blocks : List Block) : (Node.ofBlocks .drop blocks).1 =
    (blocks.filter (!·.isContested)).flatMap (Node.ofBlock .passthrough) := by
  rw [Node.ofBlocks_eq_flatMap]
  induction blocks with
  | nil => rfl
  | cons block rest ih =>
    rw [List.flatMap_cons, ih, Node.ofBlock_drop, List.filter_cons]
    cases block.isContested
    · simp
    · simp

/-- A block has a warning exactly if it is dropped, and the warning reports the paragraph that is
missing. -/
theorem Node.reports_warnings_drop (blocks : List Block) :
    List.Forall₂ LogEntry.Reports (LogEntry.warnings (Node.ofBlocks .drop blocks).2)
      ((blocks.filter Block.isContested).flatMap (Node.ofBlock .passthrough)) := by
  rw [Node.warnings_ofBlocks]
  induction blocks with
  | nil => exact List.Forall₂.nil
  | cons block rest ih =>
    rw [List.flatMap_cons, List.filter_cons]
    rcases block.place_cases with ⟨hcontested, -, -, node, hplace⟩ | ⟨hcontested, -, hplace⟩ |
      ⟨hcontested, -, -, content, hdrop, hpass⟩
    · rw [hcontested, hplace]
      exact ih
    · rw [hcontested, hplace]
      exact ih
    · rw [hcontested, hdrop, if_pos rfl, List.flatMap_cons, Node.ofBlock_eq, hpass]
      exact List.Forall₂.cons (LogEntry.reports_dropped content) ih

theorem Node.warnings_passthrough (blocks : List Block) :
    LogEntry.warnings (Node.ofBlocks .passthrough blocks).2 = [] := by
  rw [Node.warnings_ofBlocks, List.flatMap_eq_nil_iff]
  intro block _
  rcases block.place_cases with ⟨-, -, -, node, hplace⟩ | ⟨-, -, hplace⟩ | ⟨-, -, -, content, -, hpass⟩
  · rw [hplace]
    rfl
  · rw [hplace]
    rfl
  · rw [hpass]
    rfl

/-- A block is a node, a warning, a blank or blank source, and only one of these. -/
theorem Block.tally (policy : UnrecognizedPolicy) (block : Block) :
    (Node.ofBlock policy block).length + (block.place policy).warning?.toList.length +
      ([block].countP isBlank + [block].countP isBlankSource) = 1 := by
  rw [Node.ofBlock_eq, List.countP_singleton, List.countP_singleton]
  rcases block.place_cases with ⟨-, hblank, hsource, node, hplace⟩ | ⟨-, heither, hplace⟩ |
    ⟨-, hblank, hsource, content, hdrop, hpass⟩
  · rw [hplace, hblank, hsource]
    rfl
  · rw [hplace]
    cases hsource : block.isBlankSource
    · rw [heither.mpr hsource]
      rfl
    · have hblank : block.isBlank = false := by
        rw [Bool.eq_false_iff, ne_eq, heither, hsource]
        simp
      rw [hblank]
      rfl
  · rw [hblank, hsource]
    cases policy
    · rw [hdrop]
      rfl
    · rw [hpass]
      rfl

theorem Node.length_eq_tally (policy : UnrecognizedPolicy) (blocks : List Block) :
    blocks.length = (Node.ofBlocks policy blocks).1.length +
      (LogEntry.warnings (Node.ofBlocks policy blocks).2).length +
      (blocks.countP Block.isBlank + blocks.countP Block.isBlankSource) := by
  rw [Node.warnings_ofBlocks, Node.ofBlocks_eq_flatMap]
  induction blocks with
  | nil => rfl
  | cons block rest ih =>
    have hone := block.tally policy
    have hcount : ∀ p : Block → Bool, (block :: rest).countP p = [block].countP p + rest.countP p := by
      intro p
      rw [← List.countP_append, List.singleton_append]
    rw [List.flatMap_cons, List.flatMap_cons, List.length_append, List.length_append, List.length_cons,
      hcount Block.isBlank, hcount Block.isBlankSource]
    omega

theorem Node.length_ofBlock_le (policy : UnrecognizedPolicy) (block : Block) :
    (Node.ofBlock policy block).length ≤ 1 := by
  have hone := block.tally policy
  omega

/-- **Dropping loses nothing silently, and nothing else.** Under the dropping policy the nodes are those
of the other policy without the paragraphs of the contested blocks, and the warnings report these
paragraphs one by one, in order. The other policy warns of nothing. Under both a block has at most one
node, nodes stand in the order of their blocks, every block is a node, a warning, a blank or blank
source, and the log closes with its only line that is no warning, which states the two counts. -/
theorem Node.ofBlocks_drop_reports_loss (blocks : List Block) :
    (Node.ofBlocks .drop blocks).1 =
      (blocks.filter (!·.isContested)).flatMap (Node.ofBlock .passthrough) ∧
    List.Forall₂ LogEntry.Reports (LogEntry.warnings (Node.ofBlocks .drop blocks).2)
      ((blocks.filter Block.isContested).flatMap (Node.ofBlock .passthrough)) ∧
    LogEntry.warnings (Node.ofBlocks .passthrough blocks).2 = [] ∧
    ∀ policy,
      (Node.ofBlocks policy blocks).1 = blocks.flatMap (Node.ofBlock policy) ∧
      (∀ block, (Node.ofBlock policy block).length ≤ 1) ∧
      blocks.length = (Node.ofBlocks policy blocks).1.length +
        (LogEntry.warnings (Node.ofBlocks policy blocks).2).length +
        (blocks.countP Block.isBlank + blocks.countP Block.isBlankSource) ∧
      ∃ last, (Node.ofBlocks policy blocks).2 =
          LogEntry.warnings (Node.ofBlocks policy blocks).2 ++ [last] ∧
        last.level = .debug ∧
        last.message = "transformed " ++ Nat.repr blocks.length ++ " blocks into " ++
          Nat.repr (Node.ofBlocks policy blocks).1.length ++ " nodes" := by
  refine ⟨Node.ofBlocks_drop blocks, Node.reports_warnings_drop blocks, Node.warnings_passthrough blocks,
    fun policy => ⟨Node.ofBlocks_eq_flatMap, Node.length_ofBlock_le policy, Node.length_eq_tally policy blocks,
      .transformed blocks.length (Node.ofBlocks policy blocks).1.length, ?_, rfl, rfl⟩⟩
  rw [Node.warnings_ofBlocks]
  exact Node.log_ofBlocks

end Folio
