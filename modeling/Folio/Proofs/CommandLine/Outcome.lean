import Folio.Proofs.CommandLine.Failure
import Folio.Proofs.CommandLine.Storing
/-!
# What a run that is done has stored

A run prepares a converter and reads its input, makes the parts of a result, and stores them. Of these
steps only the last one changes files, but for a PDF output, whose file is created first and is written
with the same content all the same. So what a run that is done has changed is what storing the parts
changes, and that is told by the parts and the path of the output alone.

The last line of such a run names the output. This is a file of the run if the result has one part at
most. Numbered files all have other names, so then no file of that name has been written.
-/

namespace Folio.CommandLine

open Session

variable {t : Typesetter} {c : Converter} {r : Request} {markdown : String} {w after : World}
  {logSpec : Option String} {arguments : List String}

/-! ### Preparing and converting -/

/-- What a request does before it converts. -/
def Request.prepare (r : Request) : Session (Converter × String) := do
  let config ← r.loadConfig
  let converter ← Converter.ofConfig config
  let markdown ← readInput r.input
  pure (converter, markdown)

theorem prepare_confined (r : Request) : r.prepare.Confined False (·.stage = .preparing) :=
  (loadConfig_confined r).bind fun config => (ofConfig_confined config).bind fun _ =>
    (readInput_confined r.input).bind fun _ => trivial

theorem session_eq (t : Typesetter) (r : Request) :
    r.session t = r.prepare >>= fun prepared => r.convert t prepared.1 prepared.2 := by
  simp only [Request.session, Request.prepare, bind_assoc, pure_bind]

/-- The parts of a result: a drawing of each page, or all in one part. -/
def Request.parts (t : Typesetter) (r : Request) (c : Converter) (markdown : String) :
    Except ConversionError (List Bytes) :=
  match r.format with
  | .pdf => (c.pdf t markdown).result.map fun file => [file]
  | .svg => (c.pages t markdown).result.map PageDrawings.drawings
  | .typst => (c.markup markdown).result.map fun markup => [Bytes.ofString markup]
  | .json => (c.document markdown).result.map fun document => [Bytes.ofString document.toJson.spread]

/-- A conversion whose result is stored when it is done. -/
theorem run_inSession_bind {α : Type} {conversion : Conversion α} {f : α → Session Unit}
    (hrun : (conversion.inSession >>= f).run w = (.ok (), after)) :
    ∃ value between, conversion.result = .ok value ∧ between.files = w.files ∧
      (f value).run between = (.ok (), after) ∧
        (conversion.inSession >>= f).changes w = (f value).changes between := by
  have hconfined : conversion.inSession.Confined False (fun _ => True) :=
    inSession_confined fun _ _ => trivial
  obtain ⟨value, between, hconvert, hfiles, hrest, hchanges⟩ := hconfined.run_bind_ok hrun
  exact ⟨value, between, inSession_result hconvert, hfiles, hrest, hchanges⟩

/-- The same where the result has one part. -/
theorem run_inSession_store {α : Type} {conversion : Conversion α} {write : α → Bytes} {path : String}
    (hfile : ¬ isStandard path)
    (hrun : (conversion.inSession >>= fun value => store path (write value)).run w = (.ok (), after)) :
    ∃ value, conversion.result = .ok value ∧
      Stored w.files after.files (outputFiles path [write value]) ∧
        (conversion.inSession >>= fun value => store path (write value)).changes w =
          writes (outputFiles path [write value]) := by
  obtain ⟨value, between, hresult, hfiles, hstore, hchanges⟩ := run_inSession_bind hrun
  obtain ⟨place, hplace, rfl, hwritten⟩ := store_run hfile hstore
  refine ⟨value, hresult, ?_, ?_⟩
  · rw [hfiles] at hplace
    rw [outputFiles_singleton, hfiles]
    exact Stored.singleton hplace _
  · rw [hchanges, hwritten, outputFiles_singleton]
    rfl

/-- A log entry at the end changes no file. -/
theorem run_bind_log {s : Session Unit} {entry : LogEntry}
    (hrun : (s >>= fun _ => .log entry (.done ())).run w = (.ok (), after)) :
    ∃ between, s.run w = (.ok (), between) ∧ after.files = between.files ∧
      (s >>= fun _ => .log entry (.done ())).changes w = s.changes w := by
  obtain ⟨_, between, hfirst, hlog⟩ := run_bind_ok hrun
  obtain ⟨-, rfl⟩ := Prod.mk.inj hlog
  refine ⟨between, hfirst, rfl, ?_⟩
  rw [changes_bind_of_run hfirst]
  exact List.append_nil _

/-- Storing is the last thing a conversion does, and what it stores are the parts of its result. -/
theorem convert_stores (hfile : ¬ isStandard r.outputPath)
    (hrun : (r.convert t c markdown).run w = (.ok (), after)) :
    ∃ parts, r.parts t c markdown = .ok parts ∧
      Stored w.files after.files (outputFiles r.outputPath parts) ∧
        (r.convert t c markdown).changes w = writes (outputFiles r.outputPath parts) := by
  rw [Request.convert] at hrun ⊢
  rw [Request.parts]
  cases hformat : r.format with
  | pdf =>
    rw [hformat] at hrun
    dsimp only at hrun ⊢
    -- The file is empty during the conversion, so what is written behind that is all that it has.
    obtain ⟨_, opened, hopen, hrest⟩ := run_bind_ok hrun
    obtain ⟨place, hplace, hopened, hcreated⟩ := openOutput_run hfile hopen
    obtain ⟨file, between, hresult, hfiles, hrest, hchanges⟩ := run_inSession_bind hrest
    obtain ⟨written, hwrite, hlogged, hwritten⟩ := run_bind_log hrest
    rw [hopened] at hfiles
    obtain ⟨hcomplete, happended⟩ := writeOutput_run hfile hplace hfiles file
    obtain ⟨-, rfl⟩ := Prod.mk.inj (hwrite.symm.trans hcomplete)
    refine ⟨[file], by rw [hresult]; rfl, ?_, ?_⟩
    · rw [hlogged, outputFiles_singleton]
      exact Stored.singleton hplace file
    · rw [changes_bind_of_run hopen, hcreated, hchanges, hwritten, happended, outputFiles_singleton]
      rfl
  | svg =>
    rw [hformat] at hrun
    dsimp only at hrun ⊢
    obtain ⟨pages, between, hresult, hfiles, hrest, hchanges⟩ := run_inSession_bind hrun
    obtain ⟨stored, hstore, hlogged, hwritten⟩ := run_bind_log hrest
    obtain ⟨hstored, hstores⟩ := storeDrawings_run hfile hstore
    rw [hfiles] at hstored
    exact ⟨pages.drawings, by rw [hresult]; rfl, by rw [hlogged]; exact hstored,
      by rw [hchanges, hwritten, hstores]⟩
  | typst =>
    rw [hformat] at hrun
    obtain ⟨markup, hresult, hstores⟩ := run_inSession_store hfile hrun
    exact ⟨_, by rw [hresult]; rfl, hstores⟩
  | json =>
    rw [hformat] at hrun
    obtain ⟨document, hresult, hstores⟩ := run_inSession_store hfile hrun
    exact ⟨_, by rw [hresult]; rfl, hstores⟩

/-! ### Whole runs -/

/-- What a run that is done has made and stored. -/
structure Made (t : Typesetter) (r : Request) (before after : World) (parts : List Bytes) : Prop where
  parts_eq : ∃ c markdown, (r.prepare.run before).1 = .ok (c, markdown) ∧
    r.parts t c markdown = .ok parts
  stored : Stored before.files after.files (outputFiles r.outputPath parts)
  changes_eq : (r.session t).changes before = writes (outputFiles r.outputPath parts)

theorem session_made (hfile : ¬ isStandard r.outputPath)
    (hrun : (r.session t).run w = (.ok (), after)) : ∃ parts, Made t r w after parts := by
  rw [session_eq] at hrun
  obtain ⟨⟨c, markdown⟩, prepared, hprepare, hfiles, hconvert, hchanges⟩ :=
    (prepare_confined r).run_bind_ok hrun
  obtain ⟨parts, hparts, hstored, hwritten⟩ := convert_stores hfile hconvert
  rw [hfiles] at hstored
  refine ⟨parts, ⟨c, markdown, by rw [hprepare], hparts⟩, hstored, ?_⟩
  rw [session_eq, hchanges, hwritten]

theorem run_done (harguments : Request.ofArguments arguments = .ok r)
    (hdone : (run t logSpec arguments w).exit = exitDone) :
    (r.session t).run w = (.ok (), (run t logSpec arguments w).world) ∧
      ∃ reported, (run t logSpec arguments w).errors = reported ++ r.announcement := by
  rw [run, harguments] at hdone ⊢
  dsimp only at hdone ⊢
  rcases hsession : (r.session t).run w with ⟨failure | _, after⟩
  · rw [hsession] at hdone
    cases hdone
  · exact ⟨rfl, _, rfl⟩

/-! ### What is announced -/

theorem created_mem_writes_iff {files : List (String × Bytes)} {path : String} :
    .created path ∈ writes files ↔ ∃ content, (path, content) ∈ files := by
  simp [writes]

/-- The output itself is written if and only if the result has one part at most. -/
theorem created_mem_writes_outputFiles_iff (path : String) (parts : List Bytes) :
    .created path ∈ writes (outputFiles path parts) ↔ parts.length ≤ 1 := by
  rw [created_mem_writes_iff, outputFiles]
  split
  · simp_all
  · refine iff_of_false ?_ ‹_›
    rintro ⟨content, hmem⟩
    obtain ⟨⟨part, k⟩, -, hfile⟩ := List.mem_map.mp hmem
    exact pagePath_ne rfl k (Prod.mk.inj hfile).1

/-- Only drawings have more parts than one. -/
theorem parts_length_le_one {parts : List Bytes} (hparts : r.parts t c markdown = .ok parts)
    (hformat : r.format ≠ .svg) : parts.length ≤ 1 := by
  have hmap {α : Type} (part : α → Bytes) {result : Except ConversionError α}
      (hresult : (result.map fun value => [part value]) = .ok parts) : parts.length ≤ 1 := by
    cases result with
    | error e => cases hresult
    | ok value =>
      obtain rfl := Except.ok.inj hresult
      exact Nat.le_refl 1
  rw [Request.parts] at hparts
  cases hcase : r.format with
  | svg => exact absurd hcase hformat
  | pdf | typst | json =>
    rw [hcase] at hparts
    exact hmap _ hparts

/-- **The path that a run announces is that of a file which the run has written and which holds the
whole result, unless the result is drawings of more than one page. Then each page is in a numbered file,
none of which is the announced one, and that one is what it was before.** -/
theorem run_announces_output (harguments : Request.ofArguments arguments = .ok r)
    (hfile : ¬ isStandard r.outputPath) (hdone : (run t logSpec arguments w).exit = exitDone) :
    let outcome := run t logSpec arguments w
    let changes := (r.session t).changes w
    outcome.errors.getLast? = some ("Created " ++ r.outputPath) ∧
      ∃ parts, Made t r w outcome.world parts ∧
        if r.format = .svg ∧ 2 ≤ parts.length then
          .created r.outputPath ∉ changes ∧ ∀ content,
            outcome.world.files.read r.outputPath = .ok content ↔
              w.files.read r.outputPath = .ok content
        else .created r.outputPath ∈ changes ∧
          outcome.world.files.read r.outputPath = .ok parts.flatten := by
  intro outcome changes
  obtain ⟨hrun, reported, herrors⟩ := run_done harguments hdone
  obtain ⟨parts, hmade⟩ := session_made hfile hrun
  refine ⟨?_, parts, hmade, ?_⟩
  · show (run t logSpec arguments w).errors.getLast? = _
    rw [herrors, Request.announcement, if_neg hfile, List.getLast?_concat]
  · have hwritten : .created r.outputPath ∈ changes ↔ parts.length ≤ 1 := by
      rw [show changes = _ from hmade.changes_eq]
      exact created_mem_writes_outputFiles_iff _ _
    by_cases hmany : parts.length ≤ 1
    · rw [if_neg (fun h => absurd h.2 (by omega))]
      have hfiles : (r.outputPath, parts.flatten) ∈ outputFiles r.outputPath parts := by
        rw [outputFiles, if_pos hmany]
        exact List.mem_singleton_self _
      exact ⟨hwritten.mpr hmany, hmade.stored.read hfiles⟩
    · obtain ⟨_, _, -, hparts⟩ := hmade.parts_eq
      have hformat : r.format = .svg :=
        Decidable.byContradiction fun h => hmany (parts_length_le_one hparts h)
      have hstored := hmade.stored
      rw [outputFiles, if_neg hmany] at hstored
      rw [if_pos ⟨hformat, by omega⟩]
      exact ⟨fun h => hmany (hwritten.mp h), fun _ => read_iff_of_pageFiles rfl hstored⟩

/-- A text of one page, and something else where its drawing goes. -/
def onePage : World :=
  { files := ⟨[(["in.md"], .file (Bytes.ofString "x")), (["out.svg"], .file [1, 2, 3])]⟩ }

theorem run_announces_output_onePage :
    let r : Request := ⟨"in.md", some "out.svg", none, .svg, false⟩
    let outcome := run Sheets.typesetter none ["in.md", "-o", "out.svg", "-f", "svg"] onePage
    outcome.exit = exitDone ∧ outcome.errors.getLast? = some "Created out.svg" ∧
      ∃ parts, Made Sheets.typesetter r onePage outcome.world parts ∧
        outcome.world.files.read "out.svg" = .ok parts.flatten := by
  intro r outcome
  have hdone : outcome.exit = exitDone := by decide +kernel
  have hcreated : .created "out.svg" ∈ (r.session Sheets.typesetter).changes onePage := by decide +kernel
  obtain ⟨hlast, parts, hmade, hwritten⟩ :=
    run_announces_output (t := Sheets.typesetter) (r := r) rfl (by decide) hdone
  refine ⟨hdone, hlast, parts, hmade, ?_⟩
  split at hwritten
  · exact absurd hcreated hwritten.1
  · exact hwritten.2

/-- A paragraph and a block of code that takes the next page. -/
def twoPages : World :=
  { files := ⟨[(["doc.md"], .file ([120, 10, 10, 96, 96, 96] ++ List.replicate 90 10 ++ [96, 96, 96]))]⟩ }

/-- The path announced for two pages is that of no file. -/
theorem run_announces_no_file :
    let outcome := run Sheets.typesetter none ["doc.md", "-f", "svg"] twoPages
    outcome.exit = exitDone ∧ outcome.errors = ["Created doc.svg"] ∧
      outcome.world.files.contains "doc.svg" = false := by
  decide +kernel

end Folio.CommandLine
