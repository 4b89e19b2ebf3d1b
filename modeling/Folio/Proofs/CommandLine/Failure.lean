import Folio.CommandLine.Basic
import Folio.Proofs.Session
import Folio.Typesetter.Sheets
/-!
# What a failed run leaves behind

A request goes through three stages: it prepares a converter and reads the input, it converts, and it
stores the result. Every failure tells its stage. The first two stages change no file, so a run that
fails in one of them leaves the files as they were, with one exception: the file of a PDF output is
created, or emptied, before the conversion, and stays like that when the conversion fails.
-/

namespace Folio

/-- The parts of a request, in their order. -/
inductive Stage where
  | preparing
  | converting
  | storing
deriving DecidableEq, Repr

/-- Where a failure comes from. -/
def Failure.stage : Failure → Stage
  | config _ | readingFile .. | readingInput _ => .preparing
  | conversion (.render (.font ..)) => .preparing
  | conversion .emptyInput | conversion (.render (.compile _)) | conversion (.render (.pdf _)) => .converting
  | conversion (.render (.sink _)) | writing .. => .storing

namespace Converter

variable {t : Typesetter} {c : Converter} {markdown : String} {e : ConversionError}

theorem bind_result_error {α β : Type} {first : Conversion α} {f : α → Conversion β}
    (herror : (first >>= f).result = .error e) :
    first.result = .error e ∨ ∃ value, first.result = .ok value ∧ (f value).result = .error e := by
  change (first.bind f).result = _ at herror
  rw [Conversion.bind] at herror
  rcases hfirst : first.result with error | value
  · rw [hfirst] at herror
    exact .inl (congrArg _ (Except.error.inj herror))
  · rw [hfirst] at herror
    exact .inr ⟨value, rfl, herror⟩

theorem renderError_stage {α : Type} {kind : String → RenderError} {result : Except String α}
    (hkind : ∀ details, (Failure.conversion (.render (kind details))).stage = .converting)
    (herror : (renderError kind result).result = .error e) : (Failure.conversion e).stage = .converting := by
  cases result with
  | ok value => cases herror
  | error details =>
    obtain rfl := Except.error.inj herror
    exact hkind details

theorem document_stage (herror : (c.document markdown).result = .error e) :
    (Failure.conversion e).stage = .converting := by
  rcases bind_result_error herror with hblocks | ⟨blocks, -, hrest⟩
  · rw [blocks, Block.ofMarkdown] at hblocks
    split at hblocks
    · obtain rfl := Except.error.inj hblocks
      rfl
    · cases hblocks
  · cases hrest

theorem markup_stage (herror : (c.markup markdown).result = .error e) :
    (Failure.conversion e).stage = .converting := by
  rcases bind_result_error herror with hdocument | ⟨document, -, hrest⟩
  · exact document_stage hdocument
  · cases hrest

theorem typeset_stage (herror : (c.typeset t markdown).result = .error e) :
    (Failure.conversion e).stage = .converting := by
  rcases bind_result_error herror with hdocument | ⟨document, -, hrest⟩
  · exact document_stage hdocument
  · rcases bind_result_error hrest with hlog | ⟨_, -, hcompile⟩
    · cases hlog
    · exact renderError_stage (fun _ => rfl) hcompile

theorem pdf_stage (herror : (c.pdf t markdown).result = .error e) :
    (Failure.conversion e).stage = .converting := by
  rcases bind_result_error herror with htypeset | ⟨typeset, -, hfile⟩
  · exact typeset_stage htypeset
  · exact renderError_stage (fun _ => rfl) hfile

theorem pages_stage (herror : (c.pages t markdown).result = .error e) :
    (Failure.conversion e).stage = .converting := by
  rcases bind_result_error herror with htypeset | ⟨typeset, -, hrest⟩
  · exact typeset_stage htypeset
  · cases hrest

end Converter

namespace CommandLine

open Session

variable {t : Typesetter} {c : Converter} {r : Request} {markdown path : String} {w after : World}
  {failure : Failure}

/-! ### Storing -/

theorem openOutput_confined (path : String) : (openOutput path).Confined True (·.stage = .storing) := by
  rw [openOutput]
  split
  · trivial
  · refine ⟨trivial, ?_⟩
    rintro (e | _)
    · rfl
    · trivial

theorem writeOutput_confined {mayFail : Failure → Prop} (path : String) (content : Bytes) :
    (writeOutput path content).Confined True mayFail := by
  rw [writeOutput]
  split
  · trivial
  · exact ⟨trivial, trivial⟩

theorem store_confined (path : String) (content : Bytes) :
    (store path content).Confined True (·.stage = .storing) :=
  (openOutput_confined path).bind fun _ => writeOutput_confined path content

theorem storePages_confined (path : String) (number : Nat) (pages : List Bytes) :
    (storePages path number pages).Confined True (·.stage = .storing) := by
  induction pages generalizing number with
  | nil => trivial
  | cons page rest ih =>
    -- Which file a page goes to does not matter.
    rw [storePages]
    generalize pagePath path number = file
    exact (store_confined file page).bind fun _ => ih (number + 1)

theorem storeDrawings_confined (path : String) (drawings : List Bytes) :
    (storeDrawings path drawings).Confined True (·.stage = .storing) := by
  rw [storeDrawings]
  split
  · exact store_confined path _
  · exact storePages_confined path 1 drawings

/-- An output that is opened is created, if it is a file. -/
theorem files_of_openOutput (hopen : (openOutput path).run w = (.ok (), after)) :
    if isStandard path then after.files = w.files else w.files.create path = .ok after.files := by
  rw [openOutput] at hopen
  split at hopen
  · obtain ⟨-, rfl⟩ := Prod.mk.inj hopen
    rw [if_pos ‹_›]
  · rw [if_neg ‹_›]
    rw [Session.run] at hopen
    split at hopen
    · obtain ⟨-, rfl⟩ := Prod.mk.inj hopen
      assumption
    · cases hopen

/-! ### Preparing -/

theorem loadConfig_confined (r : Request) : r.loadConfig.Confined False (·.stage = .preparing) := by
  rw [Request.loadConfig]
  split
  · exact load_confined (fun _ => rfl) _
  · trivial

theorem ofConfig_confined (config : Config) :
    (Converter.ofConfig config).Confined False (·.stage = .preparing) :=
  (readFonts_confined (fun _ _ => rfl) _).bind fun _ => trivial

theorem readInput_confined (path : String) : (readInput path).Confined False (·.stage = .preparing) := by
  rw [readInput]
  split
  · exact inputText_confined fun _ => rfl
  · exact readText_confined fun _ => rfl

/-! ### Converting -/

/-- A conversion that is stored when it is done leaves the files if it fails before. -/
theorem files_of_store_later {α : Type} {conversion : Conversion α} {f : α → Session Unit}
    (hconversion : ∀ e, conversion.result = .error e → (Failure.conversion e).stage = .converting)
    (hstore : ∀ value, (f value).Confined True (·.stage = .storing))
    (hrun : (conversion.inSession >>= f).run w = (.error failure, after))
    (hstage : failure.stage ≠ .storing) :
    after.files = w.files := by
  have hconfined : conversion.inSession.Confined False (·.stage = .converting) :=
    inSession_confined hconversion
  rcases hconfined.run_bind_error hrun with ⟨-, hfiles⟩ | ⟨value, _, -, hlater⟩
  · exact hfiles
  · exact absurd ((hstore value).allows hlater) hstage

/-- What a request has done to the files when it fails before it stores. -/
def LeftBy (r : Request) (failure : Failure) (before after : Files) : Prop :=
  if failure.stage = .converting ∧ r.format = .pdf ∧ ¬ isStandard r.outputPath then
    before.create r.outputPath = .ok after
  else after = before

theorem LeftBy.of_eq {before left : Files} (hfiles : left = before)
    (hother : failure.stage ≠ .converting ∨ r.format ≠ .pdf) : LeftBy r failure before left := by
  rw [LeftBy, if_neg]
  · exact hfiles
  · rintro ⟨hconverting, hpdf, -⟩
    exact hother.elim (· hconverting) (· hpdf)

theorem convert_leftBy (hrun : (r.convert t c markdown).run w = (.error failure, after))
    (hstage : failure.stage ≠ .storing) : LeftBy r failure w.files after.files := by
  rw [Request.convert] at hrun
  cases hformat : r.format with
  | pdf =>
    rw [hformat] at hrun
    rcases run_bind_error hrun with hopen | ⟨_, opened, hopen, hrest⟩
    · exact absurd ((openOutput_confined _).allows hopen) hstage
    have hfiles := files_of_openOutput hopen
    have hconfined : (c.pdf t markdown).inSession.Confined False (·.stage = .converting) :=
      inSession_confined fun _ => Converter.pdf_stage
    rcases hconfined.run_bind_error hrest with ⟨hconverting, hsame⟩ | ⟨file, _, -, hlater⟩
    · rw [← hsame] at hfiles
      by_cases hstandard : isStandard r.outputPath
      · simpa [LeftBy, hstandard] using hfiles
      · simpa [LeftBy, hconverting, hformat, hstandard] using hfiles
    · -- What is left to do cannot fail.
      have hwrite : (writeOutput r.outputPath file >>= fun _ =>
          Session.log (.wrotePdf file.length) (.done ())).Confined True (fun _ => False) :=
        (writeOutput_confined _ _).bind fun _ => trivial
      exact (hwrite.allows hlater).elim
  | svg =>
    rw [hformat] at hrun
    have hstore (pages : PageDrawings) : (storeDrawings r.outputPath pages.drawings >>= fun _ =>
        Session.log (.wrotePages pages.drawings.length pages.width pages.height) (.done ())).Confined True
          (·.stage = .storing) :=
      (storeDrawings_confined _ _).bind fun _ => trivial
    have hfiles := files_of_store_later (fun _ => Converter.pages_stage) hstore hrun hstage
    exact .of_eq hfiles (.inr (by rw [hformat]; decide))
  | typst =>
    rw [hformat] at hrun
    have hfiles :=
      files_of_store_later (fun _ => Converter.markup_stage) (fun _ => store_confined _ _) hrun hstage
    exact .of_eq hfiles (.inr (by rw [hformat]; decide))
  | json =>
    rw [hformat] at hrun
    have hfiles :=
      files_of_store_later (fun _ => Converter.document_stage) (fun _ => store_confined _ _) hrun hstage
    exact .of_eq hfiles (.inr (by rw [hformat]; decide))

/-! ### Whole runs -/

/-- Up to the conversion nothing is changed, and a failure there is one of preparing. -/
theorem session_leftBy (hrun : (r.session t).run w = (.error failure, after))
    (hstage : failure.stage ≠ .storing) : LeftBy r failure w.files after.files := by
  have hprepared (hpreparing : failure.stage = .preparing) (hfiles : after.files = w.files) :
      LeftBy r failure w.files after.files :=
    .of_eq hfiles (.inl (by rw [hpreparing]; decide))
  rcases (loadConfig_confined r).run_bind_error hrun with ⟨h, hfiles⟩ | ⟨config, _, hconfig, hrun⟩
  · exact hprepared h hfiles
  rcases (ofConfig_confined config).run_bind_error hrun with ⟨h, hfiles⟩ | ⟨c, _, hfonts, hrun⟩
  · exact hprepared h (hfiles.trans hconfig)
  rcases (readInput_confined r.input).run_bind_error hrun with ⟨h, hfiles⟩ | ⟨markdown, _, hinput, hrun⟩
  · exact hprepared h (hfiles.trans (hfonts.trans hconfig))
  have hleft := convert_leftBy hrun hstage
  rwa [hinput, hfonts, hconfig] at hleft

/-- **A run that fails before it stores leaves the files as they were, but for the file of a PDF output
whose conversion failed: that one is created, or emptied.** -/
theorem run_failed_leftBy {logSpec : Option String} {arguments : List String}
    (harguments : Request.ofArguments arguments = .ok r)
    (hfailed : ((r.session t).run w).1 = .error failure) (hstage : failure.stage ≠ .storing) :
    (run t logSpec arguments w).exit = exitFailed ∧
      LeftBy r failure w.files (run t logSpec arguments w).world.files := by
  obtain ⟨after, hrun⟩ : ∃ after, (r.session t).run w = (.error failure, after) :=
    ⟨_, Prod.ext hfailed rfl⟩
  have hleft := session_leftBy hrun hstage
  rw [run, harguments]
  dsimp only
  rw [hrun]
  exact ⟨rfl, hleft⟩

/-- An empty input beside the output of an earlier run. -/
def earlierOutput : World :=
  { files := ⟨[(["in.md"], .file []), (["out.pdf"], .file (Bytes.ofString "%PDF-1.7"))]⟩ }

theorem run_failed_leftBy_emptyInput :
    let r : Request := ⟨"in.md", some "out.pdf", none, .pdf, false⟩
    let outcome := run Sheets.typesetter none ["in.md", "-o", "out.pdf"] earlierOutput
    outcome.exit = exitFailed ∧
      LeftBy r (.conversion .emptyInput) earlierOutput.files outcome.world.files := by
  intro r outcome
  have hfailed : ((r.session Sheets.typesetter).run earlierOutput).1 = .error (.conversion .emptyInput) :=
    run_eq_error (by decide +kernel)
  exact run_failed_leftBy rfl hfailed (by decide)

/-- A conversion that fails takes the output of an earlier run with it. -/
theorem run_emptyInput_loses_pdf :
    let outcome := run Sheets.typesetter none ["in.md", "-o", "out.pdf"] earlierOutput
    outcome.exit = exitFailed ∧ outcome.errors = ["Error: Text content is required"] ∧
      outcome.world.files = ⟨[(["in.md"], .file []), (["out.pdf"], .file [])]⟩ ∧
      outcome.world.files ≠ earlierOutput.files := by
  decide +kernel

end CommandLine

end Folio
