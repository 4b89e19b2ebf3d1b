import Folio.Proofs.CommandLine.Outcome
/-!
# What becomes of the input

Where no output is given, the output has the name of the input with the extension of the format. A name
is its stem, a dot and an extension, so the output is the input itself if and only if the input has that
extension already, and nothing guards this case. Otherwise the two names differ, and files whose names
differ are in different places, whatever directories their paths lead to. Numbered files keep the stem
and have a dash behind it, so they are never the input.
-/

namespace Folio.CommandLine

open Session
open Folio.Path (IsName)

variable {t : Typesetter} {r : Request} {format : OutputFormat} {path : String}
  {before : Path.Segments} {name : List Char} {w after : World} {files : Files}
  {logSpec : Option String} {arguments : List String}

/-! ### The input -/

/-- A run that is done has read the input. -/
theorem read_of_session (hfile : ¬ isStandard r.input) (hrun : (r.session t).run w = (.ok (), after)) :
    ∃ content, w.files.read r.input = .ok content := by
  obtain ⟨config, loaded, -, hloaded, hrun, -⟩ := (loadConfig_confined r).run_bind_ok hrun
  obtain ⟨converter, fonts, -, hfonts, hrun, -⟩ := (ofConfig_confined config).run_bind_ok hrun
  obtain ⟨markdown, _, hread, -⟩ := run_bind_ok hrun
  rw [readInput, if_neg hfile, readText, Session.run, hfonts, hloaded] at hread
  cases hcontent : w.files.read r.input with
  | error e =>
    rw [hcontent] at hread
    cases hread
  | ok content => exact ⟨content, rfl⟩

/-! ### The derived output -/

theorem extension_plain (format : OutputFormat) :
    '/' ∉ format.extension.toList ∧ '.' ∉ format.extension.toList ∧
      2 < format.extension.toList.length := by
  cases format <;> decide

theorem outputPath_eq (houtput : r.output = none) (hfile : ¬ isStandard r.input) :
    r.outputPath = Path.withExtension r.input r.format.extension := by
  rw [Request.outputPath, houtput, Option.getD_none, if_neg hfile]

/-- The name of the derived output. -/
def derivedName (format : OutputFormat) (name : List Char) : List Char :=
  Path.stemOfName name ++ '.' :: format.extension.toList

theorem two_lt_length_derivedName (format : OutputFormat) (name : List Char) :
    2 < (derivedName format name).length := by
  obtain ⟨-, -, hlength⟩ := extension_plain format
  simp only [derivedName, List.length_append, List.length_cons]
  omega

theorem derivedName_isName (format : OutputFormat) (hslash : '/' ∉ name) :
    IsName (derivedName format name) := by
  apply Path.isName_of_length ?_ (two_lt_length_derivedName format name)
  simp [derivedName, Path.slash_notMem_stemOfName hslash, (extension_plain format).1]

theorem segments_derived (hsplit : Path.splitName? path = some (before, name)) (format : OutputFormat) :
    Path.segments (Path.withExtension path format.extension) = before ++ [derivedName format name] :=
  Path.segments_withExtension hsplit (extension_plain format).1

theorem splitName?_derived (hsplit : Path.splitName? path = some (before, name)) (format : OutputFormat) :
    Path.splitName? (Path.withExtension path format.extension) =
      some (before, derivedName format name) := by
  have hname := (Path.splitName?_eq_some hsplit).1
  exact Path.splitName?_of_segments (derivedName_isName format hname.noSlash)
    (segments_derived hsplit format)

/-- The extension of a format has no dot, so it is all that is put in the place of the old one. -/
theorem stem?_derived (path : String) (format : OutputFormat) :
    Path.stem? (Path.withExtension path format.extension) = Path.stem? path := by
  cases hsplit : Path.splitName? path with
  | none => rw [Path.withExtension, hsplit]
  | some split =>
    obtain ⟨before, name⟩ := split
    have hne := Path.stemOfName_ne_nil (Path.splitName?_eq_some hsplit).1.ne_nil
    have hstem : Path.stemOfName (derivedName format name) = Path.stemOfName name :=
      Path.stemOfName_append hne (extension_plain format).2.1
    rw [Path.stem?_eq (splitName?_derived hsplit format), Path.stem?_eq hsplit, hstem]

theorem extension?_eq_iff_derivedName (hsplit : Path.splitName? path = some (before, name)) :
    Path.extension? path = some format.extension ↔ derivedName format name = name :=
  (Path.extension?_eq_some_iff hsplit).trans eq_comm

/-- The derived output is the input if and only if the input has the extension of the format. -/
theorem derived_eq_iff (hname : IsName name) (hsegments : Path.segments path = before ++ [name]) :
    Path.withExtension path format.extension = path ↔ Path.extension? path = some format.extension := by
  have hsplit := Path.splitName?_of_segments hname hsegments
  rw [extension?_eq_iff_derivedName hsplit]
  have hderived := segments_derived hsplit format
  constructor
  · intro heq
    rw [heq, hsegments] at hderived
    exact (List.append_singleton_inj.mp hderived).2.symm
  · intro heq
    rw [heq, ← hsegments] at hderived
    rw [← Path.ofSegments_segments (Path.withExtension _ _), hderived, Path.ofSegments_segments]

/-- Otherwise they are not even in the same place. -/
theorem creationPlace_derived_ne (hextension : Path.extension? path ≠ some format.extension)
    {place : Place} (hplace : files.creationPlace path = .ok place) :
    files.creationPlace (Path.withExtension path format.extension) ≠ .ok place := by
  intro hsame
  obtain ⟨directory, name, hnames, hpath, -⟩ := Files.creationPlace_eq_ok_iff.mp hplace
  obtain ⟨other, derived, hderived, hother, -⟩ := Files.creationPlace_eq_ok_iff.mp hsame
  obtain ⟨before, hsegments, -⟩ := hnames.leads
  obtain ⟨front, hfront, -⟩ := hderived.leads
  have hsplit := Path.splitName?_of_segments hnames.isName hsegments
  rw [segments_derived hsplit] at hfront
  obtain ⟨-, hlast⟩ := List.append_singleton_inj.mp hfront
  obtain ⟨-, hnamed⟩ := List.append_singleton_inj.mp (hpath.symm.trans hother)
  apply hextension
  rw [extension?_eq_iff_derivedName hsplit, hlast]
  exact (String.ofList_injective hnamed).symm

/-! ### Whole runs -/

/-- **A run that is not told its output leaves the input as it was, unless the input has the extension of
the format already and the result has one part at most: then the result takes its place. Numbered files
are never the input.** -/
theorem run_keeps_input (harguments : Request.ofArguments arguments = .ok r) (houtput : r.output = none)
    (hfile : ¬ isStandard r.input) (hdone : (run t logSpec arguments w).exit = exitDone) :
    let outcome := run t logSpec arguments w
    let hasExtension := Path.extension? r.input = some r.format.extension
    (r.outputPath = r.input ↔ hasExtension) ∧ (∀ number, pagePath r.outputPath number ≠ r.input) ∧
      ∃ content parts, w.files.read r.input = .ok content ∧ Made t r w outcome.world parts ∧
        outcome.world.files.read r.input =
          .ok (if hasExtension ∧ parts.length ≤ 1 then parts.flatten else content) := by
  intro outcome hasExtension
  obtain ⟨hrun, -⟩ := run_done harguments hdone
  obtain ⟨content, hread⟩ := read_of_session hfile hrun
  obtain ⟨place, hplace, -⟩ := Files.read_eq_ok_iff.mp hread
  obtain ⟨directory, name, hnames, -, -⟩ := Files.creationPlace_eq_ok_iff.mp hplace
  obtain ⟨before, hsegments, -⟩ := hnames.leads
  have hsplit := Path.splitName?_of_segments hnames.isName hsegments
  have hderived := outputPath_eq houtput hfile
  have hsame : r.outputPath = r.input ↔ hasExtension := by
    rw [hderived]
    exact derived_eq_iff hnames.isName hsegments
  have hstem : Path.stem? r.outputPath = Path.stem? r.input := by
    rw [hderived]
    exact stem?_derived r.input r.format
  have houtputFile : ¬ isStandard r.outputPath := by
    rw [hderived]
    exact not_isStandard_of_splitName? (splitName?_derived hsplit r.format)
      (two_lt_length_derivedName r.format name)
  obtain ⟨parts, hmade⟩ := session_made houtputFile hrun
  -- One file is the input or is in another place; numbered files are always in other places.
  refine ⟨hsame, pagePath_ne hstem, content, parts, hread, hmade, ?_⟩
  have hstored := hmade.stored
  by_cases hone : parts.length ≤ 1
  · rw [outputFiles, if_pos hone] at hstored
    by_cases hextension : hasExtension
    · rw [if_pos ⟨hextension, hone⟩, ← hsame.mpr hextension]
      exact hstored.read (List.mem_singleton_self _)
    · rw [if_neg (fun h => hextension h.1)]
      refine (hstored.read_other_iff ?_).mpr hread
      intro place hplace file hfile
      obtain rfl := List.mem_singleton.mp hfile
      rw [hderived]
      exact creationPlace_derived_ne hextension hplace
  · rw [outputFiles, if_neg hone] at hstored
    rw [if_neg (fun h => hone h.2)]
    exact (read_iff_of_pageFiles hstem hstored).mpr hread

/-- A text whose name has the extension of a format. -/
def namedAsOutput : World :=
  { files := ⟨[(["x.json"], .file (Bytes.ofString "a"))]⟩ }

/-- The file is kept where the format is another one. -/
theorem run_keeps_input_otherFormat :
    let outcome := run Sheets.typesetter none ["x.json", "-f", "typst"] namedAsOutput
    outcome.exit = exitDone ∧ outcome.world.files.read "x.json" = namedAsOutput.files.read "x.json" := by
  intro outcome
  have hdone : outcome.exit = exitDone := by decide +kernel
  have hother : Path.extension? "x.json" ≠ some "typ" := by decide
  obtain ⟨-, -, content, parts, hread, -, hkept⟩ :=
    run_keeps_input (t := Sheets.typesetter) (r := ⟨"x.json", none, none, .typst, false⟩) rfl rfl
      (by decide) hdone
  rw [if_neg (fun h => hother h.1)] at hkept
  exact ⟨hdone, hkept.trans hread.symm⟩

/-- Nothing keeps a file that has the extension of the format. -/
theorem run_overwrites_input :
    let outcome := run Sheets.typesetter none ["x.json", "-f", "json"] namedAsOutput
    outcome.exit = exitDone ∧ outcome.errors = ["Created x.json"] ∧
      outcome.world.files.entry? ["x.json"] ≠ namedAsOutput.files.entry? ["x.json"] := by
  decide +kernel

end Folio.CommandLine
