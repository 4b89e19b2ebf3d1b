import Folio.CommandLine.Basic
import Folio.Proofs.Files
import Folio.Proofs.Session.Changes
/-!
# What is stored where

An output of one part at most is stored in a single file. More parts go to files whose names have the
number of the part. The names differ from each other in the number, and from the name of the output in
the dash behind its stem. So whatever the path of the output is, each part has a file of its own, beside
the output.
-/

namespace Folio

/-- Files have been stored: each has a place of its own and is there with its content, and nothing else
has changed. -/
structure Stored (before after : Files) (files : List (String × Bytes)) : Prop where
  holds : ∀ file ∈ files, ∃ place, before.creationPlace file.1 = .ok place ∧
    after.entry? place = some (.file file.2)
  apart : files.Pairwise fun file other => before.creationPlace file.1 ≠ before.creationPlace other.1
  others : ∀ place, (∀ file ∈ files, before.creationPlace file.1 ≠ .ok place) →
    after.entry? place = before.entry? place

namespace Stored

variable {before after : Files} {files : List (String × Bytes)} {path : String} {content : Bytes}
  {place : Place}

theorem nil (before : Files) : Stored before before [] :=
  ⟨fun _ hfile => absurd hfile List.not_mem_nil, List.Pairwise.nil, fun _ _ => rfl⟩

/-- A file is stored, and the others after it at other places. -/
theorem cons (hplace : before.creationPlace path = .ok place)
    (hapart : ∀ file ∈ files, before.creationPlace file.1 ≠ .ok place)
    (hstored : Stored (before.put place (.file content)) after files) :
    Stored before after ((path, content) :: files) := by
  obtain ⟨_, _, _, _, hfree⟩ := Files.creationPlace_eq_ok_iff.mp hplace
  have hsame := Files.put_sameDirectories hfree content
  have hother (file : String × Bytes) (hfile : file ∈ files) :
      ∃ other, before.creationPlace file.1 = .ok other ∧
        (before.put place (.file content)).creationPlace file.1 = .ok other ∧
          after.entry? other = some (.file file.2) := by
    obtain ⟨other, hput, hentry⟩ := hstored.holds file hfile
    exact ⟨other, hsame.creationPlace_eq_ok_iff.mp hput, hput, hentry⟩
  refine ⟨?_, ?_, ?_⟩
  · intro file hfile
    obtain rfl | hfile := List.mem_cons.mp hfile
    · refine ⟨place, hplace, ?_⟩
      rw [hstored.others place, Files.entry?_put hfree, if_pos rfl]
      intro file hfile hput
      exact hapart file hfile (hsame.creationPlace_eq_ok_iff.mp hput)
    · obtain ⟨other, hbefore, -, hentry⟩ := hother file hfile
      exact ⟨other, hbefore, hentry⟩
  · refine List.pairwise_cons.mpr ⟨?_, hstored.apart.imp_of_mem ?_⟩
    · intro file hfile heq
      exact hapart file hfile (heq.symm.trans hplace)
    · intro file second hfile hsecond hne heq
      obtain ⟨other, hbefore, hput, -⟩ := hother file hfile
      rw [hbefore] at heq
      exact hne (hput.trans (hsame.creationPlace_eq_ok_iff.mpr heq.symm).symm)
  · intro other hnone
    obtain ⟨hfirst, hnone⟩ := List.forall_mem_cons.mp hnone
    have hne : other ≠ place := fun h => hfirst (by rw [h]; exact hplace)
    rw [hstored.others other, Files.entry?_put hfree, if_neg hne]
    intro file hfile hput
    exact hnone file hfile (hsame.creationPlace_eq_ok_iff.mp hput)

theorem singleton (hplace : before.creationPlace path = .ok place) (content : Bytes) :
    Stored before (before.put place (.file content)) [(path, content)] :=
  cons hplace (fun _ hfile => absurd hfile List.not_mem_nil) (nil _)

theorem sameDirectories (hstored : Stored before after files) : Files.SameDirectories before after := by
  intro place
  by_cases hfile : ∃ file ∈ files, before.creationPlace file.1 = .ok place
  · obtain ⟨file, hmem, hplace⟩ := hfile
    obtain ⟨other, hother, hentry⟩ := hstored.holds file hmem
    obtain rfl := Except.ok.inj (hplace.symm.trans hother)
    obtain ⟨_, _, _, _, hfree⟩ := Files.creationPlace_eq_ok_iff.mp hplace
    simp [hentry, hfree]
  · rw [hstored.others place]
    intro file hmem hplace
    exact hfile ⟨file, hmem, hplace⟩

/-- What is stored can be read. -/
theorem read (hstored : Stored before after files) {file : String × Bytes} (hfile : file ∈ files) :
    after.read file.1 = .ok file.2 := by
  obtain ⟨place, hplace, hentry⟩ := hstored.holds file hfile
  exact Files.read_eq_ok_iff.mpr
    ⟨place, hstored.sameDirectories.creationPlace_eq_ok_iff.mpr hplace, hentry⟩

/-- What is at another place can be read as before. -/
theorem read_other_iff (hstored : Stored before after files)
    (hother : ∀ place, before.creationPlace path = .ok place →
      ∀ file ∈ files, before.creationPlace file.1 ≠ .ok place) :
    after.read path = .ok content ↔ before.read path = .ok content := by
  simp only [Files.read_eq_ok_iff, hstored.sameDirectories.creationPlace_eq_ok_iff]
  apply exists_congr
  intro place
  apply and_congr_right
  intro hplace
  rw [hstored.others place (hother place hplace)]

end Stored

namespace CommandLine

open Session
open Folio.Path (IsName)

variable {path : String} {content : Bytes} {drawings parts : List Bytes} {files : Files} {place : Place}
  {number : Nat} {w opened after : World}

/-- The path of the standard output is the name of a file that is shorter. -/
theorem not_isStandard_of_splitName? {before : Path.Segments} {name : List Char}
    (hsplit : Path.splitName? path = some (before, name)) (hlength : 2 < name.length) :
    ¬ isStandard path := by
  intro hstandard
  rw [of_decide_eq_true hstandard] at hsplit
  have hname : some ([], ['-']) = some (before, name) := hsplit
  obtain ⟨-, rfl⟩ := Prod.mk.inj (Option.some.inj hname)
  exact absurd hlength (by decide)

/-! ### The names of parts -/

/-- The name of a part: the stem of the output's name, a dash, the number and an extension. -/
def pageName (path : String) (number : Nat) : String :=
  (Path.stem? path).getD pageStem ++ "-" ++ Nat.repr number ++ ".svg"

theorem pagePath_eq (path : String) (number : Nat) :
    pagePath path number = Path.withName path (pageName path number) :=
  rfl

theorem toList_pageName (path : String) (number : Nat) :
    (pageName path number).toList = ((Path.stem? path).getD pageStem).toList ++
      '-' :: (Nat.toDigits 10 number ++ ['.', 's', 'v', 'g']) := by
  simp [pageName, Nat.toList_repr]

theorem slash_notMem_pageStem (path : String) :
    '/' ∉ ((Path.stem? path).getD pageStem).toList := by
  cases hsplit : Path.splitName? path with
  | none =>
    rw [Path.stem?, hsplit]
    decide
  | some split =>
    rw [Path.stem?_eq hsplit, Option.getD_some, String.toList_ofList]
    exact Path.slash_notMem_stemOfName (Path.splitName?_eq_some hsplit).1.noSlash

theorem two_lt_length_pageName (path : String) (number : Nat) :
    2 < (pageName path number).toList.length := by
  rw [toList_pageName]
  simp only [List.length_append, List.length_cons]
  omega

theorem pageName_isName (path : String) (number : Nat) : IsName (pageName path number).toList := by
  have hdigits : '/' ∉ Nat.toDigits 10 number := by
    intro hslash
    exact absurd (Nat.isDigit_of_mem_toDigits (by decide) (by decide) hslash) (by decide)
  apply Path.isName_of_length ?_ (two_lt_length_pageName path number)
  rw [toList_pageName]
  simp [slash_notMem_pageStem, hdigits]

theorem splitName?_pagePath (path : String) (number : Nat) :
    ∃ before, Path.splitName? (pagePath path number) = some (before, (pageName path number).toList) := by
  rw [pagePath_eq]
  exact Path.splitName?_withName (pageName_isName path number)

theorem pageName_injective (path : String) {number other : Nat}
    (heq : pageName path number = pageName path other) : number = other := by
  have htext := congrArg String.toList heq
  rw [toList_pageName, toList_pageName] at htext
  have hdigits := List.append_cancel_right (List.cons.inj (List.append_cancel_left htext)).2
  calc number = Nat.ofDigitChars 10 (Nat.toDigits 10 number) 0 := Nat.ofDigitChars_ten_toDigits.symm
    _ = Nat.ofDigitChars 10 (Nat.toDigits 10 other) 0 := by rw [hdigits]
    _ = other := Nat.ofDigitChars_ten_toDigits

/-- The name of a part is not one that has the same stem as the output. -/
theorem toList_pageName_ne {name : List Char}
    (hstem : Path.stem? path = some (String.ofList (Path.stemOfName name))) (number : Nat) :
    (pageName path number).toList ≠ name := by
  intro heq
  rw [toList_pageName, hstem, Option.getD_some, String.toList_ofList] at heq
  obtain hwhole | ⟨extension, -, hname⟩ := Path.stemOfName_cases name
  · have := congrArg List.length heq
    rw [List.length_append, hwhole, List.length_cons] at this
    omega
  · have hbehind := List.append_cancel_left (heq.trans hname)
    cases hbehind

theorem creationPlace_pagePath (hplace : files.creationPlace (pagePath path number) = .ok place) :
    ∃ directory, files.InDirectory path directory ∧ place = directory ++ [pageName path number] := by
  rw [pagePath_eq] at hplace
  obtain ⟨directory, name, hnames, hpath, -⟩ := Files.creationPlace_eq_ok_iff.mp hplace
  obtain ⟨hdirectory, hname⟩ := hnames.inDirectory (pageName_isName path number)
  rw [hname, String.ofList_toList] at hpath
  exact ⟨directory, hdirectory, hpath⟩

/-- A part is not stored at a path that has the same stem as the output, nor in the place of one. -/
theorem pagePath_ne {other : String} (hstem : Path.stem? path = Path.stem? other) (number : Nat) :
    pagePath path number ≠ other := by
  intro heq
  obtain ⟨before, hsplit⟩ := splitName?_pagePath path number
  rw [heq] at hsplit
  exact toList_pageName_ne (hstem.trans (Path.stem?_eq hsplit)) number rfl

theorem creationPlace_pagePath_ne {other : String} (hstem : Path.stem? path = Path.stem? other)
    (hplace : files.creationPlace other = .ok place) (number : Nat) :
    files.creationPlace (pagePath path number) ≠ .ok place := by
  intro hpage
  obtain ⟨directory, name, hnames, hother, -⟩ := Files.creationPlace_eq_ok_iff.mp hplace
  obtain ⟨pages, -, hpages⟩ := creationPlace_pagePath hpage
  obtain ⟨-, hname⟩ := List.append_singleton_inj.mp (hother.symm.trans hpages)
  obtain ⟨before, hsegments, -⟩ := hnames.leads
  have hsame : (pageName path number).toList = name := by rw [← hname, String.toList_ofList]
  have hsplit := Path.splitName?_of_segments hnames.isName hsegments
  exact toList_pageName_ne (hstem.trans (Path.stem?_eq hsplit)) number hsame

theorem pagePath_not_isStandard (path : String) (number : Nat) : ¬ isStandard (pagePath path number) := by
  obtain ⟨before, hsplit⟩ := splitName?_pagePath path number
  exact not_isStandard_of_splitName? hsplit (two_lt_length_pageName path number)

/-! ### One file -/

/-- A file is created and gets what is stored in it. -/
def writes (files : List (String × Bytes)) : List Change :=
  files.flatMap fun file => [.created file.1, .appended file.1 file.2]

theorem openOutput_run (hfile : ¬ isStandard path) (hrun : (openOutput path).run w = (.ok (), opened)) :
    ∃ place, w.files.creationPlace path = .ok place ∧
      opened = { w with files := w.files.put place (.file []) } ∧
        (openOutput path).changes w = [.created path] := by
  rw [openOutput, if_neg hfile] at hrun ⊢
  rw [Session.run] at hrun
  rw [changes]
  cases hcreate : w.files.create path with
  | error e =>
    rw [hcreate] at hrun
    cases hrun
  | ok files =>
    rw [hcreate] at hrun
    obtain ⟨place, hplace, rfl⟩ := Files.create_eq_ok_iff.mp hcreate
    obtain ⟨-, rfl⟩ := Prod.mk.inj hrun
    exact ⟨place, hplace, rfl, rfl⟩

/-- What is written to a file that was opened is all that the file has, whatever else has happened. -/
theorem writeOutput_run (hfile : ¬ isStandard path) (hplace : files.creationPlace path = .ok place)
    (hopened : opened.files = files.put place (.file [])) (content : Bytes) :
    (writeOutput path content).run opened =
        (.ok (), { opened with files := files.put place (.file content) }) ∧
      (writeOutput path content).changes opened = [.appended path content] := by
  obtain ⟨_, _, _, _, hfree⟩ := Files.creationPlace_eq_ok_iff.mp hplace
  have hempty : opened.files.entry? place = some (.file []) := by
    rw [hopened, Files.entry?_put hfree, if_pos rfl]
  have hsame : opened.files.creationPlace path = .ok place := by
    rw [hopened, (Files.put_sameDirectories hfree []).creationPlace_eq_ok_iff]
    exact hplace
  rw [writeOutput, if_neg hfile, Session.run, Session.run, Files.append_eq hsame hempty, hopened,
    Files.put_put, List.nil_append]
  exact ⟨rfl, rfl⟩

theorem store_run (hfile : ¬ isStandard path) (hrun : (store path content).run w = (.ok (), after)) :
    ∃ place, w.files.creationPlace path = .ok place ∧
      after = { w with files := w.files.put place (.file content) } ∧
        (store path content).changes w = [.created path, .appended path content] := by
  obtain ⟨_, opened, hopen, hwrite⟩ := run_bind_ok hrun
  obtain ⟨place, hplace, hopened, hcreated⟩ := openOutput_run hfile hopen
  obtain ⟨hwritten, happended⟩ :=
    writeOutput_run hfile hplace (congrArg World.files hopened) content
  rw [hwritten, hopened] at hwrite
  obtain ⟨-, rfl⟩ := Prod.mk.inj hwrite
  refine ⟨place, hplace, rfl, ?_⟩
  rw [store, changes_bind_of_run hopen, hcreated, happended]
  rfl

/-! ### Numbered files -/

/-- The files of parts that are numbered. -/
def pageFiles (path : String) (number : Nat) (parts : List Bytes) : List (String × Bytes) :=
  (parts.zipIdx number).map fun (part, number) => (pagePath path number, part)

theorem storePages_run (hrun : (storePages path number parts).run w = (.ok (), after)) :
    Stored w.files after.files (pageFiles path number parts) ∧
      (storePages path number parts).changes w = writes (pageFiles path number parts) := by
  induction parts generalizing number w with
  | nil =>
    obtain ⟨-, rfl⟩ := Prod.mk.inj hrun
    exact ⟨Stored.nil w.files, rfl⟩
  | cons part rest ih =>
    obtain ⟨_, between, hfirst, hrest⟩ := run_bind_ok hrun
    obtain ⟨place, hplace, rfl, hwritten⟩ := store_run (pagePath_not_isStandard path number) hfirst
    obtain ⟨hstored, hchanges⟩ := ih hrest
    constructor
    · -- The parts that are still to come have larger numbers.
      refine Stored.cons hplace ?_ hstored
      intro file hfile hsame
      obtain ⟨⟨later, k⟩, hmem, rfl⟩ := List.mem_map.mp hfile
      have hlater : number + 1 ≤ k := List.le_snd_of_mem_zipIdx hmem
      obtain ⟨directory, -, hdirectory⟩ := creationPlace_pagePath hplace
      obtain ⟨other, -, hother⟩ := creationPlace_pagePath hsame
      obtain ⟨-, hname⟩ := List.append_singleton_inj.mp (hdirectory.symm.trans hother)
      have := pageName_injective path hname
      omega
    · rw [storePages, changes_bind_of_run hfirst, hwritten, hchanges]
      rfl

/-- A file that has the stem of the output is none of the numbered ones, so it stays what it was. -/
theorem read_iff_of_pageFiles {other : String} (hstem : Path.stem? path = Path.stem? other)
    (hstored : Stored files after.files (pageFiles path number parts)) :
    after.files.read other = .ok content ↔ files.read other = .ok content := by
  apply hstored.read_other_iff
  intro place hplace file hfile
  obtain ⟨⟨part, k⟩, -, rfl⟩ := List.mem_map.mp hfile
  exact creationPlace_pagePath_ne hstem hplace k

/-! ### Outputs -/

/-- The files of an output: the output itself for one part at most, numbered files for more. -/
def outputFiles (path : String) (parts : List Bytes) : List (String × Bytes) :=
  if parts.length ≤ 1 then [(path, parts.flatten)] else pageFiles path 1 parts

theorem outputFiles_singleton (path : String) (content : Bytes) :
    outputFiles path [content] = [(path, content)] := by
  rw [outputFiles, if_pos (by simp), List.flatten_singleton]

theorem storeDrawings_run (hfile : ¬ isStandard path)
    (hrun : (storeDrawings path drawings).run w = (.ok (), after)) :
    Stored w.files after.files (outputFiles path drawings) ∧
      (storeDrawings path drawings).changes w = writes (outputFiles path drawings) := by
  rw [outputFiles]
  by_cases hone : drawings.length ≤ 1
  · have hsingle : storeDrawings path drawings = store path drawings.flatten := by
      rw [storeDrawings, if_pos (by simp [hone])]
    rw [hsingle] at hrun ⊢
    obtain ⟨place, hplace, rfl, hwritten⟩ := store_run hfile hrun
    rw [if_pos hone]
    exact ⟨Stored.singleton hplace _, hwritten⟩
  · have hpages : storeDrawings path drawings = storePages path 1 drawings := by
      rw [storeDrawings, if_neg (by simp [hone, hfile])]
    rw [hpages] at hrun ⊢
    rw [if_neg hone]
    exact storePages_run hrun

theorem map_snd_pageFiles (path : String) (number : Nat) (parts : List Bytes) :
    (pageFiles path number parts).map (·.2) = parts := by
  rw [pageFiles, List.map_map]
  exact List.zipIdx_map_fst number parts

/-- The files of an output hold what would be printed, in this order. -/
theorem flatten_outputFiles (path : String) (parts : List Bytes) :
    ((outputFiles path parts).map (·.2)).flatten = parts.flatten := by
  rw [outputFiles]
  split
  · rw [List.map_singleton, List.flatten_singleton]
  · rw [map_snd_pageFiles]

theorem storeDrawings_standard (drawings : List Bytes) (v : World) :
    (storeDrawings "-" drawings).run v =
      (.ok (), { v with output := v.output ++ drawings.flatten }) := by
  rw [storeDrawings, if_pos (by simp [isStandard])]
  rfl

/-- Numbered files are all in the directory of the output. -/
theorem inDirectory_of_pageFiles (hstored : Stored files after.files (pageFiles path number parts))
    (hparts : parts ≠ []) :
    ∃ directory, files.InDirectory path directory ∧ ∀ file ∈ pageFiles path number parts,
      ∃ name, files.creationPlace file.1 = .ok (directory ++ [name]) := by
  have hlocated : ∀ file ∈ pageFiles path number parts, ∃ directory name,
      files.InDirectory path directory ∧ files.creationPlace file.1 = .ok (directory ++ [name]) := by
    intro file hfile
    obtain ⟨place, hplace, -⟩ := hstored.holds file hfile
    obtain ⟨⟨part, k⟩, -, rfl⟩ := List.mem_map.mp hfile
    obtain ⟨directory, hdirectory, rfl⟩ := creationPlace_pagePath hplace
    exact ⟨directory, _, hdirectory, hplace⟩
  obtain ⟨part, rest, rfl⟩ := List.exists_cons_of_ne_nil hparts
  obtain ⟨directory, _, hdirectory, -⟩ := hlocated (pagePath path number, part) (List.mem_cons_self ..)
  refine ⟨directory, hdirectory, ?_⟩
  intro file hfile
  obtain ⟨other, name, hother, hplace⟩ := hlocated file hfile
  obtain rfl := hdirectory.eq hother
  exact ⟨name, hplace⟩

/-- **Drawings are stored in files of their own, one for each, beside the output, and the files hold
together what would be printed; one drawing at most is stored in the output itself.** -/
theorem storeDrawings_stores_pages (hfile : ¬ isStandard path)
    (hrun : (storeDrawings path drawings).run w = (.ok (), after)) :
    let files := outputFiles path drawings
    (storeDrawings path drawings).changes w = writes files ∧
      (files.map (·.1)).Nodup ∧ Stored w.files after.files files ∧
      (∀ file ∈ files, after.files.read file.1 = .ok file.2) ∧
      (∀ v, (storeDrawings "-" drawings).run v =
        (.ok (), { v with output := v.output ++ (files.map (·.2)).flatten })) ∧
      if drawings.length ≤ 1 then files.map (·.1) = [path]
      else files.map (·.2) = drawings ∧ ∃ directory, w.files.InDirectory path directory ∧
        ∀ file ∈ files, ∃ name, w.files.creationPlace file.1 = .ok (directory ++ [name]) := by
  intro files
  obtain ⟨hstored, hchanges⟩ := storeDrawings_run hfile hrun
  refine ⟨hchanges, ?_, hstored, fun file => hstored.read, ?_, ?_⟩
  · refine List.pairwise_map.mpr (hstored.apart.imp ?_)
    intro file other hne heq
    exact hne (by rw [heq])
  · intro v
    rw [flatten_outputFiles]
    exact storeDrawings_standard drawings v
  · by_cases hone : drawings.length ≤ 1
    · rw [if_pos hone]
      show (outputFiles path drawings).map (·.1) = [path]
      rw [outputFiles, if_pos hone, List.map_singleton]
    · have hfiles : files = pageFiles path 1 drawings := if_neg hone
      have hne : drawings ≠ [] := by
        rintro rfl
        exact hone (Nat.zero_le 1)
      have hpages : Stored w.files after.files (pageFiles path 1 drawings) := by
        rw [← hfiles]
        exact hstored
      rw [if_neg hone, hfiles]
      exact ⟨map_snd_pageFiles path 1 drawings, inDirectory_of_pageFiles hpages hne⟩

/-- A directory with a file that has the name of a second page. -/
def earlierPages : World :=
  { files := ⟨[(["sub"], .directory), (["sub", "p.v1-2.svg"], .file [9, 9])]⟩ }

theorem storeDrawings_stores_pages_dottedName :
    let after := ((storeDrawings "sub//p.v1.svg" [[1], [2]]).run earlierPages).2
    outputFiles "sub//p.v1.svg" [[1], [2]] = [("sub/p.v1-1.svg", [1]), ("sub/p.v1-2.svg", [2])] ∧
      Stored earlierPages.files after.files (outputFiles "sub//p.v1.svg" [[1], [2]]) := by
  intro after
  have hrun : (storeDrawings "sub//p.v1.svg" [[1], [2]]).run earlierPages = (.ok (), after) :=
    run_eq_done (by decide +kernel)
  exact ⟨by decide +kernel, (storeDrawings_stores_pages (by decide) hrun).2.2.1⟩

end CommandLine

end Folio
