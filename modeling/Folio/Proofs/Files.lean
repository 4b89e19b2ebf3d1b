import Folio.Files
import Folio.Proofs.Path
/-!
# Where files are

A walk goes on from directories only. So whether a path leads to a place depends on nothing but which
places are directories, and what is stored in files does not move the file that a path names. A file that
can be read is one that could be created again: no path leads to a file except by its name, as the last
segment, in a directory to which the other segments lead.

Putting a file where no directory is changes what is at its place and nothing else.
-/

namespace Folio.Files

open Folio.Path (IsName IsIdle)

variable {files before after : Files} {path : String} {place stop directory : Place}
  {segs rest : Path.Segments} {segment name : List Char} {content : Bytes}

/-! ### Walks -/

/-- Where a segment leads to from a directory. -/
def next (place : Place) (segment : List Char) : Place :=
  if segment.isEmpty || segment = Path.dot then place
  else if segment = Path.dotDot then parent place
  else place ++ [String.ofList segment]

theorem next_of_isIdle (hidle : IsIdle segment) : next place segment = place :=
  if_pos hidle

theorem next_of_isName (hname : IsName name) : next place name = place ++ [String.ofList name] := by
  have hvisible : ¬ (name.isEmpty || name = Path.dot) = true := hname.not_isIdle
  rw [next, if_neg hvisible, if_neg hname.ne_dotDot]

theorem walk_cons_eq_ok_iff :
    files.walk place (segment :: rest) = .ok stop ↔
      files.entry? place = some .directory ∧ files.walk (next place segment) rest = .ok stop := by
  rw [walk, next]
  rcases files.entry? place with _ | content | _
  · simp
  · simp
  · simp only [true_and]
    split
    · rfl
    · split <;> rfl

theorem walk_append_eq_ok_iff :
    files.walk place (segs ++ rest) = .ok stop ↔
      ∃ between, files.walk place segs = .ok between ∧ files.walk between rest = .ok stop := by
  induction segs generalizing place with
  | nil => simp [walk]
  | cons segment segs ih =>
    rw [List.cons_append, walk_cons_eq_ok_iff, ih]
    simp only [walk_cons_eq_ok_iff, and_assoc, exists_and_left]

theorem walk_concat_eq_ok_iff :
    files.walk place (segs ++ [segment]) = .ok stop ↔
      ∃ between, files.walk place segs = .ok between ∧ files.entry? between = some .directory ∧
        next between segment = stop := by
  have hlast (between : Place) : files.walk between [segment] = .ok stop ↔
      files.entry? between = some .directory ∧ next between segment = stop := by
    rw [walk_cons_eq_ok_iff, walk, Except.ok.injEq]
  simp only [walk_append_eq_ok_iff, hlast]

theorem walk_of_idle (hidle : ∀ segment ∈ segs, IsIdle segment)
    (hdirectory : files.entry? place = some .directory) : files.walk place segs = .ok place := by
  induction segs with
  | nil => rfl
  | cons segment segs ih =>
    obtain ⟨hsegment, hsegs⟩ := List.forall_mem_cons.mp hidle
    rw [walk_cons_eq_ok_iff, next_of_isIdle hsegment]
    exact ⟨hdirectory, ih hsegs⟩

/-- Two file systems have the same directories. -/
def SameDirectories (before after : Files) : Prop :=
  ∀ place, after.entry? place = some .directory ↔ before.entry? place = some .directory

theorem SameDirectories.walk_eq_ok_iff (hsame : SameDirectories before after) :
    after.walk place segs = .ok stop ↔ before.walk place segs = .ok stop := by
  induction segs generalizing place with
  | nil => rfl
  | cons segment segs ih => rw [walk_cons_eq_ok_iff, walk_cons_eq_ok_iff, hsame, ih]

/-! ### Above a place -/

theorem entry?_of_isAbove (habove : isAbove place = true) : files.entry? place = some .directory := by
  unfold entry?
  rw [habove, Bool.true_or, if_pos rfl]

/-- All that a place is below of is a directory. -/
def Rooted (files : Files) (place : Place) : Prop :=
  ∀ above, above <+: place → above ≠ place → files.entry? above = some .directory

theorem Rooted.concat (hrooted : files.Rooted place) (hdirectory : files.entry? place = some .directory)
    (name : String) : files.Rooted (place ++ [name]) := by
  intro above habove hne
  obtain heq | habove := List.prefix_concat_iff.mp habove
  · exact absurd heq hne
  · by_cases hplace : above = place
    · rw [hplace]
      exact hdirectory
    · exact hrooted above habove hplace

theorem rooted_start (path : String) : files.Rooted (start path) := by
  have hworking : files.Rooted workingDirectory := by
    intro above habove hne
    exact absurd (List.prefix_nil.mp habove) hne
  rw [start]
  split
  · exact hworking.concat (entry?_of_isAbove rfl) "/"
  · exact hworking

/-- Two dots lead to a directory. -/
theorem Rooted.parent (hrooted : files.Rooted place) (hdirectory : files.entry? place = some .directory) :
    files.Rooted (parent place) ∧ files.entry? (parent place) = some .directory := by
  rw [Files.parent]
  by_cases hroot : place = root
  · rw [if_pos hroot, ← hroot]
    exact ⟨hrooted, hdirectory⟩
  rw [if_neg hroot]
  by_cases habove : isAbove place = true
  · rw [if_pos habove]
    refine ⟨hrooted.concat hdirectory "..", entry?_of_isAbove ?_⟩
    rw [isAbove, List.all_append, ← isAbove, habove]
    rfl
  · rw [if_neg habove]
    have hne : place ≠ [] := fun h => habove (by rw [h]; rfl)
    obtain ⟨front, last, rfl⟩ : ∃ front last, place = front ++ [last] :=
      ⟨_, _, (List.dropLast_concat_getLast hne).symm⟩
    have hbelow (above : Place) (habove : above <+: front) :
        files.entry? above = some .directory := by
      apply hrooted above (habove.trans (List.prefix_append _ _))
      rintro rfl
      have := habove.length_le
      rw [List.length_append, List.length_singleton] at this
      omega
    rw [List.dropLast_concat]
    exact ⟨fun above habove _ => hbelow above habove, hbelow front List.prefix_rfl⟩

theorem Rooted.next (hrooted : files.Rooted place) (hdirectory : files.entry? place = some .directory)
    (segment : List Char) : files.Rooted (next place segment) := by
  rw [Files.next]
  split
  · exact hrooted
  · split
    · exact (hrooted.parent hdirectory).1
    · exact hrooted.concat hdirectory _

theorem Rooted.walk (hrooted : files.Rooted place) (hwalk : files.walk place segs = .ok stop) :
    files.Rooted stop := by
  induction segs generalizing place with
  | nil =>
    obtain rfl := Except.ok.inj hwalk
    exact hrooted
  | cons segment segs ih =>
    obtain ⟨hdirectory, hwalk⟩ := walk_cons_eq_ok_iff.mp hwalk
    exact ih (hrooted.next hdirectory segment) hwalk

/-- A segment that is no name leads to a directory. -/
theorem entry?_next_of_not_isName (hrooted : files.Rooted place)
    (hdirectory : files.entry? place = some .directory) (hslash : '/' ∉ segment)
    (hname : ¬ IsName segment) : files.entry? (next place segment) = some .directory := by
  rw [Files.next]
  by_cases hidle : (segment.isEmpty || segment = Path.dot) = true
  · rw [if_pos hidle]
    exact hdirectory
  by_cases hdots : segment = Path.dotDot
  · rw [if_neg hidle, if_pos hdots]
    exact (hrooted.parent hdirectory).2
  · simp only [Bool.or_eq_true, List.isEmpty_iff, decide_eq_true_eq, not_or] at hidle
    exact absurd ⟨hslash, hidle.1, hidle.2, hdots⟩ hname

/-! ### The files that paths name -/

/-- The last segment of a path is a name, and the others lead to a directory. -/
structure Names (files : Files) (path : String) (directory : Place) (name : List Char) : Prop where
  isName : IsName name
  leads : ∃ before, Path.segments path = before ++ [name] ∧
    files.walk (start path) before = .ok directory
  isDirectory : files.entry? directory = some .directory

theorem exists_segments_concat (path : String) :
    ∃ before name, Path.segments path = before ++ [name] ∧ '/' ∉ name := by
  have hsplit := List.dropLast_concat_getLast (Path.segments_ne_nil path)
  exact ⟨_, _, hsplit.symm, Path.slash_notMem_segments (List.getLast_mem _)⟩

theorem Names.ne_empty (hnames : files.Names path directory name) : path ≠ "" := by
  rintro rfl
  obtain ⟨before, hsegments, -⟩ := hnames.leads
  have hlast := congrArg List.getLast? hsegments
  rw [Path.segments_empty, List.getLast?_concat] at hlast
  exact hnames.isName.ne_nil (Option.some.inj hlast).symm

theorem creationPlace_of_names (hnames : files.Names path directory name)
    (hplace : files.entry? (directory ++ [String.ofList name]) ≠ some .directory) :
    files.creationPlace path = .ok (directory ++ [String.ofList name]) := by
  obtain ⟨before, hsegments, hwalk⟩ := hnames.leads
  have hname : ¬ (name.isEmpty || name = Path.dot || name = Path.dotDot) = true := by
    simp [hnames.isName.ne_nil, hnames.isName.ne_dot, hnames.isName.ne_dotDot]
  simp only [creationPlace, if_neg hnames.ne_empty, hsegments, List.dropLast_concat,
    List.getLast?_concat, Option.getD_some, hwalk, bind, Except.bind, hnames.isDirectory]
  rw [if_neg hname]

theorem creationPlace_eq_ok_iff :
    files.creationPlace path = .ok place ↔
      ∃ directory name, files.Names path directory name ∧ place = directory ++ [String.ofList name] ∧
        files.entry? place ≠ some .directory := by
  constructor
  · intro hplace
    obtain ⟨before, name, hsegments, hslash⟩ := exists_segments_concat path
    simp only [creationPlace, hsegments, List.dropLast_concat, List.getLast?_concat,
      Option.getD_some, bind, Except.bind] at hplace
    split at hplace
    · cases hplace
    rcases hwalk : files.walk (start path) before with e | directory <;> simp only [hwalk] at hplace
    · cases hplace
    split at hplace
    · cases hplace
    · cases hplace
    · next hdirectory =>
      split at hplace
      · cases hplace
      · next hname =>
        simp only [Bool.or_eq_true, List.isEmpty_iff, decide_eq_true_eq, not_or] at hname
        split at hplace
        · cases hplace
        · next hfree =>
          obtain rfl := Except.ok.inj hplace
          exact ⟨directory, name, ⟨⟨hslash, hname.1.1, hname.1.2, hname.2⟩, ⟨before, hsegments, hwalk⟩,
            hdirectory⟩, rfl, hfree⟩
  · rintro ⟨directory, name, hnames, rfl, hfree⟩
    exact creationPlace_of_names hnames hfree

theorem SameDirectories.names_iff (hsame : SameDirectories before after) :
    after.Names path directory name ↔ before.Names path directory name := by
  constructor <;> rintro ⟨hname, ⟨front, hsegments, hwalk⟩, hdirectory⟩
  · exact ⟨hname, ⟨front, hsegments, hsame.walk_eq_ok_iff.mp hwalk⟩, (hsame _).mp hdirectory⟩
  · exact ⟨hname, ⟨front, hsegments, hsame.walk_eq_ok_iff.mpr hwalk⟩, (hsame _).mpr hdirectory⟩

theorem SameDirectories.creationPlace_eq_ok_iff (hsame : SameDirectories before after) :
    after.creationPlace path = .ok place ↔ before.creationPlace path = .ok place := by
  simp only [Files.creationPlace_eq_ok_iff, hsame.names_iff, ne_eq, hsame place]

/-! ### Reading -/

theorem locate_of_names {entry : FileEntry} (hnames : files.Names path directory name)
    (hentry : files.entry? (directory ++ [String.ofList name]) = some entry) :
    files.locate path = .ok (directory ++ [String.ofList name], entry) := by
  obtain ⟨before, hsegments, hwalk⟩ := hnames.leads
  have hwhole : files.walk (start path) (Path.segments path) =
      .ok (directory ++ [String.ofList name]) := by
    rw [hsegments, walk_concat_eq_ok_iff]
    exact ⟨directory, hwalk, hnames.isDirectory, next_of_isName hnames.isName⟩
  rw [locate, if_neg hnames.ne_empty, hwhole]
  simp only [bind, Except.bind, hentry]

theorem read_eq_ok_iff :
    files.read path = .ok content ↔
      ∃ place, files.creationPlace path = .ok place ∧ files.entry? place = some (.file content) := by
  constructor
  · intro hread
    obtain ⟨place, hlocate⟩ : ∃ place, files.locate path = .ok (place, .file content) := by
      rw [read] at hread
      rcases hlocate : files.locate path with e | ⟨place, _ | _⟩ <;>
        simp only [hlocate, bind, Except.bind] at hread <;> cases hread
      exact ⟨place, rfl⟩
    have hfile : files.walk (start path) (Path.segments path) = .ok place ∧
        files.entry? place = some (.file content) := by
      rw [locate] at hlocate
      split at hlocate
      · cases hlocate
      rcases hwalk : files.walk (start path) (Path.segments path) with e | stop <;>
        simp only [hwalk, bind, Except.bind] at hlocate
      · cases hlocate
      split at hlocate
      · next hentry =>
        obtain ⟨rfl, rfl⟩ := Prod.mk.inj (Except.ok.inj hlocate)
        exact ⟨rfl, hentry⟩
      · cases hlocate
    obtain ⟨hwalk, hentry⟩ := hfile
    obtain ⟨before, name, hsegments, hslash⟩ := exists_segments_concat path
    rw [hsegments, walk_concat_eq_ok_iff] at hwalk
    obtain ⟨directory, hbefore, hdirectory, hnext⟩ := hwalk
    by_cases hname : IsName name
    case neg =>
      have hstop := entry?_next_of_not_isName ((rooted_start path).walk hbefore) hdirectory hslash hname
      rw [hnext, hentry] at hstop
      cases hstop
    rw [next_of_isName hname] at hnext
    refine ⟨place, creationPlace_eq_ok_iff.mpr ⟨directory, name, ⟨hname, ⟨before, hsegments, hbefore⟩,
      hdirectory⟩, hnext.symm, ?_⟩, hentry⟩
    rw [hentry]
    simp
  · rintro ⟨place, hplace, hentry⟩
    obtain ⟨directory, name, hnames, rfl, -⟩ := creationPlace_eq_ok_iff.mp hplace
    rw [read, locate_of_names hnames hentry]
    rfl

/-! ### Putting a file -/

/-- The first entry of a place in a list in which the entries of one place have been replaced. -/
theorem find?_replaced (entries : List (Place × FileEntry)) (place other : Place) (entry : FileEntry) :
    (entries.map fun e => if e.1 = place then (place, entry) else e).find? (·.1 = other) =
      if other = place then (entries.find? (·.1 = place)).map fun _ => (place, entry)
      else entries.find? (·.1 = other) := by
  induction entries with
  | nil => split <;> rfl
  | cons e entries ih =>
    rw [List.map_cons, List.find?_cons, List.find?_cons, List.find?_cons, ih]
    by_cases he : e.1 = place
    · by_cases hother : other = place
      · simp [he, hother]
      · simp [he, hother, Ne.symm hother]
    · by_cases hother : other = place
      · simp [he, hother]
      · simp [he, hother]

theorem find?_put (files : Files) (place other : Place) (entry : FileEntry) :
    ((files.put place entry).entries.find? (·.1 = other)).map (·.2) =
      if other = place then some entry else (files.entries.find? (·.1 = other)).map (·.2) := by
  rw [put]
  by_cases hany : files.entries.any (·.1 = place) = true
  · have hsome : (files.entries.find? (·.1 = place)).isSome := by
      rw [List.find?_isSome]
      exact List.any_eq_true.mp hany
    obtain ⟨e, he⟩ := Option.isSome_iff_exists.mp hsome
    rw [if_pos hany, find?_replaced, he]
    split <;> rfl
  · have hnone : files.entries.find? (·.1 = place) = none := by
      rw [List.find?_eq_none]
      intro e hmem he
      exact hany (List.any_eq_true.mpr ⟨e, hmem, he⟩)
    rw [if_neg hany, List.find?_append]
    by_cases hother : other = place
    · rw [if_pos hother, hother, hnone]
      simp
    · rw [if_neg hother]
      simp [Ne.symm hother]

theorem entry?_eq_find? (hbelow : ¬ (isAbove place || place = root) = true) :
    files.entry? place = (files.entries.find? (·.1 = place)).map (·.2) :=
  if_neg hbelow

theorem entry?_put (hfree : files.entry? place ≠ some .directory) (entry : FileEntry) (other : Place) :
    Files.entry? (files.put place entry) other = if other = place then some entry else files.entry? other := by
  have hfound := find?_put files place other entry
  by_cases habove : (isAbove other || other = root) = true
  · have hother : other ≠ place := by
      rintro rfl
      exact hfree (if_pos habove)
    rw [if_neg hother]
    exact (if_pos habove).trans (if_pos habove).symm
  · rw [entry?_eq_find? habove, entry?_eq_find? habove, hfound]

theorem put_put (files : Files) (place : Place) (first second : FileEntry) :
    (files.put place first).put place second = files.put place second := by
  by_cases hany : files.entries.any (·.1 = place) = true
  · have hagain : (files.put place first).entries.any (·.1 = place) = true := by
      obtain ⟨e, hmem, he⟩ := List.any_eq_true.mp hany
      rw [put, if_pos hany, List.any_map, List.any_eq_true]
      exact ⟨e, hmem, by simp [of_decide_eq_true he]⟩
    have hreplace (e : Place × FileEntry) :
        (if (if e.1 = place then (place, first) else e).1 = place then (place, second)
          else if e.1 = place then (place, first) else e) =
            if e.1 = place then (place, second) else e := by
      by_cases he : e.1 = place <;> simp [he]
    rw [put, if_pos hagain, put, if_pos hany, put, if_pos hany, List.map_map]
    simp only [Function.comp_def, hreplace]
  · have hagain : (files.put place first).entries.any (·.1 = place) = true := by
      rw [put, if_neg hany]
      simp
    have hkeep : (files.entries.map fun e => if e.1 = place then (place, second) else e) =
        files.entries := by
      have hother : ∀ e ∈ files.entries, (if e.1 = place then (place, second) else e) = id e := by
        intro e hmem
        rw [if_neg fun he => hany (List.any_eq_true.mpr ⟨e, hmem, decide_eq_true he⟩)]
        rfl
      rw [List.map_congr_left hother, List.map_id]
    rw [put, if_pos hagain, put, if_neg hany, put, if_neg hany, List.map_append, hkeep]
    simp

theorem put_sameDirectories (hfree : files.entry? place ≠ some .directory) (content : Bytes) :
    SameDirectories files (files.put place (.file content)) := by
  intro other
  rw [entry?_put hfree]
  by_cases hother : other = place
  · rw [if_pos hother, hother]
    simp [hfree]
  · rw [if_neg hother]

theorem create_eq_ok_iff :
    files.create path = .ok after ↔
      ∃ place, files.creationPlace path = .ok place ∧ after = files.put place (.file []) := by
  rw [create]
  rcases files.creationPlace path with e | place
  · simp [Except.map]
  · simp [Except.map, eq_comm]

theorem append_eq (hplace : files.creationPlace path = .ok place) {front : Bytes}
    (hentry : files.entry? place = some (.file front)) (content : Bytes) :
    files.append path content = files.put place (.file (front ++ content)) := by
  obtain ⟨directory, name, hnames, rfl, -⟩ := creationPlace_eq_ok_iff.mp hplace
  rw [append, locate_of_names hnames hentry]

/-! ### Names below a directory -/

/-- A path is absolute if it begins with an empty segment that is not its only one. -/
theorem start_eq (path : String) :
    start path = match Path.segments path with
      | [] :: _ :: _ => root
      | _ => workingDirectory := by
  have hstarts : path.startsWith "/" = true ↔ ['/'] <+: path.toList := String.startsWith_string_iff
  rw [start]
  simp only [hstarts, Path.segments]
  cases path.toList with
  | nil => rfl
  | cons c text =>
    obtain ⟨first, more, hsplit⟩ := List.exists_cons_of_ne_nil (List.splitOn_ne_nil '/' text)
    rw [List.splitOn_cons_eq_if_modifyHead, hsplit]
    by_cases hc : c = '/'
    · simp [hc]
    · simp [hc, Ne.symm hc]

theorem start_child (directory : String) {name : String} (hname : IsName name.toList) :
    start (Path.child directory name) = start directory := by
  have hslash : ¬ ['/'] <+: name.toList := by
    intro hstarts
    exact hname.noSlash (hstarts.subset (List.mem_singleton_self _))
  have hstart (path other : String) (h : ['/'] <+: path.toList ↔ ['/'] <+: other.toList) :
      start path = start other := by
    simp only [start, String.startsWith_string_iff]
    simp [h]
  apply hstart
  rw [Path.child]
  by_cases hempty : directory = ""
  · rw [if_pos hempty, hempty]
    simp [hslash]
  · obtain ⟨c, text, htext⟩ := List.exists_cons_of_ne_nil (mt String.toList_eq_nil_iff.mp hempty)
    rw [if_neg hempty]
    split <;> simp [htext]

theorem entry?_start (path : String) : files.entry? (start path) = some .directory := by
  rw [start]
  split
  · rfl
  · exact entry?_of_isAbove rfl

/-- What `directoryOf` writes for segments that lead nowhere leads nowhere from the same place. -/
theorem directoryOf_idle {segs rest : Path.Segments} (hname : name ≠ [])
    (hpath : Path.segments path = segs ++ name :: rest) (htrimmed : Path.trimEnd segs = [])
    (hidle : ∀ segment ∈ segs, IsIdle segment) :
    start (Path.directoryOf segs) = start path ∧
      ∀ segment ∈ Path.segments (Path.directoryOf segs), IsIdle segment := by
  rw [start_eq path, hpath]
  cases segs with
  | nil =>
    obtain ⟨c, text, rfl⟩ := List.exists_cons_of_ne_nil hname
    rw [Path.directoryOf_nil, Path.segments_empty]
    exact ⟨rfl, by decide⟩
  | cons first more =>
    rw [Path.directoryOf_of_trimEnd_eq_nil htrimmed]
    by_cases hfirst : first = []
    · have hslash : Path.segments "/" = [[], []] := by decide
      rw [hfirst, if_pos List.isEmpty_nil, start_eq, hslash]
      cases more <;> exact ⟨rfl, by decide⟩
    · have hdot : first = Path.dot := by
        simpa [IsIdle, hfirst] using hidle first (List.mem_cons_self ..)
      have hsegments : Path.segments (Path.ofSegments [Path.dot]) = [Path.dot] := by decide
      rw [hdot, if_neg (by decide), start_eq, hsegments]
      exact ⟨rfl, by decide⟩

/-- The directory of a name is where the segments before the name lead. -/
theorem walk_of_directoryOf {segs : Path.Segments} (hsplit : Path.splitName? path = some (segs, name))
    (hwalk : files.walk (start (Path.directoryOf segs)) (Path.segments (Path.directoryOf segs)) =
      .ok directory) (hdirectory : files.entry? directory = some .directory) :
    files.walk (start path) segs = .ok directory := by
  obtain ⟨hname, htrim⟩ := Path.splitName?_eq_some hsplit
  obtain ⟨⟨behind, hpath, -⟩, -⟩ := Path.trimEnd_spec (Path.segments path)
  rw [htrim, List.append_assoc, List.singleton_append] at hpath
  obtain ⟨⟨idle, hsegs, hidle⟩, hlast⟩ := Path.trimEnd_spec segs
  cases htrimmed : Path.trimEnd segs with
  | nil =>
    rw [htrimmed, List.nil_append] at hsegs
    rw [← hsegs] at hidle
    obtain ⟨hstart, hwritten⟩ := directoryOf_idle hname.ne_nil hpath htrimmed hidle
    rw [walk_of_idle hwritten (entry?_start _)] at hwalk
    rw [walk_of_idle hidle (entry?_start _), ← hstart]
    exact hwalk
  | cons first more =>
    rw [htrimmed] at hsegs hlast
    have hne : Path.trimEnd segs ≠ [] := by
      rw [htrimmed]
      exact List.cons_ne_nil first more
    have hsegments : Path.segments (Path.directoryOf segs) = first :: more := by
      rw [Path.directoryOf_of_trimEnd_ne_nil hne, htrimmed]
      apply Path.segments_ofSegments
      · intro segment hsegment
        have hmem : segment ∈ Path.segments path := by
          rw [hpath, hsegs]
          exact List.mem_append_left _ (List.mem_append_left _ hsegment)
        exact Path.slash_notMem_segments hmem
      · exact List.cons_ne_nil first more
    have hstart : start (Path.directoryOf segs) = start path := by
      rw [start_eq, start_eq path, hsegments, hpath, hsegs]
      cases more with
      | nil =>
        have hfirst : first ≠ [] := by
          rintro rfl
          exact hlast [] rfl rfl
        obtain ⟨c, text, rfl⟩ := List.exists_cons_of_ne_nil hfirst
        rfl
      | cons second more => cases first <;> rfl
    rw [hsegments, hstart] at hwalk
    rw [hsegs, walk_append_eq_ok_iff]
    exact ⟨directory, hwalk, walk_of_idle hidle hdirectory⟩

/-- The segments before the name of a path lead to a directory. A path without a name is the directory
itself. -/
def InDirectory (files : Files) (path : String) (directory : Place) : Prop :=
  files.entry? directory = some .directory ∧
    match Path.splitName? path with
    | some (before, _) => files.walk (start path) before = .ok directory
    | none => files.walk (start path) (Path.segments path) = .ok directory

theorem InDirectory.eq {other : Place} (hdirectory : files.InDirectory path directory)
    (hother : files.InDirectory path other) : other = directory := by
  obtain ⟨-, hdirectory⟩ := hdirectory
  obtain ⟨-, hother⟩ := hother
  cases hsplit : Path.splitName? path <;> rw [hsplit] at hdirectory hother <;>
    exact Except.ok.inj (hother.symm.trans hdirectory)

/-- Another name for a path is a name in the same directory. -/
theorem Names.inDirectory {name : String} {other : List Char} (hname : IsName name.toList)
    (hnames : files.Names (Path.withName path name) directory other) :
    files.InDirectory path directory ∧ other = name.toList := by
  obtain ⟨before, hsegments, hwalk⟩ := hnames.leads
  rw [Path.withName_eq] at hsegments hwalk
  rw [start_child _ hname] at hwalk
  obtain ⟨front, hchild, hfront⟩ := Path.segments_child (Path.directory path) hname.noSlash
  obtain ⟨rfl, hother⟩ := List.append_singleton_inj.mp (hsegments.symm.trans hchild)
  have hleads : files.walk (start (Path.directory path)) (Path.segments (Path.directory path)) =
      .ok directory := by
    obtain hfront | hfront := hfront
    · rw [hfront]
      exact hwalk
    · rw [hfront, walk_concat_eq_ok_iff]
      exact ⟨directory, hwalk, hnames.isDirectory, next_of_isIdle rfl⟩
  refine ⟨⟨hnames.isDirectory, ?_⟩, hother⟩
  rw [Path.directory] at hleads
  cases hsplit : Path.splitName? path with
  | none =>
    rw [hsplit] at hleads
    exact hleads
  | some split =>
    rw [hsplit] at hleads
    exact walk_of_directoryOf hsplit hleads hnames.isDirectory

end Folio.Files
