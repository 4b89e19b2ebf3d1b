import Folio.Path
/-!
# Names in paths

A path is cut at its slashes, so no segment has one, and putting segments without slashes together and
cutting them again gives them back. A segment that is neither empty nor one of the two dotted ones is a
name. Where the last segment is a name, it is the name of the path, and what stands before it is kept by
every change of the name.

The stem of a name is the name itself, or stands before a dot. That is all that later proofs need to know
of it: a name is neither its own stem with a dash behind it nor has two stems.
-/

namespace Folio.Path

variable {path extension : String} {before : Segments} {name stem text : List Char}

/-! ### Segments -/

theorem slash_notMem_splitOn {segment : List Char} (hsegment : segment ∈ text.splitOn '/') :
    '/' ∉ segment := by
  induction text generalizing segment with
  | nil =>
    rw [List.splitOn_nil, List.mem_singleton] at hsegment
    rw [hsegment]
    exact List.not_mem_nil
  | cons c text ih =>
    obtain ⟨first, rest, hsplit⟩ := List.exists_cons_of_ne_nil (List.splitOn_ne_nil '/' text)
    rw [hsplit] at ih
    obtain ⟨hfirst, hrest⟩ := List.forall_mem_cons.mp fun _ => ih
    rw [List.splitOn_cons_eq_if_modifyHead, hsplit] at hsegment
    by_cases hc : c = '/'
    · rw [if_pos (by simpa using hc)] at hsegment
      obtain rfl | hsegment := List.mem_cons.mp hsegment
      · exact List.not_mem_nil
      · exact ih hsegment
    · rw [if_neg (by simpa using hc), List.modifyHead_cons] at hsegment
      obtain rfl | hsegment := List.mem_cons.mp hsegment
      · exact List.not_mem_cons_of_ne_of_not_mem (Ne.symm hc) hfirst
      · exact hrest _ hsegment

theorem slash_notMem_segments {segment : List Char} (hsegment : segment ∈ segments path) :
    '/' ∉ segment :=
  slash_notMem_splitOn hsegment

theorem segments_ne_nil (path : String) : segments path ≠ [] :=
  List.splitOn_ne_nil '/' path.toList

theorem ofSegments_segments (path : String) : ofSegments (segments path) = path := by
  rw [ofSegments, segments, List.intercalate_splitOn, String.ofList_toList]

theorem segments_ofSegments {segs : Segments} (hslash : ∀ segment ∈ segs, '/' ∉ segment)
    (hne : segs ≠ []) : segments (ofSegments segs) = segs := by
  rw [segments, ofSegments, String.toList_ofList, List.splitOn_intercalate '/' hslash hne]

theorem segments_empty : segments "" = [[]] :=
  List.splitOn_nil '/'

/-! ### Names -/

/-- What a segment has to be to name a file. -/
structure IsName (name : List Char) : Prop where
  noSlash : '/' ∉ name
  ne_nil : name ≠ []
  ne_dot : name ≠ dot
  ne_dotDot : name ≠ dotDot

/-- The other segments are no longer than two characters. -/
theorem isName_of_length (hslash : '/' ∉ name) (hlength : 2 < name.length) : IsName name := by
  refine ⟨hslash, ?_, ?_, ?_⟩ <;> rintro rfl <;> revert hlength <;> decide

/-- A segment that leads nowhere. -/
def IsIdle (segment : List Char) : Prop :=
  (segment.isEmpty || segment = dot) = true

instance : DecidablePred IsIdle := fun segment =>
  inferInstanceAs (Decidable ((segment.isEmpty || segment = dot) = true))

theorem IsName.not_isIdle (hname : IsName name) : ¬ IsIdle name := by
  simp [IsIdle, hname.ne_nil, hname.ne_dot]

/-- What is trimmed at the end leads nowhere, and what is left does not end in such a segment. -/
theorem trimEnd_spec (segs : Segments) :
    (∃ idle, segs = trimEnd segs ++ idle ∧ ∀ segment ∈ idle, IsIdle segment) ∧
      ∀ segment ∈ (trimEnd segs).getLast?, ¬ IsIdle segment := by
  constructor
  · refine ⟨(segs.reverse.takeWhile fun s => s.isEmpty || s = dot).reverse, ?_, ?_⟩
    · rw [trimEnd, ← List.reverse_append, List.takeWhile_append_dropWhile, List.reverse_reverse]
    · intro segment hsegment
      exact List.all_eq_true.mp List.all_takeWhile segment (List.mem_reverse.mp hsegment)
  · intro segment hsegment
    rw [trimEnd, List.getLast?_reverse] at hsegment
    have hhead := List.head?_dropWhile_not (fun s => s.isEmpty || s = dot) segs.reverse
    rw [Option.mem_def.mp hsegment] at hhead
    rw [IsIdle, Bool.not_eq_true]
    simpa using hhead

theorem trimEnd_concat (hname : ¬ IsIdle name) : trimEnd (before ++ [name]) = before ++ [name] := by
  have hkeep : (name :: before.reverse).dropWhile (fun s => s.isEmpty || s = dot) =
      name :: before.reverse := List.dropWhile_cons_of_neg hname
  rw [trimEnd, List.reverse_concat, hkeep, List.reverse_cons, List.reverse_reverse]

theorem splitName?_of_segments (hname : IsName name) (hsegments : segments path = before ++ [name]) :
    splitName? path = some (before, name) := by
  rw [splitName?, hsegments, trimEnd_concat hname.not_isIdle, List.reverse_concat]
  dsimp only
  rw [if_neg hname.ne_dotDot, List.reverse_reverse]

theorem splitName?_eq_some (hsplit : splitName? path = some (before, name)) :
    IsName name ∧ trimEnd (segments path) = before ++ [name] := by
  rw [splitName?] at hsplit
  split at hsplit
  · cases hsplit
  next last front hreverse =>
    by_cases hdots : last = dotDot
    · rw [if_pos hdots] at hsplit
      cases hsplit
    · rw [if_neg hdots] at hsplit
      obtain ⟨rfl, rfl⟩ := Prod.mk.inj (Option.some.inj hsplit)
      have htrim : trimEnd (segments path) = front.reverse ++ [last] := by
        rw [← List.reverse_reverse (trimEnd _), hreverse, List.reverse_cons]
      obtain ⟨⟨idle, hidle, -⟩, hlast⟩ := trimEnd_spec (segments path)
      rw [htrim] at hidle hlast
      have hvisible := hlast last (by rw [List.getLast?_concat]; rfl)
      have hmem : last ∈ segments path := by rw [hidle]; simp
      simp only [IsIdle, Bool.or_eq_true, List.isEmpty_iff, decide_eq_true_eq, not_or] at hvisible
      exact ⟨⟨slash_notMem_segments hmem, hvisible.1, hvisible.2, hdots⟩, htrim⟩

/-! ### Stems and extensions -/

theorem stemOfName_cases (name : List Char) :
    stemOfName name = name ∨
      ∃ extension, stemOfName name ≠ [] ∧ name = stemOfName name ++ '.' :: extension := by
  have hsplit : name.reverse.takeWhile (· ≠ '.') ++ name.reverse.dropWhile (· ≠ '.') = name.reverse :=
    List.takeWhile_append_dropWhile
  have hdot := List.head?_dropWhile_not (fun c => decide (c ≠ '.')) name.reverse
  rw [stemOfName]
  split
  next c front hdrop =>
    rw [hdrop] at hsplit hdot
    obtain rfl : c = '.' := by simpa using hdot
    by_cases hfront : front = []
    · rw [if_pos (by rw [hfront]; rfl)]
      exact Or.inl rfl
    · rw [if_neg (by simpa using hfront)]
      refine Or.inr ⟨(name.reverse.takeWhile (· ≠ '.')).reverse, by simpa using hfront, ?_⟩
      calc name = name.reverse.reverse := name.reverse_reverse.symm
        _ = (name.reverse.takeWhile (· ≠ '.') ++ '.' :: front).reverse := by rw [hsplit]
        _ = front.reverse ++ '.' :: (name.reverse.takeWhile (· ≠ '.')).reverse := by simp
  · exact Or.inl rfl

theorem stemOfName_append (hstem : stem ≠ []) {rest : List Char} (hrest : '.' ∉ rest) :
    stemOfName (stem ++ '.' :: rest) = stem := by
  have hreverse : (stem ++ '.' :: rest).reverse = rest.reverse ++ '.' :: stem.reverse := by simp
  have hpass : ∀ c ∈ rest.reverse, decide (c ≠ '.') = true := by
    intro c hc
    have hne : c ≠ '.' := fun h => hrest (h ▸ List.mem_reverse.mp hc)
    exact decide_eq_true hne
  rw [stemOfName, hreverse, List.dropWhile_append_of_pos hpass,
    List.dropWhile_cons_of_neg (by decide)]
  dsimp only
  rw [if_neg (by simpa using hstem), List.reverse_reverse]

theorem stemOfName_ne_nil (hname : name ≠ []) : stemOfName name ≠ [] := by
  obtain hstem | ⟨_, hstem, -⟩ := stemOfName_cases name
  · rw [hstem]
    exact hname
  · exact hstem

theorem slash_notMem_stemOfName (hslash : '/' ∉ name) : '/' ∉ stemOfName name := by
  obtain hstem | ⟨_, -, hstem⟩ := stemOfName_cases name
  · rw [hstem]
    exact hslash
  · rw [hstem] at hslash
    exact fun h => hslash (List.mem_append_left _ h)

theorem stem?_eq (hsplit : splitName? path = some (before, name)) :
    stem? path = some (String.ofList (stemOfName name)) := by
  rw [stem?, hsplit]
  rfl

/-- What a path has behind the stem of its name and a dot. -/
def extension? (path : String) : Option String :=
  (splitName? path).bind fun (_, name) =>
    if stemOfName name = name then none
    else some (String.ofList (name.drop ((stemOfName name).length + 1)))

theorem extension?_eq_some_iff (hsplit : splitName? path = some (before, name)) :
    extension? path = some extension ↔ name = stemOfName name ++ '.' :: extension.toList := by
  rw [extension?, hsplit, Option.bind_some]
  dsimp only
  have hcases := stemOfName_cases name
  generalize stemOfName name = stem at hcases ⊢
  obtain rfl | ⟨rest, -, rfl⟩ := hcases
  · simp
  · have hdrop : (stem ++ '.' :: rest).drop (stem.length + 1) = rest := by simp
    rw [if_neg (by simp), hdrop, Option.some.injEq, List.append_cancel_left_eq, List.cons.injEq,
      ← String.toList_inj, String.toList_ofList]
    exact ⟨fun h => ⟨rfl, h⟩, And.right⟩

theorem segments_withExtension (hsplit : splitName? path = some (before, name))
    (hslash : '/' ∉ extension.toList) :
    segments (withExtension path extension) = before ++ [stemOfName name ++ '.' :: extension.toList] := by
  obtain ⟨hname, htrim⟩ := splitName?_eq_some hsplit
  obtain ⟨⟨idle, hidle, -⟩, -⟩ := trimEnd_spec (segments path)
  rw [withExtension, hsplit]
  apply segments_ofSegments
  · intro segment hsegment
    obtain hsegment | hsegment := List.mem_append.mp hsegment
    · apply slash_notMem_segments
      rw [hidle, htrim]
      simp [hsegment]
    · rw [List.mem_singleton.mp hsegment]
      simp [slash_notMem_stemOfName hname.noSlash, hslash]
  · simp

/-! ### Names below a directory -/

/-- A slash behind the directory is kept where it has one already, so its last, empty segment goes. -/
theorem segments_child (directory : String) {name : String} (hslash : '/' ∉ name.toList) :
    ∃ before, segments (child directory name) = before ++ [name.toList] ∧
      (segments directory = before ∨ segments directory = before ++ [[]]) := by
  have hname : name.toList.splitOn '/' = [name.toList] := List.splitOn_eq_singleton hslash
  rw [child]
  by_cases hempty : directory = ""
  · rw [if_pos hempty, hempty]
    exact ⟨[], hname, Or.inr segments_empty⟩
  rw [if_neg hempty]
  by_cases hend : directory.toList.getLast? = some '/'
  · obtain ⟨front, hfront⟩ := List.getLast?_eq_some_iff.mp hend
    rw [if_pos hend]
    refine ⟨front.splitOn '/', ?_, Or.inr ?_⟩
    · rw [segments, String.toList_append, hfront, List.append_assoc, List.singleton_append,
        List.splitOn_append_cons_self, hname]
    · rw [segments, hfront, List.splitOn_append_cons_self, List.splitOn_nil]
  · rw [if_neg hend]
    refine ⟨segments directory, ?_, Or.inl rfl⟩
    have htext : (directory ++ "/" ++ name).toList = directory.toList ++ '/' :: name.toList := by
      simp
    rw [segments, htext, List.splitOn_append_cons_self, hname, segments]

theorem directoryOf_nil : directoryOf [] = "" :=
  rfl

theorem directoryOf_of_trimEnd_eq_nil {first : List Char} {more : Segments}
    (htrim : trimEnd (first :: more) = []) :
    directoryOf (first :: more) = if first.isEmpty then "/" else ofSegments [first] := by
  simp only [directoryOf, htrim]

theorem directoryOf_of_trimEnd_ne_nil (htrim : trimEnd before ≠ []) :
    directoryOf before = ofSegments (trimEnd before) := by
  rw [directoryOf]
  intro _ _ hnil
  exact absurd hnil htrim

/-- The directory of which a change of the name makes use. -/
def directory (path : String) : String :=
  match splitName? path with
  | some (before, _) => directoryOf before
  | none => path

theorem withName_eq (path name : String) : withName path name = child (directory path) name := by
  unfold withName directory
  cases splitName? path <;> rfl

theorem splitName?_withName {name : String} (hname : IsName name.toList) :
    ∃ before, splitName? (withName path name) = some (before, name.toList) := by
  obtain ⟨before, hsegments, -⟩ := segments_child (directory path) hname.noSlash
  rw [withName_eq]
  exact ⟨before, splitName?_of_segments hname hsegments⟩

end Folio.Path
