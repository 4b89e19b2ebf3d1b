import Folio.Proofs.Session
/-!
# What a run changes

The files after a run do not tell which of them the run has written: one that is written with what it
had looks untouched. So the changes that a run makes are listed as it makes them. The list of two
sessions in a row is the list of the first, followed by that of the second if the run gets there.
-/

namespace Folio

/-- A change of files. -/
inductive Change where
  | created (path : String)
  | appended (path : String) (content : Bytes)
deriving DecidableEq, Repr

namespace Session

variable {α β : Type} {mayFail : Failure → Prop} {s : Session α} {f : α → Session β}
  {w between after : World} {value : α} {result : β}

/-- The changes that a run makes, in their order. A creation that is refused is none. -/
def changes : Session α → World → List Change
  | done _, _ | failed _, _ => []
  | read path next, w => (next (w.files.read path)).changes w
  | contains path next, w => (next (w.files.contains path)).changes w
  | input next, w => (next w.input).changes w
  | create path next, w =>
    match w.files.create path with
    | .ok files => .created path :: (next (.ok ())).changes { w with files }
    | .error e => (next (.error e)).changes w
  | append path content next, w =>
    .appended path content :: next.changes { w with files := w.files.append path content }
  | print content next, w => next.changes { w with output := w.output ++ content }
  | log entry next, w => next.changes { w with log := w.log ++ [entry] }

theorem changes_bind_of_run (hrun : s.run w = (.ok value, between)) :
    (s >>= f).changes w = s.changes w ++ (f value).changes between := by
  change (s.bind f).changes w = _
  induction s generalizing w with
  | done value =>
    obtain ⟨⟨⟩, rfl⟩ := Prod.mk.inj hrun
    rfl
  | failed failure => cases hrun
  | read path next ih | contains path next ih | input next ih => exact ih _ hrun
  | create path next ih =>
    rw [run] at hrun
    rw [bind, changes, changes]
    cases hcreate : w.files.create path with
    | error e =>
      rw [hcreate] at hrun
      exact ih _ hrun
    | ok files =>
      rw [hcreate] at hrun
      exact congrArg _ (ih _ hrun)
  | append path content next ih => exact congrArg _ (ih hrun)
  | print content next ih | log entry next ih => exact ih hrun

/-- A session that asks for no change makes none. -/
theorem Confined.changes_eq_nil (hs : s.Confined False mayFail) (w : World) : s.changes w = [] := by
  induction s generalizing w with
  | done | failed => rfl
  | read path next ih | contains path next ih | input next ih => exact ih _ (hs _) w
  | create | append => exact hs.1.elim
  | print content next ih | log entry next ih => exact ih hs _

/-! ### Runs that are done -/

theorem run_eq_done {s : Session Unit} (hfailure : failure? (s.run w).1 = none) :
    s.run w = (.ok (), (s.run w).2) := by
  rcases hresult : s.run w with ⟨error | _, _⟩
  · rw [hresult] at hfailure
    cases hfailure
  · rfl

/-- Two sessions in a row are done if the first is and the second is from there. -/
theorem run_bind_ok (hrun : (s >>= f).run w = (.ok result, after)) :
    ∃ value between, s.run w = (.ok value, between) ∧ (f value).run between = (.ok result, after) := by
  change (s.bind f).run w = _ at hrun
  rw [run_bind] at hrun
  rcases hfirst : s.run w with ⟨error | value, between⟩
  · rw [hfirst] at hrun
    cases hrun
  · rw [hfirst] at hrun
    exact ⟨value, between, rfl, hrun⟩

/-- The same where the first changes nothing. -/
theorem Confined.run_bind_ok (hs : s.Confined False mayFail)
    (hrun : (s >>= f).run w = (.ok result, after)) :
    ∃ value between, s.run w = (.ok value, between) ∧ between.files = w.files ∧
      (f value).run between = (.ok result, after) ∧
        (s >>= f).changes w = (f value).changes between := by
  obtain ⟨value, between, hfirst, hsecond⟩ := Session.run_bind_ok hrun
  have hfiles := hs.files_eq w
  rw [hfirst] at hfiles
  refine ⟨value, between, hfirst, hfiles, hsecond, ?_⟩
  rw [changes_bind_of_run hfirst, hs.changes_eq_nil, List.nil_append]

/-- A conversion that is done in a session gives its result. -/
theorem inSession_result {c : Conversion α} (hrun : c.inSession.run w = (.ok value, between)) :
    c.result = .ok value := by
  obtain ⟨_, logged, -, hresult⟩ := run_bind_ok hrun
  cases hc : c.result with
  | error e =>
    rw [hc] at hresult
    cases hresult
  | ok made =>
    rw [hc] at hresult
    obtain ⟨⟨⟩, -⟩ := Prod.mk.inj hresult
    rfl

end Session

end Folio
