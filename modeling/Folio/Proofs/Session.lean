import Folio.Config
import Folio.Converter
/-!
# What a session may do

How a session goes on depends on answers, so what it may do is said for every answer: whether it asks
for a change of files at all, and with which failures it may end. Both are read off the session without
carrying it out. What follows for a run is proved once, along the session: if no change is asked for the
files stay, and the run ends with no other failure.
-/

namespace Folio.Session

variable {α β : Type} {mayChange : Prop} {mayFail : Failure → Prop} {s : Session α} {f : α → Session β}
  {w after : World} {failure : Failure}

theorem bind_done (s : Session α) : s.bind done = s := by
  induction s with
  | done | failed => rfl
  | read path next ih | contains path next ih | create path next ih => exact congrArg _ (funext ih)
  | input next ih => exact congrArg _ (funext ih)
  | append path content next ih => exact congrArg _ ih
  | print content next ih | log entry next ih => exact congrArg _ ih

theorem bind_bind {γ : Type} (s : Session α) (f : α → Session β) (g : β → Session γ) :
    (s.bind f).bind g = s.bind fun value => (f value).bind g := by
  induction s with
  | done | failed => rfl
  | read path next ih | contains path next ih | create path next ih => exact congrArg _ (funext ih)
  | input next ih => exact congrArg _ (funext ih)
  | append path content next ih => exact congrArg _ ih
  | print content next ih | log entry next ih => exact congrArg _ ih

instance : LawfulMonad Session :=
  LawfulMonad.mk' Session bind_done (fun _ _ => rfl) bind_bind

/-- Asks for changes of files only if it may, and ends only with failures that are allowed. -/
def Confined (mayChange : Prop) (mayFail : Failure → Prop) : Session α → Prop
  | done _ => True
  | failed failure => mayFail failure
  | read _ next => ∀ answer, (next answer).Confined mayChange mayFail
  | contains _ next => ∀ answer, (next answer).Confined mayChange mayFail
  | input next => ∀ answer, (next answer).Confined mayChange mayFail
  | create _ next => mayChange ∧ ∀ answer, (next answer).Confined mayChange mayFail
  | append _ _ next => mayChange ∧ next.Confined mayChange mayFail
  | print _ next => next.Confined mayChange mayFail
  | log _ next => next.Confined mayChange mayFail

theorem Confined.bind (hs : s.Confined mayChange mayFail)
    (hf : ∀ value, (f value).Confined mayChange mayFail) : (s >>= f).Confined mayChange mayFail := by
  change (s.bind f).Confined mayChange mayFail
  induction s with
  | done value => exact hf value
  | failed failure => exact hs
  | read path next ih | contains path next ih | input next ih => exact fun answer => ih answer (hs answer)
  | create path next ih => exact ⟨hs.1, fun answer => ih answer (hs.2 answer)⟩
  | append path content next ih => exact ⟨hs.1, ih hs.2⟩
  | print content next ih | log entry next ih => exact ih hs

/-! ### Runs -/

/-- A session that asks for no change leaves the files. -/
theorem Confined.files_eq (hs : s.Confined False mayFail) (w : World) : (s.run w).2.files = w.files := by
  induction s generalizing w with
  | done | failed => rfl
  | read path next ih | contains path next ih | input next ih => exact ih _ (hs _) w
  | create | append => exact hs.1.elim
  | print content next ih | log entry next ih => exact ih hs _

theorem Confined.allows (hs : s.Confined mayChange mayFail) (hrun : s.run w = (.error failure, after)) :
    mayFail failure := by
  induction s generalizing w with
  | done value => cases hrun
  | failed failure =>
    obtain ⟨⟨⟩, -⟩ := Prod.mk.inj hrun
    exact hs
  | read path next ih | contains path next ih | input next ih => exact ih _ (hs _) hrun
  | create path next ih =>
    rw [run] at hrun
    split at hrun
    · exact ih _ (hs.2 _) hrun
    · exact ih _ (hs.2 _) hrun
  | append path content next ih => exact ih hs.2 hrun
  | print content next ih | log entry next ih => exact ih hs hrun

/-- The failure that a result is, if it is one. -/
def failure? : Except Failure α → Option Failure
  | .ok _ => none
  | .error failure => some failure

theorem run_eq_error (hfailure : failure? (s.run w).1 = some failure) : (s.run w).1 = .error failure := by
  rcases hresult : (s.run w).1 with error | value
  · rw [hresult] at hfailure
    rw [Option.some.inj hfailure]
  · rw [hresult] at hfailure
    cases hfailure

/-- Two sessions one after the other fail in the first or in the second. -/
theorem run_bind_error (hrun : (s >>= f).run w = (.error failure, after)) :
    s.run w = (.error failure, after) ∨
      ∃ value between, s.run w = (.ok value, between) ∧ (f value).run between = (.error failure, after) := by
  change (s.bind f).run w = _ at hrun
  rw [run_bind] at hrun
  rcases hfirst : s.run w with ⟨error | value, between⟩
  · rw [hfirst] at hrun
    obtain ⟨herror, rfl⟩ := Prod.mk.inj hrun
    exact .inl (by rw [Except.error.inj herror])
  · rw [hfirst] at hrun
    exact .inr ⟨value, between, rfl, hrun⟩

/-- The same where the first changes nothing. -/
theorem Confined.run_bind_error (hs : s.Confined False mayFail)
    (hrun : (s >>= f).run w = (.error failure, after)) :
    (mayFail failure ∧ after.files = w.files) ∨
      ∃ value between, between.files = w.files ∧ (f value).run between = (.error failure, after) := by
  rcases Session.run_bind_error hrun with hfirst | ⟨value, between, hfirst, hsecond⟩
  · have hfiles := hs.files_eq w
    rw [hfirst] at hfiles
    exact .inl ⟨hs.allows hfirst, hfiles⟩
  · have hfiles := hs.files_eq w
    rw [hfirst] at hfiles
    exact .inr ⟨value, between, hfiles, hsecond⟩

/-! ### Reading and logging -/

theorem readText_confined {path : String} {refuse : FileError → Failure} (hrefuse : ∀ e, mayFail (refuse e)) :
    (readText path refuse).Confined mayChange mayFail := by
  rintro (e | bytes)
  · exact hrefuse e
  · dsimp only
    split
    · trivial
    · exact hrefuse _

theorem inputText_confined (hinput : ∀ e, mayFail (.readingInput e)) :
    inputText.Confined mayChange mayFail := by
  intro bytes
  dsimp only
  split
  · trivial
  · exact hinput _

theorem logAll_confined (entries : List LogEntry) : (logAll entries).Confined mayChange mayFail := by
  induction entries with
  | nil => trivial
  | cons entry rest ih => exact ih

theorem inSession_confined {c : Conversion α}
    (herror : ∀ e, c.result = .error e → mayFail (.conversion e)) :
    c.inSession.Confined mayChange mayFail := by
  refine (logAll_confined c.log).bind fun _ => ?_
  split
  · trivial
  · exact herror _ ‹_›

theorem readFonts_confined (hfont : ∀ path e, mayFail (.conversion (.render (.font path e))))
    (paths : List String) : (Converter.readFonts paths).Confined mayChange mayFail := by
  induction paths with
  | nil => trivial
  | cons path rest ih =>
    rintro (e | font)
    · exact hfont path e
    · exact ih.bind fun _ => trivial

theorem load_confined (hconfig : ∀ e, mayFail (.config e)) (path : String) :
    (Config.load path).Confined mayChange mayFail := by
  refine (readText_confined fun _ => hconfig _).bind fun text => ?_
  split
  · trivial
  · exact hconfig _

end Folio.Session
