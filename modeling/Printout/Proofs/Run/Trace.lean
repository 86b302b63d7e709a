import Printout.Proofs.Run.Course

/-!
# Recording does not interfere

A run records events between its other effects, and each record is shown or not where it stands. It
still has the same effects whatever is shown, so its exit code and its output are the same under
every specification. And since no course records anything after it has told the user something
(`Course.records_first`), what is shown under no specification stands unbroken at the end of what is
shown under any other (`run_withTrace`). In front of it are the lines of those events that the
specification chooses, and in front of these the warnings about the specification.
-/

set_option autoImplicit false

namespace Printout

/-- A warning about a part of a specification, or about its slashes. -/
def IsWarning (text : String) : Prop :=
  ∃ part, text = "warning: invalid logging spec '" ++ part ++ "', ignoring it\n" ∨
    text = "warning: invalid logging spec '" ++ part ++ "' (too many '/'s), ignoring it\n"

/-- A line that records an event: its level in brackets and a message, without terminal control. -/
def IsRecord (line : String) : Prop :=
  ∃ message, line = Text.Terminal.plain ("[DEBUG] " ++ message ++ "\n") ∨
    line = Text.Terminal.plain ("[TRACE] " ++ message ++ "\n")

theorem isWarning_warning (fault : Trace.SpecError) : IsWarning fault.warning := by
  cases fault with
  | invalid part => exact ⟨String.ofList part, Or.inl rfl⟩
  | tooManySlashes spec => exact ⟨String.ofList spec, Or.inr rfl⟩

theorem isRecord_line (event : Event) : IsRecord event.line := by
  refine ⟨event.message, ?_⟩
  cases event with
  | dropping argument => exact Or.inr rfl
  | _ => exact Or.inl rfl

/-! ## Two specifications -/

/-- Where there is no specification, no event is shown. -/
theorem shows_read_none : (Trace.Filter.read none).1.shows = fun _ => false := by
  funext event
  simp [Trace.Filter.read, Trace.Filter.shows, Trace.Rule.applies, Trace.Rule.shows]

variable {s : Surroundings} {words : List String} {result : Except Nat Unit}
  {effects : List Effect}

/-- What is shown of a run is what it shows under no specification, behind the lines of its events
that are shown and the warnings. -/
theorem Course.exists_messages (h : Course s words result effects) :
    ∃ events : List Event, ∀ spec : Option String,
      (run (s.withTrace spec) words).messages =
        String.join ((Trace.Filter.read spec).2.map Trace.SpecError.warning) ++
          (String.join ((events.filter (Trace.Filter.read spec).1.shows).map Event.line) ++
            (run (s.withTrace none) words).messages) := by
  obtain ⟨events, rest, rfl, hrest⟩ := h.records_first
  refine ⟨events, ?_⟩
  intro spec
  have hnone : (run (s.withTrace none) words).messages = shownBy (fun _ => false) rest := by
    have hfaults : (Trace.Filter.read none).2 = [] := rfl
    simp [h.run_withTrace_eq, hfaults, shows_read_none]
  rw [hnone, shownBy_of_no_record _ (Trace.Filter.read spec).1.shows rest hrest]
  simp only [h.run_withTrace_eq, shownBy_append, shownBy_records]

/-- A run has the same exit code and the same output under any two specifications of the events to
show. And there are events, the same for all specifications, such that the run shows the warnings
about the specification, then the lines of those events that it chooses, and then just what the run
shows under no specification. -/
theorem run_withTrace (s : Surroundings) (arguments : List String) :
    (∀ spec spec' : Option String,
      (run (s.withTrace spec) arguments).exitCode = (run (s.withTrace spec') arguments).exitCode ∧
        (run (s.withTrace spec) arguments).output = (run (s.withTrace spec') arguments).output) ∧
    ∃ events : List Event, (∀ event ∈ events, IsRecord event.line) ∧
      ∀ spec : Option String,
        (∀ fault ∈ (Trace.Filter.read spec).2, IsWarning fault.warning) ∧
        (run (s.withTrace spec) arguments).messages =
          String.join ((Trace.Filter.read spec).2.map Trace.SpecError.warning) ++
            (String.join ((events.filter (Trace.Filter.read spec).1.shows).map Event.line) ++
              (run (s.withTrace none) arguments).messages) := by
  obtain ⟨result, effects, hcourse⟩ := exists_course s arguments
  refine ⟨?_, ?_⟩
  · intro spec spec'
    rw [hcourse.run_withTrace_eq, hcourse.run_withTrace_eq]
    exact ⟨rfl, rfl⟩
  · obtain ⟨events, hmessages⟩ := hcourse.exists_messages
    refine ⟨events, ?_, ?_⟩
    · intro event _
      exact isRecord_line event
    · intro spec
      refine ⟨?_, hmessages spec⟩
      intro fault _
      exact isWarning_warning fault

end Printout
