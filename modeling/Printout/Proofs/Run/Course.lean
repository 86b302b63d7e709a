import Printout.Proofs.Effect
import Printout.Run

/-!
# The course of a run

Each part of a run is an act with its effects in order. A run over a request to compile ends at the
first of its steps that fails: the settings are read and understood, a path is there, the source is
read, the program is written. `Ends` has one rule for each of these ends, and `Course` adds those of
the other command lines. Every run takes one course (`exists_course`) and has its effects
(`Course.plays`). What is seen of it follows from them (`run_withTrace_eq`).
-/

set_option autoImplicit false

namespace Printout

open CommandLine

variable {s : Surroundings} {path config : Option String} {settings : Settings}
  {words : List String} {source text : String} {reason : ReadError} {e : SystemError}
  {result : Except Nat Unit} {effects : List Effect}

/-! ## Settings -/

/-- The settings of a run: those of the file that is named, or the defaults. -/
inductive Configured (s : Surroundings) : Option String → Settings → Prop
  | defaults : Configured s none {}
  | file {name text : String} {settings : Settings} :
      s.read name = .ok text → Settings.parse text = .ok settings →
        Configured s (some name) settings

/-- Settings are had, or the file that is named cannot be read, or its text is no settings. -/
theorem configured_cases (s : Surroundings) (config : Option String) :
    (∃ settings, Configured s config settings) ∨
    (∃ name reason, config = some name ∧ s.read name = .error reason) ∨
    ∃ name text fault, config = some name ∧ s.read name = .ok text ∧
      Settings.parse text = .error fault := by
  cases config with
  | none => exact Or.inl ⟨{}, Configured.defaults⟩
  | some name =>
    cases hread : s.read name with
    | error reason => exact Or.inr (Or.inl ⟨name, reason, rfl, hread⟩)
    | ok text =>
      cases hparse : Settings.parse text with
      | ok settings => exact Or.inl ⟨settings, Configured.file hread hparse⟩
      | error fault => exact Or.inr (Or.inr ⟨name, text, fault, rfl, hread, hparse⟩)

/-- The settings of a file that can be read are those of its text, or the text has a fault. -/
theorem loadSettings_of_read {name : String} (h : s.read name = .ok text) :
    loadSettings s (some name) = (Settings.parse text).mapError .invalid := by
  rw [loadSettings, h]

theorem loadSettings_of_configured (h : Configured s config settings) :
    loadSettings s config = .ok settings := by
  cases h with
  | defaults => rfl
  | file hread hparse =>
    rw [loadSettings_of_read hread, hparse]
    rfl

/-! ## Sources -/

theorem readSource_of_ok (h : s.read source = .ok text) : readSource s source = .ok text := by
  rw [readSource, h]
  rfl

theorem readSource_of_error (h : s.read source = .error reason) :
    readSource s source = .error (.unreadable reason) := by
  rw [readSource, h]
  rfl

/-! ## Events -/

/-- The events of compiling `text`: each of its arguments that is dropped, then the number of the
others. -/
def compileEvents (settings : Settings) (text : String) : List Event :=
  ((arguments settings.call (normalize text)).filter
    fun argument => (literal? argument).isNone).map Event.dropping ++
    [.kept (directives settings.call (normalize text)).length settings.call]

namespace Run

open Act

/-! ## The parts of a run -/

theorem plays_settings (h : loadSettings s config = .ok settings) :
    (Run.settings config).Plays s (.ok settings) [] := by
  apply plays_read
  intro spec
  have hload : loadSettings (s.withTrace spec) config = .ok settings := h
  rw [hload]
  exact plays_pure settings

theorem plays_settings_of_error {error : SettingsError} (h : loadSettings s config = .error error) :
    (Run.settings config).Plays s (.error 1) [.tell error.message] := by
  apply plays_read
  intro spec
  have hload : loadSettings (s.withTrace spec) config = .error error := h
  rw [hload]
  exact plays_tell_exit error.message 1

theorem plays_source (h : s.read source = .ok text) :
    (Run.source source).Plays s (.ok (.ok text)) (records [.reading source]) := by
  apply (plays_perform (.record (.reading source))).bind
  apply plays_read
  intro spec
  rw [readSource_of_ok (s := s.withTrace spec) h]
  exact plays_pure (Except.ok text)

theorem plays_source_of_error (h : s.read source = .error reason) :
    (Run.source source).Plays s (.ok (.error (.unreadable reason)))
      (records [.reading source, .cannotRead source reason]) := by
  apply (plays_perform (.record (.reading source))).bind
  apply plays_read
  intro spec
  rw [readSource_of_error (s := s.withTrace spec) h]
  exact (plays_perform (.record (.cannotRead source reason))).bind_silent (plays_pure _)

/-- Going through arguments comes to the literals, and records the others on the way. -/
theorem plays_literals (arguments : List String) :
    (literals arguments).Plays s (.ok (arguments.filterMap literal?))
      (records ((arguments.filter fun argument => (literal? argument).isNone).map
        Event.dropping)) := by
  induction arguments with
  | nil => exact plays_pure []
  | cons argument arguments ih =>
    rw [literals]
    cases hliteral : literal? argument with
    | some inside =>
      rw [List.filterMap_cons_some hliteral, List.filter_cons_of_neg (by simp [hliteral])]
      exact ih.bind_silent (plays_pure _)
    | none =>
      rw [List.filterMap_cons_none hliteral, List.filter_cons_of_pos (by simp [hliteral])]
      exact (plays_perform (.record (.dropping argument))).bind ih

/-- The program is the one of `compile`. -/
theorem plays_program (settings : Settings) (text : String) :
    (program settings text).Plays s (.ok (compile settings text))
      (records (compileEvents settings text)) := by
  rw [compileEvents, records_append]
  apply (plays_literals (arguments settings.call (normalize text))).bind
  exact (plays_perform (.record (.kept _ settings.call))).bind_silent (plays_pure _)

theorem plays_compileFile_of_error (settings : Settings) (h : s.read source = .error reason) :
    (compileFile settings (some source)).Plays s (.ok (.error (.unreadable reason)))
      (records [.reading source, .cannotRead source reason]) :=
  (plays_source_of_error h).bind_silent (plays_pure _)

theorem plays_compileFile_of_refusal (settings : Settings) (hread : s.read source = .ok text)
    (hrefusal : s.refusal = some e) :
    (compileFile settings (some source)).Plays s (.error 1)
      (records (.reading source :: compileEvents settings text ++ [.cannotWrite e])) := by
  rw [records_append]
  apply (plays_source hread).bind
  apply (plays_program settings text).bind
  apply (plays_write_of_refusal (compile settings text) hrefusal).bind
  exact (plays_perform (.record (.cannotWrite e))).bind (plays_exit 1)

theorem plays_compileFile (settings : Settings) (hread : s.read source = .ok text)
    (hrefusal : s.refusal = none) :
    (compileFile settings (some source)).Plays s (.ok (.ok ()))
      (records (.reading source :: compileEvents settings text) ++
        [.output (compile settings text)]) := by
  apply (plays_source hread).bind
  apply (plays_program settings text).bind
  exact (plays_write (compile settings text) hrefusal).bind (plays_pure _)

end Run

/-! ## Ends -/

/-- The ends of a run over a request to compile, each with the result and the effects of the run, in
the order in which they are come to. -/
inductive Ends (s : Surroundings) :
    Option String → Option String → Except Nat Unit → List Effect → Prop
  | settingsUnreadable {path : Option String} {name : String} {reason : ReadError} :
      s.read name = .error reason →
        Ends s path (some name) (.error 1)
          [.tell ("error: cannot read config: " ++ reason.message ++ "\n")]
  | settingsInvalid {path : Option String} {name text : String} {fault : Json.Report} :
      s.read name = .ok text → Settings.parse text = .error fault →
        Ends s path (some name) (.error 1)
          [.tell ("error: invalid config JSON: " ++ fault.message ++ "\n")]
  | noPath {config : Option String} {settings : Settings} :
      Configured s config settings →
        Ends s none config (.error 1) [.tell "Usage: go2sponge <go_file>\n"]
  | sourceUnreadable {config : Option String} {settings : Settings} {source : String}
      {reason : ReadError} :
      Configured s config settings → s.read source = .error reason →
        Ends s (some source) config (.error 1)
          (records [.reading source, .cannotRead source reason] ++
            [.tell "Error: cannot read Go file\n"])
  | refused {config : Option String} {settings : Settings} {source text : String}
      {e : SystemError} :
      Configured s config settings → s.read source = .ok text → s.refusal = some e →
        Ends s (some source) config (.error 1)
          (records (.reading source :: compileEvents settings text ++ [.cannotWrite e]))
  | written {config : Option String} {settings : Settings} {source text : String} :
      Configured s config settings → s.read source = .ok text → s.refusal = none →
        Ends s (some source) config (.ok ())
          (records (.reading source :: compileEvents settings text) ++
            [.output (compile settings text)])

/-- Every request to compile comes to one of the ends. -/
theorem exists_ends (s : Surroundings) (path config : Option String) :
    ∃ result effects, Ends s path config result effects := by
  rcases configured_cases s config with
    ⟨settings, hconfigured⟩ | ⟨name, reason, rfl, hread⟩ | ⟨name, text, fault, rfl, hread, hparse⟩
  · cases path with
    | none => exact ⟨_, _, Ends.noPath hconfigured⟩
    | some source =>
      cases hread : s.read source with
      | error reason => exact ⟨_, _, Ends.sourceUnreadable hconfigured hread⟩
      | ok text =>
        cases hrefusal : s.refusal with
        | some e => exact ⟨_, _, Ends.refused hconfigured hread hrefusal⟩
        | none => exact ⟨_, _, Ends.written hconfigured hread hrefusal⟩
  · exact ⟨_, _, Ends.settingsUnreadable hread⟩
  · exact ⟨_, _, Ends.settingsInvalid hread hparse⟩

/-- A request has the effects of the end it comes to. -/
theorem Ends.plays (h : Ends s path config result effects) :
    (Run.carryOut path config).Plays s result effects := by
  cases h with
  | @settingsUnreadable _ name reason hread =>
    have hload : loadSettings s (some name) = .error (.unreadable reason) := by
      rw [loadSettings, hread]
    exact (Run.plays_settings_of_error hload).bind_exit
  | @settingsInvalid _ name _ fault hread hparse =>
    have hload : loadSettings s (some name) = .error (.invalid fault) := by
      rw [loadSettings_of_read hread, hparse]
      rfl
    exact (Run.plays_settings_of_error hload).bind_exit
  | noPath hconfigured =>
    apply (Run.plays_settings (loadSettings_of_configured hconfigured)).bind
    exact (Act.plays_pure _).bind (Act.plays_tell_exit _ _)
  | sourceUnreadable hconfigured hread =>
    apply (Run.plays_settings (loadSettings_of_configured hconfigured)).bind
    exact (Run.plays_compileFile_of_error _ hread).bind (Act.plays_tell_exit _ _)
  | refused hconfigured hread hrefusal =>
    apply (Run.plays_settings (loadSettings_of_configured hconfigured)).bind
    exact (Run.plays_compileFile_of_refusal _ hread hrefusal).bind_exit
  | written hconfigured hread hrefusal =>
    apply (Run.plays_settings (loadSettings_of_configured hconfigured)).bind
    exact (Run.plays_compileFile _ hread hrefusal).bind_silent (Act.plays_pure ())

/-! ## Courses -/

/-- The courses of a run with given arguments, each with the result of the run and its effects after
the warnings about the specification. -/
inductive Course (s : Surroundings) : List String → Except Nat Unit → List Effect → Prop
  | fault {words : List String} {e : ArgumentError} :
      CommandLine.parse words = .error e → Course s words (.error 2) [.tell e.message]
  | shown {words : List String} {flag : Flag} :
      CommandLine.parse words = .ok (.show flag) → s.refusal = none →
        Course s words (.error 0) [.output flag.text]
  | notShown {words : List String} {flag : Flag} {e : SystemError} :
      CommandLine.parse words = .ok (.show flag) → s.refusal = some e →
        Course s words (.error 0) []
  | compiled {words : List String} {path config : Option String} {result : Except Nat Unit}
      {effects : List Effect} :
      CommandLine.parse words = .ok (.compile path config) → Ends s path config result effects →
        Course s words result effects

/-- Every run takes one of the courses. -/
theorem exists_course (s : Surroundings) (words : List String) :
    ∃ result effects, Course s words result effects := by
  cases hparse : CommandLine.parse words with
  | error e => exact ⟨_, _, Course.fault hparse⟩
  | ok request =>
    cases request with
    | «show» flag =>
      cases hrefusal : s.refusal with
      | none => exact ⟨_, _, Course.shown hparse hrefusal⟩
      | some e => exact ⟨_, _, Course.notShown hparse hrefusal⟩
    | compile path config =>
      obtain ⟨result, effects, hends⟩ := exists_ends s path config
      exact ⟨result, effects, Course.compiled hparse hends⟩

/-- After the warnings, a run has the effects of the course it takes. -/
theorem Course.plays (h : Course s words result effects) :
    Act.Plays (do let (path, config) ← Run.request words; Run.carryOut path config) s result
      effects := by
  cases h with
  | fault hparse =>
    rw [Run.request, hparse]
    exact (Act.plays_tell_exit _ 2).bind_exit
  | shown hparse hrefusal =>
    rw [Run.request, hparse]
    exact ((Act.plays_write _ hrefusal).bind (Act.plays_exit 0)).bind_exit
  | notShown hparse hrefusal =>
    rw [Run.request, hparse]
    exact ((Act.plays_write_of_refusal _ hrefusal).bind (Act.plays_exit 0)).bind_exit
  | compiled hparse hends =>
    rw [Run.request, hparse]
    exact (Act.plays_pure _).bind hends.plays

/-- On every path, a run first records what it does, and then writes the program or tells the user
something. After that there is nothing more to record. -/
theorem Course.records_first (h : Course s words result effects) :
    ∃ events rest, effects = records events ++ rest ∧ ∀ event, .record event ∉ rest := by
  cases h with
  | fault | shown | notShown => exact ⟨[], _, rfl, by simp⟩
  | compiled _ hends =>
    cases hends with
    | settingsUnreadable | settingsInvalid | noPath => exact ⟨[], _, rfl, by simp⟩
    | sourceUnreadable | written => exact ⟨_, _, rfl, by simp⟩
    | refused => exact ⟨_, [], (List.append_nil _).symm, by simp⟩

/-! ## What is seen -/

/-- A run starts with the warnings about the specification. -/
theorem play_warn (s : Surroundings) (streams : Streams) :
    Run.warn.play s streams =
      (.ok (), { streams with
        messages := streams.messages ++
          String.join ((Trace.Filter.read s.traceSpec).2.map Trace.SpecError.warning) }) :=
  Act.play_forM_tell _ _ s streams

/-- What is seen of a run that takes a course, under each specification of the events to show. -/
theorem Course.run_withTrace_eq (h : Course s words result effects) (spec : Option String) :
    run (s.withTrace spec) words =
      ⟨Run.exitCode result, writtenBy effects,
        String.join ((Trace.Filter.read spec).2.map Trace.SpecError.warning) ++
          shownBy (Trace.Filter.read spec).1.shows effects⟩ := by
  rw [run, Run.main, Act.play_bind, play_warn]
  simp only [h.plays spec, Streams.output_foldl, Streams.messages_foldl, String.empty_append]
  rfl

/-- What is seen of a run that takes a course, under the specification `s` has already. -/
theorem Course.run_eq (h : Course s words result effects) :
    run s words =
      ⟨Run.exitCode result, writtenBy effects,
        String.join ((Trace.Filter.read s.traceSpec).2.map Trace.SpecError.warning) ++
          shownBy (Trace.Filter.read s.traceSpec).1.shows effects⟩ :=
  h.run_withTrace_eq s.traceSpec

end Printout
