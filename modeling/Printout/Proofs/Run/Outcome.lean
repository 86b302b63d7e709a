import Printout.Proofs.CommandLine.Request
import Printout.Proofs.Files.Reading
import Printout.Proofs.Run.Trace

/-!
# How a run ends

A run over a request to compile comes to one of the `Ends`, and what is seen of it is told from its
effects (`Ends.seen`). So a run is all or nothing (`run_all_or_nothing`): it writes the whole
program and exits with 0, or it writes nothing, exits with 1, and tells the user about the first
failure only.

With all lists of arguments there is one more exit code. Arguments that make no request are a fault
of the command line, with exit code 2 (`exitCode_eq_zero_or_one_iff_asks`).
-/

set_option autoImplicit false

namespace Printout

open CommandLine

variable {s : Surroundings} {path config : Option String} {settings : Settings}
  {arguments : List String} {result : Except Nat Unit} {effects : List Effect}

/-- The settings are had, and so is the text of a source. -/
def Ready (s : Surroundings) (path config : Option String) (settings : Settings) (text : String) :
    Prop :=
  Configured s config settings ∧ ∃ source, path = some source ∧ s.read source = .ok text

/-! ## Ends -/

/-- Only a run that has all it needs, and whose program is written, ends with 0. -/
theorem Ends.of_exitCode_eq_zero (h : Ends s path config result effects)
    (hzero : Run.exitCode result = 0) :
    ∃ settings text, Ready s path config settings text ∧ s.refusal = none := by
  cases h with
  | written hconfigured hread hrefusal => exact ⟨_, _, ⟨hconfigured, _, rfl, hread⟩, hrefusal⟩
  | _ => simp [Run.exitCode] at hzero

/-- A run that does not end with 0 ends with 1, and wrote nothing. -/
theorem Ends.of_exitCode_ne_zero (h : Ends s path config result effects)
    (hne : Run.exitCode result ≠ 0) :
    Run.exitCode result = 1 ∧ writtenBy effects = "" := by
  cases h with
  | written hconfigured hread hrefusal => exact absurd rfl hne
  | _ => simp [Run.exitCode]

/-- The exit code and the output of a run are those of the course it takes, and where no events are
asked for, the user sees what the run tells. -/
theorem Course.seen (h : Course s arguments result effects) :
    (run s arguments).exitCode = Run.exitCode result ∧
      (run s arguments).output = writtenBy effects ∧
      (s.traceSpec = none → (run s arguments).messages = shownBy (fun _ => false) effects) := by
  rw [h.run_eq]
  refine ⟨rfl, rfl, ?_⟩
  intro hspec
  have hfaults : (Trace.Filter.read none).2 = [] := rfl
  simp only [hspec, hfaults, shows_read_none]
  simp

theorem Ends.seen (h : CommandLine.parse arguments = .ok (.compile path config))
    (hends : Ends s path config result effects) :
    (run s arguments).exitCode = Run.exitCode result ∧
      (run s arguments).output = writtenBy effects ∧
      (s.traceSpec = none → (run s arguments).messages = shownBy (fun _ => false) effects) :=
  (Course.compiled h hends).seen

/-- A run over a request to compile exits with 0 exactly if the settings are had, a path is there,
its text is read and standard output takes the program. Then it writes the program of the text. In
every other case it exits with 1 and writes nothing. Unless events are asked for, it tells the user
nothing if the program is written or refused, and else the first of the failures, in one message.
Over files, a text is read exactly where a file holds it in UTF-8. -/
theorem run_all_or_nothing (h : CommandLine.parse arguments = .ok (.compile path config)) :
    ((run s arguments).exitCode = 0 ↔
      ∃ settings text, Ready s path config settings text ∧ s.refusal = none) ∧
    (∀ settings text, Ready s path config settings text → s.refusal = none →
      (run s arguments).output = compile settings text) ∧
    ((run s arguments).exitCode ≠ 0 →
      (run s arguments).exitCode = 1 ∧ (run s arguments).output = "") ∧
    (s.traceSpec = none →
      (∀ settings text, Ready s path config settings text → (run s arguments).messages = "") ∧
      (∀ name reason, config = some name → s.read name = .error reason →
        (run s arguments).messages =
          "error: cannot read config: " ++ reason.message ++ "\n") ∧
      (∀ name text fault, config = some name → s.read name = .ok text →
        Settings.parse text = .error fault →
          (run s arguments).messages =
            "error: invalid config JSON: " ++ fault.message ++ "\n") ∧
      (∀ settings, Configured s config settings → path = none →
        (run s arguments).messages = "Usage: go2sponge <go_file>\n") ∧
      ∀ settings source reason, Configured s config settings → path = some source →
        s.read source = .error reason →
          (run s arguments).messages = "Error: cannot read Go file\n") ∧
    ∀ files : Files, s.read = files.read →
      ∀ name text, s.read name = .ok text ↔ files.Holds name text := by
  refine ⟨⟨?_, ?_⟩, ?_, ?_, ?_, ?_⟩
  · intro hzero
    obtain ⟨result, effects, hends⟩ := exists_ends s path config
    rw [(hends.seen h).1] at hzero
    exact hends.of_exitCode_eq_zero hzero
  · rintro ⟨settings, text, ⟨hconfigured, source, rfl, hread⟩, hrefusal⟩
    exact (Ends.seen h (Ends.written hconfigured hread hrefusal)).1
  · rintro settings text ⟨hconfigured, source, rfl, hread⟩ hrefusal
    simpa using (Ends.seen h (Ends.written hconfigured hread hrefusal)).2.1
  · intro hne
    obtain ⟨result, effects, hends⟩ := exists_ends s path config
    obtain ⟨hexit, houtput, -⟩ := hends.seen h
    rw [hexit] at hne ⊢
    obtain ⟨hone, hnothing⟩ := hends.of_exitCode_ne_zero hne
    rw [houtput, hnothing]
    exact ⟨hone, rfl⟩
  · intro hspec
    refine ⟨?_, ?_, ?_, ?_, ?_⟩
    · rintro settings text ⟨hconfigured, source, rfl, hread⟩
      cases hrefusal : s.refusal with
      | none => simpa using (Ends.seen h (Ends.written hconfigured hread hrefusal)).2.2 hspec
      | some e => simpa using (Ends.seen h (Ends.refused hconfigured hread hrefusal)).2.2 hspec
    · rintro name reason rfl hread
      simpa using (Ends.seen h (Ends.settingsUnreadable hread)).2.2 hspec
    · rintro name text fault rfl hread hparse
      simpa using (Ends.seen h (Ends.settingsInvalid hread hparse)).2.2 hspec
    · rintro settings hconfigured rfl
      simpa using (Ends.seen h (Ends.noPath hconfigured)).2.2 hspec
    · rintro settings source reason hconfigured rfl hread
      simpa using (Ends.seen h (Ends.sourceUnreadable hconfigured hread)).2.2 hspec
  · intro files hfiles name text
    rw [hfiles]
    exact Files.read_eq_ok_iff

/-- The settings file cannot be read and no path is given: only the first of the two is told. And a
source is compiled under settings in a file, with arguments behind its path that do not count. -/
theorem run_all_or_nothing_of_settings :
    CommandLine.parse ["--config", "c.json"] = .ok (.compile none (some "c.json")) ∧
      (run ⟨fun _ => .error .notUtf8, none, none⟩ ["--config", "c.json"]).messages =
        "error: cannot read config: stream did not contain valid UTF-8\n" ∧
      CommandLine.parse ["--config=c.json", "-x.go", "-", "-h"] =
        .ok (.compile (some "-x.go") (some "c.json")) ∧
      (run ⟨fun path => .ok (if path = "c.json" then "[\"p\", false]" else "p(\"a\")"), none, none⟩
        ["--config=c.json", "-x.go", "-", "-h"]).exitCode = 0 ∧
      (run ⟨fun path => .ok (if path = "c.json" then "[\"p\", false]" else "p(\"a\")"), none, none⟩
        ["--config=c.json", "-x.go", "-", "-h"]).output = compile ⟨"p", false⟩ "p(\"a\")" := by
  have hparse : CommandLine.parse ["--config", "c.json"] = .ok (.compile none (some "c.json")) := by
    decide
  have hparse' : CommandLine.parse ["--config=c.json", "-x.go", "-", "-h"] =
      .ok (.compile (some "-x.go") (some "c.json")) := by
    decide
  have hready : Ready
      ⟨fun path => .ok (if path = "c.json" then "[\"p\", false]" else "p(\"a\")"), none, none⟩
      (some "-x.go") (some "c.json") ⟨"p", false⟩ "p(\"a\")" := by
    refine ⟨Configured.file rfl ?_, "-x.go", rfl, rfl⟩
    decide +kernel
  obtain ⟨-, -, -, hmessages, -⟩ := run_all_or_nothing
    (s := ⟨fun _ => .error .notUtf8, none, none⟩) hparse
  obtain ⟨hexit, houtput, -⟩ := run_all_or_nothing
    (s := ⟨fun path => .ok (if path = "c.json" then "[\"p\", false]" else "p(\"a\")"), none, none⟩)
    hparse'
  refine ⟨hparse, ?_, hparse', hexit.2 ⟨_, _, hready, rfl⟩, houtput _ _ hready rfl⟩
  exact (hmessages rfl).2.1 _ _ rfl rfl

/-! ## All lists of arguments -/

/-- A run exits with 0 or 1 on every course but that of a fault of the command line, where it exits
with 2 and writes nothing. -/
theorem Course.exitCode_cases (h : Course s arguments result effects) :
    ((Run.exitCode result = 0 ∨ Run.exitCode result = 1) ∧
      ∃ request, CommandLine.parse arguments = .ok request) ∨
    Run.exitCode result = 2 ∧ writtenBy effects = "" ∧
      ∃ e, CommandLine.parse arguments = .error e := by
  cases h with
  | fault hparse => exact Or.inr ⟨rfl, rfl, _, hparse⟩
  | shown hparse => exact Or.inl ⟨Or.inl rfl, _, hparse⟩
  | notShown hparse => exact Or.inl ⟨Or.inl rfl, _, hparse⟩
  | compiled hparse hends =>
    refine Or.inl ⟨?_, _, hparse⟩
    by_cases hzero : Run.exitCode result = 0
    · exact Or.inl hzero
    · exact Or.inr (hends.of_exitCode_ne_zero hzero).1

/-- A run exits with 0 or 1 exactly if its arguments make a request. With arguments that make none
it exits with 2 and writes nothing. -/
theorem exitCode_eq_zero_or_one_iff_asks (s : Surroundings) (arguments : List String) :
    ((run s arguments).exitCode = 0 ∨ (run s arguments).exitCode = 1 ↔
      ∃ request, Asks none none arguments request) ∧
    ((¬ ∃ request, Asks none none arguments request) →
      (run s arguments).exitCode = 2 ∧ (run s arguments).output = "") := by
  simp only [← parse_eq_ok_iff_asks]
  obtain ⟨result, effects, hcourse⟩ := exists_course s arguments
  obtain ⟨hexit, houtput, -⟩ := hcourse.seen
  rw [hexit, houtput]
  rcases hcourse.exitCode_cases with ⟨hcode, hasks⟩ | ⟨hcode, hnothing, e, hparse⟩
  · exact ⟨⟨fun _ => hasks, fun _ => hcode⟩, fun hnone => absurd hasks hnone⟩
  · simp [hcode, hnothing, hparse]

/-- Not every run exits with 0 or 1: an option whose value is missing makes the exit code 2. -/
theorem exitCode_of_missing_value :
    (run ⟨fun _ => .error (.system .noEntry), none, none⟩ ["--config"]).exitCode = 2 ∧
      ¬ ∀ s arguments, (run s arguments).exitCode = 0 ∨ (run s arguments).exitCode = 1 := by
  have hcode :
      (run ⟨fun _ => .error (.system .noEntry), none, none⟩ ["--config"]).exitCode = 2 := by
    decide
  refine ⟨hcode, ?_⟩
  intro h
  have hcodes := h ⟨fun _ => .error (.system .noEntry), none, none⟩ ["--config"]
  rw [hcode] at hcodes
  simp at hcodes

end Printout
