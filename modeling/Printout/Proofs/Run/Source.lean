import Printout.Proofs.Run.Outcome
import Printout.Proofs.Text.Encoding

/-!
# The bytes of a source

A source is a file, and its bytes decide whether there is anything to compile. If they are those of
a text in UTF-8, this very text is compiled: no mark at its front and no line end is taken away, and
nothing is put in its place. If they have a defect anywhere, there is no text at all, so the calls
before the defect are not compiled either (`readSource_and_run_of_stores`).
-/

set_option autoImplicit false

namespace Printout

open Text

namespace Files

variable {files : Files} {path text : String} {content : ByteArray}

/-- A file with these bytes stands at the end of the path. -/
def Stores (files : Files) (path : String) (content : ByteArray) : Prop :=
  '\x00' ∉ path.toList ∧ files.find path = .ok (.file content)

theorem read_of_stores (h : files.Stores path content) : files.read path = textOf content := by
  obtain ⟨hnul, hfind⟩ := h
  rw [read, if_neg hnul, hfind]

/-- Bytes are read as a text exactly if they are the bytes of it. -/
theorem textOf_eq_ok_iff_encoded :
    textOf content = .ok text ↔ Encoded content.data.toList text.toList := by
  rw [textOf_eq_ok_iff, eq_toUTF8_iff_encoded]

/-- Bytes are refused exactly if they have a defect, and the reason is the same for all defects. -/
theorem textOf_eq_error_iff {reason : ReadError} :
    textOf content = .error reason ↔
      reason = .notUtf8 ∧ ∃ defect, Defective content.data.toList defect := by
  rw [← not_exists_encoded_iff]
  simp only [← textOf_eq_ok_iff_encoded]
  rw [textOf]
  cases String.fromUTF8? content <;> simp [eq_comm]

end Files

variable {files : Files} {s : Surroundings} {path : String} {content : ByteArray}

/-- A source is had exactly if its bytes are those of a text, and it is this text. In all other
cases, which are those of a defect somewhere in the bytes, there is no source, and the reason is
always the same. A run over the source under the default settings prints the program of the text, or
it prints nothing and exits with 1. Unless events are asked for, it tells the user nothing in the
first case and one fixed text in the second. -/
theorem readSource_and_run_of_stores (hread : s.read = files.read)
    (hfile : files.Stores path content) :
    (∀ text, readSource s path = .ok text ↔ Encoded content.data.toList text.toList) ∧
    ((¬ ∃ text : String, Encoded content.data.toList text.toList) ↔
      ∃ defect, Defective content.data.toList defect) ∧
    (∀ defect, Defective content.data.toList defect →
      ∃ failure, readSource s path = .error failure ∧
        failure.message = "Error: cannot read Go file" ∧
        failure.reason? = some "stream did not contain valid UTF-8") ∧
    ∀ arguments, CommandLine.parse arguments = .ok (.compile (some path) none) →
      (∀ text, Encoded content.data.toList text.toList → s.refusal = none →
        (run s arguments).exitCode = 0 ∧ (run s arguments).output = compile {} text ∧
          (s.traceSpec = none → (run s arguments).messages = "")) ∧
      ∀ defect, Defective content.data.toList defect →
        (run s arguments).exitCode = 1 ∧ (run s arguments).output = "" ∧
          (s.traceSpec = none → (run s arguments).messages = "Error: cannot read Go file\n") := by
  have hok (text : String) (h : Encoded content.data.toList text.toList) :
      s.read path = .ok text := by
    rw [hread, Files.read_of_stores hfile, Files.textOf_eq_ok_iff_encoded.2 h]
  have herror (defect : Defect) (h : Defective content.data.toList defect) :
      s.read path = .error .notUtf8 := by
    rw [hread, Files.read_of_stores hfile, Files.textOf_eq_error_iff.2 ⟨rfl, defect, h⟩]
  refine ⟨?_, ?_, ?_, ?_⟩
  · intro text
    rw [← Files.textOf_eq_ok_iff_encoded, ← Files.read_of_stores hfile, ← hread]
    cases hcontent : s.read path with
    | ok text' => rw [readSource_of_ok hcontent, Except.ok.injEq, Except.ok.injEq]
    | error reason => simp [readSource_of_error hcontent]
  · exact not_exists_encoded_iff
  · intro defect h
    exact ⟨.unreadable .notUtf8, readSource_of_error (herror defect h), rfl, rfl⟩
  · intro arguments hparse
    refine ⟨?_, ?_⟩
    · intro text h hrefusal
      simpa [Run.exitCode] using
        Ends.seen hparse (Ends.written Configured.defaults (hok text h) hrefusal)
    · intro defect h
      simpa [Run.exitCode] using
        Ends.seen hparse (Ends.sourceUnreadable Configured.defaults (herror defect h))

/-- A mark at the front of a text and a line end of its own are kept. And a surrogate behind a call
leaves nothing of the call. -/
theorem readSource_and_run_of_surrogate :
    ∃ files : Files,
      files.Stores "a.go" "\uFEFFPrintln(\"a\")\r".toUTF8 ∧
      readSource ⟨files.read, none, none⟩ "a.go" = .ok "\uFEFFPrintln(\"a\")\r" ∧
      files.Stores "b.go" ("Println(\"a\")".toUTF8 ++ ⟨#[0xED, 0xA0, 0x80]⟩) ∧
      Defective ("Println(\"a\")".toUTF8 ++ ⟨#[0xED, 0xA0, 0x80]⟩).data.toList .surrogate ∧
      CommandLine.parse ["b.go"] = .ok (.compile (some "b.go") none) ∧
      (run ⟨files.read, none, none⟩ ["b.go"]).output = "" ∧
      (run ⟨files.read, none, none⟩ ["b.go"]).messages = "Error: cannot read Go file\n" := by
  have hlead : Lead 0xED 2 0x800 0xD := .three rfl (by decide)
  have hrow : Row [0xED, 0xA0, 0x80] 0x800 0xD800 := .mk hlead (by simp [Continues]) rfl
  have hdefective :
      Defective ("Println(\"a\")".toUTF8 ++ ⟨#[0xED, 0xA0, 0x80]⟩).data.toList .surrogate := by
    refine ⟨_, "Println(\"a\")".toList, [0xED, 0xA0, 0x80] ++ [], ?_,
      encoded_iff_eq_flatMap.2 rfl, .surrogate hrow (by decide) (by decide) (by decide)⟩
    rfl
  have hparse : CommandLine.parse ["b.go"] = .ok (.compile (some "b.go") none) := by decide
  let files := Files.ofLists [] [("a.go", "\uFEFFPrintln(\"a\")\r".toUTF8),
    ("b.go", "Println(\"a\")".toUTF8 ++ ⟨#[0xED, 0xA0, 0x80]⟩)]
  have hwhole : files.Stores "a.go" "\uFEFFPrintln(\"a\")\r".toUTF8 := ⟨by decide, rfl⟩
  have hbroken : files.Stores "b.go" ("Println(\"a\")".toUTF8 ++ ⟨#[0xED, 0xA0, 0x80]⟩) :=
    ⟨by decide, rfl⟩
  obtain ⟨hread, -⟩ := readSource_and_run_of_stores (s := ⟨files.read, none, none⟩) rfl hwhole
  obtain ⟨-, -, -, hruns⟩ :=
    readSource_and_run_of_stores (s := ⟨files.read, none, none⟩) rfl hbroken
  obtain ⟨-, houtput, hmessages⟩ := (hruns _ hparse).2 _ hdefective
  exact ⟨files, hwhole, (hread _).2 (eq_toUTF8_iff_encoded.1 rfl), hbroken, hdefective, hparse,
    houtput, hmessages rfl⟩

end Printout
