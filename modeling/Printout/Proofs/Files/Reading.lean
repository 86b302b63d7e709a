import Printout.Files

/-!
# What a file holds

A path can be read exactly if a file stands at its end whose bytes are a text in UTF-8, and what is
read is that text (`read_eq_ok_iff`): no byte is left out, added or replaced.
-/

set_option autoImplicit false

namespace Printout.Files

variable {files : Files} {path text : String} {content : ByteArray}

/-- The bytes of the file that `path` leads to are `text` in UTF-8. -/
def Holds (files : Files) (path text : String) : Prop :=
  '\x00' ∉ path.toList ∧ files.find path = .ok (.file text.toUTF8)

/-- By `textOf`, bytes are read as a text exactly if they are the UTF-8 of it. -/
theorem textOf_eq_ok_iff : textOf content = .ok text ↔ content = text.toUTF8 := by
  constructor
  · intro h
    rw [textOf] at h
    split at h
    · next decoded hdecoded =>
      cases h
      rw [String.fromUTF8?] at hdecoded
      split at hdecoded
      · cases hdecoded
        rfl
      · simp at hdecoded
    · simp at h
  · rintro rfl
    have hvalid : String.fromUTF8? text.toUTF8 = some text := by
      rw [String.fromUTF8?, String.toUTF8_eq_toByteArray, dif_pos text.isValidUTF8]
      rfl
    rw [textOf, hvalid]

/-- By `Files.read`, a text is read from `path` exactly if a file holds it there. -/
theorem read_eq_ok_iff : files.read path = .ok text ↔ files.Holds path text := by
  rw [read, Holds]
  by_cases hnul : '\x00' ∈ path.toList
  · simp [hnul]
  · rw [if_neg hnul]
    cases hfind : files.find path with
    | error e => simp
    | ok entry =>
      cases entry with
      | directory => simp
      | file content => simp [textOf_eq_ok_iff, hnul]

end Printout.Files
