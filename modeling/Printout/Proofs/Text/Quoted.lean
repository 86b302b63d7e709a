import Printout.Text.Quoted
import Printout.Text.Terminal

/-!
# Quoted texts

Whatever a text holds, between double quotes it has become a row of characters that are shown on a
terminal (`isShown_of_mem_quote`): what cannot be seen is escaped, and escapes are made of letters,
digits and braces. So nothing is lost of it where terminal control is left out.

Nor is anything lost by the quoting. Each character can be told from the front of what follows it
(`quotedChar_append_inj`), so no two texts are quoted alike (`quote_injective`).
-/

set_option autoImplicit false

namespace Printout.Text

open Terminal

variable {c d : Char} {rest rest' : List Char}

/-! ## Escapes -/

/-- The characters of `Nat.toDigits 16 n` are the signs of hexadecimal digits. -/
theorem exists_digitChar_of_mem_toDigits {n : Nat} (h : c ∈ Nat.toDigits 16 n) :
    ∃ digit < 16, c = Nat.digitChar digit := by
  induction n using Nat.strongRecOn with
  | _ n ih =>
    rcases Nat.lt_or_ge n 16 with hlt | hge
    · rw [Nat.toDigits_of_lt_base hlt, List.mem_singleton] at h
      exact ⟨n, hlt, h⟩
    · rw [Nat.toDigits_of_base_le (by decide) hge, List.mem_append, List.mem_singleton] at h
      rcases h with h | rfl
      · exact ih _ (Nat.div_lt_self (by omega) (by decide)) h
      · exact ⟨n % 16, Nat.mod_lt _ (by decide), rfl⟩

theorem isShown_digitChar : ∀ n < 16, isShown (Nat.digitChar n) = true := by
  decide

theorem digitChar_ne_brace : ∀ n < 16, Nat.digitChar n ≠ '\x7d' := by
  decide

theorem digitChar_inj : ∀ m < 16, ∀ n < 16, Nat.digitChar m = Nat.digitChar n → m = n := by
  decide

/-- Hexadecimal digits are shown. -/
theorem isShown_of_mem_toDigits {n : Nat} (h : c ∈ Nat.toDigits 16 n) : isShown c = true := by
  obtain ⟨digit, hdigit, rfl⟩ := exists_digitChar_of_mem_toDigits h
  exact isShown_digitChar digit hdigit

theorem brace_notMem_toDigits (n : Nat) : '\x7d' ∉ Nat.toDigits 16 n := by
  intro h
  obtain ⟨digit, hdigit, hbrace⟩ := exists_digitChar_of_mem_toDigits h
  exact digitChar_ne_brace digit hdigit hbrace.symm

/-- A numeral of one digit is none of more digits. -/
theorem toDigits_ne_of_lt_of_le {m n : Nat} (hm : m < 16) (hn : 16 ≤ n) :
    Nat.toDigits 16 m ≠ Nat.toDigits 16 n := by
  intro h
  rw [Nat.toDigits_of_lt_base hm, Nat.toDigits_of_base_le (by decide) hn] at h
  have hlength := congrArg List.length h
  simp at hlength

/-- No two numbers have the same hexadecimal digits. -/
theorem toDigits_inj {m n : Nat} (h : Nat.toDigits 16 m = Nat.toDigits 16 n) : m = n := by
  induction m using Nat.strongRecOn generalizing n with
  | _ m ih =>
    rcases Nat.lt_or_ge m 16 with hm | hm <;> rcases Nat.lt_or_ge n 16 with hn | hn
    · rw [Nat.toDigits_of_lt_base hm, Nat.toDigits_of_lt_base hn, List.singleton_inj] at h
      exact digitChar_inj m hm n hn h
    · exact absurd h (toDigits_ne_of_lt_of_le hm hn)
    · exact absurd h.symm (toDigits_ne_of_lt_of_le hn hm)
    · rw [Nat.toDigits_of_base_le (by decide) hm, Nat.toDigits_of_base_le (by decide) hn] at h
      obtain ⟨hfront, hlast⟩ := List.append_inj' h rfl
      have hquotient := ih (m / 16) (Nat.div_lt_self (by omega) (by decide)) hfront
      have hremainder := digitChar_inj (m % 16) (Nat.mod_lt _ (by decide)) (n % 16)
        (Nat.mod_lt _ (by decide)) (List.singleton_inj.1 hlast)
      omega

theorem isShown_of_mem_codePointEscape (h : c ∈ codePointEscape d) : isShown c = true := by
  have hopening : ['\\', 'u', '\x7b'].all isShown = true := by decide
  simp only [codePointEscape, List.mem_append] at h
  rcases h with (h | h) | h
  · exact List.all_eq_true.1 hopening c h
  · exact isShown_of_mem_toDigits h
  · rw [List.mem_singleton.1 h]
    rfl

/-- Rows without `a` that are each followed by `a` end at the same place. -/
theorem append_cons_inj {α : Type} {a : α} {front front' back back' : List α} (hfront : a ∉ front)
    (hfront' : a ∉ front') (h : front ++ a :: back = front' ++ a :: back') :
    front = front' ∧ back = back' := by
  induction front generalizing front' with
  | nil =>
    cases front' with
    | nil => exact ⟨rfl, (List.cons.inj h).2⟩
    | cons b front' => exact absurd ((List.cons.inj h).1 ▸ List.mem_cons_self) hfront'
  | cons b front ih =>
    cases front' with
    | nil => exact absurd ((List.cons.inj h).1 ▸ List.mem_cons_self) hfront
    | cons b' front' =>
      obtain ⟨rfl, htail⟩ := List.cons.inj h
      obtain ⟨rfl, hback⟩ := ih (List.not_mem_of_not_mem_cons hfront)
        (List.not_mem_of_not_mem_cons hfront') htail
      exact ⟨rfl, hback⟩

/-- An escape by a code point ends with the brace, and says which character it is. -/
theorem codePointEscape_append_inj
    (h : codePointEscape c ++ rest = codePointEscape d ++ rest') : c = d ∧ rest = rest' := by
  have hdigits : Nat.toDigits 16 c.toNat ++ '\x7d' :: rest =
      Nat.toDigits 16 d.toNat ++ '\x7d' :: rest' := by
    simpa [codePointEscape] using h
  obtain ⟨hnumeral, hrest⟩ :=
    append_cons_inj (brace_notMem_toDigits c.toNat) (brace_notMem_toDigits d.toNat) hdigits
  exact ⟨Char.toNat_inj.1 (toDigits_inj hnumeral), hrest⟩

/-! ## Visible characters -/

theorem not_between_of_inRanges {ranges : List (Nat × Nat)} (h : inRanges ranges c = false)
    {low high : Nat} (hrange : (low, high) ∈ ranges) : ¬ (low ≤ c.toNat ∧ c.toNat ≤ high) := by
  simpa using List.any_eq_false.1 h _ hrange

/-- A character of which `isVisible` holds is no control. -/
theorem isShown_of_isVisible (h : isVisible c = true) : isShown c = true := by
  have hhidden : isHidden c = false := by
    simp only [isVisible, Bool.and_eq_true, Bool.not_eq_true'] at h
    exact h.1.1
  have hcontrol : ¬ (0x00 ≤ c.toNat ∧ c.toNat ≤ 0x1F) :=
    not_between_of_inRanges hhidden List.mem_cons_self
  have hdelete : ¬ (0x7F ≤ c.toNat ∧ c.toNat ≤ 0xA0) :=
    not_between_of_inRanges hhidden (List.mem_cons_of_mem _ List.mem_cons_self)
  have hspace : ' ' ≤ c := by
    rw [Char.le_def, UInt32.le_iff_toNat_le]
    change 32 ≤ c.toNat
    omega
  have hne : c ≠ '\x7f' := by
    rintro rfl
    exact hdelete (by decide)
  simp [isShown, hspace, hne]

/-! ## Quoted characters -/

/-- The characters with an escape of their own, each with the letter that stands behind the
backslash. -/
def letters : List (Char × Char) :=
  [('\x00', '0'), ('\t', 't'), ('\r', 'r'), ('\n', 'n'), ('"', '"'), ('\\', '\\')]

/-- A character is quoted by a letter behind a backslash, by itself, or by its code point. -/
theorem quotedChar_cases (d : Char) :
    (∃ letter, (d, letter) ∈ letters ∧ quotedChar d = ['\\', letter]) ∨
      (d ≠ '\\' ∧ isVisible d = true ∧ quotedChar d = [d]) ∨
      quotedChar d = codePointEscape d := by
  rw [quotedChar]
  iterate 6
    split
    · next heq =>
      subst heq
      exact Or.inl ⟨_, by decide, rfl⟩
  split
  · next hbackslash hvisible => exact Or.inr (Or.inl ⟨hbackslash, hvisible, rfl⟩)
  · exact Or.inr (Or.inr rfl)

theorem isShown_of_mem_quotedChar (h : c ∈ quotedChar d) : isShown c = true := by
  rcases quotedChar_cases d with ⟨letter, hletter, hquoted⟩ | ⟨-, hvisible, hquoted⟩ | hquoted
  · have hshown : letters.all (fun pair => isShown pair.2) = true := by decide
    rw [hquoted, List.mem_cons, List.mem_singleton] at h
    rcases h with rfl | rfl
    · rfl
    · exact List.all_eq_true.1 hshown _ hletter
  · rw [hquoted, List.mem_singleton] at h
    rw [h]
    exact isShown_of_isVisible hvisible
  · exact isShown_of_mem_codePointEscape (hquoted ▸ h)

/-- A letter behind a backslash says which character it stands for. -/
theorem eq_of_mem_letters {letter : Char} (h : (c, letter) ∈ letters)
    (h' : (d, letter) ∈ letters) : c = d := by
  have hletters : ∀ pair ∈ letters, ∀ pair' ∈ letters, pair.2 = pair'.2 → pair.1 = pair'.1 := by
    decide
  exact hletters _ h _ h' rfl

theorem ne_u_of_mem_letters {letter : Char} (h : (c, letter) ∈ letters) : letter ≠ 'u' := by
  have hletters : ∀ pair ∈ letters, pair.2 ≠ 'u' := by decide
  exact hletters _ h

/-- Whatever follows, a quoted character can be told from the front of the row. -/
theorem quotedChar_append_inj (h : quotedChar c ++ rest = quotedChar d ++ rest') :
    c = d ∧ rest = rest' := by
  rcases quotedChar_cases c with ⟨letter, hletter, hc⟩ | ⟨hbackslash, -, hc⟩ | hc <;>
    rcases quotedChar_cases d with ⟨letter', hletter', hd⟩ | ⟨hbackslash', -, hd⟩ | hd <;>
      rw [hc, hd] at h
  · obtain ⟨-, htail⟩ := List.cons.inj h
    obtain ⟨rfl, hrest⟩ := List.cons.inj htail
    exact ⟨eq_of_mem_letters hletter hletter', hrest⟩
  · exact absurd (List.cons.inj h).1.symm hbackslash'
  · exact absurd (List.cons.inj (List.cons.inj h).2).1 (ne_u_of_mem_letters hletter)
  · exact absurd (List.cons.inj h).1 hbackslash
  · exact List.cons.inj h
  · exact absurd (List.cons.inj h).1 hbackslash
  · exact absurd (List.cons.inj (List.cons.inj h).2).1.symm (ne_u_of_mem_letters hletter')
  · exact absurd (List.cons.inj h).1.symm hbackslash'
  · exact codePointEscape_append_inj h

theorem quotedChar_ne_nil (c : Char) : quotedChar c ≠ [] := by
  rcases quotedChar_cases c with ⟨letter, -, hc⟩ | ⟨-, -, hc⟩ | hc <;> rw [hc]
  · simp
  · simp
  · simp [codePointEscape]

/-! ## Quoted texts -/

/-- A text is shown by `quote` from its first character to its last. -/
theorem isShown_of_mem_quote {text : String} (h : c ∈ (quote text).toList) : isShown c = true := by
  have hmem : (∃ d ∈ text.toList, c ∈ quotedChar d) ∨ c = '"' := by
    simpa [quote, or_left_comm, or_comm] using h
  rcases hmem with ⟨d, -, hd⟩ | rfl
  · exact isShown_of_mem_quotedChar hd
  · rfl

theorem flatMap_quotedChar_inj {text text' : List Char}
    (h : text.flatMap quotedChar = text'.flatMap quotedChar) : text = text' := by
  induction text generalizing text' with
  | nil =>
    cases text' with
    | nil => rfl
    | cons d text' => simp [quotedChar_ne_nil] at h
  | cons c text ih =>
    cases text' with
    | nil => simp [quotedChar_ne_nil] at h
    | cons d text' =>
      obtain ⟨rfl, hrest⟩ := quotedChar_append_inj h
      rw [ih hrest]

/-- By `quote`, no two texts are quoted alike. -/
theorem quote_injective {text text' : String} (h : quote text = quote text') : text = text' := by
  have hquoted : text.toList.flatMap quotedChar = text'.toList.flatMap quotedChar := by
    have hlist := congrArg String.toList h
    simpa [quote] using hlist
  exact String.toList_inj.1 (flatMap_quotedChar_inj hquoted)

end Printout.Text
