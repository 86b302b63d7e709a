import Mathlib.Algebra.Group.Nat.Defs
import Mathlib.Data.List.TakeWhile

/-!
# Bytes of a text

Which bytes a text has in UTF-8, said without a decoder. Bytes come in rows: a lead, which tells how
many bytes continue it, and these. The bits that the bytes of a row carry spell a number. A
character is written by the shortest row that spells its code point, and a text by the rows of its
characters. Core's encoder writes just these bytes (`encoded_iff_eq_flatMap`).

Bytes that no text has break off somewhere: behind the rows of some characters, maybe none, a row is
missing, is cut short, is longer than it has to be, or spells a number that no character has. There
is no other way in which bytes fail to be a text (`not_exists_encoded_iff`).
-/

set_option autoImplicit false

namespace Printout.Text

variable {bytes front row row' rest rest' : List UInt8} {b b' : UInt8} {c : Char}
  {chars chars' : List Char} {count count' least least' bits bits' n n' : Nat}

/-! ## Rows -/

/-- The byte `b` continues a row. It carries six bits. -/
def Continues (b : UInt8) : Prop := 0x80 ≤ b.toNat ∧ b.toNat < 0xC0

instance : DecidablePred Continues := fun b =>
  inferInstanceAs (Decidable (0x80 ≤ b.toNat ∧ b.toNat < 0xC0))

/-- A byte that leads a row: how many bytes continue it, the least number that takes so many, and
the bits that the byte itself carries. -/
inductive Lead : UInt8 → Nat → Nat → Nat → Prop where
  | one {b : UInt8} {bits : Nat} : b.toNat = bits → bits < 0x80 → Lead b 0 0 bits
  | two {b : UInt8} {bits : Nat} : b.toNat = 0xC0 + bits → bits < 0x20 → Lead b 1 0x80 bits
  | three {b : UInt8} {bits : Nat} : b.toNat = 0xE0 + bits → bits < 0x10 → Lead b 2 0x800 bits
  | four {b : UInt8} {bits : Nat} : b.toNat = 0xF0 + bits → bits < 0x08 → Lead b 3 0x10000 bits

/-- The number that `bits` spell with those of the continuing bytes `tail` behind them. -/
def spell (bits : Nat) (tail : List UInt8) : Nat :=
  tail.foldl (fun n b => n * 0x40 + (b.toNat - 0x80)) bits

/-- A whole row, the least number that takes a row of its length, and the number it spells. -/
inductive Row : List UInt8 → Nat → Nat → Prop where
  | mk {lead : UInt8} {tail : List UInt8} {least bits n : Nat} : Lead lead tail.length least bits →
      (∀ b ∈ tail, Continues b) → spell bits tail = n → Row (lead :: tail) least n

/-- The row spells the code point of `c`, and no shorter row does. -/
def Encodes (row : List UInt8) (c : Char) : Prop := ∃ least, Row row least c.toNat ∧ least ≤ c.toNat

/-- The bytes of a text: the rows that `Encodes` gives its characters, in order. -/
inductive Encoded : List UInt8 → List Char → Prop where
  | nil : Encoded [] []
  | cons {row bytes : List UInt8} {c : Char} {chars : List Char} : Encodes row c →
      Encoded bytes chars → Encoded (row ++ bytes) (c :: chars)

/-! ## Rows are told apart -/

/-- A byte leads rows of one kind only. -/
theorem Lead.unique (h : Lead b count least bits) (h' : Lead b count' least' bits') :
    count = count' ∧ least = least' ∧ bits = bits' := by
  cases h <;> cases h' <;> omega

/-- At the front of bytes there is one row at most. -/
theorem Row.unique (h : Row row least n) (h' : Row row' least' n')
    (heq : row ++ rest = row' ++ rest') : row = row' ∧ rest = rest' ∧ least = least' ∧ n = n' := by
  obtain ⟨hlead, -, rfl⟩ := h
  obtain ⟨hlead', -, rfl⟩ := h'
  obtain ⟨rfl, htails⟩ := List.cons.inj heq
  obtain ⟨hlength, rfl, rfl⟩ := hlead.unique hlead'
  obtain ⟨rfl, rfl⟩ := List.append_inj htails hlength
  exact ⟨rfl, rfl, rfl, rfl⟩

@[simp] theorem spell_nil (bits : Nat) : spell bits [] = bits := rfl

@[simp] theorem spell_cons (bits : Nat) (b : UInt8) (tail : List UInt8) :
    spell bits (b :: tail) = spell (bits * 0x40 + (b.toNat - 0x80)) tail := by
  simp only [spell, List.foldl_cons]

/-- Bits and continuing bytes are told from the number that they spell. -/
theorem spell_inj {tail tail' : List UInt8} (htail : ∀ b ∈ tail, Continues b)
    (htail' : ∀ b ∈ tail', Continues b) (hlength : tail.length = tail'.length)
    (h : spell bits tail = spell bits' tail') : bits = bits' ∧ tail = tail' := by
  induction tail generalizing bits bits' tail' with
  | nil =>
    obtain rfl := List.length_eq_zero_iff.1 hlength.symm
    exact ⟨h, rfl⟩
  | cons b tail ih =>
    cases tail' with
    | nil => cases hlength
    | cons b' tail' =>
      obtain ⟨⟨hlow, hhigh⟩, htail⟩ := List.forall_mem_cons.1 htail
      obtain ⟨⟨hlow', hhigh'⟩, htail'⟩ := List.forall_mem_cons.1 htail'
      rw [spell_cons, spell_cons] at h
      obtain ⟨hnumber, rfl⟩ := ih htail htail' (Nat.succ.inj hlength) h
      have hb : b = b' := UInt8.toNat_inj.1 (by omega)
      exact ⟨by omega, by rw [hb]⟩

/-- Each continuing byte adds six bits. -/
theorem spell_lt {tail : List UInt8} (htail : ∀ b ∈ tail, Continues b) :
    spell bits tail < (bits + 1) * 0x40 ^ tail.length := by
  induction tail generalizing bits with
  | nil => simp
  | cons b tail ih =>
    obtain ⟨⟨hlow, hhigh⟩, htail⟩ := List.forall_mem_cons.1 htail
    have hbits : bits * 0x40 + (b.toNat - 0x80) + 1 ≤ (bits + 1) * 0x40 := by omega
    rw [spell_cons, List.length_cons, Nat.pow_succ', ← Nat.mul_assoc]
    exact Nat.lt_of_lt_of_le (ih htail) (Nat.mul_le_mul_right _ hbits)

/-- What fits into a row of `count` more bytes does not take a longer one. -/
theorem Lead.le_least (h : Lead b count least bits) (h' : Lead b' count' least' bits')
    (hlt : count < count') : (bits + 1) * 0x40 ^ count ≤ least' := by
  cases h <;> cases h' <;> omega

theorem Lead.eq_of_bits (h : Lead b count least bits) (h' : Lead b' count least' bits) :
    b = b' := by
  refine UInt8.toNat_inj.1 ?_
  cases h <;> cases h' <;> omega

/-- A number that takes a row of one length is spelled by no shorter row. -/
theorem Row.length_le (h : Row row least n) (h' : Row row' least' n) (hleast' : least' ≤ n) :
    row'.length ≤ row.length := by
  obtain @⟨_, tail, _, bits, _, hlead, htail, rfl⟩ := h
  obtain @⟨_, tail', _, bits', _, hlead', -, -⟩ := h'
  by_contra hlonger
  have hlt : tail.length < tail'.length := by simpa using hlonger
  have hbound : spell bits tail < least' :=
    Nat.lt_of_lt_of_le (spell_lt htail) (hlead.le_least hlead' hlt)
  exact Nat.not_lt_of_le hleast' hbound

/-- A character has one row only. -/
theorem Encodes.unique (h : Encodes row c) (h' : Encodes row' c) : row = row' := by
  obtain ⟨least, hrow, hleast⟩ := h
  obtain ⟨least', hrow', hleast'⟩ := h'
  have hlength : row.length = row'.length :=
    Nat.le_antisymm (hrow'.length_le hrow hleast) (hrow.length_le hrow' hleast')
  obtain ⟨hlead, htail, hspell⟩ := hrow
  obtain ⟨hlead', htail', hspell'⟩ := hrow'
  obtain ⟨rfl, rfl⟩ :=
    spell_inj htail htail' (Nat.succ.inj hlength) (hspell.trans hspell'.symm)
  rw [hlead.eq_of_bits hlead']

/-! ## Core's encoder -/

theorem toNat_ofNat_of_lt (h : n < 0x100) : (UInt8.ofNat n).toNat = n := by
  simpa using h

theorem toNat_continuing (n : Nat) : (UInt8.ofNat (n % 0x40 + 0x80)).toNat = n % 0x40 + 0x80 :=
  toNat_ofNat_of_lt (by omega)

theorem continues_continuing (n : Nat) : Continues (UInt8.ofNat (n % 0x40 + 0x80)) := by
  rw [Continues, toNat_continuing]
  omega

/-- By `String.utf8EncodeChar`, core writes a character as its row. -/
theorem encodes_utf8EncodeChar (c : Char) : Encodes (String.utf8EncodeChar c) c := by
  have hval : c.val.toNat = c.toNat := rfl
  have hvalid : c.toNat < 0xD800 ∨ 0xDFFF < c.toNat ∧ c.toNat < 0x110000 := c.valid
  simp only [String.utf8EncodeChar, hval]
  split
  · have hlead := toNat_ofNat_of_lt (n := c.toNat) (by omega)
    refine ⟨0, .mk (.one hlead (by omega)) (by simp) ?_, by omega⟩
    simp
  split
  · have hlead := toNat_ofNat_of_lt (n := c.toNat / 64 % 0x20 + 0xC0) (by omega)
    refine ⟨0x80, .mk (.two (hlead.trans (Nat.add_comm _ _)) (by omega)) ?_ ?_, by omega⟩
    · simp only [List.forall_mem_cons, continues_continuing]
      simp
    · simp only [spell_cons, spell_nil, toNat_continuing]
      omega
  split
  · have hlead := toNat_ofNat_of_lt (n := c.toNat / 4096 % 0x10 + 0xE0) (by omega)
    refine ⟨0x800, .mk (.three (hlead.trans (Nat.add_comm _ _)) (by omega)) ?_ ?_, by omega⟩
    · simp only [List.forall_mem_cons, continues_continuing]
      simp
    · simp only [spell_cons, spell_nil, toNat_continuing]
      omega
  · have hlead := toNat_ofNat_of_lt (n := c.toNat / 262144 % 0x08 + 0xF0) (by omega)
    refine ⟨0x10000, .mk (.four (hlead.trans (Nat.add_comm _ _)) (by omega)) ?_ ?_, by omega⟩
    · simp only [List.forall_mem_cons, continues_continuing]
      simp
    · simp only [spell_cons, spell_nil, toNat_continuing]
      omega

/-- The bytes of a text are those that core writes for it. -/
theorem encoded_iff_eq_flatMap :
    Encoded bytes chars ↔ bytes = chars.flatMap String.utf8EncodeChar := by
  constructor
  · intro h
    induction h with
    | nil => rfl
    | cons hrow _ ih => rw [List.flatMap_cons, ← ih, hrow.unique (encodes_utf8EncodeChar _)]
  · rintro rfl
    induction chars with
    | nil => exact .nil
    | cons c chars ih => exact .cons (encodes_utf8EncodeChar c) ih

/-- A byte array holds a text exactly if its bytes are those of the text. -/
theorem eq_toUTF8_iff_encoded {content : ByteArray} {text : String} :
    content = text.toUTF8 ↔ Encoded content.data.toList text.toList := by
  rw [encoded_iff_eq_flatMap, String.toUTF8_eq_toByteArray, ← String.utf8Encode_toList,
    List.utf8Encode]
  constructor
  · rintro rfl
    exact List.toList_data_toByteArray
  · intro h
    rw [← h]
    exact ByteArray.ext (by simp)

/-! ## Bytes that are of no text -/

/-- The ways in which bytes may fail to go on as those of a text, each told by `Breaks`. -/
inductive Defect where
  /-- A byte that continues a row where a lead is due. -/
  | stray
  /-- A row that is longer than its number takes. -/
  | overlong
  /-- A row that spells a surrogate. -/
  | surrogate
  /-- A row that spells a number beyond the last code point, or a byte that would lead such rows
  only. -/
  | outOfRange
  /-- A row that ends before all its bytes have come. -/
  | truncated
deriving Repr, DecidableEq

/-- Bytes that begin with a defect. What stands behind it does not count. -/
inductive Breaks : List UInt8 → Defect → Prop where
  | stray {b : UInt8} {rest : List UInt8} : Continues b → Breaks (b :: rest) .stray
  | overlong {row rest : List UInt8} {least n : Nat} : Row row least n → n < least →
      Breaks (row ++ rest) .overlong
  | surrogate {row rest : List UInt8} {least n : Nat} : Row row least n → least ≤ n →
      0xD800 ≤ n → n ≤ 0xDFFF → Breaks (row ++ rest) .surrogate
  | beyond {row rest : List UInt8} {least n : Nat} : Row row least n → 0x10FFFF < n →
      Breaks (row ++ rest) .outOfRange
  | noLead {b : UInt8} {rest : List UInt8} : 0xF8 ≤ b.toNat → Breaks (b :: rest) .outOfRange
  | truncated {lead : UInt8} {tail rest : List UInt8} {count least bits : Nat} :
      Lead lead count least bits → (∀ b ∈ tail, Continues b) → tail.length < count →
      (∀ b ∈ rest.head?, ¬ Continues b) → Breaks (lead :: (tail ++ rest)) .truncated

/-- Bytes that have `defect` behind the rows of some characters. -/
def Defective (bytes : List UInt8) (defect : Defect) : Prop :=
  ∃ front chars rest, bytes = front ++ rest ∧ Encoded front chars ∧ Breaks rest defect

/-- A byte leads rows, continues them or has no place in them. -/
theorem lead_or_continues (b : UInt8) :
    (∃ count least bits, Lead b count least bits) ∨ Continues b ∨ 0xF8 ≤ b.toNat := by
  rw [Continues]
  by_cases hone : b.toNat < 0x80
  · exact .inl ⟨_, _, _, .one rfl hone⟩
  by_cases hcontinues : b.toNat < 0xC0
  · exact .inr (.inl ⟨by omega, hcontinues⟩)
  by_cases htwo : b.toNat < 0xE0
  · exact .inl ⟨1, 0x80, b.toNat - 0xC0, .two (by omega) (by omega)⟩
  by_cases hthree : b.toNat < 0xF0
  · exact .inl ⟨2, 0x800, b.toNat - 0xE0, .three (by omega) (by omega)⟩
  by_cases hfour : b.toNat < 0xF8
  · exact .inl ⟨3, 0x10000, b.toNat - 0xF0, .four (by omega) (by omega)⟩
  · exact .inr (.inr (by omega))

/-- Behind a lead its row is whole, or it is cut short. -/
theorem Lead.exists_row_or_breaks (hlead : Lead b count least bits) (rest : List UInt8) :
    (∃ row n rest', b :: rest = row ++ rest' ∧ Row row least n) ∨
      Breaks (b :: rest) .truncated := by
  let run := rest.takeWhile (Continues ·)
  have hrun : ∀ b ∈ run, Continues b := fun b hb => by simpa using List.mem_takeWhile_imp hb
  have hrest : rest = run ++ rest.dropWhile (Continues ·) :=
    List.takeWhile_append_dropWhile.symm
  by_cases hcount : count ≤ run.length
  · left
    have hlength : (run.take count).length = count := List.length_take_of_le hcount
    refine ⟨b :: run.take count, _, run.drop count ++ rest.dropWhile (Continues ·), ?_,
      .mk (hlength.symm ▸ hlead) (fun b hb => hrun b (List.mem_of_mem_take hb)) rfl⟩
    rw [List.cons_append, ← List.append_assoc, List.take_append_drop, ← hrest]
  · right
    rw [hrest]
    refine .truncated hlead hrun (by omega) ?_
    intro b hb
    have hhead := List.head?_dropWhile_not (Continues ·) rest
    rw [Option.mem_def] at hb
    simpa [hb] using hhead

/-- A row is that of a character, or it is a defect. -/
theorem Row.encodes_or_breaks (h : Row row least n) (rest : List UInt8) :
    (∃ c, Encodes row c) ∨ ∃ defect, Breaks (row ++ rest) defect := by
  by_cases hleast : least ≤ n
  · by_cases hvalid : n.isValidChar
    · obtain ⟨c, rfl⟩ : ∃ c : Char, c.toNat = n := ⟨Char.ofNatAux n hvalid, rfl⟩
      exact .inl ⟨c, least, h, hleast⟩
    · rw [Nat.isValidChar] at hvalid
      by_cases hbeyond : 0x10FFFF < n
      · exact .inr ⟨_, .beyond h hbeyond⟩
      · exact .inr ⟨_, .surrogate h hleast (by omega) (by omega)⟩
  · exact .inr ⟨_, .overlong h (by omega)⟩

/-- Where there are bytes, the row of a character stands at their front, or a defect. -/
theorem exists_encodes_or_breaks (hne : bytes ≠ []) :
    (∃ row c rest, bytes = row ++ rest ∧ Encodes row c) ∨ ∃ defect, Breaks bytes defect := by
  obtain ⟨b, rest, rfl⟩ := List.exists_cons_of_ne_nil hne
  rcases lead_or_continues b with ⟨count, least, bits, hlead⟩ | hstray | hnoLead
  · rcases hlead.exists_row_or_breaks rest with ⟨row, n, rest', heq, hrow⟩ | hbreaks
    · rw [heq]
      rcases hrow.encodes_or_breaks rest' with ⟨c, hc⟩ | hbreaks
      · exact .inl ⟨row, c, rest', rfl, hc⟩
      · exact .inr hbreaks
    · exact .inr ⟨_, hbreaks⟩
  · exact .inr ⟨_, .stray hstray⟩
  · exact .inr ⟨_, .noLead hnoLead⟩

theorem Encodes.ne_nil (h : Encodes row c) : row ≠ [] := by
  obtain ⟨_, ⟨⟩, -⟩ := h
  exact List.cons_ne_nil _ _

/-- Bytes are those of a text, or they have a defect. -/
theorem exists_encoded_or_defective (bytes : List UInt8) :
    (∃ chars, Encoded bytes chars) ∨ ∃ defect, Defective bytes defect := by
  -- Each row at the front makes the bytes fewer.
  induction hlength : bytes.length using Nat.strong_induction_on generalizing bytes with
  | _ length ih =>
    by_cases hne : bytes = []
    · exact .inl ⟨[], hne ▸ .nil⟩
    · rcases exists_encodes_or_breaks hne with ⟨row, c, rest, rfl, hc⟩ | ⟨defect, hbreaks⟩
      · have hrow := List.length_pos_iff.2 hc.ne_nil
        have hshorter : rest.length < length := by
          rw [List.length_append] at hlength
          omega
        rcases ih _ hshorter rest rfl with
          ⟨chars, hchars⟩ | ⟨defect, front, chars, rest', rfl, hfront, hbreaks⟩
        · exact .inl ⟨_, .cons hc hchars⟩
        · exact .inr ⟨defect, _, _, rest', (List.append_assoc _ _ _).symm, .cons hc hfront, hbreaks⟩
      · exact .inr ⟨defect, [], [], bytes, rfl, .nil, hbreaks⟩

/-- Bytes that are `Encoded` are those of the first character and those of the others. -/
theorem Encoded.exists_cons (h : Encoded bytes chars) (hne : bytes ≠ []) :
    ∃ row c rest chars', bytes = row ++ rest ∧ Encodes row c ∧ Encoded rest chars' := by
  cases h with
  | nil => exact absurd rfl hne
  | cons hrow hrest => exact ⟨_, _, _, _, rfl, hrow, hrest⟩

/-- Behind the rows of some characters stand the rows of the others. -/
theorem Encoded.of_append (hfront : Encoded front chars) (h : Encoded (front ++ rest) chars') :
    ∃ more, Encoded rest more := by
  induction hfront generalizing chars' with
  | nil => exact ⟨chars', h⟩
  | @cons row bytes c chars hrow _ ih =>
    rw [List.append_assoc] at h
    obtain ⟨row', c', rest', more, heq, ⟨least', hrow', -⟩, hmore⟩ :=
      h.exists_cons (List.append_ne_nil_of_left_ne_nil hrow.ne_nil _)
    obtain ⟨least, hrow, -⟩ := hrow
    obtain ⟨-, rfl, -⟩ := hrow.unique hrow' heq
    exact ih hmore

theorem Lead.not_continues (h : Lead b count least bits) : ¬ Continues b ∧ b.toNat < 0xF8 := by
  rw [Continues]
  cases h <;> omega

/-- A row that is cut short is not whole. -/
theorem Lead.not_row_of_truncated {tail : List UInt8} (hlead : Lead b count least bits)
    (hshort : tail.length < count) (hrest : ∀ b ∈ rest.head?, ¬ Continues b)
    (heq : row ++ rest' = b :: (tail ++ rest)) : ¬ Row row least' n := by
  rintro @⟨_, tail', _, _, _, hlead', htail', -⟩
  obtain ⟨rfl, htails⟩ := List.cons.inj heq
  obtain ⟨rfl, -⟩ := hlead.unique hlead'
  rcases List.append_eq_append_iff.1 htails with ⟨more, rfl, -⟩ | ⟨more, rfl, rfl⟩
  · rw [List.length_append] at hshort
    omega
  · cases more with
    | nil => simp at hshort
    | cons b more => exact hrest b rfl (htail' b (by simp))

/-- Bytes of which `Breaks` holds do not begin with the row of a character. -/
theorem Breaks.not_encodes {defect : Defect} (h : Breaks bytes defect) (heq : row ++ rest = bytes) :
    ¬ Encodes row c := by
  rintro ⟨least, hrow, hleast⟩
  have hvalid : c.toNat < 0xD800 ∨ 0xDFFF < c.toNat ∧ c.toNat < 0x110000 := c.valid
  cases h with
  | stray hcontinues =>
    obtain ⟨hlead, -, -⟩ := hrow
    obtain ⟨rfl, -⟩ := List.cons.inj heq
    exact hlead.not_continues.1 hcontinues
  | overlong hrow' hlt =>
    obtain ⟨-, -, rfl, rfl⟩ := hrow.unique hrow' heq
    omega
  | surrogate hrow' _ hlow hhigh =>
    obtain ⟨-, -, -, rfl⟩ := hrow.unique hrow' heq
    omega
  | beyond hrow' hbeyond =>
    obtain ⟨-, -, -, rfl⟩ := hrow.unique hrow' heq
    omega
  | noLead hnoLead =>
    obtain ⟨hlead, -, -⟩ := hrow
    obtain ⟨rfl, -⟩ := List.cons.inj heq
    exact Nat.not_lt_of_le hnoLead hlead.not_continues.2
  | truncated hlead _ hshort hrest => exact hlead.not_row_of_truncated hshort hrest heq hrow

theorem Breaks.ne_nil {defect : Defect} (h : Breaks bytes defect) : bytes ≠ [] := by
  cases h with
  | overlong hrow | surrogate hrow | beyond hrow => obtain ⟨_, _, _⟩ := hrow; simp
  | _ => exact List.cons_ne_nil _ _

/-- Bytes with a defect are those of no text, and all other bytes are those of one. -/
theorem not_exists_encoded_iff :
    (¬ ∃ text : String, Encoded bytes text.toList) ↔ ∃ defect, Defective bytes defect := by
  constructor
  · intro hnone
    rcases exists_encoded_or_defective bytes with ⟨chars, hchars⟩ | hdefective
    · exact absurd ⟨String.ofList chars, by rwa [String.toList_ofList]⟩ hnone
    · exact hdefective
  · rintro ⟨defect, front, chars, rest, rfl, hfront, hbreaks⟩ ⟨text, htext⟩
    obtain ⟨more, hmore⟩ := hfront.of_append htext
    obtain ⟨row, c, rest', _, heq, hrow, -⟩ := hmore.exists_cons hbreaks.ne_nil
    exact hbreaks.not_encodes heq.symm hrow

end Printout.Text
