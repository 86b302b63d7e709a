import Printout.Proofs.Json.Number

/-!
# Values are skipped by their grammar

Values nest without limit, and the machine that skips them keeps the open brackets in a list. What
is left to read in a state is then the rest of the innermost bracket, the rest of the one around it,
and so on (`Finishes`). Every step reads the front of such a text, and by induction on the run what
was skipped is a value (`exists_value_of_skipValue`).

The other way round the induction is on the value, for any brackets around it and any text behind it
(`Skip.run_value_append`): the machine reads the value in some number of steps, and then it stands
behind it with the same brackets open.
-/

set_option autoImplicit false

namespace Printout.Json

variable {text rest label front back more : List Char} {bracket : Bracket} {outer : List Bracket}
  {next : Skip}

/-! ## Keys -/

theorem readColon_eq_ok_iff :
    readColon text = .ok rest ↔ ∃ blanks, Blanks blanks ∧ text = blanks ++ ':' :: rest := by
  have hcolon : skipBlanks text = ':' :: rest ↔ _ := skipBlanks_eq_cons_iff
  rw [show isBlank ':' = false from rfl] at hcolon
  simp only [true_and] at hcolon
  rw [← hcolon, readColon]
  split
  · next hskip => simp [hskip]
  · next after hskip => simp [hskip]
  · next hne => simpa using hne rest

theorem skipKey_eq_ok_iff :
    skipKey text = .ok rest ↔ ∃ label, Label .object label ∧ text = label ++ rest := by
  rw [skipKey]
  constructor
  · intro h
    split at h
    · cases h
    · next after hskip =>
      obtain ⟨-, front, hfront, rfl⟩ := skipBlanks_eq_cons_iff.1 hskip
      obtain ⟨behind, hstring, hcolon⟩ := bind_eq_ok.1 h
      obtain ⟨key, rfl, hkey⟩ := skipString_eq_ok_iff.1 hstring
      obtain ⟨back, hback, rfl⟩ := readColon_eq_ok_iff.1 hcolon
      exact ⟨_, .object hfront hkey hback, by simp⟩
    · cases h
  · rintro ⟨label, @⟨-⟩ | @⟨front, key, back, hfront, hkey, hback⟩, rfl⟩
    rw [List.append_assoc, skipBlanks_append hfront, List.cons_append, skipBlanks_cons rfl]
    refine bind_eq_ok.2 ⟨back ++ ':' :: rest, ?_, readColon_eq_ok_iff.2 ⟨back, hback, rfl⟩⟩
    exact skipString_eq_ok_iff.2 ⟨key, by simp, hkey⟩

/-- In a bracket, a value stands behind its label. -/
theorem Skip.within_eq_ok_iff :
    Skip.within bracket outer text = .ok next ↔
      ∃ label rest, Label bracket label ∧ text = label ++ rest ∧
        next = ⟨false, bracket :: outer, rest⟩ := by
  rw [Skip.within, map_eq_ok]
  cases bracket with
  | list =>
    constructor
    · rintro ⟨rest, ⟨-⟩, rfl⟩
      exact ⟨[], text, .list, rfl, rfl⟩
    · rintro ⟨_, _, ⟨-⟩, rfl, rfl⟩
      exact ⟨_, rfl, rfl⟩
  | object =>
    constructor
    · rintro ⟨rest, hkey, rfl⟩
      obtain ⟨label, hlabel, rfl⟩ := skipKey_eq_ok_iff.1 hkey
      exact ⟨label, rest, hlabel, rfl, rfl⟩
    · rintro ⟨label, rest, hlabel, rfl, rfl⟩
      exact ⟨rest, skipKey_eq_ok_iff.2 ⟨label, hlabel, rfl⟩, rfl⟩

/-! ## What is left to read -/

/-- What stands in a bracket behind one of its values: the other items, then the closing bracket. -/
def Tail (bracket : Bracket) (text : List Char) : Prop :=
  ∃ (back : List Char) (items : List Item), Blanks back ∧ (∀ item ∈ items, item.Fits bracket) ∧
    (∀ item ∈ items, Value item.value) ∧
    text = back ++ (items.flatMap (fun item => ',' :: item.text) ++ [bracket.closing])

theorem Tail.close (hback : Blanks back) : Tail bracket (back ++ [bracket.closing]) :=
  ⟨back, [], hback, by simp, by simp, by simp⟩

theorem Tail.cons {value tail : List Char} (hblanks : Blanks back) (hlabel : Label bracket label)
    (hfront : Blanks front) (hvalue : Value value) (htail : Tail bracket tail) :
    Tail bracket (back ++ ',' :: (label ++ (front ++ (value ++ tail)))) := by
  obtain ⟨behind, items, hbehind, hfits, hvalues, rfl⟩ := htail
  refine ⟨back, ⟨label, front, value, behind⟩ :: items, hblanks, ?_, ?_, by simp [Item.text]⟩
  · exact List.forall_mem_cons.2 ⟨⟨hlabel, hfront, hbehind⟩, hfits⟩
  · exact List.forall_mem_cons.2 ⟨hvalue, hvalues⟩

/-- Items behind a first one have commas before them. -/
theorem intercalate_comma (first : List Char) (texts : List (List Char)) :
    [','].intercalate (first :: texts) = first ++ texts.flatMap (',' :: ·) := by
  induction texts generalizing first with
  | nil => simp
  | cons second texts ih => simp [List.intercalate_cons_cons, ih]

/-- A first item and what stands behind its value make a value in brackets. -/
theorem Value.of_tail {blanks value tail : List Char} (hblanks : Blanks blanks)
    (hlabel : Label bracket label) (hfront : Blanks front) (hvalue : Value value)
    (htail : Tail bracket tail) :
    Value (bracket.opening :: (blanks ++ (label ++ (front ++ (value ++ tail))))) := by
  obtain ⟨behind, items, hbehind, hfits, hvalues, rfl⟩ := htail
  -- The blanks before the first item go to its label, if it has one.
  obtain ⟨item, hitem, hitemValue, htext⟩ : ∃ item : Item, item.Fits bracket ∧
      Value item.value ∧ item.text = blanks ++ (label ++ (front ++ (value ++ behind))) := by
    cases hlabel with
    | list =>
      exact ⟨⟨[], blanks ++ front, value, behind⟩, ⟨.list, hblanks.append hfront, hbehind⟩, hvalue,
        by simp [Item.text]⟩
    | @object before key after hbefore hkey hafter =>
      exact ⟨⟨(blanks ++ before) ++ '"' :: (key ++ '"' :: (after ++ [':'])), front, value, behind⟩,
        ⟨.object (hblanks.append hbefore) hkey hafter, hfront, hbehind⟩, hvalue,
        by simp [Item.text]⟩
  have hall := Value.bracketed (List.cons_ne_nil item items)
    (List.forall_mem_cons.2 ⟨hitem, hfits⟩) (List.forall_mem_cons.2 ⟨hitemValue, hvalues⟩)
  rw [List.map_cons, intercalate_comma, htext, List.flatMap_map] at hall
  simpa using hall

/-- The text that is left to read in a state. If a value is due it comes first; then the open
brackets are ended, from the innermost one on. -/
inductive Finishes : Bool → List Bracket → List Char → Prop where
  | done : Finishes true [] []
  | close {bracket : Bracket} {outer : List Bracket} {tail more : List Char} :
      Tail bracket tail → Finishes true outer more → Finishes true (bracket :: outer) (tail ++ more)
  | value {brackets : List Bracket} {blanks value more : List Char} : Blanks blanks → Value value →
      Finishes true brackets more → Finishes false brackets (blanks ++ (value ++ more))

/-- A step reads the front of what is left to read. -/
def Skip.Follows (ended : Bool) (brackets : List Bracket) (text : List Char) (next : Skip) : Prop :=
  ∃ front, text = front ++ next.rest ∧
    ∀ more, Finishes next.ended next.brackets more → Finishes ended brackets (front ++ more)

/-! ## What is skipped is a value -/

theorem Skip.follows_mark (h : Skip.mark bracket outer text = .ok next) :
    Skip.Follows true (bracket :: outer) text next := by
  rw [Skip.mark] at h
  split at h
  · cases h
  · next c after hskip =>
    obtain ⟨-, back, hback, rfl⟩ := skipBlanks_eq_cons_iff.1 hskip
    split at h
    · next hcomma =>
      subst hcomma
      obtain ⟨label, rest, hlabel, rfl, rfl⟩ := Skip.within_eq_ok_iff.1 h
      refine ⟨back ++ ',' :: label, by simp, ?_⟩
      rintro more (_ | _ | ⟨hfront, hvalue, _ | ⟨htail, hmore⟩⟩)
      have hclose := Finishes.close (htail.cons hback hlabel hfront hvalue) hmore
      simpa using hclose
    · split at h
      · next hclosing =>
        subst hclosing
        cases h
        refine ⟨back ++ [bracket.closing], by simp, ?_⟩
        intro more hmore
        exact .close (.close hback) hmore
      · cases h

/-- Behind an opening bracket, the front of what is left to read makes a value of it. -/
theorem Skip.follows_opened {lead : List Char} (hlead : Blanks lead)
    (h : Skip.opened bracket outer text = .ok next) :
    Skip.Follows false outer (lead ++ bracket.opening :: text) next := by
  rw [Skip.opened] at h
  split at h
  · cases h
  · next c after hskip =>
    obtain ⟨-, blanks, hblanks, rfl⟩ := skipBlanks_eq_cons_iff.1 hskip
    split at h
    · next hclosing =>
      subst hclosing
      cases h
      refine ⟨lead ++ bracket.opening :: (blanks ++ [bracket.closing]), by simp, ?_⟩
      intro more hmore
      have hempty : Value (bracket.opening :: (blanks ++ [bracket.closing])) := .empty hblanks
      simpa using Finishes.value hlead hempty hmore
    · obtain ⟨label, rest, hlabel, heq, rfl⟩ := Skip.within_eq_ok_iff.1 h
      rw [heq]
      refine ⟨lead ++ bracket.opening :: (blanks ++ label), by simp, ?_⟩
      rintro _ (_ | _ | ⟨hfront, hvalue, _ | ⟨htail, hmore⟩⟩)
      have hbracketed := Value.of_tail hblanks hlabel hfront hvalue htail
      simpa using Finishes.value hlead hbracketed hmore

/-- A scalar is a value. -/
theorem Skip.follows_scalar {brackets : List Bracket} {blanks : List Char}
    {read : Except Fault (List Char)} (hblanks : Blanks blanks)
    (h : Skip.scalar brackets read = .ok next)
    (hread : ∀ rest, read = .ok rest → ∃ value, text = value ++ rest ∧ Value value) :
    Skip.Follows false brackets (blanks ++ text) next := by
  obtain ⟨rest, hrest, rfl⟩ := map_eq_ok.1 h
  obtain ⟨value, rfl, hvalue⟩ := hread rest hrest
  refine ⟨blanks ++ value, by simp, ?_⟩
  intro more hmore
  rw [List.append_assoc]
  exact .value hblanks hvalue hmore

/-- A word is a value. -/
theorem Skip.follows_word {brackets : List Bracket} {blanks word : List Char} {letter : Char}
    (hblanks : Blanks blanks) (hvalue : Value (letter :: word))
    (h : Skip.scalar brackets (readWord word text) = .ok next) :
    Skip.Follows false brackets (blanks ++ letter :: text) next := by
  refine follows_scalar hblanks h fun rest hrest => ?_
  rw [eq_append_of_readWord hrest]
  exact ⟨letter :: word, rfl, hvalue⟩

theorem Skip.follows_value {brackets : List Bracket} (h : Skip.value brackets text = .ok next) :
    Skip.Follows false brackets text next := by
  rw [Skip.value] at h
  split at h
  · cases h
  · next c after hskip =>
    obtain ⟨-, blanks, hblanks, rfl⟩ := skipBlanks_eq_cons_iff.1 hskip
    split at h
    · next hc => exact hc ▸ follows_word hblanks .null h
    split at h
    · next hc => exact hc ▸ follows_word hblanks .true h
    split at h
    · next hc => exact hc ▸ follows_word hblanks .false h
    split at h
    · next hc =>
      refine follows_scalar hblanks h fun rest hrest => ?_
      obtain ⟨⟨numeral, behind⟩, hread, rfl⟩ := map_eq_ok.1 hrest
      obtain ⟨front, rfl, hfront⟩ := exists_numeralText_of_readNumeral hread
      exact ⟨_, by rw [hc]; rfl, .negative hfront⟩
    split at h
    · refine follows_scalar hblanks h fun rest hrest => ?_
      obtain ⟨⟨numeral, behind⟩, hread, rfl⟩ := map_eq_ok.1 hrest
      obtain ⟨front, heq, hfront⟩ := exists_numeralText_of_readNumeral hread
      exact ⟨front, heq, .number hfront⟩
    split at h
    · next hc =>
      refine follows_scalar hblanks h fun rest hrest => ?_
      obtain ⟨inside, rfl, hinside⟩ := skipString_eq_ok_iff.1 hrest
      exact ⟨_, by rw [hc]; simp, .string hinside⟩
    split at h
    · next hc => exact hc ▸ follows_opened hblanks h
    split at h
    · next hc => exact hc ▸ follows_opened hblanks h
    · cases h

/-- A run reads all that is left to read. -/
theorem Skip.finishes_of_run {ended : Bool} {brackets : List Bracket}
    (h : Skip.run ended brackets text = .ok rest) :
    ∃ front, text = front ++ rest ∧ Finishes ended brackets front := by
  fun_induction Skip.run ended brackets text with
  | case1 =>
    cases h
    exact ⟨[], rfl, .done⟩
  | case2 => cases h
  | case3 text bracket outer next hstep ih =>
    obtain ⟨front, rfl, hfront⟩ := Skip.follows_mark hstep
    obtain ⟨more, hmore, hfinishes⟩ := ih h
    exact ⟨front ++ more, by rw [hmore, List.append_assoc], hfront more hfinishes⟩
  | case4 => cases h
  | case5 text brackets next hstep ih =>
    obtain ⟨front, rfl, hfront⟩ := Skip.follows_value hstep
    obtain ⟨more, hmore, hfinishes⟩ := ih h
    exact ⟨front ++ more, by rw [hmore, List.append_assoc], hfront more hfinishes⟩

/-- What is skipped is a value, with blanks before it. -/
theorem exists_value_of_skipValue (h : skipValue text = .ok rest) :
    ∃ blanks value, text = blanks ++ (value ++ rest) ∧ Blanks blanks ∧ Value value := by
  obtain ⟨front, rfl, _ | _ | ⟨hblanks, hvalue, ⟨⟩⟩⟩ := Skip.finishes_of_run h
  exact ⟨_, _, by simp, hblanks, hvalue⟩

/-! ## A value is skipped -/

theorem WholeText.exists_cons {whole : List Char} (h : WholeText whole) :
    ∃ d digits, whole = d :: digits ∧ isDigit d = true := by
  cases h with
  | zero => exact ⟨'0', [], rfl, rfl⟩
  | @digits d digits hzero hdigits => exact ⟨d, digits, rfl, hdigits.2 d List.mem_cons_self⟩

theorem NumeralText.exists_cons (h : NumeralText text) :
    ∃ d rest, text = d :: rest ∧ isDigit d = true := by
  obtain @⟨whole, fraction, exponent, hwhole, -, -⟩ := h
  obtain ⟨d, digits, rfl, hd⟩ := hwhole.exists_cons
  exact ⟨d, _, rfl, hd⟩

theorem isBlank_of_isDigit {c : Char} (h : isDigit c = true) : isBlank c = false := by
  rw [Bool.eq_false_iff, ne_eq, isBlank_iff]
  rintro (rfl | rfl | rfl | rfl) <;> exact absurd h (by decide)

theorem ne_of_isDigit {c d : Char} (hd : isDigit d = true) (hc : isDigit c = false) : d ≠ c := by
  rintro rfl
  exact absurd hd (by simp [hc])

/-- A value is told from a blank and from the end of a list by its first character. -/
theorem exists_cons_of_value {value : List Char} (h : Value value) :
    ∃ c rest, value = c :: rest ∧ isBlank c = false ∧ c ≠ ']' := by
  cases h with
  | null | true | false | negative | string => exact ⟨_, _, rfl, by decide, by decide⟩
  | number htext =>
    obtain ⟨d, rest, rfl, hd⟩ := htext.exists_cons
    exact ⟨d, rest, rfl, isBlank_of_isDigit hd, ne_of_isDigit hd rfl⟩
  | @empty bracket | @bracketed bracket =>
    cases bracket <;> exact ⟨_, _, rfl, by decide, by decide⟩

/-! ### Steps at the front of a value -/

variable {brackets : List Bracket}

/-- Behind a value in a bracket, a run takes a step to the next one or past the end. -/
theorem Skip.run_mark (bracket : Bracket) (outer : List Bracket) (text : List Char) :
    Skip.run true (bracket :: outer) text =
      (Skip.mark bracket outer text).bind
        fun next => Skip.run next.ended next.brackets next.rest := by
  rw [Skip.run]
  split
  · next hstep => rw [hstep, Except.bind]
  · next hstep => rw [hstep, Except.bind]

/-- Where a value is due, a run takes a step past it or into it. -/
theorem Skip.run_value (brackets : List Bracket) (text : List Char) :
    Skip.run false brackets text =
      (Skip.value brackets text).bind
        fun next => Skip.run next.ended next.brackets next.rest := by
  rw [Skip.run]
  split
  · next hstep => rw [hstep, Except.bind]
  · next hstep => rw [hstep, Except.bind]

/-- Where a value is due, blanks make no difference. -/
theorem Skip.run_blanks_append {blanks : List Char} (hblanks : Blanks blanks) :
    Skip.run false brackets (blanks ++ text) = Skip.run false brackets text := by
  rw [Skip.run_value, Skip.run_value, Skip.value, Skip.value, skipBlanks_append hblanks]

theorem Bracket.isBlank_closing (bracket : Bracket) : isBlank bracket.closing = false := by
  cases bracket <;> rfl

theorem Bracket.closing_ne_comma (bracket : Bracket) : bracket.closing ≠ ',' := by
  cases bracket <;> decide

theorem Skip.run_close (hback : Blanks back) :
    Skip.run true (bracket :: outer) (back ++ bracket.closing :: rest) =
      Skip.run true outer rest := by
  rw [Skip.run_mark, Skip.mark, skipBlanks_append hback,
    skipBlanks_cons bracket.isBlank_closing]
  simp [bracket.closing_ne_comma, Except.bind]

theorem Skip.run_comma (hback : Blanks back) (hlabel : Label bracket label) :
    Skip.run true (bracket :: outer) (back ++ ',' :: (label ++ rest)) =
      Skip.run false (bracket :: outer) rest := by
  have hwithin : Skip.within bracket outer (label ++ rest) = .ok ⟨false, bracket :: outer, rest⟩ :=
    Skip.within_eq_ok_iff.2 ⟨label, rest, hlabel, rfl, rfl⟩
  rw [Skip.run_mark, Skip.mark, skipBlanks_append hback, skipBlanks_cons rfl]
  simp [hwithin, Except.bind]

theorem Skip.value_opening (text : List Char) :
    Skip.value brackets (bracket.opening :: text) = Skip.opened bracket brackets text := by
  cases bracket <;> rfl

theorem Skip.value_digit {d : Char} (hd : isDigit d = true) (text : List Char) :
    Skip.value brackets (d :: text) =
      Skip.scalar brackets ((readNumeral .invalidNumber false (d :: text)).map Prod.snd) := by
  have hne (c : Char) (hc : isDigit c = false) : d ≠ c := ne_of_isDigit hd hc
  rw [Skip.value, skipBlanks_cons (isBlank_of_isDigit hd)]
  simp [hd, hne 'n' rfl, hne 't' rfl, hne 'f' rfl, hne '-' rfl]

theorem Skip.value_minus (text : List Char) :
    Skip.value brackets ('-' :: text) =
      Skip.scalar brackets ((readNumeral .invalidNumber true text).map Prod.snd) :=
  rfl

theorem Skip.value_quote (text : List Char) :
    Skip.value brackets ('"' :: text) = Skip.scalar brackets (skipString text) :=
  rfl

/-- An empty bracket is read in one step. -/
theorem Skip.run_empty {blanks : List Char} (hblanks : Blanks blanks) :
    Skip.run false brackets (bracket.opening :: (blanks ++ bracket.closing :: rest)) =
      Skip.run true brackets rest := by
  rw [Skip.run_value, Skip.value_opening, Skip.opened, skipBlanks_append hblanks,
    skipBlanks_cons bracket.isBlank_closing]
  simp [Except.bind]

/-- Behind an opening bracket, the first value is due once its label is read. -/
theorem Skip.run_first {value : List Char} (hlabel : Label bracket label) (hfront : Blanks front)
    (hvalue : Value value) :
    Skip.run false brackets (bracket.opening :: (label ++ (front ++ (value ++ rest)))) =
      Skip.run false (bracket :: brackets) (value ++ rest) := by
  rw [Skip.run_value, Skip.value_opening, Skip.opened]
  cases hlabel with
  | list =>
    obtain ⟨c, tail, rfl, hblank, hclosing⟩ := exists_cons_of_value hvalue
    rw [List.nil_append, skipBlanks_append hfront, List.cons_append, skipBlanks_cons hblank]
    simp [Bracket.closing, hclosing, Skip.within, skipLabel, Except.map, Except.bind]
  | @object before key after hbefore hkey hafter =>
    have hwithin : Skip.within .object brackets
        ('"' :: (key ++ '"' :: (after ++ [':'])) ++ (front ++ (value ++ rest))) =
          .ok ⟨false, .object :: brackets, front ++ (value ++ rest)⟩ :=
      Skip.within_eq_ok_iff.2 ⟨_, _, .object blanks_nil hkey hafter, rfl, rfl⟩
    rw [List.append_assoc, skipBlanks_append hbefore, List.cons_append, skipBlanks_cons rfl]
    rw [List.cons_append] at hwithin
    simp only [Bracket.closing, Char.reduceEq, if_false, hwithin, Except.bind]
    exact Skip.run_blanks_append hfront

/-! ### Runs -/

theorem endsNumber_closing (bracket : Bracket) (rest : List Char) :
    EndsNumber (bracket.closing :: rest) := by
  cases bracket <;> exact endsNumber_cons (by decide) rest

/-- Behind a value in a bracket there is nothing that carries on a number. -/
theorem endsNumber_items {items : List Item} (hback : Blanks back) :
    EndsNumber
      (back ++ (items.flatMap (fun item => ',' :: item.text) ++ bracket.closing :: rest)) := by
  refine EndsNumber.blanks_append hback ?_
  cases items with
  | nil => exact endsNumber_closing bracket rest
  | cons item items => exact endsNumber_cons (by decide) _

theorem Item.text_append (item : Item) (text : List Char) :
    item.text ++ text = item.label ++ (item.front ++ (item.value ++ (item.back ++ text))) := by
  simp [Item.text]

/-- The rest of a bracket is read if the values in it are. -/
theorem Skip.run_items {items : List Item} (hback : Blanks back)
    (hfits : ∀ item ∈ items, item.Fits bracket)
    (hvalues : ∀ item ∈ items, ∀ rest, EndsNumber rest →
      Skip.run false (bracket :: outer) (item.value ++ rest) =
        Skip.run true (bracket :: outer) rest) :
    Skip.run true (bracket :: outer)
        (back ++ (items.flatMap (fun item => ',' :: item.text) ++ bracket.closing :: rest)) =
      Skip.run true outer rest := by
  induction items generalizing back with
  | nil => exact Skip.run_close hback
  | cons item items ih =>
    obtain ⟨hitem, hfits⟩ := List.forall_mem_cons.1 hfits
    obtain ⟨hvalue, hvalues⟩ := List.forall_mem_cons.1 hvalues
    rw [List.flatMap_cons, List.append_assoc, List.cons_append, item.text_append,
      Skip.run_comma hback hitem.label, Skip.run_blanks_append hitem.front,
      hvalue _ (endsNumber_items hitem.back)]
    exact ih hitem.back hfits hvalues

/-- A value is read as a whole, in whatever brackets it stands, unless what follows carries on a
number at its end. -/
theorem Skip.run_value_append {value : List Char} (h : Value value) (hrest : EndsNumber rest) :
    Skip.run false brackets (value ++ rest) = Skip.run true brackets rest := by
  induction h generalizing brackets rest with
  | null | true | false =>
    rw [Skip.run_value]
    rfl
  | number htext =>
    obtain ⟨numeral, hread⟩ : ∃ numeral, readNumeral .invalidNumber false _ = .ok (numeral, rest) :=
      readNumeral_numeralText htext hrest
    obtain ⟨d, text, rfl, hd⟩ := htext.exists_cons
    rw [List.cons_append] at hread ⊢
    rw [Skip.run_value, Skip.value_digit hd, hread]
    rfl
  | negative htext =>
    obtain ⟨numeral, hread⟩ : ∃ numeral, readNumeral .invalidNumber true _ = .ok (numeral, rest) :=
      readNumeral_numeralText htext hrest
    rw [List.cons_append, Skip.run_value, Skip.value_minus, hread]
    rfl
  | @string inside hinside =>
    have hread : skipString (inside ++ '"' :: rest) = .ok rest :=
      skipString_eq_ok_iff.2 ⟨inside, rfl, hinside⟩
    rw [List.cons_append, List.append_assoc, List.singleton_append, Skip.run_value,
      Skip.value_quote, hread]
    rfl
  | empty hblanks =>
    rw [List.cons_append, List.append_assoc, List.singleton_append]
    exact Skip.run_empty hblanks
  | @bracketed bracket items hne hfits hvalues ih =>
    cases items with
    | nil => exact absurd rfl hne
    | cons item items =>
      obtain ⟨hitem, hfits⟩ := List.forall_mem_cons.1 hfits
      obtain ⟨hvalue, hvalues⟩ := List.forall_mem_cons.1 hvalues
      obtain ⟨ihitem, ihitems⟩ := List.forall_mem_cons.1 ih
      rw [List.map_cons, intercalate_comma, List.flatMap_map, List.cons_append, List.append_assoc,
        List.append_assoc, List.singleton_append, item.text_append,
        Skip.run_first hitem.label hitem.front hvalue, ihitem (endsNumber_items hitem.back)]
      exact Skip.run_items hitem.back hfits fun item hmem rest => ihitems item hmem

/-- A value with blanks before it is skipped. -/
theorem skipValue_value_append {blanks value : List Char} (hblanks : Blanks blanks)
    (h : Value value) (hrest : EndsNumber rest) :
    skipValue (blanks ++ (value ++ rest)) = .ok rest := by
  rw [skipValue, Skip.run_blanks_append hblanks, Skip.run_value_append h hrest, Skip.run]

end Printout.Json
