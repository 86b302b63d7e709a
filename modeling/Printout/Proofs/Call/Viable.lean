import Mathlib.Data.List.TakeWhile
import Printout.Call

/-!
# Where a call stands

A place of a text is viable if a call stands there: what opens a call, an argument, and the
parenthesis that closes it. `atStart?` decides this for the start of a text
(`atStart?_eq_some_iff`), so the search either takes the call at the start or drops one character
(`scan_of_atStart?`, `scan_cons`). It finds nothing exactly in the texts without a viable place
(`scan_eq_nil_iff`), and what stands before the first viable place makes no difference to it
(`scan_append_of_forall_not_viableAt`). A gap without opening parentheses holds no viable place if
the name has none either (`not_viableAt_of_open_notMem`).
-/

set_option autoImplicit false

namespace Printout.Call

variable {start text argument rest : List Char}

/-! ## Arguments -/

/-- The text `argument` may be one: it does not close the call and stays on its line. -/
def IsArgument (argument : List Char) : Prop := ')' ∉ argument ∧ '\n' ∉ argument

instance (argument : List Char) : Decidable (IsArgument argument) :=
  inferInstanceAs (Decidable (_ ∧ _))

/-- The test `isArgumentChar` of single characters decides which texts are arguments. -/
theorem isArgument_iff_forall (argument : List Char) :
    IsArgument argument ↔ ∀ c ∈ argument, isArgumentChar c = true := by
  constructor
  · rintro ⟨hclose, hline⟩ c hc
    have h1 : c ≠ ')' := by
      rintro rfl
      exact hclose hc
    have h2 : c ≠ '\n' := by
      rintro rfl
      exact hline hc
    simp [isArgumentChar, h1, h2]
  · intro h
    constructor
    · intro hclose
      exact absurd (h _ hclose) (by decide)
    · intro hline
      exact absurd (h _ hline) (by decide)

/-- The reader `argument?` gives an argument exactly where one stands before a closing
parenthesis. -/
theorem argument?_eq_some_iff :
    argument? text = some (argument, rest) ↔
      text = argument ++ ')' :: rest ∧ IsArgument argument := by
  constructor
  · intro h
    refine ⟨eq_append_of_argument? h, ?_⟩
    rw [isArgument_iff_forall]
    rw [argument?] at h
    split at h
    · simp only [Option.some.injEq, Prod.mk.injEq] at h
      rw [← h.1]
      intro c hc
      exact List.mem_takeWhile_imp hc
    · simp at h
  · rintro ⟨rfl, hargument⟩
    rw [isArgument_iff_forall] at hargument
    have hclose : isArgumentChar ')' = false := by decide
    simp [argument?, List.takeWhile_append_of_pos hargument,
      List.dropWhile_append_of_pos hargument, hclose]

/-- A text has one first closing parenthesis. -/
theorem append_close_inj {argument' rest' : List Char} (h : IsArgument argument)
    (h' : IsArgument argument') (heq : argument ++ ')' :: rest = argument' ++ ')' :: rest') :
    argument = argument' ∧ rest = rest' := by
  have key : argument? (argument ++ ')' :: rest) = some (argument', rest') :=
    argument?_eq_some_iff.2 ⟨heq, h'⟩
  rw [argument?_eq_some_iff.2 ⟨rfl, h⟩] at key
  simpa using key

/-! ## Viable places -/

/-- A call that `start` opens stands at the front of `text`. -/
def Starts (start text : List Char) : Prop :=
  ∃ argument rest, text = start ++ (argument ++ ')' :: rest) ∧ IsArgument argument

/-- A call stands at the place `i` of a text. -/
def ViableAt (start text : List Char) (i : Nat) : Prop := Starts start (text.drop i)

/-- The reader `atStart?` gives a call exactly if one stands at the front of `text`. -/
theorem atStart?_eq_some_iff :
    atStart? start text = some (argument, rest) ↔
      text = start ++ (argument ++ ')' :: rest) ∧ IsArgument argument := by
  simp only [atStart?, Option.bind_eq_some_iff, isPrefixOf?_eq_some, argument?_eq_some_iff]
  constructor
  · rintro ⟨after, rfl, rfl, hargument⟩
    exact ⟨rfl, hargument⟩
  · rintro ⟨rfl, hargument⟩
    exact ⟨_, rfl, rfl, hargument⟩

theorem starts_iff_isSome : Starts start text ↔ (atStart? start text).isSome = true := by
  simp only [Option.isSome_iff_exists, Prod.exists, atStart?_eq_some_iff]
  exact Iff.rfl

theorem not_starts_iff : ¬ Starts start text ↔ atStart? start text = none := by
  rw [starts_iff_isSome, Bool.not_eq_true, Option.isSome_eq_false_iff, Option.isNone_iff_eq_none]

instance (start text : List Char) : Decidable (Starts start text) :=
  decidable_of_iff _ starts_iff_isSome.symm

instance (start text : List Char) (i : Nat) : Decidable (ViableAt start text i) :=
  inferInstanceAs (Decidable (Starts _ _))

@[simp] theorem viableAt_cons_succ (c : Char) (i : Nat) :
    ViableAt start (c :: text) (i + 1) ↔ ViableAt start text i := Iff.rfl

theorem viableAt_append_add (gap : List Char) (i : Nat) :
    ViableAt start (gap ++ text) (gap.length + i) ↔ ViableAt start text i := by
  rw [ViableAt, List.drop_length_add_append, ViableAt]

/-- No call `Starts` at the end of a text. -/
theorem not_starts_nil : ¬ Starts start [] := by
  rintro ⟨argument, rest, h, -⟩
  simp at h

/-- A viable place `i` lies within the text. -/
theorem ViableAt.lt_length {i : Nat} (h : ViableAt start text i) : i < text.length := by
  by_contra hi
  rw [ViableAt, List.drop_eq_nil_of_le (by omega)] at h
  exact not_starts_nil h

/-! ## Steps of the search -/

theorem scan_of_atStart? (h : atStart? start text = some (argument, rest)) :
    scan start text = argument :: scan start rest := by
  rw [scan.eq_def]
  split
  · next argument' rest' h' =>
    rw [h] at h'
    simp only [Option.some.injEq, Prod.mk.injEq] at h'
    rw [h'.1, h'.2]
  · next h' => simp [h] at h'

/-- A call that stands at the front is what `scan` takes first. -/
theorem scan_call (h : IsArgument argument) :
    scan start (start ++ (argument ++ ')' :: rest)) = argument :: scan start rest :=
  scan_of_atStart? (atStart?_eq_some_iff.2 ⟨rfl, h⟩)

@[simp] theorem scan_nil (start : List Char) : scan start [] = [] := by
  rw [scan.eq_def]
  split
  · next argument rest h =>
    have hstart : Starts start [] := starts_iff_isSome.2 (by simp [h])
    exact absurd hstart not_starts_nil
  · rfl

theorem scan_cons {c : Char} (h : ¬ Starts start (c :: text)) :
    scan start (c :: text) = scan start text := by
  rw [scan.eq_def]
  split
  · next argument rest h' => simp [not_starts_iff.1 h] at h'
  · rfl

/-- What stands before the first viable place makes no difference to `scan`. -/
theorem scan_append_of_forall_not_viableAt {gap : List Char}
    (h : ∀ i < gap.length, ¬ ViableAt start (gap ++ text) i) :
    scan start (gap ++ text) = scan start text := by
  induction gap with
  | nil => rfl
  | cons c gap ih =>
    have hhead : ¬ Starts start (c :: (gap ++ text)) := h 0 (by simp)
    rw [List.cons_append, scan_cons hhead]
    apply ih
    intro i hi
    rw [← viableAt_cons_succ c]
    exact h (i + 1) (by simpa using hi)

/-- A search by `scan` finds nothing exactly in the texts without a viable place. -/
theorem scan_eq_nil_iff : scan start text = [] ↔ ∀ i, ¬ ViableAt start text i := by
  constructor
  · intro h
    induction text using scan.induct start with
    | case1 text argument rest hcall ih => simp [scan_of_atStart? hcall] at h
    | case2 hnone =>
      intro i
      rw [ViableAt, List.drop_nil]
      exact not_starts_nil
    | case3 c text hnone ih =>
      have hhead := not_starts_iff.2 hnone
      rw [scan_cons hhead] at h
      intro i
      cases i with
      | zero => exact hhead
      | succ i =>
        rw [viableAt_cons_succ]
        exact ih h i
  · -- The whole text is a gap with nothing behind it.
    intro h
    have hall : scan start (text ++ []) = scan start [] :=
      scan_append_of_forall_not_viableAt (by simpa using fun i _ => h i)
    simpa using hall

/-- All that `scan` finds are arguments, with their characters taken from the text. -/
theorem isArgument_and_subset_of_mem_scan (h : argument ∈ scan start text) :
    IsArgument argument ∧ argument ⊆ text := by
  induction text using scan.induct start with
  | case1 text argument' rest hcall ih =>
    rw [scan_of_atStart? hcall, List.mem_cons] at h
    obtain ⟨rfl, hargument⟩ := atStart?_eq_some_iff.1 hcall
    rcases h with rfl | h
    · refine ⟨hargument, ?_⟩
      intro c hc
      simp [hc]
    · obtain ⟨hargument, hsub⟩ := ih h
      refine ⟨hargument, ?_⟩
      intro c hc
      simp [hsub hc]
  | case2 hnone => simp at h
  | case3 c text hnone ih =>
    rw [scan_cons (not_starts_iff.2 hnone)] at h
    obtain ⟨hargument, hsub⟩ := ih h
    exact ⟨hargument, List.subset_cons_of_subset c hsub⟩

/-! ## Texts without parentheses -/

/-- Where no parenthesis closes, `scan` finds no call. -/
theorem scan_of_close_notMem (h : ')' ∉ text) : scan start text = [] := by
  rw [scan_eq_nil_iff]
  rintro i ⟨argument, rest, hdrop, -⟩
  have hclose : ')' ∈ text.drop i := by simp [hdrop]
  exact h (List.mem_of_mem_drop hclose)

/-- Where no parenthesis opens, `scan` finds no call of any `name`. -/
theorem scan_of_open_notMem (name : List Char) (h : '(' ∉ text) :
    scan (opening name) text = [] := by
  rw [scan_eq_nil_iff]
  rintro i ⟨argument, rest, hdrop, -⟩
  have hopen : '(' ∈ text.drop i := by simp [hdrop, opening]
  exact h (List.mem_of_mem_drop hopen)

/-- Without opening parentheses in `name` and in the `gap` before a call, no call stands in the gap:
its opening parenthesis would be the one of the call behind the gap. -/
theorem not_viableAt_of_open_notMem {name gap : List Char} (hname : '(' ∉ name) (hgap : '(' ∉ gap) :
    ∀ i < gap.length, ¬ ViableAt (opening name) (gap ++ (opening name ++ text)) i := by
  rintro i hi ⟨argument, rest, hdrop, -⟩
  rw [List.drop_append_of_le_length (Nat.le_of_lt hi)] at hdrop
  have hopen : gap.drop i ++ name ++ '(' :: text = name ++ '(' :: (argument ++ ')' :: rest) := by
    simpa [opening] using hdrop
  have hbefore : '(' ∉ gap.drop i ++ name := by
    rw [List.mem_append, not_or]
    exact ⟨fun hmem => hgap (List.mem_of_mem_drop hmem), hname⟩
  have hfirst := congrArg (List.idxOf '(') hopen
  simp only [List.idxOf_append, hbefore, hname, if_false, List.idxOf_cons_self,
    List.length_append, List.length_drop] at hfirst
  omega

end Printout.Call
