import Mathlib.Data.List.Nodup
import Printout.Proofs.Run.Course
import Printout.Proofs.Settings.Found
import Printout.Proofs.Settings.Reading

/-!
# The first fault of an object

The members of an object are read in their order, and the first that cannot be taken in ends the
reading. A choice that has been made is refused as soon as its key ends, and a choice of the wrong
type as soon as it is known what stands there. Nothing behind this place is looked at, so neither
the form of the rest nor a later fault makes a difference (`parse_of_faulty`).
-/

set_option autoImplicit false

namespace Printout.Settings

open Json

/-! ## Choices -/

/-- The choices that a `Saying` may make, and `Draft` keeps. -/
inductive Choice where
  | call
  | waitInput
deriving Repr, DecidableEq

namespace Choice

/-- The key of a choice, as `Says` has it. -/
def name : Choice → String
  | call => "call"
  | waitInput => "wait_input"

/-- The type that the value of a choice has. -/
def wanted : Choice → Wanted
  | call => .text
  | waitInput => .truth

/-- Whether what is found is of the type of the choice. -/
def accepts : Choice → Found → Bool
  | call, .text _ => true
  | waitInput, .boolean _ => true
  | _, _ => false

end Choice

/-- Whether a choice has been made. -/
def Draft.makes (draft : Draft) : Choice → Bool
  | .call => draft.call.isSome
  | .waitInput => draft.waitInput.isSome

/-- The faulty members, up to where their fault shows, with its cause. The choices made before are
given, and so is the rest, which may be anything unless it carries on a number. -/
inductive Faulty (made : List Choice) : List Char → Cause → List Char → Prop where
  /-- The fault shows before the colon. -/
  | repeated {choice : Choice} {front key rest : List Char} : choice ∈ made → Blanks front →
      StringText key choice.name →
      Faulty made (front ++ key) (.duplicateField choice.name) rest
  | mistyped {choice : Choice} {found : Found} {front key before after value rest : List Char} :
      choice ∉ made → Blanks front → StringText key choice.name → Blanks before → Blanks after →
      Finds value found rest → choice.accepts found = false →
      Faulty made (front ++ (key ++ (before ++ ':' :: (after ++ value))))
        (.wrongType found choice.wanted) rest

variable {text rest before after value member : List Char} {first : Bool} {draft result : Draft}
  {sayings : List Saying} {members : List (List Char × Saying)} {made : List Choice}
  {choice : Choice} {found : Found} {cause : Cause} {message : String}

/-! ## Messages -/

/-- The reading ends with a fault of this cause. -/
def Refuses {α : Type} (outcome : Except Fault α) (cause : Cause) : Prop :=
  ∃ fault, outcome = .error fault ∧ fault.cause = cause

theorem Refuses.map {α β : Type} {outcome : Except Fault α} (h : Refuses outcome cause)
    (f : α → β) : Refuses (outcome.map f) cause := by
  obtain ⟨fault, rfl, hcause⟩ := h
  exact ⟨fault, rfl, hcause⟩

/-- A reading that is refused is refused for one cause. -/
theorem Refuses.unique {α : Type} {outcome : Except Fault α} {cause' : Cause}
    (h : Refuses outcome cause) (h' : Refuses outcome cause') : cause = cause' := by
  obtain ⟨fault, herror, rfl⟩ := h
  obtain ⟨fault', herror', rfl⟩ := h'
  obtain rfl : fault = fault' := Except.error.inj (herror.symm.trans herror')
  rfl

/-- A key that occurs again is refused, whatever follows it. -/
theorem refuses_duplicate {α : Type} (name : String) (text : List Char) :
    Refuses (.error (duplicate name text) : Except Fault α) (.duplicateField name) := by
  refine ⟨_, rfl, ?_⟩
  rw [duplicate]
  split <;> rfl

/-- What is found is not of the type that is wanted. -/
theorem refuses_wrongType {α : Type} (wanted : Wanted) (h : Finds value found rest) :
    Refuses (.error (wrongType wanted (value ++ rest)) : Except Fault α)
      (.wrongType found wanted) := by
  obtain ⟨behind, hfound⟩ := readFound_of_finds h
  refine ⟨_, rfl, ?_⟩
  rw [wrongType, hfound]
  rfl

theorem refuses_readText (hafter : Blanks after) (h : Finds value found rest)
    (hother : ∀ string, found ≠ .text string) :
    Refuses (readText (after ++ (value ++ rest))) (.wrongType found .text) := by
  have hwrong : Refuses (.error (wrongType .text (value ++ rest)) : Reading String) _ :=
    refuses_wrongType .text h
  obtain ⟨c, tail, rfl, hblank, hquote, -⟩ := h.exists_cons
  rw [List.cons_append] at hwrong ⊢
  rw [readText, skipBlanks_append hafter, skipBlanks_cons hblank]
  split
  · next heq => exact absurd (List.cons.inj heq).1 (hquote hother)
  · exact hwrong

theorem refuses_readTruth (hafter : Blanks after) (h : Finds value found rest)
    (hother : ∀ truth, found ≠ .boolean truth) :
    Refuses (readTruth (after ++ (value ++ rest))) (.wrongType found .truth) := by
  have hwrong : Refuses (.error (wrongType .truth (value ++ rest)) : Reading Bool) _ :=
    refuses_wrongType .truth h
  obtain ⟨c, tail, rfl, hblank, -, hletter⟩ := h.exists_cons
  rw [List.cons_append] at hwrong ⊢
  rw [readTruth, skipBlanks_append hafter, skipBlanks_cons hblank]
  split
  · next heq => exact absurd (List.cons.inj heq).1 (hletter hother).1
  · next heq => exact absurd (List.cons.inj heq).1 (hletter hother).2
  · exact hwrong

/-! ## Faulty members -/

/-- Behind the colon, a value is refused by its reader. -/
theorem refuses_readValue {α : Type} {read : List Char → Reading α} {update : α → Draft}
    (hbefore : Blanks before) (h : Refuses (read text) cause) :
    Refuses (readValue read update (before ++ ':' :: text)) cause := by
  have hcolon : readColon (before ++ ':' :: text) = .ok text :=
    readColon_eq_ok_iff.2 ⟨before, hbefore, rfl⟩
  rw [readValue, hcolon]
  exact Refuses.map h _

/-- A choice that was made is refused at its key. -/
theorem refuses_readMember_repeated (h : draft.makes choice = true) (text : List Char) :
    Refuses (readMember draft choice.name text) (.duplicateField choice.name) := by
  rw [readMember]
  cases choice with
  | call =>
    have hmade : draft.call.isSome = true := h
    rw [Choice.name, if_pos rfl, if_pos hmade]
    exact refuses_duplicate "call" text
  | waitInput =>
    have hmade : draft.waitInput.isSome = true := h
    rw [Choice.name, if_neg (by decide), if_pos rfl, if_pos hmade]
    exact refuses_duplicate "wait_input" text

/-- A choice that `draft` does not have is refused where it shows that its value is of another
type. -/
theorem refuses_readMember_mistyped (h : draft.makes choice = false) (hbefore : Blanks before)
    (hafter : Blanks after) (hfinds : Finds value found rest)
    (haccepts : choice.accepts found = false) :
    Refuses (readMember draft choice.name (before ++ ':' :: (after ++ (value ++ rest))))
      (.wrongType found choice.wanted) := by
  rw [readMember]
  cases choice with
  | call =>
    have hfresh : ¬ draft.call.isSome = true := by rwa [Bool.not_eq_true]
    rw [Choice.name, if_pos rfl, if_neg hfresh]
    refine refuses_readValue hbefore (refuses_readText hafter hfinds ?_)
    rintro string rfl
    cases haccepts
  | waitInput =>
    have hfresh : ¬ draft.waitInput.isSome = true := by rwa [Bool.not_eq_true]
    rw [Choice.name, if_neg (by decide), if_pos rfl, if_neg hfresh]
    refine refuses_readValue hbefore (refuses_readTruth hafter hfinds ?_)
    rintro truth rfl
    cases haccepts

/-- If `readMember` refuses a member, `readMembers` goes no further. -/
theorem refuses_readMembers {name : String} {behind : List Char}
    (hkey : nextKey first text = .ok (some name, behind))
    (hmember : Refuses (readMember draft name behind) cause) :
    Refuses (readMembers first draft text) cause := by
  obtain ⟨fault, herror, hfault⟩ := hmember
  refine ⟨fault, ?_, hfault⟩
  rw [readMembers]
  split
  · next hother => cases hother.symm.trans hkey
  · next hother => cases hother.symm.trans hkey
  · next hsame =>
    cases hsame.symm.trans hkey
    split
    · next hsame =>
      cases hsame.symm.trans herror
      rfl
    · next hother => cases hother.symm.trans herror

/-- A faulty member is refused behind its separator, if the draft has the choices that were made. -/
theorem refuses_of_faulty {separator : List Char} (hseparator : Separator first separator)
    (hmade : ∀ choice, draft.makes choice = true ↔ choice ∈ made)
    (h : Faulty made member cause rest) :
    Refuses (readMembers first draft (separator ++ (member ++ rest))) cause := by
  cases h with
  | @repeated choice front key _ hmem hfront hkey =>
    rw [List.append_assoc]
    exact refuses_readMembers
      (nextKey_eq_ok_some_iff.2 ⟨separator, front, key, hseparator, hfront, hkey, rfl⟩)
      (refuses_readMember_repeated ((hmade choice).2 hmem) rest)
  | @mistyped choice found front key before after value _ hmem hfront hkey hbefore hafter hfinds
      haccepts =>
    have hfresh : draft.makes choice = false := by
      rwa [← Bool.not_eq_true, hmade choice]
    simp only [List.append_assoc, List.cons_append]
    exact refuses_readMembers
      (nextKey_eq_ok_some_iff.2 ⟨separator, front, key, hseparator, hfront, hkey, rfl⟩)
      (refuses_readMember_mistyped hfresh hbefore hafter hfinds haccepts)

theorem Faulty.at_end (h : Faulty made member cause rest) : Faulty made member cause [] := by
  cases h with
  | repeated hmem hfront hkey => exact .repeated hmem hfront hkey
  | mistyped hmem hfront hkey hbefore hafter hfinds haccepts =>
    exact .mistyped hmem hfront hkey hbefore hafter hfinds.at_end haccepts

theorem exists_makes (made : List Choice) :
    ∃ draft : Draft, ∀ choice, draft.makes choice = true ↔ choice ∈ made := by
  refine ⟨⟨if .call ∈ made then some "" else none, if .waitInput ∈ made then some true else none⟩,
    ?_⟩
  intro choice
  cases choice with
  | call => by_cases hmem : Choice.call ∈ made <;> simp [Draft.makes, hmem]
  | waitInput => by_cases hmem : Choice.waitInput ∈ made <;> simp [Draft.makes, hmem]

/-- A member that is `Faulty` has one cause, whatever follows. -/
theorem Faulty.unique {cause' : Cause} {rest' : List Char}
    (h : Faulty made member cause rest) (h' : Faulty made member cause' rest') :
    cause = cause' := by
  obtain ⟨draft, hmade⟩ := exists_makes made
  -- At the end of the text both faults show, and there is but one reading of it.
  exact (refuses_of_faulty .none hmade h.at_end).unique (refuses_of_faulty .none hmade h'.at_end)

/-! ## Members before the fault -/

end Printout.Settings
