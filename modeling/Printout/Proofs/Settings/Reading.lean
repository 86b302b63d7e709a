import Printout.Proofs.Settings.Member

/-!
# Settings are read by their grammar

A text gives settings just where the grammar says so, and it gives those the grammar names
(`parse_eq_ok_iff_writes`). Both directions are put together from the two forms: the members of an
object, with their blanks sorted to the members they stand around, and the elements of a list.
-/

set_option autoImplicit false

namespace Printout.Settings

open Json

variable {text rest : List Char} {first : Bool} {draft : Draft} {sayings : List Saying}

/-! ## Objects -/

/-- The blanks behind a value belong to its member, so a row of members is one of texts with commas
between them. -/
theorem members_iff :
    Members first text sayings ↔
      (sayings = [] ∧ ∃ blanks, Blanks blanks ∧ text = blanks ++ ['\x7d']) ∨
      ∃ (separator : List Char) (member : List Char × Saying)
        (members : List (List Char × Saying)), Separator first separator ∧
        (∀ item ∈ member :: members, Member item.1 item.2) ∧
        sayings = (member :: members).map Prod.snd ∧
        text = separator ++ (member.1 ++ (members.flatMap (',' :: ·.1) ++ ['\x7d'])) := by
  constructor
  · intro h
    induction h with
    | close hblanks => exact .inl ⟨rfl, _, hblanks, rfl⟩
    | @member first separator front key before after value more name saying sayings hseparator
        hfront hstring hbefore hafter hsaid hmore ih =>
      right
      rcases ih with ⟨rfl, back, hback, rfl⟩ | ⟨_, next, members, _ | ⟨hback⟩, hall, rfl, rfl⟩
      · have hmember := Member.mk hfront hstring hbefore hafter hsaid hback
        exact ⟨separator, ⟨_, saying⟩, [], hseparator, List.forall_mem_singleton.2 hmember, rfl,
          by simp⟩
      · have hmember := Member.mk hfront hstring hbefore hafter hsaid hback
        exact ⟨separator, ⟨_, saying⟩, next :: members, hseparator,
          List.forall_mem_cons.2 ⟨hmember, hall⟩, rfl, by simp⟩
  · rintro (⟨rfl, blanks, hblanks, rfl⟩ | ⟨separator, member, members, hseparator, hall, rfl, rfl⟩)
    · exact .close hblanks
    · induction members generalizing first separator member with
      | nil =>
        obtain ⟨text, saying⟩ := member
        obtain ⟨hfront, hstring, hbefore, hafter, hsaid, hback⟩ := List.forall_mem_singleton.1 hall
        have hclose : Members false _ _ := .close hback
        simpa using Members.member hseparator hfront hstring hbefore hafter hsaid hclose
      | cons next members ih =>
        obtain ⟨text, saying⟩ := member
        obtain ⟨hmember, hothers⟩ := List.forall_mem_cons.1 hall
        obtain ⟨hfront, hstring, hbefore, hafter, hsaid, hback⟩ := hmember
        have hmore := ih _ _ (.comma hback) hothers
        simpa using Members.member hseparator hfront hstring hbefore hafter hsaid hmore

theorem Draft.extends_empty_iff {members : List (List Char × Saying)} :
    Draft.empty.Extends (members.map Prod.snd) draft ↔
      members.filterMap (·.2.call?) = draft.call.toList ∧
        members.filterMap (·.2.waitInput?) = draft.waitInput.toList := by
  constructor
  · rintro ⟨hcall, hwaitInput⟩
    rw [List.filterMap_map] at hcall hwaitInput
    exact ⟨hcall.symm, hwaitInput.symm⟩
  · rintro ⟨hcall, hwaitInput⟩
    constructor
    · rw [List.filterMap_map]
      exact hcall.symm
    · rw [List.filterMap_map]
      exact hwaitInput.symm

/-- What is read as an object is a `Body`. -/
theorem exists_body_of_readMembers (h : readMembers true .empty text = .ok (draft, rest)) :
    ∃ inside, text = inside ++ rest ∧ Body ('\x7b' :: inside) draft.call draft.waitInput := by
  obtain ⟨inside, sayings, hmembers, hextends, rfl⟩ := readMembers_eq_ok_iff.1 h
  refine ⟨inside, rfl, ?_⟩
  rcases members_iff.1 hmembers with
    ⟨rfl, blanks, hblanks, rfl⟩ | ⟨_, member, members, ⟨⟩, hall, rfl, rfl⟩
  · obtain rfl := (Draft.extends_self_iff rfl rfl).1 hextends
    exact .emptyObject hblanks
  · obtain ⟨hcall, hwaitInput⟩ := Draft.extends_empty_iff.1 hextends
    have hobject := Body.object (List.cons_ne_nil member members) hall hcall hwaitInput
    rw [List.map_cons, intercalate_comma, List.flatMap_map] at hobject
    simpa using hobject

/-! ## Lists -/

theorem nextElement_eq_ok_false_iff :
    nextElement first text = .ok (false, rest) ↔
      ∃ blanks after, Blanks blanks ∧ rest = ']' :: after ∧ text = blanks ++ rest := by
  constructor
  · intro h
    rw [nextElement] at h
    split at h
    · cases h
    · next after hskip =>
      cases h
      obtain ⟨-, blanks, hblanks, rfl⟩ := skipBlanks_eq_cons_iff.1 hskip
      exact ⟨blanks, after, hblanks, rfl, rfl⟩
    · split at h
      · cases h
      · split at h
        · split at h <;> cases h
        · cases h
  · rintro ⟨blanks, after, hblanks, rfl, rfl⟩
    rw [nextElement, skipBlanks_append hblanks, skipBlanks_cons rfl]
    rfl

/-- One more element is found behind its separator. -/
theorem exists_separator_of_nextElement (h : nextElement first text = .ok (true, rest)) :
    ∃ separator blanks, Separator first separator ∧ Blanks blanks ∧
      text = separator ++ (blanks ++ rest) := by
  rw [nextElement] at h
  split at h
  · cases h
  · cases h
  · next c after hne hskip =>
    obtain ⟨-, blanks, hblanks, rfl⟩ := skipBlanks_eq_cons_iff.1 hskip
    split at h
    · next hfirst =>
      cases h
      exact ⟨[], blanks, hfirst ▸ .none, hblanks, rfl⟩
    · next hfirst =>
      split at h
      · next hcomma =>
        subst hcomma
        obtain ⟨front, hfront, heq⟩ := exists_blanks_append_skipBlanks after
        split at h
        · cases h
        · cases h
        · cases h
          rw [Bool.not_eq_true] at hfirst
          refine ⟨blanks ++ [','], front, hfirst ▸ .comma hblanks, hfront, ?_⟩
          rw [List.append_assoc, List.singleton_append, ← heq]
      · cases h

/-- Behind its separator, an element is found that is told from a blank and from the end of the
list. -/
theorem nextElement_separator {separator blanks : List Char} {c : Char}
    (hseparator : Separator first separator) (hblanks : Blanks blanks) (hblank : isBlank c = false)
    (hend : c ≠ ']') :
    nextElement first (separator ++ (blanks ++ c :: rest)) = .ok (true, c :: rest) := by
  cases hseparator with
  | none =>
    rw [List.nil_append, nextElement, skipBlanks_append hblanks, skipBlanks_cons hblank]
    simp
  | comma hbefore =>
    rw [List.append_assoc, List.singleton_append, nextElement, skipBlanks_append hbefore,
      skipBlanks_cons rfl]
    simp [skipBlanks_append hblanks, skipBlanks_cons hblank, hend]

/-- By `readElement`, an element of the `form` is read behind its separator. -/
theorem exists_form_of_readElement {α : Type} {read : List Char → Reading α}
    {form : List Char → α → Prop} (hread : Reads read form) {value : α}
    (h : readElement read first text = .ok (some value, rest)) :
    ∃ separator blanks string, Separator first separator ∧ Blanks blanks ∧ form string value ∧
      text = separator ++ (blanks ++ (string ++ rest)) := by
  rw [readElement] at h
  split at h
  · cases h
  · cases h
  · next behind hnext =>
    obtain ⟨separator, before, hseparator, hbefore, rfl⟩ := exists_separator_of_nextElement hnext
    obtain ⟨⟨value', rest'⟩, hvalue, hpair⟩ := map_eq_ok.1 h
    cases hpair
    obtain ⟨after, string, hafter, hstring, rfl⟩ := (hread _ _ _).1 hvalue
    exact ⟨separator, before ++ after, string, hseparator, hbefore.append hafter, hstring, by simp⟩

/-- No element is read at the end of a list. -/
theorem exists_end_of_readElement {α : Type} {read : List Char → Reading α}
    (h : readElement read first text = .ok (none, rest)) :
    ∃ blanks after, Blanks blanks ∧ rest = ']' :: after ∧ text = blanks ++ rest := by
  rw [readElement] at h
  split at h
  · cases h
  · next hnext =>
    cases h
    exact nextElement_eq_ok_false_iff.1 hnext
  · obtain ⟨_, _, hpair⟩ := map_eq_ok.1 h
    cases hpair

theorem readListEnd_eq_ok_iff :
    readListEnd text = .ok rest ↔ ∃ blanks, Blanks blanks ∧ text = blanks ++ ']' :: rest := by
  have hend : skipBlanks text = ']' :: rest ↔ _ := skipBlanks_eq_cons_iff
  rw [show isBlank ']' = false from rfl] at hend
  simp only [true_and] at hend
  rw [← hend, readListEnd]
  split
  · next hskip => simp [hskip]
  · next after hskip => simp [hskip]
  · next after hskip =>
    rw [hskip]
    split <;> simp
  · next hother _ => simpa using hother rest

/-- What is read as a list is a `Body`. -/
theorem exists_body_of_readElements (h : readElements text = .ok (draft, rest)) :
    ∃ inside, text = inside ++ rest ∧ Body ('[' :: inside) draft.call draft.waitInput := by
  obtain ⟨⟨call, second⟩, hcall, hrest⟩ := bind_eq_ok.1 h
  obtain ⟨⟨waitInput, third⟩, hwaitInput, hlast⟩ := bind_eq_ok.1 hrest
  obtain ⟨last, hend, hpair⟩ := map_eq_ok.1 hlast
  cases hpair
  cases call with
  | none =>
    obtain ⟨blanks, after, hblanks, rfl, rfl⟩ := exists_end_of_readElement hcall
    cases hwaitInput
    cases hend
    exact ⟨blanks ++ [']'], by simp, .emptyList hblanks⟩
  | some call =>
    obtain ⟨_, front, string, ⟨⟩, hfront, hstring, rfl⟩ :=
      exists_form_of_readElement reads_text hcall
    cases waitInput with
    | none =>
      obtain ⟨blanks, after, hblanks, rfl, rfl⟩ := exists_end_of_readElement hwaitInput
      cases hend
      exact ⟨_, by simp, .listOfOne hfront hstring hblanks⟩
    | some waitInput =>
      obtain ⟨_, before, word, _ | ⟨hback⟩, hbefore, hword, rfl⟩ :=
        exists_form_of_readElement reads_truth hwaitInput
      obtain ⟨after, hafter, rfl⟩ := readListEnd_eq_ok_iff.1 hend
      exact ⟨_, by simp, .listOfTwo hfront hstring hback hbefore hword hafter⟩

theorem readElement_end {α : Type} {read : List Char → Reading α} {blanks : List Char}
    (hblanks : Blanks blanks) :
    readElement read first (blanks ++ ']' :: rest) = .ok (none, ']' :: rest) := by
  have hnext : nextElement first (blanks ++ ']' :: rest) = .ok (false, ']' :: rest) :=
    nextElement_eq_ok_false_iff.2 ⟨blanks, rest, hblanks, rfl, rfl⟩
  rw [readElement, hnext]

/-- An element of a form is read behind its separator, if it is told from a blank and from the end
of the list. -/
theorem readElement_form {α : Type} {read : List Char → Reading α} {form : List Char → α → Prop}
    (hread : Reads read form) {separator blanks string : List Char} {value : α}
    (hseparator : Separator first separator) (hblanks : Blanks blanks) (hform : form string value)
    (hhead : ∃ c tail, string = c :: tail ∧ isBlank c = false ∧ c ≠ ']') :
    readElement read first (separator ++ (blanks ++ (string ++ rest))) =
      .ok (some value, rest) := by
  have hvalue : read (string ++ rest) = .ok (value, rest) :=
    (hread _ _ _).2 ⟨[], string, blanks_nil, hform, rfl⟩
  obtain ⟨c, tail, rfl, hblank, hend⟩ := hhead
  rw [List.cons_append] at hvalue ⊢
  rw [readElement, nextElement_separator hseparator hblanks hblank hend]
  exact map_eq_ok.2 ⟨_, hvalue, rfl⟩

/-- The first element of a list is a string. -/
theorem readElement_stringText {front string : List Char} {call : String} (hfront : Blanks front)
    (hstring : StringText string call) :
    readElement readText true (front ++ (string ++ rest)) = .ok (some call, rest) := by
  rw [← List.nil_append (front ++ _)]
  refine readElement_form reads_text .none hfront hstring ?_
  obtain ⟨inside, rfl, -⟩ := hstring
  exact ⟨_, _, rfl, by decide, by decide⟩

/-- The second element of a list is a truth value. -/
theorem readElement_truthText {back front word : List Char} {waitInput : Bool}
    (hback : Blanks back) (hfront : Blanks front) (hword : TruthText word waitInput) :
    readElement readTruth false (back ++ ',' :: (front ++ (word ++ rest))) =
      .ok (some waitInput, rest) := by
  rw [← List.singleton_append, ← List.append_assoc back]
  refine readElement_form reads_truth (.comma hback) hfront hword ?_
  cases hword with
  | true | false => exact ⟨_, _, rfl, by decide, by decide⟩

theorem readElements_of_elements {call : Option String} {waitInput : Option Bool}
    {second third : List Char} (hcall : readElement readText true text = .ok (call, second))
    (hwaitInput : readElement readTruth call.isNone second = .ok (waitInput, third))
    (hend : readListEnd third = .ok rest) :
    readElements text = .ok (⟨call, waitInput⟩, rest) :=
  bind_eq_ok.2 ⟨_, hcall, bind_eq_ok.2 ⟨_, hwaitInput, map_eq_ok.2 ⟨_, hend, rfl⟩⟩⟩

/-! ## Whole texts -/

/-- A `Body` is read as a whole, whatever follows it. -/
theorem readDraft_body {body : List Char} {call : Option String} {waitInput : Option Bool}
    (h : Body body call waitInput) (rest : List Char) :
    readDraft (body ++ rest) = .ok (⟨call, waitInput⟩, rest) := by
  cases h with
  | emptyObject hblanks =>
    exact readMembers_eq_ok_iff.2
      ⟨_, [], .close hblanks, (Draft.extends_self_iff rfl rfl).2 rfl, rfl⟩
  | @object members _ _ hne hall hcall hwaitInput =>
    cases members with
    | nil => exact absurd rfl hne
    | cons member members =>
      have hmembers := members_iff.2 (.inr ⟨[], member, members, .none, hall, rfl, rfl⟩)
      have hextends : Draft.empty.Extends _ ⟨call, waitInput⟩ :=
        Draft.extends_empty_iff.2 ⟨hcall, hwaitInput⟩
      refine readMembers_eq_ok_iff.2 ⟨_, _, hmembers, hextends, ?_⟩
      rw [List.map_cons, intercalate_comma, List.flatMap_map, List.nil_append, List.append_assoc]
      rfl
  | emptyList hblanks =>
    rw [List.cons_append, List.append_assoc]
    exact readElements_of_elements (readElement_end hblanks) rfl rfl
  | listOfOne hfront hstring hback =>
    simp only [List.append_assoc, List.cons_append]
    exact readElements_of_elements (readElement_stringText hfront hstring)
      (readElement_end hback) rfl
  | listOfTwo hfront hstring hback hbefore hword hafter =>
    simp only [List.append_assoc, List.cons_append]
    exact readElements_of_elements (readElement_stringText hfront hstring)
      (readElement_truthText hback hbefore hword) (readListEnd_eq_ok_iff.2 ⟨_, hafter, rfl⟩)

/-- What is read is a text of one of the two forms, with blanks before it. -/
theorem exists_body_of_readDraft (h : readDraft text = .ok (draft, rest)) :
    ∃ blanks body, Blanks blanks ∧ Body body draft.call draft.waitInput ∧
      text = blanks ++ (body ++ rest) := by
  rw [readDraft] at h
  split at h
  · next after hskip =>
    obtain ⟨-, blanks, hblanks, rfl⟩ := skipBlanks_eq_cons_iff.1 hskip
    obtain ⟨inside, rfl, hbody⟩ := exists_body_of_readElements h
    exact ⟨blanks, _, hblanks, hbody, rfl⟩
  · next after hskip =>
    obtain ⟨-, blanks, hblanks, rfl⟩ := skipBlanks_eq_cons_iff.1 hskip
    obtain ⟨inside, rfl, hbody⟩ := exists_body_of_readMembers h
    exact ⟨blanks, _, hblanks, hbody, rfl⟩
  · cases h

theorem readDraft_blanks_append {blanks : List Char} (hblanks : Blanks blanks) :
    readDraft (blanks ++ text) = readDraft text := by
  rw [readDraft, readDraft, skipBlanks_append hblanks]

theorem read_eq_ok_iff {settings : Settings} :
    read text = .ok settings ↔
      ∃ draft rest, readDraft text = .ok (draft, rest) ∧ Blanks rest ∧ settings = draft.settle := by
  constructor
  · intro h
    rw [read] at h
    split at h
    · cases h
    · next draft rest hdraft =>
      split at h
      · next hskip =>
        cases h
        exact ⟨draft, rest, hdraft, skipBlanks_eq_nil_iff.1 hskip, rfl⟩
      · cases h
  · rintro ⟨draft, rest, hdraft, hrest, rfl⟩
    rw [read, hdraft]
    dsimp only
    rw [skipBlanks_eq_nil_iff.2 hrest]

/-- By `parse`, a text gives settings just where `Writes` says so, and these are the settings it
gives. -/
theorem parse_eq_ok_iff_writes (text : String) (settings : Settings) :
    parse text = .ok settings ↔ Writes text settings := by
  have hparse : parse text = .ok settings ↔ read text.toList = .ok settings := by
    rw [parse]
    split <;> simp_all
  rw [hparse, read_eq_ok_iff]
  constructor
  · rintro ⟨draft, back, hdraft, hback, rfl⟩
    obtain ⟨front, body, hfront, hbody, htext⟩ := exists_body_of_readDraft hdraft
    exact ⟨front, body, back, draft.call, draft.waitInput, hfront, hbody, hback, htext, rfl⟩
  · rintro ⟨front, body, back, call, waitInput, hfront, hbody, hback, htext, rfl⟩
    refine ⟨⟨call, waitInput⟩, back, ?_, hback, rfl⟩
    rw [htext, readDraft_blanks_append hfront, readDraft_body hbody]

end Printout.Settings
