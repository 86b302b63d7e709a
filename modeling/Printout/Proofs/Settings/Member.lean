import Printout.Proofs.Json.Value
import Printout.Proofs.Settings.Grammar
import Printout.Settings.Reader

/-!
# Members are read by their grammar

The reader of an object takes one member after the other and keeps the choices that were made so
far. What is left to read behind a member is a comma with a member, or the end of the object
(`Members`), and a choice can be made only if none was made before (`Draft.Extends`). So the members
that are read are those of the grammar, and the choices are those that the members make
(`readMembers_eq_ok_iff`).
-/

set_option autoImplicit false

namespace Printout.Settings

open Json

variable {text rest front before after string value : List Char} {name : String} {first : Bool}
  {draft result : Draft} {saying : Saying} {sayings : List Saying}

/-! ## Strings and truth values -/

/-- The reader `read` takes blanks and then a text of the `form`. -/
def Reads {α : Type} (read : List Char → Reading α) (form : List Char → α → Prop) : Prop :=
  ∀ text value rest, read text = .ok (value, rest) ↔
    ∃ blanks string, Blanks blanks ∧ form string value ∧ text = blanks ++ (string ++ rest)

/-- Behind its opening quote a string is read, and `f` makes something of its value. -/
theorem map_readString_eq_ok_iff {α : Type} {f : String → α} {a : α} :
    ((readString text).map fun (value, rest) => (f (String.ofList value), rest)) = .ok (a, rest) ↔
      ∃ value string, f value = a ∧ StringText string value ∧ '"' :: text = string ++ rest := by
  rw [map_eq_ok]
  constructor
  · rintro ⟨⟨value, behind⟩, hread, hpair⟩
    cases hpair
    obtain ⟨inside, rfl, hinside⟩ := readString_eq_ok_iff.1 hread
    refine ⟨String.ofList value, '"' :: (inside ++ ['"']), rfl, ⟨inside, rfl, ?_⟩, by simp⟩
    rwa [String.toList_ofList]
  · rintro ⟨value, string, rfl, ⟨inside, rfl, hinside⟩, htext⟩
    obtain rfl : text = inside ++ '"' :: rest := by simpa using htext
    exact ⟨_, readString_eq_ok_iff.2 ⟨inside, rfl, hinside⟩, by simp⟩

theorem reads_text : Reads readText StringText := by
  intro text value rest
  constructor
  · intro h
    rw [readText] at h
    split at h
    · next after hskip =>
      obtain ⟨-, blanks, hblanks, rfl⟩ := skipBlanks_eq_cons_iff.1 hskip
      obtain ⟨_, string, rfl, hstring, heq⟩ := (map_readString_eq_ok_iff (f := id)).1 h
      exact ⟨blanks, string, hblanks, hstring, by rw [heq]⟩
    · cases h
  · rintro ⟨blanks, _, hblanks, ⟨inside, rfl, hinside⟩, rfl⟩
    rw [readText, skipBlanks_append hblanks, List.cons_append, skipBlanks_cons rfl]
    exact (map_readString_eq_ok_iff (f := id)).2 ⟨value, _, rfl, ⟨inside, rfl, hinside⟩, rfl⟩

theorem reads_truth : Reads readTruth TruthText := by
  intro text value rest
  constructor
  · intro h
    rw [readTruth] at h
    split at h
    · next after hskip =>
      obtain ⟨-, blanks, hblanks, rfl⟩ := skipBlanks_eq_cons_iff.1 hskip
      obtain ⟨behind, hread, hpair⟩ := map_eq_ok.1 h
      cases hpair
      exact ⟨blanks, _, hblanks, .true, by rw [eq_append_of_readWord hread]; rfl⟩
    · next after hskip =>
      obtain ⟨-, blanks, hblanks, rfl⟩ := skipBlanks_eq_cons_iff.1 hskip
      obtain ⟨behind, hread, hpair⟩ := map_eq_ok.1 h
      cases hpair
      exact ⟨blanks, _, hblanks, .false, by rw [eq_append_of_readWord hread]; rfl⟩
    · cases h
  · rintro ⟨blanks, word, hblanks, hword, rfl⟩
    rw [readTruth, skipBlanks_append hblanks]
    cases hword with
    | true | false => rfl

/-! ## Keys -/

/-- What stands before a member: a comma, if it is not the first one. -/
inductive Separator : Bool → List Char → Prop where
  | none : Separator true []
  | comma {blanks : List Char} : Blanks blanks → Separator false (blanks ++ [','])

theorem readKey_eq_ok_iff {key : Option String} :
    readKey text = .ok (key, rest) ↔
      ∃ name string, some name = key ∧ StringText string name ∧ text = string ++ rest := by
  constructor
  · intro h
    rw [readKey.eq_def] at h
    split at h
    · exact map_readString_eq_ok_iff.1 h
    · cases h
  · rintro ⟨name, _, hkey, ⟨inside, rfl, hinside⟩, rfl⟩
    exact map_readString_eq_ok_iff.2 ⟨name, _, hkey, ⟨inside, rfl, hinside⟩, rfl⟩

theorem readKey_ne_none : readKey text ≠ .ok (none, rest) := by
  intro h
  obtain ⟨name, string, hname, -⟩ := readKey_eq_ok_iff.1 h
  cases hname

theorem nextKey_eq_ok_none_iff :
    nextKey first text = .ok (none, rest) ↔
      ∃ blanks, Blanks blanks ∧ text = blanks ++ '}' :: rest := by
  constructor
  · intro h
    rw [nextKey] at h
    split at h
    · cases h
    · next after hskip =>
      cases h
      exact (skipBlanks_eq_cons_iff.1 hskip).2
    · split at h
      · exact absurd h readKey_ne_none
      · split at h
        · split at h
          · cases h
          · cases h
          · exact absurd h readKey_ne_none
        · cases h
  · rintro ⟨blanks, hblanks, rfl⟩
    rw [nextKey, skipBlanks_append hblanks, skipBlanks_cons rfl]
    rfl

theorem nextKey_eq_ok_some_iff :
    nextKey first text = .ok (some name, rest) ↔
      ∃ separator front string, Separator first separator ∧ Blanks front ∧
        StringText string name ∧ text = separator ++ (front ++ (string ++ rest)) := by
  constructor
  · intro h
    rw [nextKey] at h
    split at h
    · cases h
    · cases h
    · next c after hne hskip =>
      obtain ⟨-, blanks, hblanks, rfl⟩ := skipBlanks_eq_cons_iff.1 hskip
      split at h
      · next hfirst =>
        obtain ⟨_, string, ⟨⟩, hstring, heq⟩ := readKey_eq_ok_iff.1 h
        exact ⟨[], blanks, string, hfirst ▸ .none, hblanks, hstring, by rw [heq]; rfl⟩
      · next hfirst =>
        split at h
        · next hcomma =>
          subst hcomma
          obtain ⟨front, hfront, heq⟩ := exists_blanks_append_skipBlanks after
          split at h
          · cases h
          · cases h
          · obtain ⟨_, string, ⟨⟩, hstring, hafter⟩ := readKey_eq_ok_iff.1 h
            refine ⟨blanks ++ [','], front, string, ?_, hfront, hstring, ?_⟩
            · rw [Bool.not_eq_true] at hfirst
              exact hfirst ▸ .comma hblanks
            · rw [List.append_assoc, List.singleton_append, ← hafter, ← heq]
        · cases h
  · rintro ⟨separator, front, string, hseparator, hfront, hstring, rfl⟩
    have hkey : readKey (string ++ rest) = .ok (some name, rest) :=
      readKey_eq_ok_iff.2 ⟨name, string, rfl, hstring, rfl⟩
    obtain ⟨inside, rfl, -⟩ := hstring
    rw [List.cons_append] at hkey ⊢
    cases hseparator with
    | none =>
      rw [List.nil_append, nextKey, skipBlanks_append hfront, skipBlanks_cons rfl]
      exact hkey
    | comma hblanks =>
      rw [List.append_assoc, List.singleton_append, nextKey, skipBlanks_append hblanks,
        skipBlanks_cons rfl]
      have hquote : isBlank '"' = false := rfl
      simpa [skipBlanks_append hfront, skipBlanks_cons hquote] using hkey

/-! ## Single members -/

theorem toList_eq_toList_iff {α : Type} {o o' : Option α} : o'.toList = o.toList ↔ o' = o := by
  cases o <;> cases o' <;> simp

theorem toList_eq_append_singleton_iff {α : Type} {o o' : Option α} {a : α} :
    o'.toList = o.toList ++ [a] ↔ o = none ∧ o' = some a := by
  cases o <;> cases o' <;> simp

/-- Beyond the choices of `draft`, the draft `result` holds those that `sayings` make. -/
structure Draft.Extends (draft : Draft) (sayings : List Saying) (result : Draft) : Prop where
  call : result.call.toList = draft.call.toList ++ sayings.filterMap Saying.call?
  waitInput : result.waitInput.toList =
    draft.waitInput.toList ++ sayings.filterMap Saying.waitInput?

theorem Draft.extends_call_iff {name : String} :
    draft.Extends [.call name] result ↔
      draft.call = none ∧ result = { draft with call := some name } := by
  constructor
  · rintro ⟨hcall, hwaitInput⟩
    obtain ⟨hnone, hsome⟩ := toList_eq_append_singleton_iff.1 hcall
    have hsame : result.waitInput = draft.waitInput :=
      toList_eq_toList_iff.1 (hwaitInput.trans (List.append_nil _))
    refine ⟨hnone, ?_⟩
    rw [← hsome, ← hsame]
  · rintro ⟨hnone, rfl⟩
    exact ⟨toList_eq_append_singleton_iff.2 ⟨hnone, rfl⟩, (List.append_nil _).symm⟩

theorem Draft.extends_waitInput_iff {wait : Bool} :
    draft.Extends [.waitInput wait] result ↔
      draft.waitInput = none ∧ result = { draft with waitInput := some wait } := by
  constructor
  · rintro ⟨hcall, hwaitInput⟩
    obtain ⟨hnone, hsome⟩ := toList_eq_append_singleton_iff.1 hwaitInput
    have hsame : result.call = draft.call :=
      toList_eq_toList_iff.1 (hcall.trans (List.append_nil _))
    refine ⟨hnone, ?_⟩
    rw [← hsome, ← hsame]
  · rintro ⟨hnone, rfl⟩
    exact ⟨(List.append_nil _).symm, toList_eq_append_singleton_iff.2 ⟨hnone, rfl⟩⟩

theorem Draft.extends_self_iff {unchosen : List Saying}
    (hcall : unchosen.filterMap Saying.call? = [])
    (hwaitInput : unchosen.filterMap Saying.waitInput? = []) :
    draft.Extends unchosen result ↔ result = draft := by
  constructor
  · rintro ⟨hresultCall, hresultWaitInput⟩
    rw [hcall, List.append_nil, toList_eq_toList_iff] at hresultCall
    rw [hwaitInput, List.append_nil, toList_eq_toList_iff] at hresultWaitInput
    cases result
    cases draft
    simp_all
  · rintro rfl
    exact ⟨by rw [hcall, List.append_nil], by rw [hwaitInput, List.append_nil]⟩

/-- The colon and the value of a member are read, and `update` puts the value into the draft. -/
theorem readValue_eq_ok_iff {α : Type} {read : List Char → Reading α}
    {form : List Char → α → Prop} (hread : Reads read form) {update : α → Draft} :
    readValue read update text = .ok (result, rest) ↔
      ∃ before after string value, Blanks before ∧ Blanks after ∧ form string value ∧
        result = update value ∧ text = before ++ ':' :: (after ++ (string ++ rest)) := by
  rw [readValue, map_eq_ok]
  constructor
  · rintro ⟨⟨value, behind⟩, hboth, hpair⟩
    cases hpair
    obtain ⟨behind, hcolon, hvalue⟩ := bind_eq_ok.1 hboth
    obtain ⟨before, hbefore, rfl⟩ := readColon_eq_ok_iff.1 hcolon
    obtain ⟨after, string, hafter, hstring, rfl⟩ := (hread _ _ _).1 hvalue
    exact ⟨before, after, string, value, hbefore, hafter, hstring, rfl, rfl⟩
  · rintro ⟨before, after, string, value, hbefore, hafter, hstring, rfl, rfl⟩
    refine ⟨(value, rest), bind_eq_ok.2 ⟨_, readColon_eq_ok_iff.2 ⟨before, hbefore, rfl⟩, ?_⟩, rfl⟩
    exact (hread _ _ _).2 ⟨after, string, hafter, hstring, rfl⟩

/-- Behind the key, a colon and a value are read, and they say something that the draft can take
in. -/
theorem exists_says_of_readMember (h : readMember draft name text = .ok (result, rest)) :
    ∃ before after value saying, Blanks before ∧ Blanks after ∧ Says name value saying ∧
      draft.Extends [saying] result ∧ text = before ++ ':' :: (after ++ (value ++ rest)) := by
  rw [readMember] at h
  split at h
  · next hname =>
    subst hname
    split at h
    · cases h
    · next hfresh =>
      obtain ⟨before, after, string, value, hbefore, hafter, hstring, rfl, rfl⟩ :=
        (readValue_eq_ok_iff reads_text).1 h
      refine ⟨before, after, string, _, hbefore, hafter, .call hstring, ?_, rfl⟩
      exact Draft.extends_call_iff.2 ⟨by simpa using hfresh, rfl⟩
  · next hcall =>
    split at h
    · next hname =>
      subst hname
      split at h
      · cases h
      · next hfresh =>
        obtain ⟨before, after, string, value, hbefore, hafter, hstring, rfl, rfl⟩ :=
          (readValue_eq_ok_iff reads_truth).1 h
        refine ⟨before, after, string, _, hbefore, hafter, .waitInput hstring, ?_, rfl⟩
        exact Draft.extends_waitInput_iff.2 ⟨by simpa using hfresh, rfl⟩
    · next hwaitInput =>
      obtain ⟨behind, hboth, hpair⟩ := map_eq_ok.1 h
      cases hpair
      obtain ⟨behind, hcolon, hskip⟩ := bind_eq_ok.1 hboth
      obtain ⟨before, hbefore, rfl⟩ := readColon_eq_ok_iff.1 hcolon
      obtain ⟨after, value, rfl, hafter, hvalue⟩ := exists_value_of_skipValue hskip
      refine ⟨before, after, value, _, hbefore, hafter, .nothing hcall hwaitInput hvalue, ?_, rfl⟩
      exact (Draft.extends_self_iff rfl rfl).2 rfl

/-- A member of the grammar is read, if `draft` can take in what it says. -/
theorem readMember_value (hbefore : Blanks before) (hafter : Blanks after)
    (hsaid : Says name value saying) (hextends : draft.Extends [saying] result)
    (hrest : EndsNumber rest) :
    readMember draft name (before ++ ':' :: (after ++ (value ++ rest))) = .ok (result, rest) := by
  rw [readMember]
  cases hsaid with
  | call hstring =>
    obtain ⟨hfresh, rfl⟩ := Draft.extends_call_iff.1 hextends
    rw [if_pos rfl, hfresh, Option.isSome_none, if_neg Bool.false_ne_true]
    exact (readValue_eq_ok_iff reads_text).2
      ⟨before, after, value, _, hbefore, hafter, hstring, rfl, rfl⟩
  | waitInput hword =>
    obtain ⟨hfresh, rfl⟩ := Draft.extends_waitInput_iff.1 hextends
    rw [if_neg (by decide), if_pos rfl, hfresh, Option.isSome_none, if_neg Bool.false_ne_true]
    exact (readValue_eq_ok_iff reads_truth).2
      ⟨before, after, value, _, hbefore, hafter, hword, rfl, rfl⟩
  | nothing hcall hwaitInput hvalue =>
    obtain rfl := (Draft.extends_self_iff rfl rfl).1 hextends
    rw [if_neg hcall, if_neg hwaitInput]
    have hcolon : readColon (before ++ ':' :: (after ++ (value ++ rest))) =
        .ok (after ++ (value ++ rest)) := readColon_eq_ok_iff.2 ⟨before, hbefore, rfl⟩
    have hskip := skipValue_value_append hafter hvalue hrest
    exact map_eq_ok.2 ⟨rest, bind_eq_ok.2 ⟨_, hcolon, hskip⟩, rfl⟩

/-! ## Rows of members -/

/-- What is left to read of an object, up to and with its end, and what its members say. -/
inductive Members : Bool → List Char → List Saying → Prop where
  | close {first : Bool} {blanks : List Char} : Blanks blanks →
      Members first (blanks ++ ['\x7d']) []
  | member {first : Bool} {separator front key before after value more : List Char} {name : String}
      {saying : Saying} {sayings : List Saying} : Separator first separator → Blanks front →
      StringText key name → Blanks before → Blanks after → Says name value saying →
      Members false more sayings →
      Members first (separator ++ (front ++ (key ++ (before ++ ':' :: (after ++ (value ++ more))))))
        (saying :: sayings)

/-- Behind a member there is nothing that carries on a number. -/
theorem Members.endsNumber (h : Members false text sayings) (rest : List Char) :
    EndsNumber (text ++ rest) := by
  cases h with
  | close hblanks =>
    rw [List.append_assoc]
    exact EndsNumber.blanks_append hblanks (endsNumber_cons (by decide) _)
  | member hseparator =>
    cases hseparator with
    | comma hblanks =>
      simp only [List.append_assoc]
      exact EndsNumber.blanks_append hblanks (endsNumber_cons (by decide) _)

/-- The front of a list of at most one choice is such a list again. -/
theorem exists_toList_eq_of_append {α : Type} {o : Option α} {front back : List α}
    (h : o.toList = front ++ back) : ∃ o' : Option α, o'.toList = front := by
  cases front with
  | nil => exact ⟨none, rfl⟩
  | cons a front =>
    cases o with
    | none => cases h
    | some b =>
      obtain ⟨rfl, hnil⟩ := List.cons.inj h
      obtain ⟨rfl, -⟩ := List.append_eq_nil_iff.1 hnil.symm
      exact ⟨some b, rfl⟩

/-- What some members say is taken in one by one. So a choice that is made twice is refused at the
second member. -/
theorem Draft.extends_cons_iff :
    draft.Extends (saying :: sayings) result ↔
      ∃ draft', draft.Extends [saying] draft' ∧ Draft.Extends draft' sayings result := by
  have happend {α : Type} (choice : Saying → Option α) :
      (saying :: sayings).filterMap choice =
        [saying].filterMap choice ++ sayings.filterMap choice := by
    rw [← List.filterMap_append, List.singleton_append]
  constructor
  · rintro ⟨hcall, hwaitInput⟩
    rw [happend, ← List.append_assoc] at hcall hwaitInput
    obtain ⟨call, hcall'⟩ := exists_toList_eq_of_append hcall
    obtain ⟨waitInput, hwaitInput'⟩ := exists_toList_eq_of_append hwaitInput
    refine ⟨⟨call, waitInput⟩, ⟨hcall', hwaitInput'⟩, ?_, ?_⟩
    · rw [hcall, hcall']
    · rw [hwaitInput, hwaitInput']
  · rintro ⟨draft', ⟨hcall', hwaitInput'⟩, hcall, hwaitInput⟩
    constructor
    · rw [happend, ← List.append_assoc, ← hcall', hcall]
    · rw [happend, ← List.append_assoc, ← hwaitInput', hwaitInput]

theorem readMembers_of_end (h : nextKey first text = .ok (none, rest)) :
    readMembers first draft text = .ok (draft, rest) := by
  rw [readMembers]
  split
  · next hkey => cases hkey.symm.trans h
  · next hkey =>
    cases hkey.symm.trans h
    rfl
  · next hkey => cases hkey.symm.trans h

theorem readMembers_of_member {behind : List Char}
    (hkey : nextKey first text = .ok (some name, behind))
    (hmember : readMember draft name behind = .ok (result, rest)) :
    readMembers first draft text = readMembers false result rest := by
  rw [readMembers]
  split
  · next hother => cases hother.symm.trans hkey
  · next hother => cases hother.symm.trans hkey
  · next hsame =>
    cases hsame.symm.trans hkey
    split
    · next hother => cases hother.symm.trans hmember
    · next hsame =>
      cases hsame.symm.trans hmember
      rfl

/-- By `readMembers`, the members of an object are read by their grammar, and the draft takes in
what they say. -/
theorem readMembers_eq_ok_iff :
    readMembers first draft text = .ok (result, rest) ↔
      ∃ front sayings, Members first front sayings ∧ draft.Extends sayings result ∧
        text = front ++ rest := by
  constructor
  · intro h
    fun_induction readMembers first draft text with
    | case1 => cases h
    | case2 first draft text behind hkey =>
      cases h
      obtain ⟨blanks, hblanks, rfl⟩ := nextKey_eq_ok_none_iff.1 hkey
      exact ⟨_, [], .close hblanks, (Draft.extends_self_iff rfl rfl).2 rfl, by simp⟩
    | case3 => cases h
    | case4 first draft text name behind hkey draft' behind' hmember ih =>
      obtain ⟨separator, front, string, hseparator, hfront, hstring, rfl⟩ :=
        nextKey_eq_ok_some_iff.1 hkey
      obtain ⟨before, after, value, saying, hbefore, hafter, hsaid, hextends, rfl⟩ :=
        exists_says_of_readMember hmember
      obtain ⟨more, sayings, hmore, hextends', rfl⟩ := ih h
      refine ⟨_, _, .member hseparator hfront hstring hbefore hafter hsaid hmore, ?_, by simp⟩
      exact Draft.extends_cons_iff.2 ⟨draft', hextends, hextends'⟩
  · rintro ⟨front, sayings, hmembers, hextends, rfl⟩
    induction hmembers generalizing draft with
    | close hblanks =>
      obtain rfl := (Draft.extends_self_iff rfl rfl).1 hextends
      refine readMembers_of_end (nextKey_eq_ok_none_iff.2 ⟨_, hblanks, ?_⟩)
      rw [List.append_assoc, List.singleton_append]
    | member hseparator hfront hstring hbefore hafter hsaid hmore ih =>
      obtain ⟨draft', hmember, hextends'⟩ := Draft.extends_cons_iff.1 hextends
      simp only [List.append_assoc, List.cons_append]
      rw [← ih hextends']
      refine readMembers_of_member
        (nextKey_eq_ok_some_iff.2 ⟨_, _, _, hseparator, hfront, hstring, rfl⟩) ?_
      -- What follows a member does not carry on its value, so the value is read as a whole.
      exact readMember_value hbefore hafter hsaid hmember (hmore.endsNumber rest)

end Printout.Settings
