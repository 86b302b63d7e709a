import Printout.Proofs.Json.Grammar
import Printout.Settings

/-!
# The grammar of settings

What a text that gives settings may look like, said without a reader, and which settings it gives.
There are two forms. An object has members in any order, at most one for each of the two choices;
the members with other keys may be many and may hold any value. A list has the two choices in order,
and the second or both may be missing.
-/

set_option autoImplicit false

namespace Printout.Settings

open Json

/-! ## Members -/

/-- What a member of an object says, as far as `Settings` has it. -/
inductive Saying where
  | call (value : String)
  | waitInput (value : Bool)
  /-- The key is none of the two that have a meaning. -/
  | nothing
deriving Repr, DecidableEq

/-- The name of the call, which `Saying.call` has. -/
def Saying.call? : Saying → Option String
  | .call value => some value
  | _ => none

/-- Whether to wait for input, which `Saying.waitInput` has. -/
def Saying.waitInput? : Saying → Option Bool
  | .waitInput value => some value
  | _ => none

/-- The word for a truth value. -/
inductive TruthText : List Char → Bool → Prop where
  | true : TruthText ['t', 'r', 'u', 'e'] Bool.true
  | false : TruthText ['f', 'a', 'l', 's', 'e'] Bool.false

/-- What a value says under a key. Keys are compared by their characters, however these are
written. -/
inductive Says : String → List Char → Saying → Prop where
  | call {text : List Char} {value : String} : StringText text value →
      Says "call" text (.call value)
  | waitInput {text : List Char} {value : Bool} : TruthText text value →
      Says "wait_input" text (.waitInput value)
  | nothing {key : String} {text : List Char} : key ≠ "call" → key ≠ "wait_input" → Value text →
      Says key text .nothing

/-- A member, with the blanks around its tokens, and what it `Says`. -/
inductive Member : List Char → Saying → Prop where
  | mk {front key before after value back : List Char} {name : String} {saying : Saying} :
      Blanks front → StringText key name → Blanks before → Blanks after → Says name value saying →
      Blanks back → Member (front ++ (key ++ (before ++ ':' :: (after ++ (value ++ back))))) saying

/-! ## Both forms -/

/-- A text in one of the two forms, and the choices it makes. -/
inductive Body : List Char → Option String → Option Bool → Prop where
  | emptyObject {blanks : List Char} : Blanks blanks →
      Body ('\x7b' :: (blanks ++ ['\x7d'])) none none
  /-- Each choice is made by one member or by none. -/
  | object {members : List (List Char × Saying)} {call : Option String}
      {waitInput : Option Bool} : members ≠ [] → (∀ member ∈ members, Member member.1 member.2) →
      members.filterMap (·.2.call?) = call.toList →
      members.filterMap (·.2.waitInput?) = waitInput.toList →
      Body ('\x7b' :: ([','].intercalate (members.map Prod.fst) ++ ['\x7d'])) call waitInput
  | emptyList {blanks : List Char} : Blanks blanks → Body ('[' :: (blanks ++ [']'])) none none
  | listOfOne {front text back : List Char} {call : String} : Blanks front →
      StringText text call → Blanks back →
      Body ('[' :: (front ++ (text ++ (back ++ [']'])))) (some call) none
  | listOfTwo {front text back before word after : List Char} {call : String} {waitInput : Bool} :
      Blanks front → StringText text call → Blanks back → Blanks before →
      TruthText word waitInput → Blanks after →
      Body ('[' :: (front ++ (text ++ (back ++ ',' :: (before ++ (word ++ (after ++ [']'])))))))
        (some call) (some waitInput)

/-- A text gives settings if, apart from blanks around it, it is of one of the two forms. Where it
does not make a choice, the default stands. -/
def Writes (text : String) (settings : Settings) : Prop :=
  ∃ (front body back : List Char) (call : Option String) (waitInput : Option Bool),
    Blanks front ∧ Body body call waitInput ∧ Blanks back ∧
      text.toList = front ++ (body ++ back) ∧
      settings = ⟨call.getD "Println", waitInput.getD true⟩

end Printout.Settings
