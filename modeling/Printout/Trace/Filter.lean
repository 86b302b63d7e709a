import Printout.Text.Blank
import Printout.Trace

/-!
# Choosing events

Which events are shown is said by a specification: rules between commas, each a level, a target, or
a target with its level, and perhaps a slash and a word that the message must hold. The rule with
the longest target that an event's target starts with decides about it. A rule that cannot be read
is left out with a warning, and a specification with more than one slash shows nothing.
-/

set_option autoImplicit false

namespace Printout.Trace

/-! ## Rules -/

/-- Events whose target starts with `target` are shown down to `threshold`. A rule without a
`target` is for all events, and one without a `threshold` shows none. -/
structure Rule where
  target : Option (List Char)
  threshold : Option Level
deriving Repr, DecidableEq

/-- How specific `rule` is: the number of bytes of its target. -/
def Rule.weight (rule : Rule) : Nat :=
  ((rule.target.map fun name => (String.ofList name).utf8ByteSize).getD 0)

/-- Whether `rule` is about events of `target`. -/
def Rule.applies (rule : Rule) (target : List Char) : Bool :=
  match rule.target with
  | none => true
  | some name => name.isPrefixOf target

/-- Whether `rule` shows events of `level`. -/
def Rule.shows (rule : Rule) (level : Level) : Bool :=
  match rule.threshold with
  | none => false
  | some lowest => level.rank ≤ lowest.rank

/-- Adds `rule` to `rules`. It takes the place of an earlier one for the same target. -/
def addRule (rules : List Rule) (rule : Rule) : List Rule :=
  if rules.any fun r => r.target = rule.target then
    rules.map fun r => if r.target = rule.target then rule else r
  else rules ++ [rule]

/-! ## Specifications -/

/-- What is wrong with a specification. -/
inductive SpecError where
  /-- A `part` that is no rule, or no level. -/
  | invalid (part : List Char)
  | tooManySlashes (spec : List Char)
deriving Repr, DecidableEq

/-- The warning about a specification. -/
def SpecError.warning : SpecError → String
  | .invalid part => "warning: invalid logging spec '" ++ String.ofList part ++ "', ignoring it\n"
  | .tooManySlashes spec =>
    "warning: invalid logging spec '" ++ String.ofList spec ++
      "' (too many '/'s), ignoring it\n"

/-- The level of `name`, in letters of either case. -/
def threshold? (name : List Char) : Option (Option Level) :=
  Level.threshold? (String.ofList (name.map Char.toLower))

/-- The `text` without the spaces around it. -/
def trim (text : List Char) : List Char := Text.trimBoth Text.isSpace text

/-- The rule that `part` stands for, once it is trimmed. -/
def readRule (part : List Char) : Except SpecError Rule :=
  match part.splitOn '=' with
  | [name] =>
    match threshold? name with
    | some threshold => .ok ⟨none, threshold⟩
    | none => .ok ⟨some name, some .trace⟩
  | [name, level] =>
    let level := trim level
    if level = [] then .ok ⟨some name, some .trace⟩
    else
      match threshold? level with
      | some threshold => .ok ⟨some name, threshold⟩
      | none => .error (.invalid level)
  | _ => .error (.invalid part)

/-- Reads the `parts` of a specification one after the other, by `readRule`. A part that is no rule
is left out. -/
def readRules (parts : List (List Char)) : List Rule × List SpecError :=
  parts.foldl (fun (rules, faults) part =>
    let part := trim part
    -- Two commas in a row are no fault.
    if part = [] then (rules, faults)
    else
      match readRule part with
      | .ok rule => (addRule rules rule, faults)
      | .error e => (rules, faults ++ [e])) ([], [])

/-- What events are shown. `Filter.shows` asks the last of the `rules` that applies. -/
structure Filter where
  /-- The rules, the least specific first. -/
  rules : List Rule
  /-- The word that a message must hold. -/
  word : List Char
deriving Repr, DecidableEq

/-- The `rules` in order of `Rule.weight`; those of one weight keep their order. -/
def sortRules (rules : List Rule) : List Rule :=
  rules.mergeSort fun a b => a.weight ≤ b.weight

/-- The `rules`, or the one that shows errors alone if there are none. -/
def orDefault (rules : List Rule) : List Rule :=
  if rules = [] then [⟨none, some .error⟩] else rules

/-- Reads `spec`, and gives what is wrong with it. Where there is none nothing is shown. -/
def Filter.read (spec : Option String) : Filter × List SpecError :=
  match spec with
  | none => (⟨[⟨none, none⟩], []⟩, [])
  | some spec =>
    match spec.toList.splitOn '/' with
    | [rules] =>
      let (rules, faults) := readRules (rules.splitOn ',')
      (⟨sortRules (orDefault rules), []⟩, faults)
    | [rules, word] =>
      let (rules, faults) := readRules (rules.splitOn ',')
      (⟨sortRules (orDefault rules), word⟩, faults)
    | _ => (⟨orDefault [], []⟩, [.tooManySlashes spec.toList])

/-! ## Events through a filter -/

/-- Whether `word` stands somewhere in a text. -/
def occurs (word : List Char) : List Char → Bool
  | [] => word.isEmpty
  | c :: text => word.isPrefixOf (c :: text) || occurs word text

/-- Whether `filter` shows `event`: the most specific rule about its target decides, and the message
must hold `Filter.word`. -/
def Filter.shows (filter : Filter) (event : Event) : Bool :=
  match filter.rules.reverse.find? fun rule => rule.applies event.target.toList with
  | none => false
  | some rule => rule.shows event.level && occurs filter.word event.message.toList

end Printout.Trace
