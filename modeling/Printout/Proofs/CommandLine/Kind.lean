import Mathlib.Data.List.TakeWhile
import Printout.CommandLine

/-!
# How options are written

`Spells` lists the spellings of every kind of option: the mark, a flag by its long name or as
letters behind one dash, a flag with a value, the settings option alone or with its value. An
argument is taken for a kind of option exactly if it is spelled so (`kind_of_eq_iff_spells`). All
other arguments are plain, unknown options and the empty argument included (`kind_of_eq_plain_iff`).
-/

set_option autoImplicit false

namespace Printout.CommandLine

/-! ## Spellings -/

/-- The letter of a flag behind a single dash. -/
def Flag.letter : Flag → Char
  | .help => 'h'
  | .version => 'V'

/-- The long name of a flag, without the dashes. -/
def Flag.name : Flag → List Char
  | .help => "help".toList
  | .version => "version".toList

/-- How the options are written, said without `Kind.of`. -/
inductive Spells : Kind → String → Prop
  | mark : Spells .mark "--"
  | flag (flag : Flag) : Spells (.flag flag) flag.long
  /-- Of several letters behind one dash the first counts. -/
  | letters (flag : Flag) (more : List Flag) :
      Spells (.flag flag) (String.ofList ('-' :: (flag :: more).map Flag.letter))
  | flagValue (flag : Flag) (value : String) :
      Spells (.flagValue flag value) (flag.long ++ "=" ++ value)
  | config : Spells .config "--config"
  | configValue (value : String) : Spells (.configValue value) ("--config=" ++ value)

/-- An `argument` that no option is written like. -/
def IsPlain (argument : String) : Prop := ∀ kind, ¬ Spells kind argument

variable {text name value long : List Char} {argument : String} {kind : Kind}

/-! ## Long names -/

theorem eq_of_splitValue_none (h : splitValue text = (name, none)) : text = name := by
  rw [splitValue] at h
  split at h
  · simp at h
  · exact (Prod.mk.inj h).1

theorem eq_of_splitValue_some (h : splitValue text = (name, some value)) :
    text = name ++ '=' :: value := by
  have hsplit := List.takeWhile_append_dropWhile (p := (· != '=')) (l := text)
  rw [splitValue] at h
  split at h
  · next c rest hdrop =>
    have hc : c = '=' := by
      have hhead := List.head?_dropWhile_not (· != '=') text
      rw [hdrop] at hhead
      simpa using hhead
    simp only [Prod.mk.injEq, Option.some.injEq] at h
    rw [← hsplit, hdrop, h.1, h.2, hc]
  · simp at h

theorem splitValue_append (h : '=' ∉ name) (value : List Char) :
    splitValue (name ++ '=' :: value) = (name, some value) := by
  have hname : ∀ c ∈ name, (c != '=') = true := by
    intro c hc
    rw [bne_iff_ne]
    rintro rfl
    exact h hc
  simp [splitValue, List.takeWhile_append_of_pos hname, List.dropWhile_append_of_pos hname]

theorem long_eq (flag : Flag) : flag.long = String.ofList ('-' :: '-' :: flag.name) := by
  cases flag <;> rfl

theorem equals_notMem_name (flag : Flag) : '=' ∉ flag.name := by
  cases flag <;> decide

theorem ofLong_config (value : Option (List Char)) :
    Kind.ofLong "config".toList value =
      (value.map fun value => Kind.configValue (String.ofList value)).getD .config := by
  cases value <;> rfl

theorem ofLong_name (flag : Flag) (value : Option (List Char)) :
    Kind.ofLong flag.name value =
      (value.map fun value => Kind.flagValue flag (String.ofList value)).getD (.flag flag) := by
  have hhelp : "help".toList ≠ "config".toList := by decide
  have hversion : "version".toList ≠ "config".toList := by decide
  have hversion' : "version".toList ≠ "help".toList := by decide
  cases flag with
  | help =>
    change Kind.ofLong "help".toList value = _
    rw [Kind.ofLong.eq_def, if_neg hhelp, if_pos rfl]
    cases value <;> rfl
  | version =>
    change Kind.ofLong "version".toList value = _
    rw [Kind.ofLong.eq_def, if_neg hversion, if_neg hversion', if_pos rfl]
    cases value <;> rfl

theorem ofLong_eq_plain (hconfig : name ≠ "config".toList) (hflag : ∀ flag : Flag, name ≠ flag.name)
    (value : Option (List Char)) : Kind.ofLong name value = .plain := by
  have hhelp : name ≠ "help".toList := hflag .help
  have hversion : name ≠ "version".toList := hflag .version
  rw [Kind.ofLong.eq_def, if_neg hconfig, if_neg hhelp, if_neg hversion]

/-- Behind two dashes `Kind.ofLong` takes for an option only what is spelled like one. -/
theorem spells_ofLong
    (h : Kind.ofLong (splitValue long).1 (splitValue long).2 ≠ .plain) :
    Spells (Kind.ofLong (splitValue long).1 (splitValue long).2)
      (String.ofList ('-' :: '-' :: long)) := by
  generalize hsplit : splitValue long = parts at h ⊢
  obtain ⟨name, value⟩ := parts
  by_cases hconfig : name = "config".toList
  · subst hconfig
    rw [ofLong_config]
    cases value with
    | none =>
      rw [eq_of_splitValue_none hsplit]
      exact Spells.config
    | some value =>
      have hspelling : String.ofList ('-' :: '-' :: ("config".toList ++ '=' :: value)) =
          "--config=" ++ String.ofList value := by
        apply String.toList_injective
        simp
      rw [eq_of_splitValue_some hsplit, hspelling]
      exact Spells.configValue _
  · by_cases hflag : ∃ flag : Flag, name = flag.name
    · obtain ⟨flag, rfl⟩ := hflag
      rw [ofLong_name]
      cases value with
      | none =>
        rw [eq_of_splitValue_none hsplit, ← long_eq]
        exact Spells.flag flag
      | some value =>
        have hspelling : String.ofList ('-' :: '-' :: (flag.name ++ '=' :: value)) =
            flag.long ++ "=" ++ String.ofList value := by
          apply String.toList_injective
          simp [long_eq]
        rw [eq_of_splitValue_some hsplit, hspelling]
        exact Spells.flagValue flag _
    · exact absurd (ofLong_eq_plain hconfig (fun flag hname => hflag ⟨flag, hname⟩) value) h

/-! ## Letters -/

theorem ofLetter?_eq_some_iff {c : Char} {flag : Flag} :
    Flag.ofLetter? c = some flag ↔ c = flag.letter := by
  rw [Flag.ofLetter?]
  cases flag <;> grind [Flag.letter]

theorem mapM_ofLetter?_eq_some_iff {letters : List Char} {flags : List Flag} :
    letters.mapM Flag.ofLetter? = some flags ↔ letters = flags.map Flag.letter := by
  induction letters generalizing flags with
  | nil => cases flags <;> simp
  | cons c letters ih =>
    rw [List.mapM_cons]
    simp only [Option.bind_eq_bind, Option.pure_def, Option.bind_eq_some_iff, Option.some.injEq,
      ofLetter?_eq_some_iff, ih]
    cases flags with
    | nil => simp
    | cons flag flags => simp

/-- Behind one dash `Kind.ofLetters` takes for an option only what is spelled like one. -/
theorem spells_ofLetters {letters : List Char} (h : Kind.ofLetters letters ≠ .plain) :
    Spells (Kind.ofLetters letters) (String.ofList ('-' :: letters)) := by
  rw [Kind.ofLetters] at h ⊢
  split at h
  · next flag more hletters =>
    rw [mapM_ofLetter?_eq_some_iff.1 hletters]
    exact Spells.letters flag more
  · exact absurd rfl h

/-! ## Kinds -/

/-- What `Kind.of` takes for an option is spelled like one. -/
theorem spells_kind_of (h : Kind.of argument ≠ .plain) : Spells (Kind.of argument) argument := by
  have hargument : argument = String.ofList argument.toList := String.ofList_toList.symm
  rw [Kind.of] at h ⊢
  split at h
  · next hchars =>
    rw [hargument, hchars]
    exact Spells.mark
  · next long _ hchars =>
    rw [hargument, hchars]
    exact spells_ofLong h
  · next letters _ _ hchars =>
    rw [hargument, hchars]
    exact spells_ofLetters h
  · exact absurd rfl h

theorem kind_of_long (h : long ≠ []) :
    Kind.of (String.ofList ('-' :: '-' :: long)) =
      Kind.ofLong (splitValue long).1 (splitValue long).2 := by
  rw [Kind.of, String.toList_ofList]
  cases long with
  | nil => exact absurd rfl h
  | cons c long => rfl

theorem kind_of_letters (flag : Flag) (more : List Flag) :
    Kind.of (String.ofList ('-' :: (flag :: more).map Flag.letter)) = .flag flag := by
  have hletters : Kind.ofLetters ((flag :: more).map Flag.letter) = .flag flag := by
    rw [Kind.ofLetters, mapM_ofLetter?_eq_some_iff.2 rfl]
  rw [Kind.of, String.toList_ofList, ← hletters]
  cases flag <;> rfl

/-- What is spelled like an option is taken for it by `Kind.of`. -/
theorem kind_of_eq_of_spells (h : Spells kind argument) : Kind.of argument = kind := by
  cases h with
  | mark => rfl
  | flag flag => cases flag <;> rfl
  | letters flag more => exact kind_of_letters flag more
  | flagValue flag value =>
    have hspelling : flag.long ++ "=" ++ value =
        String.ofList ('-' :: '-' :: (flag.name ++ '=' :: value.toList)) := by
      apply String.toList_injective
      simp [long_eq]
    rw [hspelling, kind_of_long (by simp), splitValue_append (equals_notMem_name flag),
      ofLong_name]
    simp
  | config => rfl
  | configValue value =>
    have hspelling : "--config=" ++ value =
        String.ofList ('-' :: '-' :: ("config".toList ++ '=' :: value.toList)) := by
      apply String.toList_injective
      simp
    rw [hspelling, kind_of_long (by simp), splitValue_append (by decide), ofLong_config]
    simp

/-- But for plain ones, `Kind.of` tells an argument to be of a kind exactly if `Spells` says so. -/
theorem kind_of_eq_iff_spells (hkind : kind ≠ .plain) :
    Kind.of argument = kind ↔ Spells kind argument := by
  constructor
  · rintro rfl
    exact spells_kind_of hkind
  · exact kind_of_eq_of_spells

theorem ne_plain_of_spells (h : Spells kind argument) : kind ≠ .plain := by
  rintro rfl
  cases h

/-- An `argument` is plain exactly if it is spelled like no option. -/
theorem kind_of_eq_plain_iff : Kind.of argument = .plain ↔ IsPlain argument := by
  constructor
  · intro h kind hspells
    exact ne_plain_of_spells hspells ((kind_of_eq_of_spells hspells).symm.trans h)
  · intro h
    by_contra hne
    exact h _ (spells_kind_of hne)

end Printout.CommandLine
