import Printout.Proofs.CommandLine.Kind

/-!
# What a list of arguments asks for

`Asks` is the grammar of the command line. It says of the arguments that are still to come, and of
the path and the settings file that were named before them, which request they make. An option is
recognised by its spelling, a value is checked where it stands, and nothing is pending.

The program checks a value late. For the request this makes no difference
(`readFrom_eq_ok_iff_settle`), so the lists that are read without a fault are those of the grammar,
with the same requests (`parse_eq_ok_iff_asks`).
-/

set_option autoImplicit false

namespace Printout.CommandLine

/-- What the arguments ask for, given the path and the settings file that were named before them.
There is no value pending here as there is in a `State`. -/
inductive Asks : Option String → Option String → List String → Request → Prop
  | nothing {path config : Option String} : Asks path config [] (.compile path config)
  | flag {path config : Option String} {flag : Flag} {argument : String} {rest : List String} :
      Spells (.flag flag) argument → Asks path config (argument :: rest) (.show flag)
  | config {path : Option String} {value : String} {rest : List String} {request : Request} :
      IsPlain value → value ≠ "" → Asks path (some value) rest request →
        Asks path none ("--config" :: value :: rest) request
  | configValue {path : Option String} {value : String} {rest : List String} {request : Request} :
      value ≠ "" → Asks path (some value) rest request →
        Asks path none (("--config=" ++ value) :: rest) request
  | path {config : Option String} {value : String} {rest : List String} {request : Request} :
      IsPlain value → value ≠ "" → Asks (some value) config rest request →
        Asks none config (value :: rest) request
  /-- From the second plain argument on nothing counts. -/
  | more {path : String} {config : Option String} {argument : String} {rest : List String} :
      IsPlain argument → Asks (some path) config (argument :: rest) (.compile (some path) config)
  | mark {config : Option String} : Asks none config ["--"] (.compile none config)
  | markPath {config : Option String} {value : String} {rest : List String} :
      value ≠ "" → Asks none config ("--" :: value :: rest) (.compile (some value) config)
  | markMore {path : String} {config : Option String} {rest : List String} :
      Asks (some path) config ("--" :: rest) (.compile (some path) config)

variable {s s' : State} {path config : Option String} {argument value : String}
  {rest arguments : List String} {request : Request}

/-! ## Settling -/

theorem pending_of_settle (h : s.settle = .ok s') : s'.pending = .nothing := by
  rw [State.settle] at h
  split at h
  · next hpending =>
    simp only [Except.ok.injEq] at h
    rw [← h, hpending]
  · split at h
    · simp at h
    · simp only [Except.ok.injEq] at h
      rw [← h]
  · simp at h
  · rw [State.setConfig] at h
    split at h
    · simp at h
    · split at h
      · simp at h
      · simp only [Except.ok.injEq] at h
        rw [← h]

/-- A state that `State.settle` gives is settled. -/
theorem settle_of_settle (h : s.settle = .ok s') : s'.settle = .ok s' := by
  rw [State.settle, pending_of_settle h]

/-- Behind the mark, the value that `s` has pending can be checked at once. -/
theorem readPlain_eq_ok_iff_settle :
    readPlain s arguments = .ok request ↔
      ∃ s', s.settle = .ok s' ∧ readPlain s' arguments = .ok request := by
  cases hsettle : s.settle with
  | error e =>
    cases arguments <;> simp [readPlain, State.finish, State.take, hsettle, Except.map]
  | ok s' =>
    have hsettle' := settle_of_settle hsettle
    cases arguments <;>
      simp [readPlain, State.finish, State.take, hsettle, hsettle', Except.map]

/-- As long as no value is due, the value that `s` has pending can be checked at once. -/
theorem readFrom_eq_ok_iff_settle (hdue : s.pending ≠ .configDue) :
    readFrom s arguments = .ok request ↔
      ∃ s', s.settle = .ok s' ∧ readFrom s' arguments = .ok request := by
  cases arguments with
  | nil =>
    cases hsettle : s.settle with
    | error e => simp [readFrom, State.finish, hsettle, Except.map]
    | ok s' => simp [readFrom, State.finish, hsettle, settle_of_settle hsettle, Except.map]
  | cons argument rest =>
    -- Every kind of argument settles the state first, but for a flag with a value, a fault anyway.
    cases hsettle : s.settle with
    | error e =>
      cases hkind : Kind.of argument <;>
        simp [readFrom, hkind, hdue, hsettle, State.take, Except.map, Except.bind,
          readPlain_eq_ok_iff_settle (s := s)]
    | ok s' =>
      have hsettle' := settle_of_settle hsettle
      have hdue' : s'.pending ≠ .configDue := by simp [pending_of_settle hsettle]
      cases hkind : Kind.of argument <;>
        simp [readFrom, hkind, hdue, hdue', hsettle, hsettle', State.take, Except.map, Except.bind,
          readPlain_eq_ok_iff_settle (s := s)]

/-! ## Steps -/

theorem readFrom_path :
    readFrom ⟨path, config, .path value⟩ arguments = .ok request ↔
      value ≠ "" ∧ readFrom ⟨some value, config, .nothing⟩ arguments = .ok request := by
  rw [readFrom_eq_ok_iff_settle (by simp)]
  by_cases hvalue : value = "" <;> simp [State.settle, hvalue]

theorem readFrom_config :
    readFrom ⟨path, config, .config value⟩ arguments = .ok request ↔
      config = none ∧ value ≠ "" ∧
        readFrom ⟨path, some value, .nothing⟩ arguments = .ok request := by
  rw [readFrom_eq_ok_iff_settle (by simp)]
  by_cases hvalue : value = "" <;> cases config <;>
    simp [State.settle, State.setConfig, hvalue]

/-- Where the value of `config` is due, the next argument is plain and is the value. -/
theorem readFrom_due :
    readFrom ⟨path, config, .configDue⟩ arguments = .ok request ↔
      ∃ value rest, arguments = value :: rest ∧ IsPlain value ∧ config = none ∧ value ≠ "" ∧
        readFrom ⟨path, some value, .nothing⟩ rest = .ok request := by
  constructor
  · intro h
    cases arguments with
    | nil => simp [readFrom, State.finish, State.settle, Except.map] at h
    | cons value rest =>
      refine ⟨value, rest, rfl, ?_⟩
      rw [← kind_of_eq_plain_iff, ← readFrom_config]
      cases hkind : Kind.of value <;>
        simp [readFrom, hkind, State.settle, Except.map, Except.bind] at h
      exact ⟨rfl, h⟩
  · rintro ⟨value, rest, rfl, hplain, hvalue⟩
    simp only [readFrom, kind_of_eq_plain_iff.2 hplain, if_true]
    exact readFrom_config.2 hvalue

theorem readFrom_flag {flag : Flag} (h : Kind.of argument = .flag flag) :
    readFrom ⟨path, config, .nothing⟩ (argument :: rest) = .ok (.show flag) := by
  rw [readFrom, h]
  rfl

theorem readFrom_configValue (h : Kind.of argument = .configValue value) :
    readFrom ⟨path, config, .nothing⟩ (argument :: rest) = .ok request ↔
      config = none ∧ value ≠ "" ∧ readFrom ⟨path, some value, .nothing⟩ rest = .ok request := by
  rw [readFrom, h]
  by_cases hvalue : value = "" <;> cases config <;>
    simp [State.settle, State.setConfig, hvalue, Except.bind]

theorem readFrom_plain (h : Kind.of argument = .plain) :
    readFrom ⟨none, config, .nothing⟩ (argument :: rest) =
      readFrom ⟨none, config, .path argument⟩ rest := by
  rw [readFrom, h]
  rfl

/-- With a `path`, reading ends at a plain `argument`. -/
theorem readFrom_plain_some {path : String} (h : Kind.of argument = .plain) :
    readFrom ⟨some path, config, .nothing⟩ (argument :: rest) =
      .ok (.compile (some path) config) := by
  rw [readFrom, h]
  rfl

/-- With a path, nothing behind the mark counts for `readPlain`. -/
theorem readPlain_some (path : String) (config : Option String) (arguments : List String) :
    readPlain ⟨some path, config, .nothing⟩ arguments = .ok (.compile (some path) config) := by
  cases arguments <;> rfl

/-- The first argument that `readPlain` comes to is the path, if it is not empty. -/
theorem readPlain_cons :
    readPlain ⟨none, config, .nothing⟩ (value :: rest) = .ok request ↔
      value ≠ "" ∧ request = .compile (some value) config := by
  have hstep : readPlain ⟨none, config, .nothing⟩ (value :: rest) =
      readPlain ⟨none, config, .path value⟩ rest := rfl
  rw [hstep, readPlain_eq_ok_iff_settle]
  by_cases hvalue : value = ""
  · simp [State.settle, hvalue]
  · simp [State.settle, hvalue, readPlain_some, eq_comm]

/-! ## The grammar -/

/-- Behind the mark the arguments ask for what is read. -/
theorem asks_of_readPlain (h : readPlain ⟨path, config, .nothing⟩ rest = .ok request) :
    Asks path config ("--" :: rest) request := by
  cases path with
  | some path =>
    rw [readPlain_some] at h
    cases h
    exact Asks.markMore
  | none =>
    cases rest with
    | nil =>
      cases h
      exact Asks.mark
    | cons value rest =>
      obtain ⟨hvalue, rfl⟩ := readPlain_cons.1 h
      exact Asks.markPath hvalue

/-- What `readFrom` reads is what the arguments ask for. -/
theorem asks_of_readFrom (h : readFrom ⟨path, config, .nothing⟩ arguments = .ok request) :
    Asks path config arguments request := by
  -- The settings option may take two arguments, so the induction is on their number.
  induction hlength : arguments.length using Nat.strong_induction_on
    generalizing path config arguments with
  | _ n ih =>
    subst hlength
    cases arguments with
    | nil =>
      cases h
      exact Asks.nothing
    | cons argument rest =>
      cases hkind : Kind.of argument with
      | mark =>
        cases (kind_of_eq_iff_spells (by simp)).1 hkind
        exact asks_of_readPlain h
      | flag flag =>
        rw [readFrom_flag hkind] at h
        cases h
        exact Asks.flag ((kind_of_eq_iff_spells (by simp)).1 hkind)
      | flagValue flag value => simp [readFrom, hkind] at h
      | config =>
        cases (kind_of_eq_iff_spells (by simp)).1 hkind
        obtain ⟨value, rest, rfl, hplain, rfl, hvalue, hrest⟩ := readFrom_due.1 h
        have hshorter : rest.length < ("--config" :: value :: rest).length := by
          rw [List.length_cons, List.length_cons]
          omega
        exact Asks.config hplain hvalue (ih _ hshorter hrest rfl)
      | configValue value =>
        cases (kind_of_eq_iff_spells (by simp)).1 hkind
        obtain ⟨rfl, hvalue, hrest⟩ := (readFrom_configValue hkind).1 h
        exact Asks.configValue hvalue (ih _ (by simp) hrest rfl)
      | plain =>
        have hplain := kind_of_eq_plain_iff.1 hkind
        cases path with
        | some path =>
          rw [readFrom_plain_some hkind] at h
          cases h
          exact Asks.more hplain
        | none =>
          rw [readFrom_plain hkind] at h
          obtain ⟨hvalue, hrest⟩ := readFrom_path.1 h
          exact Asks.path hplain hvalue (ih _ (by simp) hrest rfl)

/-- What the arguments ask for is read by `CommandLine.readFrom`. -/
theorem Asks.readFrom (h : Asks path config arguments request) :
    CommandLine.readFrom ⟨path, config, .nothing⟩ arguments = .ok request := by
  induction h with
  | nothing => rfl
  | flag hspells => exact readFrom_flag (kind_of_eq_of_spells hspells)
  | config hplain hvalue _ ih => exact readFrom_due.2 ⟨_, _, rfl, hplain, rfl, hvalue, ih⟩
  | configValue hvalue _ ih =>
    exact (readFrom_configValue (kind_of_eq_of_spells (.configValue _))).2 ⟨rfl, hvalue, ih⟩
  | path hplain hvalue _ ih =>
    rw [readFrom_plain (kind_of_eq_plain_iff.2 hplain)]
    exact readFrom_path.2 ⟨hvalue, ih⟩
  | more hplain => exact readFrom_plain_some (kind_of_eq_plain_iff.2 hplain)
  | mark => rfl
  | markPath hvalue => exact readPlain_cons.2 ⟨hvalue, rfl⟩
  | markMore => exact readPlain_some _ _ _

/-- The lists of arguments that `parse` reads without a fault are those of the grammar, and they are
read as what they ask for. -/
theorem parse_eq_ok_iff_asks :
    parse arguments = .ok request ↔ Asks none none arguments request := by
  constructor
  · exact asks_of_readFrom
  · exact Asks.readFrom

instance (arguments : List String) (request : Request) :
    Decidable (Asks none none arguments request) :=
  decidable_of_iff _ parse_eq_ok_iff_asks

/-- An unknown option is a value of the settings option or a path, and behind the path and the mark
nothing is an option. -/
example : Asks none none ["--config", "-x", "-h=1", "--", "--help"]
    (.compile (some "-h=1") (some "-x")) := by
  decide

end Printout.CommandLine
