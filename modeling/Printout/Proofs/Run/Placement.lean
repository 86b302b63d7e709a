import Printout.Proofs.CommandLine.Request
import Printout.Run

/-!
# Where arguments may stand

A path and a settings file may be named in either order, the file behind its option or attached to
it, and the path behind the mark. All of these ask for the same, so the runs are the same
(`placements`).

Once the path is there, the first argument that is no option, or the mark, ends the reading: what
stands behind it is no option any more, not even in its spelling, and no fault
(`Asks.append_ignored`). So a run is not changed by such an argument and whatever follows it
(`run_of_placement_and_tail`).
-/

set_option autoImplicit false

namespace Printout

namespace CommandLine

variable {path config : Option String} {argument source file : String} {kind : Kind}
  {arguments : List String}

/-! ## Placements -/

/-- A text that can name a file and does not look like an option. -/
structure IsName (value : String) : Prop where
  ne_empty : value ≠ ""
  head_ne : value.toList.head? ≠ some '-'

/-- The ways to name a path and a settings file. -/
def placements (source file : String) : List (List String) :=
  [["--config", file, source], ["--config=" ++ file, source], [source, "--config", file],
    [source, "--config=" ++ file], ["--config", file, "--", source]]

/-- Every option starts with a dash. -/
theorem head?_of_spells (h : Spells kind argument) : argument.toList.head? = some '-' := by
  cases h with
  | mark => rfl
  | flag flag => cases flag <;> rfl
  | letters flag more => rw [String.toList_ofList]; rfl
  | flagValue flag value => cases flag <;> simp [Flag.long]
  | config => rfl
  | configValue value => simp

theorem IsName.isPlain (h : IsName argument) : IsPlain argument := by
  intro kind hspells
  exact h.head_ne (head?_of_spells hspells)

/-- All placements ask for the same. -/
theorem asks_of_mem_placements (hsource : IsName source) (hfile : IsName file) :
    ∀ arguments ∈ placements source file,
      Asks none none arguments (.compile (some source) (some file)) := by
  have hpath {config : Option String} {rest : List String} {request : Request}
      (h : Asks (some source) config rest request) : Asks none config (source :: rest) request :=
    Asks.path hsource.isPlain hsource.ne_empty h
  have hconfig {path : Option String} {rest : List String} {request : Request}
      (h : Asks path (some file) rest request) :
      Asks path none ("--config" :: file :: rest) request :=
    Asks.config hfile.isPlain hfile.ne_empty h
  have hconfigValue {path : Option String} {rest : List String} {request : Request}
      (h : Asks path (some file) rest request) :
      Asks path none (("--config=" ++ file) :: rest) request :=
    Asks.configValue hfile.ne_empty h
  intro arguments hmem
  simp only [placements, List.mem_cons, List.not_mem_nil, or_false] at hmem
  rcases hmem with rfl | rfl | rfl | rfl | rfl
  · exact hconfig (hpath Asks.nothing)
  · exact hconfigValue (hpath Asks.nothing)
  · exact hpath (hconfig Asks.nothing)
  · exact hpath (hconfigValue Asks.nothing)
  · exact hconfig (Asks.markPath hsource.ne_empty)

/-! ## Tails -/

/-- With the path at hand, a plain argument or the mark asks for nothing, and neither does what
follows it. -/
theorem Asks.append_ignored {file : Option String}
    (h : Asks path config arguments (.compile (some source) file))
    (hargument : argument = "--" ∨ IsPlain argument) (rest : List String) :
    Asks path config (arguments ++ argument :: rest) (.compile (some source) file) := by
  generalize hrequest : Request.compile (some source) file = request at h ⊢
  induction h with
  | nothing =>
    cases hrequest
    rcases hargument with rfl | hplain
    · exact Asks.markMore
    · exact Asks.more hplain
  | flag => cases hrequest
  | config hplain hvalue _ ih => exact Asks.config hplain hvalue (ih hrequest)
  | configValue hvalue _ ih => exact Asks.configValue hvalue (ih hrequest)
  | path hplain hvalue _ ih => exact Asks.path hplain hvalue (ih hrequest)
  | more hplain =>
    cases hrequest
    exact Asks.more hplain
  | mark => cases hrequest
  | markPath hvalue =>
    cases hrequest
    exact Asks.markPath hvalue
  | markMore =>
    cases hrequest
    exact Asks.markMore

instance (argument : String) : Decidable (IsPlain argument) :=
  decidable_of_iff _ kind_of_eq_plain_iff

end CommandLine

open CommandLine

/-- A run goes by what its arguments ask for, and not by how they are written. -/
theorem run_eq_of_asks {s : Surroundings} {arguments arguments' : List String} {request : Request}
    (h : Asks none none arguments request) (h' : Asks none none arguments' request) :
    run s arguments = run s arguments' := by
  have hparse : CommandLine.parse arguments = CommandLine.parse arguments' := by
    rw [parse_eq_ok_iff_asks.2 h, parse_eq_ok_iff_asks.2 h']
  simp only [run, Run.main, Run.request, hparse]

/-- Wherever a path and a settings file are named, the request and all that is seen of the run are
the same. And nothing that is seen changes when arguments that name a path are followed by the mark
or an argument that is no option, and then by any arguments at all. -/
theorem run_of_placement_and_tail (s : Surroundings) :
    (∀ source file, IsName source → IsName file → ∀ arguments ∈ placements source file,
      CommandLine.parse arguments = .ok (.compile (some source) (some file)) ∧
        ∀ arguments' ∈ placements source file, run s arguments = run s arguments') ∧
    ∀ arguments source config argument rest,
      CommandLine.parse arguments = .ok (.compile (some source) config) →
      (argument = "--" ∨ IsPlain argument) →
        run s (arguments ++ [argument] ++ rest) = run s arguments := by
  refine ⟨?_, ?_⟩
  · intro source file hsource hfile arguments hmem
    have hasks := asks_of_mem_placements hsource hfile
    refine ⟨parse_eq_ok_iff_asks.2 (hasks arguments hmem), ?_⟩
    intro arguments' hmem'
    exact run_eq_of_asks (hasks arguments hmem) (hasks arguments' hmem')
  · intro arguments source config argument rest hparse hargument
    have hasks := parse_eq_ok_iff_asks.1 hparse
    rw [List.append_assoc, List.singleton_append]
    exact run_eq_of_asks (hasks.append_ignored hargument rest) hasks

/-- Two placements. And an empty argument, which would be a fault in the place of the path, with an
unknown option, a repeated one and a request for the help text behind it. -/
theorem run_of_placement_and_tail_of_options :
    IsName "a.go" ∧ IsName "c.json" ∧ ["a.go", "--config=c.json"] ∈ placements "a.go" "c.json" ∧
      ["--config", "c.json", "--", "a.go"] ∈ placements "a.go" "c.json" ∧
      CommandLine.parse ["a.go", "--config=c.json"] =
        .ok (.compile (some "a.go") (some "c.json")) ∧
      IsPlain "" ∧
      ∀ s, run s ["--config", "c.json", "--", "a.go"] =
        run s ["a.go", "--config=c.json", "", "--nope", "--config", "d.json", "-h"] := by
  have hsource : IsName "a.go" := ⟨by decide, by decide⟩
  have hfile : IsName "c.json" := ⟨by decide, by decide⟩
  have hmem : ["a.go", "--config=c.json"] ∈ placements "a.go" "c.json" := by decide
  have hmem' : ["--config", "c.json", "--", "a.go"] ∈ placements "a.go" "c.json" := by decide
  have hplain : IsPlain "" := by decide
  have hparse : CommandLine.parse ["a.go", "--config=c.json"] =
      .ok (.compile (some "a.go") (some "c.json")) := by decide
  refine ⟨hsource, hfile, hmem, hmem', hparse, hplain, ?_⟩
  intro s
  obtain ⟨hplacement, htail⟩ := run_of_placement_and_tail s
  have hsame := (hplacement _ _ hsource hfile _ hmem').2 _ hmem
  exact hsame.trans (htail _ _ _ "" ["--nope", "--config", "d.json", "-h"] hparse
    (Or.inr hplain)).symm

end Printout
