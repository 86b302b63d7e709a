import Printout.Proofs.Compile.Content

/-!
# Which directives can be printed

A directive holds no closing parenthesis and no line end (`isDirective_of_print_mem`). These are the
only limits: a text can mention any such directives, in any order and number, in calls of a name
without an opening parenthesis and a carriage return, and between the calls may stand anything
without an opening parenthesis (`compile_mentionText`). What opens a call ends in the first opening
parenthesis that the search meets, so no call starts within a filler.

Output itself closes no call, so no directive is found in it (`compile_compile`).
-/

set_option autoImplicit false

namespace Printout

open Text (isBlank)

/-! ## Limits of a directive -/

/-- The text may be what a `Mention` mentions. -/
def IsDirective (text : List Char) : Prop := Call.IsArgument text ∧ '\r' ∉ text

instance (text : List Char) : Decidable (IsDirective text) :=
  inferInstanceAs (Decidable (_ ∧ _))

theorem isDirective_of_print_mem {settings : Settings} {text directive : String}
    (h : Node.print directive ∈ Program.ofText settings text) : IsDirective directive.toList := by
  rw [Program.ofText, Program.print_mem_ofDirectives] at h
  exact ⟨(isArgument_of_mem_directives h).1, return_notMem_of_mem_directives h⟩

/-! ## Output mentions nothing -/

/-- Whatever the settings and the text, no closing parenthesis stands in what `compile` gives. -/
theorem close_notMem_compile (settings : Settings) (text : String) :
    ')' ∉ (compile settings text).toList := by
  rw [compile, Program.render_eq_join, String.toList_join, List.mem_flatMap]
  rintro ⟨written, hwritten, hclose⟩
  obtain ⟨line, hline, rfl⟩ := List.mem_map.1 hwritten
  rw [String.toList_append, List.mem_append] at hclose
  rcases hclose with hclose | hclose
  · rw [Program.lines, List.mem_cons, List.mem_map] at hline
    rcases hline with rfl | ⟨node, hnode, rfl⟩
    · exact absurd hclose (by decide)
    · cases node with
      | waitInput => exact absurd hclose (by decide)
      | print directive =>
        have hdirective := (isDirective_of_print_mem hnode).1.1
        simp [Node.line, hdirective] at hclose
  · exact absurd hclose (by decide)

/-- Compiling an output of `compile` finds no directive, whatever the two settings are. -/
theorem compile_compile (settings settings' : Settings) (text : String) :
    compile settings' (compile settings text) =
      (Program.ofDirectives [] settings'.waitInput).render := by
  have hclose : ')' ∉ Text.normalize (compile settings text).toList := by
    intro hmem
    rcases Text.mem_normalize hmem with hline | htext
    · exact absurd hline (by decide)
    · exact close_notMem_compile settings text htext
  have hdirectives : directives settings'.call (normalize (compile settings text)) = [] := by
    rw [directives_eq_map, toList_normalize, Call.arguments, Call.scan_of_close_notMem hclose]
    rfl
  rw [compile, Program.ofText, hdirectives]

/-! ## Texts that mention directives -/

/-- Blanks that stay on their line. -/
def IsPadding (text : List Char) : Prop :=
  ∀ c ∈ text, isBlank c = true ∧ c ≠ '\n' ∧ c ≠ '\r'

instance (text : List Char) : Decidable (IsPadding text) := List.decidableBAll _ text

/-- A `directive` as a text mentions it: padding around its quotes, and a `filler` behind the
call. -/
structure Mention where
  front : String
  directive : String
  back : String
  filler : String
  front_padding : IsPadding front.toList
  directive_fits : IsDirective directive.toList
  back_padding : IsPadding back.toList
  filler_free : '(' ∉ filler.toList

/-- What stands between the parentheses of `mention`. -/
def Mention.argument (mention : Mention) : String :=
  mention.front ++ "\"" ++ mention.directive ++ "\"" ++ mention.back

/-- The text of `mention`: a call of `call` and the filler behind it. -/
def Mention.text (call : String) (mention : Mention) : String :=
  call ++ "(" ++ mention.argument ++ ")" ++ mention.filler

/-- The text `filler`, and behind it the `mentions` one after the other. -/
def mentionText (call filler : String) (mentions : List Mention) : String :=
  filler ++ String.join (mentions.map (Mention.text call))

theorem IsPadding.isDirective {text : List Char} (h : IsPadding text) : IsDirective text := by
  refine ⟨⟨?_, ?_⟩, ?_⟩
  · intro hclose
    exact absurd (h _ hclose).1 (by decide)
  · intro hline
    exact (h _ hline).2.1 rfl
  · intro hreturn
    exact (h _ hreturn).2.2 rfl

/-- Two texts of which `IsDirective` holds make up one. -/
theorem IsDirective.append {text more : List Char} (h : IsDirective text)
    (hmore : IsDirective more) : IsDirective (text ++ more) := by
  obtain ⟨⟨hclose, hline⟩, hreturn⟩ := h
  obtain ⟨⟨hclose', hline'⟩, hreturn'⟩ := hmore
  simp only [IsDirective, Call.IsArgument, List.mem_append, not_or]
  exact ⟨⟨⟨hclose, hclose'⟩, hline, hline'⟩, hreturn, hreturn'⟩

namespace Mention

variable (mention : Mention)

theorem toList_argument :
    mention.argument.toList = mention.front.toList ++
      '"' :: (mention.directive.toList ++ '"' :: mention.back.toList) := by
  simp [argument]

/-- The quotes and the padding stay within the limits of a directive. -/
theorem isDirective_argument : IsDirective mention.argument.toList := by
  have hquote : IsDirective ['"'] := by decide
  have hparts := mention.front_padding.isDirective.append
    (hquote.append (mention.directive_fits.append (hquote.append mention.back_padding.isDirective)))
  rw [toList_argument]
  simpa using hparts

/-- Of the argument of a mention, `unquote?` leaves its directive. -/
theorem unquote?_argument : unquote? mention.argument.toList = some mention.directive.toList := by
  rw [toList_argument]
  apply unquote?_quoted
  · intro c hc
    exact (mention.front_padding c hc).1
  · intro c hc
    exact (mention.back_padding c hc).1

end Mention

/-! ## The search through mentions -/

/-- A search by `scan` passes over `filler` and takes the call behind it. -/
theorem scan_filler_call {name filler argument : List Char} (hopen : '(' ∉ name)
    (hreturn : '\r' ∉ name) (hfiller : '(' ∉ filler) (hargument : IsDirective argument)
    (rest : List Char) :
    Call.scan (Call.opening name)
        (Text.normalize (filler ++ (Call.opening name ++ (argument ++ ')' :: rest)))) =
      argument :: Call.scan (Call.opening name) (Text.normalize rest) := by
  -- The call goes into the normal form as it stands; only the filler before it may change.
  have hcall : Text.normalize (Call.opening name ++ (argument ++ ')' :: rest)) =
      Call.opening name ++ (argument ++ ')' :: Text.normalize rest) := by
    have hplain : '\r' ∉ Call.opening name ++ (argument ++ [')']) := by
      simp [Call.opening, hreturn, hargument.2]
    have happend := Text.normalize_append_of_notMem hplain rest
    simpa using happend
  obtain ⟨front, hfront, hmem⟩ :=
    Text.exists_normalize_append filler (Call.opening name ++ (argument ++ ')' :: rest))
  have hfree : '(' ∉ front := by
    intro h
    rcases hmem _ h with hline | hmem
    · exact absurd hline (by decide)
    · exact hfiller hmem
  rw [hfront, hcall,
    Call.scan_append_of_forall_not_viableAt (Call.not_viableAt_of_open_notMem hopen hfree),
    Call.scan_call hargument.1]

/-- In a `mentionText` the arguments of the mentions are found and no others. -/
theorem scan_mentionText {call filler : String} (hopen : '(' ∉ call.toList)
    (hreturn : '\r' ∉ call.toList) (hfiller : '(' ∉ filler.toList) (mentions : List Mention) :
    Call.scan (Call.opening call.toList)
        (Text.normalize (mentionText call filler mentions).toList) =
      mentions.map fun mention => mention.argument.toList := by
  induction mentions generalizing filler with
  | nil =>
    have hfree : '(' ∉ Text.normalize (mentionText call filler []).toList := by
      intro hmem
      rcases Text.mem_normalize hmem with hline | hmem
      · exact absurd hline (by decide)
      · exact hfiller (by simpa [mentionText] using hmem)
    rw [Call.scan_of_open_notMem _ hfree, List.map_nil]
  | cons mention mentions ih =>
    -- Behind the first call stands again a filler with mentions behind it.
    have htext : (mentionText call filler (mention :: mentions)).toList =
        filler.toList ++ (Call.opening call.toList ++ (mention.argument.toList ++
          ')' :: (mentionText call mention.filler mentions).toList)) := by
      simp [mentionText, Mention.text, Call.opening]
    rw [htext, scan_filler_call hopen hreturn hfiller mention.isDirective_argument,
      ih mention.filler_free, List.map_cons]

/-- The directives of a `mentionText` are those it mentions, in order. -/
theorem directives_mentionText {call filler : String} (hopen : '(' ∉ call.toList)
    (hreturn : '\r' ∉ call.toList) (hfiller : '(' ∉ filler.toList) (mentions : List Mention) :
    directives call (normalize (mentionText call filler mentions)) =
      mentions.map Mention.directive := by
  rw [directives_eq_map, toList_normalize, Call.arguments,
    scan_mentionText hopen hreturn hfiller, List.filterMap_map]
  have hliteral : (unquote? ∘ fun mention : Mention => mention.argument.toList) =
      some ∘ fun mention => mention.directive.toList := by
    funext mention
    exact mention.unquote?_argument
  rw [hliteral, ← List.filterMap_map, List.filterMap_some, List.map_map]
  simp [Function.comp_def]

/-! ## Image and round trip -/

/-- What is printed keeps the limits of a directive, output mentions nothing, and whatever keeps the
limits can be printed: a `mentionText` compiles to the program of its directives, in order. -/
theorem compile_mentionText :
    (∀ (settings : Settings) (text directive : String),
      Node.print directive ∈ Program.ofText settings text →
        ')' ∉ directive.toList ∧ '\n' ∉ directive.toList ∧ '\r' ∉ directive.toList) ∧
    (∀ (settings settings' : Settings) (text : String),
      compile settings' (compile settings text) =
        (Program.ofDirectives [] settings'.waitInput).render) ∧
    ∀ (settings : Settings) (filler : String) (mentions : List Mention),
      '(' ∉ settings.call.toList → '\r' ∉ settings.call.toList → '(' ∉ filler.toList →
        compile settings (mentionText settings.call filler mentions) =
          (Program.ofDirectives (mentions.map Mention.directive) settings.waitInput).render := by
  refine ⟨?_, compile_compile, ?_⟩
  · intro settings text directive hmem
    obtain ⟨⟨hclose, hline⟩, hreturn⟩ := isDirective_of_print_mem hmem
    exact ⟨hclose, hline, hreturn⟩
  · intro settings filler mentions hopen hreturn hfiller
    rw [compile, Program.ofText, directives_mentionText hopen hreturn hfiller]

/-- The last carriage return of a filler makes a pair with the line feed that the name begins with,
and a directive may look like a call. -/
theorem compile_mentionText_split_pair :
    '(' ∉ "\nf)".toList ∧ '\r' ∉ "\nf)".toList ∧ '(' ∉ "\")\r".toList ∧
      compile ⟨"\nf)", true⟩ "\")\r\nf)(\t\"f( \" )\r\nf)(\"\")x" =
        "program:\n  print \"f( \"\n  print \"\"\n  wait-input\n" := by
  have hopen : '(' ∉ "\nf)".toList := by decide
  have hreturn : '\r' ∉ "\nf)".toList := by decide
  have hfiller : '(' ∉ "\")\r".toList := by decide
  have hcompile := compile_mentionText.2.2 ⟨"\nf)", true⟩ "\")\r"
    [⟨"\t", "f( ", " ", "\r", by decide, by decide, by decide, by decide⟩,
      ⟨"", "", "", "x", by decide, by decide, by decide, by decide⟩] hopen hreturn hfiller
  exact ⟨hopen, hreturn, hfiller, hcompile⟩

end Printout
