import Printout.Effect

/-!
# What an act does

An act `Plays` a row of effects if it has just these, in this order, whatever events are asked for
and whatever the streams hold before. The effects of an act that goes on with another are those of
both (`Act.Plays.bind`), unless the first ends the run (`Act.Plays.bind_exit`).

What a row of effects leaves on a stream is told from the row. On standard output stands what was
written, and no record (`Streams.output_foldl`). On the error stream stands what the user was told,
with the lines of the events that are shown (`Streams.messages_foldl`).
-/

set_option autoImplicit false

namespace Printout

/-- The surroundings `s` with `spec` in the place of its own specification of the events to show. -/
def Surroundings.withTrace (s : Surroundings) (spec : Option String) : Surroundings :=
  { s with traceSpec := spec }

/-! ## Acts -/

namespace Act

variable {α β : Type} {s : Surroundings} {act : Act α} {next : α → Act β} {a : α} {code : Nat}
  {result : Except Nat β} {effects effects' : List Effect}

/-- Under every specification of the events to show, `act` has `effects` one after the other and
comes to `result`. -/
def Plays {α : Type} (act : Act α) (s : Surroundings) (result : Except Nat α)
    (effects : List Effect) : Prop :=
  ∀ (spec : Option String) (streams : Streams),
    act.play (s.withTrace spec) streams =
      (result, effects.foldl (Streams.after (Trace.Filter.read spec).1.shows) streams)

/-- Behind `act` comes `next`, on the streams that `act` leaves. If `act` ends the run, `next` does
not come at all. -/
theorem play_bind (act : Act α) (next : α → Act β) (s : Surroundings) (streams : Streams) :
    (act >>= next).play s streams =
      match act.play s streams with
      | (.ok a, streams) => (next a).play s streams
      | (.error code, streams) => (.error code, streams) := by
  simp only [play, ReaderT.run_bind, ExceptT.run_bind, StateT.run_bind]
  generalize (act.run s).run.run streams = played
  rcases played with ⟨result, streams⟩
  cases result with
  | ok a => rfl
  | error code => rfl

theorem Plays.bind (h : act.Plays s (.ok a) effects) (h' : (next a).Plays s result effects') :
    (act >>= next).Plays s result (effects ++ effects') := by
  intro spec streams
  rw [play_bind, h spec streams, List.foldl_append]
  apply h'

theorem Plays.bind_exit (h : act.Plays s (.error code) effects) :
    (act >>= next).Plays s (.error code) effects := by
  intro spec streams
  rw [play_bind, h spec streams]

theorem plays_pure (a : α) : (pure a : Act α).Plays s (.ok a) [] := by
  intro spec streams
  rfl

theorem Plays.bind_silent (h : act.Plays s (.ok a) effects)
    (h' : (next a).Plays s result []) : (act >>= next).Plays s result effects := by
  rw [← List.append_nil effects]
  exact h.bind h'

/-- An act may look at the surroundings. All it can see of the specification is then in `next`. -/
theorem plays_read {next : Surroundings → Act β}
    (h : ∀ spec, (next (s.withTrace spec)).Plays s result effects) :
    (read >>= next).Plays s result effects := by
  intro spec streams
  exact h spec spec streams

theorem plays_perform (effect : Effect) : (perform effect).Plays s (.ok ()) [effect] := by
  intro spec streams
  rfl

theorem plays_exit (code : Nat) : (exit code : Act α).Plays s (.error code) [] := by
  intro spec streams
  rfl

/-- Telling `text item` for one item after the other adds all of them to the error stream. -/
theorem play_forM_tell (items : List α) (text : α → String) (s : Surroundings)
    (streams : Streams) :
    (items.forM fun item => tell (text item)).play s streams =
      (.ok (), { streams with
        messages := streams.messages ++ String.join (items.map text) }) := by
  induction items generalizing streams with
  | nil => simp [play]
  | cons item items ih =>
    have htell : (tell (text item)).play s streams =
        (.ok (), { streams with messages := streams.messages ++ text item }) := rfl
    change (tell (text item) >>= fun _ => items.forM _).play s streams = _
    rw [play_bind, htell]
    refine (ih _).trans ?_
    simp [String.append_assoc]

/-- An act that tells the user `text` and ends the run with `code`. -/
theorem plays_tell_exit (text : String) (code : Nat) :
    (do tell text; exit code : Act α).Plays s (.error code) [.tell text] :=
  (plays_perform (.tell text)).bind (plays_exit code)

theorem plays_write (text : String) (h : s.refusal = none) :
    (write text).Plays s (.ok none) [.output text] := by
  apply plays_read
  intro spec
  have hrefusal : (s.withTrace spec).refusal = none := h
  rw [hrefusal]
  exact (plays_perform (.output text)).bind (plays_pure none)

theorem plays_write_of_refusal {e : SystemError} (text : String) (h : s.refusal = some e) :
    (write text).Plays s (.ok (some e)) [] := by
  apply plays_read
  intro spec
  have hrefusal : (s.withTrace spec).refusal = some e := h
  rw [hrefusal]
  exact plays_pure (some e)

end Act

/-! ## Streams -/

/-- What `effects` write to standard output. -/
@[simp]
def writtenBy : List Effect → String
  | [] => ""
  | .output text :: effects => text ++ writtenBy effects
  | .record _ :: effects => writtenBy effects
  | .tell _ :: effects => writtenBy effects

/-- What `effects` add to the error stream, where `shows` says which events are shown. -/
@[simp]
def shownBy (shows : Event → Bool) : List Effect → String
  | [] => ""
  | .output _ :: effects => shownBy shows effects
  | .record event :: effects => (if shows event then event.line else "") ++ shownBy shows effects
  | .tell text :: effects => text ++ shownBy shows effects

section

variable (shows shows' : Event → Bool) (effects effects' : List Effect) (streams : Streams)
  (events events' : List Event)

theorem Streams.output_foldl :
    (effects.foldl (after shows) streams).output = streams.output ++ writtenBy effects := by
  induction effects generalizing streams with
  | nil => simp
  | cons effect effects ih =>
    rw [List.foldl_cons, ih]
    cases effect with
    | output text => simp [after, String.append_assoc]
    | record event =>
      rw [after]
      split <;> simp
    | tell text => simp [after]

theorem Streams.messages_foldl :
    (effects.foldl (after shows) streams).messages =
      streams.messages ++ shownBy shows effects := by
  induction effects generalizing streams with
  | nil => simp
  | cons effect effects ih =>
    rw [List.foldl_cons, ih]
    cases effect with
    | output text => simp [after]
    | record event =>
      rw [after, shownBy]
      split <;> simp [String.append_assoc]
    | tell text => simp [after, String.append_assoc]

@[simp]
theorem writtenBy_append :
    writtenBy (effects ++ effects') = writtenBy effects ++ writtenBy effects' := by
  induction effects with
  | nil => simp
  | cons effect effects ih => cases effect <;> simp [ih, String.append_assoc]

@[simp]
theorem shownBy_append :
    shownBy shows (effects ++ effects') = shownBy shows effects ++ shownBy shows effects' := by
  induction effects with
  | nil => simp
  | cons effect effects ih => cases effect <;> simp [ih, String.append_assoc]

/-- Without `record` among them, effects add the same to the error stream whatever is shown. -/
theorem shownBy_of_no_record (h : ∀ event, .record event ∉ effects) :
    shownBy shows effects = shownBy shows' effects := by
  induction effects with
  | nil => rfl
  | cons effect effects ih =>
    have htail : ∀ event, .record event ∉ effects :=
      fun event hmem => h event (List.mem_cons_of_mem _ hmem)
    cases effect with
    | output text => simp [ih htail]
    | record event => exact absurd List.mem_cons_self (h event)
    | tell text => simp [ih htail]

/-! ## Records -/

/-- The effects of recording `events`, one after the other. -/
def records (events : List Event) : List Effect := events.map Effect.record

theorem records_append : records (events ++ events') = records events ++ records events' :=
  List.map_append

/-- Of standard output, `records` leave what it was. -/
@[simp]
theorem writtenBy_records : writtenBy (records events) = "" := by
  induction events with
  | nil => rfl
  | cons event events ih => exact ih

/-- Of `records`, the lines of those events are written that `shows` chooses. -/
theorem shownBy_records :
    shownBy shows (records events) = String.join ((events.filter shows).map Event.line) := by
  induction events with
  | nil => rfl
  | cons event events ih =>
    rw [records, List.map_cons, shownBy, ← records, ih]
    by_cases hshows : shows event = true
    · simp [hshows]
    · simp [hshows]

/-- Where no event is shown, `records` show nothing. -/
@[simp]
theorem shownBy_false_records : shownBy (fun _ => false) (records events) = "" := by
  rw [shownBy_records, List.filter_eq_nil_iff.2 (by simp)]
  rfl

end

end Printout
