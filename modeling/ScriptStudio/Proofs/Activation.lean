import Mathlib.Data.List.Basic
import ScriptStudio.Proofs.LoggedRuns

/-!
# What an activation gives

One register holds what the last return gave, for all activations. A call clears it when its body
begins and reads it when its body has ended, and every call that the body makes leaves its own value
there. A return sets a mark, and only blocks look at the mark.

* `Event`, `ownEvents`: what one activation of a function does itself: the statements it begins, the
  looks its loops take at their conditions, what it says and asks, the calls it makes and the
  returns it executes. What happens inside the functions it calls is not written down.
* `activation`: the log of one call, from the first statement of the body on.
* `Tracks`: the register is what the log of a run says it is.
* `Plain`, `Orderly`, `Looping`: where returns stand in the lists of expressions, statements and
  loops.

The last section draws the consequences for calls: a call whose activation executes no return gives
what the last call inside it gave, and a return ends its activation exactly if no loop stands around
it.
-/

namespace ScriptStudio

namespace Machine

open Log

/-- What an activation of a function does itself. -/
inductive Event where
  /-- A statement begins. -/
  | began (statement : Stmt)
  /-- A loop looks whether it goes on. -/
  | tested
  | said (line : String)
  | asked (prompt : String)
  | called (name : String)
  /-- A call has ended with a value. -/
  | answered (value : Value)
  /-- A return with a number of loops around it has been executed. -/
  | gave (depth : Nat) (value : Value)

/-- Calls are seen from outside: their bodies leave no events. -/
def ownEvents : Recorder Event where
  began statement := [.began statement]
  tested := [.tested]
  said line := [.said line]
  asked prompt := [.asked prompt]
  gave depth value := [.gave depth value]
  called name := [.called name]
  ended events value := events ++ [.answered value]
  stopped _ := []

/-- What one call does itself, from the first statement of its body on. -/
def activation : (fuel : Nat) → String → List Expr → Machine → List Event
  | 0, _, _, _ => []
  | fuel + 1, name, arguments, machine =>
    match enter fuel name arguments machine with
    | .ok function start => (logExec ownEvents fuel 0 function.body).entries start
    | .error _ _ => []

/-! ## The register -/

/-- What the register holds after an event. -/
def Event.register : Value → Event → Value
  | _, .answered value => value
  | _, .gave _ value => value
  | kept, _ => kept

/-- The event is an answer or a return. -/
def Event.isMark : Event → Bool
  | .answered _ => true
  | .gave _ _ => true
  | _ => false

/-- What a call answered. -/
def Event.answer? : Event → Option Value
  | .answered value => some value
  | _ => none

/-- What the last call on a list answered. -/
def lastAnswer? (events : List Event) : Option Value := (events.filterMap Event.answer?).getLast?

/-- At the end of a run the register holds what its log says. -/
def Tracks {α : Type} (run : Log Event α) : Prop :=
  ∀ ⦃machine a after⦄, run.result machine = .ok a after →
    after.returned = (run.entries machine).foldl Event.register machine.returned

section

variable {α β : Type}

variable {run : Log Event α} {fuel : Nat}

theorem Tracks.bind {next : α → Log Event β} (hrun : Tracks run) (hnext : ∀ a, Tracks (next a)) :
    Tracks (run >>= next) := by
  intro machine b after h
  rw [result_bind] at h
  obtain ⟨a, middle, hmiddle, hafter⟩ := bind_eq_ok_iff.mp h
  rw [entries_bind_of_ok hmiddle, List.foldl_append, ← hrun hmiddle, hnext a hafter]

theorem Tracks.act {step : Exec α} (hstep : Spares Machine.returned step) : Tracks (act step) := by
  intro machine a after h
  exact hstep.of_ok h

/-! ## Expressions -/

/-- A logged run that executes no return. -/
structure Plain (run : Log Event α) : Prop where
  tracks : Tracks run
  silent : ∀ machine depth value, Event.gave depth value ∉ run.entries machine

theorem Plain.act {step : Exec α} (hstep : Spares Machine.returned step) : Plain (act step) :=
  ⟨Tracks.act hstep, fun _ _ _ => List.not_mem_nil⟩

theorem Plain.pure (a : α) : Plain (pure a : Log Event α) := Plain.act (Spares.pure a)

theorem Plain.throw (stop : Stop) : Plain (Log.act (throw stop) : Log Event α) :=
  Plain.act (Spares.throw stop)

theorem Plain.bind {next : α → Log Event β} (hrun : Plain run) (hnext : ∀ a, Plain (next a)) :
    Plain (run >>= next) where
  tracks := hrun.tracks.bind fun a => (hnext a).tracks
  silent machine depth value hmem := by
    cases h : run.result machine with
    | ok a after =>
      rw [entries_bind_of_ok h, List.mem_append] at hmem
      exact hmem.elim (hrun.silent machine depth value) ((hnext a).silent after depth value)
    | error stop after =>
      rw [entries_bind_of_error h] at hmem
      exact hrun.silent machine depth value hmem

theorem Plain.ite {condition : Prop} [Decidable condition] {other : Log Event α} (hrun : Plain run)
    (hother : Plain other) : Plain (if condition then run else other) := by
  split
  · exact hrun
  · exact hother

theorem Plain.note {events : List Event} (hevents : events.any Event.isMark = false) :
    Plain (note events) where
  tracks := by
    rintro machine _ _ ⟨⟩
    show machine.returned = events.foldl Event.register machine.returned
    induction events with
    | nil => rfl
    | cons event events ih =>
      obtain ⟨hevent, hevents⟩ := Bool.or_eq_false_iff.mp hevents
      cases event with
      | answered value => cases hevent
      | gave depth value => cases hevent
      | _ => exact ih hevents
  silent machine depth value hmem := by
    cases hevents.symm.trans (List.any_eq_true.mpr ⟨_, hmem, rfl⟩)

/-- A variable is bound without an event. -/
theorem Plain.assign (name : String) (value : Value) : Plain (ownEvents.assign name value) :=
  Plain.act (Spares.assign (fun _ _ => rfl) name value)

/-- A call leaves its value in the register and on the list. -/
theorem Plain.calling {before : Log Event Function} (hbefore : Plain before)
    (body : Function → Log Event Unit) : Plain (ownEvents.calling before body) where
  tracks := by
    intro machine value after h
    rw [Recorder.result_calling] at h
    obtain ⟨function, start, hstart, hrest⟩ := bind_eq_ok_iff.mp h
    obtain ⟨_, ended, hended, hleave⟩ := bind_eq_ok_iff.mp hrest
    cases hleave
    show ended.returned = List.foldl _ _ (ownEvents.calling before body machine).entries
    rw [Recorder.calling, show (before machine).result = _ from hstart]
    dsimp only
    rw [show (body function start).result = _ from hended]
    exact (List.foldl_concat Event.register machine.returned (.answered ended.returned) _).symm
  silent machine depth value hmem := by
    have hsilent := hbefore.silent machine depth value
    change _ ∈ (ownEvents.calling before body machine).entries at hmem
    unfold Recorder.calling at hmem
    split at hmem
    · exact hsilent hmem
    · split at hmem
      · exact hsilent ((List.mem_append.mp hmem).resolve_right List.not_mem_nil)
      · rcases List.mem_append.mp hmem with hmem | hmem
        · exact hsilent hmem
        · cases List.mem_singleton.mp hmem

/-- What is plain about expressions with one amount of fuel. -/
structure EvalsPlain (fuel : Nat) : Prop where
  eval : ∀ e, Plain (logEval ownEvents fuel e)
  call : ∀ name arguments, Plain (logCall ownEvents fuel name arguments)
  arguments : ∀ parameters arguments, Plain (logArguments ownEvents fuel parameters arguments)

theorem EvalsPlain.option (hplain : EvalsPlain fuel) (absent : Value) (e : Option Expr) :
    Plain (logOption ownEvents fuel absent e) := by
  cases e with
  | none => exact Plain.pure absent
  | some e => exact hplain.eval e

theorem EvalsPlain.eval_succ (hplain : EvalsPlain fuel) (e : Expr) :
    Plain (logEval ownEvents (fuel + 1) e) := by
  cases e with
  | literal kind value => exact Plain.pure value
  | reference name => exact Plain.act (Spares.lookup name)
  | binary left op right =>
    exact (hplain.eval left).bind fun _ => (hplain.eval right).bind fun _ =>
      Plain.act (Spares.lift _)
  | unary op operand => exact (hplain.eval operand).bind fun _ => Plain.act (Spares.lift _)
  | group inner => exact hplain.eval inner
  | input prompt =>
    exact (hplain.eval prompt).bind fun _ => (Plain.act (Spares.lift _)).bind fun text =>
      (Plain.note rfl).bind fun _ =>
        Plain.act (Spares.ask (fun _ _ => rfl) (fun _ _ _ => rfl) text)
  | call name arguments => exact hplain.call name arguments
  | unknown node => exact Plain.throw _

theorem EvalsPlain.call_succ (hplain : EvalsPlain fuel) (name : String) (arguments : List Expr) :
    Plain (logCall ownEvents (fuel + 1) name arguments) := by
  rw [logCall]
  refine Plain.calling ((Plain.note rfl).bind fun _ => ?_) _
  refine (Plain.act (Spares.lookupFunction name)).bind fun function => ?_
  exact Plain.ite (Plain.throw _) ((hplain.arguments _ _).bind fun _ => Plain.pure function)

theorem evalsPlain (fuel : Nat) : EvalsPlain fuel := by
  induction fuel with
  | zero => exact ⟨fun _ => Plain.throw _, fun _ _ => Plain.throw _, fun _ _ => Plain.throw _⟩
  | succ fuel ih =>
    refine ⟨ih.eval_succ, ih.call_succ, fun parameters arguments => ?_⟩
    rcases parameters with _ | ⟨parameter, parameters⟩
    · exact Plain.pure ()
    rcases arguments with _ | ⟨argument, arguments⟩
    · exact Plain.pure ()
    exact (ih.eval argument).bind fun _ =>
      (Plain.assign _ _).bind fun _ => ih.arguments _ _

end

/-! ## Statements -/

theorem event_of_bind {α β : Type} {run : Log Event α} {next : α → Log Event β} {machine : Machine}
    {before later : List Event} {event : Event}
    (h : (run >>= next).entries machine = before ++ event :: later) :
    (∃ rest, run.entries machine = before ++ event :: rest ∧
      ∀ a middle, run.result machine = .ok a middle → later = rest ++ (next a).entries middle) ∨
    ∃ a middle front, run.result machine = .ok a middle ∧
      (next a).entries middle = front ++ event :: later := by
  cases hresult : run.result machine with
  | error stop middle =>
    rw [entries_bind_of_error hresult] at h
    exact Or.inl ⟨later, h, by simp⟩
  | ok a middle =>
    rw [entries_bind_of_ok hresult] at h
    rcases List.append_eq_append_iff.mp h with ⟨front, -, hmore⟩ | ⟨rest, hevents, hrest⟩
    · exact Or.inr ⟨a, middle, front, rfl, hmore⟩
    rcases List.cons_eq_append_iff.mp hrest with ⟨rfl, hmore⟩ | ⟨tail, rfl, hlater⟩
    · exact Or.inr ⟨a, middle, [], rfl, hmore⟩
    · refine Or.inl ⟨tail, hevents, ?_⟩
      rintro _ _ ⟨⟩
      exact hlater

/-- A logged run of statements with a number of loops around them. -/
structure Orderly (depth : Nat) (run : Log Event Unit) : Prop where
  tracks : Tracks run
  /-- No return has fewer loops around it. -/
  deep : ∀ ⦃machine before inner value later⦄,
    run.entries machine = before ++ .gave inner value :: later → depth ≤ inner
  /-- A return with no more loops around it is the last thing that happens. -/
  last : ∀ ⦃machine before value later⦄,
    run.entries machine = before ++ .gave depth value :: later →
      later = [] ∧ ∃ after, run.result machine = .ok () after ∧
        after.returning = true ∧ after.returned = value
  /-- After a return in a loop, the loop looks at its condition again. -/
  retests : ∀ ⦃machine after before inner value later⦄, run.result machine = .ok () after →
    run.entries machine = before ++ .gave inner value :: later → depth < inner →
      Event.tested ∈ later

/-- A logged run of a loop with a number of loops around it. -/
structure Looping (depth : Nat) (run : Log Event Unit) : Prop where
  tracks : Tracks run
  deep : ∀ ⦃machine before inner value later⦄,
    run.entries machine = before ++ .gave inner value :: later → depth < inner
  retests : ∀ ⦃machine after before inner value later⦄, run.result machine = .ok () after →
    run.entries machine = before ++ .gave inner value :: later → Event.tested ∈ later

section

variable {α : Type} {depth : Nat}

variable {before later : List Event} {inner fuel : Nat} {value : Value} {run : Log Event Unit}
  {next : α → Log Event Unit}

theorem Plain.not_gave {run : Log Event α} (hrun : Plain run) {machine : Machine} :
    run.entries machine ≠ before ++ .gave inner value :: later := by
  intro hevents
  exact hrun.silent machine inner value (by simp [hevents])

theorem Looping.of_plain (hrun : Plain run) : Looping depth run where
  tracks := hrun.tracks
  deep _ _ _ _ _ hevents := (hrun.not_gave hevents).elim
  retests _ _ _ _ _ _ _ hevents := (hrun.not_gave hevents).elim

theorem Looping.orderly (hrun : Looping depth run) : Orderly depth run where
  tracks := hrun.tracks
  deep _ _ _ _ _ hevents := Nat.le_of_lt (hrun.deep hevents)
  last _ _ _ _ hevents := absurd (hrun.deep hevents) (Nat.lt_irrefl depth)
  retests _ _ _ _ _ _ hresult hevents _ := hrun.retests hresult hevents

theorem Orderly.of_plain (hrun : Plain run) : Orderly depth run :=
  (Looping.of_plain hrun).orderly

theorem Plain.gave_of_bind {run : Log Event α} (hrun : Plain run) {machine : Machine}
    (h : (run >>= next).entries machine = before ++ .gave inner value :: later) :
    ∃ a middle front, run.result machine = .ok a middle ∧
      (next a).entries middle = front ++ .gave inner value :: later := by
  rcases event_of_bind h with ⟨rest, hevents, -⟩ | hnext
  · exact (hrun.not_gave hevents).elim
  · exact hnext

theorem Plain.bind_orderly {run : Log Event α} (hrun : Plain run)
    (hnext : ∀ a, Orderly depth (next a)) : Orderly depth (run >>= next) where
  tracks := hrun.tracks.bind fun a => (hnext a).tracks
  deep machine before inner value later hevents := by
    obtain ⟨a, middle, front, -, hmore⟩ := hrun.gave_of_bind hevents
    exact (hnext a).deep hmore
  last machine before value later hevents := by
    obtain ⟨a, middle, front, hmiddle, hmore⟩ := hrun.gave_of_bind hevents
    rw [result_bind, bind_of_ok hmiddle]
    exact (hnext a).last hmore
  retests machine after before inner value later hresult hevents hdepth := by
    obtain ⟨a, middle, front, hmiddle, hmore⟩ := hrun.gave_of_bind hevents
    rw [result_bind, bind_of_ok hmiddle] at hresult
    exact (hnext a).retests hresult hmore hdepth

theorem Plain.bind_looping {run : Log Event α} (hrun : Plain run)
    (hnext : ∀ a, Looping depth (next a)) : Looping depth (run >>= next) where
  tracks := hrun.tracks.bind fun a => (hnext a).tracks
  deep machine before inner value later hevents := by
    obtain ⟨a, middle, front, -, hmore⟩ := hrun.gave_of_bind hevents
    exact (hnext a).deep hmore
  retests machine after before inner value later hresult hevents := by
    obtain ⟨a, middle, front, hmiddle, hmore⟩ := hrun.gave_of_bind hevents
    rw [result_bind, bind_of_ok hmiddle] at hresult
    exact (hnext a).retests hresult hmore

theorem Orderly.ite {condition : Prop} [Decidable condition] {other : Log Event Unit}
    (hrun : Orderly depth run) (hother : Orderly depth other) :
    Orderly depth (if condition then run else other) := by
  split
  · exact hrun
  · exact hother

theorem Looping.ite {condition : Prop} [Decidable condition] {other : Log Event Unit}
    (hrun : Looping depth run) (hother : Looping depth other) :
    Looping depth (if condition then run else other) := by
  split
  · exact hrun
  · exact hother

theorem gave_of_singleton {given : Value}
    (h : [Event.gave depth value] = before ++ .gave inner given :: later) :
    inner = depth ∧ given = value ∧ later = [] := by
  rcases List.singleton_eq_append_iff.mp h with ⟨-, hcons⟩ | ⟨-, hcons⟩
  · cases hcons
    exact ⟨rfl, rfl, rfl⟩
  · cases hcons

theorem Orderly.gave (depth : Nat) (value : Value) :
    Orderly depth (do
      act (modify fun machine => { machine with returning := true, returned := value })
      note [.gave depth value]) where
  tracks := by
    rintro machine _ _ ⟨⟩
    rfl
  deep machine before inner given later hevents := by
    obtain ⟨rfl, -, -⟩ := gave_of_singleton hevents
    exact Nat.le_refl inner
  last machine before given later hevents := by
    obtain ⟨-, rfl, rfl⟩ := gave_of_singleton hevents
    exact ⟨rfl, _, rfl, rfl, rfl⟩
  retests machine after before inner given later _ hevents hdepth := by
    obtain ⟨rfl, -, -⟩ := gave_of_singleton hevents
    exact absurd hdepth (Nat.lt_irrefl inner)

theorem Orderly.bind_skipping {next : Log Event Unit} (hrun : Orderly depth run)
    (hnext : Orderly depth next) (hskips : ∀ machine, machine.returning = true →
      next.entries machine = [] ∧ next.result machine = .ok () machine) :
    Orderly depth (run >>= fun _ => next) where
  tracks := hrun.tracks.bind fun _ => hnext.tracks
  deep machine before inner value later hevents := by
    rcases event_of_bind hevents with ⟨rest, hfirst, -⟩ | ⟨_, middle, front, -, hsecond⟩
    · exact hrun.deep hfirst
    · exact hnext.deep hsecond
  last machine before value later hevents := by
    rcases event_of_bind hevents with ⟨rest, hfirst, hlater⟩ | ⟨_, middle, front, hmiddle, hsecond⟩
    · obtain ⟨rfl, middle, hmiddle, hreturning, hreturned⟩ := hrun.last hfirst
      obtain ⟨hnone, hends⟩ := hskips middle hreturning
      rw [result_bind, bind_of_ok hmiddle, hlater _ _ hmiddle]
      exact ⟨hnone, middle, hends, hreturning, hreturned⟩
    · rw [result_bind, bind_of_ok hmiddle]
      exact hnext.last hsecond
  retests machine after before inner value later hends hevents hdepth := by
    rw [result_bind] at hends
    obtain ⟨_, middle, hmiddle, hafter⟩ := bind_eq_ok_iff.mp hends
    rcases event_of_bind hevents with ⟨rest, hfirst, hlater⟩ | ⟨_, _, front, hmiddle', hsecond⟩
    · rw [hlater _ _ hmiddle]
      exact List.mem_append_left _ (hrun.retests hmiddle hfirst hdepth)
    · rw [hmiddle] at hmiddle'
      cases hmiddle'
      exact hnext.retests hafter hsecond hdepth

/-! ## Loops -/

/-- A logged run that looks at a condition before it ends. -/
def Tests (run : Log Event α) : Prop :=
  ∀ ⦃machine a after⦄, run.result machine = .ok a after → Event.tested ∈ run.entries machine

theorem Tests.note (next : Unit → Log Event α) : Tests (note [.tested] >>= next) := by
  intro machine a after _
  have hnoted : (Log.note [Event.tested]).result machine = .ok () machine := rfl
  rw [entries_bind_of_ok hnoted]
  exact List.mem_append_left _ List.mem_cons_self

theorem Tests.bind {β : Type} (run : Log Event β) {next : β → Log Event α}
    (hnext : ∀ b, Tests (next b)) :
    Tests (run >>= next) := by
  intro machine a after h
  rw [result_bind] at h
  obtain ⟨b, middle, hmiddle, hafter⟩ := bind_eq_ok_iff.mp h
  rw [entries_bind_of_ok hmiddle]
  exact List.mem_append_right _ (hnext b hafter)

theorem Looping.turn {next : Log Event Unit} (hrun : Orderly (depth + 1) run)
    (hnext : Looping depth next) (htests : Tests next) :
    Looping depth (run >>= fun _ => next) where
  tracks := hrun.tracks.bind fun _ => hnext.tracks
  deep machine before inner value later hevents := by
    rcases event_of_bind hevents with ⟨rest, hfirst, -⟩ | ⟨_, middle, front, -, hsecond⟩
    · exact hrun.deep hfirst
    · exact hnext.deep hsecond
  retests machine after before inner value later hends hevents := by
    rw [result_bind] at hends
    obtain ⟨_, middle, hmiddle, hafter⟩ := bind_eq_ok_iff.mp hends
    rcases event_of_bind hevents with ⟨rest, -, hlater⟩ | ⟨_, _, front, hmiddle', hsecond⟩
    · rw [hlater _ _ hmiddle]
      exact List.mem_append_right _ (htests hafter)
    · rw [hmiddle] at hmiddle'
      cases hmiddle'
      exact hnext.retests hafter hsecond

/-- Where returns stand in the lists of statements with one amount of fuel. -/
structure ExecsOrderly (fuel : Nat) : Prop where
  exec : ∀ depth statement, Orderly depth (logExec ownEvents fuel depth statement)
  block : ∀ depth statements, Orderly depth (logBlock ownEvents fuel depth statements)
  loop : ∀ depth condition body, Looping depth (logLoop ownEvents fuel depth condition body)
  count : ∀ depth count body current,
    Looping depth (logCount ownEvents fuel depth count body current)

theorem tests_logLoop (fuel depth : Nat) (condition : Expr) (body : Stmt) :
    Tests (logLoop ownEvents fuel depth condition body) := by
  cases fuel with
  | zero => rintro _ _ _ ⟨⟩
  | succ fuel =>
    rw [logLoop]
    exact Tests.note _

theorem tests_logCount (fuel depth : Nat) (count : Count) (body : Stmt) (current : Number) :
    Tests (logCount ownEvents fuel depth count body current) := by
  cases fuel with
  | zero => rintro _ _ _ ⟨⟩
  | succ fuel =>
    rw [logCount]
    exact Tests.note _

theorem ExecsOrderly.countLoop (horderly : ExecsOrderly fuel) (depth : Nat) (name : String)
    (body : Stmt) (start stop step : Value) :
    Looping depth (logCountLoop ownEvents fuel depth name body start stop step) := by
  unfold logCountLoop
  split
  · exact (Plain.assign _ _).bind_looping fun _ =>
      Looping.ite (horderly.count _ _ _ _) (Looping.of_plain (Plain.throw _))
  · exact Looping.of_plain (Plain.throw _)

theorem ExecsOrderly.exec_succ (horderly : ExecsOrderly fuel) (depth : Nat) (statement : Stmt) :
    Orderly depth (logExec ownEvents (fuel + 1) depth statement) := by
  have heval := (evalsPlain fuel).eval
  cases statement with
  | say e =>
    refine Orderly.of_plain ((Plain.note rfl).bind fun _ => (heval e).bind fun _ => ?_)
    refine (Plain.act (Spares.lift _)).bind fun line => ?_
    exact (Plain.act (Spares.say (fun _ _ => rfl) (fun _ _ => rfl) line)).bind fun _ =>
      Plain.note rfl
  | assign name e =>
    exact Orderly.of_plain ((Plain.note rfl).bind fun _ => (heval e).bind fun _ =>
      Plain.assign _ _)
  | block body => exact (Plain.note rfl).bind_orderly fun _ => horderly.block depth body
  | define name parameters body =>
    exact Orderly.of_plain ((Plain.note rfl).bind fun _ =>
      Plain.act (Spares.define (fun _ _ => rfl) _))
  | give e =>
    rw [logExec_give]
    exact (Plain.note rfl).bind_orderly fun _ =>
      ((evalsPlain fuel).option _ e).bind_orderly fun value => Orderly.gave depth value
  | branch condition thenBranch elseBranch =>
    refine (Plain.note rfl).bind_orderly fun _ => (heval condition).bind_orderly fun _ => ?_
    refine Orderly.ite (horderly.exec depth thenBranch) ?_
    cases elseBranch with
    | none => exact Orderly.of_plain (Plain.pure ())
    | some elseBranch => exact horderly.exec depth elseBranch
  | loop condition body =>
    exact (Plain.note rfl).bind_orderly fun _ => (horderly.loop depth condition body).orderly
  | count name start stop step body =>
    rw [logExec_count]
    exact (Plain.note rfl).bind_orderly fun _ => (heval start).bind_orderly fun _ =>
      (heval stop).bind_orderly fun _ => ((evalsPlain fuel).option _ step).bind_orderly fun _ =>
        (horderly.countLoop depth name body _ _ _).orderly
  | unknown node => exact Orderly.of_plain ((Plain.note rfl).bind fun _ => Plain.throw _)

theorem ExecsOrderly.block_succ (horderly : ExecsOrderly fuel) (depth : Nat)
    (statements : List Stmt) : Orderly depth (logBlock ownEvents (fuel + 1) depth statements) := by
  cases statements with
  | nil => exact Orderly.of_plain (Plain.pure ())
  | cons statement rest =>
    refine (Plain.act fun _ => rfl).bind_orderly fun machine => ?_
    refine Orderly.ite (Orderly.of_plain (Plain.pure ())) ?_
    cases fuel with
    | zero =>
      -- Without fuel the statement gives nothing, and there is nothing to leave out after it.
      exact (Plain.throw .exhausted).bind_orderly fun _ => horderly.block depth rest
    | succ fuel =>
      refine (horderly.exec depth statement).bind_skipping (horderly.block depth rest) ?_
      intro machine hreturning
      cases rest with
      | nil => exact ⟨rfl, rfl⟩
      | cons next rest =>
        have hget : (act get : Log Event _).result machine = .ok machine machine := rfl
        rw [logBlock, entries_bind_of_ok hget, result_bind, bind_of_ok hget, if_pos hreturning]
        exact ⟨rfl, rfl⟩

theorem execsOrderly (fuel : Nat) : ExecsOrderly fuel := by
  induction fuel with
  | zero =>
    refine ⟨fun _ _ => Orderly.of_plain ?_, fun _ _ => Orderly.of_plain ?_,
      fun _ _ _ => Looping.of_plain ?_, fun _ _ _ _ => Looping.of_plain ?_⟩
    all_goals exact Plain.throw _
  | succ fuel ih =>
    refine ⟨ih.exec_succ, ih.block_succ, fun depth condition body => ?_,
      fun depth count body current => ?_⟩
    · rw [logLoop]
      refine (Plain.note rfl).bind_looping fun _ =>
        ((evalsPlain fuel).eval condition).bind_looping fun _ =>
          Looping.ite ?_ (Looping.of_plain (Plain.pure ()))
      exact Looping.turn (ih.exec (depth + 1) body) (ih.loop depth condition body)
        (tests_logLoop fuel depth condition body)
    · rw [logCount]
      refine (Plain.note rfl).bind_looping fun _ =>
        Looping.ite ?_ (Looping.of_plain (Plain.pure ()))
      refine Looping.turn (ih.exec (depth + 1) body) ?_ ?_
      · exact (Plain.act (Spares.lift _)).bind_looping fun _ =>
          (Plain.assign _ _).bind_looping fun _ =>
            ih.count depth count body _
      · exact Tests.bind _ fun _ => Tests.bind _ fun _ => tests_logCount fuel depth count body _

end

/-! ## Calls -/

theorem foldl_register {events : List Event}
    (hsilent : ∀ depth value, Event.gave depth value ∉ events) (kept : Value) :
    events.foldl Event.register kept = (lastAnswer? events).getD kept := by
  induction events generalizing kept with
  | nil => rfl
  | cons event events ih =>
    have hrest (depth : Nat) (value : Value) : Event.gave depth value ∉ events := by
      intro hmem
      exact hsilent depth value (List.mem_cons_of_mem _ hmem)
    rw [List.foldl_cons, ih hrest]
    cases event with
    | answered value =>
      show _ = (value :: events.filterMap Event.answer?).getLast?.getD kept
      rw [List.getLast?_cons]
      rfl
    | gave depth value => exact (hsilent depth value List.mem_cons_self).elim
    | _ => rfl

/-- A call whose activation executes no return gives what the last call made by the activation gave.
It gives nothing exactly if that gave nothing or no call was made. -/
theorem call_eq_lastAnswer {fuel : Nat} {name : String} {arguments : List Expr}
    {machine after : Machine} {value : Value}
    (hsilent : ∀ depth given, Event.gave depth given ∉ activation fuel name arguments machine)
    (hcall : call fuel name arguments machine = .ok value after) :
    value = (lastAnswer? (activation fuel name arguments machine)).getD .nothing ∧
      (value = .nothing ↔ lastAnswer? (activation fuel name arguments machine) = none ∨
        lastAnswer? (activation fuel name arguments machine) = some .nothing) := by
  have hvalue : value = (lastAnswer? (activation fuel name arguments machine)).getD .nothing := by
    cases fuel with
    | zero =>
      rw [call] at hcall
      cases hcall
    | succ fuel =>
      obtain ⟨function, start, ended, hstart, hended, rfl, -⟩ := call_eq_ok_iff.mp hcall
      have hactivation : activation (fuel + 1) name arguments machine =
          (logExec ownEvents fuel 0 function.body).entries start := by
        rw [activation, hstart]
      rw [hactivation] at hsilent ⊢
      rw [← (logsNothingElse ownEvents fuel).exec 0] at hended
      have htracks := ((execsOrderly fuel).exec 0 function.body).tracks hended
      rw [htracks, returned_of_enter hstart, foldl_register hsilent]
  refine ⟨hvalue, ?_⟩
  rw [hvalue]
  cases lastAnswer? (activation fuel name arguments machine) <;> simp

/-- A machine that knows some functions. -/
def knowing (functions : List Function) : Machine :=
  { functions := ⟨functions.map fun function => (function.name, function)⟩ }

/-- A function without a return, which passes on what another one returned. -/
def passingOn : Machine :=
  knowing
    [⟨"inner", [], .block [.give (some (.literal .string (.text "five")))]⟩,
      ⟨"outer", [], .block [.assign "x" (.call "inner" [])]⟩]

theorem call_passingOn :
    call 12 "outer" [] passingOn = .ok (.text "five") { passingOn with returned := .text "five" } ∧
      lastAnswer? (activation 12 "outer" [] passingOn) = some (.text "five") ∧
      .text "five" = (lastAnswer? (activation 12 "outer" [] passingOn)).getD .nothing := by
  have hcall : call 12 "outer" [] passingOn =
      .ok (.text "five") { passingOn with returned := .text "five" } := by rfl
  have hactivation : activation 12 "outer" [] passingOn =
      [.began (.block [.assign "x" (.call "inner" [])]), .began (.assign "x" (.call "inner" [])),
        .called "inner", .answered (.text "five")] := by rfl
  have hsilent (depth : Nat) (given : Value) :
      Event.gave depth given ∉ activation 12 "outer" [] passingOn := by
    rw [hactivation]
    simp
  exact ⟨hcall, by rw [hactivation]; rfl, (call_eq_lastAnswer hsilent hcall).1⟩

/-- A return with no loop around it is the last thing its activation does, and the call gives its
value. After a return in a loop the activation goes on: the loop looks at its condition again. -/
theorem activation_after_gave {fuel : Nat} {name : String} {arguments : List Expr}
    {machine : Machine} {before later : List Event} {depth : Nat} {value : Value}
    (hgave : activation fuel name arguments machine = before ++ .gave depth value :: later) :
    (depth = 0 → later = [] ∧ ∃ after, call fuel name arguments machine = .ok value after) ∧
      (depth ≠ 0 → ∀ result after, call fuel name arguments machine = .ok result after →
        Event.tested ∈ later) := by
  cases fuel with
  | zero =>
    rw [activation] at hgave
    simp at hgave
  | succ fuel =>
    cases hstart : enter fuel name arguments machine with
    | error stop start =>
      rw [activation, hstart] at hgave
      simp at hgave
    | ok function start =>
      have hevents : (logExec ownEvents fuel 0 function.body).entries start =
          before ++ .gave depth value :: later := by
        rw [← hgave, activation, hstart]
      have horderly := (execsOrderly fuel).exec 0 function.body
      constructor
      · rintro rfl
        obtain ⟨hlater, ended, hended, -, hreturned⟩ := horderly.last hevents
        rw [(logsNothingElse ownEvents fuel).exec 0] at hended
        exact ⟨hlater, _, call_eq_ok_iff.mpr
          ⟨function, start, ended, hstart, hended, hreturned.symm, rfl⟩⟩
      · intro hdepth result after hcall
        obtain ⟨function', start', ended, hstart', hended, -, -⟩ := call_eq_ok_iff.mp hcall
        rw [hstart] at hstart'
        cases hstart'
        rw [← (logsNothingElse ownEvents fuel).exec 0] at hended
        exact horderly.retests hended hevents (Nat.pos_of_ne_zero hdepth)

/-- A function that returns from a loop whose condition calls a function, and returns again. -/
def returningTwice : Machine :=
  knowing
    [⟨"same", ["x"], .block [.give (some (.reference "x"))]⟩,
      ⟨"twice", [], .block
        [.assign "go" (.literal .boolean (.bool true)),
          .loop (.call "same" [.reference "go"]) (.block
            [.assign "go" (.literal .boolean (.bool false)),
              .give (some (.literal .string (.text "inside")))]),
          .give (some (.literal .string (.text "outside")))]⟩]

theorem activation_returningTwice :
    ∃ before between after,
      activation 14 "twice" [] returningTwice =
        before ++ .gave 1 (.text "inside") :: (between ++ [.gave 0 (.text "outside")]) ∧
      Event.tested ∈ between ++ [.gave 0 (.text "outside")] ∧
      call 14 "twice" [] returningTwice = .ok (.text "outside") after := by
  have hinside : activation 14 "twice" [] returningTwice =
      (activation 14 "twice" [] returningTwice).take 9 ++ .gave 1 (.text "inside") ::
        (((activation 14 "twice" [] returningTwice).drop 10).take 4 ++
          [.gave 0 (.text "outside")]) := by rfl
  have houtside : activation 14 "twice" [] returningTwice =
      (activation 14 "twice" [] returningTwice).take 14 ++ [.gave 0 (.text "outside")] := by rfl
  obtain ⟨-, after, hcall⟩ := (activation_after_gave houtside).1 rfl
  have htested := (activation_after_gave hinside).2 (by decide) _ _ hcall
  exact ⟨_, _, after, hinside, htested, hcall⟩

end Machine

end ScriptStudio
