import ScriptStudio.Proofs.Agreement
import ScriptStudio.Proofs.MachineFuel
import ScriptStudio.Proofs.NumberOrder
import ScriptStudio.Proofs.OpenCalls

/-!
# Counting loops

A counting loop keeps a counter of its own beside the variable that shows it: whatever the body
binds the variable to, the next round begins with the counter. This module lists the rounds of a
loop and counts them.

* `Header`, `header`: the three values between which a loop counts.
* `Rounds`, `roundsFrom`, `loopRounds`: the loop with a list of the machines at which its body
  begins. Nothing else is new in it (`result_loopRounds`).
* `roundsLeft`: how many values an integer progression has up to its end, upwards or downwards.
* `exec_count_progression`: between integers the body is executed once for each of these values.
* `store_of_refused_header`: what a loop leaves that cannot begin.
-/

namespace ScriptStudio

theorem Bindings.set_eq_self_iff {α : Type} (bindings : Bindings α) (name : String) (value : α) :
    bindings.set name value = bindings ↔ bindings.get? name = some value := by
  have hone : bindings.set name value = bindings.setAll [(name, value)] := rfl
  have hlast : ∀ other, last? other [(name, value)] = if other = name then some value else none :=
    fun other => last?_cons other (name, value) []
  simp [hone, setAll_eq_self_iff, hlast]

namespace Machine

/-! ## The header -/

/-- The values between which a loop counts. -/
structure Header where
  start : Value
  stop : Value
  step : Value

/-- The first number, the last one and the stride, if all of the values are numbers. -/
def Header.numbers? (values : Header) : Option (Number × Number × Number) := do
  return (← values.start.toNumeric.number?, ← values.stop.toNumeric.number?,
    ← values.step.toNumeric.number?)

/-- Evaluates the values between which a loop counts. Without a step it counts by one. -/
def header (fuel : Nat) (start stop : Expr) (step : Option Expr) : Exec Header := do
  let first ← eval fuel start
  let last ← eval fuel stop
  let stride ← evalOption fuel (.int 1) step
  return ⟨first, last, stride⟩

/-- A loop evaluates its header and then counts. -/
theorem exec_count_eq_header (fuel : Nat) (name : String) (start stop : Expr) (step : Option Expr)
    (body : Stmt) :
    exec (fuel + 1) (.count name start stop step body) = (do
      let values ← header fuel start stop step
      countLoop fuel name body values.start values.stop values.step) := by
  rw [exec_count, header]
  simp only [bind_assoc, pure_bind]

variable {values : Header} {fuel : Nat} {machine : Machine} {stride : Int} {count : Count}
  {current : Number} {body : Stmt}

theorem countLoop_of_numbers {first last stride : Number}
    (h : values.numbers? = some (first, last, stride)) (fuel : Nat) (name : String) (body : Stmt) :
    countLoop fuel name body values.start values.stop values.step = (do
      assign name values.start.toNumeric
      if stride.isPositive || stride.isNegative then
        execCount fuel ⟨name, last, stride⟩ body first
      else throw (.fault .loopStepZero)) := by
  simp only [Header.numbers?, Option.bind_eq_bind, Option.bind_eq_some_iff, Option.pure_def,
    Option.some.injEq, Prod.mk.injEq] at h
  obtain ⟨_, hstart, _, hstop, _, hstep, rfl, rfl, rfl⟩ := h
  rw [countLoop, hstart, hstop, hstep]

theorem countLoop_of_no_numbers (h : values.numbers? = none) (fuel : Nat) (name : String)
    (body : Stmt) :
    countLoop fuel name body values.start values.stop values.step =
      throw (.fault .loopNotNumeric) := by
  unfold countLoop
  split
  · rename_i hstart hstop hstep
    simp [Header.numbers?, hstart, hstop, hstep] at h
  · rfl

theorem header_improves (start stop : Expr) (step : Option Expr) (fuel : Nat) :
    Improves (header fuel start stop step) (header (fuel + 1) start stop step) :=
  have hruns := runsImprove fuel
  (hruns.eval start start.within_full).bind fun _ =>
    (hruns.eval stop stop.within_full).bind fun _ =>
      (hruns.evalOption Improves.stmtRules.toExprRules _ step (Expr.optionWithin_full step)).bind
        fun _ => Improves.refl _

/-- The header leaves the variables as they were. -/
theorem store_of_header {start stop : Expr} {step : Option Expr} {ready : Machine}
    (h : header fuel start stop step machine = .ok values ready) : ready.store = machine.store := by
  obtain ⟨first, started, hfirst, hrest⟩ := bind_eq_ok_iff.mp h
  obtain ⟨last, stopped, hlast, hrest⟩ := bind_eq_ok_iff.mp hrest
  obtain ⟨stride, stepped, hstride, hready⟩ := bind_eq_ok_iff.mp hrest
  cases hready
  have hstep : ready.store = stopped.store := by
    cases step with
    | none =>
      cases hstride
      rfl
    | some e => exact store_of_eval hstride
  rw [hstep, store_of_eval hlast, store_of_eval hfirst]

/-! ## Rounds -/

/-- One round of a loop: the body, and then the next value of the counter. -/
def countRound (fuel : Nat) (count : Count) (body : Stmt) (current : Number) : Exec Number := do
  exec fuel body
  let next ← lift ((current.add count.step).mapError .number)
  assign count.name (.ofNumber next)
  return next

theorem execCount_succ (fuel : Nat) (count : Count) (body : Stmt) (current : Number) :
    execCount (fuel + 1) count body current =
      if count.continues current then
        countRound fuel count body current >>= execCount fuel count body
      else pure () := by
  rw [execCount, countRound]
  simp only [bind_assoc, pure_bind]

theorem countRound_improves (count : Count) (body : Stmt) (current : Number) (fuel : Nat) :
    Improves (countRound fuel count body current) (countRound (fuel + 1) count body current) :=
  ((runsImprove fuel).exec body body.within_full).bind fun _ => Improves.refl _

/-- A loop that was run: the machines at which its body began, in order, and how the loop ended. -/
structure Rounds where
  begun : List Machine
  result : EStateM.Result Stop Machine Unit

/-- Executes a body for every value of the counter from the current one on, and lists where the body
begins. -/
def roundsFrom : (fuel : Nat) → Count → Stmt → Number → Machine → Rounds
  | 0, _, _, _, machine => ⟨[], .error .exhausted machine⟩
  | fuel + 1, count, body, current, machine =>
    if count.continues current then
      match countRound fuel count body current machine with
      | .ok next after =>
        let later := roundsFrom fuel count body next after
        ⟨machine :: later.begun, later.result⟩
      | .error stop after => ⟨[machine], .error stop after⟩
    else ⟨[], .ok () machine⟩

theorem result_roundsFrom (fuel : Nat) (count : Count) (body : Stmt) (current : Number)
    (machine : Machine) :
    (roundsFrom fuel count body current machine).result =
      execCount fuel count body current machine := by
  induction fuel generalizing current machine with
  | zero => rw [roundsFrom, execCount]; rfl
  | succ fuel ih =>
    rw [roundsFrom, execCount_succ]
    split
    · cases hround : countRound fuel count body current machine with
      | ok next after =>
        rw [bind_of_ok hround]
        exact ih next after
      | error stop after => rw [bind_of_error hround]
    · rfl

/-- With more fuel a loop gets further. -/
theorem begun_prefix_of_le {more : Nat} (hle : fuel ≤ more) (count : Count) (body : Stmt)
    (current : Number) (machine : Machine) :
    (roundsFrom fuel count body current machine).begun <+:
      (roundsFrom more count body current machine).begun := by
  induction fuel generalizing more current machine with
  | zero =>
    rw [roundsFrom]
    exact List.nil_prefix
  | succ fuel ih =>
    obtain ⟨more, rfl⟩ : ∃ less, more = less + 1 := ⟨more - 1, by omega⟩
    have hle : fuel ≤ more := Nat.le_of_succ_le_succ hle
    rw [roundsFrom, roundsFrom]
    split
    · cases hround : countRound fuel count body current machine with
      | ok next after =>
        rw [Improves.ok_of_le (countRound_improves count body current) hle hround]
        exact List.cons_prefix_cons.mpr ⟨rfl, ih hle next after⟩
      | error stop after =>
        -- with more fuel the round may end after all, but its body began here all the same
        cases countRound more count body current machine with
        | ok next after => exact List.cons_prefix_cons.mpr ⟨rfl, List.nil_prefix⟩
        | error stop after => exact List.prefix_refl _
    · exact List.prefix_refl _

/-- Executes a counting loop, header and all, and lists where its body begins. -/
def loopRounds : (fuel : Nat) → String → (start stop : Expr) → (step : Option Expr) → Stmt →
    Machine → Rounds
  | 0, _, _, _, _, _, machine => ⟨[], .error .exhausted machine⟩
  | fuel + 1, name, start, stop, step, body, machine =>
    match header fuel start stop step machine with
    | .error cause after => ⟨[], .error cause after⟩
    | .ok values ready =>
      match values.numbers? with
      | none => ⟨[], .error (.fault .loopNotNumeric) ready⟩
      | some (first, last, stride) =>
        let begins := { ready with store := ready.store.set name values.start.toNumeric }
        if stride.isPositive || stride.isNegative then
          roundsFrom fuel ⟨name, last, stride⟩ body first begins
        else ⟨[], .error (.fault .loopStepZero) begins⟩

section

variable {fuel : Nat} {start stop : Expr} {step : Option Expr} {values : Header}
  {machine ready : Machine} (hheader : header fuel start stop step machine = .ok values ready)

include hheader

theorem loopRounds_of_no_numbers (hnumbers : values.numbers? = none) (name : String)
    (body : Stmt) :
    loopRounds (fuel + 1) name start stop step body machine =
      ⟨[], .error (.fault .loopNotNumeric) ready⟩ := by
  simp only [loopRounds, hheader, hnumbers]

theorem loopRounds_of_numbers {first last stride : Number}
    (hnumbers : values.numbers? = some (first, last, stride)) (name : String) (body : Stmt) :
    loopRounds (fuel + 1) name start stop step body machine =
      if stride.isPositive || stride.isNegative then
        roundsFrom fuel ⟨name, last, stride⟩ body first
          { ready with store := ready.store.set name values.start.toNumeric }
      else ⟨[], .error (.fault .loopStepZero)
        { ready with store := ready.store.set name values.start.toNumeric }⟩ := by
  simp only [loopRounds, hheader, hnumbers]

end

/-- Listing the rounds changes nothing. -/
theorem result_loopRounds (fuel : Nat) (name : String) (start stop : Expr) (step : Option Expr)
    (body : Stmt) (machine : Machine) :
    (loopRounds fuel name start stop step body machine).result =
      exec fuel (.count name start stop step body) machine := by
  cases fuel with
  | zero => rw [loopRounds, exec]; rfl
  | succ fuel =>
    rw [exec_count_eq_header]
    cases hheader : header fuel start stop step machine with
    | error cause after => rw [bind_of_error hheader, loopRounds, hheader]
    | ok values ready =>
      rw [bind_of_ok hheader]
      cases hnumbers : values.numbers? with
      | none =>
        rw [countLoop_of_no_numbers hnumbers, loopRounds_of_no_numbers hheader hnumbers]
        rfl
      | some numbers =>
        obtain ⟨first, last, stride⟩ := numbers
        rw [countLoop_of_numbers hnumbers, loopRounds_of_numbers hheader hnumbers,
          bind_of_ok (assign_apply _ _ _)]
        split
        · exact result_roundsFrom _ _ _ _ _
        · rfl

/-! ## Integer progressions -/

theorem isPositive_int (n : Int) : (Number.int n).isPositive = decide (0 < n) := by
  rw [Bool.eq_iff_iff]
  simp [Number.isPositive, Number.compare?, Int.compare_eq_gt]

theorem isNegative_int (n : Int) : (Number.int n).isNegative = decide (n < 0) := by
  rw [Bool.eq_iff_iff]
  simp [Number.isNegative, Number.compare?, Int.compare_eq_lt]

/-- How many values of a progression have not passed its end. -/
def roundsLeft (first last stride : Int) : Nat := (max 0 ((last - first).fdiv stride + 1)).toNat

theorem roundsLeft_pos_iff (hstride : stride ≠ 0) (first last : Int) :
    0 < roundsLeft first last stride ↔
      if 0 < stride then first ≤ last else last ≤ first := by
  have hleft : 0 < roundsLeft first last stride ↔ 0 ≤ (last - first).fdiv stride := by
    unfold roundsLeft
    omega
  rw [hleft]
  split
  · rename_i hup
    rw [Int.fdiv_eq_ediv_of_nonneg _ hup.le, Int.ediv_nonneg_iff_of_pos hup]
    omega
  · rename_i hdown
    have hdown : 0 < -stride := by omega
    -- a progression downwards is one upwards with the signs changed
    rw [← Int.neg_fdiv_neg, Int.fdiv_eq_ediv_of_nonneg _ hdown.le, Int.ediv_nonneg_iff_of_pos hdown]
    omega

/-- Each step takes one value off. -/
theorem roundsLeft_add_stride (hstride : stride ≠ 0) (first last : Int) :
    roundsLeft (first + stride) last stride = roundsLeft first last stride - 1 := by
  have hstep : (last - (first + stride)).fdiv stride = (last - first).fdiv stride - 1 := by
    have hnext : last - (first + stride) = last - first + -1 * stride := by omega
    rw [hnext, Int.add_mul_fdiv_right _ _ hstride]
    rfl
  unfold roundsLeft
  rw [hstep]
  omega

theorem continues_int (hstride : stride ≠ 0) (name : String) (first last : Int) :
    (Count.mk name (.int last) (.int stride)).continues (.int first) =
      decide (0 < roundsLeft first last stride) := by
  rw [Bool.eq_iff_iff, decide_eq_true_iff, roundsLeft_pos_iff hstride]
  simp only [Count.continues, isPositive_int, decide_eq_true_iff]
  split
  · simp only [Value.holds, Number.compare?, Bool.or_eq_true, beq_iff_eq, Option.some.injEq,
      Int.compare_eq_lt, Int.compare_eq_eq]
    omega
  · simp only [Value.holds, Number.compare?, Bool.or_eq_true, beq_iff_eq, Option.some.injEq,
      Int.compare_eq_gt, Int.compare_eq_eq]
    omega

/-! ## Loops between integers -/

theorem roundsFrom_of_passed (hpassed : count.continues current = false) (fuel : Nat) (body : Stmt)
    (machine : Machine) :
    roundsFrom (fuel + 1) count body current machine = ⟨[], .ok () machine⟩ := by
  rw [roundsFrom, hpassed]
  rfl

theorem roundsFrom_of_round {next : Number} {after : Machine}
    (hgoes : count.continues current = true)
    (hround : countRound fuel count body current machine = .ok next after) :
    roundsFrom (fuel + 1) count body current machine =
      ⟨machine :: (roundsFrom fuel count body next after).begun,
        (roundsFrom fuel count body next after).result⟩ := by
  rw [roundsFrom, hgoes, hround]
  rfl

/-- The body begins where the counter is tested and goes on. -/
theorem mem_begun_of_continues (hgoes : count.continues current = true) (body : Stmt)
    (machine : Machine) : machine ∈ (roundsFrom 1 count body current machine).begun := by
  rw [roundsFrom, hgoes, if_pos rfl]
  cases countRound 0 count body current machine <;> exact List.mem_cons_self

theorem exists_round {name : String} {first last : Int}
    (hgoes : (Count.mk name (.int last) (.int stride)).continues (.int first) = true) {enough : Nat}
    {ended : Machine} (hended : exec enough body machine = .ok () ended) :
    ∃ after, after.store.get? name = some (.int (first + stride)) ∧
      ∀ fuel, enough ≤ fuel →
        roundsFrom (fuel + 1) ⟨name, .int last, .int stride⟩ body (.int first) machine =
          ⟨machine :: (roundsFrom fuel ⟨name, .int last, .int stride⟩ body (.int (first + stride))
              after).begun,
            (roundsFrom fuel ⟨name, .int last, .int stride⟩ body (.int (first + stride))
              after).result⟩ := by
  refine ⟨{ ended with store := ended.store.set name (.int (first + stride)) },
    Bindings.get?_set_self _ _ _, fun fuel hfuel => roundsFrom_of_round hgoes ?_⟩
  have hended : exec fuel body machine = .ok () ended :=
    Improves.ok_of_le (fun fuel => (runsImprove fuel).exec body body.within_full) hfuel hended
  rw [countRound, bind_of_ok hended]
  rfl

theorem roundsFrom_progression {name : String} {first last : Int} (hstride : stride ≠ 0)
    (hshown : machine.store.get? name = some (.int first))
    (hbody : ∀ fuel, ∀ begun ∈ (roundsFrom fuel ⟨name, .int last, .int stride⟩ body (.int first)
      machine).begun, ∃ enough ended, exec enough body begun = .ok () ended) :
    ∃ (begun : List Machine) (after : Machine) (enough : Nat),
      (∀ fuel, enough ≤ fuel →
        roundsFrom fuel ⟨name, .int last, .int stride⟩ body (.int first) machine =
          ⟨begun, .ok () after⟩) ∧
      begun.length = roundsLeft first last stride ∧
      (∀ (k : Nat) (begins : Machine), begun[k]? = some begins →
        begins.store.get? name = some (.int (first + k * stride))) ∧
      after.store.get? name = some (.int (first + begun.length * stride)) := by
  generalize hleft : roundsLeft first last stride = left
  induction left generalizing first machine with
  | zero =>
    have hpassed : (Count.mk name (.int last) (.int stride)).continues (.int first) = false := by
      rw [continues_int hstride, hleft]
      rfl
    refine ⟨[], machine, 1, fun fuel hfuel => ?_, rfl, by simp, by simpa using hshown⟩
    obtain ⟨fuel, rfl⟩ : ∃ less, fuel = less + 1 := ⟨fuel - 1, by omega⟩
    exact roundsFrom_of_passed hpassed fuel body machine
  | succ left ih =>
    have hgoes : (Count.mk name (.int last) (.int stride)).continues (.int first) = true := by
      rw [continues_int hstride, hleft]
      simp
    -- one unit of fuel suffices for the body to begin, though not for it to end
    obtain ⟨enough, ended, hended⟩ := hbody 1 machine (mem_begun_of_continues hgoes body machine)
    obtain ⟨next, hnext, hround⟩ := exists_round hgoes hended
    have hlater : ∀ fuel, ∀ begun ∈ (roundsFrom fuel ⟨name, .int last, .int stride⟩ body
        (.int (first + stride)) next).begun, ∃ enough ended, exec enough body begun =
          .ok () ended := by
      intro fuel begun hbegun
      refine hbody (max fuel enough + 1) begun ?_
      rw [hround _ (le_max_right _ _)]
      exact List.mem_cons_of_mem _
        ((begun_prefix_of_le (le_max_left _ _) _ _ _ _).subset hbegun)
    obtain ⟨begun, after, more, hrest, hlength, hvalues, hafter⟩ := ih hnext hlater
      (by rw [roundsLeft_add_stride hstride, hleft, Nat.add_sub_cancel])
    refine ⟨machine :: begun, after, max enough more + 1, fun fuel hfuel => ?_, ?_, ?_, ?_⟩
    · obtain ⟨fuel, rfl⟩ : ∃ less, fuel = less + 1 := ⟨fuel - 1, by omega⟩
      rw [hround fuel (by omega), hrest fuel (by omega)]
    · rw [List.length_cons, hlength]
    · intro k begins hk
      cases k with
      | zero =>
        cases hk
        simpa using hshown
      | succ k =>
        rw [hvalues k begins hk, Nat.cast_succ, add_one_mul, add_assoc, add_comm stride]
    · rw [hafter, List.length_cons, Nat.cast_succ, add_one_mul, add_assoc, add_comm stride]

/-- A loop between integers whose body ends each time that it is executed ends itself. The body is
executed once for each value of the progression that has not passed the end. Each execution finds
the variable at its value, whatever the body made of it before, and the loop leaves the variable at
the first value that is past the end. -/
theorem exec_count_progression {fuel : Nat} {name : String} {start stop : Expr}
    {step : Option Expr} {body : Stmt} {values : Header} {machine ready : Machine}
    {first last stride : Int} (hheader : header fuel start stop step machine = .ok values ready)
    (hfirst : values.start.toNumeric = .int first) (hlast : values.stop.toNumeric = .int last)
    (hstride : values.step.toNumeric = .int stride) (hnonzero : stride ≠ 0)
    (hbody : ∀ fuel, ∀ begun ∈ (loopRounds fuel name start stop step body machine).begun,
      ∃ enough ended, exec enough body begun = .ok () ended) :
    ∃ (begun : List Machine) (after : Machine) (enough : Nat),
      (∀ fuel, enough ≤ fuel →
        exec fuel (.count name start stop step body) machine = .ok () after ∧
          (loopRounds fuel name start stop step body machine).begun = begun) ∧
      (begun.length : Int) = max 0 ((last - first).fdiv stride + 1) ∧
      (∀ (k : Nat) (begins : Machine), begun[k]? = some begins →
        begins.store.get? name = some (.int (first + k * stride))) ∧
      after.store.get? name = some (.int (first + begun.length * stride)) := by
  have hnumbers : values.numbers? = some (.int first, .int last, .int stride) := by
    rw [Header.numbers?, hfirst, hlast, hstride]
    rfl
  have hdirected : ((Number.int stride).isPositive || (Number.int stride).isNegative) = true := by
    rw [isPositive_int, isNegative_int]
    simp only [Bool.or_eq_true, decide_eq_true_iff]
    omega
  let begins := { ready with store := ready.store.set name (.int first) }
  have hloop : ∀ more, fuel ≤ more →
      loopRounds (more + 1) name start stop step body machine =
        roundsFrom more ⟨name, .int last, .int stride⟩ body (.int first) begins := by
    intro more hmore
    have hheader := Improves.ok_of_le (header_improves start stop step) hmore hheader
    rw [loopRounds_of_numbers hheader hnumbers, if_pos hdirected, hfirst]
  have hshown : begins.store.get? name = some (.int first) := Bindings.get?_set_self _ _ _
  have hends : ∀ more, ∀ begun ∈ (roundsFrom more ⟨name, .int last, .int stride⟩ body
      (.int first) begins).begun, ∃ enough ended, exec enough body begun = .ok () ended := by
    intro more begun hbegun
    refine hbody (max fuel more + 1) begun ?_
    rw [hloop _ (le_max_left _ _)]
    exact (begun_prefix_of_le (le_max_right _ _) _ _ _ _).subset hbegun
  obtain ⟨begun, after, enough, hrounds, hlength, hvalues, hafter⟩ :=
    roundsFrom_progression hnonzero hshown hends
  refine ⟨begun, after, max fuel enough + 1, fun more hmore => ?_, ?_, hvalues, hafter⟩
  · obtain ⟨more, rfl⟩ : ∃ less, more = less + 1 := ⟨more - 1, by omega⟩
    have hlisted := hloop more (by omega)
    rw [hrounds more (by omega)] at hlisted
    rw [← result_loopRounds, hlisted]
    exact ⟨rfl, rfl⟩
  · rw [hlength, roundsLeft, Int.toNat_of_nonneg (le_max_left _ _)]

/-- A body that overwrites the variable of the loop around it. -/
def overwriting : Stmt := .block [.assign "i" (.literal .string (.text "lost"))]

theorem exists_exec_overwriting (machine : Machine) :
    ∃ enough ended, exec enough overwriting machine = .ok () ended := by
  obtain ⟨store, functions, record, screen, input, asked, returning, returned⟩ := machine
  cases returning
  · exact ⟨4, _, rfl⟩
  · exact ⟨4, _, rfl⟩

/-- From 7 down to 1 in steps of 2 there are four rounds, though the body overwrites the
variable. -/
theorem exec_count_overwriting :
    ∃ (begun : List Machine) (after : Machine) (enough : Nat),
      (∀ fuel, enough ≤ fuel →
        exec fuel (.count "i" (.literal .string (.text "7")) (.literal .string (.text "1"))
            (some (.literal .string (.text "-2"))) overwriting) {} = .ok () after ∧
          (loopRounds fuel "i" (.literal .string (.text "7")) (.literal .string (.text "1"))
            (some (.literal .string (.text "-2"))) overwriting {}).begun = begun) ∧
      (begun.length : Int) = 4 ∧
      (∀ (k : Nat) (begins : Machine), begun[k]? = some begins →
        begins.store.get? "i" = some (.int (7 + k * -2))) ∧
      after.store.get? "i" = some (.int (7 + begun.length * -2)) := by
  have hheader : header 1 (.literal .string (.text "7")) (.literal .string (.text "1"))
      (some (.literal .string (.text "-2"))) {} =
        .ok ⟨.text "7", .text "1", .text "-2"⟩ {} := rfl
  have hfirst : (Value.text "7").toNumeric = .int 7 := by decide
  have hlast : (Value.text "1").toNumeric = .int 1 := by decide
  have hstride : (Value.text "-2").toNumeric = .int (-2) := by decide
  have hcount : max 0 ((1 - 7 : Int).fdiv (-2) + 1) = 4 := by decide
  rw [← hcount]
  exact exec_count_progression hheader hfirst hlast hstride (by decide)
    fun _ begun _ => exists_exec_overwriting begun

/-! ## Headers that are refused -/

theorem result_ne_fault_of_begun_nil {after : Machine} {fault : Fault}
    (hnone : (roundsFrom fuel count body current machine).begun = []) :
    (roundsFrom fuel count body current machine).result ≠ .error (.fault fault) after := by
  cases fuel with
  | zero => simp [roundsFrom]
  | succ fuel =>
    cases hgoes : count.continues current with
    | false => simp [roundsFrom_of_passed hgoes]
    | true =>
      have hmem := (begun_prefix_of_le (Nat.le_add_left 1 fuel) count body current machine).subset
        (mem_begun_of_continues hgoes body machine)
      rw [hnone] at hmem
      cases hmem

/-- A loop whose header has its values, and that stops with a fault before its body begins, was
refused for one of two reasons. If some value is not a number, then the variables are as they were.
If the step leads nowhere, then the variable of the loop has been bound already. So the refusal
changes nothing exactly in the first case and where the variable had the first value before. -/
theorem store_of_refused_header {fuel : Nat} {name : String} {start stop : Expr}
    {step : Option Expr} {body : Stmt} {values : Header} {machine ready after : Machine}
    {fault : Fault} (hheader : header fuel start stop step machine = .ok values ready)
    (hstopped : exec (fuel + 1) (.count name start stop step body) machine =
      .error (.fault fault) after)
    (hnone : (loopRounds (fuel + 1) name start stop step body machine).begun = []) :
    (fault = .loopNotNumeric ∧ values.numbers? = none ∧ after.store = machine.store ∨
      fault = .loopStepZero ∧
        (∃ first last stride, values.numbers? = some (first, last, stride) ∧
          (stride.isZero = true ∨ stride = .float .nan)) ∧
        after.store = machine.store.set name values.start.toNumeric) ∧
      (after.store = machine.store ↔
        fault = .loopNotNumeric ∨ machine.store.get? name = some values.start.toNumeric) := by
  have hstore := store_of_header hheader
  rw [← result_loopRounds] at hstopped
  cases hnumbers : values.numbers? with
  | none =>
    rw [loopRounds_of_no_numbers hheader hnumbers] at hstopped
    cases hstopped
    exact ⟨.inl ⟨rfl, rfl, hstore⟩, by simp [hstore]⟩
  | some numbers =>
    obtain ⟨first, last, stride⟩ := numbers
    rw [loopRounds_of_numbers hheader hnumbers] at hstopped hnone
    cases hdirected : stride.isPositive || stride.isNegative with
    | true =>
      -- no header was refused: without a round the loop can only end, or run out of fuel
      rw [hdirected, if_pos rfl] at hstopped hnone
      exact absurd hstopped (result_ne_fault_of_begun_nil hnone)
    | false =>
      rw [hdirected, if_neg Bool.false_ne_true] at hstopped
      cases hstopped
      have hundirected := (Number.undirected_iff stride).mp hdirected
      refine ⟨.inr ⟨rfl, ⟨first, last, stride, rfl, hundirected⟩, ?_⟩, ?_⟩
      · rw [hstore]
      · rw [hstore, Bindings.set_eq_self_iff]
        simp

/-- A loop by zero over a variable that nothing was bound to. The variable stays behind. -/
theorem exec_count_byZero :
    header 1 (.literal .string (.text "1")) (.literal .string (.text "3"))
        (some (.literal .string (.text "0"))) {} = .ok ⟨.text "1", .text "3", .text "0"⟩ {} ∧
      exec 2 (.count "i" (.literal .string (.text "1")) (.literal .string (.text "3"))
          (some (.literal .string (.text "0"))) (.block [])) {} =
        .error (.fault .loopStepZero) { store := ⟨[("i", .int 1)]⟩ } ∧
      (⟨[("i", .int 1)]⟩ : Bindings Value) ≠ Bindings.empty := by
  have hheader : header 1 (.literal .string (.text "1")) (.literal .string (.text "3"))
      (some (.literal .string (.text "0"))) {} = .ok ⟨.text "1", .text "3", .text "0"⟩ {} := rfl
  have hstopped : exec 2 (.count "i" (.literal .string (.text "1")) (.literal .string (.text "3"))
      (some (.literal .string (.text "0"))) (.block [])) {} =
        .error (.fault .loopStepZero) { store := ⟨[("i", .int 1)]⟩ } := rfl
  refine ⟨hheader, hstopped, fun hsame => ?_⟩
  rcases (store_of_refused_header hheader hstopped rfl).2.mp hsame with hfault | hbound
  · cases hfault
  · cases hbound

end Machine

end ScriptStudio
