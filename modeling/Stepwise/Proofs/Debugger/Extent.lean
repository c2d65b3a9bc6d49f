import Stepwise.Proofs.Debugger.Trace
/-!
How far stepping on leads. A live run of a valid program evaluates the steps of the walk one after
another from where it stands. It goes on until a step fails, bears a breakpoint or is the last, and
where none of the steps still allowed does, it uses them all up and is stopped by the limit.
-/

namespace Stepwise

def Program.stretch (p : Program) (first past : Nat) : List Step := (p.walk.take past).drop first

theorem Program.stretch_succ {p : Program} {first past : Nat} {s : Step} (le : first ≤ past)
    (next : p.walk[past]? = some s) : p.stretch first (past + 1) = p.stretch first past ++ [s] := by
  have inside : past < p.walk.length := (List.getElem?_eq_some_iff.1 next).1
  have reach : first ≤ (p.walk.take past).length := by
    rw [List.length_take]
    omega
  rw [stretch, List.take_add_one, next, Option.toList_some, List.drop_append_of_le_length reach,
    stretch]

namespace Debugger

variable {σ : Type} (h : Host σ)

/-- After a number of steps one more is evaluated, and nothing halts stepping on there. -/
def Passes (stop : RunState → Bool) (d : Debugger) (world : σ) (n : Nat) : Prop :=
  ∃ result, d.resultAfter h n world = some result ∧
    halts stop (d.stepMany h (n + 1) world).1.state result = false

variable {h}

theorem Passes.first {stop : RunState → Bool} {d : Debugger} {world : σ}
    (passes : Passes h stop d world 0) :
    ∃ result next after, d.stepOver h world = ((some result, next), after) ∧
      halts stop next.state result = false := by
  obtain ⟨result, given, onward⟩ := passes
  exact ⟨result, _, _, Prod.ext (Prod.ext given rfl) rfl, onward⟩

theorem runFuel_onward {stop : RunState → Bool} {d next : Debugger} {world after : σ}
    {result : StepResult} (stepped : d.stepOver h world = ((some result, next), after))
    (onward : halts stop next.state result = false) (fuel : Nat) :
    runFuel h stop (fuel + 1) d world =
      ((((runFuel h stop fuel next after).1.1.1.or (some result),
          (runFuel h stop fuel next after).1.1.2 + 1), (runFuel h stop fuel next after).1.2),
        (runFuel h stop fuel next after).2) := by
  simp [runFuel, stepped, onward]

theorem runFuel_halts {stop : RunState → Bool} {d : Debugger} {world : σ} {n fuel : Nat}
    {result : StepResult} (passes : ∀ i < n, Passes h stop d world i)
    (given : d.resultAfter h n world = some result)
    (halted : halts stop (d.stepMany h (n + 1) world).1.state result = true)
    (enough : n < fuel) :
    runFuel h stop fuel d world =
      (((some result, n + 1), (d.stepMany h (n + 1) world).1), (d.stepMany h (n + 1) world).2) := by
  induction n generalizing d world fuel with
  | zero =>
    obtain ⟨fuel, rfl⟩ := Nat.exists_eq_add_of_lt enough
    have stepped : d.stepOver h world = ((some result, (d.stepMany h 1 world).1),
        (d.stepMany h 1 world).2) := Prod.ext (Prod.ext given rfl) rfl
    simp [runFuel, stepped, halted]
  | succ n ih =>
    obtain ⟨fuel, rfl⟩ : ∃ more, fuel = more + 1 := ⟨fuel - 1, by omega⟩
    obtain ⟨first, next, after, stepped, onward⟩ := (passes 0 (by omega)).first
    have later : ∀ i < n, Passes h stop next after i := fun i less => by
      have := passes (i + 1) (by omega)
      simpa [Passes, resultAfter, stepMany_succ, stepped] using this
    simp only [resultAfter, stepMany_succ, stepped] at given halted ⊢
    rw [runFuel_onward stepped onward, ih later given halted (by omega)]
    rfl

theorem runFuel_idles {stop : RunState → Bool} {d : Debugger} {world : σ} {n fuel : Nat}
    (passes : ∀ i < n, Passes h stop d world i) (nothing : d.resultAfter h n world = none)
    (enough : n < fuel) :
    ∃ last, runFuel h stop fuel d world =
      (((last, n), (d.stepMany h (n + 1) world).1), (d.stepMany h (n + 1) world).2) := by
  induction n generalizing d world fuel with
  | zero =>
    obtain ⟨fuel, rfl⟩ := Nat.exists_eq_add_of_lt enough
    have stepped : d.stepOver h world = ((none, (d.stepMany h 1 world).1),
        (d.stepMany h 1 world).2) := Prod.ext (Prod.ext nothing rfl) rfl
    exact ⟨none, by simp [runFuel, stepped]⟩
  | succ n ih =>
    obtain ⟨fuel, rfl⟩ : ∃ more, fuel = more + 1 := ⟨fuel - 1, by omega⟩
    obtain ⟨first, next, after, stepped, onward⟩ := (passes 0 (by omega)).first
    have later : ∀ i < n, Passes h stop next after i := fun i less => by
      have := passes (i + 1) (by omega)
      simpa [Passes, resultAfter, stepMany_succ, stepped] using this
    simp only [resultAfter, stepMany_succ, stepped] at nothing ⊢
    have less : n < fuel := by omega
    obtain ⟨last, ran⟩ := ih later nothing less
    exact ⟨_, by rw [runFuel_onward stepped onward, ran]; rfl⟩

theorem StepOver.counted {stop : RunState → Bool} {d next : Debugger} {world after : σ}
    {result : StepResult} (moved : StepOver h d world (some result) next after)
    (onward : halts stop next.state result = false) :
    next.maxSteps = d.maxSteps ∧ next.state.stepsExecuted = d.state.stepsExecuted + 1 ∧
      d.state.stepsExecuted < d.maxSteps := by
  cases moved with
  | succeeds evaluates success => exact ⟨rfl, rfl, evaluates.left⟩
  | fails => simp [halts, Debugger.fail, RunState.fail] at onward

/-- Stepping on ends of itself: fuel beyond the steps still allowed changes nothing. -/
theorem runFuel_enough (stop : RunState → Bool) {fuel : Nat} {d : Debugger} (world : σ)
    (enough : d.maxSteps - d.state.stepsExecuted < fuel) :
    runFuel h stop fuel d world =
      runFuel h stop (d.maxSteps - d.state.stepsExecuted + 1) d world := by
  induction fuel generalizing d world with
  | zero => omega
  | succ fuel ih =>
    rcases stepped : d.stepOver h world with ⟨⟨result, next⟩, after⟩
    cases result with
    | none => simp [runFuel, stepped]
    | some result =>
      by_cases halted : halts stop next.state result = true
      · simp [runFuel, stepped, halted]
      · have onward : halts stop next.state result = false := by simpa using halted
        have moved := stepOver_cases h d world
        simp only [stepped] at moved
        obtain ⟨limit, count, left⟩ := moved.counted onward
        have rest : next.maxSteps - next.state.stepsExecuted + 1 =
            d.maxSteps - d.state.stepsExecuted := by omega
        rw [runFuel_onward stepped onward, runFuel_onward stepped onward, ih after (by omega), rest]

theorem StepOver.breakpoints {d next : Debugger} {world after : σ} {result : Option StepResult}
    (moved : StepOver h d world result next after) :
    next.state.breakpoints = d.state.breakpoints := by
  cases moved with
  | stands | ends | limited | lost | succeeds | fails => rfl

theorem StepOver.final_or_paused {d next : Debugger} {world after : σ} {result : Option StepResult}
    (moved : StepOver h d world result next after) :
    next.state.status.isFinal = true ∨ next.state.status = .paused ∧ result.isSome = true := by
  cases moved with
  | stands final => exact .inl final
  | ends | limited | lost | fails => exact .inl rfl
  | @succeeds c =>
    cases onward : c.next d.program with
    | none => exact .inl (by simp [Debugger.advance, evaluated, onward, Status.isFinal])
    | some place => exact .inr ⟨by simp [Debugger.advance, evaluated, onward], rfl⟩

theorem runFuel_final {fuel : Nat} {d : Debugger} (unmarked : d.state.breakpoints = ∅)
    (enough : d.maxSteps - d.state.stepsExecuted < fuel) (world : σ) :
    (runFuel h (fun _ => false) fuel d world).1.2.state.status.isFinal = true := by
  induction fuel generalizing d world with
  | zero => omega
  | succ fuel ih =>
    have moved := stepOver_cases h d world
    rcases stepped : d.stepOver h world with ⟨⟨result, next⟩, after⟩
    simp only [stepped] at moved
    have unmarked : next.state.breakpoints = ∅ := moved.breakpoints.trans unmarked
    rcases moved.final_or_paused with final | ⟨paused, some⟩
    · cases result with
      | none => simpa [runFuel, stepped] using final
      | some result =>
        have halted : halts (fun _ => false) next.state result = true := by
          have ended : next.state.status ≠ .paused := fun paused => by
            simp [paused, Status.isFinal] at final
          simp [halts, ended]
        simpa [runFuel, stepped, halted] using final
    · obtain ⟨result, rfl⟩ := Option.isSome_iff_exists.1 some
      have onward : halts (fun _ => false) next.state result = false := by
        simp [halts, paused, unmarked, Table.contains, EmptyCollection.emptyCollection]
      obtain ⟨limit, count, left⟩ := moved.counted onward
      rw [runFuel_onward stepped onward]
      -- one of the steps still allowed has been spent along with the fuel
      exact ih unmarked (by omega) after

/-- What evaluating the step before which a live run stands comes to. -/
structure Takes (p : Program) (d next : Debugger) (s : Step) (result : StepResult) : Prop where
  step : p.walk[d.state.stepsExecuted]? = some s
  left : d.state.stepsExecuted < d.maxSteps
  named : result.stepId = s.id
  breakpoints : next.state.breakpoints = d.state.breakpoints
  recorded : ∃ e, next.state.history = d.state.history ++ [e] ∧ e.subject = s.subject ∧
    e.success = result.success
  passed : result.success = true → next.state.stepsExecuted = d.state.stepsExecuted + 1 ∧
    next.state.status =
      if d.state.stepsExecuted + 1 < p.walk.length then .paused else .completed
  failed : result.success = false → next.state.status = .error

structure RunsOut (p : Program) (d next : Debugger) : Prop where
  spent : d.maxSteps ≤ d.state.stepsExecuted
  executed : next.state.stepsExecuted = d.state.stepsExecuted
  history : next.state.history = d.state.history
  status : next.state.status = .error
  failure : ∃ f s, next.state.failure = some f ∧ f.kind = .stepLimit ∧
    p.walk[d.state.stepsExecuted]? = some s ∧ f.stepId = s.id

section

variable {p : Program} {maxSteps : Nat} {d : Debugger}

theorem place_isSome {k : Nat} :
    ((Cursor.places p)[k]?).isSome = true ↔ k < p.walk.length := by
  simp [Cursor.length_places]

theorem AtRest.within (rest : AtRest p maxSteps d) (live : d.state.status.isFinal = false) :
    d.state.stepsExecuted < p.walk.length := by
  obtain ⟨c, current⟩ := Option.ne_none_iff_exists'.1 (rest.live_cursor live)
  exact place_isSome.1 (Option.isSome_of_eq_some (rest.current.symm.trans current))

theorem AtRest.stepOver (rest : AtRest p maxSteps d) (valid : p.WellFormed)
    (live : d.state.status.isFinal = false) (world : σ) :
    (∃ s result, (d.stepOver h world).1.1 = some result ∧
        Takes p d (d.stepOver h world).1.2 s result) ∨
      ((d.stepOver h world).1.1 = none ∧ RunsOut p d (d.stepOver h world).1.2) := by
  have moved := stepOver_cases h d world
  generalize (d.stepOver h world).1.1 = result at moved ⊢
  generalize (d.stepOver h world).1.2 = next at moved ⊢
  generalize (d.stepOver h world).2 = after at moved
  cases moved with
  | stands final => simp [live] at final
  | ends _ current => exact absurd current (rest.live_cursor live)
  | @limited c _ current spent =>
    obtain ⟨s, found, onWalk⟩ := rest.step_found valid current
    exact .inr ⟨rfl, spent, rfl, rfl, rfl, _, s, rfl, rfl, onWalk, (Cursor.step?_id found).symm⟩
  | lost _ current unknown => exact absurd unknown (rest.step_known valid current)
  | @succeeds c step e after evaluates success =>
    obtain ⟨onWalk, subject⟩ :=
      rest.entry_subject valid evaluates (h.span world (h.wait after))
    have next : c.next d.program = (Cursor.places p)[d.state.stepsExecuted + 1]? := by
      rw [rest.program]
      exact Cursor.next_place (rest.current.symm.trans evaluates.current)
    refine .inl ⟨step, e.result, rfl, onWalk, evaluates.left, evaluates.fits.stepId, rfl,
      ⟨_, rfl, subject, rfl⟩, fun _ => ⟨rfl, ?_⟩, by simp [success]⟩
    simp only [Debugger.advance, evaluated, next, place_isSome]
  | @fails c step e after cause evaluates failure =>
    obtain ⟨onWalk, subject⟩ :=
      rest.entry_subject valid evaluates (h.span world (h.wait after))
    exact .inl ⟨step, e.result, rfl, onWalk, evaluates.left, evaluates.fits.stepId, rfl,
      ⟨_, rfl, subject, rfl⟩, by simp [failure], fun _ => rfl⟩

theorem Takes.halts_iff {next : Debugger} {s : Step} {result : StepResult}
    (takes : Takes p d next s result) (stop : RunState → Bool) :
    halts stop next.state result = true ↔
      result.success = false ∨ Table.contains d.state.breakpoints s.id = true ∨
        ¬ d.state.stepsExecuted + 1 < p.walk.length ∨ stop next.state = true := by
  simp only [halts, Bool.or_eq_true, bne_iff_ne, takes.breakpoints, takes.named]
  cases success : result.success with
  | false => simp [takes.failed success]
  | true =>
    obtain ⟨-, status⟩ := takes.passed success
    rw [status]
    by_cases more : d.state.stepsExecuted + 1 < p.walk.length
    · simp [more]
    · simp [more]

/-- One run has written down what another has, and then that some steps succeeded or failed. -/
def Wrote (d next : Debugger) (steps : List Step) (outcomes : List Bool) : Prop :=
  ∃ entries, next.state.history = d.state.history ++ entries ∧
    entries.map (·.subject) = steps.map (·.subject) ∧ entries.map (·.success) = outcomes

theorem Wrote.concat {m next : Debugger} {steps : List Step} {outcomes : List Bool} {s : Step}
    {result : StepResult} (wrote : Wrote d m steps outcomes) (takes : Takes p m next s result) :
    Wrote d next (steps ++ [s]) (outcomes ++ [result.success]) := by
  obtain ⟨entries, history, subjects, successes⟩ := wrote
  obtain ⟨e, more, subject, success⟩ := takes.recorded
  refine ⟨entries ++ [e], ?_, ?_, ?_⟩
  · rw [more, history, List.append_assoc]
  · rw [List.map_append, List.map_append, subjects]
    simp [subject]
  · rw [List.map_append, successes]
    simp [success]

/-- A run that is still live after a number of steps more, all of which have succeeded. -/
structure Underway (p : Program) (maxSteps : Nat) (d m : Debugger) (n : Nat) : Prop
    extends AtRest p maxSteps m where
  live : m.state.status.isFinal = false
  executed : m.state.stepsExecuted = d.state.stepsExecuted + n
  marks : m.state.breakpoints = d.state.breakpoints
  wrote : Wrote d m (p.stretch d.state.stepsExecuted m.state.stepsExecuted)
    (List.replicate n true)

theorem Underway.start (rest : AtRest p maxSteps d) (live : d.state.status.isFinal = false) :
    Underway p maxSteps d d 0 where
  toAtRest := rest
  live := live
  executed := rfl
  marks := rfl
  wrote := ⟨[], by simp, by simp [Program.stretch], rfl⟩

theorem Underway.wrote_next {m next : Debugger} {n : Nat} {s : Step} {result : StepResult}
    (underway : Underway p maxSteps d m n) (takes : Takes p m next s result) :
    Wrote d next (p.stretch d.state.stepsExecuted (d.state.stepsExecuted + n + 1))
      (List.replicate n true ++ [result.success]) := by
  have step := takes.step
  have wrote := underway.wrote
  rw [underway.executed] at step wrote
  rw [Program.stretch_succ (by omega) step]
  exact wrote.concat takes

theorem Underway.onward {m : Debugger} {n : Nat} {s : Step} {result : StepResult} {world : σ}
    (underway : Underway p maxSteps d m n) (valid : p.WellFormed)
    (takes : Takes p m (m.stepOver h world).1.2 s result) (success : result.success = true)
    (more : d.state.stepsExecuted + n + 1 < p.walk.length) :
    Underway p maxSteps d (m.stepOver h world).1.2 (n + 1) := by
  obtain ⟨count, status⟩ := takes.passed success
  have wrote := underway.wrote_next takes
  rw [underway.executed] at count status
  rw [if_pos more] at status
  rw [success] at wrote
  refine ⟨underway.toAtRest.step valid (stepOver_cases h m world), by rw [status]; rfl, count,
    takes.breakpoints.trans underway.marks, ?_⟩
  rw [count, List.replicate_succ']
  exact wrote

theorem underway_of_passes (rest : AtRest p maxSteps d) (valid : p.WellFormed)
    (live : d.state.status.isFinal = false) {stop : RunState → Bool} {world : σ} {n : Nat}
    (passes : ∀ i < n, Passes h stop d world i) :
    Underway p maxSteps d (d.stepMany h n world).1 n := by
  induction n with
  | zero => exact .start rest live
  | succ n ih =>
    have underway := ih fun i less => passes i (by omega)
    obtain ⟨result, given, onward⟩ := passes n (by omega)
    rw [stepMany_last] at onward ⊢
    rcases underway.stepOver valid underway.live (d.stepMany h n world).2 with
      ⟨s, r, gives, takes⟩ | ⟨nothing, -⟩
    · obtain rfl : result = r := Option.some.inj (given.symm.trans gives)
      have clear := mt (takes.halts_iff stop).2 (by simp [onward])
      simp only [not_or, Decidable.not_not, underway.executed] at clear
      exact underway.onward valid takes (by simpa using clear.1) clear.2.2.1
    · simp [resultAfter, nothing] at given

variable (h) (p) (d) (world : σ)

def FailsAt (j : Nat) : Prop :=
  ∃ result, d.resultAfter h (j - d.state.stepsExecuted) world = some result ∧
    result.success = false

def MarkedAt (j : Nat) : Prop :=
  ∃ s, p.walk[j]? = some s ∧ Table.contains d.state.breakpoints s.id = true

def StopsAt (j : Nat) : Prop :=
  FailsAt h d world j ∨ MarkedAt p d j ∨ j + 1 = p.walk.length

/-- Stepping on ends at a position of the walk once it has got there: for the step itself, or
because what is awaited has come about behind it. -/
def HaltsAt (awaited : Nat → Prop) (j : Nat) : Prop :=
  FailsAt h d world j ∨ MarkedAt p d j ∨ j + 1 = p.walk.length ∨ awaited j

/-- Where a run is that has evaluated the steps from one position to another and then halted. -/
structure HaltedAt (k j ran : Nat) (after : Debugger) : Prop where
  ran : ran = j - k + 1
  failed : FailsAt h d world j → after.state.status = .error ∧
    Wrote d after (p.stretch k (j + 1)) (List.replicate (j - k) true ++ [false])
  passed : ¬ FailsAt h d world j →
    Wrote d after (p.stretch k (j + 1)) (List.replicate (j - k + 1) true)
  completed : ¬ FailsAt h d world j → j + 1 = p.walk.length → after.state.status = .completed
  paused : ¬ FailsAt h d world j → j + 1 ≠ p.walk.length → after.state.status = .paused ∧
    ∃ c, after.state.current = some c ∧ c.instructionPointer = j + 1 ∧ c.step? p = p.walk[j + 1]?

structure Exhausted (k ran : Nat) (after : Debugger) : Prop where
  ran : ran = d.maxSteps - k
  passed : Wrote d after (p.stretch k d.maxSteps) (List.replicate (d.maxSteps - k) true)
  executed : after.state.stepsExecuted = d.maxSteps
  status : after.state.status = .error
  failure : ∃ f s, after.state.failure = some f ∧ f.kind = .stepLimit ∧
    p.walk[d.maxSteps]? = some s ∧ f.stepId = s.id

variable {h p d world}

def Awaits (p : Program) (maxSteps : Nat) (stop : RunState → Bool) (awaited : Nat → Prop) : Prop :=
  ∀ m j, AtRest p maxSteps m → m.state.stepsExecuted = j + 1 → (stop m.state = true ↔ awaited j)

theorem awaits_nothing : Awaits p maxSteps (fun _ => false) fun _ => False :=
  fun _ _ _ _ => by simp

theorem haltsAt_nothing {j : Nat} :
    HaltsAt h p d world (fun _ => False) j ↔ StopsAt h p d world j := by
  simp [HaltsAt, StopsAt]

theorem failsAt_iff {n : Nat} {result : StepResult}
    (given : d.resultAfter h n world = some result) :
    FailsAt h d world (d.state.stepsExecuted + n) ↔ result.success = false := by
  rw [FailsAt, Nat.add_sub_cancel_left, given]
  simp

variable {stop : RunState → Bool} {awaited : Nat → Prop}

theorem Underway.halts_iff {m : Debugger} {n : Nat} {s : Step} {result : StepResult} {after : σ}
    (underway : Underway p maxSteps d m n) (valid : p.WellFormed)
    (awaits : Awaits p maxSteps stop awaited) (given : d.resultAfter h n world = some result)
    (takes : Takes p m (m.stepOver h after).1.2 s result) :
    halts stop (m.stepOver h after).1.2.state result = true ↔
      HaltsAt h p d world awaited (d.state.stepsExecuted + n) := by
  have step := takes.step
  rw [underway.executed] at step
  have inside := (List.getElem?_eq_some_iff.1 step).1
  have marked : MarkedAt p d (d.state.stepsExecuted + n) ↔
      Table.contains d.state.breakpoints s.id = true := by
    simp [MarkedAt, step]
  have last : ¬ d.state.stepsExecuted + n + 1 < p.walk.length ↔
      d.state.stepsExecuted + n + 1 = p.walk.length := by omega
  rw [takes.halts_iff, underway.executed, underway.marks, HaltsAt, failsAt_iff given, marked, last]
  -- only behind a step that has succeeded is the place known, and no other case needs it
  cases success : result.success with
  | false => simp
  | true =>
    obtain ⟨count, -⟩ := takes.passed success
    rw [underway.executed] at count
    rw [awaits _ _ (underway.toAtRest.step valid (stepOver_cases h m after)) count]

theorem passes_of_clear (rest : AtRest p maxSteps d) (valid : p.WellFormed)
    (live : d.state.status.isFinal = false) (awaits : Awaits p maxSteps stop awaited) {n : Nat}
    (inside : d.state.stepsExecuted + n ≤ min p.walk.length d.maxSteps)
    (clear : ∀ i < n, ¬ HaltsAt h p d world awaited (d.state.stepsExecuted + i)) :
    ∀ i < n, Passes h stop d world i := by
  induction n with
  | zero => omega
  | succ n ih =>
    have before := ih (by omega) fun i less => clear i (by omega)
    have underway := underway_of_passes rest valid live before
    intro i less
    rcases Nat.lt_succ_iff_lt_or_eq.1 less with earlier | rfl
    · exact before i earlier
    · have limit : (d.stepMany h i world).1.maxSteps = d.maxSteps :=
        underway.limit.trans rest.limit.symm
      rcases underway.stepOver valid underway.live (d.stepMany h i world).2 with
        ⟨s, result, gives, takes⟩ | ⟨-, out⟩
      · refine ⟨result, gives, ?_⟩
        rw [stepMany_last]
        refine Bool.eq_false_iff.2 fun halted => clear i (by omega) ?_
        exact (underway.halts_iff valid awaits gives takes).1 halted
      · have spent := out.spent
        rw [limit, underway.executed] at spent
        omega

theorem Underway.halted {m : Debugger} {n : Nat} {s : Step} {result : StepResult} {after : σ}
    (underway : Underway p maxSteps d m n) (valid : p.WellFormed)
    (given : d.resultAfter h n world = some result)
    (takes : Takes p m (m.stepOver h after).1.2 s result) :
    HaltedAt h p d world d.state.stepsExecuted (d.state.stepsExecuted + n) (n + 1)
      (m.stepOver h after).1.2 := by
  have wrote := underway.wrote_next takes
  have rest := underway.toAtRest.step valid (stepOver_cases h m after)
  have inside : d.state.stepsExecuted + n < p.walk.length := by
    rw [← underway.executed]
    exact (List.getElem?_eq_some_iff.1 takes.step).1
  have passed : ¬ FailsAt h d world (d.state.stepsExecuted + n) → result.success = true := by
    rw [failsAt_iff given]
    simp
  refine ⟨by omega, fun fails => ?_, fun clear => ?_, fun clear last => ?_, fun clear more => ?_⟩
  · have failure := (failsAt_iff given).1 fails
    rw [failure] at wrote
    exact ⟨takes.failed failure, by rwa [Nat.add_sub_cancel_left]⟩
  · rw [passed clear] at wrote
    rwa [Nat.add_sub_cancel_left, List.replicate_succ']
  · obtain ⟨-, status⟩ := takes.passed (passed clear)
    rw [status, underway.executed, if_neg (by omega)]
  · obtain ⟨count, status⟩ := takes.passed (passed clear)
    rw [underway.executed] at count status
    rw [if_pos (by omega)] at status
    have place := rest.current
    rw [count] at place
    obtain ⟨c, found⟩ := Option.isSome_iff_exists.1
      (place_isSome.2 (by omega : d.state.stepsExecuted + n + 1 < p.walk.length))
    exact ⟨status, c, place.trans found, Cursor.place_pointer found,
      Cursor.place_step valid.procedureIds.distinct found⟩

theorem runUntil_halts (rest : AtRest p maxSteps d) (valid : p.WellFormed)
    (live : d.state.status.isFinal = false) (awaits : Awaits p maxSteps stop awaited) {n : Nat}
    (inside : d.state.stepsExecuted + n < min p.walk.length d.maxSteps)
    (stops : HaltsAt h p d world awaited (d.state.stepsExecuted + n))
    (clear : ∀ i < n, ¬ HaltsAt h p d world awaited (d.state.stepsExecuted + i)) :
    HaltedAt h p d world d.state.stepsExecuted (d.state.stepsExecuted + n)
      (d.runUntil h stop world).1.1.2 (d.runUntil h stop world).1.2 := by
  have passes := passes_of_clear rest valid live awaits (by omega) clear
  have underway := underway_of_passes rest valid live passes
  have limit := underway.limit.trans rest.limit.symm
  rcases underway.stepOver valid underway.live (d.stepMany h n world).2 with
    ⟨s, result, gives, takes⟩ | ⟨-, out⟩
  · have halted : halts stop (d.stepMany h (n + 1) world).1.state result = true := by
      rw [stepMany_last]
      exact (underway.halts_iff valid awaits gives takes).2 stops
    rw [runUntil, runFuel_halts passes gives halted (by omega), stepMany_last]
    exact underway.halted valid gives takes
  · have spent := out.spent
    rw [limit, underway.executed] at spent
    omega

theorem runUntil_exhausted (rest : AtRest p maxSteps d) (valid : p.WellFormed)
    (live : d.state.status.isFinal = false) (awaits : Awaits p maxSteps stop awaited)
    (within : d.maxSteps ≤ p.walk.length)
    (clear : ∀ j, d.state.stepsExecuted ≤ j → j < d.maxSteps →
      ¬ HaltsAt h p d world awaited j) :
    Exhausted p d d.state.stepsExecuted (d.runUntil h stop world).1.1.2
      (d.runUntil h stop world).1.2 := by
  have bounded := rest.bounded
  rw [← rest.limit] at bounded
  obtain ⟨n, total⟩ := Nat.exists_eq_add_of_le bounded
  have passes := passes_of_clear rest valid live awaits (n := n) (by omega) fun i less =>
    clear _ (by omega) (by omega)
  have underway := underway_of_passes rest valid live passes
  have limit := underway.limit.trans rest.limit.symm
  rcases underway.stepOver valid underway.live (d.stepMany h n world).2 with
    ⟨s, result, -, takes⟩ | ⟨nothing, out⟩
  · have left := takes.left
    rw [limit, underway.executed] at left
    omega
  · have enough : n < d.maxSteps - d.state.stepsExecuted + 1 := by omega
    obtain ⟨last, ran⟩ := runFuel_idles passes nothing enough
    rw [runUntil, ran, stepMany_last]
    obtain ⟨entries, history, wrote⟩ := underway.wrote
    have executed := out.executed
    have failure := out.failure
    rw [underway.executed, ← total] at executed failure
    have count : n = d.maxSteps - d.state.stepsExecuted := by omega
    rw [underway.executed, ← total, count] at wrote
    exact ⟨count, ⟨entries, out.history.trans history, wrote⟩, executed, out.status, failure⟩

theorem resume_halts (rest : AtRest p maxSteps d) (valid : p.WellFormed)
    (live : d.state.status.isFinal = false) {n : Nat}
    (inside : d.state.stepsExecuted + n < min p.walk.length d.maxSteps)
    (stops : StopsAt h p d world (d.state.stepsExecuted + n))
    (clear : ∀ i < n, ¬ StopsAt h p d world (d.state.stepsExecuted + i)) :
    HaltedAt h p d world d.state.stepsExecuted (d.state.stepsExecuted + n)
      (d.resume h world).1.1.2 (d.resume h world).1.2 :=
  runUntil_halts rest valid live awaits_nothing inside (haltsAt_nothing.2 stops)
    fun i less halts => clear i less (haltsAt_nothing.1 halts)

theorem resume_exhausted (rest : AtRest p maxSteps d) (valid : p.WellFormed)
    (live : d.state.status.isFinal = false)
    (clear : ∀ j, d.state.stepsExecuted ≤ j → j < min p.walk.length d.maxSteps →
      ¬ StopsAt h p d world j) :
    Exhausted p d d.state.stepsExecuted (d.resume h world).1.1.2 (d.resume h world).1.2 := by
  have within : d.maxSteps ≤ p.walk.length := by
    refine Nat.le_of_not_lt fun past => ?_
    have inside := rest.within live
    exact clear (p.walk.length - 1) (by omega) (by omega) (.inr (.inr (by omega)))
  exact runUntil_exhausted rest valid live awaits_nothing within fun j le less halts =>
    clear j le (by omega) (haltsAt_nothing.1 halts)

end

/-- How far resuming takes a live run before a position of the walk: `after` is where it is then and
`ran` the count of steps that it tells. -/
structure Resumes (h : Host σ) (p : Program) (d : Debugger) (world : σ) (k ran : Nat)
    (after : Debugger) : Prop where
  ends : ∀ fuel, d.maxSteps - k < fuel →
    runFuel h (fun _ => false) fuel d world = d.resume h world
  halts : ∀ j, k ≤ j → j < min p.walk.length d.maxSteps → StopsAt h p d world j →
    (∀ i, k ≤ i → i < j → ¬ StopsAt h p d world i) → HaltedAt h p d world k j ran after
  exhausted : (∀ j, k ≤ j → j < min p.walk.length d.maxSteps → ¬ StopsAt h p d world j) →
    Exhausted p d k ran after
  fits : p.walk.length = d.maxSteps →
    (∀ j, k ≤ j → j < d.maxSteps → ¬ FailsAt h d world j ∧ ¬ MarkedAt p d j) →
    after.state.status = .completed
  /-- A breakpoint on the last step allowed is met before the limit is. -/
  marked : k < d.maxSteps → d.maxSteps < p.walk.length → MarkedAt p d (d.maxSteps - 1) →
    (∀ j, k ≤ j → j < d.maxSteps - 1 → ¬ MarkedAt p d j) →
    (∀ j, k ≤ j → j < d.maxSteps → ¬ FailsAt h d world j) → after.state.status = .paused

theorem AtRest.resumes {p : Program} {maxSteps : Nat} {d : Debugger}
    (rest : AtRest p maxSteps d) (valid : p.WellFormed) (live : d.state.status.isFinal = false)
    (world : σ) :
    Resumes h p d world d.state.stepsExecuted (d.resume h world).1.1.2 (d.resume h world).1.2 := by
  have halts : ∀ j, d.state.stepsExecuted ≤ j → j < min p.walk.length d.maxSteps →
      StopsAt h p d world j → (∀ i, d.state.stepsExecuted ≤ i → i < j → ¬ StopsAt h p d world i) →
      HaltedAt h p d world d.state.stepsExecuted j (d.resume h world).1.1.2
        (d.resume h world).1.2 := by
    intro j le inside stops clear
    obtain ⟨n, rfl⟩ := Nat.exists_eq_add_of_le le
    exact resume_halts rest valid live inside stops fun i less => clear _ (by omega) (by omega)
  refine ⟨fun fuel enough => runFuel_enough _ world enough, halts,
    resume_exhausted rest valid live, fun size clear => ?_, fun left more last free clear => ?_⟩
  · have inside := rest.within live
    have ended := halts (d.maxSteps - 1) (by omega) (by omega) (.inr (.inr (by omega)))
      fun i le less stops => by
        rcases stops with fails | met | last
        · exact (clear i le (by omega)).1 fails
        · exact (clear i le (by omega)).2 met
        · omega
    exact ended.completed (clear _ (by omega) (by omega)).1 (by omega)
  · have ended := halts (d.maxSteps - 1) (by omega) (by omega) (.inr (.inl last))
      fun i le less stops => by
        rcases stops with fails | met | final
        · exact clear i le (by omega) fails
        · exact free i le less met
        · omega
    exact (ended.paused (clear _ (by omega) (by omega)) (by omega)).1

end Debugger

/-- From any live state that an operator can bring a valid program to, resuming evaluates the steps
up to the first that halts it, or else all that are allowed, and leaves the run accordingly. -/
theorem resuming_extent {σ : Type} (h : Host σ) {p : Program} {found : List Diagnostic}
    (ok : p.check = .ok found) (analysis : Option Analysis) (options : Options) (maxSteps : Nat)
    (ops : List Operation) (world : σ) :
    let d := ((Debugger.start p analysis options maxSteps).operateAll h ops world).1
    let now := ((Debugger.start p analysis options maxSteps).operateAll h ops world).2
    d.state.status = .initialized ∨ d.state.status = .paused →
      d.maxSteps = maxSteps ∧ ∃ c, d.state.current = some c ∧
        Debugger.Resumes h p d now c.instructionPointer (d.execute h .resume now).1.1.stepsRun
          (d.execute h .resume now).1.2 := by
  intro d now status
  have valid := Program.wellFormed_of_check ok
  have rest : d.AtRest p maxSteps := .run valid analysis options ops world
  have live : d.state.status.isFinal = false := by
    rcases status with initial | paused
    · rw [initial]
      rfl
    · rw [paused]
      rfl
  obtain ⟨c, current⟩ := Option.ne_none_iff_exists'.1 (rest.live_cursor live)
  have pointer := Cursor.place_pointer (rest.current.symm.trans current)
  exact ⟨rest.limit, c, current, pointer ▸ rest.resumes valid live now⟩

theorem greeting_extent : ∃ found, Program.greeting.check = .ok found ∧
    let run := (Debugger.start .greeting none Options.standard 2).operateAll .echoing
      [.breakpoint "act" true] 0
    run.1.state.status = .initialized ∧ Debugger.MarkedAt .greeting run.1 1 ∧
      (run.1.execute .echoing .resume run.2).1.2.state.status = .paused ∧
      ∃ c, run.1.state.current = some c ∧
        Debugger.Resumes .echoing .greeting run.1 run.2 c.instructionPointer
          (run.1.execute .echoing .resume run.2).1.1.stepsRun
          (run.1.execute .echoing .resume run.2).1.2 := by
  obtain ⟨found, ok⟩ := (Program.check_ok_iff .greeting).2 Program.greeting_wellFormed
  have extent := resuming_extent .echoing ok none Options.standard 2
    [.breakpoint "act" true] 0 (.inl (by decide +kernel))
  exact ⟨found, ok, by decide +kernel, ⟨_, rfl, by decide +kernel⟩, by decide +kernel, extent.2⟩

end Stepwise
