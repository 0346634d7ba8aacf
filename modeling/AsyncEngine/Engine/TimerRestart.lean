/- The `restart` methods of the Timers: with which repeat and delay libuv is armed, and what is
   recorded of it. -/

import AsyncEngine.Engine.Constructors
import AsyncEngine.Engine.TimerMoves

set_option autoImplicit false
set_option relaxedAutoImplicit false

namespace AsyncEngine.Engine.TimerRestart

open AsyncEngine.Lib.Run
open AsyncEngine.Engine.Ruby
open AsyncEngine.Engine.State
open AsyncEngine.Engine.Machine
open AsyncEngine.Engine.Effects
open AsyncEngine.Engine.Steps
open AsyncEngine.Engine.Handles
open AsyncEngine.Engine.Constructors (Raises)
open AsyncEngine.Engine.TimerMoves

/-- The repeat and the first delay that a restart of a PeriodicTimer is documented to have. -/
def documented (t : State.Timer) (args : Args) : Check (Int × Int) := do
  let interval ← given args.argv[0]?
  let delay ← given args.argv[1]?
  pure (interval.getD t.interval, delay.getD (interval.getD t.delay))

/-- The last thing seen is that the call has returned true. -/
def Succeeds (call : Call) (w : World) : Prop :=
  ∃ older, w.trace = .returned call (.value .true) :: older

/-- If the step is a restart of an open PeriodicTimer that succeeds, then libuv is armed as
documented, and this is what is recorded. -/
def RestartsAsDocumented (c : Config) (a : Action) : Prop :=
  ∀ n args uv t c', a = .call (.timerRestart n args uv) → c.world.timers[n]? = some t →
    t.uvHandle = true → t.isPeriodicTimer = true → engine.step c a = some c' →
    Succeeds (.timerRestart n args uv) c'.world →
    ∃ t' interval delay, c'.world.timers[n]? = some t' ∧
      documented t args = .ok (interval, delay) ∧ t'.uvActive = true ∧
      t'.uvRepeat = interval ∧ t'.uvTimeout = delay ∧ t'.interval = interval ∧ t'.delay = delay

/-- A delay is given without an interval, and it is not the previous one. -/
def DelayAlone (t : State.Timer) (args : Args) : Prop :=
  Timer.isNil args.argv[0]? = true ∧ Timer.isNil args.argv[1]? = false ∧
    delayOf args.argv[1]? ≠ .ok t.delay

/-- An open PeriodicTimer is restarted with a new delay alone, and libuv starts it. -/
def IgnoresDelay (c : Config) : Action → Prop
  | .call (.timerRestart n args uv) => ∃ t, c.world.timers[n]? = some t ∧ t.uvHandle = true ∧
      t.isPeriodicTimer = true ∧ args.argv.length ≤ 2 ∧ uv.timerStart = 0 ∧ DelayAlone t args
  | _ => False

/-- If the step is a restart that raises, then the recorded delay and interval stay. -/
def RestartKeeps (c : Config) (a : Action) : Prop :=
  ∀ n args uv t c', a = .call (.timerRestart n args uv) → c.world.timers[n]? = some t →
    engine.step c a = some c' → Raises (.timerRestart n args uv) c'.world →
    ∃ t', c'.world.timers[n]? = some t' ∧ t'.delay = t.delay ∧ t'.interval = t.interval

/-- What is recorded of each open Timer was given to the last `uv_timer_start` that succeeded. -/
def Agrees (c : Config) : Prop :=
  ∀ (n : Nat) (t : State.Timer), c.world.timers[n]? = some t → t.uvHandle = true →
    t.delay = t.uvTimeout ∧ t.interval = t.uvRepeat

/-- An argument is stored that is not the recorded one, and then something fails: the conversion
of the second argument of a PeriodicTimer, or `uv_timer_start`. -/
def StoresHalf (t : State.Timer) (args : Args) (uv : UvAnswers) : Prop :=
  (t.isPeriodicTimer = true ∧ ∃ interval q, given args.argv[0]? = .ok (some interval) ∧
    given args.argv[1]? = .error q ∧ interval ≠ t.interval) ∨
  (uv.timerStart ≠ 0 ∧ ∃ delay interval, chosen t args = .ok (delay, interval) ∧
    ¬ (delay = t.delay ∧ interval = t.interval))

def Halfway (c : Config) : Action → Prop
  | .call (.timerRestart n args uv) => ∃ t, c.world.timers[n]? = some t ∧ t.uvHandle = true ∧
      args.argv.length ≤ maxArgs t ∧ StoresHalf t args uv
  | _ => False

section Step

variable {c c' : Config} {a : Action} {n : Nat} {t : State.Timer} {args : Args} {uv : UvAnswers}

private theorem restart_step (found : c.world.timers[n]? = some t) (opened : t.uvHandle = true)
    (h : engine.step c (.call (.timerRestart n args uv)) = some c') :
    ∃ t' q, c'.world.timers[n]? = some t' ∧ Restarts t args uv t' q ∧
      c'.world.trace = .returned (.timerRestart n args uv) q :: c.world.trace := by
  obtain ⟨base, stack, r, -, called, world⟩ := call_inv h (by simp)
  obtain ⟨u, found', rfl⟩ := Option.map_eq_some_iff.mp called
  obtain rfl := Option.some.inj (found.symm.trans found')
  obtain ⟨t', q, result, ends⟩ := restart_ends args uv found opened
  rw [result] at world
  obtain ⟨bound, -⟩ := List.getElem?_eq_some_iff.mp found
  refine ⟨t', q, ?_, ends, ?_⟩
  · rw [world]
    exact List.getElem?_set_self bound
  · rw [world]
    rfl

private theorem isNil_of_given {v : Option Value} (h : given v = .ok none) :
    Timer.isNil v = true := by
  by_contra present
  unfold given at h
  rw [if_neg present] at h
  cases converted : delayOf v with
  | ok delay =>
    rw [converted] at h
    cases h
  | error q =>
    rw [converted] at h
    cases h

private theorem isNil_of_given_some {v : Option Value} {delay : Int}
    (h : given v = .ok (some delay)) : Timer.isNil v = false := by
  by_contra absent
  unfold given at h
  rw [if_pos (Bool.of_not_eq_false absent)] at h
  cases h

private theorem documented_iff {delay interval : Int} (periodic : t.isPeriodicTimer = true)
    (accepted : chosen t args = .ok (delay, interval)) :
    documented t args = .ok (interval, delay) ↔ ¬ DelayAlone t args := by
  unfold chosen at accepted
  unfold documented DelayAlone
  cases first : given args.argv[0]? with
  | error q =>
    rw [first] at accepted
    cases accepted
  | ok given₀ =>
    rw [first] at accepted
    cases given₀ with
    | none =>
      cases accepted
      rw [isNil_of_given first]
      cases absent : Timer.isNil args.argv[1]? with
      | true =>
        have second : given args.argv[1]? = .ok none := if_pos absent
        rw [second]
        simp [bind, Except.bind, pure, Except.pure]
      | false =>
        have second : given args.argv[1]? = some <$> delayOf args.argv[1]? :=
          if_neg (ne_true_of_eq_false absent)
        rw [second]
        cases delayOf args.argv[1]? with
        | ok delay => simp [bind, Except.bind, pure, Except.pure, Functor.map, Except.map]
        | error q => simp [bind, Except.bind, Functor.map, Except.map]
    | some interval =>
      rw [isNil_of_given_some first]
      dsimp only [bind, Except.bind] at accepted ⊢
      rw [periodic, if_pos rfl] at accepted
      cases second : given args.argv[1]? with
      | error q =>
        rw [second] at accepted
        cases accepted
      | ok given₁ =>
        rw [second] at accepted
        cases accepted
        simp [pure, Except.pure]

private theorem chosen_single {delay interval : Int} (single : t.isPeriodicTimer = false)
    (accepted : chosen t args = .ok (delay, interval)) : interval = t.interval := by
  unfold chosen at accepted
  obtain ⟨first, -, rest⟩ := of_bind accepted
  cases first with
  | none =>
    cases rest
    rfl
  | some first =>
    dsimp only at rest
    rw [single] at rest
    cases rest
    rfl

private theorem chosen_halfway {interval : Int} {q : Return} (periodic : t.isPeriodicTimer = true)
    (first : given args.argv[0]? = .ok (some interval)) (second : given args.argv[1]? = .error q) :
    chosen t args = .error q := by
  unfold chosen
  rw [first]
  dsimp only [bind, Except.bind]
  rw [periodic, if_pos rfl, second]

private theorem documented_sound (h : engine.step c a = some c') (allowed : ¬ IgnoresDelay c a) :
    RestartsAsDocumented c a := by
  rintro n args uv t c'' rfl found opened periodic h' ⟨older, returned⟩
  obtain ⟨t', q, found', ends, trace⟩ := restart_step found opened h'
  rw [trace] at returned
  obtain rfl : q = .value .true := (Event.returned.inj (List.cons.inj returned).1).2
  cases ends with
  | @starts delay interval few accepted start =>
    have max : maxArgs t = 2 := by simp [maxArgs, periodic]
    have law := (documented_iff periodic accepted).mpr fun alone =>
      allowed ⟨t, found, opened, periodic, by omega, start, alone⟩
    have uvRepeat : uvRepeatOf t interval = interval := by simp [uvRepeatOf, periodic]
    exact ⟨_, interval, delay, found', law, rfl, uvRepeat, rfl, rfl, rfl⟩

private theorem documented_sharp (h : engine.step c a = some c')
    (law : RestartsAsDocumented c a) : ¬ IgnoresDelay c a := by
  intro ignores
  unfold IgnoresDelay at ignores
  split at ignores
  · rename_i n args uv
    obtain ⟨t, found, opened, periodic, few, start, alone⟩ := ignores
    obtain ⟨t', q, found', ends, trace⟩ := restart_step found opened h
    have max : maxArgs t = 2 := by simp [maxArgs, periodic]
    have none : given args.argv[0]? = .ok none := if_pos alone.1
    cases ends with
    | refuses bad =>
      rcases bad with many | ⟨q, error⟩
      · omega
      · rw [none] at error
        cases error
    | halfway few periodic first second =>
      rw [none] at first
      cases first
    | fails few accepted start' => exact absurd start start'
    | @starts delay interval few accepted start' =>
      obtain ⟨u, interval', delay', found'', documented, -, -, -, recorded, recorded'⟩ :=
        law n args uv t c' rfl found opened periodic h ⟨_, trace⟩
      obtain rfl := Option.some.inj (found'.symm.trans found'')
      dsimp only at recorded recorded'
      subst recorded recorded'
      exact (documented_iff periodic accepted).mp documented alone
  · exact ignores

structure RecordInv (c : Config) : Prop where
  handles : HandlesInv c.world
  agrees : Agrees c
  single : ∀ (n : Nat) (t : State.Timer), c.world.timers[n]? = some t → t.uvHandle = true →
    t.isPeriodicTimer = false → t.interval = 0

/-- What `RecordInv` says of one Timer. -/
def Recorded (t : State.Timer) : Prop := t.uvHandle = true →
  (t.delay = t.uvTimeout ∧ t.interval = t.uvRepeat) ∧ (t.isPeriodicTimer = false → t.interval = 0)

private theorem recorded_restart {t' : State.Timer} {q : Return} (opened : t.uvHandle = true)
    (recorded : Recorded t) (ends : Restarts t args uv t' q)
    (whole : args.argv.length ≤ maxArgs t → ¬ StoresHalf t args uv) : Recorded t' := by
  obtain ⟨agrees, single⟩ := recorded opened
  cases ends with
  | refuses bad => exact recorded
  | @halfway interval q error few periodic first second =>
    have same : interval = t.interval := by
      by_contra other
      exact whole few (.inl ⟨periodic, interval, q, first, second, other⟩)
    subst same
    exact recorded
  | @fails delay interval few accepted start =>
    have same : delay = t.delay ∧ interval = t.interval := by
      by_contra other
      exact whole few (.inr ⟨start, delay, interval, accepted, other⟩)
    obtain ⟨rfl, rfl⟩ := same
    exact recorded
  | @starts delay interval few accepted start =>
    intro _
    cases periodic : t.isPeriodicTimer with
    | true =>
      refine ⟨⟨rfl, ?_⟩, fun other => by cases other⟩
      simp [uvRepeatOf, periodic]
    | false =>
      have none : interval = 0 := (chosen_single periodic accepted).trans (single periodic)
      refine ⟨⟨rfl, ?_⟩, fun _ => none⟩
      simp [uvRepeatOf, periodic, none]

private theorem recorded_move {o o' : Option State.Timer} {t' : State.Timer}
    (move : TimerMove n a o o') (recorded : ∀ t, o = some t → Recorded t)
    (whole : ∀ t args uv, a = .call (.timerRestart n args uv) → o = some t →
      t.uvHandle = true → args.argv.length ≤ maxArgs t → ¬ StoresHalf t args uv)
    (found : o' = some t') : Recorded t' := by
  cases move with
  | still => exact recorded t' found
  | refused b =>
    obtain rfl := Option.some.inj found
    intro opened
    cases opened
  | undone b p =>
    obtain rfl := Option.some.inj found
    intro opened
    cases opened
  | @opens b p periodic =>
    obtain rfl := Option.some.inj found
    intro _
    refine ⟨⟨rfl, rfl⟩, fun single => ?_⟩
    by_contra other
    have periodic := periodic.mp other
    cases single.symm.trans periodic
  | @pauses t opened =>
    obtain rfl := Option.some.inj found
    exact recorded t rfl
  | @restarts t t'' args uv q call opened ends =>
    obtain rfl := Option.some.inj found
    exact recorded_restart opened (recorded t rfl) ends (whole t args uv call rfl opened)
  | @expires t event active =>
    obtain rfl := Option.some.inj found
    unfold expired
    dsimp only
    split
    · exact recorded t rfl
    · intro opened
      cases opened
  | closes opened =>
    obtain rfl := Option.some.inj found
    intro opened
    cases opened

private theorem recordInv_step (inv : RecordInv c) (h : engine.step c a = some c')
    (whole : ¬ Halfway c a) : RecordInv c' := by
  have move := (step_inv h).2
  have recorded (n : Nat) (t : State.Timer) (found : c'.world.timers[n]? = some t) :
      Recorded t := by
    refine recorded_move (timer_move inv.handles move n) ?_ ?_ found
    · intro t found opened
      exact ⟨inv.agrees n t found opened, inv.single n t found opened⟩
    · rintro t args uv rfl found opened few half
      exact whole ⟨t, found, opened, few, half⟩
  refine ⟨handlesInv_step inv.handles move, ?_, ?_⟩
  · intro n t found opened
    exact (recorded n t found opened).1
  · intro n t found opened
    exact (recorded n t found opened).2

private theorem recordInv_init : RecordInv engine.init := by
  refine ⟨handlesInv_init, ?_, ?_⟩
  · intro n t found
    cases found
  · intro n t found
    cases found

private theorem keeps_sound (h : engine.step c a = some c') (whole : ¬ Halfway c a) :
    RestartKeeps c a := by
  rintro n args uv t c'' rfl found h' ⟨error, older, raised⟩
  cases opened : t.uvHandle with
  | false =>
    obtain ⟨base, stack, r, -, called, world⟩ := call_inv h' (by simp)
    obtain ⟨u, found', rfl⟩ := Option.map_eq_some_iff.mp called
    obtain rfl := Option.some.inj (found.symm.trans found')
    rw [restart_closed opened] at world
    rw [world] at raised
    cases (Event.returned.inj (List.cons.inj raised).1).2
  | true =>
    obtain ⟨t', q, found', ends, trace⟩ := restart_step found opened h'
    refine ⟨t', found', ?_⟩
    have half (few : args.argv.length ≤ maxArgs t) : ¬ StoresHalf t args uv :=
      fun stores => whole ⟨t, found, opened, few, stores⟩
    cases ends with
    | refuses bad => exact ⟨rfl, rfl⟩
    | @halfway interval q error few periodic first second =>
      refine ⟨rfl, ?_⟩
      by_contra other
      exact half few (.inl ⟨periodic, interval, q, first, second, other⟩)
    | @fails delay interval few accepted start =>
      by_contra other
      exact half few (.inr ⟨start, delay, interval, accepted, other⟩)
    | starts few accepted start =>
      rw [trace] at raised
      cases (Event.returned.inj (List.cons.inj raised).1).2

private theorem keeps_sharp (h : engine.step c a = some c') (keeps : RestartKeeps c a) :
    ¬ Halfway c a := by
  intro half
  unfold Halfway at half
  split at half
  · rename_i n args uv
    obtain ⟨t, found, opened, few, half⟩ := half
    obtain ⟨t', q, found', ends, trace⟩ := restart_step found opened h
    have kept (error : RubyError) (raised : q = .raised error) :
        t'.delay = t.delay ∧ t'.interval = t.interval := by
      subst raised
      obtain ⟨u, found'', same⟩ := keeps n args uv t c' rfl found h ⟨error, _, trace⟩
      obtain rfl := Option.some.inj (found'.symm.trans found'')
      exact same
    rcases half with ⟨periodic, interval, q', first, second, other⟩ |
      ⟨start, delay, interval, accepted, other⟩
    · have error := chosen_halfway periodic first second
      cases ends with
      | refuses bad =>
        rcases bad with many | ⟨q, refused⟩
        · omega
        · cases first.symm.trans refused
      | halfway few periodic first' second' =>
        cases first.symm.trans first'
        exact other (kept _ rfl).2
      | fails few accepted start => cases error.symm.trans accepted
      | starts few accepted start => cases error.symm.trans accepted
    · cases ends with
      | refuses bad =>
        rcases bad with many | ⟨q, refused⟩
        · omega
        · unfold chosen at accepted
          rw [refused] at accepted
          cases accepted
      | halfway few periodic first second =>
        cases (chosen_halfway periodic first second).symm.trans accepted
      | fails few accepted' start =>
        cases accepted.symm.trans accepted'
        exact other (kept _ rfl)
      | starts few accepted' start' => exact absurd start' start
  · exact half

end Step

/-- In every run, each restart of a PeriodicTimer that succeeds arms libuv as documented exactly
when none is given a new delay alone. -/
theorem restarts_as_documented_iff {l : List (Config × Action)} {c : Config}
    (path : Path engine l c) :
    Each RestartsAsDocumented l ↔ Each (fun c a => ¬ IgnoresDelay c a) l :=
  path.each_iff_each (I := fun _ => True) trivial (fun _ _ _ => trivial)
    (fun _ => documented_sound) (fun _ => documented_sharp)

/-- A PeriodicTimer of 100 ms is restarted with a delay of 500 ms alone. -/
theorem delay_alone_ignored : ¬ ∀ l c, Path engine l c → Each RestartsAsDocumented l := by
  intro law
  have reached : (engine.exec (runBlock ++
      [.call (.periodicTimerNew ⟨[.float 0.1], some 7⟩ {})])).any (fun c =>
        decide (c.world.timers[0]?.map (fun t => (t.uvHandle, t.isPeriodicTimer, t.delay)) =
          some (true, true, 100)) &&
        (engine.step c (.call (.timerRestart 0 ⟨[.nil, .float 0.5], none⟩ {}))).isSome) =
      true := by
    decide +kernel
  obtain ⟨l, c, path, seen⟩ := exists_path_of_exec engine _ _ reached
  obtain ⟨timer, steps⟩ := (Bool.and_eq_true _ _).mp seen
  obtain ⟨c', move⟩ := Option.isSome_iff_exists.mp steps
  obtain ⟨t, found, fields⟩ := Option.map_eq_some_iff.mp (of_decide_eq_true timer)
  simp only [Prod.mk.injEq] at fields
  obtain ⟨opened, periodic, delay⟩ := fields
  have step := law _ c' (path.next move) _ (List.mem_append_right _ (.head _))
  refine documented_sharp move step ⟨t, found, opened, periodic, by decide, rfl, rfl, rfl, ?_⟩
  rw [delay]
  decide

/-- The PeriodicTimer is restarted with both an interval and a delay. -/
theorem restarts_as_documented_iff_both : ∃ l c, Path engine l c ∧
    c.world.timers.map (fun t => (t.uvRepeat, t.uvTimeout)) = [(200, 500)] ∧
    (Each RestartsAsDocumented l ↔ Each (fun c a => ¬ IgnoresDelay c a) l) := by
  have reached : (engine.exec (runBlock ++
      [.call (.periodicTimerNew ⟨[.float 0.1], some 7⟩ {}),
        .call (.timerRestart 0 ⟨[.float 0.2, .float 0.5], none⟩ {})])).any (fun c =>
        decide (c.world.timers.map (fun t => (t.uvRepeat, t.uvTimeout)) = [(200, 500)])) =
      true := by
    decide +kernel
  obtain ⟨l, c, path, seen⟩ := exists_path_of_exec engine _ _ reached
  exact ⟨l, c, path, of_decide_eq_true seen, restarts_as_documented_iff path⟩

/-- In every run, a restart that raises keeps the recorded delay and interval, and these are those
of the last `uv_timer_start`, exactly when no restart fails after it has stored another value. -/
theorem recorded_iff {l : List (Config × Action)} {c : Config} (path : Path engine l c) :
    (Each RestartKeeps l ∧ Always Agrees l c) ↔ Each (fun c a => ¬ Halfway c a) l := by
  have each : Each RestartKeeps l ↔ Each (fun c a => ¬ Halfway c a) l :=
    path.each_iff_each (I := fun _ => True) trivial (fun _ _ _ => trivial)
      (fun _ => keeps_sound) (fun _ => keeps_sharp)
  constructor
  · intro kept
    exact each.mp kept.1
  · intro steps
    exact ⟨each.mpr steps, path.always recordInv_init recordInv_step RecordInv.agrees steps⟩

/-- A PeriodicTimer of 100 ms is restarted with an interval of 200 ms and a String as delay. -/
theorem rejected_delay_stores_interval :
    ¬ ∀ l c, Path engine l c → Each RestartKeeps l ∧ Always Agrees l c := by
  intro law
  have reached : (engine.exec (runBlock ++
      [.call (.periodicTimerNew ⟨[.float 0.1], some 7⟩ {}),
        .call (.timerRestart 0 ⟨[.float 0.2, .string []], none⟩ {})])).any (fun c =>
        decide (c.world.timers[0]?.map (fun t => (t.uvHandle, t.interval, t.uvRepeat)) =
          some (true, 200, 100))) = true := by
    decide +kernel
  obtain ⟨l, c, path, seen⟩ := exists_path_of_exec engine _ _ reached
  obtain ⟨t, found, fields⟩ := Option.map_eq_some_iff.mp (of_decide_eq_true seen)
  simp only [Prod.mk.injEq] at fields
  obtain ⟨opened, interval, uvRepeat⟩ := fields
  have agrees := ((law l c path).2.2 0 t found opened).2
  rw [interval, uvRepeat] at agrees
  cases agrees

/-- The same restart with a delay that is accepted. -/
theorem recorded_iff_both : ∃ l c, Path engine l c ∧
    c.world.timers.map (fun t => (t.interval, t.delay)) = [(200, 500)] ∧
    ((Each RestartKeeps l ∧ Always Agrees l c) ↔ Each (fun c a => ¬ Halfway c a) l) := by
  have reached : (engine.exec (runBlock ++
      [.call (.periodicTimerNew ⟨[.float 0.1], some 7⟩ {}),
        .call (.timerRestart 0 ⟨[.float 0.2, .float 0.5], none⟩ {})])).any (fun c =>
        decide (c.world.timers.map (fun t => (t.interval, t.delay)) = [(200, 500)])) = true := by
    decide +kernel
  obtain ⟨l, c, path, seen⟩ := exists_path_of_exec engine _ _ reached
  exact ⟨l, c, path, of_decide_eq_true seen, recorded_iff path⟩

end AsyncEngine.Engine.TimerRestart
