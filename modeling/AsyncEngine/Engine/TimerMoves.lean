/- What becomes of one Timer in a step of the engine, and how the two `restart` methods end. -/

import AsyncEngine.Engine.Handles

set_option autoImplicit false
set_option relaxedAutoImplicit false

namespace AsyncEngine.Engine.TimerMoves

open AsyncEngine.Lib.Registry
open AsyncEngine.Engine.Ruby
open AsyncEngine.Engine.State
open AsyncEngine.Engine.Machine
open AsyncEngine.Engine.Effects
open AsyncEngine.Engine.Steps
open AsyncEngine.Engine.Handles

section Restart

/-- An optional number of seconds, in milliseconds. -/
def given (v : Option Value) : Check (Option Int) :=
  if Timer.isNil v then pure none else some <$> delayOf v

def maxArgs (t : State.Timer) : Nat := if t.isPeriodicTimer then 2 else 1

/-- The delay and the interval that `restart` has stored when it accepts all of its arguments. -/
def chosen (t : State.Timer) (args : Args) : Check (Int × Int) := do
  match ← given args.argv[0]? with
  | none => pure (t.delay, t.interval)
  | some first =>
    if t.isPeriodicTimer then
      let delay ← given args.argv[1]?
      pure (delay.getD first, first)
    else pure (first, t.interval)

def uvRepeatOf (t : State.Timer) (interval : Int) : Int :=
  if t.isPeriodicTimer then interval else 0

/-- How `restart` ends on an open Timer, and what it leaves of it. -/
inductive Restarts (t : State.Timer) (args : Args) (uv : UvAnswers) :
    State.Timer → Return → Prop
  | refuses {error : RubyError}
      (bad : args.argv.length > maxArgs t ∨ ∃ q, given args.argv[0]? = .error q) :
      Restarts t args uv t (.raised error)
  | halfway {interval : Int} {q : Return} {error : RubyError} (few : args.argv.length ≤ maxArgs t)
      (periodic : t.isPeriodicTimer = true) (first : given args.argv[0]? = .ok (some interval))
      (second : given args.argv[1]? = .error q) :
      Restarts t args uv { t with interval := interval } (.raised error)
  | fails {delay interval : Int} (few : args.argv.length ≤ maxArgs t)
      (accepted : chosen t args = .ok (delay, interval)) (start : uv.timerStart ≠ 0) :
      Restarts t args uv { t with delay := delay, interval := interval }
        (.raised (aeGetLastUvError uv))
  | starts {delay interval : Int} (few : args.argv.length ≤ maxArgs t)
      (accepted : chosen t args = .ok (delay, interval)) (start : uv.timerStart = 0) :
      Restarts t args uv { t with
        delay := delay, interval := interval, uvActive := true, uvTimeout := delay
        uvRepeat := uvRepeatOf t interval } (.value .true)

variable {w : World} {n : Nat} {t : State.Timer} {args : Args} {uv : UvAnswers}

private theorem delayOf_error {v : Option Value} {q : Return} (h : delayOf v = .error q) :
    ∃ error, q = .raised error := by
  cases converted : num2dbl v with
  | ok x =>
    simp only [delayOf, num2ms, converted] at h
    cases h
  | error q' =>
    simp only [delayOf, num2ms, converted] at h
    cases h
    unfold num2dbl rbRaise at converted
    split at converted
    · cases converted
    · cases converted
    · cases converted
      exact ⟨_, rfl⟩

private theorem given_error {v : Option Value} {q : Return} (h : given v = .error q) :
    ∃ error, q = .raised error := by
  unfold given at h
  split at h
  · cases h
  · cases converted : delayOf v with
    | ok delay =>
      rw [converted] at h
      cases h
    | error q' =>
      rw [converted] at h
      cases h
      exact delayOf_error converted

private theorem setTimer_self (found : w.timers[n]? = some t) : w.setTimer n t = w := by
  obtain ⟨bound, rfl⟩ := List.getElem?_eq_some_iff.mp found
  unfold World.setTimer
  rw [List.set_getElem_self]

private theorem uvTimerStart_ends {delay interval : Int} (w : World) (n : Nat) (uv : UvAnswers)
    (few : args.argv.length ≤ maxArgs t) (accepted : chosen t args = .ok (delay, interval)) :
    ∃ t' q, Timer.uvTimerStart w n { t with delay := delay, interval := interval }
        (uvRepeatOf t interval) uv = (w.setTimer n t', .ends q) ∧ Restarts t args uv t' q := by
  unfold Timer.uvTimerStart
  split
  · rename_i start
    exact ⟨_, _, rfl, .fails few accepted start⟩
  · rename_i start
    exact ⟨_, _, rfl, .starts few accepted (not_not.mp start)⟩

theorem restart_closed (closed : t.uvHandle = false) :
    Timer.restart w n t args uv = (w, .value .false) := by
  unfold Timer.restart Timer.periodicTimerRestart Timer.timerRestart checkUvHandleIsOpen
  rw [closed]
  cases t.isPeriodicTimer <;> rfl

private theorem restart_checks {max : Nat} (opened : t.uvHandle = true)
    {go : Option Int → World × Outcome} :
    checked w (do
        checkUvHandleIsOpen t.uvHandle
        checkNumArgs args 0 max
        if Timer.isNil args.argv[0]? then pure none else some <$> delayOf args.argv[0]?) go =
      if args.argv.length > max then
        (w, .raised (.argument "wrong number of arguments"))
      else match given args.argv[0]? with
        | .ok first => go first
        | .error q => (w, .ends q) := by
  by_cases many : args.argv.length > max
  · rw [if_pos many, opened]
    unfold checkNumArgs
    rw [if_pos (.inr many)]
    rfl
  · rw [if_neg many, opened]
    unfold checkNumArgs
    rw [if_neg (by omega)]
    change checked w (given args.argv[0]?) go = _
    unfold checked
    cases given args.argv[0]? <;> rfl

theorem restart_ends (args : Args) (uv : UvAnswers) (found : w.timers[n]? = some t)
    (opened : t.uvHandle = true) :
    ∃ t' q, Timer.restart w n t args uv = (w.setTimer n t', .ends q) ∧
      Restarts t args uv t' q := by
  have refused {error : RubyError}
      (bad : args.argv.length > maxArgs t ∨ ∃ q, given args.argv[0]? = .error q) :
      ∃ t' q, ((w, .raised error) : World × Outcome) = (w.setTimer n t', .ends q) ∧
        Restarts t args uv t' q := by
    refine ⟨t, .raised error, ?_, .refuses bad⟩
    rw [setTimer_self found]
  unfold Timer.restart
  cases periodic : t.isPeriodicTimer with
  | false =>
    have max : maxArgs t = 1 := by simp [maxArgs, periodic]
    have uvRepeat (interval : Int) : uvRepeatOf t interval = 0 := by simp [uvRepeatOf, periodic]
    unfold Timer.timerRestart
    rw [if_neg Bool.false_ne_true, restart_checks opened]
    split
    · exact refused (.inl (by omega))
    · have few : args.argv.length ≤ maxArgs t := by omega
      cases first : given args.argv[0]? with
      | error q =>
        obtain ⟨error, rfl⟩ := given_error first
        exact refused (.inr ⟨_, first⟩)
      | ok delay =>
        have accepted : chosen t args = .ok (delay.getD t.delay, t.interval) := by
          unfold chosen
          rw [first, periodic]
          cases delay <;> rfl
        have ends := uvTimerStart_ends w n uv few accepted
        rw [uvRepeat] at ends
        exact ends
  | true =>
    have max : maxArgs t = 2 := by simp [maxArgs, periodic]
    have uvRepeat (interval : Int) : uvRepeatOf t interval = interval := by
      simp [uvRepeatOf, periodic]
    unfold Timer.periodicTimerRestart
    rw [if_pos rfl, restart_checks opened]
    split
    · exact refused (.inl (by omega))
    · have few : args.argv.length ≤ maxArgs t := by omega
      cases first : given args.argv[0]? with
      | error q =>
        obtain ⟨error, rfl⟩ := given_error first
        exact refused (.inr ⟨_, first⟩)
      | ok interval =>
        cases interval with
        | none =>
          have accepted : chosen t args = .ok (t.delay, t.interval) := by
            unfold chosen
            rw [first]
            rfl
          have ends := uvTimerStart_ends w n uv few accepted
          rw [uvRepeat] at ends
          exact ends
        | some interval =>
          have second {delay : Option Int} (given' : given args.argv[1]? = .ok delay) :
              chosen t args = .ok (delay.getD interval, interval) := by
            unfold chosen
            rw [first]
            dsimp only [bind, Except.bind]
            rw [periodic, if_pos rfl, given']
            rfl
          dsimp only
          split
          · rename_i absent
            have none : given args.argv[1]? = .ok none := if_pos absent
            have ends := uvTimerStart_ends w n uv few (second none)
            rw [uvRepeat] at ends
            exact ends
          · rename_i present
            have converts : given args.argv[1]? = some <$> delayOf args.argv[1]? := if_neg present
            split
            · rename_i delay converted
              rw [converted] at converts
              have ends := uvTimerStart_ends w n uv few (second converts)
              rw [uvRepeat] at ends
              exact ends
            · rename_i q converted
              rw [converted] at converts
              obtain ⟨error, rfl⟩ := delayOf_error converted
              exact ⟨_, _, rfl, .halfway few periodic first converts⟩

end Restart

section Moves

def shut (t : State.Timer) : State.Timer :=
  { t with uvHandle := false, uvCloses := t.uvCloses + 1, uvActive := false }

def made (n : Nat) (isPeriodicTimer : Bool) (p : Timer.NewArgs) : State.Timer where
  uvInited := true
  uvHandle := true
  aeHandleId := some n
  isPeriodicTimer := isPeriodicTimer
  periodic := decide (p.interval ≠ 0)
  delay := p.delay
  interval := p.interval
  onFireProc := p.proc

/-- A Timer that has expired: libuv starts it again or not, and one that is not periodic is
closed. -/
def expired (t : State.Timer) : State.Timer :=
  let t := { t with uvActive := decide (t.uvRepeat ≠ 0) }
  if t.periodic then t else shut t

/-- What becomes of the `n`-th Timer in a step. -/
inductive TimerMove (n : Nat) (a : Action) : Option State.Timer → Option State.Timer → Prop
  | still (t : Option State.Timer) : TimerMove n a t t
  | refused (isPeriodicTimer : Bool) :
      TimerMove n a none (some { isPeriodicTimer := isPeriodicTimer })
  | undone (isPeriodicTimer : Bool) (p : Timer.NewArgs) :
      TimerMove n a none (some (shut (made n isPeriodicTimer p)))
  | opens {isPeriodicTimer : Bool} {p : Timer.NewArgs}
      (periodic : p.interval ≠ 0 ↔ isPeriodicTimer = true) :
      TimerMove n a none (some { made n isPeriodicTimer p with
        uvActive := true, uvTimeout := p.delay, uvRepeat := p.interval })
  | pauses {t : State.Timer} (opened : t.uvHandle = true) :
      TimerMove n a (some t) (some { t with uvActive := false })
  | restarts {t t' : State.Timer} {args : Args} {uv : UvAnswers} {q : Return}
      (call : a = .call (.timerRestart n args uv)) (opened : t.uvHandle = true)
      (ends : Restarts t args uv t' q) : TimerMove n a (some t) (some t')
  | expires {t : State.Timer} (event : a = .event (.timer n)) (active : t.uvActive = true) :
      TimerMove n a (some t) (some (expired t))
  | closes {t : State.Timer} (opened : t.uvHandle = true) :
      TimerMove n a (some t) (some (shut t))

variable {w w' : World} {n m : Nat} {a : Action} {t t' : State.Timer}

private theorem move_set (found : w.timers[m]? = some t)
    (move : m = n → TimerMove n a (some t) (some t')) :
    TimerMove n a w.timers[n]? (w.setTimer m t').timers[n]? := by
  change TimerMove n a w.timers[n]? (w.timers.set m t')[n]?
  by_cases own : m = n
  · subst own
    obtain ⟨bound, -⟩ := List.getElem?_eq_some_iff.mp found
    rw [found, List.getElem?_set_self bound]
    exact move rfl
  · rw [List.getElem?_set_ne own]
    exact .still _

theorem closeHandle_timers (w : World) (opened : t.uvHandle = true)
    (key : t.aeHandleId = some m) :
    (Timer.closeHandle w m t).timers = (w.setTimer m (shut t)).timers := by
  unfold Timer.closeHandle
  rw [if_pos opened]
  split
  · rfl
  · rename_i missing
    rw [key] at missing
    cases missing

private theorem uvTimerCallback_timers (w : World) (opened : t.uvHandle = true)
    (key : t.aeHandleId = some m) : (Timer.uvTimerCallback (w.setTimer m t) m t).1.timers =
      (w.setTimer m (if t.periodic then t else shut t)).timers := by
  unfold Timer.uvTimerCallback
  dsimp only
  split
  · rfl
  · rw [closeHandle_timers _ opened key]
    exact List.set_set ..

private theorem init_move {isPeriodicTimer : Bool} (p : Timer.NewArgs) (uv : UvAnswers)
    (periodic : p.interval ≠ 0 ↔ isPeriodicTimer = true) :
    TimerMove n a w.timers[n]?
      (Timer.initInstance w isPeriodicTimer p.delay p.interval p.proc uv).1.timers[n]? := by
  have append {t' : State.Timer} (move : n = w.timers.length → TimerMove n a none (some t')) :
      TimerMove n a w.timers[n]? (w.timers ++ [t'])[n]? := by
    by_cases own : n = w.timers.length
    · subst own
      rw [List.getElem?_concat_length, List.getElem?_eq_none (Nat.le_refl _)]
      exact move rfl
    · rw [List.getElem?_append]
      split
      · exact .still _
      · rw [List.getElem?_eq_none (by omega), List.getElem?_eq_none (by simp; omega)]
        exact .still _
  have filled (t t' : State.Timer) :
      (w.timers ++ [t]).set w.timers.length t' = w.timers ++ [t'] := by
    simp
  unfold Timer.initInstance
  split
  · exact append fun _ => .refused isPeriodicTimer
  · dsimp only
    split
    · change TimerMove n a w.timers[n]? ((w.timers ++ [_]).set w.timers.length _)[n]?
      rw [filled]
      refine append fun own => ?_
      subst own
      exact .undone isPeriodicTimer p
    · change TimerMove n a w.timers[n]? ((w.timers ++ [_]).set w.timers.length _)[n]?
      rw [filled]
      refine append fun own => ?_
      subst own
      exact .opens periodic

private theorem new_move {b : Bool} (uv : UvAnswers) {check : Check Timer.NewArgs}
    (periodic : ∀ p, check = .ok p → (p.interval ≠ 0 ↔ b = true)) :
    TimerMove n a w.timers[n]? (checked w check fun p =>
      Timer.initInstance w b p.delay p.interval p.proc uv).1.timers[n]? := by
  exact checked_cases (P := fun r => TimerMove n a w.timers[n]? r.1.timers[n]?)
    (fun _ _ => .still _) fun p accepted => init_move p uv (periodic p accepted)

private theorem delayOf_pos {v : Option Value} {delay : Int} (h : delayOf v = .ok delay) :
    1 ≤ delay := by
  obtain ⟨ms, -, rest⟩ := of_bind h
  obtain rfl := Except.ok.inj rest
  split <;> omega

private theorem new_single {s : AeStatus} {args : Args} {p : Timer.NewArgs}
    (h : Timer.newArgs s args = .ok p) : p.interval ≠ 0 ↔ false = true := by
  obtain ⟨_, _, h⟩ := of_bind h
  obtain ⟨_, _, h⟩ := of_bind h
  obtain ⟨_, _, h⟩ := of_bind h
  obtain ⟨delay, _, h⟩ := of_bind h
  obtain rfl := Except.ok.inj h
  simp

private theorem new_periodic {s : AeStatus} {args : Args} {p : Timer.NewArgs}
    (h : Timer.periodicNewArgs s args = .ok p) : p.interval ≠ 0 ↔ true = true := by
  obtain ⟨_, _, h⟩ := of_bind h
  obtain ⟨_, _, h⟩ := of_bind h
  obtain ⟨_, _, h⟩ := of_bind h
  obtain ⟨interval, converted, h⟩ := of_bind h
  have same : p.interval = interval := by
    dsimp only at h
    split at h
    · obtain ⟨delay, _, h⟩ := of_bind h
      rw [← Except.ok.inj h]
    · obtain ⟨delay, _, h⟩ := of_bind h
      rw [← Except.ok.inj h]
  have positive := delayOf_pos converted
  simp only [iff_true]
  omega

private theorem dispatch_move {call : Call} {r : World × Outcome} (inv : TimersInv w)
    (h : dispatch w call = some r) : TimerMove n (.call call) w.timers[n]? r.1.timers[n]? := by
  by_cases file : fileOf call = .timer
  · cases call with
    | timerNew args uv =>
      obtain rfl := Option.some.inj h
      exact new_move uv fun p accepted => new_single accepted
    | periodicTimerNew args uv =>
      obtain rfl := Option.some.inj h
      exact new_move uv fun p accepted => new_periodic accepted
    | timerPause m uv =>
      obtain ⟨t, found, rfl⟩ := Option.map_eq_some_iff.mp h
      refine checked_cases (P := fun r => TimerMove n _ w.timers[n]? r.1.timers[n]?)
        (fun _ _ => .still _) fun _ passed => ?_
      split
      · exact .still _
      · exact move_set found fun _ => .pauses (open_of_check passed)
    | timerRestart m args uv =>
      obtain ⟨t, found, rfl⟩ := Option.map_eq_some_iff.mp h
      cases opened : t.uvHandle with
      | false =>
        rw [restart_closed opened]
        exact .still _
      | true =>
        obtain ⟨t', q, result, ends⟩ := restart_ends args uv found opened
        rw [result]
        exact move_set found fun own => .restarts (by rw [own]) opened ends
    | timerClose m =>
      obtain ⟨t, found, rfl⟩ := Option.map_eq_some_iff.mp h
      refine checked_cases (P := fun r => TimerMove n _ w.timers[n]? r.1.timers[n]?)
        (fun _ _ => .still _) fun _ passed => ?_
      have opened := open_of_check passed
      rw [closeHandle_timers w opened (inv.table.good m t found opened).1]
      exact move_set found fun _ => .closes opened
    | _ => cases file
  · rw [(untouched_own (dispatch_own h)).timers file]
    exact .still _

theorem reports_timer {r : World × Option Callback} (inv : TimersInv w)
    (h : Reports w (.timer m) r) : ∃ t, w.timers[m]? = some t ∧ t.uvActive = true ∧
      r.1.timers = (w.setTimer m (expired t)).timers := by
  cases h with
  | @timer _ t found active =>
    have opened : t.uvHandle = true := inv.idle t (List.mem_of_getElem? found) active
    exact ⟨t, found, active, uvTimerCallback_timers w
      (t := { t with uvActive := decide (t.uvRepeat ≠ 0) }) opened
      (inv.table.good m t found opened).1⟩

private theorem reports_move {event : UvEvent} {r : World × Option Callback} (inv : TimersInv w)
    (h : Reports w event r) : TimerMove n (.event event) w.timers[n]? r.1.timers[n]? := by
  by_cases file : fileOfEvent event = .timer
  · cases event with
    | timer m =>
      obtain ⟨t, found, active, timers⟩ := reports_timer inv h
      rw [timers]
      exact move_set found fun own => .expires (by rw [own]) active
    | _ => cases file
  · rw [(untouched_own (reports_own h)).timers file]
    exact .still _

private theorem destroy_move {key : Handle} (inv : TimersInv w) :
    TimerMove n a w.timers[n]? (destroyHandle w key).1.timers[n]? := by
  cases key with
  | timer m =>
    unfold destroyHandle
    dsimp only
    split
    · rename_i t found
      refine checked_cases (P := fun r => TimerMove n a w.timers[n]? r.1.timers[n]?)
        (fun _ _ => .still _) fun _ passed => ?_
      have opened := open_of_check passed
      rw [closeHandle_timers w opened (inv.table.good m t found opened).1]
      exact move_set found fun _ => .closes opened
    · exact .still _
  | udp m =>
    rw [(untouched_own (destroyHandle_own w (.udp m))).timers (by simp [fileOfKey])]
    exact .still _
  | tcp m =>
    rw [(untouched_own (destroyHandle_own w (.tcp m))).timers (by simp [fileOfKey])]
    exact .still _

theorem timer_move {c c' : Config} (inv : HandlesInv c.world) (h : Step c a c') (n : Nat) :
    TimerMove n a c.world.timers[n]? c'.world.timers[n]? := by
  obtain ⟨w, runs, data⟩ := step_data h
  rw [data.timers]
  cases runs with
  | nothing => exact .still _
  | method called => exact dispatch_move inv.timers called
  | queue frame =>
    rw [(untouched_own (show FrameOf .queue c.world w from frame)).timers (by simp)]
    exact .still _
  | callback reported => exact reports_move inv.timers reported
  | destroy stored => exact destroy_move inv.timers

end Moves

end AsyncEngine.Engine.TimerMoves
