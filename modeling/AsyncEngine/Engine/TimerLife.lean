/- The life of a Timer: its entry in `@_handles`, the closing of its handle and the calls of its
   proc. -/

import AsyncEngine.Engine.Release
import AsyncEngine.Engine.TimerMoves

set_option autoImplicit false
set_option relaxedAutoImplicit false

namespace AsyncEngine.Engine.TimerLife

open AsyncEngine.Lib.Run
open AsyncEngine.Lib.Registry
open AsyncEngine.Engine.Ruby
open AsyncEngine.Engine.State
open AsyncEngine.Engine.Machine
open AsyncEngine.Engine.Effects
open AsyncEngine.Engine.Steps
open AsyncEngine.Engine.Handles
open AsyncEngine.Engine.Loop
open AsyncEngine.Engine.Release
open AsyncEngine.Engine.TimerMoves

/-- The status in which the proc of the `n`-th Timer was called, if the event is such a call. -/
def fire (n : Nat) : Event → Option AeStatus
  | .started (.onFire m _) s => if m = n then some s else none
  | _ => none

/-- The calls of the proc of the `n`-th Timer. -/
def fires (n : Nat) (w : World) : List AeStatus := w.trace.filterMap (fire n)

/-- What holds of the `n`-th Timer in every state. -/
structure TimerLaw (n : Nat) (c : Config) : Prop where
  stored : .timer n ∈ c.world.handles ↔ ∃ t, c.world.timers[n]? = some t ∧ t.uvHandle = true
  closes : ∀ t, c.world.timers[n]? = some t → t.uvCloses ≤ 1
  ended : c.world.status = .stopped → ∀ t, c.world.timers[n]? = some t → t.uvInited = true →
    t.uvCloses = 1
  once : ∀ t, c.world.timers[n]? = some t → t.isPeriodicTimer = false →
    (fires n c.world).length ≤ 1 ∧ (fires n c.world ≠ [] → t.uvHandle = false)
  running : ∀ s ∈ fires n c.world, s = .running
  closed : .returned (.timerClose n) (.value .true) ∈ c.world.trace →
    ∃ t, c.world.timers[n]? = some t ∧ t.uvHandle = false

/-- The `n`-th Timer is closed, or the release of the loop has begun. -/
def Over (n : Nat) (c : Config) : Prop :=
  ∃ t, c.world.timers[n]? = some t ∧ (t.uvHandle = false ∨ c.world.status ≠ .running)

def receiver : Call → Option Nat
  | .timerPause n _ => some n
  | .timerRestart n _ _ => some n
  | .timerClose n => some n
  | .query (.timerDelay n) => some n
  | .query (.timerInterval n) => some n
  | .query (.timerAlive n) => some n
  | _ => none

/-- A closed Timer stays as it is, and its methods return false and do nothing. -/
def Refuses (n : Nat) (c : Config) (a : Action) : Prop :=
  ∀ t c', c.world.timers[n]? = some t → t.uvHandle = false → engine.step c a = some c' →
    c'.world.timers[n]? = some t ∧ ∀ call, a = .call call → receiver call = some n →
      c'.world = c.world.push (.returned call (.value .false))

section Moves

variable {n : Nat} {a : Action} {t t' : State.Timer} {o o' : Option State.Timer}

structure Sound (t : State.Timer) : Prop where
  idle : t.uvActive = true → t.uvHandle = true
  opened : t.uvHandle = true →
    t.uvInited = true ∧ t.uvCloses = 0 ∧ t.periodic = t.isPeriodicTimer
  closed : t.uvHandle = false → t.uvCloses = if t.uvInited then 1 else 0

private theorem Sound.closes (sound : Sound t) : t.uvCloses ≤ 1 := by
  cases opened : t.uvHandle with
  | true =>
    rw [(sound.opened opened).2.1]
    exact Nat.zero_le 1
  | false =>
    rw [sound.closed opened]
    split <;> omega

private theorem Sound.shut (sound : Sound t) (opened : t.uvHandle = true) : Sound (shut t) := by
  obtain ⟨inited, none, -⟩ := sound.opened opened
  refine ⟨fun active => ?_, fun on => ?_, fun _ => ?_⟩
  · cases active
  · cases on
  · simp [TimerMoves.shut, inited, none]

private theorem sound_made (isPeriodicTimer : Bool) (p : Timer.NewArgs)
    (periodic : p.interval ≠ 0 ↔ isPeriodicTimer = true) : Sound (made n isPeriodicTimer p) := by
  refine ⟨fun _ => rfl, fun _ => ⟨rfl, rfl, ?_⟩, fun closed => ?_⟩
  · exact Bool.eq_iff_iff.mpr ((decide_eq_true_iff).trans periodic)
  · cases closed

private theorem Sound.restarts {args : Args} {uv : UvAnswers} {q : Return} (sound : Sound t)
    (opened : t.uvHandle = true) (ends : Restarts t args uv t' q) : Sound t' := by
  cases ends with
  | refuses bad => exact sound
  | halfway few periodic first second => exact ⟨sound.idle, sound.opened, sound.closed⟩
  | fails few accepted start => exact ⟨sound.idle, sound.opened, sound.closed⟩
  | starts few accepted start => exact ⟨fun _ => opened, sound.opened, sound.closed⟩

private theorem Sound.expired (sound : Sound t) (active : t.uvActive = true) :
    Sound (expired t) := by
  have opened := sound.idle active
  have waits : Sound { t with uvActive := decide (t.uvRepeat ≠ 0) } :=
    ⟨fun _ => opened, sound.opened, sound.closed⟩
  unfold TimerMoves.expired
  dsimp only
  split
  · exact waits
  · exact waits.shut opened

private theorem sound_move (sound : ∀ t, o = some t → Sound t) (move : TimerMove n a o o')
    (found : o' = some t') : Sound t' := by
  cases move with
  | still => exact sound t' found
  | refused b =>
    obtain rfl := Option.some.inj found
    refine ⟨fun active => ?_, fun on => ?_, fun _ => rfl⟩
    · cases active
    · cases on
  | undone b p =>
    obtain rfl := Option.some.inj found
    refine ⟨fun active => ?_, fun on => ?_, fun _ => rfl⟩
    · cases active
    · cases on
  | @opens b p periodic =>
    obtain rfl := Option.some.inj found
    have made := sound_made (n := n) b p periodic
    exact ⟨fun _ => rfl, made.opened, made.closed⟩
  | @pauses t opened =>
    obtain rfl := Option.some.inj found
    have sound := sound t rfl
    exact ⟨fun active => (by cases active), sound.opened, sound.closed⟩
  | @restarts t t'' args uv q call opened ends =>
    obtain rfl := Option.some.inj found
    exact (sound t rfl).restarts opened ends
  | @expires t event active =>
    obtain rfl := Option.some.inj found
    exact (sound t rfl).expired active
  | @closes t opened =>
    obtain rfl := Option.some.inj found
    exact (sound t rfl).shut opened

private theorem kept_move (sound : Sound t) (move : TimerMove n a (some t) o') :
    ∃ t', o' = some t' ∧ t'.isPeriodicTimer = t.isPeriodicTimer ∧
      (t.uvHandle = false → t' = t) := by
  have changes {t' : State.Timer} (opened : t.uvHandle = true)
      (same : t'.isPeriodicTimer = t.isPeriodicTimer) :
      ∃ u, some t' = some u ∧ u.isPeriodicTimer = t.isPeriodicTimer ∧
        (t.uvHandle = false → u = t) := by
    refine ⟨t', rfl, same, fun closed => ?_⟩
    rw [opened] at closed
    cases closed
  cases move with
  | still => exact ⟨t, rfl, rfl, fun _ => rfl⟩
  | pauses opened => exact changes opened rfl
  | restarts call opened ends =>
    refine changes opened ?_
    cases ends <;> rfl
  | expires event active =>
    refine changes (sound.idle active) ?_
    unfold expired
    dsimp only
    split <;> rfl
  | closes opened => exact changes opened rfl

end Moves

section Step

variable {c c' : Config} {a : Action} {n : Nat}

structure LifeInv (n : Nat) (c : Config) : Prop where
  release : ReleaseInv c
  sound : ∀ t, c.world.timers[n]? = some t → Sound t
  ended : c.world.status = .stopped → ∀ t, c.world.timers[n]? = some t → t.uvHandle = false
  absent : c.world.timers[n]? = none → fires n c.world = []
  once : ∀ t, c.world.timers[n]? = some t → t.isPeriodicTimer = false →
    (fires n c.world).length ≤ 1 ∧ (fires n c.world ≠ [] → t.uvHandle = false)
  running : ∀ s ∈ fires n c.world, s = .running
  closed : .returned (.timerClose n) (.value .true) ∈ c.world.trace →
    ∃ t, c.world.timers[n]? = some t ∧ t.uvHandle = false

private theorem opened_before {t' : State.Timer} (inv : HandlesInv c.world) (h : Step c a c')
    (idle : c.world.status ≠ .running) (found : c'.world.timers[n]? = some t')
    (opened : t'.uvHandle = true) : ∃ t, c.world.timers[n]? = some t ∧ t.uvHandle = true := by
  have stored : .timer n ∈ c'.world.handles :=
    ((handlesInv_step inv h).timers.table.stored_iff n).mpr ⟨t', found, opened⟩
  obtain ⟨w, runs, data⟩ := step_data h
  rw [data.handles] at stored
  exact (inv.timers.table.stored_iff n).mp (handles_frame (runs_frame runs) idle _ stored)

private theorem ended_step (inv : LifeInv n c) (h : engine.step c a = some c')
    (stopped : c'.world.status = .stopped) {t' : State.Timer}
    (found : c'.world.timers[n]? = some t') : t'.uvHandle = false := by
  by_contra on
  have opened := Bool.of_not_eq_false on
  have step := (step_inv h).2
  have before (same : c.world.status = .stopped) : False := by
    obtain ⟨t, found, opened⟩ :=
      opened_before inv.release.handles step (by simp [same]) found opened
    rw [inv.ended same t found] at opened
    cases opened
  cases status_step step with
  | same same => exact before (same.symm.trans stopped)
  | starts halted running => exact before halted
  | releases running releasing => cases releasing.symm.trans stopped
  | ends ctl handles reqs halted =>
    simp only [noActiveHandles, Bool.and_eq_true, List.all_eq_true] at handles
    have idle : c.world.status ≠ .running := by
      intro running
      have some := (inv.release.vars.running running).1
      have none := handles.1.1.1.1.1
      rw [Option.isNone_iff_eq_none] at none
      rw [none] at some
      cases some
    obtain ⟨t, found, opened⟩ := opened_before inv.release.handles step idle found opened
    obtain ⟨inited, none, -⟩ := (inv.sound t found).opened opened
    have closed := handles.1.1.2 t (List.mem_of_getElem? found)
    simp [inited, none] at closed

private theorem fires_step (h : Step c a c') : fires n c'.world = fires n c.world ∨
    (a = .event (.timer n) ∧ fires n c'.world = c.world.status :: fires n c.world) := by
  have blind : ∀ e, ¬ OfControl e → fire n e = none := by
    intro e other
    cases e <;> first | rfl | exact absurd trivial other
  rcases step_filterMap blind h with same | ⟨e, s, shows, seen, added⟩
  · exact .inl same
  · right
    unfold fires
    rw [added]
    unfold fire at seen
    split at seen
    · rename_i m proc s'
      split at seen
      · rename_i own
        subst own
        obtain rfl := Option.some.inj seen
        obtain ⟨rfl, ⟨event, rfl, called⟩ | ⟨-, resumed⟩ | ⟨_, -, other⟩⟩ := shows_started shows
        · cases event <;> simp_all [calledBy]
        · exact resumed.elim
        · cases other
      · cases seen
    · cases seen

/-- A Timer expires only while running, and one that is not periodic is closed by it. -/
private theorem expires_step (inv : ReleaseInv c)
    (h : engine.step c (.event (.timer n)) = some c') : c.world.status = .running ∧
      ∃ t, c.world.timers[n]? = some t ∧ t.uvActive = true ∧
        c'.world.timers[n]? = some (expired t) := by
  obtain ⟨live, -⟩ := step_inv h
  obtain ⟨r, ctl, reported, rfl⟩ := event_inv h (by simp) (by simp)
  obtain ⟨t, found, active, timers⟩ := reports_timer inv.handles.timers reported
  have opened := inv.handles.timers.idle t (List.mem_of_getElem? found) active
  obtain ⟨bound, -⟩ := List.getElem?_eq_some_iff.mp found
  have running : c.world.status = .running := by
    refine running_of_busy (inv.loop.busy (by rw [ctl]; trivial) live) fun releasing => ?_
    have stored := (inv.handles.timers.table.stored_iff n).mpr ⟨t, found, opened⟩
    exact inv.closed releasing (not_draining (by rw [ctl]; rfl)) (.timer n) stored
  refine ⟨running, t, found, active, ?_⟩
  have status : r.1.status = .running :=
    (sameLoop_of_frame (reports_frame reported)).status.trans running
  have same : (takeGvl c r).world.timers = r.1.timers := by
    obtain ⟨w, callback⟩ := r
    cases callback with
    | none => rfl
    | some callback =>
      unfold takeGvl
      dsimp only at status ⊢
      rw [if_neg (by simp [status])]
      rfl
  rw [same, timers]
  exact List.getElem?_set_self bound

private theorem expired_single {t : State.Timer} (periodic : t.periodic = false) :
    (expired t).uvHandle = false := by
  unfold expired
  dsimp only
  rw [periodic]
  rfl

private theorem closed_method {w : World} {t : State.Timer} {call : Call} {r : World × Outcome}
    (found : w.timers[n]? = some t) (closed : t.uvHandle = false) (own : receiver call = some n)
    (h : dispatch w call = some r) : r = (w, .value .false) := by
  have check : checkUvHandleIsOpen t.uvHandle = .error (.value .false) := by
    rw [closed]
    rfl
  have map {f : State.Timer → World × Outcome} (refuses : f t = (w, .value .false))
      (h : w.timers[n]?.map f = some r) : r = (w, .value .false) := by
    rw [found] at h
    exact (Option.some.inj h).symm.trans refuses
  have asks {f : State.Timer → Value} (refuses : f t = .false)
      (h : (w.timers[n]?.map f).map (fun v => (w, Outcome.value v)) = some r) :
      r = (w, .value .false) := by
    rw [found, Option.map_some, refuses] at h
    exact (Option.some.inj h).symm
  cases call with
  | timerPause m uv =>
    obtain rfl := Option.some.inj own
    refine map ?_ h
    unfold Timer.pause checked
    rw [check]
  | timerRestart m args uv =>
    obtain rfl := Option.some.inj own
    exact map (restart_closed closed) h
  | timerClose m =>
    obtain rfl := Option.some.inj own
    refine map ?_ h
    unfold Timer.close checked
    rw [check]
  | query question =>
    cases question with
    | timerDelay m =>
      obtain rfl := Option.some.inj own
      exact asks (by simp [Timer.delay, closed]) h
    | timerInterval m =>
      obtain rfl := Option.some.inj own
      exact asks (by simp [Timer.interval, closed]) h
    | timerAlive m =>
      obtain rfl := Option.some.inj own
      exact asks (by simp [Timer.isAlive, closed]) h
    | _ => cases own
  | _ => cases own

private theorem close_step (inv : HandlesInv c.world)
    (h : engine.step c (.call (.timerClose n)) = some c') : ∃ t,
      c'.world.timers[n]? = some t ∧ t.uvHandle = false := by
  obtain ⟨base, stack, r, -, called, world⟩ := call_inv h (by simp)
  obtain ⟨t, found, rfl⟩ := Option.map_eq_some_iff.mp called
  obtain ⟨bound, -⟩ := List.getElem?_eq_some_iff.mp found
  cases opened : t.uvHandle with
  | false =>
    have own : receiver (.timerClose n) = some n := rfl
    rw [closed_method found opened own called] at world
    refine ⟨t, ?_, opened⟩
    rw [world]
    exact found
  | true =>
    have closes : Timer.close c.world n t = (Timer.closeHandle c.world n t, .value .true) := by
      unfold Timer.close checked
      rw [opened]
      rfl
    refine ⟨shut t, ?_, rfl⟩
    rw [closes] at world
    rw [world]
    change (Timer.closeHandle c.world n t).timers[n]? = _
    rw [closeHandle_timers _ opened (inv.timers.table.good n t found opened).1]
    exact List.getElem?_set_self bound

private theorem returned_step (h : Step c a c')
    (returned : .returned (.timerClose n) (.value .true) ∈ c'.world.trace) :
    .returned (.timerClose n) (.value .true) ∈ c.world.trace ∨ a = .call (.timerClose n) := by
  obtain ⟨w, frame, shown⟩ := step_events h
  have before (here : .returned (.timerClose n) (.value .true) ∈ w.trace) :
      .returned (.timerClose n) (.value .true) ∈ c.world.trace := by
    obtain ⟨events, trace, own⟩ := events_frame frame
    rw [trace] at here
    rcases List.mem_append.mp here with new | old
    · exact absurd (own _ new) (by simp)
    · exact old
  rcases shown with trace | ⟨e, shows, trace⟩
  · rw [trace] at returned
    exact .inl (before returned)
  · rw [trace] at returned
    rcases List.mem_cons.mp returned with rfl | old
    · right
      cases a with
      | call call =>
        rcases shows with ⟨result, same⟩ | ⟨m, -, other⟩
        · rw [(Event.returned.inj same).1]
        · cases other
      | event event =>
        obtain ⟨callback, -, other⟩ := shows
        cases other
      | proceed =>
        rcases shows with ⟨callback, -, other⟩ | ⟨m, result, other⟩ | ⟨result, other⟩
        · cases other
        · cases other
        · cases other
      | _ => cases shows
    · exact .inl (before old)

private theorem lifeInv_step (inv : LifeInv n c) (h : engine.step c a = some c') :
    LifeInv n c' := by
  have step := (step_inv h).2
  have move := timer_move inv.release.handles step n
  have kept {t : State.Timer} (found : c.world.timers[n]? = some t) :
      ∃ t', c'.world.timers[n]? = some t' ∧ t'.isPeriodicTimer = t.isPeriodicTimer ∧
        (t.uvHandle = false → t' = t) := by
    rw [found] at move
    exact kept_move (inv.sound t found) move
  refine ⟨releaseInv_step inv.release h, ?_, fun stopped t => ended_step inv h stopped, ?_, ?_,
    ?_, ?_⟩
  · intro t' found
    exact sound_move inv.sound move found
  · intro absent
    have before : c.world.timers[n]? = none := by
      by_contra present
      obtain ⟨t, found⟩ := Option.ne_none_iff_exists'.mp present
      obtain ⟨t', found', -⟩ := kept found
      rw [found'] at absent
      cases absent
    rcases fires_step (n := n) step with same | ⟨rfl, -⟩
    · rw [same]
      exact inv.absent before
    · obtain ⟨-, t, found, -⟩ := expires_step inv.release h
      rw [found] at before
      cases before
  · intro t' found' single
    rcases fires_step (n := n) step with same | ⟨rfl, fired⟩
    · rw [same]
      cases found : c.world.timers[n]? with
      | none =>
        rw [inv.absent found]
        exact ⟨Nat.zero_le 1, fun some => absurd rfl some⟩
      | some t =>
        obtain ⟨u, found'', kind, closed⟩ := kept found
        obtain rfl := Option.some.inj (found'.symm.trans found'')
        obtain ⟨few, done⟩ := inv.once t found (kind.symm.trans single)
        refine ⟨few, fun some => ?_⟩
        rw [closed (done some)]
        exact done some
    · obtain ⟨-, t, found, active, found''⟩ := expires_step inv.release h
      obtain rfl := Option.some.inj (found'.symm.trans found'')
      have sound := inv.sound t found
      have opened := sound.idle active
      obtain ⟨u, again, kind, -⟩ := kept found
      obtain rfl := Option.some.inj (found'.symm.trans again)
      have first : fires n c.world = [] := by
        by_contra some
        have closed := (inv.once t found (kind.symm.trans single)).2 some
        rw [opened] at closed
        cases closed
      have periodic := (sound.opened opened).2.2.trans (kind.symm.trans single)
      rw [fired, first]
      exact ⟨Nat.le_refl 1, fun _ => expired_single periodic⟩
  · intro s here
    rcases fires_step (n := n) step with same | ⟨rfl, fired⟩
    · rw [same] at here
      exact inv.running s here
    · rw [fired] at here
      rcases List.mem_cons.mp here with rfl | older
      · exact (expires_step inv.release h).1
      · exact inv.running s older
  · intro returned
    have closed : ∀ t, c.world.timers[n]? = some t → t.uvHandle = false →
        ∃ t', c'.world.timers[n]? = some t' ∧ t'.uvHandle = false := by
      intro t found closed
      obtain ⟨t', found', -, same⟩ := kept found
      rw [same closed] at found'
      exact ⟨t, found', closed⟩
    rcases returned_step step returned with old | rfl
    · obtain ⟨t, found, done⟩ := inv.closed old
      exact closed t found done
    · exact close_step inv.release.handles h

private theorem lifeInv_init : LifeInv n engine.init := by
  refine ⟨releaseInv_init, ?_, ?_, fun _ => rfl, ?_, ?_, ?_⟩
  · intro t found
    cases found
  · intro _ t found
    cases found
  · intro t found
    cases found
  · intro s here
    cases here
  · intro returned
    cases returned

theorem lifeInv_of_path {l : List (Config × Action)} (path : Path engine l c) : LifeInv n c :=
  path.invariant lifeInv_init lifeInv_step

private theorem LifeInv.law (inv : LifeInv n c) : TimerLaw n c where
  stored := inv.release.handles.timers.table.stored_iff n
  closes := fun t found => (inv.sound t found).closes
  ended := by
    intro stopped t found inited
    rw [(inv.sound t found).closed (inv.ended stopped t found), inited]
    rfl
  once := inv.once
  running := inv.running
  closed := inv.closed

private theorem refuses_step (inv : LifeInv n c) (h : engine.step c a = some c') :
    Refuses n c a := by
  intro t c'' found closed h'
  refine ⟨?_, ?_⟩
  · have move := timer_move inv.release.handles (step_inv h').2 n
    rw [found] at move
    obtain ⟨t', found', -, same⟩ := kept_move (inv.sound t found) move
    rw [found', same closed]
  · rintro call rfl own
    obtain ⟨base, stack, r, -, called, world⟩ := call_inv h' (by rintro args uv rfl; cases own)
    rw [closed_method found closed own called] at world
    exact world

private theorem over_step (inv : LifeInv n c) (h : engine.step c a = some c')
    (ended : Over n c) : Over n c' ∧ fires n c'.world = fires n c.world := by
  obtain ⟨t, found, ended⟩ := ended
  have step := (step_inv h).2
  have move := timer_move inv.release.handles step n
  rw [found] at move
  obtain ⟨t', found', -, same⟩ := kept_move (inv.sound t found) move
  refine ⟨⟨t', found', ?_⟩, ?_⟩
  · cases status : c'.world.status with
    | running =>
      left
      have closed : t.uvHandle = false := by
        rcases ended with closed | idle
        · exact closed
        · cases status_step step with
          | same kept => exact absurd (kept.symm.trans status) idle
          | starts stopped running => exact inv.ended stopped t found
          | releases running releasing => exact absurd running idle
          | ends ctl handles reqs stopped => cases status.symm.trans stopped
      rw [same closed]
      exact closed
    | releasing => exact .inr (by simp)
    | stopped => exact .inr (by simp)
  · rcases fires_step (n := n) step with kept | ⟨rfl, -⟩
    · exact kept
    · obtain ⟨running, u, found'', active, -⟩ := expires_step inv.release h
      obtain rfl := Option.some.inj (found.symm.trans found'')
      rcases ended with closed | idle
      · rw [(inv.sound t found).idle active] at closed
        cases closed
      · exact absurd running idle

end Step

/-- In every run, the key of a Timer is stored just while its handle is open, the handle is closed
at most once, and it is closed when the loop has ended; the proc of a Timer that is not periodic is
called at most once, when the Timer is closed already; a closed Timer stays closed, and its methods
return false; and once `close` has returned true or the release has begun, no proc is called. -/
theorem timer_life_cycle {l : List (Config × Action)} {c : Config} (path : Path engine l c)
    (n : Nat) : Always (TimerLaw n) l c ∧ Each (Refuses n) l ∧
      ∀ p ∈ l, Over n p.1 → Over n c ∧ fires n c.world = fires n p.1.world := by
  refine ⟨?_, ?_, ?_⟩
  · exact path.always lifeInv_init (fun inv h (_ : True) => lifeInv_step inv h) LifeInv.law
      fun _ _ => trivial
  · exact path.each lifeInv_init lifeInv_step refuses_step
  · exact path.settled (f := fun c => fires n c.world) lifeInv_init lifeInv_step over_step

/-- The proc of a Timer is called, and the loop is stopped from it. -/
theorem timer_life_cycle_fired : ∃ l c, Path engine l c ∧ c.world.status = .releasing ∧
    fires 0 c.world = [.running] ∧ Always (TimerLaw 0) l c ∧ Each (Refuses 0) l ∧
      ∀ p ∈ l, Over 0 p.1 → Over 0 c ∧ fires 0 c.world = fires 0 p.1.world := by
  have reached : (engine.exec (runBlock ++
      [.call (.timerNew ⟨[.float 0.1], some 7⟩ {}), .finish, .proceed, .proceed, .proceed,
        .proceed, .event (.timer 0), .raise (.type ""), .proceed])).any (fun c =>
          decide (c.world.status = .releasing) && decide (fires 0 c.world = [.running])) =
      true := by
    decide +kernel
  obtain ⟨l, c, path, seen⟩ := exists_path_of_exec engine _ _ reached
  obtain ⟨releasing, fired⟩ := (Bool.and_eq_true _ _).mp seen
  exact ⟨l, c, path, of_decide_eq_true releasing, of_decide_eq_true fired,
    timer_life_cycle path 0⟩

end AsyncEngine.Engine.TimerLife
