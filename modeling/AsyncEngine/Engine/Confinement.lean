/- Which thread the extension calls user code in, with any number of threads. -/

import AsyncEngine.Engine.OnExit
import AsyncEngine.Engine.Threads

set_option autoImplicit false
set_option relaxedAutoImplicit false

namespace AsyncEngine.Engine.Confinement

open AsyncEngine.Lib.Run
open AsyncEngine.Engine.Ruby
open AsyncEngine.Engine.State
open AsyncEngine.Engine.Machine
open AsyncEngine.Engine.Effects
open AsyncEngine.Engine.Steps
open AsyncEngine.Engine.Loop
open AsyncEngine.Engine.ErrorExit
open AsyncEngine.Engine.OnExit
open AsyncEngine.Engine.Threads

def callbackOf : Event → Option Callback
  | .started callback _ => some callback
  | _ => none

/-- The user code that the extension has called so far, newest first. -/
def callbacks (w : World) : List Callback := w.trace.filterMap callbackOf

/-- How a thread comes to call user code: as the one thread of the loop, which has the mutex; for a
proc given to `on_exit`, outside of the loop and in the epilogue of its own `AE.run`; or in its own
call of `close`. -/
inductive Calls (p : Process) (i : Nat) : Action → Callback → Prop
  | inLoop {a : Action} {callback : Callback} (moving : p.world.status ≠ .stopped)
      (thread : p.world.thread = some i) (mutex : p.world.mutex = some i)
      (alone : ∀ j, Between p j ↔ j = i) : Calls p i a callback
  | inEpilogue {v : Value} {proc : Nat} {procs : List Nat} {error : Option RubyError}
      {stack : List Frame} (thread : p.threads[i]? = some (.runs
        (.back (.value v) .outside (.onExit (proc :: procs) error :: stack)) [])) :
      Calls p i .proceed (.onExit proc error)
  | inClose {n : Nat} : Calls p i (.call (.tcpClose n)) (.onDisconnected n none)

section Step

variable {p p' : Process} {c c' : Config} {i : Nat} {a : Action}

private theorem callbacks_blind : ∀ e, ¬ OfControl e → callbackOf e = none := by
  intro e other
  cases e <;> first | rfl | exact absurd trivial other

private theorem outside_back {result : Return} {base : Base} {stack : List Frame}
    (ctl : c.ctl = .back result base stack) (outside : ¬ Inside c.ctl) : base = .outside := by
  by_contra other
  rw [ctl] at outside
  exact outside other

private theorem proceeds_outside (loop : LoopInv c) (outside : ¬ Inside c.ctl)
    (h : engine.step c .proceed = some c') :
    callbacks c'.world = callbacks c.world ∨ ∃ v proc procs error stack,
      c.ctl = .back (.value v) .outside (.onExit (proc :: procs) error :: stack) ∧
        callbacks c'.world = .onExit proc error :: callbacks c.world := by
  cases proceed_inv h with
  | @frame result base frame stack ctl =>
    have outer := (loop.alone outside).2 frame
    rw [ctl] at outer
    replace outer := outer (.head _)
    obtain rfl := outside_back ctl outside
    cases frame with
    | closing n =>
      refine .inl ?_
      cases result <;> rfl
    | onExit procs error =>
      rcases exit_inv ctl h with ⟨v, proc, rest, rfl, rfl, called⟩ | ⟨result', ended, -⟩
      · refine .inr ⟨v, proc, rest, error, stack, ctl, ?_⟩
        rw [called]
        rfl
      · refine .inl ?_
        rw [ended]
        rfl
    | _ => exact outer.elim
  | loops ctl => cases outside_back ctl outside
  | intsReturn ctl => cases outside_back ctl outside
  | intsRaise ctl caller => cases outside_back ctl outside
  | enters ctl =>
    rw [ctl] at outside
    exact absurd trivial outside
  | takes ctl =>
    rw [ctl] at outside
    exact absurd trivial outside
  | ends ctl caller =>
    rw [ctl] at outside
    exact absurd trivial outside

private theorem does_outside (loop : LoopInv c) (outside : ¬ Inside c.ctl)
    (h : engine.step c a = some c') :
    callbacks c'.world = callbacks c.world ∨
      (a = .proceed ∧ ∃ v proc procs error stack,
        c.ctl = .back (.value v) .outside (.onExit (proc :: procs) error :: stack) ∧
          callbacks c'.world = .onExit proc error :: callbacks c.world) ∨
      ∃ n, a = .call (.tcpClose n) ∧
        callbacks c'.world = .onDisconnected n none :: callbacks c.world := by
  rcases step_filterMap callbacks_blind (step_inv h).2 with same | ⟨e, callback, shows, seen, more⟩
  · exact .inl same
  · unfold callbackOf at seen
    split at seen
    · obtain rfl := Option.some.inj seen
      obtain ⟨-, ⟨event, rfl, called⟩ | ⟨rfl, resumed⟩ | ⟨n, rfl, rfl⟩⟩ := shows_started shows
      · have ctl := (queue_event_inv h).1
        rw [ctl] at outside
        exact absurd trivial outside
      · rcases proceeds_outside loop outside h with same | exits
        · exact .inl same
        · exact .inr (.inl ⟨rfl, exits⟩)
      · exact .inr (.inr ⟨n, rfl, more⟩)
    · cases seen

private theorem locks_quiet (base : Base) (stack : List Frame) (args : Args) (uv : UvAnswers)
    (proc : Nat) : callbacks (afterLock c base stack args uv proc).world = callbacks c.world := by
  unfold afterLock
  split
  · exact congrArg (List.filterMap callbackOf) (startLoop_trace _ _ _)
  · rfl

/-- In every run of any number of threads, whatever they call, a step calls user code at most once,
and does so as the thread of the loop, with the mutex and with no other thread in the loop, unless
it is the epilogue of a thread's own `AE.run` or a thread's own call of `close`. -/
theorem callbacks_are_confined {l : List (Process × (Nat × ThreadAction))} {b : ThreadAction}
    (path : Path process l p) (move : process.step p (i, b) = some p') :
    callbacks p'.world = callbacks p.world ∨
      ∃ a callback, b = .does a ∧ Calls p i a callback ∧
        callbacks p'.world = callback :: callbacks p.world := by
  have inv : ProcessInv p := path.invariant processInv_init processInv_step
  obtain ⟨live, thread_step⟩ := threadStep_inv move
  cases thread_step with
  | @does ctl callers a c thread own does =>
    have loop := inv.loop i _ thread
    by_cases inside : Inside ctl
    · have between : Between p i := ⟨_, thread, inside⟩
      have moving : p.world.status ≠ .stopped := loop.busy inside live
      obtain ⟨owner, mutex⟩ := inv.locked moving between
      have alone : ∀ j, Between p j ↔ j = i :=
        fun j => ⟨fun other => inv.alone j i other between, fun same => same ▸ between⟩
      rcases step_filterMap callbacks_blind (step_inv does).2 with same | ⟨_, callback, -, -, more⟩
      · exact .inl same
      · exact .inr ⟨a, callback, rfl, .inLoop moving owner mutex alone, more⟩
    · rcases does_outside loop inside does with
        same | ⟨rfl, v, proc, procs, error, stack, back, more⟩ | ⟨n, rfl, more⟩
      · exact .inl same
      · obtain rfl : callers = [] := (loop.alone inside).1
        obtain rfl : ctl = _ := back
        exact .inr ⟨_, _, rfl, .inEpilogue thread, more⟩
      · exact .inr ⟨_, _, rfl, .inClose, more⟩
  | waits thread accepted mutex other idle => exact .inl rfl
  | locks thread free => exact .inl (locks_quiet _ _ _ _ _)
  | spawns => exact .inl rfl
  | ends thread => exact .inl rfl

/-- A second thread gives a proc to the loop of the first, which calls it. -/
theorem callbacks_are_confined_other : ∃ l p p' callback, Path process l p ∧
    process.step p (0, .does .proceed) = some p' ∧ Calls p 0 .proceed callback ∧
    callbacks p'.world = callback :: callbacks p.world := by
  have reached : (process.exec [(0, .spawns), (0, .does (.call (.run ⟨[], some 7⟩ {}))),
      (0, .does .proceed), (1, .does (.call (.callFromOtherThread ⟨[], some 8⟩))),
      (0, .does (.event .callFromOtherThread)), (0, .does .proceed)]).any (fun p =>
        (process.step p (0, .does .proceed)).any fun p' =>
          decide ((callbacks p'.world).length ≠ (callbacks p.world).length)) = true := by
    decide +kernel
  obtain ⟨l, p, path, calls⟩ := exists_path_of_exec process _ _ reached
  obtain ⟨p', move, more⟩ := (Option.any_eq_true _ _).mp calls
  rcases callbacks_are_confined path move with same | ⟨a, callback, here, called, one⟩
  · exact absurd (congrArg List.length same) (of_decide_eq_true more)
  · obtain rfl := ThreadAction.does.inj here
    exact ⟨l, p, p', callback, path, move, called, one⟩

end Step

end AsyncEngine.Engine.Confinement
