/- The end of a killed thread, which `rb_protect` reports as Fixnum 8. -/

import AsyncEngine.Engine.ErrorExit

set_option autoImplicit false
set_option relaxedAutoImplicit false

namespace AsyncEngine.Engine.ThreadKill

open AsyncEngine.Lib.Run
open AsyncEngine.Engine.Ruby
open AsyncEngine.Engine.State
open AsyncEngine.Engine.Machine
open AsyncEngine.Engine.Effects
open AsyncEngine.Engine.Steps
open AsyncEngine.Engine.Loop
open AsyncEngine.Engine.RunExit
open AsyncEngine.Engine.ErrorExit

/-- The next step catches a kill, in a callback or in the error handler. -/
def caught (c : Config) : Bool :=
  match c.ctl with
  | .back (.raised .killed) _ (.protect :: _) => true
  | .back (.raised .killed) _ (.handleError :: _) => true
  | _ => false

/-- `@_exit_error` holds an Exception. -/
def hasException (w : World) : Bool :=
  match w.exitError with
  | none => false
  | some error => decide (error ≠ .killed)

/-- The next step catches a kill in a callback, and the loop is not released, or because of an
Exception. -/
def caughtInCallback (c : Config) : Bool :=
  match c.ctl with
  | .back (.raised .killed) _ (.protect :: _) =>
    decide (c.world.status = .running) || hasException c.world
  | _ => false

/-- The fatal error of the next step if every kill that is caught were one. -/
def fatalOrKill (c : Config) : Option RubyError :=
  if caught c then some (exceptionFor .killed) else fatalError c

/-- What is noted of a call of `AE.run` that has started a loop: a kill was caught since then,
and the first fatal error. -/
structure Watch where
  killed : Bool
  error : Option RubyError

/-- The latest call of `AE.run` comes first. -/
abbrev Watches := List Watch

def Watches.note (kill : Config → Bool) (fatal : Config → Option RubyError) (watches : Watches)
    (c : Config) (a : Action) (c' : Config) : Watches :=
  match a with
  | .call _ =>
    match c'.ctl with
    | .entering => ⟨false, none⟩ :: watches
    | _ => watches
  | .proceed =>
    if runEnds c then watches.tail
    else
      match watches with
      | [] => []
      | watch :: watches => ⟨watch.killed || kill c, watch.error <|> fatal c⟩ :: watches
  | _ => watches

/-- The engine with the kills and the fatal errors noted beside it. -/
def watched (kill : Config → Bool) (fatal : Config → Option RubyError) :
    System (Config × Watches) Action :=
  engine.annotate (Watches.note kill fatal) []

/-- No kill is lost in a step. -/
structure Keeps (kill : Config → Bool) (watches : Watches) (c : Config) (a : Action)
    (c' : Config) : Prop where
  /-- The loop is released. -/
  released : kill c = true → c'.world.status = .releasing
  /-- `AE.run` raises the first fatal error, unless one of the procs of `@_on_exit_procs` raises,
  or an exception of the interrupt checks goes through `rb_thread_call_without_gvl`. -/
  raised {result : Return} {error : Option RubyError} :
    c'.world.trace = .ran result :: c.world.trace → watches.head? = some ⟨true, error⟩ →
      (∃ exception, error = some exception ∧ exception ≠ .killed ∧ result = .raised exception) ∨
        (∃ raised base procs captured stack, result = .raised raised ∧
          c.ctl = .back (.raised raised) base (.onExit procs captured :: stack)) ∨
        (RaisesOut c a ∧ ∃ raised, result = .raised raised)

/-- What `ae_run_with_error_handler` does with a kill. -/
structure Catches (c c' : Config) : Prop where
  /-- An Interrupt is stored for it, and the release begins. -/
  stored {base : Base} {stack : List Frame} :
    c.ctl = .back (.raised .killed) base (.protect :: stack) → c.world.status = .running →
      c.world.exitError = none ∧ c' = { c with
        world := { c.world with
          exitError := some (exceptionFor .killed), status := .releasing, nextTickProcs := [],
          callFromOtherThreadProcs := [] }
        ctl := .back (.value .nil) base (.release c.world.handles :: stack) }
  /-- While the loop is released it is dropped. -/
  dropped {base : Base} {stack : List Frame} :
    c.ctl = .back (.raised .killed) base (.protect :: stack) → c.world.status = .releasing →
      c' = { c with ctl := .back (.value .nil) base stack }

structure WatchInv (p : Config × Watches) : Prop where
  engine : ErrorInv p.1
  errors : p.2.map Watch.error = openRuns p.1
  kept : ∀ watch ∈ p.2, watch.killed = true → ∃ error, watch.error = some error ∧ error ≠ .killed

section Step

variable {c c' : Config} {a : Action}

private theorem note_errors (kill : Config → Bool) (fatal : Config → Option RubyError)
    (watches : Watches) :
    (watches.note kill fatal c a c').map Watch.error =
      Fatals.note fatal (watches.map Watch.error) c a c' := by
  unfold Watches.note Fatals.note
  cases a with
  | call call => cases c'.ctl <;> rfl
  | proceed =>
    dsimp only
    split
    · exact List.map_tail
    · cases watches with
      | nil => cases fatal c <;> rfl
      | cons watch watches =>
        obtain ⟨killed, error⟩ := watch
        cases error <;> cases fatal c <;> rfl
  | _ => rfl

private theorem fatal_of_kill {base : Base} {stack : List Frame}
    (ctl : c.ctl = .back (.raised .killed) base (.protect :: stack))
    (running : c.world.status = .running) : fatalError c = some (exceptionFor .killed) := by
  unfold fatalError
  rw [ctl]
  exact if_pos ⟨running, .inr rfl⟩

/-- When a kill is caught an Exception is stored, or will be. -/
private theorem kept_of_kill (inv : ErrorInv c) (kill : caughtInCallback c = true) :
    ∃ error, (c.world.exitError <|> fatalError c) = some error ∧ error ≠ .killed := by
  unfold caughtInCallback at kill
  split at kill
  · rename_i base stack ctl
    rcases (Bool.or_eq_true _ _).mp kill with running | stored
    · have running := of_decide_eq_true running
      refine ⟨exceptionFor .killed, ?_, by simp [exceptionFor]⟩
      rw [inv.calm running, fatal_of_kill ctl running]
      rfl
    · unfold hasException at stored
      split at stored
      · cases stored
      · rename_i error here
        exact ⟨error, by rw [here]; rfl, of_decide_eq_true stored⟩
  · cases kill

private theorem inside_of_kill (inv : ErrorInv c) (kill : caughtInCallback c = true) :
    ∃ stack, openRuns c = c.world.exitError :: captured stack := by
  unfold caughtInCallback at kill
  split at kill
  · rename_i base stack ctl
    obtain ⟨stack, -, open_runs⟩ := openRuns_inside inv.loop (inv.loop.inside_of ctl id)
    exact ⟨stack, open_runs⟩
  · cases kill

private theorem kept_step {watches : Watches} (inv : WatchInv (c, watches)) :
    ∀ watch ∈ watches.note caughtInCallback fatalError c a c', watch.killed = true →
      ∃ error, watch.error = some error ∧ error ≠ .killed := by
  intro watch here killed
  unfold Watches.note at here
  cases a with
  | call call =>
    dsimp only at here
    split at here
    · rcases List.mem_cons.mp here with rfl | before
      · cases killed
      · exact inv.kept watch before killed
    · exact inv.kept watch here killed
  | proceed =>
    dsimp only at here
    split at here
    · exact inv.kept watch (List.mem_of_mem_tail here) killed
    · cases watches with
      | nil => cases here
      | cons first watches =>
        rcases List.mem_cons.mp here with rfl | before
        · rcases (Bool.or_eq_true _ _).mp killed with earlier | kill
          · obtain ⟨error, noted, exception⟩ := inv.kept first (.head _) earlier
            exact ⟨error, by rw [noted]; rfl, exception⟩
          · obtain ⟨stack, open_runs⟩ := inside_of_kill inv.engine kill
            have noted := inv.errors.trans open_runs
            rw [(List.cons.inj noted).1]
            exact kept_of_kill inv.engine kill
        · exact inv.kept watch (.tail _ before) killed
  | _ => exact inv.kept watch here killed

private theorem watchInv_step {p q : Config × Watches}
    (inv : WatchInv p) (move : (watched caughtInCallback fatalError).step p a = some q) :
    WatchInv q := by
  obtain ⟨step, noted⟩ := annotate_step move
  refine ⟨errorInv_step inv.engine step, ?_, ?_⟩
  · rw [noted, note_errors, inv.errors, openRuns_note inv.engine step]
  · rw [noted]
    exact kept_step inv

private theorem catches_step (inv : ErrorInv c) (h : engine.step c a = some c') :
    Catches c c' := by
  constructor
  · intro base stack ctl running
    obtain rfl := proceed_of_back h ctl
    have resumed := proceed_back ctl h
    have unhandled : Unhandled c.world .killed := .inr rfl
    simp only [stepBack, resume, aeHandleError_unhandled unhandled, aeReleaseLoop,
      running] at resumed
    exact ⟨inv.calm running, (Option.some.inj resumed).symm⟩
  · intro base stack ctl releasing
    exact (treats_step inv h).dropped ctl releasing

private theorem raises_out (leaves : RaisesOut c a) (h : engine.step c a = some c')
    {result : Return} (shows : c'.world.trace = .ran result :: c.world.trace) :
    ∃ error, result = .raised error := by
  cases a with
  | proceed =>
    obtain ⟨error, entering, ctl⟩ := leaves
    have resumed := proceed_back ctl h
    cases callers : c.callers with
    | nil => simp [stepBack, callers] at resumed
    | cons caller callers =>
      simp only [stepBack, callers] at resumed
      obtain rfl := Option.some.inj resumed
      exact ⟨error, (Event.ran.inj (List.cons.inj shows).1).symm⟩
  | _ => exact leaves.elim

private theorem keeps_step {watches : Watches} (inv : WatchInv (c, watches))
    (h : engine.step c a = some c') : Keeps caughtInCallback watches c a c' := by
  have treats := treats_step inv.engine h
  constructor
  · intro kill
    unfold caughtInCallback at kill
    split at kill
    · rename_i base stack ctl
      have catches := catches_step inv.engine h
      have busy := inv.engine.loop.busy (inv.engine.loop.inside_of ctl id) (step_inv h).1
      by_cases releasing : c.world.status = .releasing
      · rw [catches.dropped ctl releasing]
        exact releasing
      · rw [(catches.stored ctl (running_of_busy busy releasing)).2]
    · cases kill
  · intro result error shows head
    have noted : (openRuns c).head? = some error := by
      rw [← inv.errors, List.head?_map, head]
      rfl
    obtain ⟨exception, stored, not_killed⟩ :=
      inv.kept _ (List.mem_of_mem_head? head) rfl
    rcases treats.raised shows with ⟨first, here, ends⟩ | proc_raises | leaves
    · rw [noted] at here
      obtain rfl := Option.some.inj here
      refine .inl ⟨exception, stored, not_killed, ?_⟩
      obtain rfl : error = some exception := stored
      rw [ends]
      cases exception <;> first | rfl | exact absurd rfl not_killed
    · exact .inr (.inl proc_raises)
    · exact .inr (.inr ⟨leaves, raises_out leaves h shows⟩)

end Step

private theorem watchInv_init : WatchInv (watched caughtInCallback fatalError).init := by
  refine ⟨errorInv_init, rfl, ?_⟩
  intro watch here
  cases here

/-- In every run, a kill that `rb_protect` catches in a callback is not lost, unless the loop is
released without an Exception: the loop is released, and `AE.run` raises an Interrupt or the
fatal error that came before. -/
theorem kills_kept {l : List ((Config × Watches) × Action)} {p : Config × Watches}
    (path : Path (watched caughtInCallback fatalError) l p) :
    Each (fun q a => ∀ c', engine.step q.1 a = some c' →
      Keeps caughtInCallback q.2 q.1 a c' ∧ Catches q.1 c') l := by
  refine path.each (I := WatchInv) watchInv_init watchInv_step ?_
  intro p q a inv move c' step
  exact ⟨keeps_step inv step, catches_step inv.engine step⟩

/-- The block kills the thread of the loop, and `AE.run` raises. -/
theorem kills_kept_block : ∃ l p, Path (watched caughtInCallback fatalError) l p ∧
    (p.1.world.trace.head? matches some (.ran (.raised (.interrupt _)))) = true ∧
    Each (fun q a => ∀ c', engine.step q.1 a = some c' →
      Keeps caughtInCallback q.2 q.1 a c' ∧ Catches q.1 c') l := by
  have reached : ((watched caughtInCallback fatalError).exec (runBlock ++
      [.raise .killed, .proceed, .proceed, .proceed, .proceed, .proceed, .uvReturn, .proceed,
        .proceed])).any (fun p => decide (p.1.world.trace.head? matches
          some (.ran (.raised (.interrupt _))))) = true := by
    decide +kernel
  obtain ⟨l, p, path, ended⟩ :=
    exists_path_of_exec (watched caughtInCallback fatalError) _ _ reached
  exact ⟨l, p, path, of_decide_eq_true ended, kills_kept path⟩

/-- `AE.run` is about to return true although a kill has been noted. -/
private def returnsKilled (p : Config × Watches) : Bool :=
  match p.1.ctl with
  | .back (.value _) _ (.onExit _ _ :: _) =>
    (p.2.head?.any fun watch => watch.killed) && (engine.step p.1 .proceed).any fun t =>
      decide ((t.world.trace.head? matches some (.ran (.value .true))) = true)
  | _ => false

/-- `AE.stop` releases the loop, and the thread is killed in `on_disconnected`: `AE.run` returns
true. -/
theorem kill_in_release_lost : ¬ ∀ l p, Path (watched caught fatalOrKill) l p →
    Each (fun q a => ∀ c', engine.step q.1 a = some c' → Keeps caught q.2 q.1 a c') l := by
  intro keeps
  have reached : ((watched caught fatalOrKill).exec (connectSocket ++ [.call .stop, .finish,
      .proceed, .proceed, .event .idle, .proceed, .proceed, .raise .killed, .proceed, .proceed,
      .proceed, .proceed, .proceed, .proceed, .proceed, .uvReturn, .proceed])).any
      returnsKilled = true := by
    decide +kernel
  obtain ⟨l, p, path, killed⟩ := exists_path_of_exec (watched caught fatalOrKill) _ _ reached
  unfold returnsKilled at killed
  split at killed
  · rename_i v base procs error stack ctl
    rw [Bool.and_eq_true] at killed
    obtain ⟨noted, returns⟩ := killed
    obtain ⟨⟨flag, first⟩, head, rfl⟩ := (Option.any_eq_true _ _).mp noted
    obtain ⟨t, move, shown⟩ := (Option.any_eq_true _ _).mp returns
    replace shown := of_decide_eq_true shown
    have watched_move : (watched caught fatalOrKill).step p .proceed =
        some (t, p.2.note caught fatalOrKill p.1 .proceed t) :=
      congrArg (Option.map fun t => (t, p.2.note caught fatalOrKill p.1 .proceed t)) move
    have kept := keeps _ _ (path.next watched_move) (p, .proceed) (by simp) t move
    obtain rfl := Option.some.inj (proceed_back ctl move)
    cases procs with
    | cons proc procs => cases shown
    | nil =>
      rcases kept.raised rfl head with ⟨_, -, -, raised⟩ | ⟨_, _, _, _, _, raised, -⟩ |
        ⟨-, _, raised⟩
      all_goals
        simp only [World.push, List.head?_cons, raised] at shown
        cases shown
  · cases killed

end AsyncEngine.Engine.ThreadKill
