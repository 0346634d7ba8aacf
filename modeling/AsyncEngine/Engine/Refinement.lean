/- The engine as a reactor: its status, the handles that are open, and its two queues. -/

import AsyncEngine.Lib.EventLoop
import AsyncEngine.Engine.Isolation
import AsyncEngine.Engine.Queues
import AsyncEngine.Engine.Stopped

set_option autoImplicit false
set_option relaxedAutoImplicit false

namespace AsyncEngine.Engine.Refinement

open AsyncEngine.Lib.Run
open AsyncEngine.Lib.EventLoop
open AsyncEngine.Engine.State
open AsyncEngine.Engine.Machine
open AsyncEngine.Engine.Effects
open AsyncEngine.Engine.Steps
open AsyncEngine.Engine.Loop
open AsyncEngine.Engine.Release
open AsyncEngine.Engine.Queues
open AsyncEngine.Engine.LoopEnds
open AsyncEngine.Engine.Isolation

def phaseOf : AeStatus → Phase
  | .stopped => .stopped
  | .running => .running
  | .releasing => .releasing

/-- The reactor that the engine is: `true` stands for the queue of `call_from_other_thread`. -/
def reactor (w : World) : Reactor Handle Bool Tick where
  phase := phaseOf w.status
  opened := {key | Open w key}
  waiting := fun other => queueOf other w

variable {c c' : Config} {a : Action}

section Handles

private theorem open_congr {w w' : World} {key : Handle}
    (same : belongings w' key = belongings w key) : Open w' key ↔ Open w key := by
  cases key with
  | timer n =>
    obtain ⟨-, stored⟩ := Belongings.timer.inj same
    exact iff_of_eq stored
  | udp n =>
    obtain ⟨-, stored, -⟩ := Belongings.udp.inj same
    exact iff_of_eq stored
  | tcp n =>
    obtain ⟨cdata, stored, -⟩ := Belongings.tcp.inj same
    simp only [Open, cdata, stored]

private theorem handle_turn (inv : ReleaseInv c) (move : engine.step c a = some c') :
    HandleTurn (reactor c.world) (reactor c'.world).opened := by
  obtain ⟨-, step⟩ := step_inv move
  have others {k : Handle} (other : subject c a ≠ some k) : Open c'.world k ↔ Open c.world k :=
    open_congr (step_isolated inv.handles move other)
  cases about : subject c a with
  | none =>
    have same : (reactor c'.world).opened = (reactor c.world).opened :=
      Set.ext fun k => others (by simp [about])
    rw [same]
    exact .same
  | some key =>
    have elsewhere {k : Handle} (ne : k ≠ key) : Open c'.world k ↔ Open c.world k := by
      refine others fun same => ne ?_
      exact (Option.some.inj (about.symm.trans same)).symm
    by_cases now : Open c'.world key
    · by_cases running : c.world.status = .running
      · have opened : (reactor c'.world).opened = insert key (reactor c.world).opened := by
          ext k
          by_cases same : k = key
          · subst same
            exact iff_of_true now (.inl rfl)
          · exact (elsewhere same).trans ⟨.inr, fun here => here.resolve_left same⟩
        rw [opened]
        exact .opens key (congrArg phaseOf running)
      · have same : (reactor c'.world).opened = (reactor c.world).opened := by
          ext k
          by_cases same : k = key
          · subst same
            exact iff_of_true now (open_step inv.tcps step running _ now)
          · exact elsewhere same
        rw [same]
        exact .same
    · have closed : (reactor c'.world).opened = (reactor c.world).opened \ {key} := by
        ext k
        by_cases same : k = key
        · subst same
          exact iff_of_false now fun here => here.2 rfl
        · exact (elsewhere same).trans ⟨fun here => ⟨here, same⟩, And.left⟩
      rw [closed]
      exact .closes key

end Handles

section Queues

variable {v v' : QueueView} {pushed executed : List Tick}

private theorem queue_works (move : QueueMove v pushed executed v')
    (same : v'.status = v.status) : v'.queue = v.queue ∨
      (v.status = .running ∧ ((∃ tick, v'.queue = v.queue ++ [tick]) ∨ v'.queue = [])) := by
  cases move with
  | still => exact .inl rfl
  | idles before after queue called => exact .inl queue
  | starts stopped awake =>
    rw [stopped] at same
    cases same
  | releases running =>
    rw [running] at same
    cases same
  | pushes tick running => exact .inr ⟨running, .inl ⟨tick, rfl⟩⟩
  | wakes sent => exact .inl rfl
  | takes running empty => exact .inr ⟨running, .inr rfl⟩
  | executes running batch => exact .inl rfl
  | executesStop running batch =>
    rw [running] at same
    cases same

private theorem queue_releases (move : QueueMove v pushed executed v')
    (running : v.status = .running) (releasing : v'.status = .releasing) : v'.queue = [] := by
  have stays (same : v'.status = v.status) : False := by
    rw [same, running] at releasing
    cases releasing
  cases move with
  | still => exact (stays rfl).elim
  | idles before after queue called => exact absurd running before
  | starts stopped awake => cases releasing
  | releases running => rfl
  | pushes tick running' => exact (stays rfl).elim
  | wakes sent => exact (stays rfl).elim
  | takes running' empty => rfl
  | executes running' batch => exact (stays rfl).elim
  | executesStop running' batch => rfl

end Queues

section Turns

variable {l : List (Config × Action)}

private theorem turn_works (path : Path engine l c) (move : engine.step c a = some c')
    (same : c'.world.status = c.world.status) : Turn (reactor c.world) (reactor c'.world) := by
  have inv := (endInv_of_path path).release
  have turn : Turn (reactor c.world) { reactor c.world with
      opened := (reactor c'.world).opened, waiting := (reactor c'.world).waiting } := by
    refine .works (handle_turn inv move) fun other => ?_
    change QueueTurn (reactor c.world) other (queueOf other c'.world)
    rcases queue_works (queue_step other ⟨inv.loop, inv.vars⟩ move) same with
      still | ⟨running, ⟨tick, pushed⟩ | taken⟩
    · rw [show queueOf other c'.world = queueOf other c.world from still]
      exact .same
    · rw [show queueOf other c'.world = queueOf other c.world ++ [tick] from pushed]
      exact .pushes tick (congrArg phaseOf running)
    · rw [show queueOf other c'.world = [] from taken]
      exact .takes (congrArg phaseOf running)
  have target : { reactor c.world with
      opened := (reactor c'.world).opened, waiting := (reactor c'.world).waiting } =
      reactor c'.world := by
    simp only [reactor, same]
  rw [target] at turn
  exact turn

private theorem turn_starts {fault : Option Fault} (w : World) (proc : Nat)
    (stopped : w.status = .stopped) :
    Turn (reactor w) (reactor { startedLoop w proc with fault := fault }) := by
  have turn : Turn (reactor w) _ := .starts false (.user proc) (congrArg phaseOf stopped)
  have waiting : Function.update (reactor w).waiting false
      ((reactor w).waiting false ++ [.user proc]) =
      (reactor { startedLoop w proc with fault := fault }).waiting := by
    funext other
    cases other <;> rfl
  have opened : (reactor w).opened =
      (reactor { startedLoop w proc with fault := fault }).opened := by
    ext key
    cases key <;> exact Iff.rfl
  rw [waiting, opened] at turn
  exact turn

private theorem opened_same (inv : ReleaseInv c) (move : engine.step c a = some c')
    (none : subject c a = none) : (reactor c'.world).opened = (reactor c.world).opened :=
  Set.ext fun key => open_congr (step_isolated inv.handles move (by simp [none]))

/-- Every step of a run is a turn of the reactor. -/
theorem turn_step (path : Path engine l c) (move : engine.step c a = some c') :
    Turn (reactor c.world) (reactor c'.world) := by
  have inv := (endInv_of_path path).release
  obtain ⟨live, step⟩ := step_inv move
  cases owner_step step with
  | same same inside => exact turn_works path move same.status
  | threadEnds kept after => exact turn_works path move after.status
  | forks after => exact turn_works path move after.status
  | @starts args uv proc stopped free world ctl =>
    rcases startLoop_cases c.world proc uv with aborts | ⟨fault, runs⟩
    · refine turn_works path move ?_
      rw [world, aborts]
      rfl
    · rw [world, runs]
      exact turn_starts _ proc stopped
  | @releases result base frame stack ctl calls running after =>
    have none : subject c .proceed = none := by
      unfold subject
      rw [ctl]
      cases frame with
      | release keys => exact calls.elim
      | _ => rfl
    have turn : Turn (reactor c.world) _ := .releases (congrArg phaseOf running)
    have waiting : (fun _ => []) = (reactor c'.world).waiting := by
      funext other
      exact (queue_releases (queue_step other ⟨inv.loop, inv.vars⟩ move) running
        after.status).symm
    have phase : Phase.releasing = (reactor c'.world).phase := (congrArg phaseOf after.status).symm
    rw [waiting, phase, ← opened_same inv move none] at turn
    exact turn
  | ends ctl nothing reqs after =>
    have none : subject c .proceed = none := by
      unfold subject
      rw [ctl]
    have opened := opened_same inv move none
    have inside : Inside c.ctl := by simp [ctl, Inside]
    have releasing := releasing_of_noActiveHandles inv.loop inv.vars live inside nothing
    have closed : (reactor c.world).opened = ∅ := by
      rw [← opened]
      exact Set.eq_empty_of_forall_notMem fun key =>
        (Stopped.stoppedInv_of_path (path.next move)).closed after.status key
    have turn : Turn (reactor c.world) _ := .ends (congrArg phaseOf releasing) closed
    have waiting : (reactor c.world).waiting = (reactor c'.world).waiting := by
      funext other
      have before := idle_of_path path other (by simp [releasing])
      have later := idle_of_path (path.next move) other (by simp [after.status])
      exact before.trans later.symm
    have phase : Phase.stopped = (reactor c'.world).phase := (congrArg phaseOf after.status).symm
    rw [waiting, phase, ← opened] at turn
    exact turn

private theorem reactor_init :
    reactor engine.init.world = (Reactor.idle : Reactor Handle Bool Tick) := by
  have opened : (reactor engine.init.world).opened = ∅ :=
    Set.eq_empty_of_forall_notMem fun key (here : Open {} key) => by
      cases key with
      | timer n => cases here
      | udp n => cases here
      | tcp n => cases here.1
  have waiting : (reactor engine.init.world).waiting = fun _ => [] := by
    funext other
    cases other <;> rfl
  rw [Reactor.idle, ← opened, ← waiting]
  rfl

/-- The reactors that the engine is along a run. -/
def reactors (l : List (Config × Action)) (c : Config) : List (Reactor Handle Bool Tick) :=
  l.map (fun step => reactor step.1.world) ++ [reactor c.world]

private theorem history_of_path (path : Path engine l c) : History (reactors l c) := by
  induction path with
  | start =>
    unfold reactors
    rw [reactor_init]
    exact history_idle
  | next before move ih =>
    unfold reactors
    rw [List.map_append]
    exact ih.next (turn_step before move)

/-- Every run of the engine, state by state seen as its status, the handles that are open and its
two queues, is a history of the reactor: from each state to the next one handle is opened or closed
at most, and opened only while the loop runs; ticks join the ends of the queues while it runs and
leave them all at once; the release clears the queues; and the loop ends when no handle is open. So
in every state nothing waits unless the loop runs, and nothing is open between two loops. -/
theorem engine_refines_reactor (path : Path engine l c) :
    History (reactors l c) ∧ ∀ state ∈ reactors l c, Tidy state :=
  ⟨history_of_path path, (history_of_path path).tidy⟩

/-- A socket to 127.0.0.1 is connected: the reactor runs, with that handle open. -/
theorem engine_refines_reactor_connected : ∃ l c, Path engine l c ∧
    (reactor c.world).phase = .running ∧ .tcp 0 ∈ (reactor c.world).opened ∧
    History (reactors l c) ∧ ∀ state ∈ reactors l c, Tidy state := by
  have reached : (engine.exec connectSocket).any (fun c => decide (c.world.status = .running) &&
      (decide (.tcp 0 ∈ c.world.handles) && c.world.tcps[0]?.any (·.uvHandle))) = true := by
    decide +kernel
  obtain ⟨l, c, path, seen⟩ := exists_path_of_exec engine _ _ reached
  obtain ⟨running, seen⟩ := (Bool.and_eq_true _ _).mp seen
  obtain ⟨stored, opened⟩ := (Bool.and_eq_true _ _).mp seen
  obtain ⟨t, here, uv⟩ := (Option.any_eq_true _ _).mp opened
  exact ⟨l, c, path, congrArg phaseOf (of_decide_eq_true running),
    ⟨of_decide_eq_true stored, t, here, uv⟩, engine_refines_reactor path⟩

end Turns

end AsyncEngine.Engine.Refinement
