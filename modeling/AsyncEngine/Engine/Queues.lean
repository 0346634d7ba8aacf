/- `@_next_tick_procs` and `@_call_from_other_thread_procs`: what is put on the two queues, in
   which order it is executed, and what wakes the loop up for it. -/

import AsyncEngine.Engine.Unwinding

set_option autoImplicit false
set_option relaxedAutoImplicit false

namespace AsyncEngine.Engine.Queues

open AsyncEngine.Lib.Run
open AsyncEngine.Engine.Ruby
open AsyncEngine.Engine.State
open AsyncEngine.Engine.Machine
open AsyncEngine.Engine.Effects
open AsyncEngine.Engine.Steps
open AsyncEngine.Engine.Loop
open AsyncEngine.Engine.Unwinding

/-- `@_call_from_other_thread_procs`, or `@_next_tick_procs`. -/
def queueOf (other : Bool) (w : World) : List Tick :=
  if other then w.callFromOtherThreadProcs else w.nextTickProcs

/-- Whether the async handle was sent, or the idle handle is active. -/
def flagOf (other : Bool) (w : World) : Option Bool :=
  if other then w.callFromOtherThreadUvAsync else w.nextTickUvIdle

/-- The procs that `_ae_async_callback` or `_ae_idle_callback` has still to execute. -/
def batchOf (other : Bool) : List Frame → List Tick
  | [] => []
  | .batch o procs :: stack => (if o = other then procs else []) ++ batchOf other stack
  | _ :: stack => batchOf other stack

/-- The loop has cleared the pending flag of the async handle, and not yet taken its queue. -/
def isWaking : Ctl → Bool
  | .waking => true
  | _ => false

def ticksOf : Check Nat → List Tick
  | .ok proc => [.user proc]
  | .error _ => []

/-- What a call puts on the queue. -/
def queuedBy (other : Bool) (w : World) : Call → List Tick
  | .nextTick args => if other then [] else ticksOf (Procs.tickArgs w.status args)
  | .callFromOtherThread args => if other then ticksOf (Procs.tickArgs w.status args) else []
  | .stop =>
    if w.status = .running ∧ Procs.aeIsRunningThread w = !other then [.releaseLoop] else []
  | .run args uv =>
    if w.status = .stopped then
      -- The first proc of a new loop is given to `next_tick`.
      if other ∨ uv.init ≠ 0 then [] else ticksOf (runArgs args)
    else if w.status = .running ∧ w.getpid = w.pid ∧ Procs.aeIsRunningThread w = !other then
      ticksOf (runArgs args)
    else []
  | _ => []

def enqueues (other : Bool) (c : Config) : Action → List Tick
  | .call call => queuedBy other c.world call
  | .other thread call => queuedBy other { c.world with currentThread := thread } call
  | _ => []

/-- The proc of the queue that is called. -/
def tickOf (other : Bool) : Event → Option Tick
  | .started (.nextTick proc) _ => if other then none else some (.user proc)
  | .started (.callFromOtherThread proc) _ => if other then some (.user proc) else none
  | _ => none

/-- The procs of the queue that were called, newest first. -/
def calledTicks (other : Bool) (w : World) : List Tick := w.trace.filterMap (tickOf other)

/-- The block of `AE.stop` is called: it releases the loop. -/
def releasingTick (other : Bool) (c c' : Config) : List Tick :=
  match c.ctl with
  | .back _ _ (.batch o (.releaseLoop :: _) :: _) =>
    if o = other ∧ c.world.status = .running ∧ c'.world.status = .releasing then [.releaseLoop]
    else []
  | _ => []

/-- What a step executes of the queue. -/
def executes (other : Bool) (c c' : Config) : List Tick :=
  ((calledTicks other c'.world).take
    ((calledTicks other c'.world).length - (calledTicks other c.world).length)).reverse ++
      releasingTick other c c'

/-- What was put on the queue and what was executed since the loop was started, what had been
executed when its release began, and what earlier loops executed. -/
structure Ledger where
  past : List Tick := []
  enqueued : List Tick := []
  executed : List Tick := []
  released : Option (List Tick) := none
deriving DecidableEq

def Ledger.note (other : Bool) (g : Ledger) (c : Config) (a : Action) (c' : Config) : Ledger :=
  if c.world.status = .stopped ∧ c'.world.status = .running then
    { past := g.past ++ g.executed, enqueued := enqueues other c a }
  else
    let executed := g.executed ++ executes other c c'
    { g with
      enqueued := g.enqueued ++ enqueues other c a, executed := executed
      released :=
        if c.world.status = .running ∧ c'.world.status = .releasing then some executed
        else g.released }

/-- The engine with a ledger of one of its queues. -/
def ledgered (other : Bool) : System (Config × Ledger) Action :=
  engine.annotate (Ledger.note other) {}

def isUser : Tick → Bool
  | .user _ => true
  | .releaseLoop => false

/-- What waits for a proc of a batch, or for the handler that its error is given to. -/
def guardOf (handler : Bool) : Frame := if handler then .handleError else .protect

/-- How a proc of a batch, or the handler of its error, ends so that the loop is released: with an
error that no handler is called for, or with any error of the handler. -/
def EndsFatally (w : World) (handler : Bool) : Return → Prop
  | .value _ => False
  | .raised error =>
    handler = true ∨ w.userErrorHandler = none ∨ error.isStandard = false

/-- The step in which `ae_run_with_error_handler` goes on after a proc of the queue, or after the
handler of its error. The proc is the last one executed. If it has ended fatally the release begins
here, and what is executed stays as it is; if not, the loop runs on and the rest of the batch is
still to be executed. -/
structure TickEnds (other : Bool) (c : Config) (g : Ledger) (fatally : Prop) (c' : Config) :
    Prop where
  last : g.executed ≠ []
  fatal : fatally →
    c'.world.status = .releasing ∧ (g.note other c .proceed c').released = some g.executed
  handled : ¬ fatally → c'.world.status = .running ∧ g.note other c .proceed c' = g ∧
    batchOf other (stackOf c'.ctl) = batchOf other (stackOf c.ctl) ∧
    queueOf other c'.world = queueOf other c.world

/-- The procs of the queue are executed in the order in which they were put there, each once; the
block of `AE.stop` is the last, and so is a proc that ends with a fatal error; nothing is executed
after the release has begun; an error that is handled leaves the rest of the batch to be executed;
all but what is still in the queue has been executed when control is back in `uv_run`; and a queue
that is not empty wakes the loop up. -/
structure InOrder (other : Bool) (c : Config) (g : Ledger) : Prop where
  running : c.world.status = .running →
    g.executed ++ batchOf other (stackOf c.ctl) ++ queueOf other c.world = g.enqueued
  ordered : g.executed <+: g.enqueued
  last : ∀ before tick, g.executed = before ++ [tick] → .releaseLoop ∉ before
  released : ∀ executed, g.released = some executed →
    c.world.status ≠ .running ∧ g.executed = executed
  releasing : c.world.status = .releasing → g.released = some g.executed
  drained : c.world.status = .running → c.ctl = .inUv →
    g.executed ++ queueOf other c.world = g.enqueued
  called : calledTicks other c.world = ((g.past ++ g.executed).filter isUser).reverse
  awake : c.world.status = .running → queueOf other c.world ≠ [] →
    flagOf other c.world = some true ∨ (other = true ∧ c.ctl = .waking)
  ends : ∀ handler result base procs stack c', c.world.status = .running →
    c.ctl = .back result base (guardOf handler :: .batch other procs :: stack) →
    engine.step c .proceed = some c' →
    TickEnds other c g (EndsFatally c.world handler result) c'

structure QueueView where
  status : AeStatus
  queue : List Tick
  flag : Option Bool
  waking : Bool
  batch : List Tick
  called : List Tick

def viewOf (other : Bool) (w : World) (ctl : Ctl) : QueueView where
  status := w.status
  queue := queueOf other w
  flag := flagOf other w
  waking := other && isWaking ctl
  batch := batchOf other (stackOf ctl)
  called := calledTicks other w

def view (other : Bool) (c : Config) : QueueView := viewOf other c.world c.ctl

/-- A step of the engine as the queue sees it, with what it puts there and what it executes. -/
inductive QueueMove (v : QueueView) : List Tick → List Tick → QueueView → Prop
  | still : QueueMove v [] [] v
  | idles {v' : QueueView} (before : v.status ≠ .running)
      (after : v'.status = v.status ∨ v'.status = .stopped) (queue : v'.queue = v.queue)
      (called : v'.called = v.called) : QueueMove v [] [] v'
  | starts {first : List Tick} {flag : Option Bool} (stopped : v.status = .stopped)
      (awake : first ≠ [] → flag = some true) : QueueMove v first []
        { v with
          status := .running, queue := v.queue ++ first, flag := flag, waking := false
          batch := [] }
  | releases (running : v.status = .running) {batch : List Tick} :
      QueueMove v [] [] { v with status := .releasing, queue := [], batch := batch }
  | pushes (tick : Tick) (running : v.status = .running) :
      QueueMove v [tick] [] { v with queue := v.queue ++ [tick], flag := some true }
  | wakes (sent : v.flag = some true) :
      QueueMove v [] [] { v with flag := some false, waking := true }
  | takes {flag : Option Bool} (running : v.status = .running) (empty : v.batch = []) :
      QueueMove v [] []
        { v with queue := [], flag := flag, waking := false, batch := v.queue }
  | executes {proc : Nat} {rest : List Tick} (running : v.status = .running)
      (batch : v.batch = .user proc :: rest) : QueueMove v [] [.user proc]
        { v with batch := rest, called := .user proc :: v.called }
  | executesStop {rest : List Tick} (running : v.status = .running)
      (batch : v.batch = .releaseLoop :: rest) : QueueMove v [] [.releaseLoop]
        { v with status := .releasing, queue := [], batch := rest }

structure QueueInv (v : QueueView) (g : Ledger) : Prop where
  running : v.status = .running → g.executed ++ v.batch ++ v.queue = g.enqueued
  idle : v.status ≠ .running → v.queue = []
  ordered : g.executed <+: g.enqueued
  live : v.status = .running → .releaseLoop ∉ g.executed ∧ g.released = none
  last : ∀ before tick, g.executed = before ++ [tick] → .releaseLoop ∉ before
  released : ∀ executed, g.released = some executed → g.executed = executed
  releasing : v.status = .releasing → g.released ≠ none
  called : v.called = ((g.past ++ g.executed).filter isUser).reverse
  awake : v.status = .running → v.queue ≠ [] → v.flag = some true ∨ v.waking = true

/-- The ledger after a step. -/
def Ledger.next (g : Ledger) (before after : AeStatus) (pushed executed : List Tick) : Ledger :=
  if before = .stopped ∧ after = .running then
    { past := g.past ++ g.executed, enqueued := pushed }
  else
    { g with
      enqueued := g.enqueued ++ pushed, executed := g.executed ++ executed
      released := if before = .running ∧ after = .releasing then some (g.executed ++ executed)
        else g.released }

section Moves

variable {v v' : QueueView} {g : Ledger} {pushed executed : List Tick}

private theorem Ledger.next_same (s : AeStatus) : g.next s s pushed executed =
    { g with enqueued := g.enqueued ++ pushed, executed := g.executed ++ executed } := by
  cases s <;> simp [Ledger.next]

private theorem Ledger.next_still (s : AeStatus) : g.next s s [] [] = g := by
  rw [Ledger.next_same, List.append_nil, List.append_nil]

theorem queueInv_move (inv : QueueInv v g) (move : QueueMove v pushed executed v') :
    QueueInv v' (g.next v.status v'.status pushed executed) := by
  cases move with
  | still =>
    rw [Ledger.next_still]
    exact inv
  | idles before after queue called =>
    have idle : v'.status ≠ .running := by
      rcases after with kept | stopped
      · exact kept ▸ before
      · simp [stopped]
    have same : g.next v.status v'.status [] [] = g := by
      unfold Ledger.next
      rw [if_neg fun h => idle h.2, if_neg fun h => before h.1, List.append_nil, List.append_nil]
    rw [same]
    refine { inv with
      running := fun running => absurd running idle
      idle := fun _ => queue.trans (inv.idle before)
      live := fun running => absurd running idle
      releasing := ?_
      called := called.trans inv.called
      awake := fun running => absurd running idle }
    intro releasing
    rcases after with kept | stopped
    · exact inv.releasing (kept.symm.trans releasing)
    · rw [stopped] at releasing
      cases releasing
  | @starts first flag stopped awake =>
    have idle := inv.idle (by rw [stopped]; simp)
    have fresh : g.next v.status .running pushed [] =
        { past := g.past ++ g.executed, enqueued := pushed } := if_pos ⟨stopped, rfl⟩
    rw [fresh]
    refine ⟨?_, fun no => absurd rfl no, List.nil_prefix, ?_, ?_, ?_, ?_, ?_, ?_⟩
    · intro _
      simp [idle]
    · intro _
      exact ⟨List.not_mem_nil, rfl⟩
    · intro before tick executed
      simp at executed
    · intro executed released
      cases released
    · intro releasing
      cases releasing
    · simpa using inv.called
    · intro _ queued
      have some_first : pushed ≠ [] := by
        intro none
        rw [none, idle] at queued
        exact queued rfl
      exact .inl (awake some_first)
  | releases running =>
    have law := inv.running running
    obtain ⟨unstopped, -⟩ := inv.live running
    have after : g.next v.status .releasing [] [] =
        { g with released := some g.executed } := by
      unfold Ledger.next
      rw [if_neg (by simp), if_pos ⟨running, rfl⟩, List.append_nil, List.append_nil]
    rw [after]
    refine ⟨?_, fun _ => rfl, inv.ordered, ?_, inv.last, ?_, fun _ => by simp, inv.called, ?_⟩
    · intro again
      cases again
    · intro again
      cases again
    · intro executed released
      exact Option.some.inj released
    · intro again
      cases again
  | pushes tick running =>
    have law := inv.running running
    rw [Ledger.next_same, List.append_nil]
    refine { inv with
      running := ?_, idle := fun no => absurd running no
      ordered := inv.ordered.trans (List.prefix_append _ _), awake := fun _ _ => .inl rfl }
    intro _
    dsimp only
    rw [← List.append_assoc, law]
  | wakes sent =>
    rw [Ledger.next_still]
    exact { inv with awake := fun _ _ => .inr rfl }
  | takes running empty =>
    rw [Ledger.next_still]
    have law := inv.running running
    rw [empty, List.append_nil] at law
    refine { inv with
      running := ?_, idle := fun no => absurd running no, awake := fun _ some => absurd rfl some }
    intro _
    dsimp only
    rw [List.append_nil, law]
  | @executes proc rest running batch =>
    have law := inv.running running
    rw [batch] at law
    obtain ⟨unstopped, unreleased⟩ := inv.live running
    rw [Ledger.next_same, List.append_nil]
    have law' : g.executed ++ [.user proc] ++ (rest ++ v.queue) = g.enqueued := by
      rw [← law]
      simp
    refine { inv with
      running := ?_, idle := fun no => absurd running no, ordered := ⟨_, law'⟩, live := ?_,
      last := ?_, released := ?_, called := ?_ }
    · intro _
      dsimp only
      rw [List.append_assoc, law']
    · intro _
      refine ⟨?_, unreleased⟩
      simpa using unstopped
    · intro before tick same
      obtain ⟨rfl, -⟩ := List.append_inj' same rfl
      exact unstopped
    · intro executed released
      rw [unreleased] at released
      cases released
    · dsimp only
      rw [inv.called, ← List.append_assoc, List.filter_append (g.past ++ g.executed),
        List.reverse_append]
      rfl
  | @executesStop rest running batch =>
    have law := inv.running running
    rw [batch] at law
    obtain ⟨unstopped, unreleased⟩ := inv.live running
    have after : g.next v.status .releasing [] [.releaseLoop] =
        { g with
          executed := g.executed ++ [.releaseLoop]
          released := some (g.executed ++ [.releaseLoop]) } := by
      unfold Ledger.next
      rw [if_neg (by simp), if_pos ⟨running, rfl⟩, List.append_nil]
    rw [after]
    have law' : g.executed ++ [.releaseLoop] ++ (rest ++ v.queue) = g.enqueued := by
      rw [← law]
      simp
    refine ⟨?_, fun _ => rfl, ⟨_, law'⟩, ?_, ?_, ?_, fun _ => by simp, ?_, ?_⟩
    · intro again
      cases again
    · intro again
      cases again
    · intro before tick same
      obtain ⟨rfl, -⟩ := List.append_inj' same rfl
      exact unstopped
    · intro executed released
      exact Option.some.inj released
    · dsimp only
      rw [inv.called, ← List.append_assoc, List.filter_append (g.past ++ g.executed)]
      simp [isUser]
    · intro again
      cases again

theorem idle_move (move : QueueMove v pushed executed v')
    (idle : v.status ≠ .running → v.queue = []) (after : v'.status ≠ .running) :
    v'.queue = [] := by
  cases move with
  | still => exact idle after
  | idles before _ queue called => exact queue.trans (idle before)
  | starts stopped awake => exact absurd rfl after
  | releases running => rfl
  | pushes tick running => exact absurd running after
  | wakes sent => exact idle after
  | takes running empty => rfl
  | executes running batch => exact absurd running after
  | executesStop running batch => rfl

end Moves

section Frames

variable {w w' : World} {other : Bool}

structure SameQueues (w w' : World) : Prop where
  status : w'.status = w.status
  nextTick : w'.nextTickProcs = w.nextTickProcs
  fromOther : w'.callFromOtherThreadProcs = w.callFromOtherThreadProcs
  idle : w'.nextTickUvIdle = w.nextTickUvIdle
  async : w'.callFromOtherThreadUvAsync = w.callFromOtherThreadUvAsync
  called : ∀ other, calledTicks other w' = calledTicks other w

private theorem sameQueues_refl (w : World) : SameQueues w w :=
  ⟨rfl, rfl, rfl, rfl, rfl, fun _ => rfl⟩

private theorem SameQueues.push {e : Event} (same : SameQueues w w')
    (silent : ∀ other, tickOf other e = none) : SameQueues w (w'.push e) := by
  refine ⟨same.status, same.nextTick, same.fromOther, same.idle, same.async, ?_⟩
  intro other
  have skipped : calledTicks other (w'.push e) = calledTicks other w' :=
    List.filterMap_cons_none (silent other)
  exact skipped.trans (same.called other)

private theorem SameQueues.view (same : SameQueues w w') (ctl : Ctl) :
    viewOf other w' ctl = viewOf other w ctl := by
  have queue : queueOf other w' = queueOf other w := by
    unfold queueOf
    rw [same.nextTick, same.fromOther]
  have flag : flagOf other w' = flagOf other w := by
    unfold flagOf
    rw [same.idle, same.async]
  unfold viewOf
  rw [same.status, queue, flag, same.called]

private theorem called_of_silent {events trace : List Event}
    (silent : ∀ e ∈ events, tickOf other e = none) :
    (events ++ trace).filterMap (tickOf other) = trace.filterMap (tickOf other) := by
  rw [List.filterMap_append, List.filterMap_eq_nil_iff.mpr silent, List.nil_append]

private theorem own_same {file : File} (h : FrameOf file w w') (other : file ≠ .queue) :
    SameQueues w w' := by
  cases file with
  | queue => exact absurd rfl other
  | timer =>
    obtain ⟨_, _, _, _, rfl, -, own⟩ := h
    refine ⟨rfl, rfl, rfl, rfl, rfl, fun other => called_of_silent fun e here => ?_⟩
    obtain ⟨n, rfl⟩ := own e here
    rfl
  | udp =>
    obtain ⟨_, _, _, _, _, rfl, -, own⟩ := h
    refine ⟨rfl, rfl, rfl, rfl, rfl, fun other => called_of_silent fun e here => ?_⟩
    rcases own e here with ⟨n, rfl⟩ | ⟨x, y, rfl⟩ | rfl <;> rfl
  | tcp =>
    obtain ⟨_, _, _, _, rfl, -, own⟩ := h
    refine ⟨rfl, rfl, rfl, rfl, rfl, fun other => called_of_silent fun e here => ?_⟩
    rcases own e here with ⟨n, rfl⟩ | ⟨x, y, rfl⟩ | rfl | ⟨n, closed, rfl⟩ <;> rfl
  | proc =>
    obtain ⟨_, _, _, _, _, _, rfl, -, own⟩ := h
    refine ⟨rfl, rfl, rfl, rfl, rfl, fun other => called_of_silent fun e here => ?_⟩
    rcases own e here with ⟨x, y, rfl⟩ | ⟨id, proc, rfl⟩ | ⟨id, error, t, rfl⟩ <;> rfl
  | write =>
    obtain ⟨_, _, _, _, rfl, own⟩ := h
    refine ⟨rfl, rfl, rfl, rfl, rfl, fun other => called_of_silent fun e here => ?_⟩
    rcases own e here with ⟨x, proc, rfl⟩ | ⟨x, error, t, rfl⟩ <;> rfl

/-- The calls that put something on a queue. -/
def Enqueues : Call → Prop
  | .run _ _ => True
  | .stop => True
  | .nextTick _ => True
  | .callFromOtherThread _ => True
  | _ => False

private theorem dispatch_same {call : Call} {r : World × Outcome} (method : ¬ Enqueues call)
    (h : dispatch w call = some r) : SameQueues w r.1 := by
  have checks {α : Type} {check : Check α} {go : α → World × Outcome} {r' : World × Outcome}
      (kept : ∀ x, SameQueues w (go x).1) (h : some (checked w check go) = some r') :
      SameQueues w r'.1 := by
    obtain rfl := Option.some.inj h
    unfold checked
    split
    · exact kept _
    · exact sameQueues_refl w
  cases call with
  | run args uv => cases h
  | stop => exact absurd trivial method
  | nextTick args => exact absurd trivial method
  | callFromOtherThread args => exact absurd trivial method
  | onError args => exact checks (fun _ => ⟨rfl, rfl, rfl, rfl, rfl, fun _ => rfl⟩) h
  | unsetOnError =>
    obtain rfl := Option.some.inj h
    exact ⟨rfl, rfl, rfl, rfl, rfl, fun _ => rfl⟩
  | onExit args => exact checks (fun _ => ⟨rfl, rfl, rfl, rfl, rfl, fun _ => rfl⟩) h
  | unsetOnExit =>
    obtain rfl := Option.some.inj h
    exact ⟨rfl, rfl, rfl, rfl, rfl, fun _ => rfl⟩
  | _ => exact own_same (dispatch_own h) (by simp [fileOf])

private theorem reports_same {event : UvEvent} {r : World × Option Callback}
    (h : Reports w event r) : SameQueues w r.1 := by
  refine own_same (reports_own h) ?_
  cases h <;> simp [fileOfEvent]

private theorem destroyHandle_same (key : Handle) : SameQueues w (destroyHandle w key).1 := by
  refine own_same (destroyHandle_own w key) ?_
  cases key <;> simp [fileOfKey]

end Frames

section Pushes

variable {w : World} {other : Bool}

/-- The body of `call_from_other_thread` or of `next_tick`. -/
def pushOn (own : Bool) (w : World) (tick : Tick) : World :=
  if own then Procs.pushCallFromOtherThread w tick else Procs.pushNextTick w tick

private theorem pushOn_move (other own : Bool) (tick : Tick) (ctl : Ctl) (vars : VarsInv w)
    (running : w.status = .running) : QueueMove (viewOf other w ctl)
      (if own = other then [tick] else []) [] (viewOf other (pushOn own w tick) ctl) := by
  obtain ⟨idle, async, -⟩ := vars.running running
  obtain ⟨active, idle⟩ := Option.isSome_iff_exists.mp idle
  obtain ⟨sent, async⟩ := Option.isSome_iff_exists.mp async
  cases own with
  | false =>
    have pushed : pushOn false w tick =
        { w with nextTickProcs := w.nextTickProcs ++ [tick], nextTickUvIdle := some true } := by
      simp only [pushOn, Procs.pushNextTick, idle, Bool.false_eq_true, if_false]
    rw [pushed]
    cases other with
    | false => exact .pushes (v := viewOf false w ctl) tick running
    | true => exact .still
  | true =>
    have pushed : pushOn true w tick = { w with
        callFromOtherThreadProcs := w.callFromOtherThreadProcs ++ [tick]
        callFromOtherThreadUvAsync := some true } := by
      simp only [pushOn, Procs.pushCallFromOtherThread, async, if_true]
    rw [pushed]
    cases other with
    | false => exact .still
    | true => exact .pushes (v := viewOf true w ctl) tick running

private theorem running_of_tickArgs {args : Args} {proc : Nat}
    (h : Procs.tickArgs w.status args = .ok proc) : w.status = .running := running_of_bind h

private theorem method_move {call : Call} {r : World × Outcome} (other : Bool) (ctl : Ctl)
    (vars : VarsInv w) (h : dispatch w call = some r) :
    QueueMove (viewOf other w ctl) (queuedBy other w call) [] (viewOf other r.1 ctl) := by
  by_cases method : Enqueues call
  · cases call with
    | run args uv => cases h
    | stop =>
      obtain rfl := Option.some.inj h
      unfold Procs.stop checked
      cases status : w.status with
      | releasing =>
        have none : queuedBy other w .stop = [] := by simp [queuedBy, status]
        rw [none]
        exact .still
      | stopped =>
        have none : queuedBy other w .stop = [] := by simp [queuedBy, status]
        rw [none]
        exact .still
      | running =>
        have move := pushOn_move other (!Procs.aeIsRunningThread w) .releaseLoop ctl vars
          status
        have pushed : queuedBy other w .stop =
            if (!Procs.aeIsRunningThread w) = other then [.releaseLoop] else [] := by
          simp [queuedBy, status]
        have world : (if Procs.aeIsRunningThread w then Procs.pushNextTick w .releaseLoop
            else Procs.pushCallFromOtherThread w .releaseLoop) =
            pushOn (!Procs.aeIsRunningThread w) w .releaseLoop := by
          cases Procs.aeIsRunningThread w <;> rfl
        rw [pushed]
        change QueueMove _ _ _ (viewOf other (if Procs.aeIsRunningThread w then
          Procs.pushNextTick w .releaseLoop else Procs.pushCallFromOtherThread w .releaseLoop) ctl)
        rw [world]
        exact move
    | nextTick args =>
      obtain rfl := Option.some.inj h
      have pushed : queuedBy other w (.nextTick args) =
          if false = other then ticksOf (Procs.tickArgs w.status args) else [] := by
        cases other <;> rfl
      rw [pushed]
      unfold Procs.nextTick checked
      cases accepted : Procs.tickArgs w.status args with
      | error result =>
        have none : (if false = other then ticksOf (.error result) else []) = [] := ite_self []
        rw [none]
        exact .still
      | ok proc =>
        exact pushOn_move other false (.user proc) ctl vars (running_of_tickArgs accepted)
    | callFromOtherThread args =>
      obtain rfl := Option.some.inj h
      have pushed : queuedBy other w (.callFromOtherThread args) =
          if true = other then ticksOf (Procs.tickArgs w.status args) else [] := by
        cases other <;> rfl
      rw [pushed]
      unfold Procs.callFromOtherThread checked
      cases accepted : Procs.tickArgs w.status args with
      | error result =>
        have none : (if true = other then ticksOf (.error result) else []) = [] := ite_self []
        rw [none]
        exact .still
      | ok proc =>
        exact pushOn_move other true (.user proc) ctl vars (running_of_tickArgs accepted)
    | _ => exact absurd method id
  · have none : queuedBy other w call = [] := by
      cases call with
      | run args uv => exact absurd trivial method
      | stop => exact absurd trivial method
      | nextTick args => exact absurd trivial method
      | callFromOtherThread args => exact absurd trivial method
      | _ => rfl
    rw [none, (dispatch_same method h).view]
    exact .still

private theorem runWhileRunning_move {args : Args} {proc : Nat} (other : Bool) (uv : UvAnswers)
    (ctl : Ctl) (vars : VarsInv w) (running : w.status = .running)
    (accepted : runArgs args = .ok proc) :
    QueueMove (viewOf other w ctl) (queuedBy other w (.run args uv)) []
      (viewOf other (runWhileRunning w proc).1 ctl) := by
  unfold runWhileRunning
  by_cases forked : w.getpid = w.pid
  · have move := pushOn_move other (!Procs.aeIsRunningThread w) (.user proc) ctl vars running
    have pushed : queuedBy other w (.run args uv) =
        if (!Procs.aeIsRunningThread w) = other then [.user proc] else [] := by
      simp [queuedBy, running, forked, accepted, ticksOf]
    rw [pushed, if_neg (not_not.mpr forked)]
    cases own : Procs.aeIsRunningThread w with
    | true =>
      rw [own] at move
      exact move
    | false =>
      rw [own] at move
      exact move
  · have none : queuedBy other w (.run args uv) = [] := by simp [queuedBy, running, forked]
    rw [none, if_pos forked]
    exact .still

private theorem startLoop_view {uv : UvAnswers} {proc : Nat} (vars : VarsInv w)
    (stopped : w.status = .stopped) (works : uv.init = 0) :
    viewOf other (startLoop w proc uv) .entering = { viewOf other w .entering with
      status := .running
      queue := queueOf other w ++ if other then [] else [.user proc]
      flag := some !other } := by
  obtain ⟨-, -, -, -, -, idle, async, ubf, -⟩ := vars.stopped stopped
  unfold startLoop
  rw [idle, async, ubf]
  split
  · rename_i used
    simp [works] at used
  · dsimp only
    split
    · cases other <;> simp [viewOf, queueOf, flagOf, Procs.pushNextTick, calledTicks]
    · cases other <;> simp [viewOf, queueOf, flagOf, Procs.pushNextTick, calledTicks, World.abort]

private theorem startLoop_move {args : Args} {uv : UvAnswers} {proc : Nat} {ctl : Ctl}
    (vars : VarsInv w) (stopped : w.status = .stopped) (accepted : runArgs args = .ok proc) :
    QueueMove (viewOf other w ctl) (queuedBy other w (.run args uv)) []
      (viewOf other (startLoop w proc uv) .entering) := by
  have pushed : queuedBy other w (.run args uv) =
      if other ∨ uv.init ≠ 0 then [] else [.user proc] := by
    simp [queuedBy, stopped, accepted, ticksOf]
  by_cases works : uv.init = 0
  · have first : queuedBy other w (.run args uv) = if other then [] else [.user proc] := by
      simp [pushed, works]
    have waking : (other && isWaking .entering) = false := Bool.and_false other
    rw [startLoop_view vars stopped works, first]
    have move := @QueueMove.starts (viewOf other w ctl) (if other then [] else [.user proc])
      (some !other) stopped (by cases other <;> simp)
    rw [← waking] at move
    exact move
  · have world : startLoop w proc uv = w.abort .assertion := if_pos (.inr (.inr (.inr works)))
    have none : queuedBy other w (.run args uv) = [] := by rw [pushed, if_pos (.inr works)]
    have before : (viewOf other w ctl).status ≠ .running := by
      simp [viewOf, stopped]
    rw [world, none]
    exact .idles before (.inl rfl) rfl rfl

end Pushes

section Step

variable {c c' : Config} {a : Action} {other : Bool} {pushed : List Tick}

private theorem called_of_move {v v' : QueueView} (move : QueueMove v pushed [] v') :
    v'.called = v.called := by
  cases move with
  | still => rfl
  | idles before after queue called => exact called
  | starts stopped awake => rfl
  | releases running => rfl
  | pushes tick running => rfl
  | wakes sent => rfl
  | takes running empty => rfl

private theorem quiet_move (quiet : releasingTick other c c' = [])
    (move : QueueMove (view other c) pushed [] (view other c')) :
    QueueMove (view other c) pushed (executes other c c') (view other c') := by
  have called : calledTicks other c'.world = calledTicks other c.world := called_of_move move
  have none : executes other c c' = [] := by
    simp [executes, called, quiet]
  rw [none]
  exact move

private theorem executes_called {tick : Tick} (quiet : releasingTick other c c' = [])
    (called : calledTicks other c'.world = tick :: calledTicks other c.world) :
    executes other c c' = [tick] := by
  simp [executes, called, quiet]

private theorem still_move {v v' : QueueView} (same : v' = v) : QueueMove v [] [] v' := by
  rw [same]
  exact .still

private theorem takes_move {v : QueueView} (flag : Option Bool) (running : v.status = .running)
    (empty : v.batch = []) : QueueMove v [] [] { v with
      queue := [], flag := flag, waking := false, batch := v.queue ++ [] } := by
  rw [List.append_nil]
  exact .takes running empty

private theorem viewOf_ctl {w : World} {ctl ctl' : Ctl}
    (batch : batchOf other (stackOf ctl') = batchOf other (stackOf ctl))
    (waking : isWaking ctl' = isWaking ctl) : viewOf other w ctl' = viewOf other w ctl := by
  unfold viewOf
  rw [batch, waking]

private theorem batchOf_outer {stack : List Frame} (outer : ∀ f ∈ stack, Outer f) :
    batchOf other stack = [] := by
  induction stack with
  | nil => rfl
  | cons f stack ih =>
    have head := outer f (.head _)
    have tail := ih fun g here => outer g (.tail _ here)
    cases f with
    | closing n => exact tail
    | onExit procs error => exact tail
    | protect => exact head.elim
    | batch o procs => exact head.elim
    | handleError => exact head.elim
    | release keys => exact head.elim
    | destroying n => exact head.elim

private theorem aeReleaseLoop_move {w : World} {ctl : Ctl} {base : Base} {stack : List Frame}
    (waking : isWaking ctl = false) : QueueMove (viewOf other w ctl) [] []
      (viewOf other (aeReleaseLoop w base stack).1 (aeReleaseLoop w base stack).2) := by
  unfold aeReleaseLoop
  split
  · rename_i running
    have move := @QueueMove.releases (viewOf other w ctl) running (batchOf other stack)
    have none : queueOf other { w with
        status := .releasing, nextTickProcs := [], callFromOtherThreadProcs := [] } = [] := by
      cases other <;> rfl
    have flag : flagOf other { w with
        status := .releasing, nextTickProcs := [], callFromOtherThreadProcs := [] } =
          flagOf other w := rfl
    unfold viewOf at move ⊢
    rw [waking] at move ⊢
    rw [none, flag]
    exact move
  · rename_i not_running
    exact .idles not_running (.inl rfl) rfl rfl

private theorem method_step {call : Call} (vars : VarsInv c.world)
    (h : engine.step c (.call call) = some c') (method : ∀ args uv, call ≠ .run args uv) :
    QueueMove (view other c) (queuedBy other c.world call) (executes other c c')
      (view other c') := by
  obtain ⟨base, stack, r, ctl, called, rfl⟩ := call_runs h method
  refine quiet_move (by simp [releasingTick, ctl]) ?_
  have move := method_move other c.ctl vars called
  have after : viewOf other (afterCall call base stack r).1 (afterCall call base stack r).2 =
      viewOf other r.1 c.ctl := by
    obtain ⟨w, outcome⟩ := r
    rw [ctl]
    cases outcome with
    | ends result => exact ((sameQueues_refl w).push fun _ => rfl).view _
    | calls callback frame =>
      obtain ⟨n, t, -, -, -, -, -, rfl, rfl⟩ := dispatch_calls called
      exact ((sameQueues_refl w).push fun _ => rfl).view _
  change QueueMove _ _ _ (viewOf other _ _)
  rw [after]
  exact move

private theorem run_step {args : Args} {uv : UvAnswers} (vars : VarsInv c.world)
    (h : engine.step c (.call (.run args uv)) = some c') :
    QueueMove (view other c) (queuedBy other c.world (.run args uv)) (executes other c c')
      (view other c') := by
  obtain ⟨base, stack, ctl, runs⟩ := run_inv h
  refine quiet_move (by simp [releasingTick, ctl]) ?_
  have returned {pushed : List Tick} {w : World} {result : Return}
      (move : QueueMove (view other c) pushed [] (viewOf other w c.ctl)) :
      QueueMove (view other c) pushed []
        (viewOf other (w.push (.returned (.run args uv) result)) (.code base stack)) := by
    rw [((sameQueues_refl w).push fun _ => rfl).view, ← ctl]
    exact move
  have nothing (moving : c.world.status ≠ .stopped) (idle : c.world.status ≠ .running) :
      queuedBy other c.world (.run args uv) = [] := by
    simp [queuedBy, idle, moving]
  cases runs with
  | refuses refused =>
    have nothing : queuedBy other c.world (.run args uv) = [] := by
      simp [queuedBy, refused, ticksOf]
    rw [nothing]
    exact returned .still
  | queues accepted running runs =>
    have move := runWhileRunning_move other uv c.ctl vars running accepted
    rw [runs] at move
    exact returned move
  | deadlocks accepted idle held =>
    have moving : c.world.status ≠ .stopped := by
      intro stopped
      rw [(vars.stopped stopped).mutex] at held
      cases held
    rw [nothing moving idle]
    exact returned .still
  | skips accepted releasing free =>
    rw [nothing (by simp [releasing]) (by simp [releasing])]
    exact returned .still
  | starts accepted stopped free => exact startLoop_move vars stopped accepted

private theorem other_step {thread : Nat} {call : Call} (vars : VarsInv c.world)
    (h : engine.step c (.other thread call) = some c') :
    QueueMove (view other c) (enqueues other c (.other thread call)) (executes other c c')
      (view other c') := by
  obtain ⟨code, h⟩ := other_inv h
  have vars := VarsInv.onThread vars thread
  have none : releasingTick other c c' = [] := by
    unfold releasingTick
    split
    · rename_i ctl
      exact absurd ctl (code _ _ _)
    · rfl
  refine quiet_move none ?_
  unfold stepOther at h
  dsimp only at h
  split at h
  · cases h
  · cases call with
    | stop =>
      obtain rfl := Option.some.inj h
      have called : dispatch { c.world with currentThread := thread } .stop = some _ := rfl
      exact method_move other c.ctl vars called
    | callFromOtherThread args =>
      obtain rfl := Option.some.inj h
      have called : dispatch { c.world with currentThread := thread }
          (.callFromOtherThread args) = some _ := rfl
      exact method_move other c.ctl vars called
    | run args uv =>
      dsimp only at h
      split at h
      · rename_i running
        obtain rfl := Option.some.inj h
        cases accepted : runArgs args with
        | error result =>
          have nothing : enqueues other c (.other thread (.run args uv)) = [] := by
            simp [enqueues, queuedBy, accepted, ticksOf]
          rw [nothing]
          exact .still
        | ok proc =>
          exact runWhileRunning_move other uv c.ctl vars running accepted
      · cases h
    | _ => cases h

private theorem silent_calledBy {event : UvEvent} {callback : Callback} {s : AeStatus}
    (called : calledBy event callback) (other : Bool) :
    tickOf other (.started callback s) = none := by
  cases event with
  | idle => exact called.elim
  | callFromOtherThread => exact called.elim
  | ubf =>
    obtain rfl := called
    rfl
  | timer n =>
    obtain ⟨proc, rfl⟩ := called
    rfl
  | recv n received =>
    obtain ⟨datagram, encoding, source, rfl⟩ := called
    rfl
  | sent k error =>
    obtain ⟨id, proc, error, rfl⟩ := called
    rfl
  | resolved k result =>
    obtain ⟨id, proc, result, rfl⟩ := called
    rfl
  | connect n error uv =>
    rcases called with rfl | ⟨error, rfl⟩
    · rfl
    · rfl
  | read n read uv =>
    rcases called with ⟨data, encoding, rfl⟩ | ⟨error, rfl⟩
    · rfl
    · rfl
  | write k error =>
    obtain ⟨address, proc, error, rfl⟩ := called
    rfl
  | shutdown n error =>
    obtain ⟨error, rfl⟩ := called
    rfl
  | connectTimeout n k => exact called.elim

private theorem takeGvl_view {event : UvEvent} {r : World × Option Callback}
    (ctl : c.ctl = .inUv) (reported : Reports c.world event r) :
    view other (takeGvl c r) = view other c := by
  have same := reports_same reported
  obtain ⟨w, callback⟩ := r
  cases callback with
  | none => exact same.view c.ctl
  | some callback =>
    have silent := silent_calledBy (s := w.status) (reports_calls reported rfl)
    unfold takeGvl
    dsimp only
    split
    · rfl
    · have started : viewOf other _ _ = viewOf other _ _ := (same.push silent).view c.ctl
      have moved : viewOf other (w.start callback) (.code .loop [.protect]) =
          viewOf other (w.start callback) c.ctl := by
        rw [ctl]
        exact viewOf_ctl rfl rfl
      exact moved.trans started

private theorem event_step {event : UvEvent} (h : engine.step c (.event event) = some c') :
    QueueMove (view other c) [] (executes other c c') (view other c') := by
  obtain ⟨ctl, taken⟩ := queue_event_inv h
  refine quiet_move (by simp [releasingTick, ctl]) ?_
  by_cases idle : event = .idle
  · subst idle
    simp only [stepEvent] at taken
    split at taken
    · rename_i active
      obtain rfl := Option.some.inj taken
      unfold takeBatch
      split
      · exact .still
      · rename_i running
        have running : c.world.status = .running := not_not.mp running
        have empty : (view other c).batch = [] := by simp [view, viewOf, ctl, stackOf, batchOf]
        cases other with
        | true =>
          refine still_move ?_
          unfold view
          rw [ctl]
          rfl
        | false => exact takes_move (some false) running empty
    · cases taken
  · by_cases async : event = .callFromOtherThread
    · subst async
      simp only [stepEvent] at taken
      split at taken
      · rename_i sent
        obtain rfl := Option.some.inj taken
        cases other with
        | false =>
          refine still_move ?_
          unfold view
          rw [ctl]
          rfl
        | true =>
          have woken : view true { c with
              world := { c.world with callFromOtherThreadUvAsync := some false },
              ctl := .waking } = { view true c with flag := some false, waking := true } := by
            unfold view
            rw [ctl]
            rfl
          rw [woken]
          exact .wakes sent
      · cases taken
    · obtain ⟨r, -, reported, rfl⟩ := event_inv h idle async
      exact still_move (takeGvl_view ctl reported)

private theorem resume_move {w : World} {result : Return} {base : Base} {frame : Frame}
    {stack : List Frame} (release : ∀ keys, frame = .release keys → w.status = .releasing)
    (plain : ∀ o procs, frame ≠ .batch o procs) :
    QueueMove (viewOf other w (.back result base (frame :: stack))) []  []
      (viewOf other (resume w result frame base stack).1 (resume w result frame base stack).2) := by
  have same {w' : World} {ctl : Ctl} (kept : SameQueues w w')
      (batch : batchOf other (stackOf ctl) = batchOf other (frame :: stack))
      (waking : isWaking ctl = false) :
      QueueMove (viewOf other w (.back result base (frame :: stack))) [] [] (viewOf other w' ctl) :=
    still_move ((kept.view ctl).trans (viewOf_ctl batch waking))
  have started (callback : Callback) (silent : ∀ other, tickOf other (.started callback w.status) =
      none) : SameQueues w (w.start callback) := (sameQueues_refl w).push silent
  have fails (frames : List Frame) (stored error : RubyError) :
      QueueMove (viewOf other w (.back (.raised error) base frames)) [] []
        (viewOf other (aeReleaseLoop { w with exitError := some stored } base stack).1
          (aeReleaseLoop { w with exitError := some stored } base stack).2) :=
    aeReleaseLoop_move (w := { w with exitError := some stored }) rfl
  cases frame with
  | protect =>
    cases result with
    | value v => exact same (sameQueues_refl w) rfl rfl
    | raised error =>
      unfold resume
      dsimp only
      split
      · exact same (sameQueues_refl w) rfl rfl
      · unfold aeHandleError
        split
        · exact same (started _ fun _ => rfl) rfl rfl
        · exact fails (.protect :: stack) _ error
  | batch o procs => exact absurd rfl (plain o procs)
  | handleError =>
    cases result with
    | value v => exact same (sameQueues_refl w) rfl rfl
    | raised error =>
      exact fails (.handleError :: stack) error error
  | release keys =>
    have releasing := release keys rfl
    unfold resume
    cases keys with
    | nil =>
      have idle :
          (viewOf other w (.back result base (.release [] :: stack))).status ≠ .running := by
        simp [viewOf, releasing]
      unfold releaseNext
      rcases closeInternalHandles_cases w with aborts | closes
      · rw [aborts]
        exact same ⟨rfl, rfl, rfl, rfl, rfl, fun _ => rfl⟩ rfl rfl
      · rw [closes]
        exact .idles idle (.inl rfl) (by cases other <;> rfl) rfl
    | cons key keys =>
      unfold releaseNext
      dsimp only
      split
      · have kept := destroyHandle_same (w := w) key
        cases destroyed : destroyHandle w key with
        | mk w' outcome =>
          rw [destroyed] at kept
          cases outcome with
          | ends ended => exact same kept rfl rfl
          | calls callback frame =>
            obtain ⟨n, t, -, -, -, -, -, rfl, rfl⟩ := destroyHandle_calls destroyed
            exact same (kept.push fun _ => rfl) rfl rfl
      · exact same (sameQueues_refl w) rfl rfl
  | destroying n =>
    cases result with
    | value v => exact same (sameQueues_refl w) rfl rfl
    | raised error => exact same (sameQueues_refl w) rfl rfl
  | closing n =>
    cases result with
    | value v => exact same ((sameQueues_refl w).push fun _ => rfl) rfl rfl
    | raised error => exact same ((sameQueues_refl w).push fun _ => rfl) rfl rfl
  | onExit procs capturedError =>
    cases result with
    | value v =>
      cases procs with
      | nil => exact same ((sameQueues_refl w).push fun _ => rfl) rfl rfl
      | cons proc procs => exact same (started _ fun _ => rfl) rfl rfl
    | raised error => exact same ((sameQueues_refl w).push fun _ => rfl) rfl rfl

private theorem batch_head {procs : List Tick} {stack : List Frame} (o : Bool)
    (own : o = other) :
    batchOf other (.batch o procs :: stack) = procs ++ batchOf other stack := by
  rw [batchOf, if_pos own]

private theorem batch_foreign {procs : List Tick} {stack : List Frame} (o : Bool)
    (foreign : o ≠ other) : batchOf other (.batch o procs :: stack) = batchOf other stack := by
  rw [batchOf, if_neg foreign, List.nil_append]

private theorem tick_move {result : Return} {base : Base} {o : Bool} {proc : Nat}
    {procs : List Tick} {stack : List Frame}
    (ctl : c.ctl = .back result base (.batch o (.user proc :: procs) :: stack))
    (running : c.world.status = .running)
    (next : c' = { c with
      world := c.world.start (if o then .callFromOtherThread proc else .nextTick proc)
      ctl := .code base (.protect :: .batch o procs :: stack) }) :
    QueueMove (view other c) [] (executes other c c') (view other c') := by
  have none : releasingTick other c c' = [] := by simp [releasingTick, ctl]
  subst next
  by_cases own : o = other
  · have called : calledTicks other (c.world.start
        (if o then .callFromOtherThread proc else .nextTick proc)) =
          .user proc :: calledTicks other c.world := by
      subst own
      cases o <;> rfl
    have batch : (view other c).batch = .user proc :: (procs ++ batchOf other stack) := by
      unfold view viewOf
      rw [ctl]
      exact batch_head o own
    have rest : batchOf other (.protect :: .batch o procs :: stack) =
        procs ++ batchOf other stack := batch_head o own
    have move := QueueMove.executes (v := view other c) running batch
    rw [executes_called none called]
    unfold view viewOf at move ⊢
    rw [ctl] at move ⊢
    dsimp only [stackOf] at move ⊢
    rw [called, rest]
    exact move
  · have silent : tickOf other (.started
        (if o then .callFromOtherThread proc else .nextTick proc) c.world.status) =
        Option.none := by
      cases o <;> cases other <;> first | rfl | exact absurd rfl own
    have called : calledTicks other (c.world.start
        (if o then .callFromOtherThread proc else .nextTick proc)) =
          calledTicks other c.world := List.filterMap_cons_none silent
    have before : batchOf other (.batch o (.user proc :: procs) :: stack) =
        batchOf other stack := batch_foreign o own
    have after : batchOf other (.protect :: .batch o procs :: stack) = batchOf other stack :=
      batch_foreign o own
    refine quiet_move none (still_move ?_)
    unfold view viewOf
    rw [ctl]
    dsimp only [stackOf]
    rw [called, before, after]
    rfl

private theorem stop_move {result : Return} {base : Base} {o : Bool} {procs : List Tick}
    {stack : List Frame}
    (ctl : c.ctl = .back result base (.batch o (.releaseLoop :: procs) :: stack))
    (running : c.world.status = .running)
    (next : c' = { c with
      world := (aeReleaseLoop c.world base (.protect :: .batch o procs :: stack)).1
      ctl := (aeReleaseLoop c.world base (.protect :: .batch o procs :: stack)).2 }) :
    QueueMove (view other c) [] (executes other c c') (view other c') := by
  have releases : aeReleaseLoop c.world base (.protect :: .batch o procs :: stack) =
      ({ c.world with
          status := .releasing, nextTickProcs := [], callFromOtherThreadProcs := [] },
        .back (.value .nil) base (.release c.world.handles :: .protect :: .batch o procs ::
          stack)) := by
    unfold aeReleaseLoop
    rw [running]
  by_cases own : o = other
  · rw [releases] at next
    subst next
    have tick : executes other c { c with
        world := { c.world with
          status := .releasing, nextTickProcs := [], callFromOtherThreadProcs := [] }
        ctl := .back (.value .nil) base (.release c.world.handles :: .protect ::
          .batch o procs :: stack) } = [.releaseLoop] := by
      simp [executes, releasingTick, ctl, own, running, calledTicks]
    have batch : (view other c).batch = .releaseLoop :: (procs ++ batchOf other stack) := by
      unfold view viewOf
      rw [ctl]
      exact batch_head o own
    have rest : batchOf other (.release c.world.handles :: .protect :: .batch o procs ::
        stack) = procs ++ batchOf other stack := batch_head o own
    have queue : queueOf other { c.world with
        status := .releasing, nextTickProcs := [], callFromOtherThreadProcs := [] } = [] := by
      cases other <;> rfl
    have move := QueueMove.executesStop (v := view other c) running batch
    rw [tick]
    unfold view viewOf at move ⊢
    rw [ctl] at move ⊢
    dsimp only [stackOf] at move ⊢
    rw [rest, queue]
    exact move
  · have none : releasingTick other c c' = [] := by simp [releasingTick, ctl, own]
    subst next
    refine quiet_move none ?_
    exact aeReleaseLoop_move (by rw [ctl]; rfl)

private theorem batch_move {result : Return} {base : Base} {o : Bool} {procs : List Tick}
    {stack : List Frame} (ctl : c.ctl = .back result base (.batch o procs :: stack))
    (next : c' = { c with
      world := (batchNext c.world o procs base stack).1
      ctl := (batchNext c.world o procs base stack).2 }) :
    QueueMove (view other c) [] (executes other c c') (view other c') := by
  cases procs with
  | nil =>
    subst next
    refine quiet_move (by simp [releasingTick, ctl]) (still_move ?_)
    unfold view
    rw [ctl]
    refine viewOf_ctl ?_ rfl
    simp [batchNext, stackOf, batchOf]
  | cons tick procs =>
    by_cases running : c.world.status = .running
    · have goes : ¬ c.world.status ≠ .running := not_not.mpr running
      cases tick with
      | user proc =>
        refine tick_move ctl running (next.trans ?_)
        rw [batchNext, if_neg goes]
      | releaseLoop =>
        refine stop_move ctl running (next.trans ?_)
        rw [batchNext, if_neg goes]
    · have stays : batchNext c.world o (tick :: procs) base stack =
          (c.world, .back (.value .nil) base stack) := if_pos running
      rw [stays] at next
      subst next
      have none : releasingTick other c { c with ctl := .back (.value .nil) base stack } = [] := by
        unfold releasingTick
        rw [ctl]
        split
        · exact if_neg fun h => running h.2.1
        · rfl
      exact quiet_move none (.idles running (.inl rfl) rfl rfl)

private theorem proceed_step (inv : LoopInv c ∧ VarsInv c.world)
    (h : engine.step c .proceed = some c') :
    QueueMove (view other c) [] (executes other c c') (view other c') := by
  cases proceed_inv h with
  | @frame result base frame stack ctl =>
    by_cases batch : ∃ o procs, frame = .batch o procs
    · obtain ⟨o, procs, rfl⟩ := batch
      refine batch_move ctl ?_
      cases result <;> rfl
    · have plain : ∀ o procs, frame ≠ .batch o procs :=
        fun o procs same => batch ⟨o, procs, same⟩
      have none : releasingTick other c { c with
          world := (resume c.world result frame base stack).1
          ctl := (resume c.world result frame base stack).2 } = [] := by
        unfold releasingTick
        rw [ctl]
        split
        · rename_i same
          exact absurd (List.cons.inj (Ctl.back.inj same).2.2).1 (plain _ _)
        · rfl
      refine quiet_move none ?_
      unfold view
      rw [ctl]
      refine resume_move ?_ plain
      intro keys same
      subst same
      exact inv.1.draining ⟨keys, by rw [ctl]; exact .head _⟩
  | loops ctl =>
    refine quiet_move (by simp [releasingTick, ctl]) (still_move ?_)
    unfold view
    rw [ctl]
    exact viewOf_ctl rfl rfl
  | @intsReturn v entering ctl =>
    refine quiet_move (by simp [releasingTick, ctl]) (still_move ?_)
    unfold view
    rw [ctl]
    cases entering
    · exact viewOf_ctl rfl rfl
    · exact viewOf_ctl rfl rfl
  | @intsRaise error entering base stack callers ctl caller =>
    refine quiet_move (by simp [releasingTick, ctl]) (still_move ?_)
    have inside : Inside c.ctl := by simp [ctl, Inside]
    obtain ⟨⟨below, only, outer⟩, -⟩ := inv.1.inside inside
    rw [caller] at only
    obtain ⟨head, -⟩ := List.cons.inj only
    obtain ⟨-, rfl⟩ := Prod.mk.inj head
    have empty : batchOf other stack = [] := batchOf_outer outer
    have unseen := (sameQueues_refl c.world).push (e := .ran (.raised error)) fun _ => rfl
    unfold view
    rw [ctl]
    exact (unseen.view _).trans (viewOf_ctl empty rfl)
  | enters ctl =>
    refine quiet_move (by simp [releasingTick, ctl]) (still_move ?_)
    unfold view
    rw [ctl]
    exact viewOf_ctl rfl rfl
  | takes ctl =>
    refine quiet_move (by simp [releasingTick, ctl]) ?_
    unfold takeBatch
    split
    · exact .still
    · rename_i running
      have running : c.world.status = .running := not_not.mp running
      have empty : (view other c).batch = [] := by simp [view, viewOf, ctl, stackOf, batchOf]
      cases other with
      | false =>
        refine still_move ?_
        unfold view
        rw [ctl]
        rfl
      | true => exact takes_move c.world.callFromOtherThreadUvAsync running empty
  | @ends base stack callers ctl caller =>
    refine quiet_move (by simp [releasingTick, ctl]) ?_
    unfold endLoop
    dsimp only
    split
    · rename_i quiet
      obtain ⟨handles, -⟩ := (Bool.and_eq_true _ _).mp quiet
      have before : c.world.status ≠ .running := inv.2.not_running handles
      exact .idles before (.inr rfl) rfl rfl
    · exact .still

private theorem quiet_of_status (kept : c'.world.status = c.world.status) :
    releasingTick other c c' = [] := by
  unfold releasingTick
  split
  · refine if_neg ?_
    rintro ⟨-, running, releasing⟩
    rw [kept, running] at releasing
    cases releasing
  · rfl

private theorem control_step (h : engine.step c a = some c')
    (control : a = .finish ∨ (∃ error, a = .raise error) ∨ a = .uvReturn ∨ a = .interrupt ∨
      a = .threadEnds ∨ ∃ pid, a = .fork pid) :
    QueueMove (view other c) [] (executes other c c') (view other c') := by
  have still (kept : c'.world.status = c.world.status) (same : view other c' = view other c) :
      QueueMove (view other c) [] (executes other c c') (view other c') :=
    quiet_move (quiet_of_status kept) (still_move same)
  have ended {result : Return} {base : Base} {stack : List Frame}
      (ctl : c.ctl = .code base stack) :
      viewOf other c.world (.back result base stack) = view other c := by
    unfold view
    rw [ctl]
    exact viewOf_ctl rfl rfl
  obtain ⟨-, step⟩ := step_inv h
  rcases control with rfl | ⟨error, rfl⟩ | rfl | rfl | rfl | ⟨pid, rfl⟩
  · cases step with
    | codeEnds ctl can => exact still rfl (ended ctl)
    | aborts => exact still rfl rfl
  · cases step with
    | codeEnds ctl can => exact still rfl (ended ctl)
    | aborts => exact still rfl rfl
  · cases step with
    | codeEnds ctl can => exact still rfl (ended ctl)
    | uvReturns ctl handles reqs =>
      refine still rfl ?_
      unfold view
      rw [ctl]
      exact viewOf_ctl rfl rfl
    | aborts => exact still rfl rfl
  · cases step with
    | codeEnds ctl can => exact still rfl (ended ctl)
    | interrupts entering ctl =>
      refine still rfl ?_
      unfold view
      rw [ctl]
      cases entering
      · exact viewOf_ctl rfl rfl
      · exact viewOf_ctl rfl rfl
    | aborts => exact still rfl rfl
  · cases step with
    | codeEnds ctl can => exact still rfl (ended ctl)
    | threadEnds ctl alone kept => exact still rfl rfl
    | aborts => exact still rfl rfl
  · cases step with
    | codeEnds ctl can => exact still rfl (ended ctl)
    | fork => exact still rfl rfl
    | aborts => exact still rfl rfl

theorem queue_step (other : Bool) (inv : LoopInv c ∧ VarsInv c.world)
    (h : engine.step c a = some c') :
    QueueMove (view other c) (enqueues other c a) (executes other c c') (view other c') := by
  cases a with
  | call call =>
    cases call with
    | run args uv => exact run_step inv.2 h
    | _ => exact method_step inv.2 h (by simp)
  | other thread call => exact other_step inv.2 h
  | event event => exact event_step h
  | proceed => exact proceed_step inv h
  | finish => exact control_step h (.inl rfl)
  | raise error => exact control_step h (.inr (.inl ⟨error, rfl⟩))
  | uvReturn => exact control_step h (.inr (.inr (.inl rfl)))
  | interrupt => exact control_step h (.inr (.inr (.inr (.inl rfl))))
  | threadEnds => exact control_step h (.inr (.inr (.inr (.inr (.inl rfl)))))
  | fork pid => exact control_step h (.inr (.inr (.inr (.inr (.inr ⟨pid, rfl⟩)))))

end Step

section Executing

variable {c c' : Config} {a : Action} {other : Bool} {base : Base} {stack : List Frame}
variable {w : World} {result : Return}

private def headIs (other : Bool) : List Frame → Bool
  | .batch o _ :: _ => o == other
  | _ => false

/-- A frame waits for a proc of a batch of the queue, or for what goes on after it. -/
private def executing (other : Bool) : List Frame → Bool
  | [] => false
  | _ :: stack => headIs other stack || executing other stack

private theorem executing_pop {f : Frame} (here : executing other stack = true) :
    executing other (f :: stack) = true := by
  simp [executing, here]

private theorem executing_outer (outer : ∀ f ∈ stack, Outer f) :
    executing other stack = false := by
  induction stack with
  | nil => rfl
  | cons f stack ih =>
    have below := ih fun g here => outer g (.tail _ here)
    cases stack with
    | nil => rfl
    | cons g stack =>
      cases g with
      | batch o procs => exact (outer (.batch o procs) (by simp)).elim
      | _ => exact below

private theorem aeReleaseLoop_status :
    (aeReleaseLoop w base stack).1.status ≠ .running := by
  unfold aeReleaseLoop
  split
  · simp
  · rename_i other
    exact other

private theorem executing_push {f : Frame} (stands : Stands base .user stack)
    (here : executing other (f :: stack) = true) : executing other stack = true := by
  cases stack with
  | nil => cases here
  | cons g stack =>
    cases g with
    | batch o procs => exact stands.elim
    | _ => simpa [executing, headIs] using here

private theorem executing_resume {frame : Frame} (plain : ∀ o procs, frame ≠ .batch o procs)
    (running : (resume w result frame base stack).1.status = .running)
    (here : executing other (stackOf (resume w result frame base stack).2) = true) :
    executing other (frame :: stack) = true := by
  cases frame with
  | protect =>
    cases result with
    | value v => exact executing_pop here
    | raised error =>
      unfold resume at here running
      dsimp only at here running
      split at here
      · exact executing_pop here
      · rename_i alive
        rw [if_neg alive] at running
        unfold aeHandleError at here running
        split at here
        · exact here
        · rename_i unhandled
          split at running
          · rename_i handler standard
            exact absurd standard (unhandled _ handler)
          · exact absurd running aeReleaseLoop_status
  | batch o procs => exact absurd rfl (plain o procs)
  | handleError =>
    cases result with
    | value v => exact executing_pop here
    | raised error => exact absurd running aeReleaseLoop_status
  | release keys =>
    unfold resume releaseNext at here
    cases keys with
    | nil => exact executing_pop here
    | cons key keys =>
      dsimp only at here
      split at here
      · cases destroyed : destroyHandle w key with
        | mk w' outcome =>
          rw [destroyed] at here
          cases outcome with
          | ends ended => exact here
          | calls callback frame =>
            obtain ⟨n, t, -, -, -, -, -, rfl, rfl⟩ := destroyHandle_calls destroyed
            exact here
      · exact here
  | destroying n =>
    cases result with
    | value v => exact executing_pop here
    | raised error => exact executing_pop here
  | closing n =>
    cases result with
    | value v => exact executing_pop here
    | raised error => exact executing_pop here
  | onExit procs capturedError =>
    cases result with
    | value v =>
      cases procs with
      | nil => exact executing_pop here
      | cons proc procs => exact here
    | raised error => exact executing_pop here

private theorem executing_batch {o : Bool} {procs : List Tick}
    (ctl : c.ctl = .back result base (.batch o procs :: stack))
    (next : c' = { c with
      world := (batchNext c.world o procs base stack).1
      ctl := (batchNext c.world o procs base stack).2 })
    (running : c'.world.status = .running) (here : executing other (stackOf c'.ctl) = true) :
    executing other (stackOf c.ctl) = true ∨ executes other c c' ≠ [] := by
  subst next
  dsimp only at running here
  rw [ctl]
  cases procs with
  | nil => exact .inl (executing_pop here)
  | cons tick procs =>
    by_cases alive : c.world.status = .running
    · have goes : ¬ c.world.status ≠ .running := not_not.mpr alive
      rw [batchNext, if_neg goes] at running here ⊢
      cases tick with
      | releaseLoop => exact absurd running aeReleaseLoop_status
      | user proc =>
        by_cases own : o = other
        · refine .inr ?_
          have called : calledTicks other (c.world.start
              (if o then .callFromOtherThread proc else .nextTick proc)) =
                .user proc :: calledTicks other c.world := by
            subst own
            cases o <;> rfl
          rw [executes_called (by simp [releasingTick, ctl]) called]
          exact List.cons_ne_nil _ _
        · refine .inl ?_
          have foreign : (o == other) = false := by simpa using own
          simpa [executing, headIs, stackOf, foreign] using here
    · rw [batchNext, if_pos alive] at here
      exact .inl (executing_pop here)

private theorem executing_proceed (inv : LoopInv c) (h : engine.step c .proceed = some c')
    (running : c'.world.status = .running) (here : executing other (stackOf c'.ctl) = true) :
    executing other (stackOf c.ctl) = true ∨ executes other c c' ≠ [] := by
  cases proceed_inv h with
  | @frame result base frame stack ctl =>
    by_cases batch : ∃ o procs, frame = .batch o procs
    · obtain ⟨o, procs, rfl⟩ := batch
      refine executing_batch ctl ?_ running here
      cases result <;> rfl
    · have plain : ∀ o procs, frame ≠ .batch o procs :=
        fun o procs same => batch ⟨o, procs, same⟩
      rw [ctl]
      exact .inl (executing_resume plain running here)
  | loops ctl => cases here
  | @intsReturn v entering ctl => cases entering <;> cases here
  | @intsRaise error entering base stack callers ctl caller =>
    obtain ⟨⟨below, only, outer⟩, -⟩ := inv.inside (by simp [ctl, Inside])
    rw [caller] at only
    obtain ⟨head, -⟩ := List.cons.inj only
    obtain ⟨-, rfl⟩ := Prod.mk.inj head
    rw [show stackOf _ = stack from rfl, executing_outer outer] at here
    cases here
  | enters ctl => cases here
  | takes ctl =>
    unfold takeBatch at here
    split at here
    · exact .inl here
    · cases here
  | ends ctl caller =>
    unfold endLoop at running here
    dsimp only at running here
    split at running
    · cases running
    · rename_i active
      rw [if_neg active] at here
      exact .inl here

/-- Only the call of a proc of the queue brings about that one is executed. -/
private theorem executing_step (inv : LoopInv c) (fits : Fits c.ctl)
    (h : engine.step c a = some c') (running : c'.world.status = .running)
    (here : executing other (stackOf c'.ctl) = true) :
    executing other (stackOf c.ctl) = true ∨ executes other c c' ≠ [] := by
  by_cases proceeds : a = .proceed
  · subst proceeds
    exact executing_proceed inv h running here
  · refine .inl ?_
    cases (step_inv h).2 with
    | other frame => exact here
    | call ctl method =>
      rw [ctl]
      exact here
    | close ctl socket opened connected method =>
      rw [ctl] at fits ⊢
      exact executing_push fits here
    | runReturns ctl frame =>
      rw [ctl]
      exact here
    | runStarts ctl stopped free => cases here
    | codeEnds ctl can =>
      rw [ctl]
      exact here
    | threadEnds ctl alone kept => exact here
    | fork => exact here
    | interrupts entering ctl => cases here
    | idleBatch ctl running active => cases here
    | wakes ctl sent => cases here
    | uvQuiet ctl reported => exact here
    | uvCalls ctl reported => cases here
    | uvReturns ctl handles reqs => cases here
    | aborts => exact here
    | _ => exact absurd rfl proceeds

private theorem executing_guard {handler : Bool} {procs : List Tick} :
    executing other (guardOf handler :: .batch other procs :: stack) = true := by
  simp [executing, headIs]

private theorem started_stack (h : engine.step c a = some c') (stopped : c.world.status = .stopped)
    (running : c'.world.status = .running) : stackOf c'.ctl = [] := by
  have same (status : c'.world.status = c.world.status) : False := by
    rw [status, stopped] at running
    cases running
  cases owner_step (step_inv h).2 with
  | same after inside => exact (same after.status).elim
  | starts stopped free world ctl =>
    rw [ctl]
    rfl
  | releases ctl calls running' after =>
    rw [stopped] at running'
    cases running'
  | ends ctl handles reqs after =>
    rw [after.status] at running
    cases running
  | threadEnds kept after => exact (same after.status).elim
  | forks after => exact (same after.status).elim

private theorem releaseLoop_running {w : World} {stored : Option RubyError} {frames : List Frame}
    (running : w.status = .running) : aeReleaseLoop { w with exitError := stored } base frames =
      ({ w with
          exitError := stored, status := .releasing, nextTickProcs := []
          callFromOtherThreadProcs := [] },
        .back (.value .nil) base (.release w.handles :: frames)) := by
  unfold aeReleaseLoop
  rw [running]

private theorem resume_fatally {w : World} {handler : Bool} (running : w.status = .running)
    (fatally : EndsFatally w handler result) : ∃ stored,
      resume w result (guardOf handler) base stack =
        ({ w with
            exitError := stored, status := .releasing, nextTickProcs := []
            callFromOtherThreadProcs := [] },
          .back (.value .nil) base (.release w.handles :: stack)) := by
  cases result with
  | value v => exact fatally.elim
  | raised error =>
    cases handler with
    | true => exact ⟨_, releaseLoop_running running⟩
    | false =>
      have unhandled : w.userErrorHandler = none ∨ error.isStandard = false :=
        fatally.resolve_left (by simp)
      have raises : resume w (.raised error) (guardOf false) base stack =
          aeHandleError w error base stack := if_neg (by simp [running])
      rw [raises]
      unfold aeHandleError
      split
      · rename_i handler standard
        rcases unhandled with unset | special
        · rw [unset] at handler
          cases handler
        · rw [special] at standard
          cases standard
      · exact ⟨_, releaseLoop_running running⟩

private theorem resume_handled {w : World} {handler : Bool} (running : w.status = .running)
    (survives : ¬ EndsFatally w handler result) :
    (∃ v, resume w result (guardOf handler) base stack = (w, .back (.value v) base stack)) ∨
      ∃ proc error, resume w result (guardOf handler) base stack =
        (w.start (.errorHandler proc error), .code base (.handleError :: stack)) := by
  cases result with
  | value v => cases handler <;> exact .inl ⟨_, rfl⟩
  | raised error =>
    cases handler with
    | true => exact absurd (.inl rfl) survives
    | false =>
      have raises : resume w (.raised error) (guardOf false) base stack =
          aeHandleError w error base stack := if_neg (by simp [running])
      rw [raises]
      unfold aeHandleError
      split
      · exact .inr ⟨_, _, rfl⟩
      · rename_i unhandled
        refine absurd (.inr ?_) survives
        cases set : w.userErrorHandler with
        | none => exact .inl rfl
        | some proc =>
          exact .inr (Bool.eq_false_iff.mpr fun standard => unhandled proc set standard)

/-- A step of the C code in which nothing is called of the queue: the ledger is closed if the
release begins, and stays as it is if not. -/
private theorem note_quiet {g : Ledger} (running : c.world.status = .running)
    (called : calledTicks other c'.world = calledTicks other c.world)
    (quiet : releasingTick other c c' = []) :
    g.note other c .proceed c' = { g with released :=
      if c'.world.status = .releasing then some g.executed else g.released } := by
  have nothing : executes other c c' = [] := by simp [executes, called, quiet]
  have unasked : enqueues other c .proceed = [] := rfl
  unfold Ledger.note
  rw [if_neg (by simp [running]), nothing, unasked]
  simp [running]

/-- A proc of the queue, or the handler of its error, has ended. -/
private theorem tick_ends {g : Ledger} {handler : Bool} {procs : List Tick}
    (some_executed : g.executed ≠ []) (running : c.world.status = .running)
    (ctl : c.ctl = .back result base (guardOf handler :: .batch other procs :: stack))
    (h : engine.step c .proceed = some c') :
    TickEnds other c g (EndsFatally c.world handler result) c' := by
  have quiet : releasingTick other c c' = [] := by
    unfold releasingTick
    rw [ctl]
    cases handler <;> rfl
  have resumed : { c with
      world := (resume c.world result (guardOf handler) base (.batch other procs :: stack)).1
      ctl := (resume c.world result (guardOf handler) base (.batch other procs :: stack)).2 } =
      c' := Option.some.inj (proceed_back ctl h)
  refine ⟨some_executed, fun fatally => ?_, fun survives => ?_⟩
  · obtain ⟨stored, releases⟩ := resume_fatally running fatally
    rw [releases] at resumed
    have status : c'.world.status = .releasing := by rw [← resumed]
    have called : calledTicks other c'.world = calledTicks other c.world := by
      rw [← resumed]
      rfl
    refine ⟨status, ?_⟩
    rw [note_quiet running called quiet, if_pos status]
  · have goesOn (status : c'.world.status = .running)
        (called : calledTicks other c'.world = calledTicks other c.world) :
        g.note other c .proceed c' = g := by
      rw [note_quiet running called quiet, if_neg (by simp [status])]
    have guarded : batchOf other (stackOf c.ctl) =
        batchOf other (.batch other procs :: stack) := by
      rw [ctl]
      cases handler <;> rfl
    rw [guarded]
    rcases resume_handled running survives with ⟨v, pops⟩ | ⟨proc, error, starts⟩
    · rw [pops] at resumed
      subst resumed
      exact ⟨running, goesOn running rfl, rfl, rfl⟩
    · rw [starts] at resumed
      subst resumed
      exact ⟨running, goesOn running rfl, rfl, rfl⟩

end Executing

section Runs

variable {other : Bool}

/-- What every step of a run keeps, beside its ledger. -/
structure LedgerInv (other : Bool) (p : Config × Ledger) : Prop where
  loop : LoopInv p.1 ∧ VarsInv p.1.world
  queue : QueueInv (view other p.1) p.2
  fits : Fits p.1.ctl
  busy : p.1.world.status = .running → executing other (stackOf p.1.ctl) = true →
    p.2.executed ≠ []

private theorem ledgerInv_init : LedgerInv other (ledgered other).init := by
  have fits : Fits engine.init.ctl := by
    show Base.outside ≠ .loop
    simp
  refine ⟨loop_init, ?_, fits, fun running => by cases running⟩
  have empty : (view other engine.init).queue = [] := by cases other <;> rfl
  have none : (view other engine.init).called = [] := by cases other <;> rfl
  refine ⟨?_, fun _ => empty, List.nil_prefix, ?_, ?_, ?_, ?_, none, ?_⟩
  · intro running
    cases running
  · intro running
    cases running
  · intro before tick executed
    exact absurd executed.symm (List.append_ne_nil_of_right_ne_nil _ (List.cons_ne_nil _ _))
  · intro executed released
    cases released
  · intro releasing
    cases releasing
  · intro running
    cases running

private theorem ledgerInv_step {p q : Config × Ledger} {a : Action} (inv : LedgerInv other p)
    (h : (ledgered other).step p a = some q) : LedgerInv other q := by
  obtain ⟨step, noted⟩ := annotate_step h
  have next := queueInv_move inv.queue (queue_step other inv.loop step)
  refine ⟨loop_step inv.loop step, noted ▸ next, fits_step inv.loop.1 inv.fits step, ?_⟩
  intro running here
  rw [noted]
  unfold Ledger.note
  split
  · rename_i starts
    rw [started_stack step starts.1 running] at here
    cases here
  · rename_i goes
    have before : p.1.world.status = .running := by
      cases status_step (step_inv step).2 with
      | same status => exact status.symm.trans running
      | starts stopped running => exact absurd ⟨stopped, running⟩ goes
      | releases running' releasing =>
        rw [releasing] at running
        cases running
      | ends ctl handles reqs stopped =>
        rw [stopped] at running
        cases running
    rcases executing_step inv.loop.1 inv.fits step running here with already | called
    · exact List.append_ne_nil_of_left_ne_nil (inv.busy before already) _
    · exact List.append_ne_nil_of_right_ne_nil _ called

private theorem inOrder_of_inv {p : Config × Ledger} (inv : LedgerInv other p) :
    InOrder other p.1 p.2 := by
  have queue := inv.queue
  refine ⟨queue.running, queue.ordered, queue.last, ?_, ?_, ?_, queue.called, ?_, ?_⟩
  · intro executed released
    refine ⟨?_, queue.released executed released⟩
    intro running
    rw [(queue.live running).2] at released
    cases released
  · intro releasing
    obtain ⟨executed, released⟩ := Option.ne_none_iff_exists'.mp (queue.releasing releasing)
    rw [released, queue.released executed released]
  · intro running ctl
    have law := queue.running running
    have empty : (view other p.1).batch = [] := by simp [view, viewOf, ctl, stackOf, batchOf]
    rw [empty, List.append_nil] at law
    exact law
  · intro running some
    rcases queue.awake running some with flag | waking
    · exact .inl flag
    · obtain ⟨own, waking⟩ := (Bool.and_eq_true _ _).mp waking
      refine .inr ⟨own, ?_⟩
      cases ctl : p.1.ctl with
      | waking => rfl
      | _ =>
        rw [ctl] at waking
        cases waking
  · intro handler result base procs stack c' running ctl step
    refine tick_ends (inv.busy running ?_) running ctl step
    rw [ctl]
    exact executing_guard

private theorem inOrder_of_path {l : List ((Config × Ledger) × Action)} {p : Config × Ledger}
    (path : Path (ledgered other) l p) : InOrder other p.1 p.2 :=
  inOrder_of_inv (path.invariant ledgerInv_init ledgerInv_step)

theorem idle_of_path {l : List (Config × Action)} {c : Config} (path : Path engine l c)
    (other : Bool) (idle : c.world.status ≠ .running) : queueOf other c.world = [] := by
  obtain ⟨notes, g, annotated, -⟩ : ∃ notes g, Path (ledgered other) notes (c, g) ∧
    notes.map (fun step => (step.1.1, step.2)) = l := path.annotate
  exact (annotated.invariant ledgerInv_init ledgerInv_step).queue.idle idle

/-- A queue that is not empty wakes the loop up. -/
theorem awake_of_path {l : List (Config × Action)} {c : Config} (path : Path engine l c)
    (other : Bool) (running : c.world.status = .running) (waits : queueOf other c.world ≠ []) :
    flagOf other c.world = some true ∨ (other = true ∧ c.ctl = .waking) := by
  obtain ⟨notes, g, annotated, -⟩ : ∃ notes g, Path (ledgered other) notes (c, g) ∧
    notes.map (fun step => (step.1.1, step.2)) = l := path.annotate
  exact (inOrder_of_path annotated).awake running waits

end Runs

/-- The queue of `AE.next_tick`, in every state of every run. -/
theorem next_tick_in_order {l : List ((Config × Ledger) × Action)} {p : Config × Ledger}
    (path : Path (ledgered false) l p) : InOrder false p.1 p.2 :=
  inOrder_of_path path

/-- A proc that raises is followed by the rest of its batch, and `AE.stop` cuts the batch off. -/
theorem next_tick_in_order_stopped : ∃ l p, Path (ledgered false) l p ∧
    p.2.executed = [.user 0, .user 1, .user 2, .releaseLoop] ∧
    p.2.enqueued = [.user 0, .user 1, .user 2, .releaseLoop, .user 3] ∧
    InOrder false p.1 p.2 := by
  have reached : ((ledgered false).exec ([.call (.onError ⟨[], some 9⟩)] ++ runBlock ++ [
      .call (.nextTick ⟨[], some 1⟩), .call (.nextTick ⟨[], some 2⟩), .call .stop,
      .call (.nextTick ⟨[], some 3⟩), .finish, .proceed, .proceed, .proceed, .proceed,
      .event .idle, .proceed, .raise (.application 0 true), .proceed, .finish, .proceed,
      .proceed, .finish, .proceed, .proceed])).any (fun p =>
        decide (p.2.executed = [.user 0, .user 1, .user 2, .releaseLoop] ∧
          p.2.enqueued = [.user 0, .user 1, .user 2, .releaseLoop, .user 3])) = true := by
    decide +kernel
  obtain ⟨l, p, path, run⟩ := exists_path_of_exec _ _ _ reached
  obtain ⟨executed, enqueued⟩ := of_decide_eq_true run
  exact ⟨l, p, path, executed, enqueued, next_tick_in_order path⟩

/-- The queue of `AE.call_from_other_thread`, in every state of every run. -/
theorem call_from_other_thread_in_order {l : List ((Config × Ledger) × Action)}
    {p : Config × Ledger} (path : Path (ledgered true) l p) : InOrder true p.1 p.2 :=
  inOrder_of_path path

/-- Two threads push before the swap and after it. -/
theorem call_from_other_thread_in_order_threads : ∃ l p, Path (ledgered true) l p ∧
    p.2.executed = [.user 1, .user 2, .user 3] ∧
    p.2.enqueued = [.user 1, .user 2, .user 3, .user 4] ∧ InOrder true p.1 p.2 := by
  have reached : ((ledgered true).exec (runBlock ++ [.finish, .proceed, .proceed, .proceed,
      .proceed, .other 1 (.callFromOtherThread ⟨[], some 1⟩),
      .other 2 (.callFromOtherThread ⟨[], some 2⟩), .event .callFromOtherThread,
      .other 1 (.callFromOtherThread ⟨[], some 3⟩), .proceed, .proceed,
      .other 2 (.callFromOtherThread ⟨[], some 4⟩), .finish, .proceed, .proceed, .finish,
      .proceed, .proceed])).any (fun p =>
        decide (p.2.executed = [.user 1, .user 2, .user 3] ∧
          p.2.enqueued = [.user 1, .user 2, .user 3, .user 4])) = true := by
    decide +kernel
  obtain ⟨l, p, path, run⟩ := exists_path_of_exec _ _ _ reached
  obtain ⟨executed, enqueued⟩ := of_decide_eq_true run
  exact ⟨l, p, path, executed, enqueued, call_from_other_thread_in_order path⟩

end AsyncEngine.Engine.Queues
