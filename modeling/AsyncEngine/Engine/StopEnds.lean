/- `AE.stop` takes effect: once it has returned true its block waits in a queue, and left alone the
   loop comes to the block, and from there to AE_STOPPED. -/

import AsyncEngine.Engine.LoopEnds
import AsyncEngine.Engine.Queues

set_option autoImplicit false
set_option relaxedAutoImplicit false

namespace AsyncEngine.Engine.StopEnds

open AsyncEngine.Lib.Run
open AsyncEngine.Lib.Measure
open AsyncEngine.Engine.Ruby
open AsyncEngine.Engine.State
open AsyncEngine.Engine.Machine
open AsyncEngine.Engine.Loop
open AsyncEngine.Engine.Queues
open AsyncEngine.Engine.Stopped
open AsyncEngine.Engine.LoopEnds

/-- The block of `AE.stop` waits in one of the two queues or in a batch taken from it. -/
def StopWaits (c : Config) : Prop :=
  ∃ other, .releaseLoop ∈ batchOf other (stackOf c.ctl) ++ queueOf other c.world

/-- `AE.stop` is called while the engine runs. -/
def Stops (c : Config) (a : Action) : Prop :=
  c.world.status = .running ∧ (a = .call .stop ∨ ∃ thread, a = .other thread .stop)

/-- The loop runs, and the block of `AE.stop` waits. -/
structure Stopping (c : Config) : Prop where
  inside : Inside c.ctl
  status : c.world.status = .running
  live : c.world.fault = none
  calm : ¬ Escaping c
  waits : StopWaits c

def frameEffort : Frame → Nat
  -- Each proc is called in `rb_protect`.
  | .batch _ procs => 3 * procs.length + 1
  | .closing _ => 2
  | _ => 1

def ctlEffort : Ctl → Nat
  | .code _ stack => (stack.map frameEffort).sum + 4
  | .back (.value _) _ stack => (stack.map frameEffort).sum + 3
  -- The handler of `AE.on_error` may have to be called.
  | .back (.raised _) _ stack => (stack.map frameEffort).sum + 5
  | .entering => 2
  | .waking => 6
  | .inUv => 1
  | .leaving => 0

def queueEffort (w : World) : Nat :=
  8 * w.nextTickProcs.length + 8 * w.callFromOtherThreadProcs.length +
    if w.callFromOtherThreadUvAsync = some true then 6 else 0

/-- What the loop has to do before it comes to the block of `AE.stop`, if user code just returns. -/
def effort (c : Config) : Nat := queueEffort c.world + ctlEffort c.ctl

variable {c c' : Config} {a : Action}

section Waits

private theorem waits_move {v v' : QueueView} {pushed executed : List Tick}
    (move : QueueMove v pushed executed v') (running : v.status = .running)
    (still : v'.status = .running) (waits : .releaseLoop ∈ v.batch ++ v.queue) :
    .releaseLoop ∈ v'.batch ++ v'.queue := by
  cases move with
  | still => exact waits
  | idles before after queue called => exact absurd running before
  | starts stopped awake =>
    rw [stopped] at running
    cases running
  | releases running => cases still
  | pushes tick running =>
    rcases List.mem_append.mp waits with batch | queue
    · exact List.mem_append_left _ batch
    · exact List.mem_append_right _ (List.mem_append_left _ queue)
  | wakes sent => exact waits
  | takes running empty =>
    rw [empty, List.nil_append] at waits
    simpa using waits
  | executes running batch =>
    rw [batch] at waits
    simpa using waits
  | executesStop running batch => cases still

private theorem waits_step (inv : LoopInv c ∧ VarsInv c.world) (h : engine.step c a = some c')
    (running : c.world.status = .running) (still : c'.world.status = .running)
    (waits : StopWaits c) : StopWaits c' := by
  obtain ⟨other, waits⟩ := waits
  exact ⟨other, waits_move (queue_step other inv h) running still waits⟩

private theorem pushed_move {v v' : QueueView} {pushed executed : List Tick}
    (move : QueueMove v pushed executed v') (running : v.status = .running)
    (here : .releaseLoop ∈ pushed) : .releaseLoop ∈ v'.batch ++ v'.queue := by
  cases move with
  | pushes tick _ =>
    obtain rfl := List.mem_singleton.mp here
    simp
  | starts stopped awake =>
    rw [stopped] at running
    cases running
  | _ => cases here

private theorem stops_step (inv : LoopInv c ∧ VarsInv c.world) (h : engine.step c a = some c')
    (stops : Stops c a) : StopWaits c' := by
  obtain ⟨running, stops⟩ := stops
  have queued (w : World) (status : w.status = .running) :
      ∃ other, Tick.releaseLoop ∈ queuedBy other w .stop := by
    refine ⟨!Procs.aeIsRunningThread w, ?_⟩
    simp [queuedBy, status]
  have pushed : ∃ other, Tick.releaseLoop ∈ enqueues other c a := by
    rcases stops with rfl | ⟨thread, rfl⟩
    · exact queued c.world running
    · exact queued { c.world with currentThread := thread } running
  obtain ⟨other, pushed⟩ := pushed
  exact ⟨other, pushed_move (queue_step other inv h) running pushed⟩

end Waits

section Progress

/-- A frame goes on while the loop runs: the loop is released, or what waits stays and less is left
to do before it. -/
structure Advances (w : World) (base : Base) (before : Nat) (r : World × Ctl) : Prop where
  live : r.1.fault = none
  stands : ∃ stack, At r.2 base stack
  calm : ∀ error, r.2 ≠ .back (.raised error) base []
  less : r.1.status = .releasing ∨
    (r.1.status = .running ∧ queueEffort r.1 = queueEffort w ∧ ctlEffort r.2 < before)

private theorem frameEffort_pos (frame : Frame) : 0 < frameEffort frame := by
  cases frame <;> simp [frameEffort]

private theorem advances_pop {w w' : World} {base : Base} {frame : Frame} {stack : List Frame}
    {result : Return} {v : Value} (live : w'.fault = none) (running : w'.status = .running)
    (same : queueEffort w' = queueEffort w) :
    Advances w base (ctlEffort (.back result base (frame :: stack)))
      (w', .back (.value v) base stack) := by
  refine ⟨live, ⟨stack, .inr ⟨_, rfl⟩⟩, by simp, .inr ⟨running, same, ?_⟩⟩
  have busy := frameEffort_pos frame
  cases result with
  | value v' =>
    simp only [ctlEffort, List.map_cons, List.sum_cons]
    omega
  | raised error =>
    simp only [ctlEffort, List.map_cons, List.sum_cons]
    omega

private theorem advances_release {w w' : World} {before : Nat} (base : Base) (stack : List Frame)
    (live : w'.fault = none) (running : w'.status = .running) :
    Advances w base before (aeReleaseLoop w' base stack) := by
  unfold aeReleaseLoop
  rw [running]
  exact ⟨live, ⟨_, .inr ⟨_, rfl⟩⟩, by simp, .inl rfl⟩

private theorem advances_error {w : World} {base : Base} {stack : List Frame} (error : RubyError)
    (live : w.fault = none) (running : w.status = .running) :
    Advances w base (ctlEffort (.back (.raised error) base (.protect :: stack)))
      (aeHandleError w error base stack) := by
  unfold aeHandleError
  split
  · refine ⟨live, ⟨_, .inl rfl⟩, by simp, .inr ⟨running, rfl, ?_⟩⟩
    simp only [ctlEffort, frameEffort, List.map_cons, List.sum_cons]
    omega
  · exact advances_release base stack live running

private theorem advances_batch {w : World} {result : Return} {base : Base} {stack : List Frame}
    {o : Bool} {procs : List Tick} (live : w.fault = none) (running : w.status = .running) :
    Advances w base (ctlEffort (.back result base (.batch o procs :: stack)))
      (batchNext w o procs base stack) := by
  unfold batchNext
  cases procs with
  | nil => exact advances_pop live running rfl
  | cons tick procs =>
    dsimp only
    rw [if_neg (by simp [running])]
    cases tick with
    | releaseLoop => exact advances_release base _ live running
    | user proc =>
      refine ⟨live, ⟨_, .inl rfl⟩, by simp, .inr ⟨running, rfl, ?_⟩⟩
      cases result with
      | value v =>
        simp only [ctlEffort, frameEffort, List.map_cons, List.sum_cons, List.length_cons]
        omega
      | raised error =>
        simp only [ctlEffort, frameEffort, List.map_cons, List.sum_cons, List.length_cons]
        omega

private theorem resume_advances (inv : EndInv c) (inside : Inside c.ctl)
    (running : c.world.status = .running) (live : c.world.fault = none) {result : Return}
    {base : Base} {frame : Frame} {stack : List Frame}
    (ctl : c.ctl = .back result base (frame :: stack)) :
    Advances c.world base (ctlEffort c.ctl) (resume c.world result frame base stack) := by
  have loop := inv.release.loop
  have inner : Inner frame := (loop.inside inside).2 frame (by simp [ctl, stackOf])
  have fits := inv.fits
  rw [ctl] at fits ⊢
  cases frame with
  | protect =>
    cases result with
    | value v => exact advances_pop live running rfl
    | raised error =>
      unfold resume
      dsimp only
      rw [if_neg (by simp [running])]
      exact advances_error error live running
  | batch o procs => exact advances_batch live running
  | handleError =>
    cases result with
    | value v => exact advances_pop live running rfl
    | raised error => exact advances_release base stack live running
  | release keys =>
    have releasing := loop.draining ⟨keys, by simp [ctl, stackOf]⟩
    rw [running] at releasing
    cases releasing
  | destroying n =>
    cases result with
    | value v => exact advances_pop live running rfl
    | raised error =>
      refine ⟨live, ⟨stack, .inr ⟨_, rfl⟩⟩, ?_, .inr ⟨running, rfl, ?_⟩⟩
      · intro error' same
        obtain rfl := (Ctl.back.inj same).2.2
        exact fits.1.elim
      · show (stack.map frameEffort).sum + 5 < (1 + (stack.map frameEffort).sum) + 5
        omega
  | closing n =>
    have code {w : World} (live : w.fault = none) (running : w.status = .running)
        (same : queueEffort w = queueEffort c.world) : Advances c.world base
          (ctlEffort (.back result base (.closing n :: stack))) (w, .code base stack) := by
      refine ⟨live, ⟨stack, .inl rfl⟩, by simp, .inr ⟨running, same, ?_⟩⟩
      cases result with
      | value v =>
        simp only [ctlEffort, frameEffort, List.map_cons, List.sum_cons]
        omega
      | raised error =>
        simp only [ctlEffort, frameEffort, List.map_cons, List.sum_cons]
        omega
    cases result with
    | value v => exact code live running rfl
    | raised error => exact code live running rfl
  | onExit procs error => exact inner.elim

/-- The loop is released, or is closer to the block of `AE.stop`. -/
def Nears (c c' : Config) : Prop :=
  (Releasing c' ∧ ¬ Escaping c') ∨ (Stopping c' ∧ effort c' < effort c)

private theorem nears_of_step (inv : EndInv c) (stopping : Stopping c) (mine : own a = true)
    (move : engine.step c a = some c') (inside : Inside c'.ctl)
    (running : c'.world.status = .running) (live : c'.world.fault = none)
    (calm : ¬ Escaping c') (less : effort c' < effort c) :
    ∃ a c', own a = true ∧ engine.step c a = some c' ∧ Nears c c' := by
  have waits := waits_step ⟨inv.release.loop, inv.release.vars⟩ move stopping.status running
    stopping.waits
  exact ⟨a, c', mine, move, .inr ⟨⟨inside, running, live, calm, waits⟩, less⟩⟩

private theorem nears_of_ctl (inv : EndInv c) (stopping : Stopping c) {ctl : Ctl}
    (mine : own a = true) (move : engine.step c a = some { c with ctl := ctl })
    (inside : Inside ctl) (calm : ¬ Escaping { c with ctl := ctl })
    (less : ctlEffort ctl < ctlEffort c.ctl) :
    ∃ a c', own a = true ∧ engine.step c a = some c' ∧ Nears c c' :=
  nears_of_step inv stopping mine move inside stopping.status stopping.live calm
    (Nat.add_lt_add_left less _)

private theorem frame_goes (inv : EndInv c) (stopping : Stopping c) {result : Return} {base : Base}
    {frame : Frame} {stack : List Frame} (ctl : c.ctl = .back result base (frame :: stack)) :
    ∃ a c', own a = true ∧ engine.step c a = some c' ∧ Nears c c' := by
  have alive : c.world.fault.isSome = false := by rw [stopping.live]; rfl
  have advances := resume_advances inv stopping.inside stopping.status stopping.live ctl
  obtain ⟨stack', stands⟩ := advances.stands
  have move : engine.step c .proceed = some { c with
      world := (resume c.world result frame base stack).1
      ctl := (resume c.world result frame base stack).2 } := by
    show step c .proceed = _
    unfold step
    rw [alive, ctl]
    rfl
  have inside : Inside (resume c.world result frame base stack).2 := by
    have here := stopping.inside
    rw [ctl] at here
    exact stands.inside.mpr here
  have calm : ¬ Escaping { c with
      world := (resume c.world result frame base stack).1
      ctl := (resume c.world result frame base stack).2 } := by
    rintro ⟨error, entering, raises⟩
    have quiet := advances.calm error
    replace raises : (resume c.world result frame base stack).2 =
      .back (.raised error) (.ints entering) [] := raises
    rw [raises] at stands quiet
    rcases stands with other | ⟨result', same⟩
    · cases other
    · obtain ⟨-, rfl, -⟩ := Ctl.back.inj same
      exact absurd rfl quiet
  rcases advances.less with releasing | ⟨running, same, less⟩
  · exact ⟨.proceed, _, rfl, move, .inl ⟨⟨inside, releasing, advances.live⟩, calm⟩⟩
  · refine nears_of_step inv stopping (a := .proceed) rfl move inside running advances.live calm ?_
    unfold effort
    dsimp only
    omega

private theorem uv_goes {l : List (Config × Action)} (path : Path engine l c)
    (stopping : Stopping c) (ctl : c.ctl = .inUv) :
    ∃ a c', own a = true ∧ engine.step c a = some c' ∧ Nears c c' := by
  have inv := endInv_of_path path
  have alive : c.world.fault.isSome = false := by rw [stopping.live]; rfl
  have running := stopping.status
  obtain ⟨other, waits⟩ := stopping.waits
  replace waits : .releaseLoop ∈ queueOf other c.world := by
    simpa [ctl, stackOf, batchOf] using waits
  have awake : flagOf other c.world = some true := by
    rcases awake_of_path path other running (List.ne_nil_of_mem waits) with flag | ⟨-, waking⟩
    · exact flag
    · rw [ctl] at waking
      cases waking
  cases other with
  | false =>
    have flag : c.world.nextTickUvIdle = some true := awake
    have busy : 0 < c.world.nextTickProcs.length := List.length_pos_of_mem waits
    have move : engine.step c (.event .idle) = some { c with
        world := { c.world with nextTickUvIdle := some false, nextTickProcs := [] }
        ctl := .back (.value .nil) .loop [.batch false c.world.nextTickProcs, .protect] } := by
      show step c (.event .idle) = _
      unfold step
      rw [alive, ctl]
      show stepEvent c .idle = _
      unfold stepEvent
      dsimp only
      rw [if_pos flag]
      unfold takeBatch
      rw [if_neg (by simp [running])]
    refine nears_of_step inv stopping (a := .event .idle) rfl move (by simp [Inside]) running
      stopping.live ?_ ?_
    · rintro ⟨error, entering, raises⟩
      cases raises
    · simp only [effort, queueEffort, ctlEffort, ctl, frameEffort, List.map_cons, List.map_nil,
        List.sum_cons, List.sum_nil, List.length_nil]
      omega
  | true =>
    have flag : c.world.callFromOtherThreadUvAsync = some true := awake
    have move : engine.step c (.event .callFromOtherThread) = some { c with
        world := { c.world with callFromOtherThreadUvAsync := some false }, ctl := .waking } := by
      show step c (.event .callFromOtherThread) = _
      unfold step
      rw [alive, ctl]
      show stepEvent c .callFromOtherThread = _
      unfold stepEvent
      dsimp only
      rw [if_pos flag]
    refine nears_of_step inv stopping (a := .event .callFromOtherThread) rfl move trivial running
      stopping.live ?_ ?_
    · rintro ⟨error, entering, raises⟩
      cases raises
    · simp [effort, queueEffort, ctlEffort, ctl, flag]

/-- A step of its own takes the loop to the block of `AE.stop`, or nearer to it. -/
private theorem stopping_goes {l : List (Config × Action)} (path : Path engine l c)
    (stopping : Stopping c) :
    ∃ a c', own a = true ∧ engine.step c a = some c' ∧ Nears c c' := by
  have inv := endInv_of_path path
  have running := stopping.status
  have alive : c.world.fault.isSome = false := by rw [stopping.live]; rfl
  have inside := stopping.inside
  have soon (late : Late c.ctl) : False := by
    have releasing := (inv.late late stopping.live).1
    rw [running] at releasing
    cases releasing
  cases ctl : c.ctl with
  | code base stack =>
    have fits := inv.fits
    rw [ctl] at fits inside
    have ends : canEnd base stack = true := by
      cases base with
      | outside => exact absurd rfl inside
      | ints entering => rfl
      | loop =>
        cases stack with
        | nil => exact absurd rfl fits
        | cons frame stack => rfl
    have move : engine.step c .finish = some { c with ctl := .back (.value .nil) base stack } := by
      show step c .finish = _
      unfold step
      rw [alive, ctl]
      show stepCode c base stack .finish = _
      unfold stepCode
      dsimp only
      rw [if_pos ends]
    refine nears_of_ctl inv stopping (a := .finish) rfl move inside ?_ ?_
    · rintro ⟨error, entering, raises⟩
      cases raises
    · rw [ctl]
      simp only [ctlEffort]
      omega
  | back result base stack =>
    cases stack with
    | cons frame stack => exact frame_goes inv stopping ctl
    | nil =>
      rw [ctl] at inside
      cases base with
      | outside => exact absurd rfl inside
      | loop =>
        have move : engine.step c .proceed = some { c with ctl := .inUv } := by
          show step c .proceed = _
          unfold step
          rw [alive, ctl]
          rfl
        refine nears_of_ctl inv stopping (a := .proceed) rfl move trivial ?_ ?_
        · rintro ⟨error, entering, raises⟩
          cases raises
        · rw [ctl]
          cases result <;> simp [ctlEffort]
      | ints entering =>
        cases entering with
        | false => exact (soon (by rw [ctl]; rfl)).elim
        | true =>
          cases result with
          | raised error => exact absurd ⟨error, true, ctl⟩ stopping.calm
          | value v =>
            have move : engine.step c .proceed = some { c with ctl := .entering } := by
              show step c .proceed = _
              unfold step
              rw [alive, ctl]
              rfl
            refine nears_of_ctl inv stopping (a := .proceed) rfl move trivial ?_ ?_
            · rintro ⟨error, entering, raises⟩
              cases raises
            · rw [ctl]
              simp [ctlEffort]
  | entering =>
    have move : engine.step c .proceed = some { c with ctl := .inUv } := by
      show step c .proceed = _
      unfold step
      rw [alive, ctl]
      rfl
    refine nears_of_ctl inv stopping (a := .proceed) rfl move trivial ?_ ?_
    · rintro ⟨error, entering, raises⟩
      cases raises
    · rw [ctl]
      simp [ctlEffort]
  | inUv => exact uv_goes path stopping ctl
  | waking =>
    have move : engine.step c .proceed = some { c with
        world := { c.world with callFromOtherThreadProcs := [] }
        ctl := .back (.value .nil) .loop
          [.batch true c.world.callFromOtherThreadProcs, .protect] } := by
      show step c .proceed = _
      unfold step
      rw [alive, ctl]
      show some (takeBatch c _ true c.world.callFromOtherThreadProcs) = _
      unfold takeBatch
      rw [if_neg (by simp [running])]
    refine nears_of_step inv stopping (a := .proceed) rfl move (by simp [Inside]) running
      stopping.live ?_ ?_
    · rintro ⟨error, entering, raises⟩
      cases raises
    · simp only [effort, queueEffort, ctlEffort, ctl, frameEffort, List.map_cons, List.map_nil,
        List.sum_cons, List.sum_nil, List.length_nil]
      omega
  | leaving => exact (soon (by rw [ctl]; trivial)).elim

end Progress

/-- In every run, from a call of `AE.stop` on, its block waits as long as the engine runs; and
wherever the run has come to, if the application is then left alone, the loop comes to AE_STOPPED
with no assertion failed, unless an exception is already on its way out of it. The release rests on
libuv to complete every `uv_shutdown` that it has accepted, also two of one socket. -/
theorem stop_takes_effect {l : List (Config × Action)} (path : Path engine l c)
    (stops : Stops c a) (move : engine.step c a = some c') {as : List Action} {d : Config}
    (segment : Segment engine (fun c => c.world.status = .running) c' as d)
    (running : d.world.status = .running) :
    StopWaits d ∧ (Inside d.ctl → d.world.fault = none → ¬ Escaping d →
      ∃ bs e, Segment engine (fun c => Inside c.ctl ∧ c.world.fault = none) d bs e ∧
        (∀ b ∈ bs, own b = true) ∧ e.world.status = .stopped ∧ e.world.fault = none) := by
  have reachable : ∀ {s t : Config} {a : Action}, (∃ l, Path engine l s) →
      engine.step s a = some t → ∃ l, Path engine l t := by
    rintro s t a ⟨l, path⟩ move
    exact ⟨_, path.next move⟩
  have waits : StopWaits d := by
    induction segment with
    | empty =>
      have inv := (endInv_of_path path).release
      exact stops_step ⟨inv.loop, inv.vars⟩ move stops
    | next before here step ih =>
      obtain ⟨l', path'⟩ := before.invariant (I := fun c => ∃ l, Path engine l c)
        ⟨_, path.next move⟩ reachable
      have inv := (endInv_of_path path').release
      exact waits_step ⟨inv.loop, inv.vars⟩ step here running (ih here)
  refine ⟨waits, fun inside live calm => ?_⟩
  obtain ⟨l', path'⟩ := segment.invariant (I := fun c => ∃ l, Path engine l c)
    ⟨_, path.next move⟩ reachable
  -- The loop comes to the block first, and then the release comes to its end.
  obtain ⟨bs, e, first, mine, rel, calm'⟩ : ∃ bs e, Segment engine Stopping d bs e ∧
      (∀ b ∈ bs, own b = true) ∧ (Releasing e ∧ ¬ Escaping e) := by
    refine exists_segment (I := fun c => ∃ l, Path engine l c) (μ := effort) ⟨l', path'⟩
      ⟨inside, running, live, calm, waits⟩ reachable ?_
    rintro s ⟨l, path⟩ stopping
    exact stopping_goes path stopping
  obtain ⟨l'', path''⟩ := first.invariant (I := fun c => ∃ l, Path engine l c) ⟨l', path'⟩
    reachable
  obtain ⟨bs', e', last, mine', stopped, live'⟩ := release_completes path'' rel calm'
  refine ⟨bs ++ bs', e', ?_, ?_, stopped, live'⟩
  · exact (first.mono fun stopping => ⟨stopping.inside, stopping.live⟩).append
      (last.mono fun rel => ⟨rel.inside, rel.live⟩)
  · intro b here
    rcases List.mem_append.mp here with here | here
    · exact mine b here
    · exact mine' b here

/-- User code of a callback runs while the engine runs. -/
private def canStop (c : Config) : Bool :=
  match c.ctl with
  | .code .loop _ => decide (c.world.status = .running) && c.world.fault.isNone
  | _ => false

private theorem running_of_canStop (can : canStop c = true) :
    c.world.status = .running ∧ Inside c.ctl ∧ c.world.fault = none ∧ ¬ Escaping c := by
  unfold canStop at can
  split at can
  · rename_i stack ctl
    obtain ⟨status, live⟩ := (Bool.and_eq_true _ _).mp can
    refine ⟨of_decide_eq_true status, ?_, Option.isNone_iff_eq_none.mp live, ?_⟩
    · rw [ctl]
      simp [Inside]
    · rintro ⟨error, entering, raises⟩
      rw [ctl] at raises
      cases raises
  · cases can

/-- `on_connected` of a socket calls `AE.stop`, and goes on after it. -/
theorem stop_takes_effect_connected : ∃ l c d, Path engine l c ∧
    c.world.tcps.length = 1 ∧ engine.step c (.call .stop) = some d ∧ StopWaits d ∧
    ∃ bs e, Segment engine (fun c => Inside c.ctl ∧ c.world.fault = none) d bs e ∧
      (∀ b ∈ bs, own b = true) ∧ e.world.status = .stopped ∧ e.world.fault = none := by
  have reached : (engine.exec connectSocket).any (fun c => canStop c &&
      (decide (c.world.tcps.length = 1) && (engine.step c (.call .stop)).any canStop)) = true := by
    decide +kernel
  obtain ⟨l, c, path, seen⟩ := exists_path_of_exec engine _ _ reached
  obtain ⟨can, seen⟩ := (Bool.and_eq_true _ _).mp seen
  obtain ⟨one, stops⟩ := (Bool.and_eq_true _ _).mp seen
  obtain ⟨d, move, can'⟩ := (Option.any_eq_true _ _).mp stops
  obtain ⟨running, inside, live, calm⟩ := running_of_canStop can'
  have effect := stop_takes_effect path ⟨(running_of_canStop can).1, .inl rfl⟩ move .empty running
  obtain ⟨waits, ends⟩ := effect
  exact ⟨l, c, d, path, of_decide_eq_true one, move, waits, ends inside live calm⟩

end AsyncEngine.Engine.StopEnds
