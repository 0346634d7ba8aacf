/- The release of the loop: which handles it has still to close, what is left when `uv_run`
   returns, and which callbacks are started meanwhile. -/

import AsyncEngine.Engine.Loop
import AsyncEngine.Engine.IpTypes

set_option autoImplicit false
set_option relaxedAutoImplicit false

namespace AsyncEngine.Engine.Release

open AsyncEngine.Lib.Run
open AsyncEngine.Lib.Registry
open AsyncEngine.IpParser.Machine
open AsyncEngine.Engine.Ruby
open AsyncEngine.Engine.State
open AsyncEngine.Engine.Machine
open AsyncEngine.Engine.Effects
open AsyncEngine.Engine.Steps
open AsyncEngine.Engine.Handles
open AsyncEngine.Engine.Loop
open AsyncEngine.Engine.TcpMoves
open AsyncEngine.Engine.TcpLife
open AsyncEngine.Engine.IpTypes

/-- The handle is stored and its `_uv_handle` is not NULL. -/
def Open (w : World) : Handle → Prop
  | .timer n => .timer n ∈ w.handles
  | .udp n => .udp n ∈ w.handles
  | .tcp n => .tcp n ∈ w.handles ∧ ∃ t, w.tcps[n]? = some t ∧ t.uvHandle = true

/-- `ae_release_loop` will come to the key. -/
def Awaited (stack : List Frame) (h : Handle) : Prop := ∃ keys, .release keys ∈ stack ∧ h ∈ keys

/-- The procs are dropped and the internal handles are closed. -/
def Done (w : World) : Prop :=
  w.procs = [] ∧ w.nextTickUvIdle = none ∧ w.callFromOtherThreadUvAsync = none ∧
    w.ubfUvAsync = none

section Open

variable {c c' : Config} {a : Action}

theorem open_step (tcps : ∀ n, TcpInv (view n c)) (h : Step c a c')
    (idle : c.world.status ≠ .running) : ∀ key, Open c'.world key → Open c.world key := by
  have fewer : ∀ key ∈ c'.world.handles, key ∈ c.world.handles := by
    obtain ⟨w, runs, data⟩ := step_data h
    rw [data.handles]
    exact handles_frame (runs_frame runs) idle
  intro key opened
  cases key with
  | timer n => exact fewer _ opened
  | udp n => exact fewer _ opened
  | tcp n =>
    obtain ⟨stored, t', socket', on⟩ := opened
    refine ⟨fewer _ stored, ?_⟩
    cases socket : c.world.tcps[n]? with
    | none => exact absurd (fewer _ stored) ((tcps n).absent socket).1
    | some t =>
      refine ⟨t, rfl, ?_⟩
      rcases step_view h with same | move
      · have tcp : c'.world.tcps[n]? = c.world.tcps[n]? := congrArg TcpView.tcp same
        rw [tcp, socket] at socket'
        obtain rfl := Option.some.inj socket'
        exact on
      · exact handle_move (v := view n c) move socket socket' on

private theorem stored_of_open {w : World} {key : Handle} (opened : Open w key) :
    key ∈ w.handles := by
  cases key with
  | timer n => exact opened
  | udp n => exact opened
  | tcp n => exact opened.1

private theorem destroy_uvHandle {w : World} {n : Nat} {t t' : State.Tcp}
    (socket : w.tcps[n]? = some t) (socket' : (Tcp.destroy w n t).1.tcps[n]? = some t') :
    t'.uvHandle = false := by
  have bound : n < w.tcps.length := (List.getElem?_eq_some_iff.mp socket).1
  have handle : (Tcp.cancelTimerConnectTimeout (Tcp.closeUvHandle t)).uvHandle = false := by
    obtain ⟨uvTimers, timer, kept⟩ := cancel_keeps (Tcp.closeUvHandle t)
    rw [kept]
    rfl
  unfold Tcp.destroy checked at socket'
  cases opened : t.uvHandle with
  | false =>
    simp only [opened, checkUvHandleIsOpen, Bool.false_eq_true, if_false] at socket'
    obtain rfl : t = t' := Option.some.inj (socket.symm.trans socket')
    exact opened
  | true =>
    simp only [opened, checkUvHandleIsOpen, if_true, pure, Except.pure] at socket'
    split at socket' <;>
      simp only [aeRemoveHandle, World.setTcp, List.getElem?_set_self bound,
        Option.some.injEq] at socket' <;>
      rw [← socket'] <;> exact handle

private theorem destroy_closes {w : World} (inv : HandlesInv w) {key : Handle}
    (stored : key ∈ w.handles) : ¬ Open (destroyHandle w key).1 key := by
  cases key with
  | timer n =>
    obtain ⟨t, found, opened⟩ := (inv.timers.table.stored_iff n).mp stored
    have own := (inv.timers.table.good n t found opened).1
    rw [destroyHandle, found]
    simp [Open, Timer.destroy, checked, checkUvHandleIsOpen, opened, Timer.closeHandle, own, pure,
      Except.pure, aeRemoveHandle]
  | udp n =>
    obtain ⟨u, found, opened⟩ := (inv.udps.table.stored_iff n).mp stored
    have own := (inv.udps.table.good n u found opened).1
    rw [destroyHandle, found]
    simp [Open, Udp.destroy, checked, checkUvHandleIsOpen, opened, Udp.closeHandle, own, pure,
      Except.pure, aeRemoveHandle]
  | tcp n =>
    intro still
    obtain ⟨-, t', socket', on⟩ := still
    rw [destroyHandle] at socket'
    cases socket : w.tcps[n]? with
    | none =>
      rw [socket] at socket'
      exact absurd (socket.symm.trans socket') (by simp)
    | some t =>
      rw [socket] at socket'
      have closed := destroy_uvHandle socket socket'
      rw [closed] at on
      cases on

end Open

section Step

variable {c c' : Config} {a : Action}

structure ReleaseInv (c : Config) : Prop where
  loop : LoopInv c
  vars : VarsInv c.world
  handles : HandlesInv c.world
  tcps : ∀ n, TcpInv (view n c)
  awaited : c.world.status = .releasing → ∀ key, Open c.world key → Awaited (stackOf c.ctl) key
  done : c.world.status = .releasing → c.world.fault = none →
    Draining (stackOf c.ctl) ∨ Done c.world

theorem event_starts (loop : LoopInv c) {event : UvEvent}
    (h : engine.step c (.event event) = some c') (idle : event ≠ .idle)
    (async : event ≠ .callFromOtherThread) :
    ∃ r, Reports c.world event r ∧ c'.world = startedBy r := by
  have live := (step_inv h).1
  obtain ⟨r, ctl, reported, rfl⟩ := event_inv h idle async
  have busy := loop.busy (by rw [ctl]; trivial) live
  rw [← (sameLoop_of_frame (reports_frame reported)).status] at busy
  refine ⟨r, reported, ?_⟩
  obtain ⟨w, callback⟩ := r
  cases callback with
  | none => rfl
  | some callback =>
    unfold takeGvl
    dsimp only
    rw [if_neg busy]
    rfl

private theorem awaited_cons {f : Frame} {stack : List Frame} {key : Handle}
    (h : Awaited stack key) : Awaited (f :: stack) key := by
  obtain ⟨keys, here, mem⟩ := h
  exact ⟨keys, .tail _ here, mem⟩

private theorem awaited_tail {f : Frame} {stack : List Frame} {key : Handle}
    (h : Awaited (f :: stack) key) (other : ∀ keys, f ≠ .release keys) : Awaited stack key := by
  obtain ⟨keys, here, mem⟩ := h
  rcases List.mem_cons.mp here with same | here
  · exact absurd same.symm (other keys)
  · exact ⟨keys, here, mem⟩

private theorem awaited_next {key key' : Handle} {keys : List Handle} {stack : List Frame}
    (h : Awaited (.release (key :: keys) :: stack) key') (other : key' ≠ key) :
    Awaited (.release keys :: stack) key' := by
  obtain ⟨keys', here, mem⟩ := h
  rcases List.mem_cons.mp here with same | here
  · obtain rfl := Frame.release.inj same
    rcases List.mem_cons.mp mem with eq | mem
    · exact absurd eq other
    · exact ⟨keys, .head _, mem⟩
  · exact ⟨keys', .tail _ here, mem⟩

private theorem draining_on {stack below : List Frame} (on : ReleaseStack stack below)
    (h : Draining stack) : Draining below := by
  rcases on with rfl | ⟨o, procs, rfl⟩
  · exact h
  · exact draining_tail (draining_tail h)

private theorem awaited_below {stack below : List Frame} {key : Handle}
    (on : ReleaseStack stack below) (h : Awaited stack key) : Awaited below key := by
  rcases on with rfl | ⟨o, procs, rfl⟩
  · exact h
  · exact awaited_cons (awaited_cons h)

private theorem silent_ne {f : Frame} (quiet : silent f) (keys : List Handle) :
    f ≠ .release keys := by
  rintro rfl
  exact quiet

private theorem fatal_ne {f : Frame} (calls : fatal f) (keys : List Handle) :
    f ≠ .release keys := by
  rintro rfl
  exact calls

private theorem startLoop_ne_releasing {w : World} {proc : Nat} {uv : UvAnswers}
    (stopped : w.status = .stopped) : (startLoop w proc uv).status ≠ .releasing := by
  intro releasing
  rcases startLoop_cases w proc uv with aborts | ⟨fault, runs⟩
  · rw [aborts, World.abort, stopped] at releasing
    cases releasing
  · rw [runs] at releasing
    cases releasing

private theorem awaited_step (inv : ReleaseInv c) (h : Step c a c') :
    c'.world.status = .releasing → ∀ key, Open c'.world key → Awaited (stackOf c'.ctl) key := by
  have keep (status : c'.world.status = c.world.status)
      (frames : ∀ key, Open c'.world key → Awaited (stackOf c.ctl) key →
        Awaited (stackOf c'.ctl) key) :
      c'.world.status = .releasing → ∀ key, Open c'.world key →
        Awaited (stackOf c'.ctl) key := by
    intro releasing key opened
    have before := status.symm.trans releasing
    have old := open_step inv.tcps h (by rw [before]; simp) key opened
    exact frames key opened (inv.awaited before key old)
  have none (stack : stackOf c.ctl = []) {key : Handle} (h : Awaited (stackOf c.ctl) key) :
      Awaited (stackOf c'.ctl) key := by
    rw [stack] at h
    obtain ⟨keys, here, -⟩ := h
    cases here
  cases h with
  | other frame => exact keep (sameLoop_queue frame).status fun _ _ => id
  | call ctl method =>
    refine keep (sameLoop_of_frame (dispatch_frame method)).status fun _ _ => ?_
    rw [ctl]
    exact id
  | close ctl socket opened connected method =>
    refine keep rfl fun _ _ => ?_
    rw [ctl]
    exact awaited_cons
  | runReturns ctl frame =>
    refine keep (sameLoop_queue frame).status fun _ _ => ?_
    rw [ctl]
    exact id
  | runStarts ctl stopped free =>
    intro releasing
    exact absurd releasing (startLoop_ne_releasing stopped)
  | codeEnds ctl can =>
    refine keep rfl fun _ _ => ?_
    rw [ctl]
    exact id
  | threadEnds ctl alone kept => exact keep rfl fun _ _ => id
  | fork => exact keep rfl fun _ _ => id
  | pops ctl quiet =>
    refine keep rfl fun _ _ => ?_
    rw [ctl]
    exact fun h => awaited_tail h (silent_ne quiet)
  | handles ctl not_releasing =>
    refine keep rfl fun _ _ => ?_
    rw [ctl]
    exact fun h => awaited_cons (awaited_tail h (by simp))
  | releases ctl calls running on =>
    intro _ key opened
    exact ⟨c.world.handles, .head _, stored_of_open opened⟩
  | releasesNot ctl calls on =>
    refine keep rfl fun _ _ => ?_
    rw [ctl]
    exact fun h => awaited_below on (awaited_tail h (fatal_ne calls))
  | tick ctl running =>
    refine keep rfl fun _ _ => ?_
    rw [ctl]
    exact fun h => awaited_cons (awaited_cons (awaited_tail h (by simp)))
  | skipsKey ctl deleted =>
    refine keep rfl fun key opened => ?_
    rw [ctl]
    refine fun h => awaited_next h ?_
    rintro rfl
    exact deleted (stored_of_open opened)
  | @destroys _ _ _ key _ _ w ctl stored method =>
    have frame := fileFrame_quiet (destroyHandle_frame c.world key)
    have closes := destroy_closes inv.handles stored
    rw [method] at frame closes
    refine keep (sameLoop_of_frame frame).status fun key' opened => ?_
    rw [ctl]
    refine fun h => awaited_cons (awaited_next h ?_)
    rintro rfl
    exact closes opened
  | @disconnects _ _ n _ _ t ctl stored socket on connected method =>
    have closes := destroy_closes inv.handles stored
    rw [method] at closes
    refine keep rfl fun key' opened => ?_
    rw [ctl]
    refine fun h => awaited_cons (awaited_cons (awaited_next h ?_))
    rintro rfl
    exact closes opened
  | released ctl =>
    refine keep (closeInternalHandles_status _) fun _ _ => ?_
    rw [ctl]
    intro h
    obtain ⟨keys, here, mem⟩ := h
    rcases List.mem_cons.mp here with same | here
    · obtain rfl := Frame.release.inj same
      cases mem
    · exact ⟨keys, here, mem⟩
  | closeReturns ctl =>
    refine keep rfl fun _ _ => ?_
    rw [ctl]
    exact fun h => awaited_tail h (by simp)
  | exitProc ctl =>
    refine keep rfl fun _ _ => ?_
    rw [ctl]
    exact fun h => awaited_cons (awaited_tail h (by simp))
  | runEnds ctl =>
    refine keep rfl fun _ _ => ?_
    rw [ctl]
    exact fun h => awaited_tail h (by simp)
  | loops ctl => exact keep rfl fun _ _ => none (by rw [ctl]; rfl)
  | intsReturn ctl => exact keep rfl fun _ _ => none (by rw [ctl]; rfl)
  | intsRaise ctl caller => exact keep rfl fun _ _ => none (by rw [ctl]; rfl)
  | enters ctl => exact keep rfl fun _ _ => none (by rw [ctl]; rfl)
  | interrupts entering ctl =>
    exact keep rfl fun _ _ => none (by rw [ctl]; cases entering <;> rfl)
  | idleBatch ctl running active => exact keep rfl fun _ _ => none (by rw [ctl]; rfl)
  | wakes ctl sent => exact keep rfl fun _ _ => none (by rw [ctl]; rfl)
  | asyncBatch ctl running => exact keep rfl fun _ _ => none (by rw [ctl]; rfl)
  | uvQuiet ctl reported =>
    exact keep (sameLoop_of_frame (reports_frame (uvCallback_inv reported))).status fun _ _ => id
  | uvCalls ctl reported =>
    exact keep (sameLoop_of_frame (reports_frame (uvCallback_inv reported))).status
      fun _ _ => none (by rw [ctl]; rfl)
  | uvReturns ctl handles reqs => exact keep rfl fun _ _ => none (by rw [ctl]; rfl)
  | loopEnds ctl caller handles reqs =>
    rw [endLoop_eq handles reqs]
    intro releasing
    cases releasing
  | aborts => exact keep rfl fun _ _ => id

private theorem draining_of_awaited {stack : List Frame} {key : Handle} (h : Awaited stack key) :
    Draining stack := by
  obtain ⟨keys, here, -⟩ := h
  exact ⟨keys, here⟩

private theorem procs_step (inv : ReleaseInv c) (h : Step c a c')
    (releasing : c.world.status = .releasing) (drained : ¬ Draining (stackOf c.ctl))
    (dropped : c.world.procs = []) : c'.world.procs = [] := by
  have closed : ∀ u ∈ c.world.udps, u.uvHandle = false := by
    intro u mem
    cases opened : u.uvHandle with
    | false => rfl
    | true =>
      obtain ⟨n, found⟩ := List.mem_iff_getElem?.mp mem
      have stored := (inv.handles.udps.table.stored_iff n).mpr ⟨u, found, opened⟩
      exact absurd (draining_of_awaited (inv.awaited releasing (.udp n) stored)) drained
  obtain ⟨w, runs, data⟩ := step_data h
  rcases data.procs with same | ⟨none, -⟩
  · rw [same]
    refine List.eq_nil_iff_forall_not_mem.mpr fun p here => ?_
    have before := procs_frame (runs_frame runs) (by rw [releasing]; simp) closed p here
    rw [dropped] at before
    cases before
  · exact none

private theorem done_step (inv : ReleaseInv c) (live : c.world.fault = none) (h : Step c a c') :
    c'.world.status = .releasing → c'.world.fault = none →
      Draining (stackOf c'.ctl) ∨ Done c'.world := by
  have keep (same : SameLoop c.world c'.world)
      (frames : Draining (stackOf c.ctl) → Draining (stackOf c'.ctl)) :
      c'.world.status = .releasing → c'.world.fault = none →
        Draining (stackOf c'.ctl) ∨ Done c'.world := by
    intro releasing _
    have before := same.status.symm.trans releasing
    by_cases drains : Draining (stackOf c.ctl)
    · exact .inl (frames drains)
    · rcases inv.done before live with draining | ⟨procs, idle, async, ubf⟩
      · exact absurd draining drains
      · exact .inr ⟨procs_step inv h before drains procs, none_of_isSome same.idle idle,
          none_of_isSome same.async async, same.ubf.trans ubf⟩
  have none (stack : stackOf c.ctl = []) (h : Draining (stackOf c.ctl)) :
      Draining (stackOf c'.ctl) := by
    rw [stack] at h
    obtain ⟨keys, here⟩ := h
    cases here
  have refl := sameLoop_refl c.world
  cases h with
  | other frame => exact keep (sameLoop_queue frame) id
  | call ctl method =>
    refine keep (sameLoop_push (sameLoop_of_frame (dispatch_frame method))) ?_
    rw [ctl]
    exact id
  | close ctl socket opened connected method =>
    refine keep (sameLoop_push (sameLoop_of_frame (dispatch_frame method))) ?_
    rw [ctl]
    exact draining_tail
  | runReturns ctl frame =>
    refine keep (sameLoop_push (sameLoop_queue frame)) ?_
    rw [ctl]
    exact id
  | runStarts ctl stopped free =>
    intro releasing
    exact absurd releasing (startLoop_ne_releasing stopped)
  | codeEnds ctl can =>
    refine keep refl ?_
    rw [ctl]
    exact id
  | threadEnds ctl alone kept =>
    intro releasing ok
    exact inv.done releasing live
  | fork =>
    intro releasing ok
    exact inv.done releasing live
  | pops ctl quiet =>
    refine keep refl ?_
    rw [ctl]
    exact fun h => draining_cons h (silent_ne quiet)
  | handles ctl not_releasing =>
    refine keep (sameLoop_push refl) ?_
    rw [ctl]
    exact fun h => draining_tail (draining_cons h (by simp))
  | releases ctl calls running on => exact fun _ _ => .inl ⟨_, .head _⟩
  | @releasesNot _ _ _ _ below _ ctl calls on =>
    intro releasing ok
    have frames : Draining (stackOf c.ctl) → Draining below := by
      rw [ctl]
      intro h
      exact draining_on on (draining_cons h (fatal_ne calls))
    rcases inv.done releasing live with draining | done
    · exact .inl (frames draining)
    · exact .inr done
  | tick ctl running =>
    refine keep (sameLoop_push refl) ?_
    rw [ctl]
    exact fun h => draining_tail (draining_tail (draining_cons h (by simp)))
  | skipsKey ctl deleted => exact keep refl fun _ => ⟨_, .head _⟩
  | @destroys _ _ _ key _ _ w ctl stored method => exact fun _ _ => .inl ⟨_, .tail _ (.head _)⟩
  | disconnects ctl stored socket opened connected method =>
    exact fun _ _ => .inl ⟨_, .tail _ (.tail _ (.head _))⟩
  | released ctl =>
    intro _ ok
    rcases closeInternalHandles_cases c.world with aborts | closes
    · rw [aborts] at ok
      cases ok
    · rw [closes]
      exact .inr ⟨rfl, rfl, rfl, rfl⟩
  | closeReturns ctl =>
    refine keep (sameLoop_push refl) ?_
    rw [ctl]
    exact fun h => draining_cons h (by simp)
  | exitProc ctl =>
    refine keep (sameLoop_push refl) ?_
    rw [ctl]
    exact fun h => draining_tail (draining_cons h (by simp))
  | runEnds ctl =>
    refine keep (sameLoop_push refl) ?_
    rw [ctl]
    exact fun h => draining_cons h (by simp)
  | loops ctl => exact keep refl (none (by rw [ctl]; rfl))
  | intsReturn ctl => exact keep refl (none (by rw [ctl]; rfl))
  | intsRaise ctl caller => exact keep (sameLoop_push refl) (none (by rw [ctl]; rfl))
  | enters ctl => exact keep refl (none (by rw [ctl]; rfl))
  | interrupts entering ctl => exact keep refl (none (by rw [ctl]; cases entering <;> rfl))
  | idleBatch ctl running active =>
    intro releasing
    exact absurd (running.symm.trans releasing) (by simp)
  | wakes ctl sent =>
    have some_async : (some false).isSome = c.world.callFromOtherThreadUvAsync.isSome := by
      rw [sent]
      rfl
    exact keep ⟨rfl, rfl, rfl, rfl, rfl, rfl, rfl, some_async, rfl, fun _ => ⟨rfl, rfl⟩⟩
      (none (by rw [ctl]; rfl))
  | asyncBatch ctl running =>
    intro releasing
    exact absurd (running.symm.trans releasing) (by simp)
  | uvQuiet ctl reported =>
    exact keep (sameLoop_of_frame (reports_frame (uvCallback_inv reported))) id
  | uvCalls ctl reported =>
    exact keep (sameLoop_push (sameLoop_of_frame (reports_frame (uvCallback_inv reported))))
      (none (by rw [ctl]; rfl))
  | uvReturns ctl handles reqs => exact keep refl (none (by rw [ctl]; rfl))
  | loopEnds ctl caller handles reqs =>
    rw [endLoop_eq handles reqs]
    intro releasing
    cases releasing
  | aborts =>
    intro _ ok
    cases ok

theorem releaseInv_step (inv : ReleaseInv c) (h : engine.step c a = some c') :
    ReleaseInv c' := by
  obtain ⟨live, step⟩ := step_inv h
  exact ⟨loopInv_step inv.loop live step, varsInv_step inv.loop live inv.vars step,
    handlesInv_step inv.handles step, fun n => tcpInv_step h (inv.tcps n),
    awaited_step inv step, done_step inv live step⟩

theorem releaseInv_init : ReleaseInv engine.init := by
  obtain ⟨loop, vars⟩ := loop_init
  refine ⟨loop, vars, handlesInv_init, fun n => tcpInv_of_path .start, ?_, ?_⟩
  · intro releasing
    cases releasing
  · intro releasing
    cases releasing

/-- When `ae_release_loop` has come to its end, nothing is open. -/
theorem ReleaseInv.closed (inv : ReleaseInv c) (releasing : c.world.status = .releasing)
    (drained : ¬ Draining (stackOf c.ctl)) (key : Handle) : ¬ Open c.world key :=
  fun opened => drained (draining_of_awaited (inv.awaited releasing key opened))

end Step

section Released

variable {c c' : Config} {a : Action}

/-- Nothing of the application is left in the tables of the extension. -/
structure Released (w : World) : Prop where
  status : w.status = .releasing
  handles : w.handles = []
  procs : w.procs = []
  nextTickProcs : w.nextTickProcs = []
  callFromOtherThreadProcs : w.callFromOtherThreadProcs = []

/-- All sockets have one of the two families, and insertions were made while running. -/
structure PlainInv (c : Config) : Prop where
  release : ReleaseInv c
  ipTypes : IpTypesInv c
  inserted : ∀ h s, .inserted h s ∈ c.world.trace → s = .running

private theorem inserted_step (h : Step c a c')
    (before : ∀ h s, .inserted h s ∈ c.world.trace → s = .running) :
    ∀ h s, .inserted h s ∈ c'.world.trace → s = .running := by
  intro key s seen
  obtain ⟨w, runs, data⟩ := step_data h
  obtain ⟨events, trace, control⟩ := data.trace
  rw [trace] at seen
  rcases List.mem_append.mp seen with new | old
  · exact absurd (control _ new) id
  · rcases inserted_frame (runs_frame runs) old with older | running
    · exact before key s older
    · exact running

theorem plainInv_step (inv : PlainInv c) (h : engine.step c a = some c')
    (plain : ¬ TakesReference c a) : PlainInv c' :=
  ⟨releaseInv_step inv.release h, ipTypesInv_step inv.ipTypes h plain,
    inserted_step (step_inv h).2 inv.inserted⟩

private theorem open_or_connecting {t : State.Tcp} {stored : Prop} {cbs : List TcpCallback}
    (phase : Phase t stored cbs) (here : stored) : t.uvHandle = true ∨ t.uvConnect = true := by
  cases phase with
  | connecting pending _ => exact .inr pending
  | connected opened status _ k => exact .inl opened
  | refused closed idle status gone => exact absurd here gone
  | disconnected closed status gone k => exact absurd here gone

/-- A socket that is still in `@_handles` without being open has a pending connect request. -/
theorem handles_released (inv : PlainInv c) (releasing : c.world.status = .releasing)
    (drained : ¬ Draining (stackOf c.ctl)) (reqs : noActiveReqs c.world = true) :
    c.world.handles = [] := by
  have closed := inv.release.closed releasing drained
  have idle : ∀ t ∈ c.world.tcps, t.uvConnect = false := by
    intro t mem
    simp only [noActiveReqs, Bool.and_eq_true, List.all_eq_true] at reqs
    simpa using (reqs.2 t mem).1
  refine List.eq_nil_iff_forall_not_mem.mpr fun key stored => ?_
  cases key with
  | timer n => exact closed (.timer n) stored
  | udp n => exact closed (.udp n) stored
  | tcp n =>
    have tcp := inv.release.tcps n
    cases socket : c.world.tcps[n]? with
    | none => exact absurd stored (tcp.absent socket).1
    | some t =>
      have phase := (tcp.known t socket).phase (inv.ipTypes.tcps n t socket stored)
      rcases open_or_connecting phase stored with opened | pending
      · exact closed (.tcp n) ⟨stored, t, socket, opened⟩
      · rw [idle t (List.mem_of_getElem? socket)] at pending
        cases pending

private theorem released_of_return (inv : PlainInv c) (h : engine.step c .uvReturn = some c') :
    Released c.world := by
  have live := (step_inv h).1
  obtain ⟨ctl, handles, reqs⟩ := return_inv h
  obtain ⟨_, vars, _, _, _, done⟩ := inv.release
  have drained := not_draining (by rw [ctl]; rfl)
  have releasing : c.world.status = .releasing :=
    releasing_of_noActiveHandles inv.release.loop vars live (by rw [ctl]; trivial) handles
  rcases done releasing live with draining | ⟨procs, -⟩
  · exact absurd draining drained
  · obtain ⟨next, other⟩ := vars.releasing releasing
    exact ⟨releasing, handles_released inv releasing drained reqs, procs, next, other⟩

theorem plainInv_init : PlainInv engine.init :=
  ⟨releaseInv_init, ipTypesInv_init, fun _ _ seen => by cases seen⟩

/-- In a run whose sockets have plain addresses, whenever `uv_run` returns, the loop is being
released and nothing of the application is left; and no handle is ever inserted meanwhile. -/
theorem released_at_return {l : List (Config × Action)} {c : Config} (path : Path engine l c)
    (plain : Each (fun c a => ¬ TakesReference c a) l) :
    (∀ c', (c', .uvReturn) ∈ l → Released c'.world) ∧
      ∀ h s, .inserted h s ∈ c.world.trace → s = .running := by
  have start : PlainInv engine.init :=
    ⟨releaseInv_init, ipTypesInv_init, fun h s seen => by cases seen⟩
  refine ⟨?_, (path.guarded start plainInv_step plain).inserted⟩
  induction path with
  | start =>
    intro c' here
    cases here
  | next before move ih =>
    rw [each_snoc] at plain
    intro c' here
    rcases List.mem_append.mp here with earlier | last
    · exact ih plain.1 c' earlier
    · have inv := before.guarded start plainInv_step plain.1
      obtain ⟨rfl, rfl⟩ := Prod.mk.inj (List.mem_singleton.mp last)
      exact released_of_return inv move

end Released

section Callbacks

variable {c c' : Config} {a : Action}

/-- The callbacks of the end of a TCPSocket. -/
def EndsSocket : Callback → Prop
  | .onDisconnected _ _ => True
  | .onConnectionError _ _ => True
  | _ => False

/-- While the loop is released, no other callbacks were started. -/
def OnlyEnds (w : World) : Prop :=
  ∀ callback, .started callback .releasing ∈ w.trace → EndsSocket callback

/-- The block of a write is called during the release, for a socket that `ae_release_loop` did
not destroy; or an exception has come out of a nested `AE.run` during its release, and the procs of
`@_on_exit_procs` go on. -/
def CallsLate (c : Config) : Action → Prop
  | .event (.write k _) => c.world.status = .releasing ∧
      ∃ write block t, c.world.tcpWrites[k]? = some write ∧ write.onWriteBlock = some block ∧
        c.world.tcps[write.socket]? = some t ∧ t.releasing = false
  | .proceed => c.world.status = .releasing ∧
      ∃ v base proc procs error stack,
        c.ctl = .back (.value v) base (.onExit (proc :: procs) error :: stack)
  | _ => False

private theorem onlyEnds_frame {w w' : World} (before : OnlyEnds w) (frame : FileFrame w w') :
    OnlyEnds w' :=
  fun callback seen => before callback (started_frame frame seen)

private theorem onlyEnds_push {w : World} (before : OnlyEnds w) {e : Event}
    (other : ∀ callback, e = .started callback .releasing → EndsSocket callback) :
    OnlyEnds (w.push e) := by
  intro callback seen
  rcases List.mem_cons.mp seen with new | old
  · exact other callback new.symm
  · exact before callback old

private theorem onlyEnds_start {w : World} (before : OnlyEnds w) {callback : Callback}
    (ends : w.status = .releasing → EndsSocket callback) : OnlyEnds (w.start callback) := by
  refine onlyEnds_push before ?_
  intro other eq
  obtain ⟨rfl, releasing⟩ := Event.started.inj eq
  exact ends releasing

private theorem ends_reported (inv : ReleaseInv c) (ctl : c.ctl = .inUv)
    (releasing : c.world.status = .releasing) {event : UvEvent} {w : World}
    {callback : Callback} (h : Reports c.world event (w, some callback))
    (allowed : ¬ CallsLate c (.event event)) : EndsSocket callback := by
  have drained := not_draining (by rw [ctl]; rfl)
  have closed := inv.closed releasing drained
  have tcp {n : Nat} {t : State.Tcp} (socket : c.world.tcps[n]? = some t) :
      t.uvHandle = false := by
    cases opened : t.uvHandle with
    | false => rfl
    | true =>
      have stored := ((inv.tcps n).known t socket).opened opened
      exact absurd ⟨stored, t, socket, opened⟩ (closed (.tcp n))
  generalize reported : (w, some callback) = r at h
  cases h with
  | ubf sent =>
    rw [if_neg (by rw [releasing]; simp)] at reported
    cases reported
  | @timer n t found active =>
    have opened := inv.handles.timers.idle t (List.mem_of_getElem? found) active
    have stored := (inv.handles.timers.table.stored_iff n).mpr ⟨t, found, opened⟩
    exact absurd stored (closed (.timer n))
  | recv found receiving =>
    obtain ⟨_, ⟨dropped, -⟩ | ⟨_, _, _, other, -⟩⟩ := uvRecvCallback_cases found _
    · rw [dropped] at reported
      cases reported
    · exact absurd releasing other
  | @sent k error send u found socket may =>
    rcases uvSendCallback_cases _ _ _ with unasked | ⟨id, -, called⟩
    · rw [unasked] at reported
      cases reported
    · exact absurd releasing (called _ (congrArg Prod.snd reported).symm).1
  | resolved found =>
    have called := (uvGetaddrinfoCallback_completes _ _ _).callback _
      (congrArg Prod.snd reported).symm
    exact absurd releasing called.1
  | @connect n error uv t socket pending may =>
    cases error with
    | none =>
      have sane := (inv.tcps n).sane t socket
      have live : t.uvCloses = 0 := by simpa [mayEnd] using may
      have opened := sane.handle.mpr ⟨(sane.pending pending).2, live⟩
      rw [tcp socket] at opened
      cases opened
    | some errno =>
      obtain rfl := Option.some.inj (congrArg Prod.snd reported)
      trivial
  | @read n read uv t socket reading =>
    have opened := (((inv.tcps n).sane t socket).reading reading).1
    rw [tcp socket] at opened
    cases opened
  | @write k error write t found socket may =>
    unfold Tcp.uvWriteCallback at reported
    split at reported
    · cases reported
    · rename_i block holds
      cases destroyed : t.releasing with
      | true =>
        rw [destroyed] at reported
        cases reported
      | false =>
        exact absurd ⟨releasing, write, block, t, found, holds, socket, destroyed⟩ allowed
  | @shutdown n error t socket pending may =>
    unfold Tcp.uvShutdownCallback at reported
    split at reported
    · obtain rfl := Option.some.inj (congrArg Prod.snd reported)
      trivial
    · cases reported
  | connectTimeout socket fired active => cases reported

private theorem onlyEnds_step (inv : ReleaseInv c) (before : OnlyEnds c.world)
    (h : engine.step c a = some c') (allowed : ¬ CallsLate c a) : OnlyEnds c'.world := by
  obtain ⟨live, step⟩ := step_inv h
  cases step with
  | other frame => exact onlyEnds_frame before (fileFrame_quiet (quietFrame_queue frame))
  | call ctl method =>
    exact onlyEnds_push (onlyEnds_frame before (dispatch_frame method)) (by simp)
  | close ctl socket opened connected method =>
    exact onlyEnds_start (onlyEnds_frame before (dispatch_frame method)) fun _ => trivial
  | runReturns ctl frame =>
    exact onlyEnds_push (onlyEnds_frame before (fileFrame_quiet (quietFrame_queue frame))) (by simp)
  | runStarts ctl stopped free =>
    intro callback seen
    rw [startLoop_trace] at seen
    exact before callback seen
  | codeEnds ctl can => exact before
  | threadEnds ctl alone kept => exact before
  | fork => exact before
  | pops ctl quiet => exact before
  | handles ctl not_releasing =>
    exact onlyEnds_start before fun releasing => absurd releasing not_releasing
  | releases ctl calls running on => exact before
  | releasesNot ctl calls on => exact before
  | tick ctl running =>
    exact onlyEnds_start before fun releasing => by rw [running] at releasing; cases releasing
  | skipsKey ctl deleted => exact before
  | @destroys _ _ _ key _ _ w ctl stored method =>
    have frame := fileFrame_quiet (destroyHandle_frame c.world key)
    rw [method] at frame
    exact onlyEnds_frame before frame
  | @disconnects _ _ n _ _ t ctl stored socket opened connected method =>
    have frame := fileFrame_quiet (destroyHandle_frame c.world (.tcp n))
    rw [method] at frame
    exact onlyEnds_start (onlyEnds_frame before frame) fun _ => trivial
  | released ctl =>
    intro callback seen
    rw [closeInternalHandles_trace] at seen
    exact before callback seen
  | closeReturns ctl => exact onlyEnds_push before (by simp)
  | exitProc ctl =>
    exact onlyEnds_start before fun releasing =>
      absurd ⟨releasing, _, _, _, _, _, _, ctl⟩ allowed
  | runEnds ctl => exact onlyEnds_push before (by simp)
  | loops ctl => exact before
  | intsReturn ctl => exact before
  | intsRaise ctl caller => exact onlyEnds_push before (by simp)
  | enters ctl => exact before
  | interrupts entering ctl => exact before
  | idleBatch ctl running active => exact before
  | wakes ctl sent => exact before
  | asyncBatch ctl running => exact before
  | uvQuiet ctl reported =>
    exact onlyEnds_frame before (reports_frame (uvCallback_inv reported))
  | uvCalls ctl reported =>
    have report := uvCallback_inv reported
    have frame := reports_frame report
    refine onlyEnds_start (onlyEnds_frame before frame) fun releasing => ?_
    exact ends_reported inv ctl ((sameLoop_of_frame frame).status.symm.trans releasing) report
      allowed
  | uvReturns ctl handles reqs => exact before
  | loopEnds ctl caller handles reqs =>
    intro callback seen
    refine before callback ?_
    rw [endLoop_eq handles reqs] at seen
    exact seen
  | aborts => exact before

private theorem onlyEnds_sharp (h : engine.step c a = some c') (after : OnlyEnds c'.world) :
    ¬ CallsLate c a := by
  intro late
  unfold CallsLate at late
  split at late
  · rename_i k error
    obtain ⟨releasing, write, block, t, found, holds, socket, spared⟩ := late
    obtain ⟨r, -, report, rfl⟩ := event_inv h (by simp) (by simp)
    cases report with
    | write found' socket' may =>
      obtain rfl := Option.some.inj (found.symm.trans found')
      obtain rfl := Option.some.inj (socket.symm.trans socket')
      have started : .started (.onWrite block.address block.proc (error.map .uv)) .releasing ∈
          (takeGvl c (Tcp.uvWriteCallback
            { c.world with tcpWrites := c.world.tcpWrites.eraseIdx k } t write
            (error.map .uv))).world.trace := by
        simp [Tcp.uvWriteCallback, holds, spared, takeGvl, World.push, World.start, releasing]
      exact after _ started
  · obtain ⟨releasing, v, base, proc, procs, error, stack, ctl⟩ := late
    have resumed := proceed_back ctl h
    obtain rfl := Option.some.inj resumed
    have started : .started (.onExit proc error) .releasing ∈
        (c.world.start (.onExit proc error)).trace := by
      rw [← releasing]
      exact .head _
    exact after _ started
  · exact late

/-- In every run, only the callbacks of the end of a TCPSocket are started while the loop is
released exactly when no step calls the block of a write, or a proc of `@_on_exit_procs`, late. -/
theorem only_ends_iff {l : List (Config × Action)} {c : Config} (path : Path engine l c) :
    Always (fun c => OnlyEnds c.world) l c ↔ Each (fun c a => ¬ CallsLate c a) l := by
  have start : ReleaseInv engine.init ∧ OnlyEnds engine.init.world :=
    ⟨releaseInv_init, fun callback seen => by cases seen⟩
  refine path.always_iff_each start ?_ And.right fun _ => onlyEnds_sharp
  intro c c' a inv h allowed
  exact ⟨releaseInv_step inv.1 h, onlyEnds_step inv.1 inv.2 h allowed⟩

end Callbacks

/-- The last callback is the block of a write, called while the loop is released. -/
private def calledLast (w : World) : Bool :=
  w.trace.head? matches some (.started (.onWrite _ _ _) .releasing)

/-- A write of a socket that its application has closed fails while the loop is released. -/
theorem write_block_called_late : ¬ ∀ l c, Path engine l c → OnlyEnds c.world := by
  intro only
  have reached : (engine.exec (connectSocket ++ [.call (.tcpSendData 0 ⟨[.string [65]], some 7⟩ {}),
      .call (.tcpClose 0), .finish, .proceed, .raise .range, .proceed, .proceed, .proceed,
      .event (.write 0 (some 2))])).any (fun c => calledLast c.world) = true := by
    decide +kernel
  obtain ⟨l, c, path, last⟩ := exists_path_of_exec engine _ _ reached
  unfold calledLast at last
  split at last
  · rename_i seen
    exact only l c path _ (List.mem_of_mem_head? seen)
  · cases last

/-- A connected socket is told of the release of the loop, and only it. -/
theorem only_ends_iff_disconnected : ∃ l c, Path engine l c ∧
    (c.world.trace.head? matches some (.started (.onDisconnected 0 none) .releasing)) = true ∧
    (Always (fun c => OnlyEnds c.world) l c ↔ Each (fun c a => ¬ CallsLate c a) l) := by
  have reached : (engine.exec (connectSocket ++ [.call .stop, .finish, .proceed, .proceed,
      .event .idle, .proceed, .proceed])).any (fun c => c.world.trace.head? matches
        some (.started (.onDisconnected 0 none) .releasing)) = true := by
    decide +kernel
  obtain ⟨l, c, path, last⟩ := exists_path_of_exec engine _ _ reached
  exact ⟨l, c, path, last, only_ends_iff path⟩

/-- The step makes no UDPSocket, and no TCPSocket on an address in brackets. -/
def takesPlain (c : Config) : Action → Bool
  | .call (.udpNew _ _) => false
  | .call (.tcpNew args _) =>
    match Tcp.newArgs c.world.status args with
    | .ok p => decide (p.ipType ≠ .ipv6Reference)
    | .error _ => true
  | _ => true

theorem not_takesReference {c : Config} {a : Action} (plain : takesPlain c a = true) :
    ¬ TakesReference c a := by
  intro takes
  unfold TakesReference at takes
  split at takes
  · cases plain
  · obtain ⟨-, p, accepted, reference⟩ := takes
    rw [takesPlain, accepted] at plain
    exact of_decide_eq_true plain reference
  · exact takes

/-- A connected socket is still open when `AE.stop` is called, and then its loop ends. -/
theorem released_at_return_stopped : ∃ l c c', Path engine l c ∧ (c', .uvReturn) ∈ l ∧
    c'.world.tcps.length = 1 ∧ Released c'.world := by
  have reached : ((engine.only takesPlain).exec (connectSocket ++ [.call .stop, .finish, .proceed,
      .proceed, .event .idle, .proceed, .proceed, .finish, .proceed, .proceed, .proceed, .proceed,
      .proceed, .proceed, .proceed])).any (fun c =>
        decide (c.world.tcps.length = 1) && (engine.step c .uvReturn).isSome) = true := by
    decide +kernel
  obtain ⟨l, c', path, returns⟩ := exists_path_of_exec (engine.only takesPlain) _ _ reached
  obtain ⟨one, returns⟩ := (Bool.and_eq_true _ _).mp returns
  obtain ⟨c, move⟩ := Option.isSome_iff_exists.mp returns
  obtain ⟨path, plain⟩ := path_of_only path
  have last : (c', .uvReturn) ∈ l ++ [(c', .uvReturn)] := by simp
  have steps : Each (fun c a => ¬ TakesReference c a) (l ++ [(c', .uvReturn)]) :=
    each_snoc.mpr ⟨fun p here => not_takesReference (plain p here), id⟩
  exact ⟨_, c, c', path.next move, last, of_decide_eq_true one,
    (released_at_return (path.next move) steps).1 c' last⟩

end AsyncEngine.Engine.Release
