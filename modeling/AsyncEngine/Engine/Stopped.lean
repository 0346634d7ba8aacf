/- What is left of a loop: when `uv_run` has returned libuv has no request, and from then on until
   the next `AE.run` nothing is open, no proc is stored and no request is made. -/

import AsyncEngine.Engine.Outstanding
import AsyncEngine.Engine.Release

set_option autoImplicit false
set_option relaxedAutoImplicit false

namespace AsyncEngine.Engine.Stopped

open AsyncEngine.Lib.Run
open AsyncEngine.Engine.Ruby
open AsyncEngine.Engine.State
open AsyncEngine.Engine.Machine
open AsyncEngine.Engine.Effects
open AsyncEngine.Engine.Steps
open AsyncEngine.Engine.Loop
open AsyncEngine.Engine.Release
open AsyncEngine.Engine.Outstanding

/-- `uv_run` has returned, and the interrupt checks follow. -/
def Late : Ctl → Prop
  | .leaving => True
  | .code base _ => base = .ints false
  | .back _ base _ => base = .ints false
  | _ => False

/-- Once a loop has ended, and until the next one starts. -/
structure StoppedInv (c : Config) : Prop where
  release : ReleaseInv c
  late : Late c.ctl → c.world.fault = none →
    c.world.status = .releasing ∧ noActiveReqs c.world = true ∧ stackOf c.ctl = []
  closed : c.world.status = .stopped → ∀ key, ¬ Open c.world key
  procs : c.world.status = .stopped → c.world.procs = []
  reqs : c.world.status = .stopped → outstanding c.world = 0

variable {c c' : Config} {a : Action}

theorem shut_of_closed (inv : ReleaseInv c) (idle : c.world.status ≠ .running)
    (closed : ∀ key, ¬ Open c.world key) : Shut c.world := by
  refine ⟨idle, fun u mem => ?_, fun t mem => ?_⟩
  · cases opened : u.uvHandle with
    | false => rfl
    | true =>
      obtain ⟨n, found⟩ := List.mem_iff_getElem?.mp mem
      exact absurd ((inv.handles.udps.table.stored_iff n).mpr ⟨u, found, opened⟩)
        (closed (.udp n))
  · cases opened : t.uvHandle with
    | false => rfl
    | true =>
      obtain ⟨n, socket⟩ := List.mem_iff_getElem?.mp mem
      have stored := ((inv.tcps n).known t socket).opened opened
      exact absurd ⟨stored, t, socket, opened⟩ (closed (.tcp n))

/-- Once `ae_release_loop` has come to its end, everything is shut. -/
theorem shut_of_drained (inv : ReleaseInv c) (releasing : c.world.status = .releasing)
    (drained : ¬ Draining (stackOf c.ctl)) : Shut c.world :=
  shut_of_closed inv (by simp [releasing]) (inv.closed releasing drained)

private theorem late_step (inv : ReleaseInv c) (h : engine.step c a = some c')
    (late : Late c.ctl → c.world.fault = none →
      c.world.status = .releasing ∧ noActiveReqs c.world = true ∧ stackOf c.ctl = []) :
    Late c'.ctl → c'.world.fault = none →
      c'.world.status = .releasing ∧ noActiveReqs c'.world = true ∧ stackOf c'.ctl = [] := by
  obtain ⟨live, step⟩ := step_inv h
  -- Nothing waits for the user code of the interrupt checks.
  have bare {result : Return} {base : Base} {f : Frame} {stack stack' : List Frame} {ctl' : Ctl}
      (ctl : c.ctl = .back result base (f :: stack)) (after : At ctl' base stack')
      (here : Late ctl') : False := by
    have before : Late c.ctl := by
      rw [ctl]
      rcases after with rfl | ⟨result', rfl⟩ <;> exact here
    have empty := (late before live).2.2
    rw [ctl] at empty
    cases empty
  cases step with
  | other frame =>
    intro here _
    obtain ⟨releasing, reqs, empty⟩ := late here live
    have same : outstanding _ = outstanding c.world := outstanding_own
      (show FrameOf .queue c.world _ from frame) (by simp) (by simp) (by simp)
    rw [noActiveReqs_iff] at reqs ⊢
    exact ⟨(sameLoop_queue frame).status.trans releasing, same.trans reqs, empty⟩
  | @call base stack call w result ctl method =>
    intro here _
    have before : Late c.ctl := by
      rw [ctl]
      exact here
    obtain ⟨releasing, reqs, empty⟩ := late before live
    have shut := shut_of_drained inv releasing (not_draining empty)
    have grows := (dispatch_grows method).2 shut
    rw [noActiveReqs_iff] at reqs ⊢
    rw [ctl] at empty
    refine ⟨(sameLoop_of_frame (dispatch_frame method)).status.trans releasing, ?_, empty⟩
    show outstanding w = 0
    replace grows : outstanding w ≤ outstanding c.world := grows
    omega
  | close ctl socket opened connected method =>
    intro here _
    have before : Late c.ctl := by
      rw [ctl]
      exact here
    obtain ⟨releasing, reqs, empty⟩ := late before live
    have shut := shut_of_drained inv releasing (not_draining empty)
    rw [shut.tcps _ (List.mem_of_getElem? socket)] at opened
    cases opened
  | @runReturns base stack args uv w result ctl frame =>
    intro here _
    have before : Late c.ctl := by
      rw [ctl]
      exact here
    obtain ⟨releasing, reqs, empty⟩ := late before live
    have same : outstanding w = outstanding c.world := outstanding_own
      (show FrameOf .queue c.world w from frame) (by simp) (by simp) (by simp)
    rw [noActiveReqs_iff] at reqs ⊢
    rw [ctl] at empty
    exact ⟨(sameLoop_queue frame).status.trans releasing, same.trans reqs, empty⟩
  | runStarts ctl stopped free => exact fun here => by cases here
  | @codeEnds base stack a result ctl can =>
    intro here _
    have before : Late c.ctl := by
      rw [ctl]
      exact here
    have old := late before live
    rw [ctl] at old
    exact old
  | threadEnds ctl alone kept =>
    intro here
    replace here : Late c.ctl := here
    rw [ctl] at here
    cases here
  | fork => exact fun here _ => late here live
  | pops ctl quiet => exact fun here => (bare ctl (.inr ⟨_, rfl⟩) here).elim
  | handles ctl not_releasing => exact fun here => (bare ctl (.inl rfl) here).elim
  | releases ctl calls running on => exact fun here => (bare ctl (.inr ⟨_, rfl⟩) here).elim
  | releasesNot ctl calls on => exact fun here => (bare ctl (.inr ⟨_, rfl⟩) here).elim
  | tick ctl running => exact fun here => (bare ctl (.inl rfl) here).elim
  | skipsKey ctl deleted => exact fun here => (bare ctl (.inr ⟨_, rfl⟩) here).elim
  | destroys ctl stored method => exact fun here => (bare ctl (.inr ⟨_, rfl⟩) here).elim
  | disconnects ctl stored socket opened connected method =>
    exact fun here => (bare ctl (.inl rfl) here).elim
  | released ctl => exact fun here => (bare ctl (.inr ⟨_, rfl⟩) here).elim
  | closeReturns ctl => exact fun here => (bare ctl (.inl rfl) here).elim
  | exitProc ctl => exact fun here => (bare ctl (.inl rfl) here).elim
  | runEnds ctl => exact fun here => (bare ctl (.inl rfl) here).elim
  | loops ctl => exact fun here => by cases here
  | @intsReturn result entering ctl =>
    cases entering with
    | true => exact fun here => by cases here
    | false =>
      intro _ _
      have old := late (by rw [ctl]; rfl) live
      exact ⟨old.1, old.2.1, rfl⟩
  | @intsRaise error entering base stack callers ctl caller =>
    intro here
    obtain ⟨⟨below, alone, outer⟩, -⟩ := inv.loop.inside (by simp [ctl, Inside])
    rw [caller] at alone
    obtain ⟨rfl, rfl⟩ := Prod.mk.inj (List.cons.inj alone).1
    cases here
  | enters ctl => exact fun here => by cases here
  | interrupts entering ctl =>
    cases entering with
    | true => exact fun here => by cases here
    | false =>
      intro _ _
      have old := late (by rw [ctl]; trivial) live
      exact ⟨old.1, old.2.1, rfl⟩
  | idleBatch ctl running active => exact fun here => by cases here
  | wakes ctl sent => exact fun here => by cases here
  | asyncBatch ctl running => exact fun here => by cases here
  | uvQuiet ctl reported =>
    intro here
    replace here : Late c.ctl := here
    rw [ctl] at here
    cases here
  | uvCalls ctl reported => exact fun here => by cases here
  | uvReturns ctl handles reqs =>
    intro _ _
    have inside : Inside c.ctl := by simp [ctl, Inside]
    have releasing := releasing_of_noActiveHandles inv.loop inv.vars live inside handles
    exact ⟨releasing, reqs, rfl⟩
  | @loopEnds base stack callers ctl caller handles reqs =>
    intro here
    obtain ⟨⟨below, alone, outer⟩, -⟩ := inv.loop.inside (by simp [ctl, Inside])
    rw [caller] at alone
    obtain ⟨rfl, rfl⟩ := Prod.mk.inj (List.cons.inj alone).1
    rw [endLoop_eq handles reqs] at here
    cases here
  | aborts =>
    intro _ ok
    cases ok

private theorem shut_step (inv : ReleaseInv c) (h : engine.step c a = some c') (shut : Shut c.world)
    (procs : c.world.procs = []) (reqs : outstanding c.world = 0)
    (stopped : c'.world.status = .stopped) :
    c'.world.procs = [] ∧ outstanding c'.world = 0 := by
  obtain ⟨live, step⟩ := step_inv h
  obtain ⟨w, runs, data⟩ := step_data step
  have none : w.procs = [] := by
    refine List.eq_nil_iff_forall_not_mem.mpr fun p here => ?_
    have older := procs_frame (runs_frame runs) shut.idle shut.udps p here
    rw [procs] at older
    cases older
  have fewer : outstanding w = 0 := by
    cases runs with
    | nothing => exact reqs
    | method called =>
      have grows := (dispatch_grows called).2 shut
      omega
    | queue frame =>
      exact (outstanding_own (show FrameOf .queue c.world w from frame) (by simp) (by simp)
        (by simp)).trans reqs
    | @callback event r reported =>
      -- libuv calls back only from a loop that has not ended.
      have ctl := (queue_event_inv h).1
      have busy := inv.loop.busy (by rw [ctl]; trivial) live
      cases status_step step with
      | same status => exact absurd (status.symm.trans stopped) busy
      | starts before running => exact absurd before busy
      | releases running releasing => exact absurd running shut.idle
      | ends leaving handles reqs after =>
        rw [ctl] at leaving
        cases leaving
    | @destroy key stored => exact (destroyHandle_outstanding c.world key).trans reqs
  have same := outstanding_congr data.tcps data.tcpWrites data.udpSends data.lookups
  refine ⟨?_, same.trans fewer⟩
  rcases data.procs with kept | ⟨dropped, -⟩
  · exact kept.trans none
  · exact dropped

theorem stoppedInv_step (inv : StoppedInv c) (h : engine.step c a = some c') : StoppedInv c' := by
  have release := releaseInv_step inv.release h
  obtain ⟨live, step⟩ := step_inv h
  -- Either it was over before the step, or this step ends the loop.
  have before (stopped : c'.world.status = .stopped) : c.world.status ≠ .running ∧
      (∀ key, ¬ Open c.world key) ∧ c.world.procs = [] ∧ outstanding c.world = 0 := by
    cases status_step step with
    | same status =>
      have old := status.symm.trans stopped
      exact ⟨by simp [old], inv.closed old, inv.procs old, inv.reqs old⟩
    | starts _ running =>
      rw [stopped] at running
      cases running
    | releases _ releasing =>
      rw [stopped] at releasing
      cases releasing
    | ends ctl handles reqs _ =>
      have late := inv.late (by rw [ctl]; trivial) live
      have drained := not_draining late.2.2
      refine ⟨by simp [late.1], inv.release.closed late.1 drained, ?_, (noActiveReqs_iff _).mp reqs⟩
      exact ((inv.release.done late.1 live).resolve_left drained).1
  have after (stopped : c'.world.status = .stopped) : (∀ key, ¬ Open c'.world key) ∧
      c'.world.procs = [] ∧ outstanding c'.world = 0 := by
    obtain ⟨idle, closed, procs, reqs⟩ := before stopped
    refine ⟨fun key opened => closed key (open_step inv.release.tcps step idle key opened), ?_⟩
    exact shut_step inv.release h (shut_of_closed inv.release idle closed) procs reqs stopped
  exact ⟨release, late_step inv.release h inv.late, fun stopped => (after stopped).1,
    fun stopped => (after stopped).2.1, fun stopped => (after stopped).2.2⟩

theorem stoppedInv_init : StoppedInv engine.init := by
  refine ⟨releaseInv_init, fun late => ?_, fun _ key opened => ?_, fun _ => rfl, fun _ => rfl⟩
  · cases late
  · cases key with
    | timer n => cases opened
    | udp n => cases opened
    | tcp n => cases opened.1

theorem stoppedInv_of_path {l : List (Config × Action)} (path : Path engine l c) : StoppedInv c :=
  path.invariant stoppedInv_init fun inv move => stoppedInv_step inv move

end AsyncEngine.Engine.Stopped
