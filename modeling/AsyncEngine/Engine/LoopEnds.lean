/- The end of a loop: the release never gets stuck and never fails an assertion, what the loop still
   has to do grows only with what the application asks for, and left alone the loop comes to
   AE_STOPPED. -/

import AsyncEngine.Engine.InternalHandles
import AsyncEngine.Engine.Unwinding
import AsyncEngine.Engine.Outstanding
import AsyncEngine.Engine.TimerLife
import AsyncEngine.Engine.UdpLife
import AsyncEngine.Engine.ConnectTimeout

set_option autoImplicit false
set_option relaxedAutoImplicit false

namespace AsyncEngine.Engine.LoopEnds

open AsyncEngine.Lib.Run
open AsyncEngine.Lib.Measure
open AsyncEngine.Engine.Ruby
open AsyncEngine.Engine.State
open AsyncEngine.Engine.Machine
open AsyncEngine.Engine.Effects
open AsyncEngine.Engine.Steps
open AsyncEngine.Engine.Handles
open AsyncEngine.Engine.Loop
open AsyncEngine.Engine.TcpMoves
open AsyncEngine.Engine.Release
open AsyncEngine.Engine.RunExit
open AsyncEngine.Engine.Stopped
open AsyncEngine.Engine.InternalHandles
open AsyncEngine.Engine.Unwinding
open AsyncEngine.Engine.Outstanding

/-- The loop is being released, and control is inside it. -/
structure Releasing (c : Config) : Prop where
  inside : Inside c.ctl
  status : c.world.status = .releasing
  live : c.world.fault = none

/-- The steps of the C code, of libuv and of user code that ends; the others are calls, interrupts
and what other threads and processes do. -/
def own : Action → Bool
  | .proceed => true
  | .event _ => true
  | .uvReturn => true
  | .finish => true
  | .raise _ => true
  | _ => false

def weight : Frame → Nat
  -- For each key, `destroy` is called in `rb_protect`, and `on_disconnected` in `destroy`.
  | .release keys => 4 * keys.length + 1
  | .closing _ => 2
  | _ => 1

/-- The work of the functions that wait for each other. -/
def work : Ctl → Nat
  | .code _ stack => (stack.map weight).sum + 4
  | .back _ _ stack => (stack.map weight).sum + 3
  | .entering => 2
  | .waking => 2
  | .inUv => 1
  | .leaving => 0

/-- A bound on the steps that are left: a request that completes can call user code. -/
def left (c : Config) : Nat := 5 * outstanding c.world + work c.ctl

/-- An exception is about to leave `rb_thread_call_without_gvl`. -/
def Escaping (c : Config) : Prop := RaisesOut c .proceed

variable {c c' : Config} {a : Action}

section Invariant

structure EndInv (c : Config) : Prop where
  pointers : ∃ counts, PointersInv c counts
  fits : Fits c.ctl
  timers : ∀ t ∈ c.world.timers, TimerLife.Sound t
  udps : ∀ u ∈ c.world.udps, UdpLife.Sound c.world u
  connectTimers : ∀ t ∈ c.world.tcps, t.uvHandle = false → ∀ timer ∈ t.uvTimers, timer.closes = 1
  sends : ∀ send ∈ c.world.udpSends, send.socket < c.world.udps.length
  late : Late c.ctl → c.world.fault = none →
    c.world.status = .releasing ∧ noActiveReqs c.world = true ∧ stackOf c.ctl = []

theorem EndInv.release (inv : EndInv c) : ReleaseInv c := by
  obtain ⟨counts, pointers⟩ := inv.pointers
  exact pointers.release

private theorem noActiveHandles_of_drained (inv : EndInv c) (rel : Releasing c)
    (drained : ¬ Draining (stackOf c.ctl)) : noActiveHandles c.world = true := by
  have shut := shut_of_drained inv.release rel.status drained
  have closed := inv.release.closed rel.status drained
  rcases inv.release.done rel.status rel.live with draining | ⟨-, idle, async, ubf⟩
  · exact absurd draining drained
  · have timers : c.world.timers.all (fun t => !t.uvInited || t.uvCloses != 0) = true := by
      rw [List.all_eq_true]
      intro t mem
      have null : t.uvHandle = false := by
        cases opened : t.uvHandle with
        | false => rfl
        | true =>
          obtain ⟨n, found⟩ := List.mem_iff_getElem?.mp mem
          exact absurd ((inv.release.handles.timers.table.stored_iff n).mpr ⟨t, found, opened⟩)
            (closed (.timer n))
      have closes := (inv.timers t mem).closed null
      rw [closes]
      cases t.uvInited <;> rfl
    have udps : c.world.udps.all (fun u => !u.uvInited || u.uvCloses != 0) = true := by
      rw [List.all_eq_true]
      intro u mem
      have closes := (inv.udps u mem).live rel.live (shut.udps u mem)
      rw [closes]
      cases u.uvInited <;> rfl
    have tcps : c.world.tcps.all (fun t =>
        (!t.uvInited || t.uvCloses != 0) && t.uvTimers.all (·.closes != 0)) = true := by
      rw [List.all_eq_true]
      intro t mem
      obtain ⟨n, socket⟩ := List.mem_iff_getElem?.mp mem
      have null := shut.tcps t mem
      have handle := ((inv.release.tcps n).sane t socket).handle
      rw [Bool.and_eq_true, List.all_eq_true]
      constructor
      · cases inited : t.uvInited with
        | false => rfl
        | true =>
          by_cases none : t.uvCloses = 0
          · rw [handle.mpr ⟨inited, none⟩] at null
            cases null
          · simpa using none
      · intro timer here
        rw [inv.connectTimers t mem null timer here]
        rfl
    unfold noActiveHandles
    rw [idle, async, ubf, timers, udps, tcps]
    rfl

private theorem reports_sends {w : World} {event : UvEvent} {r : World × Option Callback}
    (h : Reports w event r) : ∀ send ∈ r.1.udpSends, send ∈ w.udpSends := by
  by_cases file : fileOfEvent event = .proc
  · cases h with
    | @sent k error send u found socket may =>
      rcases uvSendCallback_cases { w with udpSends := w.udpSends.eraseIdx k } send
        (error.map .uv) with unasked | ⟨id, ⟨fault, world⟩, -⟩
      · rw [unasked]
        exact fun send here => List.mem_of_mem_eraseIdx here
      · rw [world]
        exact fun send here => List.mem_of_mem_eraseIdx here
    | @resolved k procId result found =>
      obtain ⟨fault, world⟩ := (uvGetaddrinfoCallback_completes
        { w with lookups := w.lookups.eraseIdx k } procId (result.mapError .uv)).world
      rw [world]
      exact fun send here => here
    | _ => cases file
  · rw [(untouched_own (reports_own h)).udpSends file]
    exact fun send here => here

private theorem sends_step (handles : HandlesInv c.world) (h : engine.step c a = some c')
    (sends : ∀ send ∈ c.world.udpSends, send.socket < c.world.udps.length) :
    ∀ send ∈ c'.world.udpSends, send.socket < c'.world.udps.length := by
  have longer : c.world.udps.length ≤ c'.world.udps.length := by
    by_contra shorter
    have move := UdpLife.udp_move handles h c'.world.udps.length
    have absent : c'.world.udps[c'.world.udps.length]? = none :=
      List.getElem?_eq_none (Nat.le_refl _)
    have bound : c'.world.udps.length < c.world.udps.length := by omega
    rw [absent, List.getElem?_eq_getElem bound] at move
    cases move
  have fewer {w : World} (fewer : ∀ send ∈ w.udpSends, send ∈ c.world.udpSends ∨
      send.socket < c.world.udps.length) (same : c'.world.udpSends = w.udpSends) :
      ∀ send ∈ c'.world.udpSends, send.socket < c'.world.udps.length := by
    intro send here
    rw [same] at here
    rcases fewer send here with old | new
    · exact Nat.lt_of_lt_of_le (sends send old) longer
    · exact Nat.lt_of_lt_of_le new longer
  obtain ⟨w, runs, data⟩ := step_data (step_inv h).2
  refine fewer ?_ data.udpSends
  cases runs with
  | nothing => exact fun send here => .inl here
  | method called => exact dispatch_sends called
  | queue frame =>
    rw [(untouched_own (show FrameOf .queue c.world w from frame)).udpSends (by simp)]
    exact fun send here => .inl here
  | callback reported => exact fun send here => .inl (reports_sends reported send here)
  | @destroy key stored =>
    have file : fileOfKey key ≠ .proc := by cases key <;> simp [fileOfKey]
    rw [(untouched_own (destroyHandle_own c.world key)).udpSends file]
    exact fun send here => .inl here

/-- The invariant in every state of a run. -/
theorem endInv_of_path {l : List (Config × Action)} (path : Path engine l c) : EndInv c := by
  have sends : ∀ send ∈ c.world.udpSends, send.socket < c.world.udps.length := by
    refine (path.invariant (I := fun c => ReleaseInv c ∧
      ∀ send ∈ c.world.udpSends, send.socket < c.world.udps.length) ⟨releaseInv_init, ?_⟩ ?_).2
    · intro send here
      cases here
    · intro c c' a inv move
      exact ⟨releaseInv_step inv.1 move, sends_step inv.1.handles move inv.2⟩
  refine ⟨pointersInv_of_path path, (fits_of_path path).2, ?_, ?_, ?_, sends,
    (stoppedInv_of_path path).late⟩
  · intro t mem
    obtain ⟨n, found⟩ := List.mem_iff_getElem?.mp mem
    exact (TimerLife.lifeInv_of_path (n := n) path).sound t found
  · intro u mem
    obtain ⟨n, found⟩ := List.mem_iff_getElem?.mp mem
    exact (UdpLife.udpInv_of_path (n := n) path).sound u found
  · intro t mem null
    obtain ⟨n, socket⟩ := List.mem_iff_getElem?.mp mem
    exact ConnectTimeout.connect_timers_closed path socket null

end Invariant

section Events

/-- What a callback of libuv does while the loop is released and everything is shut: it completes
one request. -/
structure Completes (w : World) (r : World × Option Callback) : Prop where
  live : r.1.fault = none
  fewer : outstanding r.1 + 1 = outstanding w

private theorem completes_send {w : World} {k : Nat} {send : UdpSend} (error : Option RubyError)
    (live : w.fault = none) (releasing : w.status = .releasing)
    (found : w.udpSends[k]? = some send) : Completes w
      (Udp.uvSendCallback { w with udpSends := w.udpSends.eraseIdx k } send error) := by
  have bound : k < w.udpSends.length := (List.getElem?_eq_some_iff.mp found).1
  have shorter := List.length_eraseIdx_of_lt bound
  unfold Udp.uvSendCallback
  split
  · refine ⟨live, ?_⟩
    simp only [outstanding, shorter]
    omega
  · dsimp only
    split
    · refine ⟨live, ?_⟩
      simp only [outstanding, aeRemoveProc, World.push, shorter]
      omega
    · rename_i other
      exact absurd releasing other

private theorem completes_lookup {w : World} {k procId : Nat}
    (result : Except RubyError (List (List UInt8))) (live : w.fault = none)
    (releasing : w.status = .releasing) (found : w.lookups[k]? = some procId) : Completes w
      (Procs.uvGetaddrinfoCallback { w with lookups := w.lookups.eraseIdx k } procId result) := by
  have bound : k < w.lookups.length := (List.getElem?_eq_some_iff.mp found).1
  have shorter := List.length_eraseIdx_of_lt bound
  unfold Procs.uvGetaddrinfoCallback
  dsimp only
  split
  · refine ⟨live, ?_⟩
    simp only [outstanding, aeRemoveProc, World.push, shorter]
    omega
  · rename_i other
    exact absurd releasing other

private theorem completes_write {w : World} {k : Nat} {write : UvWrite} {t : State.Tcp}
    (error : Option RubyError) (live : w.fault = none) (found : w.tcpWrites[k]? = some write) :
    Completes w
      (Tcp.uvWriteCallback { w with tcpWrites := w.tcpWrites.eraseIdx k } t write error) := by
  have bound : k < w.tcpWrites.length := (List.getElem?_eq_some_iff.mp found).1
  have shorter := List.length_eraseIdx_of_lt bound
  unfold Tcp.uvWriteCallback
  split
  · refine ⟨live, ?_⟩
    simp only [outstanding, shorter]
    omega
  · refine ⟨live, ?_⟩
    simp only [outstanding, World.push, shorter]
    omega

private theorem completes_connect {w : World} {n : Nat} {t : State.Tcp} (errno : Int)
    (uv : UvAnswers) (live : w.fault = none) (socket : w.tcps[n]? = some t)
    (waits : t.uvConnect = true) : Completes w (Tcp.uvConnectCallback w n t (some errno) uv) := by
  obtain ⟨uvTimers, timer, kept⟩ := cancel_keeps { t with uvConnect := false }
  unfold Tcp.uvConnectCallback
  dsimp only
  rw [kept]
  have refused (t' : State.Tcp) (same : pending t' = t.uvShutdowns) :
      outstanding (aeRemoveHandle (w.setTcp n t') (.tcp n)) + 1 = outstanding w := by
    have sums := outstanding_setTcp socket t'
    have before : pending t = 1 + t.uvShutdowns := by rw [pending, if_pos waits]
    show outstanding (w.setTcp n t') + 1 = outstanding w
    omega
  refine ⟨live, refused _ ?_⟩
  split
  · exact Nat.zero_add _
  · exact Nat.zero_add _

private theorem completes_shutdown {w : World} {n : Nat} {t : State.Tcp} (live : w.fault = none)
    (socket : w.tcps[n]? = some t) (waits : t.uvShutdowns ≠ 0) (null : t.uvHandle = false) :
    Completes w (Tcp.uvShutdownCallback w n { t with uvShutdowns := t.uvShutdowns - 1 }) := by
  unfold Tcp.uvShutdownCallback
  rw [if_neg (by simp [null])]
  refine ⟨live, ?_⟩
  have sums := outstanding_setTcp socket { t with uvShutdowns := t.uvShutdowns - 1 }
  show outstanding (w.setTcp n _) + 1 = outstanding w
  simp only [pending] at sums
  omega

/-- Once everything is shut, libuv reports nothing but the end of requests. -/
private theorem late_event (inv : EndInv c) (rel : Releasing c) (ctl : c.ctl = .inUv)
    {event : UvEvent} {r : World × Option Callback} (h : Reports c.world event r) :
    Completes c.world r := by
  have drained := not_draining (c := c) (by rw [ctl]; rfl)
  have shut := shut_of_drained inv.release rel.status drained
  have closed := inv.release.closed rel.status drained
  cases h with
  | ubf sent =>
    rcases inv.release.done rel.status rel.live with draining | ⟨-, -, -, ubf⟩
    · exact absurd draining drained
    · rw [ubf] at sent
      cases sent
  | @timer n t found active =>
    have opened := inv.release.handles.timers.idle t (List.mem_of_getElem? found) active
    have stored := (inv.release.handles.timers.table.stored_iff n).mpr ⟨t, found, opened⟩
    exact absurd stored (closed (.timer n))
  | @recv n u received found receiving =>
    have mem := List.mem_of_getElem? found
    have opened := inv.release.handles.udps.idle u mem receiving
    rw [shut.udps u mem] at opened
    cases opened
  | sent found socket may => exact completes_send _ rel.live rel.status found
  | resolved found => exact completes_lookup _ rel.live rel.status found
  | @connect n error uv t socket waits may =>
    cases error with
    | none =>
      have sane := (inv.release.tcps n).sane t socket
      have unclosed : t.uvCloses = 0 := by simpa [mayEnd] using may
      have opened := sane.handle.mpr ⟨(sane.pending waits).2, unclosed⟩
      rw [shut.tcps t (List.mem_of_getElem? socket)] at opened
      cases opened
    | some errno => exact completes_connect errno uv rel.live socket waits
  | @read n read uv t socket reading =>
    have opened := (((inv.release.tcps n).sane t socket).reading reading).1
    rw [shut.tcps t (List.mem_of_getElem? socket)] at opened
    cases opened
  | write found socket may => exact completes_write _ rel.live found
  | shutdown socket waits may =>
    exact completes_shutdown rel.live socket waits (shut.tcps _ (List.mem_of_getElem? socket))
  | @connectTimeout n k t timer socket fired active =>
    have sane := (inv.release.tcps n).sane t socket
    have set : t.timerConnectTimeout ≠ none := by
      rw [sane.active k timer fired active]
      simp
    have opened := (sane.timer set).1
    rw [shut.tcps t (List.mem_of_getElem? socket)] at opened
    cases opened

end Events

section Frames

/-- A frame goes on in the release: it leaves less to do, and stays where it stands. -/
structure Descends (w : World) (base : Base) (before : Nat) (r : World × Ctl) : Prop where
  live : r.1.fault = none
  status : r.1.status = .releasing
  same : outstanding r.1 = outstanding w
  stands : ∃ stack, At r.2 base stack
  less : work r.2 < before
  calm : ∀ error, r.2 ≠ .back (.raised error) base []

theorem destroyHandle_live {w : World} (inv : HandlesInv w) (key : Handle) :
    (destroyHandle w key).1.fault = w.fault := by
  cases key with
  | timer n =>
    unfold destroyHandle
    dsimp only
    split
    · rename_i t found
      apply checked_cases (P := fun r => r.1.fault = w.fault)
      · exact fun _ _ => rfl
      · intro _ passed
        have opened := open_of_check passed
        have key := (inv.timers.table.good n t found opened).1
        dsimp only
        unfold Timer.closeHandle
        rw [if_pos opened, key]
        rfl
    · rfl
  | udp n =>
    unfold destroyHandle
    dsimp only
    split
    · rename_i u found
      apply checked_cases (P := fun r => r.1.fault = w.fault)
      · exact fun _ _ => rfl
      · intro _ passed
        have opened := open_of_check passed
        have key := (inv.udps.table.good n u found opened).1
        dsimp only
        unfold Udp.closeHandle
        rw [if_pos opened, key]
        rfl
    · rfl
  | tcp n =>
    unfold destroyHandle
    dsimp only
    split
    · apply checked_cases (P := fun r => r.1.fault = w.fault)
      · exact fun _ _ => rfl
      · intro _ _
        dsimp only
        split
        · rfl
        · rfl
    · rfl

private theorem descends_back {w w' : World} {base : Base} {frame : Frame} {stack : List Frame}
    {result result' : Return} (live : w'.fault = none) (status : w'.status = .releasing)
    (same : outstanding w' = outstanding w)
    (calm : ∀ error, Ctl.back result' base stack ≠ .back (.raised error) base []) :
    Descends w base (work (.back result base (frame :: stack))) (w', .back result' base stack) := by
  refine ⟨live, status, same, ⟨stack, .inr ⟨_, rfl⟩⟩, ?_, calm⟩
  have some : 0 < weight frame := by cases frame <;> simp [weight]
  simp only [work, List.map_cons, List.sum_cons]
  omega

private theorem releaseLoop_releasing {w : World} (releasing : w.status = .releasing) (base : Base)
    (stack : List Frame) : aeReleaseLoop w base stack = (w, .back (.value .nil) base stack) := by
  unfold aeReleaseLoop
  rw [releasing]

private theorem release_descends {w : World} (handles : HandlesInv w) (live : w.fault = none)
    (releasing : w.status = .releasing) (base : Base) (keys : List Handle) (stack : List Frame)
    (loaded : keys = [] → AllLoaded w) :
    Descends w base (work (.back (.value .nil) base (.release keys :: stack)))
      (releaseNext w keys base stack) := by
  cases keys with
  | nil =>
    obtain ⟨idle, async, ubf⟩ := loaded rfl
    have loaded {α : Type} {o : Option α} (some : o.isSome = true) : o.isNone = false := by
      rw [← Option.not_isSome, some]
      rfl
    have closes : closeInternalHandles w = { w with
        nextTickUvIdle := none, callFromOtherThreadUvAsync := none, ubfUvAsync := none
        procs := [] } := by
      unfold closeInternalHandles
      rw [if_neg (by simp [loaded idle, loaded async, loaded ubf])]
    unfold releaseNext
    dsimp only
    rw [closes]
    exact descends_back live releasing rfl (by simp)
  | cons key keys =>
    have fault := destroyHandle_live handles key
    have same := destroyHandle_outstanding w key
    have status := (sameLoop_of_frame (fileFrame_quiet (destroyHandle_frame w key))).status
    unfold releaseNext
    dsimp only
    split
    · split
      · rename_i w' result method
        rw [method] at fault same status
        refine ⟨fault.trans live, status.trans releasing, same, ⟨_, .inr ⟨_, rfl⟩⟩, ?_, by simp⟩
        simp only [work, weight, List.map_cons, List.sum_cons, List.length_cons]
        omega
      · rename_i w' callback frame method
        obtain ⟨n, t, -, -, -, -, -, -, rfl⟩ := destroyHandle_calls method
        rw [method] at fault same status
        refine ⟨fault.trans live, status.trans releasing, same, ⟨_, .inl rfl⟩, ?_, by simp⟩
        simp only [work, weight, List.map_cons, List.sum_cons, List.length_cons]
        omega
    · refine ⟨live, releasing, rfl, ⟨_, .inr ⟨_, rfl⟩⟩, ?_, by simp⟩
      simp only [work, weight, List.map_cons, List.sum_cons, List.length_cons]
      omega

private theorem resume_descends (inv : EndInv c) (rel : Releasing c) {result : Return}
    {base : Base} {frame : Frame} {stack : List Frame}
    (ctl : c.ctl = .back result base (frame :: stack)) :
    Descends c.world base (work c.ctl) (resume c.world result frame base stack) := by
  have inner := (inv.release.loop.inside rel.inside).2 frame
  rw [ctl] at inner
  have inner : Inner frame := inner (.head _)
  have fits := inv.fits
  rw [ctl] at fits ⊢
  -- The function below is told of a value.
  have pops {w : World} {v : Value} (live : w.fault = none) (status : w.status = .releasing)
      (same : outstanding w = outstanding c.world) : Descends c.world base
        (work (.back result base (frame :: stack))) (w, .back (.value v) base stack) :=
    descends_back live status same (by simp)
  cases frame with
  | protect =>
    cases result with
    | value v => exact pops rel.live rel.status rfl
    | raised error =>
      unfold resume
      dsimp only
      rw [if_pos rel.status]
      exact pops rel.live rel.status rfl
  | batch o procs =>
    unfold resume batchNext
    dsimp only
    split
    · exact pops rel.live rel.status rfl
    · rw [if_pos (by simp [rel.status])]
      exact pops rel.live rel.status rfl
  | handleError =>
    cases result with
    | value v => exact pops rel.live rel.status rfl
    | raised error =>
      unfold resume
      dsimp only
      rw [releaseLoop_releasing (w := { c.world with exitError := some error }) rel.status]
      exact pops rel.live rel.status rfl
  | release keys =>
    unfold resume
    dsimp only
    refine release_descends inv.release.handles rel.live rel.status base keys stack ?_
    rintro rfl
    obtain ⟨counts, pointers⟩ := inv.pointers
    exact (closes_all pointers rel.live ctl).1
  | destroying n =>
    cases result with
    | value v => exact pops rel.live rel.status rfl
    | raised error =>
      refine descends_back rel.live rel.status rfl ?_
      intro error' same
      obtain rfl := (Ctl.back.inj same).2.2
      exact fits.1.elim
  | closing n =>
    have code {w : World} (live : w.fault = none) (status : w.status = .releasing)
        (same : outstanding w = outstanding c.world) : Descends c.world base
          (work (.back result base (.closing n :: stack))) (w, .code base stack) := by
      refine ⟨live, status, same, ⟨stack, .inl rfl⟩, ?_, by simp⟩
      simp only [work, weight, List.map_cons, List.sum_cons]
      omega
    cases result with
    | value v => exact code rel.live rel.status rfl
    | raised error => exact code rel.live rel.status rfl
  | onExit procs error => exact inner.elim

end Frames

section Steps

/-- How a step of its own leaves a loop that is released. -/
inductive Leaves (c : Config) (a : Action) (c' : Config) : Prop
  | goesOn (rel : Releasing c') (less : left c' < left c)
      (calm : Escaping c' → ∃ error, a = .raise error) : Leaves c a c'
  | stops (status : c'.world.status = .stopped) : Leaves c a c'
  | escapes (raises : RaisesOut c a) (out : ¬ Inside c'.ctl) : Leaves c a c'

private theorem not_escaping {ctl : Ctl} (h : c.ctl = ctl)
    (other : ∀ error entering, ctl ≠ .back (.raised error) (.ints entering) []) : ¬ Escaping c := by
  rintro ⟨error, entering, raises⟩
  exact other error entering (h.symm.trans raises)

private theorem ends_inv {result : Return} (ends : a = .finish ∧ result = .value .nil ∨
      ∃ error, a = .raise error ∧ result = .raised error) (h : engine.step c a = some c') :
    ∃ base stack, c.ctl = .code base stack ∧ c' = { c with ctl := .back result base stack } := by
  replace h : step c a = some c' := h
  unfold step at h
  split at h
  · cases h
  · cases ctl : c.ctl with
    | code base stack =>
      rw [ctl] at h
      refine ⟨base, stack, rfl, ?_⟩
      rcases ends with ⟨rfl, rfl⟩ | ⟨error, rfl, rfl⟩ <;>
        (unfold stepCode at h
         dsimp only at h
         split at h
         · exact (Option.some.inj h).symm
         · cases h)
    | _ =>
      rw [ctl] at h
      rcases ends with ⟨rfl, rfl⟩ | ⟨error, rfl, rfl⟩ <;> cases h

private theorem return_runs (h : engine.step c .uvReturn = some c') :
    c.ctl = .inUv ∧ c' = { c with ctl := .leaving } := by
  obtain ⟨ctl, -, -⟩ := return_inv h
  refine ⟨ctl, ?_⟩
  replace h : step c .uvReturn = some c' := h
  unfold step at h
  rw [ctl] at h
  split at h
  · cases h
  · dsimp only at h
    split at h
    · exact (Option.some.inj h).symm
    · cases h

/-- The loop has ended: nothing is left of it in libuv. -/
theorem quiet_leaving (inv : EndInv c) (rel : Releasing c) (ctl : c.ctl = .leaving) :
    noActiveHandles c.world = true ∧ noActiveReqs c.world = true := by
  have old := inv.late (by rw [ctl]; trivial) rel.live
  exact ⟨noActiveHandles_of_drained inv rel (not_draining old.2.2), old.2.1⟩

private theorem proceed_leaves (inv : EndInv c) (rel : Releasing c)
    (h : engine.step c .proceed = some c') : c'.world.fault = none ∧ Leaves c .proceed c' := by
  -- Control goes on in a place with less work, and the world stays as it is.
  have moves {ctl : Ctl} (inside : Inside ctl) (less : work ctl < work c.ctl)
      (other : ∀ error entering, ctl ≠ .back (.raised error) (.ints entering) []) :
      ({ c with ctl := ctl } : Config).world.fault = none ∧
        Leaves c .proceed { c with ctl := ctl } := by
    refine ⟨rel.live, .goesOn ⟨inside, rel.status, rel.live⟩ ?_ ?_⟩
    · exact Nat.add_lt_add_left less _
    · exact fun escaping => absurd escaping (not_escaping rfl other)
  cases proceed_inv h with
  | @frame result base frame stack ctl =>
    have descends := resume_descends inv rel ctl
    have inside : base ≠ .outside := by
      have here := rel.inside
      rw [ctl] at here
      exact here
    refine ⟨descends.live, .goesOn ⟨?_, descends.status, descends.live⟩ ?_ ?_⟩
    · obtain ⟨stack', stands⟩ := descends.stands
      exact stands.inside.mpr inside
    · have less := descends.less
      have same := descends.same
      unfold left
      dsimp only
      omega
    · rintro ⟨error, entering, raises⟩
      have calm := descends.calm error
      obtain ⟨stack', stands⟩ := descends.stands
      replace raises : (resume c.world result frame base stack).2 =
        .back (.raised error) (.ints entering) [] := raises
      rw [raises] at stands calm
      rcases stands with other | ⟨result', same⟩
      · cases other
      · obtain ⟨-, rfl, -⟩ := Ctl.back.inj same
        exact absurd rfl calm
  | loops ctl => exact moves trivial (by rw [ctl]; simp [work]) (by simp)
  | @intsReturn v entering ctl =>
    cases entering with
    | true => exact moves trivial (by rw [ctl]; simp [work]) (by simp)
    | false => exact moves trivial (by rw [ctl]; simp [work]) (by simp)
  | intsRaise ctl caller =>
    obtain ⟨⟨below, alone, -⟩, -⟩ := inv.release.loop.inside rel.inside
    rw [caller] at alone
    obtain ⟨rfl, rfl⟩ := Prod.mk.inj (List.cons.inj alone).1
    exact ⟨rel.live, .escapes ⟨_, _, ctl⟩ fun inside => inside rfl⟩
  | enters ctl => exact moves trivial (by rw [ctl]; simp [work]) (by simp)
  | takes ctl =>
    obtain ⟨counts, pointers⟩ := inv.pointers
    have running := pointers.waking ctl rel.live
    rw [rel.status] at running
    cases running
  | ends ctl caller =>
    obtain ⟨handles, reqs⟩ := quiet_leaving inv rel ctl
    rw [endLoop_eq handles reqs]
    exact ⟨rel.live, .stops rfl⟩

private theorem event_leaves (inv : EndInv c) (rel : Releasing c) {event : UvEvent}
    (h : engine.step c (.event event) = some c') :
    c'.world.fault = none ∧ Leaves c (.event event) c' := by
  obtain ⟨ctl, runs⟩ := queue_event_inv h
  have done := (inv.release.done rel.status rel.live).resolve_left (not_draining (by rw [ctl]; rfl))
  by_cases queue : event = .idle ∨ event = .callFromOtherThread
  · -- The internal handles are closed.
    rcases queue with rfl | rfl
    · have absent : c.world.nextTickUvIdle ≠ some true := by simp [done.2.1]
      unfold stepEvent at runs
      dsimp only at runs
      rw [if_neg absent] at runs
      cases runs
    · have absent : c.world.callFromOtherThreadUvAsync ≠ some true := by simp [done.2.2.1]
      unfold stepEvent at runs
      dsimp only at runs
      rw [if_neg absent] at runs
      cases runs
  · obtain ⟨idle, async⟩ := not_or.mp queue
    obtain ⟨r, -, reported, rfl⟩ := event_inv h idle async
    have completes := late_event inv rel ctl reported
    have status := (sameLoop_of_frame (reports_frame reported)).status.trans rel.status
    have live := completes.live
    have fewer := completes.fewer
    obtain ⟨w, callback⟩ := r
    dsimp only at fewer
    cases callback with
    | none =>
      refine ⟨live, .goesOn ⟨rel.inside, status, live⟩ ?_ ?_⟩
      · show 5 * outstanding w + work c.ctl < 5 * outstanding c.world + work c.ctl
        omega
      · exact fun escaping => absurd escaping (not_escaping (show _ = Ctl.inUv from ctl) (by simp))
    | some callback =>
      have runs : takeGvl c (w, some callback) =
          { c with world := w.start callback, ctl := .code .loop [.protect] } := by
        unfold takeGvl
        dsimp only at status ⊢
        rw [if_neg (by simp [status])]
      rw [runs]
      refine ⟨live, .goesOn ⟨by simp [Inside], status, live⟩ ?_ ?_⟩
      · show 5 * outstanding w + 5 < 5 * outstanding c.world + work c.ctl
        rw [ctl]
        simp only [work]
        omega
      · exact fun escaping => absurd escaping (not_escaping rfl (by simp))

/-- A step of its own never fails an assertion, and leaves a loop that is released with less to do;
or the loop ends, or an exception of the interrupt checks leaves it. -/
theorem own_leaves (inv : EndInv c) (rel : Releasing c) (h : engine.step c a = some c')
    (mine : own a = true) : c'.world.fault = none ∧ Leaves c a c' := by
  have ends {result : Return} (ends : a = .finish ∧ result = .value .nil ∨
      ∃ error, a = .raise error ∧ result = .raised error) :
      c'.world.fault = none ∧ Leaves c a c' := by
    obtain ⟨base, stack, ctl, rfl⟩ := ends_inv ends h
    have inside := rel.inside
    rw [ctl] at inside
    refine ⟨rel.live, .goesOn ⟨inside, rel.status, rel.live⟩ ?_ ?_⟩
    · unfold left
      rw [ctl]
      simp only [work]
      omega
    · rintro ⟨error, entering, raises⟩
      rcases ends with ⟨rfl, rfl⟩ | ⟨error', rfl, rfl⟩
      · cases raises
      · exact ⟨error', rfl⟩
  cases a with
  | proceed => exact proceed_leaves inv rel h
  | event event => exact event_leaves inv rel h
  | uvReturn =>
    obtain ⟨ctl, rfl⟩ := return_runs h
    refine ⟨rel.live, .goesOn ⟨trivial, rel.status, rel.live⟩ ?_ ?_⟩
    · unfold left
      rw [ctl]
      simp only [work]
      omega
    · exact fun escaping => absurd escaping (not_escaping rfl (by simp))
  | finish => exact ends (.inl ⟨rfl, rfl⟩)
  | raise error => exact ends (.inr ⟨error, rfl, rfl⟩)
  | _ => cases mine

private theorem others_raise (rel : Releasing c) (rel' : Releasing c')
    (h : engine.step c a = some c') (theirs : own a = false) : left c' ≤ left c + 5 := by
  have step := (step_inv h).2
  unfold left
  cases step with
  | @other thread call w frame =>
    have same : outstanding w = outstanding c.world := outstanding_own
      (show FrameOf .queue c.world w from frame) (by simp) (by simp) (by simp)
    dsimp only
    omega
  | @call base stack call w result ctl method =>
    have grows : outstanding w ≤ outstanding c.world + 1 := (dispatch_grows method).1
    rw [ctl]
    show 5 * outstanding w + work (.code base stack) ≤ _
    omega
  | @close base stack n t ctl socket opened connected method =>
    have same : outstanding (closedSocket c.world n t) = outstanding c.world :=
      outstanding_kept socket (pending_closed t)
    rw [ctl]
    show 5 * outstanding (closedSocket c.world n t) + work (.code base (.closing n :: stack)) ≤ _
    simp only [work, weight, List.map_cons, List.sum_cons]
    omega
  | @runReturns base stack args uv w result ctl frame =>
    have same : outstanding w = outstanding c.world := outstanding_own
      (show FrameOf .queue c.world w from frame) (by simp) (by simp) (by simp)
    rw [ctl]
    show 5 * outstanding w + work (.code base stack) ≤ _
    omega
  | runStarts ctl stopped free =>
    have releasing := rel.status
    rw [stopped] at releasing
    cases releasing
  | codeEnds ctl can =>
    rw [ctl]
    simp only [work]
    omega
  | threadEnds ctl alone kept => exact Nat.le_add_right _ _
  | fork => exact Nat.le_add_right _ _
  | interrupts entering ctl =>
    rw [ctl]
    cases entering <;> simp [work]
  | aborts => cases rel'.live
  | _ => cases theirs

private theorem request_fails (inv : EndInv c) (reqs : noActiveReqs c.world ≠ true) :
    ∃ event, (uvCallback c.world event).isSome = true := by
  have may (closes : Nat) : mayEnd closes (some (1 : Int)) = true := by simp [mayEnd]
  by_cases writes : c.world.tcpWrites = []
  · by_cases sends : c.world.udpSends = []
    · by_cases lookups : c.world.lookups = []
      · have waits : ∃ t ∈ c.world.tcps, ¬ (!t.uvConnect && t.uvShutdowns == 0) = true := by
          by_contra none
          push Not at none
          apply reqs
          unfold noActiveReqs
          rw [writes, sends, lookups, Bool.and_eq_true, List.all_eq_true]
          exact ⟨rfl, none⟩
        obtain ⟨t, mem, waits⟩ := waits
        obtain ⟨n, socket⟩ := List.mem_iff_getElem?.mp mem
        cases connect : t.uvConnect with
        | true =>
          refine ⟨.connect n (some 1) {}, ?_⟩
          simp [uvCallback, socket, connect, may]
        | false =>
          have shutdown : t.uvShutdowns ≠ 0 := by simpa [connect] using waits
          refine ⟨.shutdown n (some 1), ?_⟩
          simp [uvCallback, socket, shutdown, may]
      · obtain ⟨procId, rest, held⟩ := List.exists_cons_of_ne_nil lookups
        refine ⟨.resolved 0 (.error 1), ?_⟩
        simp [uvCallback, held]
    · obtain ⟨send, rest, held⟩ := List.exists_cons_of_ne_nil sends
      have bound := inv.sends send (by rw [held]; exact .head _)
      refine ⟨.sent 0 (some 1), ?_⟩
      simp [uvCallback, held, bound, may]
  · obtain ⟨write, rest, held⟩ := List.exists_cons_of_ne_nil writes
    cases socket : c.world.tcps[write.socket]? with
    | none =>
      have none := ((inv.release.tcps write.socket).absent socket).2.2.1
      have here : write ∈ (view write.socket c).writes :=
        List.mem_filter.mpr ⟨by rw [held]; exact .head _, by simp⟩
      rw [none] at here
      cases here
    | some t =>
      refine ⟨.write 0 (some 1), ?_⟩
      simp [uvCallback, held, socket, may]

private theorem own_possible (inv : EndInv c) (rel : Releasing c) (calm : ¬ Escaping c) :
    ∃ a c', own a = true ∧ (∀ error, a ≠ .raise error) ∧ ¬ RaisesOut c a ∧
      engine.step c a = some c' := by
  have can {a : Action} (mine : own a = true) (quiet : ∀ error, a ≠ .raise error)
      (stays : ¬ RaisesOut c a) (enabled : (engine.step c a).isSome = true) :
      ∃ a c', own a = true ∧ (∀ error, a ≠ .raise error) ∧ ¬ RaisesOut c a ∧
        engine.step c a = some c' := by
    obtain ⟨c', move⟩ := Option.isSome_iff_exists.mp enabled
    exact ⟨a, c', mine, quiet, stays, move⟩
  have live : c.world.fault.isSome = false := by rw [rel.live]; rfl
  have proceeds (enabled : (step c .proceed).isSome = true) :
      ∃ a c', own a = true ∧ (∀ error, a ≠ .raise error) ∧ ¬ RaisesOut c a ∧
        engine.step c a = some c' :=
    can (a := .proceed) rfl (by simp) calm enabled
  cases ctl : c.ctl with
  | code base stack =>
    refine can (a := .finish) rfl (by simp) id ?_
    have fits := inv.fits
    have inside := rel.inside
    rw [ctl] at fits inside
    have ends : canEnd base stack = true := by
      cases base with
      | outside => exact absurd rfl inside
      | ints entering => rfl
      | loop =>
        cases stack with
        | nil => exact absurd rfl fits
        | cons frame stack => rfl
    show (step c .finish).isSome = true
    unfold step
    rw [live, ctl]
    simp [stepCode, ends]
  | back result base stack =>
    apply proceeds
    unfold step
    rw [live, ctl]
    cases stack with
    | cons frame stack => simp [stepBack]
    | nil =>
      have inside := rel.inside
      rw [ctl] at inside
      cases base with
      | outside => exact absurd rfl inside
      | loop => simp [stepBack]
      | ints entering =>
        cases result with
        | value v => cases entering <;> simp [stepBack]
        | raised error => exact absurd ⟨error, entering, ctl⟩ calm
  | entering =>
    apply proceeds
    unfold step
    rw [live, ctl]
    rfl
  | waking =>
    obtain ⟨counts, pointers⟩ := inv.pointers
    have running := pointers.waking ctl rel.live
    rw [rel.status] at running
    cases running
  | leaving =>
    obtain ⟨⟨below, alone, -⟩, -⟩ := inv.release.loop.inside rel.inside
    apply proceeds
    unfold step
    rw [live, ctl, alone]
    rfl
  | inUv =>
    have drained := not_draining (c := c) (by rw [ctl]; rfl)
    have handles := noActiveHandles_of_drained inv rel drained
    by_cases reqs : noActiveReqs c.world = true
    · refine can (a := .uvReturn) rfl (by simp) id ?_
      show (step c .uvReturn).isSome = true
      unfold step
      rw [live, ctl]
      simp [handles, reqs]
    · -- One of the requests that are outstanding fails.
      obtain ⟨event, reported⟩ := request_fails inv reqs
      refine can (a := .event event) rfl (by simp) id ?_
      show (step c (.event event)).isSome = true
      unfold step
      rw [live, ctl]
      show (stepEvent c event).isSome = true
      cases event with
      | idle => cases reported
      | callFromOtherThread => cases reported
      | _ =>
        show ((uvCallback c.world _).map (takeGvl c)).isSome = true
        rw [Option.isSome_map]
        exact reported

end Steps

/-- In every run, the steps that the engine, libuv and returning user code take while the loop is
released fail no assertion, and each of them leaves less to do, ends the loop, or is an exception of
the interrupt checks that leaves it; so there are only as many as the requests and frames were at
the start, and five more for each call, interrupt or step of another thread in between. -/
theorem release_terminates {l : List (Config × Action)} (path : Path engine l c)
    {as : List Action} (segment : Segment engine Releasing c as c') :
    steps own as ≤ left c + 5 * others own as + 1 ∧
      ∀ a c'', Releasing c' → own a = true → engine.step c' a = some c'' →
        c''.world.fault = none ∧ Leaves c' a c'' := by
  have reachable : ∀ {s t : Config} {a : Action}, (∃ l, Path engine l s) →
      engine.step s a = some t → ∃ l, Path engine l t := by
    rintro s t a ⟨l, path⟩ move
    exact ⟨_, path.next move⟩
  constructor
  · refine segment.bounded (I := fun c => ∃ l, Path engine l c) ⟨l, path⟩ reachable ?_ ?_
    · rintro s t a ⟨l, path⟩ here still move mine
      cases (own_leaves (endInv_of_path path) here move mine).2 with
      | goesOn rel less calm => exact less
      | stops status =>
        have releasing := still.status
        rw [status] at releasing
        cases releasing
      | escapes raises out => exact absurd still.inside out
    · rintro s t a - here still move theirs
      exact others_raise here still move theirs
  · intro a c'' here mine move
    obtain ⟨more, path, -⟩ := segment.path path
    exact own_leaves (endInv_of_path path) here move mine

/-- User code of a callback runs while the loop is released. -/
private def runsCode (c : Config) : Bool :=
  match c.ctl with
  | .code .loop _ => decide (c.world.status = .releasing) && c.world.fault.isNone
  | _ => false

private theorem releasing_of_runsCode (runs : runsCode c = true) :
    Releasing c ∧ ¬ Escaping c := by
  unfold runsCode at runs
  split at runs
  · rename_i stack ctl
    obtain ⟨status, live⟩ := (Bool.and_eq_true _ _).mp runs
    refine ⟨⟨?_, of_decide_eq_true status, Option.isNone_iff_eq_none.mp live⟩, ?_⟩
    · rw [ctl]
      simp [Inside]
    · exact not_escaping ctl (by simp)
  · cases runs

/-- A connected socket is open when `AE.stop` is called, up to the call of its `on_disconnected`. -/
private def stopConnected : List Action :=
  connectSocket ++ [.call .stop, .finish, .proceed, .proceed, .event .idle, .proceed, .proceed]

/-- `on_disconnected` of the socket returns. -/
theorem release_terminates_disconnected : ∃ l c c', Path engine l c ∧ c.world.tcps.length = 1 ∧
    Segment engine Releasing c [.finish] c' ∧
    steps own [.finish] ≤ left c + 5 * others own [.finish] + 1 ∧
      ∀ a c'', Releasing c' → own a = true → engine.step c' a = some c'' →
        c''.world.fault = none ∧ Leaves c' a c'' := by
  have reached : (engine.exec stopConnected).any (fun c => runsCode c &&
      (decide (c.world.tcps.length = 1) && (engine.step c .finish).isSome)) = true := by
    decide +kernel
  obtain ⟨l, c, path, seen⟩ := exists_path_of_exec engine _ _ reached
  obtain ⟨runs, seen⟩ := (Bool.and_eq_true _ _).mp seen
  obtain ⟨one, returns⟩ := (Bool.and_eq_true _ _).mp seen
  obtain ⟨c', move⟩ := Option.isSome_iff_exists.mp returns
  have segment : Segment engine Releasing c ([] ++ [.finish]) c' :=
    Segment.empty.next (releasing_of_runsCode runs).1 move
  exact ⟨l, c, c', path, of_decide_eq_true one, segment, release_terminates path segment⟩

/-- Left alone by the application and by interrupts, a loop that is being released comes to
AE_STOPPED, with no assertion failed, unless an exception is already on its way out of it. This
rests on libuv to complete every `uv_shutdown` that it has accepted, also two of one socket. -/
theorem release_completes {l : List (Config × Action)} (path : Path engine l c)
    (rel : Releasing c) (calm : ¬ Escaping c) :
    ∃ as c', Segment engine Releasing c as c' ∧ (∀ a ∈ as, own a = true) ∧
      c'.world.status = .stopped ∧ c'.world.fault = none := by
  have segment : ∃ as c', Segment engine (fun c => Releasing c ∧ ¬ Escaping c) c as c' ∧
      (∀ a ∈ as, own a = true) ∧ c'.world.status = .stopped ∧ c'.world.fault = none := by
    refine exists_segment (I := fun c => ∃ l, Path engine l c) (μ := left) ⟨l, path⟩
      ⟨rel, calm⟩ ?_ ?_
    · rintro s t a ⟨l, path⟩ move
      exact ⟨_, path.next move⟩
    · rintro s ⟨l, path⟩ ⟨rel, calm⟩
      have inv := endInv_of_path path
      obtain ⟨a, t, mine, quiet, stays, move⟩ := own_possible inv rel calm
      refine ⟨a, t, mine, move, ?_⟩
      obtain ⟨live, leaves⟩ := own_leaves inv rel move mine
      cases leaves with
      | goesOn rel' less calm' =>
        right
        refine ⟨⟨rel', fun escaping => ?_⟩, less⟩
        obtain ⟨error, raises⟩ := calm' escaping
        exact quiet error raises
      | stops status => exact .inl ⟨status, live⟩
      | escapes raises out => exact absurd raises stays
  obtain ⟨as, c', segment, mine, stopped, live⟩ := segment
  exact ⟨as, c', segment.mono And.left, mine, stopped, live⟩

/-- A loop is released while `on_disconnected` of its socket runs. -/
theorem release_completes_disconnected : ∃ l c as c', Path engine l c ∧ Releasing c ∧
    c.world.tcps.length = 1 ∧ Segment engine Releasing c as c' ∧ (∀ a ∈ as, own a = true) ∧
      c'.world.status = .stopped ∧ c'.world.fault = none := by
  have reached : (engine.exec stopConnected).any (fun c => runsCode c &&
      decide (c.world.tcps.length = 1)) = true := by
    decide +kernel
  obtain ⟨l, c, path, seen⟩ := exists_path_of_exec engine _ _ reached
  obtain ⟨runs, one⟩ := (Bool.and_eq_true _ _).mp seen
  obtain ⟨rel, calm⟩ := releasing_of_runsCode runs
  obtain ⟨as, c', ends⟩ := release_completes path rel calm
  exact ⟨l, c, as, c', path, rel, of_decide_eq_true one, ends⟩

end AsyncEngine.Engine.LoopEnds
