/- Methods of a TCPSocket that fail: what they have done before the failing libuv call is undone
   before they raise. -/

import AsyncEngine.Engine.TcpMoves
import AsyncEngine.Engine.Constructors

set_option autoImplicit false
set_option relaxedAutoImplicit false

namespace AsyncEngine.Engine.TcpErrors

open AsyncEngine.Lib.Run
open AsyncEngine.Engine.Ruby
open AsyncEngine.Engine.State
open AsyncEngine.Engine.Machine
open AsyncEngine.Engine.Effects
open AsyncEngine.Engine.Steps
open AsyncEngine.Engine.TcpMoves
open AsyncEngine.Engine.Constructors (Raises raised_inv)

/-- The methods of the `n`-th TCPSocket that can raise. -/
def Fallible (n : Nat) : Call → Prop
  | .tcpSendData m _ _ => m = n
  | .tcpSetConnectTimeout m _ _ => m = n
  | .tcpCloseGracefully m _ _ => m = n
  | _ => False

/-- The world is as it was, but for timers of the socket that were closed again and for the
address of a block that was given back. -/
def Kept (n : Nat) (w w' : World) : Prop :=
  ∃ (t : State.Tcp) (left : List UvTimer) (nextAddress : Nat), w.tcps[n]? = some t ∧
    (∀ timer ∈ left, timer.active = false ∧ timer.closes = 1) ∧
    w' = { w.setTcp n { t with uvTimers := t.uvTimers ++ left } with nextAddress := nextAddress }

/-- If the step is a method of a TCPSocket that raises, then nothing has changed. -/
def RaisesUnchanged (c : Config) (a : Action) : Prop :=
  ∀ n call c', a = .call call → Fallible n call → engine.step c a = some c' →
    Raises call c'.world → ∃ w error, Kept n c.world w ∧
      c'.world = w.push (.returned call (.raised error))

/-- `close_gracefully` stops reading from a connected socket, and then `uv_shutdown` fails. -/
def StopsReading (c : Config) : Action → Prop
  | .call (.tcpCloseGracefully n args uv) => ∃ t, c.world.tcps[n]? = some t ∧
      t.uvHandle = true ∧ args.argv.length ≤ 1 ∧ t.shutdownRequested = false ∧
      t.status = .connected ∧ t.uvReading = true ∧ uv.readStop = 0 ∧ uv.shutdown ≠ 0
  | _ => False

/-- Every registered address has been used before. -/
def Used (w : World) : Prop := ∀ address ∈ w.registered, address < w.nextAddress

instance (w : World) : Decidable (Used w) :=
  inferInstanceAs (Decidable (∀ address ∈ w.registered, address < w.nextAddress))

section Used

variable {w w' : World}

private theorem used_kept {file : File} (used : Used w) (h : FrameOf file w w')
    (other : file ≠ .write) : Used w' := by
  have kept := untouched_own h
  unfold Used
  rw [kept.registered other, kept.nextAddress other]
  exact used

private theorem used_filter (used : Used w) (p : Nat → Bool)
    (registered : w'.registered = w.registered.filter p)
    (nextAddress : w'.nextAddress = w.nextAddress) : Used w' := by
  intro address here
  rw [registered] at here
  rw [nextAddress]
  exact used address (List.mem_filter.mp here).1

private theorem used_register (used : Used w)
    (registered : w'.registered = w.registered ++ [w.nextAddress])
    (nextAddress : w'.nextAddress = w.nextAddress + 1) : Used w' := by
  intro address here
  rw [registered] at here
  rw [nextAddress]
  rcases List.mem_append.mp here with old | new
  · exact Nat.lt_succ_of_lt (used address old)
  · obtain rfl := List.mem_singleton.mp new
    exact Nat.lt_succ_self _

private theorem sendData_used (used : Used w) (n : Nat) (t : State.Tcp) (args : Args)
    (uv : UvAnswers) : Used (Tcp.sendData w n t args uv).1 := by
  refine checked_cases (P := fun r => Used r.1) (fun _ _ => used) fun p _ => ?_
  cases block : p.block with
  | none =>
    dsimp only
    split
    · exact used
    · exact used
  | some proc =>
    have registers : Used { w with
        nextAddress := w.nextAddress + 1, registered := w.registered ++ [w.nextAddress] } :=
      used_register used rfl rfl
    dsimp only
    split
    · exact used_filter registers _ rfl rfl
    · exact registers

private theorem used_step {c c' : Config} {a : Action} (used : Used c.world) (h : Step c a c') :
    Used c'.world := by
  obtain ⟨w, runs, data⟩ := step_data h
  have before : Used w := by
    cases runs with
    | nothing => exact used
    | @method call r called =>
      by_cases file : fileOf call = .write
      · cases call with
        | tcpSendData n args uv =>
          obtain ⟨t, -, rfl⟩ := Option.map_eq_some_iff.mp called
          exact sendData_used used n t args uv
        | _ => cases file
      · exact used_kept used (dispatch_own called) file
    | queue frame =>
      exact used_kept used (show FrameOf .queue c.world w from frame) (by simp)
    | @callback event r reported =>
      by_cases file : fileOfEvent event = .write
      · cases reported with
        | @write k error write t found socket may =>
          unfold Tcp.uvWriteCallback
          split
          · exact used
          · exact used_filter used _ rfl rfl
        | _ => cases file
      · exact used_kept used (reports_own reported) file
    | @destroy key stored =>
      refine used_kept used (destroyHandle_own c.world key) ?_
      cases key <;> simp [fileOfKey]
  unfold Used
  rw [data.registered, data.nextAddress]
  exact before

end Used

section Methods

variable {w w' : World} {n : Nat} {t : State.Tcp} {args : Args} {uv : UvAnswers}
  {error : RubyError}

private theorem setTcp_self (found : w.tcps[n]? = some t) : w.setTcp n t = w := by
  obtain ⟨bound, rfl⟩ := List.getElem?_eq_some_iff.mp found
  unfold World.setTcp
  rw [List.set_getElem_self]

private theorem kept_refl (found : w.tcps[n]? = some t) : Kept n w w := by
  refine ⟨t, [], w.nextAddress, found, fun _ here => (by cases here), ?_⟩
  rw [List.append_nil, setTcp_self found]

private theorem registered_again (used : Used w) :
    (w.registered ++ [w.nextAddress]).filter (· ≠ w.nextAddress) = w.registered := by
  have others : w.registered.filter (· ≠ w.nextAddress) = w.registered := by
    refine List.filter_eq_self.mpr fun address here => ?_
    have before := used address here
    exact decide_eq_true (by omega)
  rw [List.filter_append, others]
  simp

private theorem sendData_raises (used : Used w) (found : w.tcps[n]? = some t)
    (h : Tcp.sendData w n t args uv = (w', .raised error)) : Kept n w w' := by
  rcases checked_inv h with ⟨q, -, refused⟩ | ⟨p, -, h⟩
  · obtain rfl := (Prod.mk.inj refused).1
    exact kept_refl found
  · split at h
    · split at h
      · obtain rfl := (Prod.mk.inj h).1
        exact kept_refl found
      · cases (Prod.mk.inj h).2
    · dsimp only at h
      split at h
      · obtain rfl := (Prod.mk.inj h).1
        refine ⟨t, [], w.nextAddress + 1, found, fun _ here => (by cases here), ?_⟩
        rw [List.append_nil, setTcp_self found, registered_again used]
      · cases (Prod.mk.inj h).2

private theorem setConnectTimeout_raises {timeout : Value} (found : w.tcps[n]? = some t)
    (h : Tcp.setConnectTimeout w n t timeout uv = (w', .raised error)) : Kept n w w' := by
  rcases checked_inv h with ⟨q, -, refused⟩ | ⟨delay, accepted, h⟩
  · obtain rfl := (Prod.mk.inj refused).1
    exact kept_refl found
  · obtain ⟨-, -, unset⟩ := timeoutCheck_spec accepted
    dsimp only at h
    split at h
    · obtain rfl := (Prod.mk.inj h).1
      refine ⟨t, [{ active := false, closes := 1 }], w.nextAddress, found, ?_, ?_⟩
      · intro timer here
        obtain rfl := List.mem_singleton.mp here
        exact ⟨rfl, rfl⟩
      · rw [cancel_fresh unset]
        rfl
    · cases (Prod.mk.inj h).2

private theorem closeGracefully_raises (found : w.tcps[n]? = some t)
    (h : Tcp.closeGracefully w n t args uv = (w', .raised error))
    (idle : t.uvHandle = true → args.argv.length ≤ 1 → t.shutdownRequested = false →
      t.status = .connected → uv.readStop = 0 → uv.shutdown ≠ 0 → t.uvReading = false) :
    Kept n w w' := by
  rcases checked_inv h with ⟨q, -, refused⟩ | ⟨_, accepted, h⟩
  · obtain rfl := (Prod.mk.inj refused).1
    exact kept_refl found
  · obtain ⟨opened, few, free⟩ := gracefulCheck_spec accepted
    split at h
    · rename_i connected
      split at h
      · cases (Prod.mk.inj h).2
      · rename_i readStop
        dsimp only at h
        split at h
        · rename_i shutdown
          have same : { t with uvReading := false } = t := by
            rw [← idle opened few free connected (not_not.mp readStop) shutdown]
          rw [same, setTcp_self found] at h
          obtain rfl := (Prod.mk.inj h).1
          exact kept_refl found
        · cases (Prod.mk.inj h).2
    · cases (Prod.mk.inj h).2

private theorem closeGracefully_fails (opened : t.uvHandle = true)
    (few : args.argv.length ≤ 1) (free : t.shutdownRequested = false)
    (connected : t.status = .connected) (readStop : uv.readStop = 0) (shutdown : uv.shutdown ≠ 0) :
    Tcp.closeGracefully w n t args uv =
      (w.setTcp n { t with uvReading := false }, .raised (aeGetLastUvError uv)) := by
  have enough : ¬ (args.argv.length < 0 ∨ args.argv.length > 1) := by omega
  unfold Tcp.closeGracefully checked
  simp only [opened, checkUvHandleIsOpen, checkNumArgs, if_neg enough, free, connected, readStop,
    bind, Except.bind, pure, Except.pure, if_true, ne_eq, not_true, if_false, Bool.false_eq_true,
    if_pos shutdown]

end Methods

section Step

variable {c c' : Config} {a : Action}

private theorem unchanged_sound (used : Used c.world) (_ : engine.step c a = some c')
    (allowed : ¬ StopsReading c a) : RaisesUnchanged c a := by
  rintro n call c'' rfl fallible h raises
  have method : ∀ args uv, call ≠ .run args uv := by
    rintro args uv rfl
    exact fallible
  obtain ⟨w, error, called, world⟩ := raised_inv h method raises
  refine ⟨w, error, ?_, world⟩
  cases call with
  | tcpSendData m args uv =>
    obtain rfl : m = n := fallible
    obtain ⟨t, found, result⟩ := Option.map_eq_some_iff.mp called
    exact sendData_raises used found result
  | tcpSetConnectTimeout m timeout uv =>
    obtain rfl : m = n := fallible
    obtain ⟨t, found, result⟩ := Option.map_eq_some_iff.mp called
    exact setConnectTimeout_raises found result
  | tcpCloseGracefully m args uv =>
    obtain rfl : m = n := fallible
    obtain ⟨t, found, result⟩ := Option.map_eq_some_iff.mp called
    refine closeGracefully_raises found result ?_
    intro opened few free connected readStop shutdown
    by_contra reads
    exact allowed ⟨t, found, opened, few, free, connected, Bool.of_not_eq_false reads, readStop,
      shutdown⟩
  | _ => cases fallible

private theorem unchanged_sharp (_ : Used c.world) (h : engine.step c a = some c')
    (unchanged : RaisesUnchanged c a) : ¬ StopsReading c a := by
  intro stops
  unfold StopsReading at stops
  split at stops
  · rename_i n args uv
    obtain ⟨t, found, opened, few, free, connected, reading, readStop, shutdown⟩ := stops
    obtain ⟨base, stack, r, -, called, world⟩ := call_inv h (by simp)
    obtain ⟨u, found', rfl⟩ := Option.map_eq_some_iff.mp called
    obtain rfl := Option.some.inj (found.symm.trans found')
    rw [closeGracefully_fails opened few free connected readStop shutdown] at world
    replace world : c'.world = (c.world.setTcp n { t with uvReading := false }).push
      (.returned _ (.raised _)) := world
    have raises : Raises (.tcpCloseGracefully n args uv) c'.world := by
      rw [world]
      exact ⟨_, _, rfl⟩
    obtain ⟨w, error, ⟨u, left, nextAddress, found'', -, rfl⟩, same⟩ :=
      unchanged n _ c' rfl rfl h raises
    obtain rfl := Option.some.inj (found.symm.trans found'')
    obtain ⟨bound, -⟩ := List.getElem?_eq_some_iff.mp found
    have tcps := congrArg (fun w => w.tcps[n]?) (world.symm.trans same)
    simp only [World.push, World.setTcp, List.getElem?_set_self bound, Option.some.injEq] at tcps
    have read := congrArg State.Tcp.uvReading tcps
    rw [reading] at read
    cases read
  · exact stops

end Step

/-- In every run, each method of a TCPSocket that raises leaves everything as it was exactly when
`close_gracefully` never stops reading before a `uv_shutdown` that fails. -/
theorem raises_unchanged_iff {l : List (Config × Action)} {c : Config} (path : Path engine l c) :
    Each RaisesUnchanged l ↔ Each (fun c a => ¬ StopsReading c a) l := by
  refine path.each_iff_each (I := fun c => Used c.world) ?_ ?_ unchanged_sound unchanged_sharp
  · intro address here
    cases here
  · intro s t a used h _
    exact used_step used (step_inv h).2

/-- `uv_shutdown` fails for a connected socket. -/
theorem failed_shutdown_stops_reading : ¬ ∀ l c, Path engine l c → Each RaisesUnchanged l := by
  intro law
  have reached : (engine.exec connectSocket).any (fun c =>
      decide (c.world.tcps[0]?.map (fun t =>
        (t.uvHandle, t.shutdownRequested, t.status, t.uvReading)) =
          some (true, false, .connected, true)) && decide (Used c.world) &&
      (engine.step c (.call (.tcpCloseGracefully 0 ⟨[], none⟩ { shutdown := -1 }))).isSome) =
      true := by
    decide +kernel
  obtain ⟨l, c, path, seen⟩ := exists_path_of_exec engine _ _ reached
  obtain ⟨seen, steps⟩ := (Bool.and_eq_true _ _).mp seen
  obtain ⟨socket, used⟩ := (Bool.and_eq_true _ _).mp seen
  obtain ⟨c', move⟩ := Option.isSome_iff_exists.mp steps
  obtain ⟨t, found, fields⟩ := Option.map_eq_some_iff.mp (of_decide_eq_true socket)
  simp only [Prod.mk.injEq] at fields
  obtain ⟨opened, free, connected, reading⟩ := fields
  have step := law _ c' (path.next move) _ (List.mem_append_right _ (.head _))
  exact unchanged_sharp (of_decide_eq_true used) move step
    ⟨t, found, opened, by decide, free, connected, reading, rfl, by decide⟩

/-- The timer of `set_connect_timeout` cannot be started. -/
theorem raises_unchanged_iff_timeout : ∃ l c, Path engine l c ∧
    c.world.tcps.map (fun t => (t.timerConnectTimeout, t.uvTimers)) =
      [(none, [{ active := false, closes := 1 }])] ∧
    (Each RaisesUnchanged l ↔ Each (fun c a => ¬ StopsReading c a) l) := by
  have reached : (engine.exec (runBlock ++ [
      .call (.tcpNew ⟨[.string [49, 50, 55, 46, 48, 46, 48, 46, 49], .fixnum 5060], none⟩ {}),
      .call (.tcpSetConnectTimeout 0 (.float 0.1) { timerStart := -1 })])).any (fun c =>
        decide (c.world.tcps.map (fun t => (t.timerConnectTimeout, t.uvTimers)) =
          [(none, [{ active := false, closes := 1 }])])) = true := by
    decide +kernel
  obtain ⟨l, c, path, seen⟩ := exists_path_of_exec engine _ _ reached
  exact ⟨l, c, path, of_decide_eq_true seen, raises_unchanged_iff path⟩

end AsyncEngine.Engine.TcpErrors
