/- The requests and timers that libuv holds for a TCPSocket, and the entry of `@_handles` that
   keeps the socket alive for their callbacks. -/

import AsyncEngine.Engine.Loop
import AsyncEngine.Engine.TcpLife

set_option autoImplicit false
set_option relaxedAutoImplicit false

namespace AsyncEngine.Engine.TcpRequests

open AsyncEngine.Lib.Run
open AsyncEngine.Engine.Ruby
open AsyncEngine.Engine.State
open AsyncEngine.Engine.Machine
open AsyncEngine.Engine.Effects
open AsyncEngine.Engine.Steps
open AsyncEngine.Engine.Loop
open AsyncEngine.Engine.TcpMoves
open AsyncEngine.Engine.TcpLife

/-- libuv has a connect, shutdown or write request whose callback reads the socket. -/
def Requested (t : State.Tcp) (writes : List UvWrite) : Prop :=
  t.uvConnect = true ∨ t.uvShutdowns ≠ 0 ∨ ∃ write ∈ writes, write.onWriteBlock ≠ none

/-- A socket that a callback of libuv can still read is in `@_handles`. -/
def Kept (n : Nat) (w : World) : Prop :=
  ∀ t, w.tcps[n]? = some t →
    Requested t (w.tcpWrites.filter (·.socket == n)) ∨ (∃ timer ∈ t.uvTimers, timer.active = true) →
      .tcp n ∈ w.handles

/-- The last callback of the socket is called while another request on it is pending: a write
with a block, or a shutdown that is not the one that completes here. -/
def EndsEarly (n : Nat) (c : Config) (a : Action) : Prop :=
  terminates c n a ∧
    ((∃ write ∈ c.world.tcpWrites, write.socket = n ∧ write.onWriteBlock ≠ none) ∨
      ∃ t, c.world.tcps[n]? = some t ∧ completes n a < t.uvShutdowns)

section Moves

variable {c : Config} {n : Nat} {a : Action} {v v' : TcpView}

private theorem completes_le : completes n a ≤ 1 := by
  unfold completes
  split
  · split <;> omega
  · omega

private theorem cancel_requests (t : State.Tcp) :
    (Tcp.cancelTimerConnectTimeout t).uvConnect = t.uvConnect ∧
      (Tcp.cancelTimerConnectTimeout t).uvShutdowns = t.uvShutdowns := by
  obtain ⟨uvTimers, timer, kept⟩ := cancel_keeps t
  rw [kept]
  exact ⟨rfl, rfl⟩

private theorem requested_move {t' : State.Tcp} (move : TcpMove c n a v v') (inv : TcpInv v)
    (last : terminates c n a → (∀ write ∈ v.writes, write.onWriteBlock = none) ∧
      ∀ t, v.tcp = some t → t.uvShutdowns ≤ completes n a)
    (kept : ∀ t, v.tcp = some t → Requested t v.writes → v.stored)
    (socket' : v'.tcp = some t') (requested : Requested t' v'.writes) : v'.stored := by
  have opens {t : State.Tcp} (socket : v.tcp = some t) (opened : t.uvHandle = true) : v.stored :=
    (inv.known t socket).opened opened
  -- Nothing is requested of a socket that leaves `@_handles`.
  have nothing {t : State.Tcp} (connect : t.uvConnect = false) (shutdowns : t.uvShutdowns = 0)
      (terminal : terminates c n a) : ¬ Requested t v.writes := by
    rintro (pending | pending | ⟨write, mem, block⟩)
    · rw [connect] at pending
      cases pending
    · exact pending shutdowns
    · exact block ((last terminal).1 write mem)
  have unconnected {t : State.Tcp} (socket : v.tcp = some t) (connected : t.status = .connected) :
      t.uvConnect = false := by
    cases pending : t.uvConnect with
    | false => rfl
    | true =>
      rw [((inv.sane t socket).pending pending).1] at connected
      cases connected
  have undone {t : State.Tcp} (socket : v.tcp = some t) (terminal : terminates c n a)
      (other : completes n a = 0) : t.uvShutdowns = 0 := by
    have few := (last terminal).2 t socket
    omega
  cases move with
  | runs stopped => exact kept t' socket' requested
  | releases running => exact kept t' socket' requested
  | stops idle unwritten => exact kept t' socket' requested
  | fails absent uvInited =>
    cases socket'
    obtain ⟨-, -, writes, -⟩ := inv.absent absent
    rcases requested with pending | pending | ⟨write, mem, -⟩
    · cases pending
    · exact absurd rfl pending
    · change write ∈ v.writes at mem
      rw [writes] at mem
      cases mem
  | opens absent call accepted init => trivial
  | connects socket pending live free => exact kept _ socket (.inl pending)
  | connectsToShutdown socket pending live requested => exact kept _ socket (.inl pending)
  | @failsToConnect t socket pending terminal =>
    cases socket'
    obtain ⟨connect, shutdowns⟩ := cancel_requests { t with uvConnect := false }
    have sane := inv.sane t socket
    have undone := (sane.connecting (sane.pending pending).1).1
    refine absurd requested (nothing ?_ ?_ terminal)
    · dsimp only
      split
      · exact connect
      · exact connect
    · dsimp only
      split
      · exact shutdowns.trans undone
      · exact shutdowns.trans undone
  | receives socket reading => exact kept t' socket' requested
  | endsReading socket reading opened => exact opens socket opened
  | @failsToRead t socket reading terminal other =>
    cases socket'
    have idle := unconnected socket ((inv.sane t socket).reading reading).2.1
    have done := undone socket terminal other
    exact absurd requested (nothing idle done terminal)
  | writes socket opened => exact opens socket opened
  | written fewer =>
    refine kept t' socket' ?_
    rcases requested with pending | pending | ⟨write, mem, block⟩
    · exact .inl pending
    · exact .inr (.inl pending)
    · exact .inr (.inr ⟨write, fewer.subset mem, block⟩)
  | setsTimeout socket opened connecting unset => exact opens socket opened
  | failsToSetTimeout socket opened connecting unset => exact opens socket opened
  | timesOut socket fired active opened set => exact opens socket opened
  | closes socket opened connecting => exact opens socket opened
  | @disconnects t socket opened connected terminal other =>
    cases socket'
    obtain ⟨connect, shutdowns⟩ := cancel_requests (Tcp.closeUvHandle t)
    have idle := unconnected socket connected
    have done := undone socket terminal other
    exact absurd requested (nothing (connect.trans idle) (shutdowns.trans done) terminal)
  | shutsDown socket opened connected free call few answers => exact opens socket opened
  | failsToShutDown socket opened connected => exact opens socket opened
  | requestsShutdown socket opened connecting => exact opens socket opened
  | @isShutDown t socket pending opened live terminal =>
    cases socket'
    have few := (last terminal).2 t socket
    have most := completes_le (n := n) (a := a)
    have undone : t.uvShutdowns - 1 = 0 := by omega
    have connected : t.status = .connected := by
      cases status : t.status with
      | connected => rfl
      | connecting => exact absurd ((inv.sane t socket).connecting status).1 pending
    have idle := unconnected socket connected
    exact absurd requested (nothing idle undone terminal)
  | wasClosed socket pending closed => exact kept _ socket (.inr (.inl pending))
  | destroys socket opened connecting at_release => exact opens socket opened
  | @destroysConnected t socket opened connected terminal other at_release =>
    cases socket'
    obtain ⟨connect, shutdowns⟩ := cancel_requests (Tcp.closeUvHandle t)
    have idle := unconnected socket connected
    have done := undone socket terminal other
    exact absurd requested (nothing (connect.trans idle) (shutdowns.trans done) terminal)
  | returns closing => exact kept t' socket' requested
  | unwinds closing => exact kept t' socket' requested

/-- What holds of the socket while its last callback is not called too early. -/
structure KeptInv (n : Nat) (c : Config) : Prop where
  loop : LoopInv c
  vars : VarsInv c.world
  life : TcpInv (view n c)
  kept : ∀ t, c.world.tcps[n]? = some t → Requested t (view n c).writes → (view n c).stored

private theorem keptInv_step {c' : Config} (inv : KeptInv n c) (h : engine.step c a = some c')
    (late : ¬ EndsEarly n c a) : KeptInv n c' := by
  obtain ⟨loop, vars⟩ := loop_step ⟨inv.loop, inv.vars⟩ h
  refine ⟨loop, vars, tcpInv_step h inv.life, ?_⟩
  intro t' socket' requested
  rcases step_view (n := n) (step_inv h).2 with same | move
  · have tcp : c'.world.tcps[n]? = c.world.tcps[n]? := congrArg TcpView.tcp same
    rw [same] at requested ⊢
    exact inv.kept t' (tcp.symm.trans socket') requested
  · refine requested_move move inv.life ?_ inv.kept socket' requested
    intro terminal
    refine ⟨?_, ?_⟩
    · intro write mem
      by_contra block
      obtain ⟨mem, socket⟩ := List.mem_filter.mp mem
      exact late ⟨terminal, .inl ⟨write, mem, by simpa using socket, block⟩⟩
    · intro t socket
      by_contra many
      exact late ⟨terminal, .inr ⟨t, socket, by omega⟩⟩

private theorem keptInv_sound (inv : KeptInv n c) : Kept n c.world := by
  intro t socket held
  rcases held with requested | ⟨timer, mem, active⟩
  · exact inv.kept t socket requested
  · have sane := inv.life.sane t socket
    obtain ⟨k, at_k⟩ := List.mem_iff_getElem?.mp mem
    have set := sane.active k timer at_k active
    exact (inv.life.known t socket).opened (sane.timer (by rw [set]; simp)).1

end Moves

section Ends

variable {c c' : Config} {n : Nat} {a : Action} {t t' : State.Tcp}

/-- The socket has left `@_handles`; the writes are as before, and so many shutdowns are left. -/
structure Ended (n left : Nat) (w w' : World) : Prop where
  gone : .tcp n ∉ w'.handles
  writes : w'.tcpWrites = w.tcpWrites
  shutdowns : ∃ t, w'.tcps[n]? = some t ∧ t.uvShutdowns = left

private theorem ended_of_remove {left : Nat} {w : World} (socket : w.tcps[n]? = some t)
    (shutdowns : t'.uvShutdowns = left) :
    Ended n left w (aeRemoveHandle (w.setTcp n t') (.tcp n)) := by
  have bound : n < w.tcps.length := (List.getElem?_eq_some_iff.mp socket).1
  refine ⟨?_, rfl, t', ?_, shutdowns⟩
  · simp [aeRemoveHandle]
  · exact List.getElem?_set_self bound

private theorem Ended.start {left : Nat} {w w' : World} (ended : Ended n left w w')
    (callback : Callback) : Ended n left w (w'.start callback) :=
  ⟨ended.gone, ended.writes, ended.shutdowns⟩

private theorem Ended.takeGvl {left : Nat} {w w' : World} {callback : Callback}
    (ended : Ended n left w w') (status : w'.status ≠ .stopped) :
    Ended n left w (takeGvl c (w', some callback)).world := by
  rw [Machine.takeGvl, if_neg status]
  exact ended.start callback

/-- The steps that call the last callback of the socket take it out of `@_handles`. -/
private theorem ended_step (inv : KeptInv n c) (h : engine.step c a = some c')
    (terminal : terminates c n a) : ∃ t, c.world.tcps[n]? = some t ∧
      Ended n (t.uvShutdowns - completes n a) c.world c'.world := by
  have live := (step_inv h).1
  have busy (ctl : c.ctl = .inUv) : c.world.status ≠ .stopped :=
    inv.loop.busy (by rw [ctl]; trivial) live
  unfold terminates at terminal
  split at terminal
  · -- The connect request has failed.
    obtain rfl := terminal.symm
    obtain ⟨r, ctl, report, rfl⟩ := event_inv h (by simp) (by simp)
    cases report with
    | @connect _ _ _ t socket pending may =>
      have undone := (cancel_requests { t with uvConnect := false }).2
      refine ⟨t, socket, (ended_of_remove socket ?_).takeGvl (busy ctl)⟩
      dsimp only [completes]
      split
      · exact undone
      · exact undone
  · -- The read has failed.
    obtain rfl := terminal.symm
    obtain ⟨r, ctl, report, rfl⟩ := event_inv h (by simp) (by simp)
    cases report with
    | @read _ _ _ t socket reading =>
      refine ⟨t, socket, (ended_of_remove socket ?_).takeGvl (busy ctl)⟩
      rfl
  · -- The shutdown is complete.
    rename_i m error
    obtain ⟨own, t, socket, opened⟩ := terminal
    obtain rfl := own.symm
    obtain ⟨r, ctl, report, rfl⟩ := event_inv h (by simp) (by simp)
    cases report with
    | shutdown socket' pending may =>
      obtain rfl := Option.some.inj (socket.symm.trans socket')
      have alive := (inv.life.sane t socket).handle.mp opened
      have completed : completes n (.event (.shutdown n error)) = 1 := if_pos rfl
      rw [completed, Tcp.uvShutdownCallback, if_pos ⟨opened, alive.2⟩]
      refine ⟨t, socket, (ended_of_remove socket ?_).takeGvl (busy ctl)⟩
      rfl
  · -- `TCPSocket#close` is called.
    obtain ⟨own, t, socket, opened, connected⟩ := terminal
    obtain rfl := own.symm
    obtain ⟨base, stack, r, -, called, world⟩ := call_inv h (by simp)
    have closes : dispatch c.world (.tcpClose n) =
        some (closedSocket c.world n t, .calls (.onDisconnected n none) (.closing n)) := by
      simp [dispatch, socket, Tcp.close, checked, checkUvHandleIsOpen, opened, connected,
        closedSocket, pure, Except.pure]
    obtain rfl := Option.some.inj (closes.symm.trans called)
    rw [world]
    have undone := (cancel_requests (Tcp.closeUvHandle t)).2
    exact ⟨t, socket, (ended_of_remove socket undone).start _⟩
  · -- `ae_release_loop` has come to the socket.
    obtain ⟨⟨result, base, keys, stack, ctl⟩, stored, t, socket, opened, connected⟩ := terminal
    have status := (destroyed_status t).trans connected
    have destroys : destroyHandle c.world (.tcp n) =
        (destroyedSocket c.world n t, .calls (.onDisconnected n none) (.destroying n)) := by
      simp [destroyHandle, socket, Tcp.destroy, checked, checkUvHandleIsOpen, opened, status,
        destroyedSocket, pure, Except.pure]
    have resumed := proceed_back ctl h
    rw [stepBack, resume, releaseNext, if_pos stored, destroys] at resumed
    obtain rfl := Option.some.inj resumed
    have undone := (cancel_requests (Tcp.closeUvHandle t)).2
    refine ⟨t, socket, (ended_of_remove socket ?_).start _⟩
    exact undone
  · exact absurd terminal id

private theorem keptInv_sharp (inv : KeptInv n c) (h : engine.step c a = some c')
    (after : Kept n c'.world) : ¬ EndsEarly n c a := by
  rintro ⟨terminal, other⟩
  obtain ⟨t, socket, gone, writes, t', socket', left⟩ := ended_step inv h terminal
  refine gone (after t' socket' (.inl ?_))
  rcases other with ⟨write, mem, own, block⟩ | ⟨u, at_u, many⟩
  · refine .inr (.inr ⟨write, List.mem_filter.mpr ⟨writes ▸ mem, ?_⟩, block⟩)
    simpa using own
  · obtain rfl := Option.some.inj (socket.symm.trans at_u)
    exact .inr (.inl (by omega))

/-- In every run, a socket is in `@_handles` as long as a callback of libuv can read it exactly
when its last callback is never called while another request on it is pending. -/
theorem kept_iff {l : List (Config × Action)} (path : Path engine l c) (n : Nat) :
    Always (fun c => Kept n c.world) l c ↔ Each (fun c a => ¬ EndsEarly n c a) l := by
  obtain ⟨loop, vars⟩ := loop_init
  have start : KeptInv n engine.init :=
    ⟨loop, vars, tcpInv_of_path .start, fun t socket => by cases socket⟩
  exact path.always_iff_each start keptInv_step keptInv_sound keptInv_sharp

end Ends

/-- A connected socket writes with a block and is closed before the write is complete. -/
theorem closed_before_written : ¬ ∀ n l c, Path engine l c → Kept n c.world := by
  intro all
  have reached : (engine.exec (connectSocket ++
      [.call (.tcpSendData 0 ⟨[.string [65]], some 7⟩ {}), .call (.tcpClose 0)])).any (fun c =>
        c.world.tcps[0]?.isSome && decide (.tcp 0 ∉ c.world.handles) &&
          c.world.tcpWrites.any fun write =>
            write.socket == 0 && decide (write.onWriteBlock ≠ none)) = true := by
    decide +kernel
  obtain ⟨l, c, path, seen⟩ := exists_path_of_exec engine _ _ reached
  simp only [Bool.and_eq_true, decide_eq_true_eq, List.any_eq_true] at seen
  obtain ⟨⟨made, gone⟩, write, mem, own, block⟩ := seen
  obtain ⟨t, socket⟩ := Option.isSome_iff_exists.mp made
  exact gone (all 0 l c path t socket
    (.inl (.inr (.inr ⟨write, List.mem_filter.mpr ⟨mem, own⟩, block⟩))))

/-- A socket whose write is complete when it is closed. -/
theorem kept_iff_written : ∃ l c, Path engine l c ∧ c.world.tcpWrites = [] ∧
    (c.world.trace.head? matches some (.started (.onDisconnected 0 none) _)) = true ∧
    (Always (fun c => Kept 0 c.world) l c ↔ Each (fun c a => ¬ EndsEarly 0 c a) l) := by
  have reached : (engine.exec (connectSocket ++ [
      .call (.tcpSendData 0 ⟨[.string [65]], some 7⟩ {}), .finish, .proceed, .proceed,
      .event (.write 0 none), .call (.tcpClose 0)])).any (fun c =>
        decide (c.world.tcpWrites = []) && (c.world.trace.head? matches
          some (.started (.onDisconnected 0 none) _))) = true := by
    decide +kernel
  obtain ⟨l, c, path, seen⟩ := exists_path_of_exec engine _ _ reached
  obtain ⟨written, closed⟩ := (Bool.and_eq_true _ _).mp seen
  exact ⟨l, c, path, of_decide_eq_true written, closed, kept_iff path 0⟩

end AsyncEngine.Engine.TcpRequests
