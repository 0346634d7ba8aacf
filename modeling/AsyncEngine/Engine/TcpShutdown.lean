/- The shutdown requests of a TCPSocket: they come from the deferred `close_gracefully`, from the
   end of the stream and from `close_gracefully` itself. -/

import AsyncEngine.Engine.TcpLife

set_option autoImplicit false
set_option relaxedAutoImplicit false

namespace AsyncEngine.Engine.TcpShutdown

open AsyncEngine.Lib.Run
open AsyncEngine.Engine.Ruby
open AsyncEngine.Engine.State
open AsyncEngine.Engine.Machine
open AsyncEngine.Engine.Effects
open AsyncEngine.Engine.Steps
open AsyncEngine.Engine.TcpMoves
open AsyncEngine.Engine.TcpLife

def shutdownOf : TcpEvent → Option Bool
  | .shutdown closed => some closed
  | _ => none

/-- The shutdown requests in a log, each with whether its handle was closed before. -/
def shutdowns (log : List TcpEvent) : List Bool := log.filterMap shutdownOf

/-- At most one shutdown request was issued on the socket, and none on a closed handle. -/
def ShutdownOnce (n : Nat) (w : World) : Prop :=
  (shutdowns (history n w)).length ≤ 1 ∧ true ∉ shutdowns (history n w)

/-- `close_gracefully` is called, and shuts the socket down, after the end of its stream has
been read. -/
def ShutsDownAgain (n : Nat) (c : Config) : Action → Prop
  | .call (.tcpCloseGracefully m args uv) => m = n ∧ args.argv.length ≤ 1 ∧ uv.readStop = 0 ∧
      uv.shutdown = 0 ∧ ∃ t, c.world.tcps[n]? = some t ∧ t.uvHandle = true ∧
        t.status = .connected ∧ t.shutdownRequested = false ∧ t.eofReceived = true
  | _ => False

/-- The requests that a socket with these flags can have issued. -/
structure Issued (t : State.Tcp) (made : List Bool) : Prop where
  few : made.length ≤ 1
  live : true ∉ made
  none : t.status = .connecting ∨ (t.shutdownRequested = false ∧ t.eofReceived = false) →
    made = []
  some : t.eofReceived = true → made ≠ []

private theorem Issued.same {t t' : State.Tcp} {made : List Bool} (issued : Issued t made)
    (status : t'.status = t.status)
    (requested : t'.shutdownRequested = t.shutdownRequested)
    (eof : t'.eofReceived = t.eofReceived) : Issued t' made := by
  refine ⟨issued.few, issued.live, ?_, ?_⟩
  · rw [status, requested, eof]
    exact issued.none
  · rw [eof]
    exact issued.some

private theorem Issued.first {t : State.Tcp} (connected : t.status = .connected)
    (flag : t.shutdownRequested = true ∨ t.eofReceived = true) : Issued t [false] := by
  refine ⟨by simp, by simp, ?_, by simp⟩
  intro unissued
  rw [connected] at unissued
  rcases flag with flag | flag <;> simp [flag] at unissued

private theorem cancel_flags (t : State.Tcp) :
    (Tcp.cancelTimerConnectTimeout t).status = t.status ∧
      (Tcp.cancelTimerConnectTimeout t).shutdownRequested = t.shutdownRequested ∧
      (Tcp.cancelTimerConnectTimeout t).eofReceived = t.eofReceived := by
  obtain ⟨uvTimers, timer, kept⟩ := cancel_keeps t
  rw [kept]
  exact ⟨rfl, rfl, rfl⟩

section Moves

variable {c : Config} {n : Nat} {a : Action} {v v' : TcpView}

private theorem issued_move {t' : State.Tcp} (move : TcpMove c n a v v') (inv : TcpInv v)
    (first : ¬ ShutsDownAgain n c a) (at_n : v.tcp = c.world.tcps[n]?)
    (issued : ∀ t, v.tcp = some t → Issued t (shutdowns v.log)) (socket' : v'.tcp = some t') :
    Issued t' (shutdowns v'.log) := by
  cases move with
  | runs stopped => exact issued t' socket'
  | releases running => exact issued t' socket'
  | stops idle unwritten => exact issued t' socket'
  | fails absent uvInited =>
    cases socket'
    have unlogged : shutdowns v.log = [] := by rw [(inv.absent absent).2.1]; rfl
    rw [unlogged]
    constructor <;> simp
  | opens absent call accepted init =>
    cases socket'
    have unlogged : shutdowns v.log = [] := by rw [(inv.absent absent).2.1]; rfl
    rw [unlogged]
    constructor <;> simp
  | @connects t socket pending live free =>
    cases socket'
    obtain ⟨status, requested, eof⟩ := cancel_flags { t with uvConnect := false }
    have connecting := ((inv.sane t socket).pending pending).1
    have unissued := (issued t socket).none (.inl connecting)
    have unread := ((inv.sane t socket).connecting connecting).2
    change Issued _ (shutdowns v.log)
    rw [unissued]
    exact ⟨by simp, by simp, fun _ => rfl, fun on => by rw [eof.trans unread] at on; cases on⟩
  | @connectsToShutdown t socket pending live requested =>
    cases socket'
    obtain ⟨status, same, eof⟩ := cancel_flags { t with uvConnect := false }
    have connecting := ((inv.sane t socket).pending pending).1
    change Issued _ (false :: shutdowns v.log)
    rw [(issued t socket).none (.inl connecting)]
    exact .first rfl (.inl (same.trans requested))
  | @failsToConnect t socket pending terminal =>
    cases socket'
    obtain ⟨status, requested, eof⟩ := cancel_flags { t with uvConnect := false }
    change Issued _ (shutdowns v.log)
    dsimp only
    split
    · exact (issued t socket).same status requested eof
    · exact (issued t socket).same status requested eof
  | receives socket reads => exact issued t' socket'
  | @endsReading t socket reads opened =>
    cases socket'
    have live : t.uvCloses = 0 := ((inv.sane t socket).handle.mp opened).2
    obtain ⟨-, connected, free, unread⟩ := (inv.sane t socket).reading reads
    change Issued _ (decide (t.uvCloses ≠ 0) :: shutdowns v.log)
    rw [(issued t socket).none (.inr ⟨free, unread⟩), decide_eq_false (not_not.mpr live)]
    exact .first connected (.inr rfl)
  | @failsToRead t socket reads terminal other =>
    cases socket'
    exact (issued t socket).same rfl rfl rfl
  | writes socket opened => exact issued t' socket'
  | written fewer => exact issued t' socket'
  | @setsTimeout t socket opened connecting unset =>
    cases socket'
    exact (issued t socket).same rfl rfl rfl
  | @failsToSetTimeout t socket opened connecting unset =>
    cases socket'
    exact (issued t socket).same rfl rfl rfl
  | @timesOut t k timer socket fired active opened set =>
    cases socket'
    obtain ⟨status, requested, eof⟩ := cancel_flags
      { t with uvTimers := t.uvTimers.set k { timer with active := false } }
    exact (issued t socket).same status requested eof
  | @closes t socket opened connecting =>
    cases socket'
    obtain ⟨status, requested, eof⟩ := cancel_flags (Tcp.closeUvHandle t)
    exact (issued t socket).same status requested eof
  | @disconnects t socket opened connected terminal other =>
    cases socket'
    obtain ⟨status, requested, eof⟩ := cancel_flags (Tcp.closeUvHandle t)
    exact (issued t socket).same status requested eof
  | @shutsDown t args uv socket opened connected free call few answers =>
    cases socket'
    have live : t.uvCloses = 0 := ((inv.sane t socket).handle.mp opened).2
    have unread : t.eofReceived = false := by
      cases eof : t.eofReceived with
      | false => rfl
      | true =>
        subst call
        exact absurd ⟨rfl, few, answers.1, answers.2, t, at_n ▸ socket, opened, connected, free,
          eof⟩ first
    change Issued _ (decide (t.uvCloses ≠ 0) :: shutdowns v.log)
    rw [(issued t socket).none (.inr ⟨free, unread⟩), decide_eq_false (not_not.mpr live)]
    exact .first connected (.inl rfl)
  | @failsToShutDown t socket opened connected =>
    cases socket'
    exact (issued t socket).same rfl rfl rfl
  | @requestsShutdown t socket opened connecting =>
    cases socket'
    have unread := ((inv.sane t socket).connecting connecting).2
    change Issued _ (shutdowns v.log)
    rw [(issued t socket).none (.inl connecting)]
    exact ⟨by simp, by simp, fun _ => rfl, fun on => by rw [unread] at on; cases on⟩
  | @isShutDown t socket pending opened live terminal =>
    cases socket'
    exact (issued t socket).same rfl rfl rfl
  | @wasClosed t socket pending closed =>
    cases socket'
    exact (issued t socket).same rfl rfl rfl
  | @destroys t socket opened connecting at_release =>
    cases socket'
    obtain ⟨status, requested, eof⟩ := cancel_flags (Tcp.closeUvHandle t)
    exact (issued t socket).same status requested eof
  | @destroysConnected t socket opened connected terminal other at_release =>
    cases socket'
    obtain ⟨status, requested, eof⟩ := cancel_flags (Tcp.closeUvHandle t)
    exact (issued t socket).same status requested eof
  | returns closing => exact issued t' socket'
  | unwinds closing => exact issued t' socket'

/-- What holds of the requests of the socket while `close_gracefully` is not called too late. -/
structure IssuedInv (n : Nat) (c : Config) : Prop where
  life : TcpInv (view n c)
  issued : ∀ t, c.world.tcps[n]? = some t → Issued t (shutdowns (view n c).log)

private theorem issuedInv_step {c' : Config} (inv : IssuedInv n c)
    (h : engine.step c a = some c') (first : ¬ ShutsDownAgain n c a) : IssuedInv n c' := by
  refine ⟨tcpInv_step h inv.life, ?_⟩
  intro t socket
  rcases step_view (step_inv h).2 with same | move
  · have log := congrArg TcpView.log same
    have tcp := congrArg TcpView.tcp same
    rw [log]
    exact inv.issued t (tcp.symm.trans socket)
  · exact issued_move move inv.life first rfl inv.issued socket

private theorem issuedInv_sound (inv : IssuedInv n c) : ShutdownOnce n c.world := by
  have reversed : shutdowns (history n c.world) = (shutdowns (view n c).log).reverse :=
    List.filterMap_reverse
  unfold ShutdownOnce
  rw [reversed, List.length_reverse, List.mem_reverse]
  cases socket : c.world.tcps[n]? with
  | none =>
    have unlogged : (view n c).log = [] := (inv.life.absent socket).2.1
    rw [unlogged]
    exact ⟨by simp [shutdowns], by simp [shutdowns]⟩
  | some t =>
    have issued := inv.issued t socket
    exact ⟨issued.few, issued.live⟩

private theorem closeGracefully_eq {w : World} {m : Nat} {t : State.Tcp} {args : Args}
    {uv : UvAnswers} (opened : t.uvHandle = true) (few : args.argv.length ≤ 1)
    (free : t.shutdownRequested = false) (connected : t.status = .connected)
    (readStop : uv.readStop = 0) (shutdown : uv.shutdown = 0) :
    Tcp.closeGracefully w m t args uv =
      ((w.push (.shutdown m (decide (t.uvCloses ≠ 0)))).setTcp m { t with
        uvReading := false, uvShutdowns := t.uvShutdowns + 1, shutdownRequested := true },
        .value .true) := by
  have enough : ¬ (args.argv.length < 0 ∨ args.argv.length > 1) := by omega
  unfold Tcp.closeGracefully checked
  simp only [opened, checkUvHandleIsOpen, checkNumArgs, if_neg enough, free, connected, readStop,
    shutdown, bind, Except.bind, pure, Except.pure, if_true, ne_eq, not_true, if_false,
    Bool.false_eq_true]

/-- A late `close_gracefully` issues a second request. -/
private theorem issuedInv_sharp {c' : Config} (inv : IssuedInv n c)
    (h : engine.step c a = some c') (once : ShutdownOnce n c'.world) :
    ¬ ShutsDownAgain n c a := by
  intro again
  cases a with
  | call call =>
    cases call with
    | tcpCloseGracefully m args uv =>
      obtain ⟨own, few, readStop, shutdown, t, socket, opened, connected, free, eof⟩ := again
      subst own
      obtain ⟨base, stack, r, ctl, called, after⟩ := call_inv h (by simp)
      obtain ⟨t', socket', rfl⟩ := Option.map_eq_some_iff.mp called
      obtain rfl : t' = t := Option.some.inj (socket'.symm.trans socket)
      rw [closeGracefully_eq opened few free connected readStop shutdown] at after
      have grown : shutdowns (history m c'.world) =
          shutdowns (history m c.world) ++ [decide (t'.uvCloses ≠ 0)] := by
        rw [after]
        simp [history, shutdowns, afterCall, World.push, World.setTcp, tcpEvent]
        rfl
      have reversed : shutdowns (history m c.world) = (shutdowns (view m c).log).reverse :=
        List.filterMap_reverse
      have made := List.length_pos_iff.mpr ((inv.issued t' socket).some eof)
      have few := once.1
      rw [grown, reversed, List.length_append, List.length_reverse, List.length_singleton] at few
      omega
    | _ => exact again
  | _ => exact again

/-- In every run, a socket is shut down once and while its handle is open all along the run
exactly when `close_gracefully` never shuts it down after the end of its stream. -/
theorem shutdown_once_iff {l : List (Config × Action)} (path : Path engine l c) (n : Nat) :
    Always (fun c => ShutdownOnce n c.world) l c ↔ Each (fun c a => ¬ ShutsDownAgain n c a) l := by
  have start : IssuedInv n engine.init :=
    ⟨tcpInv_of_path .start, fun t socket => by cases socket⟩
  exact path.always_iff_each start issuedInv_step issuedInv_sound issuedInv_sharp

end Moves

/-- The end of the stream of a connected socket is read, and then it is closed gracefully. -/
theorem late_shutdown_twice : ¬ ∀ n l c, Path engine l c → ShutdownOnce n c.world := by
  intro once
  have reached : (engine.exec (connectSocket ++ [.finish, .proceed, .proceed,
      .event (.read 0 .eof {}), .event .ubf, .call (.tcpCloseGracefully 0 {} {})])).any (fun c =>
        decide (1 < (shutdowns (history 0 c.world)).length)) = true := by
    decide +kernel
  obtain ⟨l, c, path, twice⟩ := exists_path_of_exec engine _ _ reached
  have few := (once 0 l c path).1
  have many := of_decide_eq_true twice
  omega

/-- A socket that is closed gracefully and then ends is shut down once. -/
theorem shutdown_once_iff_graceful : ∃ l c, Path engine l c ∧
    shutdowns (history 0 c.world) = [false] ∧
    (Always (fun c => ShutdownOnce 0 c.world) l c ↔
      Each (fun c a => ¬ ShutsDownAgain 0 c a) l) := by
  have reached : (engine.exec (connectSocket ++ [.call (.tcpCloseGracefully 0 {} {}), .finish,
      .proceed, .proceed, .event (.shutdown 0 none)])).any (fun c =>
        decide (shutdowns (history 0 c.world) = [false])) = true := by
    decide +kernel
  obtain ⟨l, c, path, shut⟩ := exists_path_of_exec engine _ _ reached
  exact ⟨l, c, path, of_decide_eq_true shut, shutdown_once_iff path 0⟩

end AsyncEngine.Engine.TcpShutdown
