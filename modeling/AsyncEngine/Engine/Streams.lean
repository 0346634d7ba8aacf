/- The data of the sockets: what is read reaches `on_data_received`, and what `send_data` and
   `send_datagram` accept is written and sent. -/

import AsyncEngine.Lib.Pending
import AsyncEngine.Engine.LoopEnds
import AsyncEngine.Engine.Lengths
import AsyncEngine.Engine.UdpLife

set_option autoImplicit false
set_option relaxedAutoImplicit false

namespace AsyncEngine.Engine.Streams

open AsyncEngine.Lib.Run
open AsyncEngine.Lib.Pending
open AsyncEngine.Engine.Ruby
open AsyncEngine.Engine.State
open AsyncEngine.Engine.Machine
open AsyncEngine.Engine.Effects
open AsyncEngine.Engine.Steps
open AsyncEngine.Engine.TcpMoves
open AsyncEngine.Engine.Release
open AsyncEngine.Engine.Stopped
open AsyncEngine.Engine.Lengths
open AsyncEngine.Engine.Outstanding
open AsyncEngine.Engine.LoopEnds
open AsyncEngine.Engine.UdpLife

def receivedBy (n : Nat) : Event → Option (List UInt8)
  | .started (.onDataReceived m bytes _) _ => if m = n then some bytes else none
  | _ => none

/-- The data that `on_data_received` of a socket was called with, newest first. -/
def received (n : Nat) (w : World) : List (List UInt8) := w.trace.filterMap (receivedBy n)

/-- The data that libuv reads from a socket in a step. -/
def readBy (n : Nat) : Config × Action → Option (List UInt8)
  | (_, .event (.read m (.data bytes) _)) => if m = n then some bytes else none
  | _ => none

/-- The bytes that `send_data` copies of its first argument, whose length is stored in an `int`: all
of a String of less than 2^31 bytes. -/
def dataOf (args : Args) : List UInt8 :=
  match args.argv with
  | .string bytes :: _ => bytes.take (toInt bytes.length).toNat
  | _ => []

def acceptedBy (n : Nat) : Event → Option (List UInt8)
  | .returned (.tcpSendData m args _) (.value .true) =>
    if m = n then some (dataOf args) else none
  | _ => none

/-- The data of the calls of `send_data` of a socket that returned true, newest first. -/
def accepted (n : Nat) (w : World) : List (List UInt8) := w.trace.filterMap (acceptedBy n)

def dataFor (n : Nat) (write : UvWrite) : Option (List UInt8) :=
  if write.socket = n then some write.data else none

/-- The data of a socket that libuv has still to write, oldest first. -/
def unwritten (n : Nat) (w : World) : List (List UInt8) := w.tcpWrites.filterMap (dataFor n)

/-- The data of a socket whose write libuv completes in a step. -/
def completedBy (n : Nat) : Config × Action → Option (List UInt8)
  | (c, .event (.write k _)) => c.world.tcpWrites[k]?.bind (dataFor n)
  | _ => none

/-- A datagram and where it is sent to. -/
structure Packet where
  datagram : List UInt8
  ip : List UInt8
  port : Int
deriving DecidableEq

/-- What `send_datagram` takes from its arguments; the datagram is copied as in `dataOf`. -/
def packetOf (args : Args) : Packet :=
  match args.argv with
  | .string datagram :: .string ip :: .fixnum port :: _ =>
    ⟨datagram.take (toInt datagram.length).toNat, ip, port⟩
  | _ => ⟨[], [], 0⟩

def sentBy (n : Nat) : Event → Option Packet
  | .returned (.udpSendDatagram m args _) (.value .true) =>
    if m = n then some (packetOf args) else none
  | _ => none

/-- The datagrams of the calls of `send_datagram` of a socket that returned true, newest first. -/
def sent (n : Nat) (w : World) : List Packet := w.trace.filterMap (sentBy n)

def packetFor (n : Nat) (send : UdpSend) : Option Packet :=
  if send.socket = n then some ⟨send.datagram, send.ip, send.port⟩ else none

/-- The datagrams of a socket that libuv has still to send, oldest first. -/
def unsent (n : Nat) (w : World) : List Packet := w.udpSends.filterMap (packetFor n)

/-- The datagram of a socket whose send libuv completes in a step. -/
def sendCompletedBy (n : Nat) : Config × Action → Option Packet
  | (c, .event (.sent k _)) => c.world.udpSends[k]?.bind (packetFor n)
  | _ => none

variable {c c' : Config} {a : Action} {l : List (Config × Action)} {n : Nat}

section Reading

private theorem unpaused_move {v v' : TcpView} (move : TcpMove c n a v v')
    (unpaused : ∀ t, v.tcp = some t → t.paused = false) :
    ∀ t, v'.tcp = some t → t.paused = false := by
  have cancelled (t : State.Tcp) : (Tcp.cancelTimerConnectTimeout t).paused = t.paused := by
    obtain ⟨uvTimers, timer, kept⟩ := cancel_keeps t
    rw [kept]
  have set {t t' : State.Tcp} (socket : v.tcp = some t) (same : t'.paused = t.paused) :
      ∀ s, some t' = some s → s.paused = false := by
    intro s here
    rw [← Option.some.inj here, same]
    exact unpaused t socket
  have fresh {t : State.Tcp} (free : t.paused = false) :
      ∀ s, some t = some s → s.paused = false := by
    intro s here
    rw [← Option.some.inj here]
    exact free
  cases move with
  | fails absent uvInited => exact fresh rfl
  | opens absent call accepted init => exact fresh rfl
  | connects socket pending live free => exact set socket (cancelled _)
  | connectsToShutdown socket pending live requested => exact set socket (cancelled _)
  | @failsToConnect t socket pending terminal =>
    refine set socket ?_
    dsimp only
    split
    · exact cancelled _
    · exact cancelled _
  | endsReading socket reading opened => exact set socket rfl
  | failsToRead socket reading terminal other => exact set socket rfl
  | setsTimeout socket opened connecting unset => exact set socket rfl
  | failsToSetTimeout socket opened connecting unset => exact set socket rfl
  | timesOut socket fired active opened isSet => exact set socket (cancelled _)
  | closes socket opened connecting => exact set socket (cancelled _)
  | disconnects socket opened connected terminal other => exact set socket (cancelled _)
  | shutsDown socket opened connected free call few answers => exact set socket rfl
  | failsToShutDown socket opened connected => exact set socket rfl
  | requestsShutdown socket opened connecting => exact set socket rfl
  | isShutDown socket pending opened live terminal => exact set socket rfl
  | wasClosed socket pending closed => exact set socket rfl
  | destroys socket opened connecting release => exact set socket (cancelled _)
  | destroysConnected socket opened connected terminal other release =>
    exact set socket (cancelled _)
  | _ => exact unpaused

private theorem unpaused_of_path (path : Path engine l c) :
    ∀ t, c.world.tcps[n]? = some t → t.paused = false := by
  refine path.invariant (I := fun c => ∀ t, (view n c).tcp = some t → t.paused = false) ?_ ?_
  · intro t here
    cases here
  · intro c c' a unpaused move
    rcases step_view (n := n) (step_inv move).2 with same | moved
    · rw [same]
      exact unpaused
    · exact unpaused_move moved unpaused

private theorem received_blind : ∀ e, ¬ OfControl e → receivedBy n e = none := by
  intro e other
  cases e <;> first | rfl | exact absurd trivial other

private theorem received_kept (h : Step c a c')
    (other : ∀ m read uv, a ≠ .event (.read m read uv)) :
    received n c'.world = received n c.world := by
  rcases step_filterMap received_blind h with same | ⟨e, x, shows, seen, -⟩
  · exact same
  · unfold receivedBy at seen
    split at seen
    · obtain ⟨-, ⟨event, rfl, called⟩ | ⟨-, resumed⟩ | ⟨_, -, same⟩⟩ := shows_started shows
      · cases event with
        | read m read uv => exact absurd rfl (other m read uv)
        | _ => simp [calledBy] at called
      · exact resumed.elim
      · cases same
    · cases seen

private theorem read_received (path : Path engine l c) {m : Nat} {read : Tcp.Read}
    {uv : UvAnswers} (h : engine.step c (.event (.read m read uv)) = some c') :
    received n c'.world =
      (readBy n (c, .event (.read m read uv))).toList ++ received n c.world := by
  obtain ⟨_, reported, world⟩ :=
    event_starts (endInv_of_path path).release.loop h (by simp) (by simp)
  rw [world]
  cases reported with
  | @read _ _ _ t socket reading =>
    cases read with
    | nothing => rfl
    | data bytes =>
      have paused := unpaused_of_path path t socket
      unfold Tcp.uvReadCallback
      dsimp only
      rw [if_neg (by simp [paused])]
      by_cases same : m = n
      · simp [received, receivedBy, readBy, startedBy, World.start, World.push, same]
      · simp [received, receivedBy, readBy, startedBy, World.start, World.push, same]
    | eof =>
      unfold Tcp.uvReadCallback
      dsimp only
      split
      · rfl
      · split
        · rfl
        · rfl
    | error errno => rfl

private theorem received_step (path : Path engine l c) (h : engine.step c a = some c') :
    received n c'.world = (readBy n (c, a)).toList ++ received n c.world := by
  by_cases read : ∃ m read uv, a = .event (.read m read uv)
  · obtain ⟨m, read, uv, rfl⟩ := read
    exact read_received path h
  · push Not at read
    have none : readBy n (c, a) = none := by
      unfold readBy
      split
      · rename_i same
        obtain ⟨-, rfl⟩ := Prod.mk.inj same
        exact absurd rfl (read _ _ _)
      · rfl
    rw [none]
    exact received_kept (step_inv h).2 read

/-- In every run, what libuv reads from a TCPSocket is what its `on_data_received` is called with,
all of it and in the same order. -/
theorem data_received_as_read (path : Path engine l c) (n : Nat) :
    received n c.world = (l.filterMap (readBy n)).reverse := by
  induction path with
  | start => rfl
  | @next l s t a before move ih =>
    rw [received_step before move, ih, filterMap_concat, List.reverse_append]
    cases readBy n (s, a) with
    | none => rfl
    | some bytes => rfl

/-- A socket is connected, and libuv reads from it twice. -/
theorem data_received_as_read_connected : ∃ l c, Path engine l c ∧
    received 0 c.world = [[66, 67], [65]] ∧
    received 0 c.world = (l.filterMap (readBy 0)).reverse := by
  have reached : (engine.exec (connectSocket ++ [.finish, .proceed, .proceed,
      .event (.read 0 (.data [65]) {}), .finish, .proceed, .proceed, .event (.read 0 .nothing {}),
      .event (.read 0 (.data [66, 67]) {})])).any (fun c =>
      decide (received 0 c.world = [[66, 67], [65]])) = true := by
    decide +kernel
  obtain ⟨l, c, path, seen⟩ := exists_path_of_exec engine _ _ reached
  exact ⟨l, c, path, of_decide_eq_true seen, data_received_as_read path 0⟩

end Reading

section Sending

variable {α : Type} {f : Event → Option α} {pending : World → List α}

private theorem returned_kept {M : Call → Prop} (blind : ∀ e, ¬ OfControl e → f e = none)
    (only : ∀ e x, f e = some x → ∃ call result, e = .returned call result ∧ M call)
    (close : ∀ n, ¬ M (.tcpClose n)) (h : Step c a c') (other : ∀ call, M call → a ≠ .call call) :
    c'.world.trace.filterMap f = c.world.trace.filterMap f := by
  rcases step_filterMap blind h with same | ⟨e, x, shows, seen, -⟩
  · exact same
  · obtain ⟨call, result, rfl, own⟩ := only e x seen
    cases a with
    | call call' =>
      rcases shows with ⟨_, same⟩ | ⟨_, -, same⟩
      · obtain ⟨rfl, -⟩ := Event.returned.inj same
        exact absurd rfl (other call own)
      · cases same
    | event event =>
      obtain ⟨_, -, same⟩ := shows
      cases same
    | proceed =>
      rcases shows with ⟨_, -, same⟩ | ⟨n, _, same⟩ | ⟨_, same⟩
      · cases same
      · obtain ⟨rfl, -⟩ := Event.returned.inj same
        exact absurd own (close n)
      · cases same
    | _ => exact shows.elim

private theorem call_flow {call : Call} {w : World} {result : Return}
    (blind : ∀ e, ¬ OfControl e → f e = none)
    (mute : ∀ (w : World) e, pending (w.push e) = pending w)
    (h : engine.step c (.call call) = some c') (other : ∀ args uv, call ≠ .run args uv)
    (method : dispatch c.world call = some (w, .ends result))
    (more : pending w = pending c.world ++ (f (.returned call result)).toList) :
    Flow (c.world.trace.filterMap f) (pending c.world) (c'.world.trace.filterMap f)
      (pending c'.world) none := by
  obtain ⟨base, stack, r, -, called, world⟩ := call_inv h other
  obtain rfl := Option.some.inj (method.symm.trans called)
  replace world : c'.world = w.push (.returned call result) := world
  have trace := frame_filterMap blind (dispatch_frame method)
  rw [world, mute, more]
  cases shown : f (.returned call result) with
  | none =>
    refine .same ?_ (List.append_nil _)
    rw [World.push, List.filterMap_cons_none shown]
    exact trace
  | some x =>
    refine .accepts ?_ rfl
    rw [World.push, List.filterMap_cons_some shown]
    exact congrArg (x :: ·) trace

end Sending

section Writing

private theorem accepted_blind : ∀ e, ¬ OfControl e → acceptedBy n e = none := by
  intro e other
  cases e <;> first | rfl | exact absurd trivial other

private theorem accepted_kept (h : Step c a c')
    (other : ∀ m args uv, a ≠ .call (.tcpSendData m args uv)) :
    accepted n c'.world = accepted n c.world := by
  refine returned_kept (M := fun call => ∃ m args uv, call = .tcpSendData m args uv)
    accepted_blind ?_ ?_ h ?_
  · intro e x seen
    unfold acceptedBy at seen
    split at seen
    · exact ⟨_, _, rfl, _, _, _, rfl⟩
    · cases seen
  · rintro m ⟨_, _, _, same⟩
    cases same
  · rintro call ⟨m, args, uv, rfl⟩
    exact other m args uv

private theorem unwritten_kept (h : engine.step c a = some c')
    (call : ∀ m args uv, a ≠ .call (.tcpSendData m args uv))
    (event : ∀ k error, a ≠ .event (.write k error)) :
    unwritten n c'.world = unwritten n c.world := by
  obtain ⟨w, runs, data⟩ := step_data (step_inv h).2
  have same : w.tcpWrites = c.world.tcpWrites := by
    cases runs with
    | nothing => rfl
    | @method call' r called =>
      refine (untouched_own (dispatch_own called)).tcpWrites ?_
      cases call' with
      | tcpSendData m args uv => exact absurd rfl (call m args uv)
      | _ => simp [fileOf]
    | queue frame =>
      exact (untouched_own (show FrameOf .queue c.world w from frame)).tcpWrites (by simp)
    | @callback event' r reported =>
      refine (untouched_own (reports_own reported)).tcpWrites ?_
      cases event' with
      | write k error => exact absurd rfl (event k error)
      | _ => simp [fileOfEvent]
    | @destroy key stored =>
      refine (untouched_own (destroyHandle_own c.world key)).tcpWrites ?_
      cases key <;> simp [fileOfKey]
  unfold unwritten
  rw [data.tcpWrites, same]

private theorem data_of_accepted {t : State.Tcp} {args : Args} {p : Tcp.SendArgs}
    (h : Tcp.sendArgs t args = .ok p) : dataOf args = p.data := by
  obtain ⟨_, -, h⟩ := of_bind h
  obtain ⟨_, -, h⟩ := of_bind h
  obtain ⟨block, -, h⟩ := of_bind h
  obtain ⟨bytes, string, h⟩ := of_bind h
  obtain ⟨copied, copies, h⟩ := of_bind h
  obtain rfl := Except.ok.inj h
  have given := string_of_get string
  have copy := (copyBytes_inv copies).2
  unfold dataOf
  cases argv : args.argv with
  | nil => simp [argv] at given
  | cons v rest =>
    obtain rfl : v = .string bytes := by simpa [argv] using given
    exact copy.symm

private theorem sendData_refused {w : World} {m : Nat} {t : State.Tcp} {args : Args}
    {p : Tcp.SendArgs} {uv : UvAnswers} (passed : Tcp.sendArgs t args = .ok p)
    (refused : uv.write ≠ 0) : (Tcp.sendData w m t args uv).1.tcpWrites = w.tcpWrites := by
  unfold Tcp.sendData checked
  rw [passed]
  obtain ⟨data, block⟩ := p
  cases block with
  | none =>
    dsimp only
    rw [if_pos refused]
  | some proc =>
    dsimp only
    rw [if_pos refused]

private theorem acceptedBy_other {m : Nat} {args : Args} {uv : UvAnswers} {q : Return}
    (other : q ≠ .value .true) : acceptedBy n (.returned (.tcpSendData m args uv) q) = none := by
  unfold acceptedBy
  split
  · rename_i same
    exact absurd (Event.returned.inj same).2 other
  · rfl

private theorem sendData_unwritten (w : World) (m : Nat) (t : State.Tcp) (args : Args)
    (uv : UvAnswers) : ∃ q, (Tcp.sendData w m t args uv).2 = .ends q ∧
      unwritten n (Tcp.sendData w m t args uv).1 =
        unwritten n w ++ (acceptedBy n (.returned (.tcpSendData m args uv) q)).toList := by
  -- A call that does not return true writes nothing.
  have refuses {w' : World} {q : Return} (result : Tcp.sendData w m t args uv = (w', .ends q))
      (writes : w'.tcpWrites = w.tcpWrites) (other : q ≠ .value .true) :
      ∃ q, (Tcp.sendData w m t args uv).2 = .ends q ∧
        unwritten n (Tcp.sendData w m t args uv).1 =
          unwritten n w ++ (acceptedBy n (.returned (.tcpSendData m args uv) q)).toList := by
    refine ⟨q, congrArg Prod.snd result, ?_⟩
    rw [result, acceptedBy_other other, Option.toList_none, List.append_nil]
    exact congrArg (List.filterMap (dataFor n)) writes
  cases passed : Tcp.sendArgs t args with
  | error q =>
    have rejects := rejects_tcpSendArgs q passed
    refine @refuses w q ?_ rfl ?_
    · unfold Tcp.sendData checked
      rw [passed]
    · rintro rfl
      rcases rejects with same | same <;> cases same
  | ok p =>
    obtain ⟨raises, returns⟩ := sendData_accepted w m uv passed
    by_cases write : uv.write = 0
    · obtain ⟨returned, block, writes⟩ := returns write
      refine ⟨_, returned, ?_⟩
      show (Tcp.sendData w m t args uv).1.tcpWrites.filterMap (dataFor n) = _
      rw [writes, List.filterMap_append]
      by_cases same : m = n
      · simp [dataFor, acceptedBy, unwritten, same, data_of_accepted passed]
      · simp [dataFor, acceptedBy, unwritten, same]
    · obtain ⟨error, raised⟩ := raises write
      exact refuses (Prod.ext rfl raised) (sendData_refused passed write) (by simp)

private theorem sendData_flow {m : Nat} {args : Args} {uv : UvAnswers}
    (h : engine.step c (.call (.tcpSendData m args uv)) = some c') :
    Flow (accepted n c.world) (unwritten n c.world) (accepted n c'.world) (unwritten n c'.world)
      none := by
  obtain ⟨base, stack, r, -, method, -⟩ := call_inv h (by simp)
  obtain ⟨t, socket, rfl⟩ := Option.map_eq_some_iff.mp method
  obtain ⟨q, ends, more⟩ := sendData_unwritten (n := n) c.world m t args uv
  exact call_flow accepted_blind (fun _ _ => rfl) h (by simp)
    (method.trans (congrArg some (Prod.ext rfl ends))) more

private theorem write_flow (path : Path engine l c) {k : Nat} {error : Option Int}
    (h : engine.step c (.event (.write k error)) = some c') :
    Flow (accepted n c.world) (unwritten n c.world) (accepted n c'.world) (unwritten n c'.world)
      (completedBy n (c, .event (.write k error))) := by
  obtain ⟨_, reported, world⟩ :=
    event_starts (endInv_of_path path).release.loop h (by simp) (by simp)
  cases reported with
  | @write _ _ write t found socket may =>
    have completed : completedBy n (c, .event (.write k error)) = dataFor n write := by
      show c.world.tcpWrites[k]?.bind (dataFor n) = _
      rw [found]
      rfl
    rw [completed]
    refine flow_eraseIdx (accepted_kept (step_inv h).2 (by simp)) found ?_
    rw [world]
    unfold Tcp.uvWriteCallback
    cases write.onWriteBlock with
    | none => rfl
    | some block => cases t.releasing <;> rfl

private theorem flow_of_step (path : Path engine l c) (h : engine.step c a = some c') :
    Flow (accepted n c.world) (unwritten n c.world) (accepted n c'.world) (unwritten n c'.world)
      (completedBy n (c, a)) := by
  by_cases call : ∃ m args uv, a = .call (.tcpSendData m args uv)
  · obtain ⟨m, args, uv, rfl⟩ := call
    exact sendData_flow h
  · by_cases event : ∃ k error, a = .event (.write k error)
    · obtain ⟨k, error, rfl⟩ := event
      exact write_flow path h
    · push Not at call event
      have none : completedBy n (c, a) = none := by
        unfold completedBy
        split
        · rename_i same
          obtain ⟨-, rfl⟩ := Prod.mk.inj same
          exact absurd rfl (event _ _)
        · rfl
      rw [none]
      exact .same (accepted_kept (step_inv h).2 call) (unwritten_kept h call event)

/-- In every run, the bytes that `send_data` of a TCPSocket has copied in the calls that returned
true are those whose writes libuv has completed, each write once, and those that it has still to
write, in the order of the calls; and once the loop has ended, nothing is left to be written. -/
theorem data_sent_is_written (path : Path engine l c) (n : Nat) :
    (accepted n c.world).Perm (l.filterMap (completedBy n) ++ unwritten n c.world) ∧
      (unwritten n c.world).Sublist (accepted n c.world).reverse ∧
      (c.world.status = .stopped → unwritten n c.world = []) := by
  have kept := conserved_of_path (completedBy n) (P := fun _ => True) ⟨rfl, rfl⟩
    (fun _ _ _ => trivial) (fun before move _ => flow_of_step (n := n) before move) path trivial
  refine ⟨kept.all, kept.ordered, fun stopped => ?_⟩
  have idle := lists_of_outstanding ((stoppedInv_of_path path).reqs stopped)
  unfold unwritten
  rw [idle.1]
  rfl

/-- Of three writes of a socket, libuv has completed the second one. -/
theorem data_sent_is_written_second : ∃ l c, Path engine l c ∧
    accepted 0 c.world = [[67], [66], [65]] ∧ unwritten 0 c.world = [[65], [67]] ∧
    (accepted 0 c.world).Perm (l.filterMap (completedBy 0) ++ unwritten 0 c.world) := by
  have reached : (engine.exec (connectSocket ++ [.call (.tcpSendData 0 ⟨[.string [65]], none⟩ {}),
      .call (.tcpSendData 0 ⟨[.string [66]], none⟩ {}),
      .call (.tcpSendData 0 ⟨[.string [67]], none⟩ {}), .finish, .proceed, .proceed,
      .event (.write 1 none)])).any (fun c =>
      decide (accepted 0 c.world = [[67], [66], [65]] ∧
        unwritten 0 c.world = [[65], [67]])) = true := by
    decide +kernel
  obtain ⟨l, c, path, seen⟩ := exists_path_of_exec engine _ _ reached
  obtain ⟨all, left⟩ := of_decide_eq_true seen
  exact ⟨l, c, path, all, left, (data_sent_is_written path 0).1⟩

end Writing

section Datagrams

private theorem startedBy_sends (r : World × Option Callback) :
    (startedBy r).udpSends = r.1.udpSends := by
  obtain ⟨w, callback⟩ := r
  cases callback <;> rfl

private theorem sent_blind : ∀ e, ¬ OfControl e → sentBy n e = none := by
  intro e other
  cases e <;> first | rfl | exact absurd trivial other

private theorem sent_kept (h : Step c a c')
    (other : ∀ m args uv, a ≠ .call (.udpSendDatagram m args uv)) :
    sent n c'.world = sent n c.world := by
  refine returned_kept (M := fun call => ∃ m args uv, call = .udpSendDatagram m args uv)
    sent_blind ?_ ?_ h ?_
  · intro e x seen
    unfold sentBy at seen
    split at seen
    · exact ⟨_, _, rfl, _, _, _, rfl⟩
    · cases seen
  · rintro m ⟨_, _, _, same⟩
    cases same
  · rintro call ⟨m, args, uv, rfl⟩
    exact other m args uv

private theorem resolve_sends (w : World) (args : Args) (uv : UvAnswers) :
    (Procs.resolve w args uv).1.udpSends = w.udpSends := by
  refine checked_cases (P := fun r => r.1.udpSends = w.udpSends) (fun _ _ => rfl) fun _ _ => ?_
  split
  · rfl
  · rfl

private theorem resolved_sends (w : World) (procId : Nat)
    (result : Except RubyError (List (List UInt8))) :
    (Procs.uvGetaddrinfoCallback w procId result).1.udpSends = w.udpSends := by
  obtain ⟨⟨fault, world⟩, -⟩ := uvGetaddrinfoCallback_completes w procId result
  rw [world]

private theorem unsent_kept (h : engine.step c a = some c')
    (call : ∀ m args uv, a ≠ .call (.udpSendDatagram m args uv))
    (event : ∀ k error, a ≠ .event (.sent k error)) : unsent n c'.world = unsent n c.world := by
  obtain ⟨w, runs, data⟩ := step_data (step_inv h).2
  have same : w.udpSends = c.world.udpSends := by
    cases runs with
    | nothing => rfl
    | @method call' r called =>
      cases call' with
      | udpSendDatagram m args uv => exact absurd rfl (call m args uv)
      | dnsResolve args uv =>
        obtain rfl := Option.some.inj called
        exact resolve_sends c.world args uv
      | _ => exact (untouched_own (dispatch_own called)).udpSends (by simp [fileOf])
    | queue frame =>
      exact (untouched_own (show FrameOf .queue c.world w from frame)).udpSends (by simp)
    | @callback event' r reported =>
      cases event' with
      | sent k error => exact absurd rfl (event k error)
      | resolved k result =>
        cases reported with
        | resolved found => exact resolved_sends _ _ _
      | _ => exact (untouched_own (reports_own reported)).udpSends (by simp [fileOfEvent])
    | @destroy key stored =>
      refine (untouched_own (destroyHandle_own c.world key)).udpSends ?_
      cases key <;> simp [fileOfKey]
  unfold unsent
  rw [data.udpSends, same]

private theorem packet_of_accepted {u : State.Udp} {args : Args} {p : Udp.SendArgs}
    (h : Udp.sendArgs u args = .ok p) : packetOf args = ⟨p.datagram, p.ip, p.port⟩ := by
  obtain ⟨_, -, h⟩ := of_bind h
  obtain ⟨_, -, h⟩ := of_bind h
  obtain ⟨block, -, h⟩ := of_bind h
  obtain ⟨datagram, first, h⟩ := of_bind h
  obtain ⟨given, second, h⟩ := of_bind h
  obtain ⟨ip, plain, h⟩ := of_bind h
  obtain ⟨port, third, h⟩ := of_bind h
  split at h
  · cases h
  · obtain ⟨copied, copies, h⟩ := of_bind h
    obtain rfl := Except.ok.inj h
    obtain ⟨rfl, -⟩ := cString_inv plain
    have copy := (copyBytes_inv copies).2
    replace first := string_of_get first
    replace second := string_of_get second
    replace third := (port_inv third).1
    unfold packetOf
    cases argv : args.argv with
    | nil =>
      rw [argv] at first
      cases first
    | cons v rest =>
      rw [argv] at first second third
      obtain rfl := Option.some.inj first
      cases rest with
      | nil => cases second
      | cons v' rest =>
        obtain rfl := Option.some.inj second
        cases rest with
        | nil => cases third
        | cons v'' rest =>
          obtain rfl := Option.some.inj third
          rw [copy]

private theorem sendDatagram_sends {w : World} {m : Nat} {u : State.Udp} {args : Args}
    {p : Udp.SendArgs} (uv : UvAnswers) (passed : Udp.sendArgs u args = .ok p) :
    (Udp.sendDatagram w m u args uv).1.udpSends =
      if (switchIpType u.ipType uv.send uv.unassigned).1 = [0] then
        w.udpSends ++
          [⟨m, p.datagram, p.ip, p.port, p.proc.map fun _ => w.procLongId + 1⟩]
      else w.udpSends := by
  unfold Udp.sendDatagram checked
  rw [passed]
  obtain ⟨datagram, ip, port, proc⟩ := p
  cases proc with
  | none =>
    dsimp only [Option.map_none]
    split <;> (dsimp only; split <;> rfl)
  | some proc =>
    dsimp only [Option.map_some]
    split <;> (dsimp only; split <;> rfl)

private theorem sentBy_other {m : Nat} {args : Args} {uv : UvAnswers} {q : Return}
    (other : q ≠ .value .true) :
    sentBy n (.returned (.udpSendDatagram m args uv) q) = none := by
  unfold sentBy
  split
  · rename_i same
    exact absurd (Event.returned.inj same).2 other
  · rfl

private theorem unsent_other {w : World} {m : Nat} {u : State.Udp} {args : Args}
    {p : Udp.SendArgs} (uv : UvAnswers) (passed : Udp.sendArgs u args = .ok p) (own : m ≠ n) :
    unsent n (Udp.sendDatagram w m u args uv).1 = unsent n w := by
  unfold unsent
  rw [sendDatagram_sends uv passed]
  split
  · simp [packetFor, own]
  · rfl

private theorem sendDatagram_unsent (w : World) (m : Nat) (u : State.Udp) (args : Args)
    (uv : UvAnswers) (plain : m = n → u.ipType = .ipv4 ∨ u.ipType = .ipv6) :
    ∃ q, (Udp.sendDatagram w m u args uv).2 = .ends q ∧
      unsent n (Udp.sendDatagram w m u args uv).1 =
        unsent n w ++ (sentBy n (.returned (.udpSendDatagram m args uv) q)).toList := by
  cases passed : Udp.sendArgs u args with
  | error q =>
    have rejects := rejects_udpSendArgs q passed
    have same : Udp.sendDatagram w m u args uv = (w, .ends q) := by
      unfold Udp.sendDatagram checked
      rw [passed]
    refine ⟨q, congrArg Prod.snd same, ?_⟩
    rw [same, sentBy_other, Option.toList_none, List.append_nil]
    rintro rfl
    rcases rejects with same | same <;> cases same
  | ok p =>
    obtain ⟨raises, returns⟩ := sendDatagram_accepted w m uv passed
    by_cases own : m = n
    · have sends := sendDatagram_sends (w := w) (m := m) uv passed
      have called : switchIpType u.ipType uv.send uv.unassigned = ([uv.send], uv.send) := by
        rcases plain own with type | type <;> rw [type] <;> rfl
      rw [called] at raises returns sends
      by_cases send : uv.send = 0
      · refine ⟨_, (returns send).1, ?_⟩
        unfold unsent
        rw [sends, if_pos (by rw [send]), List.filterMap_append]
        simp [packetFor, sentBy, own, packet_of_accepted passed]
      · obtain ⟨error, raised⟩ := raises send
        refine ⟨_, raised, ?_⟩
        unfold unsent
        rw [sends, if_neg (by simpa using send), sentBy_other (by simp), Option.toList_none,
          List.append_nil]
    · rw [unsent_other uv passed own]
      by_cases send : (switchIpType u.ipType uv.send uv.unassigned).2 = 0
      · refine ⟨_, (returns send).1, ?_⟩
        simp [sentBy, own]
      · obtain ⟨error, raised⟩ := raises send
        refine ⟨_, raised, ?_⟩
        rw [sentBy_other (by simp), Option.toList_none, List.append_nil]

private theorem sendDatagram_flow {m : Nat} {args : Args} {uv : UvAnswers}
    (plain : ∀ u, c.world.udps[n]? = some u → u.ipType = .ipv4 ∨ u.ipType = .ipv6)
    (h : engine.step c (.call (.udpSendDatagram m args uv)) = some c') :
    Flow (sent n c.world) (unsent n c.world) (sent n c'.world) (unsent n c'.world) none := by
  obtain ⟨base, stack, r, -, method, -⟩ := call_inv h (by simp)
  obtain ⟨u, socket, rfl⟩ := Option.map_eq_some_iff.mp method
  obtain ⟨q, ends, more⟩ := sendDatagram_unsent (n := n) c.world m u args uv
    (fun own => plain u (own ▸ socket))
  exact call_flow sent_blind (fun _ _ => rfl) h (by simp)
    (method.trans (congrArg some (Prod.ext rfl ends))) more

private theorem sent_flow (path : Path engine l c) {k : Nat} {error : Option Int}
    (h : engine.step c (.event (.sent k error)) = some c') :
    Flow (sent n c.world) (unsent n c.world) (sent n c'.world) (unsent n c'.world)
      (sendCompletedBy n (c, .event (.sent k error))) := by
  obtain ⟨_, reported, world⟩ :=
    event_starts (endInv_of_path path).release.loop h (by simp) (by simp)
  cases reported with
  | @sent _ _ send u found socket may =>
    have completed : sendCompletedBy n (c, .event (.sent k error)) = packetFor n send := by
      show c.world.udpSends[k]?.bind (packetFor n) = _
      rw [found]
      rfl
    rw [completed]
    refine flow_eraseIdx (sent_kept (step_inv h).2 (by simp)) found ?_
    rw [world]
    rcases uvSendCallback_cases { c.world with udpSends := c.world.udpSends.eraseIdx k } send
      (error.map .uv) with unasked | ⟨id, ⟨fault, done⟩, -⟩
    · rw [unasked]
      rfl
    · rw [startedBy_sends, done]

private theorem packets_of_step (path : Path engine l c) (h : engine.step c a = some c')
    (plain : ∀ u, c.world.udps[n]? = some u → u.ipType = .ipv4 ∨ u.ipType = .ipv6) :
    Flow (sent n c.world) (unsent n c.world) (sent n c'.world) (unsent n c'.world)
      (sendCompletedBy n (c, a)) := by
  by_cases call : ∃ m args uv, a = .call (.udpSendDatagram m args uv)
  · obtain ⟨m, args, uv, rfl⟩ := call
    exact sendDatagram_flow plain h
  · by_cases event : ∃ k error, a = .event (.sent k error)
    · obtain ⟨k, error, rfl⟩ := event
      exact sent_flow path h
    · push Not at call event
      have none : sendCompletedBy n (c, a) = none := by
        unfold sendCompletedBy
        split
        · rename_i same
          obtain ⟨-, rfl⟩ := Prod.mk.inj same
          exact absurd rfl (event _ _)
        · rfl
      rw [none]
      exact .same (sent_kept (step_inv h).2 call) (unsent_kept h call event)

/-- In every run, the datagrams that `send_datagram` of a UDPSocket with a plain address has copied
in the calls that returned true are those whose sends libuv has completed, each once, and those
that it has still to send, in the order of the calls, each to the IP and the port that it was given;
and once the loop has ended, nothing is left to be sent. -/
theorem datagrams_are_sent (path : Path engine l c) (n : Nat)
    (plain : ∀ u, c.world.udps[n]? = some u → u.ipType = .ipv4 ∨ u.ipType = .ipv6) :
    (sent n c.world).Perm (l.filterMap (sendCompletedBy n) ++ unsent n c.world) ∧
      (unsent n c.world).Sublist (sent n c.world).reverse ∧
      (c.world.status = .stopped → unsent n c.world = []) := by
  have kept := conserved_of_path (sendCompletedBy n)
    (P := fun c => ∀ u, c.world.udps[n]? = some u → u.ipType = .ipv4 ∨ u.ipType = .ipv6)
    ⟨rfl, rfl⟩ ?_ (fun before move plain => packets_of_step before move plain) path plain
  · refine ⟨kept.all, kept.ordered, fun stopped => ?_⟩
    have idle := lists_of_outstanding ((stoppedInv_of_path path).reqs stopped)
    unfold unsent
    rw [idle.2.1]
    rfl
  · -- A socket keeps its family.
    intro l s a t before move plain u found
    obtain ⟨u', found', family, -⟩ := (keeps_step (udpInv_of_path before) u t found move).1
    rw [← family]
    exact plain u' found'

/-- Of two datagrams of a socket, libuv has sent the first one. -/
theorem datagrams_are_sent_first : ∃ l c, Path engine l c ∧
    sent 0 c.world = [⟨[66], [49, 46, 50, 46, 51, 46, 52], 53⟩,
      ⟨[65], [49, 46, 50, 46, 51, 46, 52], 53⟩] ∧
    unsent 0 c.world = [⟨[66], [49, 46, 50, 46, 51, 46, 52], 53⟩] ∧
    (sent 0 c.world).Perm (l.filterMap (sendCompletedBy 0) ++ unsent 0 c.world) := by
  let ip : List UInt8 := [49, 46, 50, 46, 51, 46, 52]
  have reached : (engine.exec (runBlock ++ [
      .call (.udpNew ⟨[.string ip, .fixnum 5060], none⟩ {}),
      .call (.udpSendDatagram 0 ⟨[.string [65], .string ip, .fixnum 53], none⟩ {}),
      .call (.udpSendDatagram 0 ⟨[.string [66], .string ip, .fixnum 53], none⟩ {}),
      .finish, .proceed, .proceed, .proceed, .proceed, .event (.sent 0 none)])).any (fun c =>
      decide (sent 0 c.world = [⟨[66], ip, 53⟩, ⟨[65], ip, 53⟩] ∧
        unsent 0 c.world = [⟨[66], ip, 53⟩] ∧
        c.world.udps.all fun u => u.ipType == .ipv4)) = true := by
    decide +kernel
  obtain ⟨l, c, path, seen⟩ := exists_path_of_exec engine _ _ reached
  obtain ⟨all, left, family⟩ := of_decide_eq_true seen
  have plain : ∀ u, c.world.udps[0]? = some u → u.ipType = .ipv4 ∨ u.ipType = .ipv6 := by
    intro u found
    have type := List.all_eq_true.mp family u (List.mem_of_getElem? found)
    exact .inl (by simpa using type)
  exact ⟨l, c, path, all, left, (datagrams_are_sent path 0 plain).1⟩

end Datagrams

end AsyncEngine.Engine.Streams
