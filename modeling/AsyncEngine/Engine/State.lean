/- The state of the extension and of the libuv loop it drives, and the helpers of
   ae_handle_common.c. -/

import AsyncEngine.Engine.Ruby

set_option autoImplicit false
set_option relaxedAutoImplicit false

namespace AsyncEngine.Engine.State

open AsyncEngine.IpParser.Machine
open AsyncEngine.Engine.Ruby

inductive AeStatus
  | running
  | releasing
  | stopped
deriving DecidableEq

/-- A key of `@_handles`: the object id of a handle. -/
inductive Handle
  | timer (n : Nat)
  | udp (n : Nat)
  | tcp (n : Nat)
deriving DecidableEq

/-- A queued proc: one of the application, or the block of `AE.stop`. -/
inductive Tick
  | user (proc : Nat)
  | releaseLoop
deriving DecidableEq

/-- What the libuv functions called by a method return, each used only if it is called.
`unassigned` is what is read from an `int` that was never written. -/
structure UvAnswers where
  init : Int := 0
  bind : Int := 0
  connect : Int := 0
  recvStart : Int := 0
  timerStart : Int := 0
  timerStop : Int := 0
  write : Int := 0
  send : Int := 0
  shutdown : Int := 0
  getaddrinfo : Int := 0
  readStart : Int := 0
  readStop : Int := 0
  getname : Option (List UInt8) := none
  lastError : Int := 0
  unassigned : Int := 0
deriving DecidableEq

/-- `struct_cdata` of ae_timer.c and the `uv_timer_t` of the Timer, with the timeout and the
repeat of the last `uv_timer_start`. -/
structure Timer where
  uvInited : Bool := false
  uvCloses : Nat := 0
  uvActive : Bool := false
  uvTimeout : Int := 0
  uvRepeat : Int := 0
  uvHandle : Bool := false
  aeHandleId : Option Nat := none
  isPeriodicTimer : Bool := false
  periodic : Bool := false
  delay : Int := 0
  interval : Int := 0
  onFireProc : Nat := 0
deriving DecidableEq

/-- `struct_cdata` of ae_udp.c and the `uv_udp_t` of the socket. -/
structure Udp where
  uvInited : Bool := false
  uvCloses : Nat := 0
  uvReceiving : Bool := false
  uvHandle : Bool := false
  aeHandleId : Option Nat := none
  ipType : IpType := .noIp
  paused : Bool := false
  encoding : Encoding := .ascii
deriving DecidableEq

/-- A `uv_timer_t` of `set_connect_timeout`. -/
structure UvTimer where
  active : Bool := true
  closes : Nat := 0
deriving DecidableEq

/-- A block given to `send_data`, with the registered address that holds it. -/
structure WriteBlock where
  address : Nat
  proc : Nat
deriving DecidableEq

/-- `enum status` of ae_tcp.c. -/
inductive TcpStatus
  | connecting
  | connected
deriving DecidableEq

/-- `struct_cdata` of ae_tcp.c, and what libuv holds for the socket: its `uv_tcp_t`, the pending
connect and shutdown requests on it and the timers of `set_connect_timeout`. libuv is taken to
complete every `uv_shutdown` it has accepted, also of two on one handle. -/
structure Tcp where
  uvInited : Bool := false
  uvCloses : Nat := 0
  uvConnect : Bool := false
  uvReading : Bool := false
  uvShutdowns : Nat := 0
  uvTimers : List UvTimer := []
  uvHandle : Bool := false
  ipType : IpType := .noIp
  status : TcpStatus := .connecting
  releasing : Bool := false
  paused : Bool := false
  shutdownRequested : Bool := false
  connectTimeout : Bool := false
  eofReceived : Bool := false
  encoding : Encoding := .ascii
  timerConnectTimeout : Option Nat := none
deriving DecidableEq

/-- Questions about a handle that change nothing. -/
inductive Query
  | timerDelay (n : Nat)
  | timerInterval (n : Nat)
  | timerAlive (n : Nat)
  | udpIpType (n : Nat)
  | udpIsPaused (n : Nat)
  | udpEncoding (n : Nat)
  | udpAlive (n : Nat)
  | tcpStatus (n : Nat)
  | tcpIsConnected (n : Nat)
  | tcpAlive (n : Nat)
  | isRunning
  | isRunningThread
deriving DecidableEq

/-- The calls of the application into the extension. -/
inductive Call
  | run (args : Args) (uv : UvAnswers)
  | stop
  | nextTick (args : Args)
  | callFromOtherThread (args : Args)
  | onError (args : Args)
  | unsetOnError
  | onExit (args : Args)
  | unsetOnExit
  | query (question : Query)
  | timerNew (args : Args) (uv : UvAnswers)
  | periodicTimerNew (args : Args) (uv : UvAnswers)
  | timerPause (n : Nat) (uv : UvAnswers)
  | timerRestart (n : Nat) (args : Args) (uv : UvAnswers)
  | timerClose (n : Nat)
  | udpNew (args : Args) (uv : UvAnswers)
  | udpSendDatagram (n : Nat) (args : Args) (uv : UvAnswers)
  | udpLocalAddress (n : Nat) (uv : UvAnswers)
  | udpPause (n : Nat)
  | udpResume (n : Nat)
  | udpSetEncoding (n : Nat) (encoding : Encoding)
  | udpClose (n : Nat)
  | dnsResolve (args : Args) (uv : UvAnswers)
  | tcpNew (args : Args) (uv : UvAnswers)
  | tcpSendData (n : Nat) (args : Args) (uv : UvAnswers)
  | tcpLocalAddress (n : Nat) (uv : UvAnswers)
  | tcpPeerAddress (n : Nat) (uv : UvAnswers)
  | tcpSetConnectTimeout (n : Nat) (timeout : Value) (uv : UvAnswers)
  | tcpClose (n : Nat)
  | tcpCloseGracefully (n : Nat) (args : Args) (uv : UvAnswers)
deriving DecidableEq

inductive Callback
  | nextTick (proc : Nat)
  | callFromOtherThread (proc : Nat)
  | onFire (n : Nat) (proc : Nat)
  | onConnected (n : Nat)
  | onConnectionError (n : Nat) (error : RubyError)
  | onDataReceived (n : Nat) (data : List UInt8) (encoding : Encoding)
  | onDisconnected (n : Nat) (error : Option RubyError)
  | onDatagramReceived (n : Nat) (datagram : List UInt8) (encoding : Encoding) (source : Value)
  | onSend (procId : Nat) (proc : Nat) (error : Option RubyError)
  | onResult (procId : Nat) (proc : Nat) (result : Except RubyError (List (List UInt8)))
  | onWrite (address : Nat) (proc : Nat) (error : Option RubyError)
  | errorHandler (proc : Nat) (error : RubyError)
  | onExit (proc : Nat) (error : Option RubyError)
  | checkInts

/-- A request whose completion calls a block: by the key of its proc in `@_procs`, or by the
address of its block. -/
inductive Request
  | proc (procId : Nat)
  | block (address : Nat)
deriving DecidableEq

/-- The static `last_uv_recv_callback_data`, which all UDPSockets share, and the `recv_buffer` of
each of them. -/
structure RecvData where
  cdata : Nat := 0
  nread : Nat := 0
  addr : List UInt8 := []
  recvBuffers : Nat → List UInt8 := fun _ => []

/-- What can be seen of a run. -/
inductive Event
  | started (callback : Callback) (status : AeStatus)
  | returned (call : Call) (result : Return)
  | ran (result : Return)
  | inserted (handle : Handle) (status : AeStatus)
  | accepted (request : Request) (proc : Nat)
  | completed (request : Request) (error : Option RubyError) (status : AeStatus)
  | shutdown (n : Nat) (closed : Bool)
  | switched (answers : List Int) (tested : Int)
  | invalidIpType

/-- The process is gone. -/
inductive Fault
  | assertion
  | closeNull
  | useNull
  | uninitialised
deriving DecidableEq

structure UvWrite where
  socket : Nat
  data : List UInt8
  onWriteBlock : Option WriteBlock
deriving DecidableEq

structure UdpSend where
  socket : Nat
  datagram : List UInt8
  ip : List UInt8
  port : Int
  onSendProcId : Option Nat
deriving DecidableEq

/-- The C variables, the instance variables of the AsyncEngine module, the handles and what
libuv holds. A pointer to an internal handle is `none` when it is NULL, and otherwise tells
whether the idle handle is active or the async handle was sent. The trace is newest first. -/
structure World where
  status : AeStatus := .stopped
  uvLoop : Bool := false
  thread : Option Nat := none
  pid : Int := -1
  mutex : Option Nat := none
  handles : List Handle := []
  procs : List (Nat × Nat) := []
  procLongId : Nat := 0
  nextTickProcs : List Tick := []
  callFromOtherThreadProcs : List Tick := []
  userErrorHandler : Option Nat := none
  exitError : Option RubyError := none
  onExitProcs : List Nat := []
  nextTickUvIdle : Option Bool := none
  callFromOtherThreadUvAsync : Option Bool := none
  ubfUvAsync : Option Bool := none
  timers : List Timer := []
  udps : List Udp := []
  tcps : List Tcp := []
  tcpWrites : List UvWrite := []
  udpSends : List UdpSend := []
  recvData : RecvData := {}
  lookups : List Nat := []
  registered : List Nat := []
  nextAddress : Nat := 0
  currentThread : Nat := 0
  getpid : Int := 1
  trace : List Event := []
  fault : Option Fault := none

/-- A C function that waits for the end of user code or of another function of the engine. -/
inductive Frame
  | protect
  | batch (fromOtherThread : Bool) (procs : List Tick)
  | handleError
  | release (keys : List Handle)
  | destroying (n : Nat)
  | closing (n : Nat)
  | onExit (procs : List Nat) (capturedError : Option RubyError)

/-- How a method goes on: it ends, or it starts user code and a frame waits for it. -/
inductive Outcome
  | ends (result : Return)
  | calls (callback : Callback) (frame : Frame)

abbrev Outcome.value (v : Value) : Outcome := .ends (.value v)

abbrev Outcome.raised (error : RubyError) : Outcome := .ends (.raised error)

/-- The method goes on only if its argument checks pass. -/
def checked {α : Type} (w : World) (check : Check α) (go : α → World × Outcome) :
    World × Outcome :=
  match check with
  | .ok a => go a
  | .error result => (w, .ends result)

def World.push (w : World) (event : Event) : World := { w with trace := event :: w.trace }

def World.start (w : World) (callback : Callback) : World := w.push (.started callback w.status)

/-- The process ends here: no step is possible after a fault. -/
def World.abort (w : World) (fault : Fault) : World := { w with fault := some fault }

def World.setTimer (w : World) (n : Nat) (t : Timer) : World :=
  { w with timers := w.timers.set n t }

def World.setUdp (w : World) (n : Nat) (u : Udp) : World := { w with udps := w.udps.set n u }

def World.setTcp (w : World) (n : Nat) (t : Tcp) : World := { w with tcps := w.tcps.set n t }

def aeCheckStatus (status : AeStatus) : Check Unit :=
  match status with
  | .running => pure ()
  | .releasing => .error (.value .false)
  | .stopped => rbRaise .notRunning

def checkUvHandleIsOpen (uvHandle : Bool) : Check Unit :=
  if uvHandle then pure () else .error (.value .false)

def aeStoreHandle (w : World) (h : Handle) : World :=
  { w with handles := if h ∈ w.handles then w.handles else w.handles ++ [h] }.push
    (.inserted h w.status)

def aeRemoveHandle (w : World) (h : Handle) : World :=
  { w with handles := w.handles.filter (· ≠ h) }

/-- The key under which the proc is stored is the new `procLongId`. -/
def aeStoreProc (w : World) (proc : Nat) : World :=
  { w with procLongId := w.procLongId + 1, procs := w.procs ++ [(w.procLongId + 1, proc)] }

def aeRemoveProc (w : World) (procId : Nat) : World × Option Nat :=
  ({ w with procs := w.procs.filter (·.1 ≠ procId) }, w.procs.lookup procId)

/-- The codes that libuv reports all have an entry in `AE::UV_ERRORS`. -/
def aeGetLastUvError (uv : UvAnswers) : RubyError := .uv uv.lastError

/-- A switch over `ip_type` that calls libuv for the two plain families and assigns the result
to a variable: the results of the calls and the value of the variable after it. -/
def switchIpType (ipType : IpType) (answer before : Int) : List Int × Int :=
  match ipType with
  | .ipv4 => ([answer], answer)
  | .ipv6 => ([answer], answer)
  | _ => ([], before)

def aeIpUtilsGetIpPort (w : World) (address : List UInt8) (ipType : IpType) : World × Value :=
  match ipType with
  | .ipv4 => (w, .ipPort address .ipv4)
  | .ipv6 => (w, .ipPort address .ipv6)
  -- `AE_ASSERT("invalid ip_type")` never fails; an uninitialised buffer is read.
  | _ => (w.push .invalidIpType, .other)

end AsyncEngine.Engine.State
