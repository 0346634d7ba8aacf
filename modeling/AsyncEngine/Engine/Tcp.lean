/- ae_tcp.c. -/

import AsyncEngine.Engine.State

set_option autoImplicit false
set_option relaxedAutoImplicit false

namespace AsyncEngine.Engine.Tcp

open AsyncEngine.IpParser.Machine
open AsyncEngine.Engine.Ruby
open AsyncEngine.Engine.State

def uvEof : Int := 1

def uvEtimedout : Int := 40

/-- `AE_CLOSE_UV_HANDLE(cdata->_uv_handle)` and `cdata->_uv_handle = NULL`. -/
def closeUvHandle (t : State.Tcp) : State.Tcp :=
  { t with uvHandle := false, uvCloses := t.uvCloses + 1, uvReading := false }

/-- `_ae_cancel_timer_connect_timeout`, if the timer is set. -/
def cancelTimerConnectTimeout (t : State.Tcp) : State.Tcp :=
  match t.timerConnectTimeout with
  | none => t
  | some k =>
    { t with
      uvTimers := t.uvTimers.modify k fun u => { active := false, closes := u.closes + 1 },
      timerConnectTimeout := none }

structure NewArgs where
  destIp : List UInt8
  destPort : Int
  bindIp : Option (List UInt8)
  bindPort : Int
  ipType : IpType

def bindIpOf (v : Option Value) : Check (Option (List UInt8)) :=
  match v with
  | none => pure none
  | some (.string s) => some <$> stringValueCStr s
  | some .nil => pure none
  | some _ => rbRaise (.type "bind IP must be a String")

def bindPortOf (v : Option Value) : Check Int :=
  match v with
  | none => pure 0
  | some .nil => pure 0
  | some v => checkPort (some v) "bind port must be a Fixnum" "invalid bind port value"

def newArgs (status : AeStatus) (args : Args) : Check NewArgs := do
  aeCheckStatus status
  checkNumArgs args 2 4
  let destIp ← stringValueCStr (← getString args.argv[0]? "destination IP must be a String")
  let destPort ← checkPort args.argv[1]? "destination port must be a Fixnum"
    "invalid destination port value"
  let bindIp ← bindIpOf args.argv[2]?
  let bindPort ← if bindIp.isSome then bindPortOf args.argv[3]? else pure 0
  let ipType := ipTypeOf destIp
  if ipType = .noIp then rbRaise (.type "destination IP is not valid IPv4 or IPv6")
  else
    match bindIp with
    | none => pure ⟨destIp, destPort, none, bindPort, ipType⟩
    | some ip =>
      if ipTypeOf ip = .noIp then rbRaise (.type "bind IP is not valid IPv4 or IPv6")
      else if ipTypeOf ip ≠ ipType then
        rbRaise (.type "bind IP does not belong to the same IP family of the destination IP")
      else pure ⟨destIp, destPort, some ip, bindPort, ipType⟩

/-- `init_instance` on the new instance, which is the last of the TCPSockets. -/
def initInstance (w : World) (p : NewArgs) (uv : UvAnswers) : World × Outcome :=
  let n := w.tcps.length
  -- A raise leaves an instance that nothing refers to, its handle initialised and closed or not.
  let fail (w : World) (uvInited : Bool) (uvCloses : Nat) : World × Outcome :=
    ({ w with tcps := w.tcps ++ [{ uvInited := uvInited, uvCloses := uvCloses }] },
      .raised (aeGetLastUvError uv))
  if uv.init ≠ 0 then fail w false 0
  else
    let bound := p.bindIp.map fun _ => switchIpType p.ipType uv.bind uv.unassigned
    let w := match bound with
      | some bound => w.push (.switched bound.1 bound.2)
      | none => w
    let ret := match bound with
      | some bound => bound.2
      | none => uv.unassigned
    if bound.isSome ∧ ret ≠ 0 then fail w true 1
    else
      let connected := switchIpType p.ipType uv.connect ret
      let w := w.push (.switched connected.1 connected.2)
      if connected.2 ≠ 0 then fail w true 1
      else
        let t : State.Tcp := {
          uvInited := true, uvConnect := decide (connected.1 = [0]), uvHandle := true,
          ipType := p.ipType, status := .connecting, encoding := .ascii }
        (aeStoreHandle { w with tcps := w.tcps ++ [t] } (.tcp n), .value .other)

def new (w : World) (args : Args) (uv : UvAnswers) : World × Outcome :=
  checked w (newArgs w.status args) fun p => initInstance w p uv

/-- `_uv_connect_callback` and `_ae_connect_callback`; the request is no longer pending. -/
def uvConnectCallback (w : World) (n : Nat) (t : State.Tcp) (error : Option Int)
    (uv : UvAnswers) : World × Option Callback :=
  let t := cancelTimerConnectTimeout { t with uvConnect := false }
  match error with
  | none =>
    if t.shutdownRequested then
      if ¬ t.uvHandle then (w.abort .useNull, none)
      else if uv.readStop ≠ 0 ∨ uv.shutdown ≠ 0 then (w.abort .assertion, none)
      else
        let w := w.push (.shutdown n (decide (t.uvCloses ≠ 0)))
        (w.setTcp n { t with
          uvReading := false, uvShutdowns := t.uvShutdowns + 1, status := .connected },
          some (.onConnected n))
    else if uv.readStart ≠ 0 then (w.abort .assertion, none)
    else (w.setTcp n { t with uvReading := true, status := .connected }, some (.onConnected n))
  | some errno =>
    let t := if t.uvCloses ≠ 0 then t else closeUvHandle t
    let error := if t.connectTimeout then .uv uvEtimedout else .uv errno
    (aeRemoveHandle (w.setTcp n t) (.tcp n), some (.onConnectionError n error))

/-- What the read callback is given: nothing read, some bytes, the end of the stream, which is the
error `UV_EOF`, or another error. -/
inductive Read
  | nothing
  | data (bytes : List UInt8)
  | eof
  | error (errno : Int) (other : errno ≠ uvEof)

/-- `_uv_read_callback` and `_ae_read_callback`. -/
def uvReadCallback (w : World) (n : Nat) (t : State.Tcp) (read : Read) (uv : UvAnswers) :
    World × Option Callback :=
  match read with
  | .nothing => (w, none)
  | .data bytes => (w, if t.paused then none else some (.onDataReceived n bytes t.encoding))
  | .eof =>
    if ¬ t.uvHandle then (w.abort .useNull, none)
    else if uv.readStop ≠ 0 ∨ uv.shutdown ≠ 0 then (w.abort .assertion, none)
    else
      let w := w.push (.shutdown n (decide (t.uvCloses ≠ 0)))
      (w.setTcp n { t with
        uvReading := false, uvShutdowns := t.uvShutdowns + 1, eofReceived := true }, none)
  | .error errno _ =>
    (aeRemoveHandle (w.setTcp n (closeUvHandle t)) (.tcp n),
      some (.onDisconnected n (some (.uv errno))))

structure SendArgs where
  data : List UInt8
  block : Option Nat

def sendArgs (t : State.Tcp) (args : Args) : Check SendArgs := do
  checkNumArgs args 1 2
  checkUvHandleIsOpen t.uvHandle
  let block ← getBlockOrProc 2 args
  let data ← getString args.argv[0]? "data must be a String"
  pure ⟨← copyBytes data, block⟩

def sendData (w : World) (n : Nat) (t : State.Tcp) (args : Args) (uv : UvAnswers) :
    World × Outcome :=
  checked w (sendArgs t args) fun p =>
    match p.block with
    | none =>
      if uv.write ≠ 0 then (w, .raised (aeGetLastUvError uv))
      else ({ w with tcpWrites := w.tcpWrites ++ [⟨n, p.data, none⟩] }, .value .true)
    | some proc =>
      let address := w.nextAddress
      let w := { w with nextAddress := address + 1, registered := w.registered ++ [address] }
      if uv.write ≠ 0 then
        ({ w with registered := w.registered.filter (· ≠ address) },
          .raised (aeGetLastUvError uv))
      else
        let w := w.push (.accepted (.block address) proc)
        ({ w with tcpWrites := w.tcpWrites ++ [⟨n, p.data, some ⟨address, proc⟩⟩] },
          .value .true)

/-- `_uv_write_callback` and `_ae_write_callback`; the request is no longer pending. -/
def uvWriteCallback (w : World) (t : State.Tcp) (write : UvWrite) (error : Option RubyError) :
    World × Option Callback :=
  match write.onWriteBlock with
  | none => (w, none)
  | some block =>
    let w := w.push (.completed (.block block.address) error w.status)
    ({ w with registered := w.registered.filter (· ≠ block.address) },
      if t.releasing then none else some (.onWrite block.address block.proc error))

def localAddress (w : World) (t : State.Tcp) (uv : UvAnswers) : World × Outcome :=
  checked w (checkUvHandleIsOpen t.uvHandle) fun _ =>
    match uv.getname with
    | none => (w, .value .nil)
    | some address =>
      let (w, v) := aeIpUtilsGetIpPort w address t.ipType
      (w, .value v)

def peerAddress (w : World) (t : State.Tcp) (uv : UvAnswers) : World × Outcome :=
  checked w (checkUvHandleIsOpen t.uvHandle) fun _ =>
    if t.status ≠ .connected then (w, .value .nil)
    else
      match uv.getname with
      | none => (w, .value .nil)
      | some address =>
        let (w, v) := aeIpUtilsGetIpPort w address t.ipType
        (w, .value v)

def setConnectTimeout (w : World) (n : Nat) (t : State.Tcp) (timeout : Value) (uv : UvAnswers) :
    World × Outcome :=
  let check : Check Int := do
    checkUvHandleIsOpen t.uvHandle
    if t.status = .connected ∨ t.timerConnectTimeout.isSome then .error (.value .nil)
    else delayOf (some timeout)
  checked w check fun _ =>
    let t := { t with
      uvTimers := t.uvTimers ++ [{ active := decide (uv.timerStart = 0) }],
      timerConnectTimeout := some t.uvTimers.length }
    if uv.timerStart ≠ 0 then
      (w.setTcp n (cancelTimerConnectTimeout t), .raised (aeGetLastUvError uv))
    else (w.setTcp n t, .value .true)

def uvTimerConnectTimeoutCallback (w : World) (n : Nat) (t : State.Tcp) : World :=
  if t.timerConnectTimeout.isNone then w.abort .assertion
  else if ¬ t.uvHandle then w.abort .closeNull
  else
    w.setTcp n (closeUvHandle { cancelTimerConnectTimeout t with connectTimeout := true })

def status (t : State.Tcp) : Value :=
  if t.uvHandle then
    match t.status with
    | .connecting => .symbol "connecting"
    | .connected => .symbol "connected"
  else .symbol "closed"

def isConnected (t : State.Tcp) : Value :=
  if t.uvHandle then if t.status = .connected then .true else .false else .false

def isAlive (t : State.Tcp) : Value := if t.uvHandle then .true else .false

def close (w : World) (n : Nat) (t : State.Tcp) : World × Outcome :=
  checked w (checkUvHandleIsOpen t.uvHandle) fun _ =>
    let w := w.setTcp n (cancelTimerConnectTimeout (closeUvHandle t))
    if t.status = .connected then
      (aeRemoveHandle w (.tcp n), .calls (.onDisconnected n none) (.closing n))
    else (w, .value .true)

def closeGracefully (w : World) (n : Nat) (t : State.Tcp) (args : Args) (uv : UvAnswers) :
    World × Outcome :=
  let check : Check Unit := do
    checkUvHandleIsOpen t.uvHandle
    checkNumArgs args 0 1
    if t.shutdownRequested then .error (.value .false) else pure ()
  checked w check fun _ =>
    if t.status = .connected then
      if uv.readStop ≠ 0 then (w.abort .assertion, .value .nil)
      else
        let t := { t with uvReading := false }
        if uv.shutdown ≠ 0 then (w.setTcp n t, .raised (aeGetLastUvError uv))
        else
          let w := w.push (.shutdown n (decide (t.uvCloses ≠ 0)))
          (w.setTcp n { t with uvShutdowns := t.uvShutdowns + 1, shutdownRequested := true },
            .value .true)
    else (w.setTcp n { t with shutdownRequested := true }, .value .true)

/-- `_uv_shutdown_callback` and `_ae_shutdown_callback`; the request is no longer pending. -/
def uvShutdownCallback (w : World) (n : Nat) (t : State.Tcp) : World × Option Callback :=
  if t.uvHandle ∧ t.uvCloses = 0 then
    let error := if t.eofReceived then some (.uv uvEof) else none
    (aeRemoveHandle (w.setTcp n (closeUvHandle t)) (.tcp n), some (.onDisconnected n error))
  else (w.setTcp n t, none)

def destroy (w : World) (n : Nat) (t : State.Tcp) : World × Outcome :=
  checked w (checkUvHandleIsOpen t.uvHandle) fun _ =>
    let t := { cancelTimerConnectTimeout (closeUvHandle t) with releasing := true }
    let w := w.setTcp n t
    if t.status = .connected then
      (aeRemoveHandle w (.tcp n), .calls (.onDisconnected n none) (.destroying n))
    else (w, .value .true)

end AsyncEngine.Engine.Tcp
