/- ae_udp.c. -/

import AsyncEngine.Engine.State

set_option autoImplicit false
set_option relaxedAutoImplicit false

namespace AsyncEngine.Engine.Udp

open AsyncEngine.IpParser.Machine
open AsyncEngine.Engine.Ruby
open AsyncEngine.Engine.State

def closeHandle (w : World) (n : Nat) (u : State.Udp) : World :=
  if u.uvHandle then
    match u.aeHandleId with
    | some id =>
      aeRemoveHandle (w.setUdp n
        { u with uvHandle := false, uvCloses := u.uvCloses + 1, uvReceiving := false }) (.udp id)
    | none => w.abort .uninitialised
  else w.abort .closeNull

structure NewArgs where
  bindIp : List UInt8
  bindPort : Int
  ipType : IpType

def newArgs (status : AeStatus) (args : Args) : Check NewArgs := do
  aeCheckStatus status
  checkNumArgs args 2 2
  let bindIp ← stringValueCStr (← getString args.argv[0]? "bind IP must be a String")
  let bindPort ← checkPort args.argv[1]? "bind port must be a Fixnum" "invalid bind port value"
  let ipType := ipTypeOf bindIp
  if ipType = .noIp then rbRaise (.type "bind IP is not valid IPv4 or IPv6")
  else pure ⟨bindIp, bindPort, ipType⟩

/-- `init_instance` on the new instance, which is the last of the UDPSockets. -/
def initInstance (w : World) (ipType : IpType) (uv : UvAnswers) : World × Outcome :=
  let n := w.udps.length
  -- The instance as its alloc function and `uv_udp_init` leave it.
  let u : State.Udp := { uvInited := decide (uv.init = 0) }
  let w := { w with udps := w.udps ++ [u] }
  if uv.init ≠ 0 then (w, .raised (aeGetLastUvError uv))
  else
    -- The switch finds in `r` the zero of `uv_udp_init`.
    let bound := switchIpType ipType uv.bind uv.init
    let w := w.push (.switched bound.1 bound.2)
    if bound.2 ≠ 0 then (closeHandle w n u, .raised (aeGetLastUvError uv))
    else if uv.recvStart ≠ 0 then (closeHandle w n u, .raised (aeGetLastUvError uv))
    else
      let u := { u with
        uvHandle := true, uvReceiving := true, ipType := ipType, paused := false,
        encoding := .ascii, aeHandleId := some n }
      (aeStoreHandle (w.setUdp n u) (.udp n), .value .other)

def new (w : World) (args : Args) (uv : UvAnswers) : World × Outcome :=
  checked w (newArgs w.status args) fun p => initInstance w p.ipType uv

/-- libuv writes what it has received into the buffer that `_uv_alloc_callback` returns. -/
def uvAllocCallback (d : RecvData) (n : Nat) (datagram : List UInt8) : RecvData :=
  { d with recvBuffers := fun m =>
      if m = n then datagram ++ (d.recvBuffers m).drop datagram.length else d.recvBuffers m }

def aeRecvCallback (w : World) : World × Option Callback :=
  let d := w.recvData
  match w.udps[d.cdata]? with
  | none => (w, none)
  | some u =>
    let datagram := (d.recvBuffers d.cdata).take d.nread
    let (w, ipPort) := aeIpUtilsGetIpPort w d.addr u.ipType
    (w, some (.onDatagramReceived d.cdata datagram u.encoding ipPort))

/-- `_uv_recv_callback`, for `nread` bytes from an address; `none` is a transmission error. -/
def uvRecvCallback (w : World) (n : Nat) (u : State.Udp)
    (received : Option (List UInt8 × List UInt8)) : World × Option Callback :=
  let w := match received with
    | none => w
    | some (datagram, _) => { w with recvData := uvAllocCallback w.recvData n datagram }
  if w.status = .releasing then (w, none)
  else
    match received with
    | none => (w, none)
    | some ([], _) => (w, none)
    | some (datagram, source) =>
      if u.paused then (w, none)
      else
        aeRecvCallback { w with recvData := { w.recvData with
          cdata := n, nread := datagram.length, addr := source } }

structure SendArgs where
  datagram : List UInt8
  ip : List UInt8
  port : Int
  proc : Option Nat

def sendArgs (u : State.Udp) (args : Args) : Check SendArgs := do
  checkNumArgs args 3 4
  checkUvHandleIsOpen u.uvHandle
  let proc ← getBlockOrProc 4 args
  let datagram ← getString args.argv[0]? "datagram must be a String"
  let ip ← stringValueCStr (← getString args.argv[1]? "destination IP must be a String")
  let port ← checkPort args.argv[2]? "destination port must be a Fixnum"
    "invalid destination port value"
  if u.ipType ≠ ipTypeOf ip then rbRaise (.type "invalid destination IP family")
  else pure ⟨← copyBytes datagram, ip, port, proc⟩

def sendDatagram (w : World) (n : Nat) (u : State.Udp) (args : Args) (uv : UvAnswers) :
    World × Outcome :=
  checked w (sendArgs u args) fun p =>
    let onSendProcId := p.proc.map fun _ => w.procLongId + 1
    let w := match p.proc with
      | some proc => aeStoreProc w proc
      | none => w
    let sent := switchIpType u.ipType uv.send uv.unassigned
    let w := w.push (.switched sent.1 sent.2)
    -- libuv holds the request if it was called and accepted it.
    let w := if sent.1 = [0] then
        { w with udpSends := w.udpSends ++ [⟨n, p.datagram, p.ip, p.port, onSendProcId⟩] }
      else w
    let w := match p.proc with
      | some proc => if sent.1 = [0] then w.push (.accepted (.proc w.procLongId) proc) else w
      | none => w
    if sent.2 ≠ 0 then (w, .raised (aeGetLastUvError uv)) else (w, .value .true)

/-- `_uv_send_callback` and `_ae_send_callback` for a request that is no longer pending. -/
def uvSendCallback (w : World) (send : UdpSend) (error : Option RubyError) :
    World × Option Callback :=
  match send.onSendProcId with
  | none => (w, none)
  | some id =>
    let w := w.push (.completed (.proc id) error w.status)
    let (w, proc) := aeRemoveProc w id
    if w.status = .releasing then (w, none)
    else
      match proc with
      | some proc => (w, some (.onSend id proc error))
      | none => (w.abort .assertion, none)

def localAddress (w : World) (u : State.Udp) (uv : UvAnswers) : World × Outcome :=
  checked w (checkUvHandleIsOpen u.uvHandle) fun _ =>
    match uv.getname with
    | none => (w, .raised (aeGetLastUvError uv))
    | some address =>
      let (w, v) := aeIpUtilsGetIpPort w address u.ipType
      (w, .value v)

def ipType (u : State.Udp) : Value :=
  if u.uvHandle then
    match u.ipType with
    | .ipv4 => .symbol "ipv4"
    | .ipv6 => .symbol "ipv6"
    | .ipv6Reference => .symbol "ipv6_reference"
    | .noIp => .nil
  else .false

def pause (w : World) (n : Nat) (u : State.Udp) : World × Outcome :=
  checked w (checkUvHandleIsOpen u.uvHandle) fun _ =>
    (w.setUdp n { u with paused := true }, .value .true)

def resume (w : World) (n : Nat) (u : State.Udp) : World × Outcome :=
  checked w (checkUvHandleIsOpen u.uvHandle) fun _ =>
    (w.setUdp n { u with paused := false }, .value .true)

def isPaused (u : State.Udp) : Value :=
  if u.uvHandle then if u.paused then .true else .false else .false

/-- `set_encoding_external`, `set_encoding_utf8` and `set_encoding_ascii`. -/
def setEncoding (w : World) (n : Nat) (u : State.Udp) (encoding : Encoding) : World × Outcome :=
  checked w (checkUvHandleIsOpen u.uvHandle) fun _ =>
    (w.setUdp n { u with encoding := encoding }, .value .true)

def encoding (u : State.Udp) : Value :=
  if u.uvHandle then
    match u.encoding with
    | .external => .symbol "external"
    | .utf8 => .symbol "utf8"
    | .ascii => .symbol "ascii"
  else .false

def isAlive (u : State.Udp) : Value := if u.uvHandle then .true else .false

def close (w : World) (n : Nat) (u : State.Udp) : World × Outcome :=
  checked w (checkUvHandleIsOpen u.uvHandle) fun _ => (closeHandle w n u, .value .true)

/-- `UDPSocket#destroy` does what `UDPSocket#close` does. -/
def destroy (w : World) (n : Nat) (u : State.Udp) : World × Outcome :=
  checked w (checkUvHandleIsOpen u.uvHandle) fun _ => (closeHandle w n u, .value .true)

end AsyncEngine.Engine.Udp
