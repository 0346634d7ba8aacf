/- What keeps the `cdata` of a handle alive: libuv holds a bare pointer to it, and only the entry of
   the object in `@_handles` keeps Ruby from freeing it. -/

import AsyncEngine.Engine.LoopEnds

set_option autoImplicit false
set_option relaxedAutoImplicit false

namespace AsyncEngine.Engine.Collection

open AsyncEngine.Lib.Run
open AsyncEngine.Lib.Registry
open AsyncEngine.Engine.Ruby
open AsyncEngine.Engine.State
open AsyncEngine.Engine.Machine
open AsyncEngine.Engine.Effects
open AsyncEngine.Engine.Steps
open AsyncEngine.Engine.Handles
open AsyncEngine.Engine.TcpMoves
open AsyncEngine.Engine.TcpLife
open AsyncEngine.Engine.IpTypes
open AsyncEngine.Engine.Release
open AsyncEngine.Engine.InternalHandles
open AsyncEngine.Engine.LoopEnds

/-- The object whose `cdata` the callback of libuv reads through `handle->data`. The end of a
`uv_write` reads it only for a block, the end of a `uv_udp_send` and of a lookup never do. -/
def reads (w : World) : UvEvent → Option Handle
  | .timer n => some (.timer n)
  | .recv n _ => some (.udp n)
  | .connect n _ _ => some (.tcp n)
  | .read n _ _ => some (.tcp n)
  | .shutdown n _ => some (.tcp n)
  | .connectTimeout n _ => some (.tcp n)
  | .write k _ =>
    match w.tcpWrites[k]? with
    | some write => if write.onWriteBlock.isSome then some (.tcp write.socket) else none
    | none => none
  | _ => none

/-- The object is open, or libuv still tries to connect it. -/
def Kept (w : World) : Handle → Prop
  | .timer n => OpenAt (·.uvHandle) w.timers n
  | .udp n => OpenAt (·.uvHandle) w.udps n
  | .tcp n => ∃ t, w.tcps[n]? = some t ∧ (t.uvHandle = true ∨ t.uvConnect = true)

/-- The event ends a write or a shutdown of a socket that was closed meanwhile. -/
def Stray (w : World) : UvEvent → Prop
  | .write k _ => ∃ write, w.tcpWrites[k]? = some write ∧ ¬ Kept w (.tcp write.socket)
  | .shutdown n _ => ¬ Kept w (.tcp n)
  | _ => False

/-- A TCPSocket is made with a plain address. -/
def PlainAt (w : World) : Handle → Prop
  | .tcp n => ∀ t, w.tcps[n]? = some t → Plain t
  | _ => True

variable {c c' : Config}

/-- `@_handles` has a TCPSocket from its `init_instance` to the end of its connect request or to the
closing of its handle, whichever comes last. -/
private theorem phase_stored {t : State.Tcp} {stored : Prop} {cbs : List TcpCallback}
    (phase : Phase t stored cbs) (sane : Sane t) :
    stored ↔ t.uvHandle = true ∨ t.uvConnect = true := by
  cases phase with
  | connecting pending here => exact iff_of_true here (.inr pending)
  | connected opened status here k => exact iff_of_true here (.inl opened)
  | refused closed idle status gone =>
    refine iff_of_false gone ?_
    rw [closed, idle]
    rintro (opened | pending)
    · cases opened
    · cases pending
  | disconnected closed status gone k =>
    refine iff_of_false gone ?_
    rintro (opened | pending)
    · rw [closed] at opened
      cases opened
    -- A request that is pending is one of a socket that still connects.
    · have connecting := (sane.pending pending).1
      rw [status] at connecting
      cases connecting

/-- `@_handles` has exactly the objects that are open or that libuv still tries to connect. -/
theorem stored_iff_kept (inv : ReleaseInv c) {key : Handle} (plain : PlainAt c.world key) :
    key ∈ c.world.handles ↔ Kept c.world key := by
  cases key with
  | timer n => exact inv.handles.timers.table.stored_iff n
  | udp n => exact inv.handles.udps.table.stored_iff n
  | tcp n =>
    have tcp := inv.tcps n
    cases at_n : c.world.tcps[n]? with
    | none =>
      refine iff_of_false (tcp.absent at_n).1 ?_
      rintro ⟨t, found, -⟩
      rw [at_n] at found
      cases found
    | some t =>
      have stored := phase_stored ((tcp.known t at_n).phase (plain t at_n)) (tcp.sane t at_n)
      refine stored.trans ⟨fun here => ⟨t, at_n, here⟩, ?_⟩
      rintro ⟨t', found, here⟩
      obtain rfl := Option.some.inj (at_n.symm.trans found)
      exact here

/-- What libuv reports, apart from the end of a write or of a shutdown, it reports of an object that
is open or still connects. -/
private theorem reported_kept (inv : ReleaseInv c) {event : UvEvent} {r : World × Option Callback}
    (reported : Reports c.world event r) {key : Handle} (read : reads c.world event = some key) :
    Kept c.world key ↔ ¬ Stray c.world event := by
  cases reported with
  | ubf sent => cases read
  | @timer n t found active =>
    obtain rfl := Option.some.inj read
    refine iff_of_true ⟨t, found, ?_⟩ id
    exact inv.handles.timers.idle t (List.mem_of_getElem? found) active
  | @recv n u received found receiving =>
    obtain rfl := Option.some.inj read
    refine iff_of_true ⟨u, found, ?_⟩ id
    exact inv.handles.udps.idle u (List.mem_of_getElem? found) receiving
  | sent found socket may => cases read
  | resolved found => cases read
  | connect socket pending may =>
    obtain rfl := Option.some.inj read
    exact iff_of_true ⟨_, socket, .inr pending⟩ id
  | @read n _ _ t socket reading =>
    obtain rfl := Option.some.inj read
    have opened := (((inv.tcps n).sane t socket).reading reading).1
    exact iff_of_true ⟨t, socket, .inl opened⟩ id
  | @write k error write t found socket may =>
    have own : key = .tcp write.socket := by
      simp only [reads, found] at read
      split at read
      · exact (Option.some.inj read).symm
      · cases read
    subst own
    constructor
    · rintro kept ⟨write', found', gone⟩
      obtain rfl := Option.some.inj (found.symm.trans found')
      exact gone kept
    · intro here
      by_contra gone
      exact here ⟨write, found, gone⟩
  | shutdown socket pending may =>
    obtain rfl := Option.some.inj read
    exact not_not.symm
  | @connectTimeout n k t timer socket fired active =>
    obtain rfl := Option.some.inj read
    have sane := (inv.tcps n).sane t socket
    have set : t.timerConnectTimeout ≠ none := by
      rw [sane.active k timer fired active]
      exact Option.some_ne_none k
    exact iff_of_true ⟨t, socket, .inl (sane.timer set).1⟩ id

/-- In every run a callback of libuv for a Timer or for a socket with a plain address reads the
`cdata` of an object that `@_handles` still has, unless it is the end of a write with a block or of
a shutdown and the socket was closed meanwhile: then nothing keeps the object, and Ruby may have
freed what the callback reads. -/
theorem callbacks_read_kept {l : List (Config × Action)} {event : UvEvent} {key : Handle}
    (path : Path engine l c) (move : engine.step c (.event event) = some c')
    (read : reads c.world event = some key) (plain : PlainAt c.world key) :
    key ∈ c.world.handles ↔ ¬ Stray c.world event := by
  have inv := (endInv_of_path path).release
  have idle : event ≠ .idle := by
    rintro rfl
    cases read
  have async : event ≠ .callFromOtherThread := by
    rintro rfl
    cases read
  obtain ⟨r, -, reported, -⟩ := event_inv move idle async
  exact (stored_iff_kept inv plain).trans (reported_kept inv reported read)

/-- A socket is closed before its last write is complete. -/
private def closesFirst : List Action :=
  connectSocket ++ [.call (.tcpSendData 0 ⟨[.string [65]], some 7⟩ {}), .call (.tcpClose 0),
    .finish, .proceed, .finish, .proceed, .proceed]

/-- libuv holds a write with a block of the first socket, which is closed and was plain. -/
private def leftWrite (c : Config) : Bool :=
  match c.world.tcpWrites[0]?, c.world.tcps[0]? with
  | some write, some t => decide (write.socket = 0 ∧ write.onWriteBlock.isSome = true ∧
      t.ipType = .ipv4 ∧ t.uvHandle = false ∧ t.uvConnect = false)
  | _, _ => false

/-- The write of the closed socket ends while nothing keeps its object. -/
theorem callbacks_read_kept_closed : ∃ l c c', Path engine l c ∧
    engine.step c (.event (.write 0 (some 1))) = some c' ∧
    reads c.world (.write 0 (some 1)) = some (.tcp 0) ∧ .tcp 0 ∉ c.world.handles := by
  have reached : (engine.exec closesFirst).any (fun c =>
      leftWrite c && (engine.step c (.event (.write 0 (some 1)))).isSome) = true := by
    decide +kernel
  obtain ⟨l, c, path, seen⟩ := exists_path_of_exec engine _ _ reached
  obtain ⟨left, goes⟩ := Bool.and_eq_true_iff.mp seen
  obtain ⟨c', move⟩ := Option.isSome_iff_exists.mp goes
  unfold leftWrite at left
  split at left
  · rename_i write t found at_0
    obtain ⟨own, block, ip, closed, idle⟩ := of_decide_eq_true left
    have read : reads c.world (.write 0 (some 1)) = some (.tcp 0) := by
      simp [reads, found, own, block]
    have plain : PlainAt c.world (.tcp 0) := by
      intro t' found'
      obtain rfl := Option.some.inj (at_0.symm.trans found')
      exact .inl ip
    have stray : Stray c.world (.write 0 (some 1)) := by
      refine ⟨write, found, ?_⟩
      rw [own]
      rintro ⟨t', found', kept⟩
      obtain rfl := Option.some.inj (at_0.symm.trans found')
      simp [closed, idle] at kept
    exact ⟨l, c, c', path, move, read,
      fun here => (callbacks_read_kept path move read plain).mp here stray⟩
  · cases left

end AsyncEngine.Engine.Collection
