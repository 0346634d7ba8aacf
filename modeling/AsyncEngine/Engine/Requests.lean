/- The procs of UDP sends and DNS resolutions in `@_procs`, the registered blocks of TCP writes,
   and the requests they belong to. -/

import AsyncEngine.Lib.Pending
import AsyncEngine.Engine.Release

set_option autoImplicit false
set_option relaxedAutoImplicit false

namespace AsyncEngine.Engine.Requests

open AsyncEngine.Lib.Run
open AsyncEngine.Lib.Pending
open AsyncEngine.IpParser.Machine
open AsyncEngine.Engine.Ruby
open AsyncEngine.Engine.State
open AsyncEngine.Engine.Machine
open AsyncEngine.Engine.Effects
open AsyncEngine.Engine.Steps
open AsyncEngine.Engine.Loop
open AsyncEngine.Engine.TcpMoves
open AsyncEngine.Engine.TcpLife
open AsyncEngine.Engine.IpTypes
open AsyncEngine.Engine.Release

/-- What happens to a request. -/
inductive Stage
  | accepted (proc : Nat)
  | completed (error : Option RubyError) (status : AeStatus)
  | called (proc : Nat) (error : Option RubyError) (status : AeStatus)

/-- The request that an event is about. -/
def stageOf : Event → Option (Request × Stage)
  | .accepted request proc => some (request, .accepted proc)
  | .completed request error s => some (request, .completed error s)
  | .started (.onSend id proc error) s => some (.proc id, .called proc error s)
  | .started (.onResult id proc result) s =>
    some (.proc id, .called proc (Procs.errorOf result) s)
  | .started (.onWrite address proc error) s => some (.block address, .called proc error s)
  | _ => none

def stagesOf (r : Request) (stages : List (Request × Stage)) : List Stage :=
  stages.filterMap fun x => if x.1 = r then some x.2 else none

/-- What has happened to the request, newest first. -/
def log (r : Request) (w : World) : List Stage := stagesOf r (w.trace.filterMap stageOf)

/-- The proc of a request is called once, with the error of its completion, unless the request is
complete when the engine is not running, or not complete yet. -/
inductive Served : List Stage → Prop
  | unknown : Served []
  | pending (proc : Nat) : Served [.accepted proc]
  | dropped (proc : Nat) (error : Option RubyError) {s : AeStatus} (idle : s ≠ .running) :
      Served [.completed error s, .accepted proc]
  | called (proc : Nat) (error : Option RubyError) (s : AeStatus) :
      Served [.called proc error s, .completed error s, .accepted proc]

/-- The keys in `@_procs` of the requests that libuv holds. -/
def pendingProcs (w : World) : List Nat := w.udpSends.filterMap (·.onSendProcId) ++ w.lookups

/-- The blocks of the writes that libuv holds. -/
def pendingBlocks (w : World) : List WriteBlock := w.tcpWrites.filterMap (·.onWriteBlock)

/-- The tables are those of the pending requests, and every request is served. -/
structure Accounted (w : World) : Prop where
  procs : w.status = .running → Matched (w.procs.map (·.1)) (pendingProcs w)
  blocks : w.status = .running → Matched w.registered ((pendingBlocks w).map (·.address))
  served : ∀ r, Served (log r w)

/-- A datagram with a block is refused by libuv, or not even given to it. -/
def LeavesProc (c : Config) : Action → Prop
  | .call (.udpSendDatagram n args uv) => c.world.status = .running ∧
      ∃ u p, c.world.udps[n]? = some u ∧ Udp.sendArgs u args = .ok p ∧ p.proc ≠ none ∧
        ¬ (Family u.ipType ∧ uv.send = 0)
  | _ => False

structure RequestView where
  status : AeStatus
  procs : List (Nat × Nat)
  procLongId : Nat
  pendingProcs : List Nat
  registered : List Nat
  nextAddress : Nat
  pendingBlocks : List WriteBlock
  stages : List (Request × Stage)

def requestView (w : World) : RequestView where
  status := w.status
  procs := w.procs
  procLongId := w.procLongId
  pendingProcs := pendingProcs w
  registered := w.registered
  nextAddress := w.nextAddress
  pendingBlocks := pendingBlocks w
  stages := w.trace.filterMap stageOf

/-- A step of the engine as the requests see it. -/
inductive RequestMove (v : RequestView) : RequestView → Prop
  | runs (stopped : v.status = .stopped) : RequestMove v { v with status := .running }
  | releases (running : v.status = .running) : RequestMove v { v with status := .releasing }
  | drops (releasing : v.status = .releasing) : RequestMove v { v with procs := [] }
  | stops (procs : v.procs = []) (pending : v.pendingProcs = []) :
      RequestMove v { v with status := .stopped }
  | stores (proc : Nat) (releasing : v.status = .releasing) : RequestMove v { v with
      procs := v.procs ++ [(v.procLongId + 1, proc)], procLongId := v.procLongId + 1 }
  | accepts {pending : List Nat} (proc : Nat) (alive : v.status ≠ .stopped)
      (more : pending.Perm ((v.procLongId + 1) :: v.pendingProcs)) : RequestMove v { v with
        procs := v.procs ++ [(v.procLongId + 1, proc)], procLongId := v.procLongId + 1,
        pendingProcs := pending
        stages := (.proc (v.procLongId + 1), .accepted proc) :: v.stages }
  | dropsProc {id : Nat} {pending : List Nat} (error : Option RubyError)
      (releasing : v.status = .releasing) (one : v.pendingProcs.Perm (id :: pending)) :
      RequestMove v { v with
        procs := v.procs.filter (·.1 ≠ id), pendingProcs := pending
        stages := (.proc id, .completed error v.status) :: v.stages }
  | calls {id proc : Nat} {pending : List Nat} (error : Option RubyError)
      (stored : (id, proc) ∈ v.procs) (running : v.status = .running)
      (one : v.pendingProcs.Perm (id :: pending)) :
      RequestMove v { v with
        procs := v.procs.filter (·.1 ≠ id), pendingProcs := pending
        stages := (.proc id, .called proc error v.status) ::
          (.proc id, .completed error v.status) :: v.stages }
  | refuses : RequestMove v { v with
      registered := (v.registered ++ [v.nextAddress]).filter (· ≠ v.nextAddress)
      nextAddress := v.nextAddress + 1 }
  | writes (proc : Nat) : RequestMove v { v with
      registered := v.registered ++ [v.nextAddress], nextAddress := v.nextAddress + 1
      pendingBlocks := v.pendingBlocks ++ [⟨v.nextAddress, proc⟩]
      stages := (.block v.nextAddress, .accepted proc) :: v.stages }
  | written {block : WriteBlock} {pending : List WriteBlock} (error : Option RubyError)
      (idle : v.status ≠ .running) (one : v.pendingBlocks.Perm (block :: pending)) :
      RequestMove v { v with
        registered := v.registered.filter (· ≠ block.address), pendingBlocks := pending
        stages := (.block block.address, .completed error v.status) :: v.stages }
  | writtenCalls {block : WriteBlock} {pending : List WriteBlock} (error : Option RubyError)
      (one : v.pendingBlocks.Perm (block :: pending)) :
      RequestMove v { v with
        registered := v.registered.filter (· ≠ block.address), pendingBlocks := pending
        stages := (.block block.address, .called block.proc error v.status) ::
          (.block block.address, .completed error v.status) :: v.stages }

structure RequestInv (v : RequestView) : Prop where
  procs : v.status = .running → Matched (v.procs.map (·.1)) v.pendingProcs
  stored : v.status = .running →
    ∀ p ∈ v.procs, stagesOf (.proc p.1) v.stages = [.accepted p.2]
  distinct : v.pendingProcs.Nodup
  known : ∀ id ∈ v.pendingProcs, ∃ proc, stagesOf (.proc id) v.stages = [.accepted proc]
  fresh : ∀ id, v.procLongId < id → stagesOf (.proc id) v.stages = []
  blocks : Matched v.registered (v.pendingBlocks.map (·.address))
  accepted : ∀ block ∈ v.pendingBlocks,
    stagesOf (.block block.address) v.stages = [.accepted block.proc]
  unused : ∀ address, v.nextAddress ≤ address → stagesOf (.block address) v.stages = []
  idle : v.status = .stopped → v.procs = [] ∧ v.pendingProcs = []
  served : ∀ r, Served (stagesOf r v.stages)

section Moves

variable {v v' : RequestView}

theorem stagesOf_self (r : Request) (added : List Stage)
    (stages : List (Request × Stage)) :
    stagesOf r (added.map (Prod.mk r) ++ stages) = added ++ stagesOf r stages := by
  simp [stagesOf, List.filterMap_append, List.filterMap_map]

theorem stagesOf_ne {r r' : Request} (added : List Stage)
    (stages : List (Request × Stage)) (other : r ≠ r') :
    stagesOf r' (added.map (Prod.mk r) ++ stages) = stagesOf r' stages := by
  simp [stagesOf, List.filterMap_append, List.filterMap_map, other]

theorem proc_ne {id id' : Nat} (other : id ≠ id') : Request.proc id ≠ .proc id' :=
  fun same => other (Request.proc.inj same)

theorem block_ne {a a' : Nat} (other : a ≠ a') : Request.block a ≠ .block a' :=
  fun same => other (Request.block.inj same)

private theorem pending_fresh (inv : RequestInv v) {id : Nat} (new : v.procLongId < id) :
    id ∉ v.pendingProcs := by
  intro mem
  obtain ⟨proc, accepted⟩ := inv.known id mem
  rw [inv.fresh id new] at accepted
  cases accepted

private theorem address_fresh (inv : RequestInv v) :
    v.nextAddress ∉ v.pendingBlocks.map (·.address) := by
  intro mem
  obtain ⟨block, here, same⟩ := List.mem_map.mp mem
  have accepted := inv.accepted block here
  rw [same, inv.unused v.nextAddress (Nat.le_refl _)] at accepted
  cases accepted

private theorem served_next (inv : RequestInv v) {r : Request} (added : List Stage)
    (served : Served (added ++ stagesOf r v.stages)) (r' : Request) :
    Served (stagesOf r' (added.map (Prod.mk r) ++ v.stages)) := by
  by_cases same : r = r'
  · subst same
    rw [stagesOf_self]
    exact served
  · rw [stagesOf_ne added v.stages same]
    exact inv.served r'

private theorem pending_other {α : Type} {pending pending' : List α} {a b : α}
    (distinct : pending.Nodup) (one : pending.Perm (a :: pending')) (mem : b ∈ pending') :
    a ≠ b ∧ b ∈ pending := by
  refine ⟨?_, one.symm.subset (List.mem_cons_of_mem _ mem)⟩
  intro same
  subst same
  exact (List.nodup_cons.mp (one.nodup_iff.mp distinct)).1 mem

private theorem requestInv_accepts {pending : List Nat} {proc : Nat} (inv : RequestInv v)
    (alive : v.status ≠ .stopped)
    (more : pending.Perm ((v.procLongId + 1) :: v.pendingProcs)) : RequestInv { v with
      procs := v.procs ++ [(v.procLongId + 1, proc)], procLongId := v.procLongId + 1,
      pendingProcs := pending
      stages := [.accepted proc].map (Prod.mk (.proc (v.procLongId + 1))) ++ v.stages } := by
  have new := inv.fresh (v.procLongId + 1) (by omega)
  have fresh : v.procLongId + 1 ∉ v.pendingProcs := pending_fresh inv (by omega)
  have older {id : Nat} {x : Stage} (log : stagesOf (.proc id) v.stages = [x]) :
      v.procLongId + 1 ≠ id := by
    intro same
    rw [← same, new] at log
    cases log
  have first : stagesOf (.proc (v.procLongId + 1))
      ([.accepted proc].map (Prod.mk (.proc (v.procLongId + 1))) ++ v.stages) =
        [.accepted proc] := by
    rw [stagesOf_self, new, List.append_nil]
  refine { inv with
    procs := ?_, stored := ?_, distinct := ?_, known := ?_, fresh := ?_, accepted := ?_,
    unused := ?_, idle := fun stopped => absurd stopped alive, served := ?_ }
  · intro running
    rw [List.map_append]
    exact (inv.procs running).add fresh more
  · intro running p mem
    rcases List.mem_append.mp mem with old | last
    · have log := inv.stored running p old
      rw [stagesOf_ne _ _ (proc_ne (older log))]
      exact log
    · obtain rfl := List.mem_singleton.mp last
      exact first
  · exact more.nodup_iff.mpr (List.nodup_cons.mpr ⟨fresh, inv.distinct⟩)
  · intro id mem
    rcases List.mem_cons.mp (more.subset mem) with rfl | old
    · exact ⟨proc, first⟩
    · obtain ⟨proc', log⟩ := inv.known id old
      exact ⟨proc', by rw [stagesOf_ne _ _ (proc_ne (older log)), log]⟩
  · intro id above
    have above : v.procLongId + 1 < id := above
    rw [stagesOf_ne _ _ (proc_ne (by omega))]
    exact inv.fresh id (by omega)
  · intro block mem
    rw [stagesOf_ne _ _ (by simp)]
    exact inv.accepted block mem
  · intro address above
    rw [stagesOf_ne _ _ (by simp)]
    exact inv.unused address above
  · exact served_next inv _ (by rw [new]; exact .pending proc)

private theorem requestInv_completes {id : Nat} {pending : List Nat} (added : List Stage)
    (inv : RequestInv v) (alive : v.status ≠ .stopped)
    (one : v.pendingProcs.Perm (id :: pending))
    (served : ∀ proc, stagesOf (.proc id) v.stages = [.accepted proc] →
      Served (added ++ [.accepted proc])) : RequestInv { v with
        procs := v.procs.filter (·.1 ≠ id), pendingProcs := pending
        stages := added.map (Prod.mk (.proc id)) ++ v.stages } := by
  obtain ⟨accepted, log⟩ := inv.known id (one.symm.subset (.head _))
  have distinct := List.nodup_cons.mp (one.nodup_iff.mp inv.distinct)
  refine { inv with
    procs := ?_, stored := ?_, distinct := distinct.2, known := ?_, fresh := ?_, accepted := ?_,
    unused := ?_, idle := fun stopped => absurd stopped alive, served := ?_ }
  · intro running
    have keys : (v.procs.filter (·.1 ≠ id)).map (·.1) =
        (v.procs.map (·.1)).filter (· ≠ id) := by
      rw [List.filter_map]
      rfl
    rw [keys]
    exact (inv.procs running).remove one
  · intro running p mem
    obtain ⟨old, other⟩ := List.mem_filter.mp mem
    rw [stagesOf_ne _ _ (proc_ne (Ne.symm (of_decide_eq_true other)))]
    exact inv.stored running p old
  · intro id' mem
    obtain ⟨other, old⟩ := pending_other inv.distinct one mem
    rw [stagesOf_ne _ _ (proc_ne other)]
    exact inv.known id' old
  · intro id' above
    have other : id ≠ id' := by
      intro same
      rw [same, inv.fresh id' above] at log
      cases log
    rw [stagesOf_ne _ _ (proc_ne other)]
    exact inv.fresh id' above
  · intro block mem
    rw [stagesOf_ne _ _ (by simp)]
    exact inv.accepted block mem
  · intro address above
    rw [stagesOf_ne _ _ (by simp)]
    exact inv.unused address above
  · exact served_next inv _ (by rw [log]; exact served accepted log)

private theorem requestInv_writes {proc : Nat} (inv : RequestInv v) : RequestInv { v with
    registered := v.registered ++ [v.nextAddress], nextAddress := v.nextAddress + 1
    pendingBlocks := v.pendingBlocks ++ [⟨v.nextAddress, proc⟩]
    stages := [.accepted proc].map (Prod.mk (.block v.nextAddress)) ++ v.stages } := by
  have new := inv.unused v.nextAddress (Nat.le_refl _)
  have other {r : Request} {x : Stage} (log : stagesOf r v.stages = [x]) :
      .block v.nextAddress ≠ r := by
    intro same
    rw [← same, new] at log
    cases log
  refine { inv with
    stored := ?_, known := ?_, fresh := ?_, blocks := ?_, accepted := ?_, unused := ?_,
    served := ?_ }
  · intro running p mem
    have log := inv.stored running p mem
    rw [stagesOf_ne _ _ (other log)]
    exact log
  · intro id mem
    obtain ⟨proc', log⟩ := inv.known id mem
    exact ⟨proc', by rw [stagesOf_ne _ _ (other log), log]⟩
  · intro id above
    rw [stagesOf_ne _ _ (by simp)]
    exact inv.fresh id above
  · rw [List.map_append]
    exact inv.blocks.add (address_fresh inv) (List.perm_append_singleton _ _)
  · intro block mem
    rcases List.mem_append.mp mem with old | last
    · have log := inv.accepted block old
      rw [stagesOf_ne _ _ (other log)]
      exact log
    · obtain rfl := List.mem_singleton.mp last
      rw [stagesOf_self, new, List.append_nil]
  · intro address above
    have above : v.nextAddress + 1 ≤ address := above
    rw [stagesOf_ne _ _ (block_ne (by omega))]
    exact inv.unused address (by omega)
  · exact served_next inv _ (by rw [new]; exact .pending proc)

private theorem requestInv_written {block : WriteBlock} {pending : List WriteBlock}
    (added : List Stage) (inv : RequestInv v)
    (one : v.pendingBlocks.Perm (block :: pending))
    (served : Served (added ++ [.accepted block.proc])) : RequestInv { v with
      registered := v.registered.filter (· ≠ block.address), pendingBlocks := pending
      stages := added.map (Prod.mk (.block block.address)) ++ v.stages } := by
  have log := inv.accepted block (one.symm.subset (.head _))
  have addresses := one.map (·.address)
  refine { inv with
    stored := ?_, known := ?_, fresh := ?_, blocks := inv.blocks.remove addresses,
    accepted := ?_, unused := ?_, served := ?_ }
  · intro running p mem
    rw [stagesOf_ne _ _ (by simp)]
    exact inv.stored running p mem
  · intro id mem
    rw [stagesOf_ne _ _ (by simp)]
    exact inv.known id mem
  · intro id above
    rw [stagesOf_ne _ _ (by simp)]
    exact inv.fresh id above
  · intro block' mem
    have other := (pending_other inv.blocks.2 addresses (List.mem_map_of_mem mem)).1
    rw [stagesOf_ne _ _ (block_ne other)]
    exact inv.accepted block' (one.symm.subset (.tail _ mem))
  · intro address above
    have other : block.address ≠ address := by
      intro same
      rw [same, inv.unused address above] at log
      cases log
    rw [stagesOf_ne _ _ (block_ne other)]
    exact inv.unused address above
  · exact served_next inv _ (by rw [log]; exact served)

theorem requestInv_move (move : RequestMove v v') (inv : RequestInv v) : RequestInv v' := by
  cases move with
  | runs stopped =>
    obtain ⟨procs, pending⟩ := inv.idle stopped
    refine { inv with procs := ?_, stored := ?_, idle := ?_ }
    · intro _
      dsimp only
      rw [procs, pending]
      exact matched_nil
    · intro _ p mem
      rw [procs] at mem
      cases mem
    · intro stopped
      cases stopped
  | releases running =>
    refine { inv with procs := ?_, stored := ?_, idle := ?_ } <;>
      intro status <;> cases status
  | drops releasing =>
    have other : v.status ≠ .running ∧ v.status ≠ .stopped := by simp [releasing]
    exact { inv with
      procs := fun running => absurd running other.1
      stored := fun running => absurd running other.1
      idle := fun stopped => absurd stopped other.2 }
  | stops procs pending =>
    refine { inv with procs := ?_, stored := ?_, idle := fun _ => ⟨procs, pending⟩ } <;>
      intro status <;> cases status
  | stores proc releasing =>
    have other : v.status ≠ .running ∧ v.status ≠ .stopped := by simp [releasing]
    refine { inv with
      procs := fun running => absurd running other.1
      stored := fun running => absurd running other.1
      fresh := ?_
      idle := fun stopped => absurd stopped other.2 }
    intro id above
    have above : v.procLongId + 1 < id := above
    exact inv.fresh id (by omega)
  | accepts proc alive more => exact requestInv_accepts inv alive more
  | dropsProc error releasing one =>
    have idle : v.status ≠ .running := by simp [releasing]
    exact requestInv_completes [.completed error v.status] inv (by simp [releasing]) one
      fun proc _ => .dropped proc error idle
  | @calls id proc _ error stored running one =>
    refine requestInv_completes [.called proc error v.status, .completed error v.status] inv
      (by simp [running]) one ?_
    intro accepted log
    have same := log.symm.trans (inv.stored running (id, proc) stored)
    obtain rfl : accepted = proc := by simpa using same
    exact .called accepted error v.status
  | refuses =>
    refine { inv with blocks := ?_, unused := ?_ }
    · dsimp only
      rw [filter_append_fresh fun mem => address_fresh inv (inv.blocks.mem_iff.mp mem)]
      exact inv.blocks
    · intro address above
      have above : v.nextAddress + 1 ≤ address := above
      exact inv.unused address (by omega)
  | writes proc => exact requestInv_writes inv
  | @written block _ error idle one =>
    exact requestInv_written [.completed error v.status] inv one
      (.dropped block.proc error idle)
  | @writtenCalls block _ error one =>
    exact requestInv_written [.called block.proc error v.status, .completed error v.status] inv
      one (.called block.proc error v.status)

end Moves

section Sockets

/-- Nothing is written on a socket before the engine runs, and a socket that was destroyed has
only writes of the loop that is being released. -/
structure SocketInv (v : TcpView) : Prop where
  stopped : v.ae = .stopped → v.writes = [] ∧ ∀ t, v.tcp = some t → t.uvHandle = false
  releasing : ∀ t, v.tcp = some t → t.releasing = true → v.writes ≠ [] → v.ae = .releasing

variable {c c' : Config} {n : Nat} {a : Action} {v v' : TcpView}

private theorem SocketInv.same (inv : SocketInv v) (ae : v'.ae = v.ae)
    (writes : v'.writes.Sublist v.writes)
    (tcp : ∀ t', v'.tcp = some t' → ∃ t, v.tcp = some t ∧
      (t'.uvHandle = true → t.uvHandle = true) ∧ (t'.releasing = true → t.releasing = true)) :
    SocketInv v' := by
  refine ⟨?_, ?_⟩
  · intro stopped
    obtain ⟨empty, closed⟩ := inv.stopped (ae.symm.trans stopped)
    rw [empty] at writes
    refine ⟨List.sublist_nil.mp writes, ?_⟩
    intro t' socket'
    obtain ⟨t, socket, handle, -⟩ := tcp t' socket'
    cases opened : t'.uvHandle with
    | false => rfl
    | true => exact absurd (handle opened) (by simp [closed t socket])
  · intro t' socket' releasing written
    obtain ⟨t, socket, -, flag⟩ := tcp t' socket'
    rw [ae]
    refine inv.releasing t socket (flag releasing) ?_
    intro empty
    rw [empty] at writes
    exact written (List.sublist_nil.mp writes)

private theorem SocketInv.set {t t' : State.Tcp} {stored : Prop} {log : List TcpEvent}
    {waiting : Bool} (inv : SocketInv v) (socket : v.tcp = some t)
    (handle : t'.uvHandle = true → t.uvHandle = true)
    (flag : t'.releasing = true → t.releasing = true) :
    SocketInv { v with tcp := some t', stored := stored, log := log, waiting := waiting } :=
  inv.same rfl (List.Sublist.refl _) fun u at_u => by
    obtain rfl := Option.some.inj at_u
    exact ⟨t, socket, handle, flag⟩

private theorem SocketInv.log {log : List TcpEvent} {waiting : Bool} (inv : SocketInv v) :
    SocketInv { v with log := log, waiting := waiting } :=
  inv.same rfl (List.Sublist.refl _) fun t socket => ⟨t, socket, id, id⟩

private theorem socketInv_destroys {t : State.Tcp} {stored : Prop} {log : List TcpEvent}
    (releasing : v.ae = .releasing) : SocketInv { v with
      tcp := some { Tcp.cancelTimerConnectTimeout (Tcp.closeUvHandle t) with releasing := true }
      stored := stored, log := log } := by
  refine ⟨?_, fun _ _ _ _ => releasing⟩
  intro stopped
  rw [show v.ae = .stopped from stopped] at releasing
  cases releasing

private theorem socketInv_move (move : TcpMove c n a v v') (life : TcpInv v)
    (inv : SocketInv v) (ae : v.ae = c.world.status)
    (release : (∃ keys, .release keys ∈ frames c) → v.ae = .releasing) : SocketInv v' := by
  have flag_kept (t : State.Tcp) : (Tcp.cancelTimerConnectTimeout t).releasing = true →
      t.releasing = true := fun flag => (cancel_fields t).2.2.2.1.symm.trans flag
  have handle_kept (t : State.Tcp) : (Tcp.cancelTimerConnectTimeout t).uvHandle = true →
      t.uvHandle = true := fun opened => (cancel_fields t).1.symm.trans opened
  cases move with
  | runs stopped =>
    refine ⟨?_, fun t socket flag written => absurd (inv.stopped stopped).1 written⟩
    intro other
    cases other
  | releases running =>
    refine ⟨?_, fun t socket flag written => rfl⟩
    intro other
    cases other
  | stops idle unwritten =>
    refine ⟨fun _ => ⟨unwritten, ?_⟩, fun t socket flag written => absurd unwritten written⟩
    intro t socket
    cases opened : t.uvHandle with
    | false => rfl
    | true =>
      obtain ⟨inited, live⟩ := (life.sane t socket).handle.mp opened
      exact absurd live ((idle t socket).2.2.1 inited)
  | fails absent uvInited =>
    have empty := (life.absent absent).2.2.1
    refine ⟨fun _ => ⟨empty, ?_⟩, fun t socket flag written => absurd empty written⟩
    intro t socket
    obtain rfl := Option.some.inj socket
    rfl
  | opens absent call accepted init =>
    have empty := (life.absent absent).2.2.1
    refine ⟨?_, fun t socket flag written => absurd empty written⟩
    intro stopped
    have running := running_of_bind accepted
    rw [← ae, show v.ae = .stopped from stopped] at running
    cases running
  | @connects t socket pending live free =>
    exact inv.set socket (handle_kept { t with uvConnect := false })
      (flag_kept { t with uvConnect := false })
  | @connectsToShutdown t socket pending live requested =>
    exact inv.set socket (handle_kept { t with uvConnect := false })
      (flag_kept { t with uvConnect := false })
  | @failsToConnect t socket pending terminal =>
    refine inv.set socket ?_ ?_
    · dsimp only
      split
      · exact handle_kept { t with uvConnect := false }
      · intro opened
        cases opened
    · dsimp only
      split
      · exact flag_kept { t with uvConnect := false }
      · exact flag_kept { t with uvConnect := false }
  | receives socket reading => exact inv.log
  | endsReading socket reading opened => exact inv.set socket id id
  | failsToRead socket reading terminal other =>
    exact inv.set socket (fun opened => by cases opened) id
  | writes socket opened =>
    refine ⟨?_, ?_⟩
    · intro stopped
      have closed := (inv.stopped stopped).2 _ socket
      rw [closed] at opened
      cases opened
    · intro t at_t flag
      obtain rfl := Option.some.inj (socket.symm.trans at_t)
      rw [(life.known _ socket).releasing flag] at opened
      cases opened
  | written fewer => exact inv.same rfl fewer fun t socket => ⟨t, socket, id, id⟩
  | setsTimeout socket opened connecting unset => exact inv.set socket id id
  | failsToSetTimeout socket opened connecting unset => exact inv.set socket id id
  | @timesOut t k timer socket fired active opened set =>
    exact inv.set socket (fun _ => opened)
      (flag_kept { t with uvTimers := t.uvTimers.set k { timer with active := false } })
  | @closes t socket opened connecting =>
    exact inv.set socket (fun _ => opened) (flag_kept (Tcp.closeUvHandle t))
  | @disconnects t socket opened connected terminal other =>
    exact inv.set socket (fun _ => opened) (flag_kept (Tcp.closeUvHandle t))
  | shutsDown socket opened connected free call few answers => exact inv.set socket id id
  | failsToShutDown socket opened connected => exact inv.set socket id id
  | requestsShutdown socket opened connecting => exact inv.set socket id id
  | isShutDown socket pending opened live terminal =>
    exact inv.set socket (fun opened => by cases opened) id
  | wasClosed socket pending closed => exact inv.set socket id id
  | destroys socket opened connecting at_release =>
    exact socketInv_destroys (release at_release)
  | destroysConnected socket opened connected terminal other at_release =>
    exact socketInv_destroys (release at_release)
  | returns closing => exact inv.log
  | unwinds closing => exact inv.log

/-- `ae_release_loop` waits in the running user code, never in the code that called `AE.run`. -/
private theorem releasing_of_frames (loop : LoopInv c)
    (at_release : ∃ keys, .release keys ∈ frames c) : c.world.status = .releasing := by
  obtain ⟨keys, here⟩ := at_release
  refine loop.draining ⟨keys, ?_⟩
  rcases List.mem_append.mp here with own | below
  · exact own
  · by_cases inside : Inside c.ctl
    · obtain ⟨⟨stack, callers, outer⟩, -⟩ := loop.inside inside
      rw [callers] at below
      exact absurd (outer _ (by simpa using below)) id
    · rw [(loop.alone inside).1] at below
      cases below

end Sockets

section Views

variable {w w' : World}

/-- The step does nothing to the requests, or it is one of their moves. -/
def Sees (w w' : World) : Prop :=
  requestView w' = requestView w ∨ RequestMove (requestView w) (requestView w')

private theorem stages_of_silent {events trace : List Event}
    (silent : ∀ e ∈ events, stageOf e = none) :
    (events ++ trace).filterMap stageOf = trace.filterMap stageOf := by
  rw [List.filterMap_append, List.filterMap_eq_nil_iff.mpr silent, List.nil_append]

private theorem requestView_push {e : Event} (silent : stageOf e = none) :
    requestView (w.push e) = requestView w := by
  unfold requestView
  have stages : (w.push e).trace.filterMap stageOf = w.trace.filterMap stageOf :=
    List.filterMap_cons_none silent
  rw [stages]
  rfl

private theorem quietFrame_view (h : QuietFrame w w') : requestView w' = requestView w := by
  have kept {handles : List Handle} {timers : List State.Timer} {udps : List State.Udp}
      {tcps : List State.Tcp} {recvData : RecvData} {events : List Event} {fault : Option Fault}
      (silent : ∀ e ∈ events, stageOf e = none) : requestView { w with
        handles := handles, timers := timers, udps := udps, tcps := tcps, recvData := recvData,
        trace := events ++ w.trace, fault := fault } = requestView w := by
    unfold requestView
    dsimp only
    rw [stages_of_silent silent]
    rfl
  rcases h with h | h | h | h
  · obtain ⟨_, _, _, _, rfl, -, own⟩ := h
    refine kept fun e here => ?_
    obtain ⟨n, rfl⟩ := own e here
    rfl
  · obtain ⟨_, _, _, _, _, rfl, -, own⟩ := h
    refine kept fun e here => ?_
    rcases own e here with ⟨n, rfl⟩ | ⟨x, y, rfl⟩ | rfl <;> rfl
  · obtain ⟨_, _, _, _, _, _, _, rfl, -⟩ := h
    rfl
  · obtain ⟨_, _, _, _, rfl, -, own⟩ := h
    refine kept fun e here => ?_
    rcases own e here with ⟨n, rfl⟩ | ⟨x, y, rfl⟩ | rfl | ⟨n, closed, rfl⟩ <;> rfl

private theorem switch_called {ipType : IpType} {answer before : Int} :
    (switchIpType ipType answer before).1 = [0] ↔ Family ipType ∧ answer = 0 := by
  cases ipType <;> simp [switchIpType, Family]

theorem sendDatagram_world {u : State.Udp} {args : Args} {p : Udp.SendArgs} (w : World)
    (n : Nat) (uv : UvAnswers) (accepted : Udp.sendArgs u args = .ok p) :
    requestView (Udp.sendDatagram w n u args uv).1 =
      match p.proc with
      | none => requestView w
      | some proc =>
        let v := { requestView w with
          procs := w.procs ++ [(w.procLongId + 1, proc)], procLongId := w.procLongId + 1 }
        if (switchIpType u.ipType uv.send uv.unassigned).1 = [0] then
          { v with
            pendingProcs :=
              w.udpSends.filterMap (·.onSendProcId) ++ [w.procLongId + 1] ++ w.lookups
            stages := (.proc (w.procLongId + 1), .accepted proc) :: v.stages }
        else v := by
  unfold Udp.sendDatagram checked
  rw [accepted]
  obtain ⟨datagram, ip, port, proc⟩ := p
  by_cases called : (switchIpType u.ipType uv.send uv.unassigned).1 = [0]
  · simp only [called, if_true]
    cases proc with
    | none =>
      split <;> simp [requestView, World.push, stageOf, pendingProcs, pendingBlocks,
        List.filterMap_cons]
    | some proc =>
      split <;> simp [requestView, World.push, stageOf, pendingProcs, pendingBlocks, aeStoreProc,
        List.filterMap_cons]
  · simp only [called, if_false]
    cases proc with
    | none => split <;> exact requestView_push rfl
    | some proc => split <;> exact requestView_push rfl

private theorem sendDatagram_view {n : Nat} {u : State.Udp} (args : Args) (uv : UvAnswers)
    (closed : w.status = .stopped → u.uvHandle = false)
    (good : ∀ p, Udp.sendArgs u args = .ok p → w.status = .running → p.proc ≠ none →
      Family u.ipType ∧ uv.send = 0) : Sees w (Udp.sendDatagram w n u args uv).1 := by
  cases accepted : Udp.sendArgs u args with
  | error result =>
    unfold Udp.sendDatagram checked
    rw [accepted]
    exact .inl rfl
  | ok p =>
    have alive : w.status ≠ .stopped := by
      intro stopped
      obtain ⟨_, _, rest⟩ := of_bind accepted
      obtain ⟨_, opened, _⟩ := of_bind rest
      have on := open_of_check opened
      rw [closed stopped] at on
      cases on
    have world := sendDatagram_world w n uv accepted
    unfold Sees
    rw [world]
    cases proc : p.proc with
    | none => exact .inl rfl
    | some proc' =>
      refine .inr ?_
      dsimp only
      by_cases called : (switchIpType u.ipType uv.send uv.unassigned).1 = [0]
      · rw [if_pos called]
        refine .accepts (v := requestView w) proc' alive ?_
        simp only [requestView, pendingProcs, List.append_assoc]
        exact List.perm_middle
      · rw [if_neg called]
        refine .stores (v := requestView w) proc' ?_
        cases status : w.status with
        | releasing => exact status
        | stopped => exact absurd status alive
        | running =>
          exact absurd (switch_called.mpr (good p accepted status (by simp [proc]))) called

private theorem resolve_view (args : Args) (uv : UvAnswers) :
    Sees w (Procs.resolve w args uv).1 := by
  unfold Procs.resolve checked
  split
  · rename_i proc accepted
    have running : w.status = .running := running_of_bind accepted
    split
    · exact .inl rfl
    · refine .inr ?_
      have more : (w.udpSends.filterMap (·.onSendProcId) ++
          (w.lookups ++ [w.procLongId + 1])).Perm ((w.procLongId + 1) :: pendingProcs w) := by
        rw [← List.append_assoc]
        exact List.perm_append_singleton _ _
      exact .accepts (v := requestView w) proc (by simp [requestView, running]) more
  · exact .inl rfl

private theorem sendData_view {n : Nat} {t : State.Tcp} (args : Args) (uv : UvAnswers) :
    Sees w (Tcp.sendData w n t args uv).1 := by
  unfold Tcp.sendData checked
  split
  · rename_i p accepted
    obtain ⟨data, block⟩ := p
    cases block with
    | none =>
      dsimp only
      split
      · exact .inl rfl
      · refine .inl ?_
        simp [requestView, pendingProcs, pendingBlocks]
    | some proc =>
      dsimp only
      split
      · exact .inr .refuses
      · refine .inr ?_
        have move := RequestMove.writes (v := requestView w) proc
        simpa [requestView, pendingProcs, pendingBlocks, World.push, stageOf] using move
  · exact .inl rfl

private theorem stored_of_inv (inv : RequestInv (requestView w)) {id : Nat}
    (running : w.status = .running) (pending : id ∈ pendingProcs w) :
    ∃ proc, w.procs.lookup id = some proc ∧ (id, proc) ∈ w.procs := by
  have key := (inv.procs running).mem_iff.mpr pending
  obtain ⟨p, mem, rfl⟩ := List.mem_map.mp key
  have found : (w.procs.lookup p.1).isSome = true :=
    List.lookup_isSome_iff.mpr ⟨p, mem, by simp⟩
  obtain ⟨proc, found⟩ := Option.isSome_iff_exists.mp found
  refine ⟨proc, found, ?_⟩
  obtain ⟨before, after, split, -⟩ := List.lookup_eq_some_iff.mp found
  rw [split]
  simp

private theorem completed_view {id : Nat} {sends : List UdpSend} {lookups : List Nat}
    {error : Option RubyError} (callback : Nat → Callback) (inv : RequestInv (requestView w))
    (alive : w.status ≠ .stopped)
    (one : (pendingProcs w).Perm (id :: (sends.filterMap (·.onSendProcId) ++ lookups)))
    (seen : ∀ proc s, stageOf (.started (callback proc) s) =
      some (.proc id, .called proc error s)) :
    let removed := aeRemoveProc ({ w with udpSends := sends, lookups := lookups }.push
      (.completed (.proc id) error w.status)) id
    Sees w (startedBy (if w.status = .releasing then (removed.1, none)
      else match removed.2 with
        | some proc => (removed.1, some (callback proc))
        | none => (removed.1.abort .assertion, none))) := by
  dsimp only
  refine .inr ?_
  by_cases releasing : w.status = .releasing
  · rw [if_pos releasing]
    exact .dropsProc (v := requestView w) error releasing one
  · rw [if_neg releasing]
    have running := running_of_busy alive releasing
    obtain ⟨proc, found, stored⟩ := stored_of_inv inv running (one.symm.subset (.head _))
    have answer : (aeRemoveProc ({ w with udpSends := sends, lookups := lookups }.push
        (.completed (.proc id) error w.status)) id).2 = some proc := found
    rw [answer]
    change RequestMove (requestView w) { requestView w with
      procs := w.procs.filter (·.1 ≠ id)
      pendingProcs := sends.filterMap (·.onSendProcId) ++ lookups
      stages := (.started (callback proc) w.status :: .completed (.proc id) error w.status ::
        w.trace).filterMap stageOf }
    rw [List.filterMap_cons_some (seen proc w.status)]
    exact .calls (v := requestView w) error stored running one

private theorem uvSendCallback_view {k : Nat} {send : UdpSend} {error : Option RubyError}
    (inv : RequestInv (requestView w)) (alive : w.status ≠ .stopped)
    (found : w.udpSends[k]? = some send) : Sees w (startedBy (Udp.uvSendCallback
      { w with udpSends := w.udpSends.eraseIdx k } send error)) := by
  unfold Udp.uvSendCallback
  cases key : send.onSendProcId with
  | none =>
    have same := filterMap_eraseIdx_none (f := (·.onSendProcId)) found key
    refine .inl ?_
    simp only [startedBy, requestView, pendingProcs, pendingBlocks, same]
  | some id =>
    have one := (filterMap_eraseIdx (f := (·.onSendProcId)) found key).append_right w.lookups
    exact completed_view (fun proc => .onSend id proc error) inv alive one
      fun _ _ => rfl

private theorem uvGetaddrinfoCallback_view {k procId : Nat}
    {result : Except RubyError (List (List UInt8))} (inv : RequestInv (requestView w))
    (alive : w.status ≠ .stopped) (found : w.lookups[k]? = some procId) :
    Sees w (startedBy (Procs.uvGetaddrinfoCallback
      { w with lookups := w.lookups.eraseIdx k } procId result)) := by
  obtain ⟨bound, rfl⟩ := List.getElem?_eq_some_iff.mp found
  have one := ((List.getElem_cons_eraseIdx_perm bound).symm.append_left
    (w.udpSends.filterMap (·.onSendProcId))).trans List.perm_middle
  exact completed_view (fun proc => .onResult w.lookups[k] proc result) inv alive one
    fun _ _ => rfl

private theorem uvWriteCallback_view {k : Nat} {write : UvWrite} {t : State.Tcp}
    {error : Option RubyError} (found : w.tcpWrites[k]? = some write)
    (destroyed : t.releasing = true → w.status ≠ .running) :
    Sees w (startedBy (Tcp.uvWriteCallback
      { w with tcpWrites := w.tcpWrites.eraseIdx k } t write error)) := by
  unfold Tcp.uvWriteCallback
  cases block : write.onWriteBlock with
  | none =>
    have same := filterMap_eraseIdx_none (f := (·.onWriteBlock)) found block
    refine .inl ?_
    simp only [startedBy, requestView, pendingProcs, pendingBlocks, same]
  | some block =>
    have one := filterMap_eraseIdx (f := (·.onWriteBlock)) found block
    refine .inr ?_
    dsimp only
    split
    · rename_i releasing
      exact .written (v := requestView w) error (destroyed releasing) one
    · exact .writtenCalls (v := requestView w) error one

/-- The callbacks of libuv that complete a request of `@_procs` or a write. -/
def Completes : UvEvent → Prop
  | .sent _ _ => True
  | .resolved _ _ => True
  | .write _ _ => True
  | _ => False

private theorem startedBy_view {event : UvEvent} {r : World × Option Callback}
    (reported : Reports w event r) (other : ¬ Completes event)
    (frame : requestView r.1 = requestView w) : Sees w (startedBy r) := by
  have silent : ∀ callback, calledBy event callback → ∀ s,
      stageOf (.started callback s) = none := by
    intro callback called s
    cases event with
    | idle => exact called.elim
    | callFromOtherThread => exact called.elim
    | ubf =>
      obtain rfl := called
      rfl
    | timer n =>
      obtain ⟨proc, rfl⟩ := called
      rfl
    | recv n received =>
      obtain ⟨datagram, encoding, source, rfl⟩ := called
      rfl
    | connect n error uv =>
      rcases called with rfl | ⟨error, rfl⟩
      · rfl
      · rfl
    | read n read uv =>
      rcases called with ⟨data, encoding, rfl⟩ | ⟨error, rfl⟩
      · rfl
      · rfl
    | shutdown n error =>
      obtain ⟨error, rfl⟩ := called
      rfl
    | connectTimeout n k => exact called.elim
    | sent k error => exact absurd trivial other
    | resolved k result => exact absurd trivial other
    | write k error => exact absurd trivial other
  obtain ⟨v, callback⟩ := r
  cases callback with
  | none => exact .inl frame
  | some callback =>
    have unseen := silent callback (reports_calls reported rfl)
    exact .inl ((requestView_push (unseen _)).trans frame)

/-- Whether a write that libuv holds is one of a socket that was destroyed. -/
def Undisturbed (w : World) : Prop := ∀ n t, w.tcps[n]? = some t → t.releasing = true →
  w.tcpWrites.filter (·.socket == n) ≠ [] → w.status = .releasing

private theorem reports_view {event : UvEvent} {r : World × Option Callback}
    (inv : RequestInv (requestView w)) (alive : w.status ≠ .stopped) (writes : Undisturbed w)
    (h : Reports w event r) : Sees w (startedBy r) := by
  have quiet (other : ¬ Completes event) (frame : QuietFrame w r.1) : Sees w (startedBy r) :=
    startedBy_view h other (quietFrame_view frame)
  cases h with
  | ubf sent => exact quiet id (quietFrame_timer (timerFrame_refl w))
  | timer found active => exact quiet id (quietFrame_timer (uvTimerCallback_frame _ _ _))
  | recv found receiving => exact quiet id (quietFrame_udp (uvRecvCallback_frame found _))
  | sent found socket may => exact uvSendCallback_view inv alive found
  | resolved found => exact uvGetaddrinfoCallback_view inv alive found
  | connect socket pending may =>
    exact quiet id (quietFrame_tcp (uvConnectCallback_frame _ _ _ _ _))
  | read socket reading => exact quiet id (quietFrame_tcp (uvReadCallback_frame _ _ _ _ _))
  | @write k error write t found socket may =>
    refine uvWriteCallback_view found ?_
    intro flag running
    have some_write : w.tcpWrites.filter (·.socket == write.socket) ≠ [] := by
      intro none
      have mem := List.mem_of_getElem? found
      exact absurd (List.filter_eq_nil_iff.mp none write mem) (by simp)
    rw [writes write.socket t socket flag some_write] at running
    cases running
  | shutdown socket pending may =>
    exact quiet id (quietFrame_tcp (uvShutdownCallback_frame _ _ _))
  | connectTimeout socket fired active =>
    exact quiet id (quietFrame_tcp (uvTimerConnectTimeoutCallback_frame _ _ _))

end Views

section Step

variable {c c' : Config} {a : Action}

private theorem dispatch_view {call : Call} {r : World × Outcome}
    (closed : c.world.status = .stopped → ∀ u ∈ c.world.udps, u.uvHandle = false)
    (kept : ¬ LeavesProc c (.call call)) (h : dispatch c.world call = some r) :
    Sees c.world r.1 := by
  cases call with
  | udpSendDatagram n args uv =>
    obtain ⟨u, found, rfl⟩ := Option.map_eq_some_iff.mp h
    refine sendDatagram_view args uv (fun stopped => closed stopped u (List.mem_of_getElem? found))
      ?_
    intro p accepted running block
    by_contra refused
    exact kept ⟨running, u, p, found, accepted, block, refused⟩
  | dnsResolve args uv =>
    obtain rfl := Option.some.inj h
    exact resolve_view args uv
  | tcpSendData n args uv =>
    obtain ⟨t, -, rfl⟩ := Option.map_eq_some_iff.mp h
    exact sendData_view args uv
  | _ => exact .inl (quietFrame_view (dispatch_quiet id h))

structure AccountInv (c : Config) : Prop where
  release : ReleaseInv c
  sockets : ∀ n, SocketInv (view n c)
  udps : c.world.status = .stopped → ∀ n, .udp n ∉ c.world.handles
  requests : RequestInv (requestView c.world)

private theorem AccountInv.closed (inv : AccountInv c) (stopped : c.world.status = .stopped) :
    ∀ u ∈ c.world.udps, u.uvHandle = false := by
  intro u mem
  cases opened : u.uvHandle with
  | false => rfl
  | true =>
    obtain ⟨n, found⟩ := List.mem_iff_getElem?.mp mem
    have stored := (inv.release.handles.udps.table.stored_iff n).mpr ⟨u, found, opened⟩
    exact absurd stored (inv.udps stopped n)

private theorem startLoop_view {w : World} {proc : Nat} {uv : UvAnswers}
    (stopped : w.status = .stopped) : Sees w (startLoop w proc uv) := by
  rcases startLoop_cases w proc uv with aborts | ⟨fault, starts⟩
  · rw [aborts]
    exact .inl rfl
  · have runs : RequestMove (requestView w) { requestView w with status := .running } :=
      .runs stopped
    rw [starts]
    exact .inr runs

private theorem released_at_end (inv : ReleaseInv c) (live : c.world.fault = none)
    (ctl : c.ctl = .leaving) (handles : noActiveHandles c.world = true) :
    c.world.status = .releasing ∧ ¬ Draining (stackOf c.ctl) := by
  have inside : Inside c.ctl := by
    rw [ctl]
    trivial
  exact ⟨releasing_of_noActiveHandles inv.loop inv.vars live inside handles,
    not_draining (by rw [ctl]; rfl)⟩

private theorem endLoop_view {base : Base} {stack : List Frame}
    {callers : List (Base × List Frame)} (inv : AccountInv c) (live : c.world.fault = none)
    (ctl : c.ctl = .leaving) (handles : noActiveHandles c.world = true)
    (reqs : noActiveReqs c.world = true) :
    Sees c.world (endLoop c base stack callers).world := by
  obtain ⟨releasing, drained⟩ := released_at_end inv.release live ctl handles
  have procs : c.world.procs = [] := by
    rcases inv.release.done releasing live with draining | ⟨procs, -⟩
    · exact absurd draining drained
    · exact procs
  have pending : pendingProcs c.world = [] := by
    simp only [noActiveReqs, Bool.and_eq_true, List.isEmpty_iff] at reqs
    obtain ⟨⟨⟨-, sends⟩, lookups⟩, -⟩ := reqs
    unfold pendingProcs
    rw [sends, lookups]
    rfl
  rw [endLoop_eq handles reqs]
  exact .inr (.stops (v := requestView c.world) procs pending)

theorem requests_view (inv : AccountInv c) (live : c.world.fault = none)
    (kept : ¬ LeavesProc c a) (h : Step c a c') : Sees c.world c'.world := by
  have reported (ctl : c.ctl = .inUv) {event : UvEvent} {r : World × Option Callback}
      (callback : uvCallback c.world event = some r) : Sees c.world (startedBy r) := by
    have busy := inv.release.loop.busy (by rw [ctl]; trivial) live
    exact reports_view inv.requests busy (fun n t socket => (inv.sockets n).releasing t socket)
      (uvCallback_inv callback)
  cases h with
  | other frame => exact .inl (quietFrame_view (quietFrame_queue frame))
  | call ctl method =>
    have sees := dispatch_view inv.closed kept method
    rwa [Sees, requestView_push rfl]
  | close ctl socket opened connected method =>
    have sees := dispatch_view inv.closed kept method
    rwa [Sees, World.start, requestView_push rfl]
  | runReturns ctl frame =>
    exact .inl ((requestView_push rfl).trans (quietFrame_view (quietFrame_queue frame)))
  | runStarts ctl stopped free => exact startLoop_view stopped
  | codeEnds ctl can => exact .inl rfl
  | threadEnds ctl alone mutex => exact .inl rfl
  | fork => exact .inl rfl
  | pops ctl quiet => exact .inl rfl
  | handles ctl not_releasing => exact .inl rfl
  | releases ctl calls running on =>
    exact .inr (.releases (v := requestView c.world) running)
  | releasesNot ctl calls on => exact .inl rfl
  | @tick _ _ fromOtherThread _ _ _ ctl running =>
    refine .inl (requestView_push ?_)
    cases fromOtherThread <;> rfl
  | skipsKey ctl deleted => exact .inl rfl
  | @destroys _ _ _ key _ _ w ctl stored method =>
    have frame := destroyHandle_frame c.world key
    rw [method] at frame
    exact .inl (quietFrame_view frame)
  | @disconnects _ _ n _ _ t ctl stored socket opened connected method =>
    have frame := destroyHandle_frame c.world (.tcp n)
    rw [method] at frame
    exact .inl ((requestView_push rfl).trans (quietFrame_view frame))
  | released ctl =>
    have releasing := inv.release.loop.draining ⟨[], by rw [ctl]; exact .head _⟩
    rcases closeInternalHandles_cases c.world with aborts | closes
    · rw [aborts]
      exact .inl rfl
    · rw [closes]
      exact .inr (.drops (v := requestView c.world) releasing)
  | closeReturns ctl => exact .inl rfl
  | exitProc ctl => exact .inl rfl
  | runEnds ctl => exact .inl rfl
  | loops ctl => exact .inl rfl
  | intsReturn ctl => exact .inl rfl
  | intsRaise ctl caller => exact .inl rfl
  | enters ctl => exact .inl rfl
  | interrupts entering ctl => exact .inl rfl
  | idleBatch ctl running active => exact .inl rfl
  | wakes ctl sent => exact .inl rfl
  | asyncBatch ctl running => exact .inl rfl
  | uvQuiet ctl callback => exact reported ctl callback
  | uvCalls ctl callback => exact reported ctl callback
  | uvReturns ctl handles reqs => exact .inl rfl
  | loopEnds ctl caller handles reqs => exact endLoop_view inv live ctl handles reqs
  | aborts => exact .inl rfl

private theorem udps_step (inv : AccountInv c) (live : c.world.fault = none) (h : Step c a c')
    (stopped : c'.world.status = .stopped) : ∀ n, .udp n ∉ c'.world.handles := by
  have fewer (idle : c.world.status ≠ .running) :
      ∀ key ∈ c'.world.handles, key ∈ c.world.handles := by
    obtain ⟨w, runs, data⟩ := step_data h
    rw [data.handles]
    exact handles_frame (runs_frame runs) idle
  cases status_step h with
  | same status =>
    have before := status.symm.trans stopped
    exact fun n stored => inv.udps before n (fewer (by simp [before]) _ stored)
  | starts _ running =>
    rw [stopped] at running
    cases running
  | releases _ releasing =>
    rw [stopped] at releasing
    cases releasing
  | ends ctl handles reqs _ =>
    obtain ⟨releasing, drained⟩ := released_at_end inv.release live ctl handles
    intro n stored
    exact inv.release.closed releasing drained (.udp n) (fewer (by simp [releasing]) _ stored)

theorem accountInv_step (inv : AccountInv c) (h : engine.step c a = some c')
    (kept : ¬ LeavesProc c a) : AccountInv c' := by
  obtain ⟨live, step⟩ := step_inv h
  refine ⟨releaseInv_step inv.release h, ?_, udps_step inv live step, ?_⟩
  · intro n
    rcases step_view (n := n) step with same | move
    · rw [same]
      exact inv.sockets n
    · exact socketInv_move move (inv.release.tcps n) (inv.sockets n) rfl
        (releasing_of_frames inv.release.loop)
  · rcases requests_view inv live kept step with same | move
    · rw [same]
      exact inv.requests
    · exact requestInv_move move inv.requests

theorem accountInv_init : AccountInv engine.init := by
  refine ⟨releaseInv_init, fun n => ⟨fun _ => ⟨rfl, ?_⟩, ?_⟩, fun _ n stored => ?_, ?_⟩
  · intro t socket
    cases socket
  · intro t socket
    cases socket
  · cases stored
  · refine ⟨?_, ?_, List.nodup_nil, ?_, fun _ _ => rfl, matched_nil, ?_, fun _ _ => rfl,
      fun _ => ⟨rfl, rfl⟩, fun _ => .unknown⟩
    · intro running
      cases running
    · intro running
      cases running
    · intro id pending
      cases pending
    · intro block pending
      cases pending

private theorem accountInv_sound (inv : AccountInv c) : Accounted c.world :=
  ⟨inv.requests.procs, fun _ => inv.requests.blocks, inv.requests.served⟩

/-- A datagram that libuv refuses leaves its proc behind. -/
private theorem accountInv_sharp (inv : AccountInv c) (h : engine.step c a = some c')
    (after : Accounted c'.world) : ¬ LeavesProc c a := by
  intro leaves
  cases a with
  | call call =>
    cases call with
    | udpSendDatagram n args uv =>
      obtain ⟨running, u, p, found, accepted, block, refused⟩ := leaves
      obtain ⟨proc, given⟩ := Option.ne_none_iff_exists'.mp block
      obtain ⟨base, stack, ⟨w, outcome⟩, -, called, world⟩ := call_inv h (by simp)
      obtain ⟨u', found', sent⟩ := Option.map_eq_some_iff.mp called
      obtain rfl := Option.some.inj (found.symm.trans found')
      obtain ⟨q, ends⟩ := (sendDatagram_effect found args uv).2
      have left := sendDatagram_world c.world n uv accepted
      rw [sent] at ends left
      obtain rfl : outcome = .ends q := ends
      rw [given] at left
      dsimp only at left
      rw [if_neg fun called => refused (switch_called.mp called)] at left
      have view : requestView c'.world = requestView w := by
        rw [world]
        exact requestView_push rfl
      rw [left] at view
      have status : c'.world.status = c.world.status := congrArg RequestView.status view
      have procs : c'.world.procs = c.world.procs ++ [(c.world.procLongId + 1, proc)] :=
        congrArg RequestView.procs view
      have pending : pendingProcs c'.world = pendingProcs c.world :=
        congrArg RequestView.pendingProcs view
      have matched := after.procs (status.trans running)
      rw [procs, pending] at matched
      have stray : c.world.procLongId + 1 ∈ pendingProcs c.world :=
        matched.mem_iff.mp (by simp)
      exact pending_fresh inv.requests (Nat.lt_succ_self _) stray
    | _ => exact leaves
  | _ => exact leaves

/-- In every run, the tables are those of the pending requests and every request is served exactly
when no datagram with a block is refused while running. -/
theorem accounted_iff {l : List (Config × Action)} (path : Path engine l c) :
    Always (fun c => Accounted c.world) l c ↔ Each (fun c a => ¬ LeavesProc c a) l :=
  path.always_iff_each accountInv_init accountInv_step accountInv_sound accountInv_sharp

end Step

/-- libuv refuses a datagram with a block. -/
theorem refused_datagram_leaves_proc : ¬ ∀ l c, Path engine l c → Accounted c.world := by
  intro all
  have reached : (engine.exec (runBlock ++ [
      .call (.udpNew ⟨[.string [49, 50, 55, 46, 48, 46, 48, 46, 49], .fixnum 5060], none⟩ {}),
      .call (.udpSendDatagram 0 ⟨[.string [65], .string [49, 50, 55, 46, 48, 46, 48, 46, 49],
        .fixnum 5060], some 7⟩ { send := -1 })])).any (fun c =>
          decide (c.world.status = .running) && !c.world.procs.isEmpty &&
            (pendingProcs c.world).isEmpty) = true := by
    decide +kernel
  obtain ⟨l, c, path, seen⟩ := exists_path_of_exec engine _ _ reached
  simp only [Bool.and_eq_true, decide_eq_true_eq, Bool.not_eq_true', List.isEmpty_eq_false_iff,
    List.isEmpty_iff] at seen
  obtain ⟨⟨running, stray⟩, pending⟩ := seen
  have matched := (all l c path).procs running
  rw [pending] at matched
  exact stray (List.map_eq_nil_iff.mp (List.perm_nil.mp matched.1))

/-- A datagram with a block is sent, and the block is called. -/
theorem accounted_iff_sent : ∃ l c, Path engine l c ∧
    (c.world.trace.head? matches some (.started (.onSend 1 7 none) .running)) = true ∧
    (Always (fun c => Accounted c.world) l c ↔ Each (fun c a => ¬ LeavesProc c a) l) := by
  have reached : (engine.exec (runBlock ++ [
      .call (.udpNew ⟨[.string [49, 50, 55, 46, 48, 46, 48, 46, 49], .fixnum 5060], none⟩ {}),
      .call (.udpSendDatagram 0 ⟨[.string [65], .string [49, 50, 55, 46, 48, 46, 48, 46, 49],
        .fixnum 5060], some 7⟩ {}),
      .finish, .proceed, .proceed, .proceed, .proceed, .event (.sent 0 none)])).any (fun c =>
        c.world.trace.head? matches some (.started (.onSend 1 7 none) .running)) = true := by
    decide +kernel
  obtain ⟨l, c, path, seen⟩ := exists_path_of_exec engine _ _ reached
  exact ⟨l, c, path, seen, accounted_iff path⟩

end AsyncEngine.Engine.Requests
