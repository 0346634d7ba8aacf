/- Exceptions: which functions of the extension wait below user code when it raises. An exception
   that went through `uv_run`, through the procs of a queue or through `rb_hash_foreach` would leave
   libuv or the tables of the extension in the middle of their work. -/

import AsyncEngine.Engine.Loop

set_option autoImplicit false
set_option relaxedAutoImplicit false

namespace AsyncEngine.Engine.Unwinding

open AsyncEngine.Lib.Run
open AsyncEngine.Engine.Ruby
open AsyncEngine.Engine.State
open AsyncEngine.Engine.Machine
open AsyncEngine.Engine.Effects
open AsyncEngine.Engine.Steps
open AsyncEngine.Engine.Loop

/-- `rb_protect`, in `ae_run_with_error_handler` and around the handler of `AE.on_error`. -/
def Guard : Frame → Prop
  | .protect => True
  | .handleError => True
  | _ => False

/-- Functions that an exception may go through: the methods `close` and `destroy` of a TCPSocket
after they have called `on_disconnected`, and `AE.run` in its epilogue. -/
def Passes : Frame → Prop
  | .closing _ => True
  | .destroying _ => True
  | .onExit _ _ => True
  | _ => False

/-- An exception that is raised on these frames is caught by `rb_protect` before it comes to
anything that it may not go through; outside of the loop it may reach the application. -/
def Guarded (base : Base) (stack : List Frame) : Prop :=
  ∃ above, (∀ f ∈ above, Passes f) ∧
    ((∃ guard below, Guard guard ∧ stack = above ++ guard :: below) ∨
      (base ≠ .loop ∧ stack = above))

/-- What a frame waits for: user code, or a function that does not raise. -/
inductive Callee
  | user
  | function

/-- The frames that user code, or a function that does not raise, can stand on. -/
def Stands (base : Base) : Callee → List Frame → Prop
  | .user, [] => base ≠ .loop
  | .function, [] => base ≠ .outside
  | _, .protect :: stack => Stands base .function stack
  | _, .handleError :: stack => Stands base .function stack
  | _, .destroying _ :: .protect :: stack => Stands base .function stack
  | _, .destroying _ :: _ => False
  | _, .closing _ :: stack => Stands base .user stack
  | _, .onExit _ _ :: stack => Stands base .user stack
  | .user, .batch _ _ :: _ => False
  | .function, .batch _ _ :: stack => Stands base .function stack
  | .user, .release _ :: _ => False
  | .function, .release _ :: stack => Stands base .function stack

def Fits : Ctl → Prop
  | .code base stack => Stands base .user stack
  | .back (.value _) base stack => Stands base .function stack
  | .back (.raised _) base stack => Stands base .user stack ∧ canEnd base stack = true
  | _ => True

section Stacks

variable {base : Base} {stack : List Frame}

theorem Stands.returns (stands : Stands base .user stack) (can : canEnd base stack = true) :
    Stands base .function stack := by
  cases stack with
  | nil =>
    cases base with
    | outside => cases can
    | loop => cases can
    | ints entering =>
      intro same
      cases same
  | cons f stack =>
    cases f with
    | batch o procs => exact stands.elim
    | release keys => exact stands.elim
    | destroying n =>
      cases stack with
      | nil => exact stands.elim
      | cons g stack => cases g <;> exact stands
    | _ => exact stands

theorem stands_of_outer (outer : ∀ f ∈ stack, Outer f) : Stands .outside .user stack := by
  induction stack with
  | nil => simp [Stands]
  | cons f stack ih =>
    have below := ih fun g here => outer g (.tail _ here)
    cases f with
    | closing n => exact below
    | onExit procs error => exact below
    | _ => exact (outer _ (.head _)).elim

theorem Stands.guarded (stands : Stands base .user stack) : Guarded base stack := by
  induction stack with
  | nil => exact ⟨[], by simp, .inr ⟨stands, rfl⟩⟩
  | cons f stack ih =>
    -- An exception goes on to the frames below a method that it may go through.
    have passes (pass : Passes f) (below : Guarded base stack) : Guarded base (f :: stack) := by
      obtain ⟨above, all, rest⟩ := below
      refine ⟨f :: above, ?_, ?_⟩
      · intro g here
        rcases List.mem_cons.mp here with rfl | here
        · exact pass
        · exact all g here
      · rcases rest with ⟨guard, below, guards, rfl⟩ | ⟨inside, rfl⟩
        · exact .inl ⟨guard, below, guards, rfl⟩
        · exact .inr ⟨inside, rfl⟩
    cases f with
    | protect => exact ⟨[], by simp, .inl ⟨.protect, stack, trivial, rfl⟩⟩
    | handleError => exact ⟨[], by simp, .inl ⟨.handleError, stack, trivial, rfl⟩⟩
    | batch o procs => exact stands.elim
    | release keys => exact stands.elim
    | closing n => exact passes trivial (ih stands)
    | onExit procs error => exact passes trivial (ih stands)
    | destroying n =>
      cases stack with
      | nil => exact stands.elim
      | cons g stack =>
        cases g with
        | protect => exact passes trivial ⟨[], by simp, .inl ⟨.protect, stack, trivial, rfl⟩⟩
        | _ => exact stands.elim

end Stacks

section Resume

variable {w : World} {base : Base} {stack : List Frame}

private theorem fits_release (stands : Stands base .function stack) :
    Fits (aeReleaseLoop w base stack).2 := by
  unfold aeReleaseLoop
  split <;> exact stands

private theorem fits_handleError (stands : Stands base .function stack) (error : RubyError) :
    Fits (aeHandleError w error base stack).2 := by
  unfold aeHandleError
  split
  · exact stands
  · exact fits_release stands

private theorem fits_batch (stands : Stands base .function stack) (o : Bool)
    (procs : List Tick) : Fits (batchNext w o procs base stack).2 := by
  unfold batchNext
  split
  · exact stands
  · split
    · exact stands
    · dsimp only
      split
      · rename_i procs _ _
        have below : Stands base .function (.protect :: .batch o procs :: stack) := stands
        exact fits_release below
      · exact stands

private theorem destroyHandle_value {w' : World} {key : Handle} {q : Return}
    (h : destroyHandle w key = (w', .ends q)) : ∃ v, q = .value v := by
  have returns {r : World × Outcome} {v : Value} {x : World} (h : r = (w', .ends q))
      (ends : r = (x, .ends (.value v))) : ∃ v, q = .value v := by
    rw [ends] at h
    exact ⟨v, (Outcome.ends.inj (Prod.mk.inj h).2).symm⟩
  unfold destroyHandle at h
  split at h
  · split at h
    · rename_i t found
      unfold Timer.destroy checked checkUvHandleIsOpen at h
      split at h
      · exact returns h rfl
      · rename_i stops
        split at stops <;> cases stops
        exact returns h rfl
    · exact returns h rfl
  · split at h
    · rename_i u found
      unfold Udp.destroy checked checkUvHandleIsOpen at h
      split at h
      · exact returns h rfl
      · rename_i stops
        split at stops <;> cases stops
        exact returns h rfl
    · exact returns h rfl
  · split at h
    · rename_i t socket
      unfold Tcp.destroy checked checkUvHandleIsOpen at h
      split at h
      · dsimp only at h
        split at h
        · cases h
        · exact returns h rfl
      · rename_i stops
        split at stops <;> cases stops
        exact returns h rfl
    · exact returns h rfl

private theorem fits_releaseNext (stands : Stands base .function stack) (keys : List Handle) :
    Fits (releaseNext w keys base stack).2 := by
  unfold releaseNext
  split
  · exact stands
  · split
    · dsimp only
      split
      · rename_i method
        obtain ⟨v, rfl⟩ := destroyHandle_value method
        exact stands
      · rename_i method
        obtain ⟨n, t, -, -, -, -, -, -, rfl⟩ := destroyHandle_calls method
        exact stands
    · exact stands

private theorem fits_onExit (stands : Stands base .user stack) (procs : List Nat)
    (error : Option RubyError) : Fits (onExitNext w procs error base stack).2 := by
  unfold onExitNext
  split <;> exact stands

private theorem fits_resume {result : Return} {frame : Frame}
    (fits : Fits (.back result base (frame :: stack))) :
    Fits (resume w result frame base stack).2 := by
  cases frame with
  | protect =>
    cases result with
    | value v => exact fits
    | raised error =>
      show Fits (if _ then _ else _ : World × Ctl).2
      split
      · exact fits.1
      · exact fits_handleError fits.1 error
  | batch o procs =>
    cases result with
    | value v =>
      have below : Stands base .function stack := fits
      exact fits_batch below o procs
    | raised error => exact fits.1.elim
  | handleError =>
    cases result with
    | value v => exact fits
    | raised error => exact fits_release fits.1
  | release keys =>
    cases result with
    | value v =>
      have below : Stands base .function stack := fits
      exact fits_releaseNext below keys
    | raised error => exact fits.1.elim
  | destroying n =>
    cases stack with
    | nil =>
      cases result with
      | value v => exact fits.elim
      | raised error => exact fits.1.elim
    | cons g stack =>
      cases g with
      | protect =>
        cases result with
        | value v => exact fits
        | raised error => exact ⟨fits.1, by cases base <;> rfl⟩
      | _ =>
        cases result with
        | value v => exact fits.elim
        | raised error => exact fits.1.elim
  | closing n =>
    cases result with
    | value v => exact fits
    | raised error => exact fits.1
  | onExit procs captured =>
    cases result with
    | value v => exact fits_onExit fits procs captured
    | raised error => exact fits.1

end Resume

section Runs

variable {c c' : Config} {a : Action}

private theorem fits_proceed (loop : LoopInv c) (fits : Fits c.ctl)
    (h : engine.step c .proceed = some c') : Fits c'.ctl := by
  -- The code that called `AE.run` waits on frames of Ruby methods.
  have caller {base : Base} {stack : List Frame} {callers : List (Base × List Frame)}
      (inside : Inside c.ctl) (caller : c.callers = (base, stack) :: callers) :
      Stands base .user stack := by
    obtain ⟨⟨below, alone, outer⟩, -⟩ := loop.inside inside
    rw [caller] at alone
    obtain ⟨rfl, rfl⟩ := Prod.mk.inj (List.cons.inj alone).1
    exact stands_of_outer outer
  cases proceed_inv h with
  | frame ctl =>
    rw [ctl] at fits
    exact fits_resume fits
  | loops ctl => trivial
  | @intsReturn v entering ctl => cases entering <;> trivial
  | intsRaise ctl called => exact caller (by simp [ctl, Inside]) called
  | enters ctl => trivial
  | takes ctl =>
    show Fits (takeBatch c _ true _).ctl
    unfold takeBatch
    split
    · exact fits
    · show Base.loop ≠ .outside
      simp
  | ends ctl called =>
    have stands := caller (by rw [ctl]; trivial) called
    unfold endLoop
    dsimp only
    split
    · exact stands
    · exact fits

/-- Every step leaves frames that fit what runs on them. -/
theorem fits_step (loop : LoopInv c) (fits : Fits c.ctl)
    (h : engine.step c a = some c') : Fits c'.ctl := by
  by_cases proceeds : a = .proceed
  · subst proceeds
    exact fits_proceed loop fits h
  · cases (step_inv h).2 with
    | other frame => exact fits
    | call ctl method =>
      rw [ctl] at fits
      exact fits
    | close ctl socket opened connected method =>
      rw [ctl] at fits
      exact fits
    | runReturns ctl frame =>
      rw [ctl] at fits
      exact fits
    | runStarts ctl stopped free => trivial
    | @codeEnds base stack a result ctl can =>
      rw [ctl] at fits
      cases result with
      | value v => exact fits.returns can
      | raised error => exact ⟨fits, can⟩
    | threadEnds ctl alone kept => exact fits
    | fork => exact fits
    | interrupts entering ctl => simp [Fits, Stands]
    | idleBatch ctl running active => simp [Fits, Stands]
    | wakes ctl sent => trivial
    | uvQuiet ctl reported => exact fits
    | uvCalls ctl reported => simp [Fits, Stands]
    | uvReturns ctl handles reqs => trivial
    | aborts => exact fits
    | _ => exact absurd rfl proceeds

theorem fits_of_path {l : List (Config × Action)} (path : Path engine l c) :
    (LoopInv c ∧ VarsInv c.world) ∧ Fits c.ctl := by
  have start : Fits engine.init.ctl := by
    show Base.outside ≠ .loop
    simp
  exact path.invariant (I := fun c => (LoopInv c ∧ VarsInv c.world) ∧ Fits c.ctl)
    ⟨loop_init, start⟩ fun inv move => ⟨loop_step inv.1 move, fits_step inv.1.1 inv.2 move⟩

/-- In every state of every run, an exception that user code raises, or that is on its way through
the extension, is caught by `rb_protect` before it comes to the procs of a queue, to the release of
the loop or to `uv_run`; and if it may reach the application, no loop waits below it. -/
theorem exceptions_guarded {l : List (Config × Action)} (path : Path engine l c) {base : Base}
    {stack : List Frame} (raises : c.ctl = .code base stack ∨
      ∃ error, c.ctl = .back (.raised error) base stack) : Guarded base stack := by
  have fits := (fits_of_path path).2
  rcases raises with ctl | ⟨error, ctl⟩
  · rw [ctl] at fits
    exact Stands.guarded fits
  · rw [ctl] at fits
    exact fits.1.guarded

/-- `on_disconnected` has raised in a `close` that a callback of libuv called. -/
private def raisedInClose (c : Config) : Bool :=
  match c.ctl with
  | .back (.raised _) .loop [.closing 0, .protect] => true
  | _ => false

private theorem raisedInClose_ctl (raised : raisedInClose c = true) :
    ∃ error, c.ctl = .back (.raised error) .loop [.closing 0, .protect] := by
  unfold raisedInClose at raised
  split at raised
  · rename_i error ctl
    exact ⟨error, ctl⟩
  · cases raised

/-- The exception of an `on_disconnected` that is called by `close` in `on_connected`. -/
theorem exceptions_guarded_closing : ∃ l c error, Path engine l c ∧
    c.ctl = .back (.raised error) .loop [.closing 0, .protect] ∧
    Guarded .loop [.closing 0, .protect] := by
  have reached : (engine.exec (connectSocket ++ [.call (.tcpClose 0),
      .raise (.application 0 true)])).any raisedInClose = true := by
    decide +kernel
  obtain ⟨l, c, path, raised⟩ := exists_path_of_exec engine _ _ reached
  obtain ⟨error, ctl⟩ := raisedInClose_ctl raised
  exact ⟨l, c, error, path, ctl, exceptions_guarded path (.inr ⟨error, ctl⟩)⟩

end Runs

end AsyncEngine.Engine.Unwinding
