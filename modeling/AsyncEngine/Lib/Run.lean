/- Runs of partial machines: every state of a run, every step of a run, and the rules that
   carry a property along a run whose steps meet a condition. -/

import Mathlib.Data.List.Basic

set_option autoImplicit false
set_option relaxedAutoImplicit false

namespace AsyncEngine.Lib.Run

variable {S A : Type}

/-- A machine whose step is refused where the action is not possible. -/
structure System (S A : Type) where
  init : S
  step : S → A → Option S

/-- The steps taken so far, each with the state before it, and the state reached. -/
inductive Path (m : System S A) : List (S × A) → S → Prop
  | start : Path m [] m.init
  | next {l : List (S × A)} {s t : S} {a : A} (before : Path m l s) (move : m.step s a = some t) :
      Path m (l ++ [(s, a)]) t

/-- The property holds in every state of the run. -/
def Always (P : S → Prop) (l : List (S × A)) (t : S) : Prop := (∀ p ∈ l, P p.1) ∧ P t

/-- Every step of the run meets the condition. -/
def Each (ok : S → A → Prop) (l : List (S × A)) : Prop := ∀ p ∈ l, ok p.1 p.2

theorem always_snoc {P : S → Prop} {l : List (S × A)} {s t : S} {a : A} :
    Always P (l ++ [(s, a)]) t ↔ Always P l s ∧ P t := by
  unfold Always
  constructor
  · intro h
    exact ⟨⟨fun p hp => h.1 p (by simp [hp]), h.1 (s, a) (by simp)⟩, h.2⟩
  · intro h
    refine ⟨fun p hp => ?_, h.2⟩
    rcases List.mem_append.mp hp with earlier | last
    · exact h.1.1 p earlier
    · obtain rfl := List.mem_singleton.mp last
      exact h.1.2

theorem each_snoc {ok : S → A → Prop} {l : List (S × A)} {s : S} {a : A} :
    Each ok (l ++ [(s, a)]) ↔ Each ok l ∧ ok s a := by
  unfold Each
  constructor
  · intro h
    exact ⟨fun p hp => h p (by simp [hp]), h (s, a) (by simp)⟩
  · intro h p hp
    rcases List.mem_append.mp hp with earlier | last
    · exact h.1 p earlier
    · obtain rfl := List.mem_singleton.mp last
      exact h.2

section Invariants

variable {m : System S A} {I P : S → Prop} {ok : S → A → Prop}

theorem Path.guarded (start : I m.init)
    (keep : ∀ {s t : S} {a : A}, I s → m.step s a = some t → ok s a → I t)
    {l : List (S × A)} {t : S} (path : Path m l t) (steps : Each ok l) : I t := by
  induction path with
  | start => exact start
  | next before move ih =>
    rw [each_snoc] at steps
    exact keep (ih steps.1) move steps.2

theorem Path.invariant (start : I m.init)
    (keep : ∀ {s t : S} {a : A}, I s → m.step s a = some t → I t)
    {l : List (S × A)} {t : S} (path : Path m l t) : I t :=
  path.guarded start (fun hs move (_ : True) => keep hs move) fun _ _ => trivial

theorem Path.always (start : I m.init)
    (keep : ∀ {s t : S} {a : A}, I s → m.step s a = some t → ok s a → I t)
    (sound : ∀ {s : S}, I s → P s)
    {l : List (S × A)} {t : S} (path : Path m l t) (steps : Each ok l) : Always P l t := by
  induction path with
  | start => exact ⟨by simp, sound start⟩
  | next before move ih =>
    have here := (before.next move).guarded start keep steps
    rw [each_snoc] at steps
    exact always_snoc.mpr ⟨ih steps.1, sound here⟩

/-- The property holds all along a run exactly when every step of the run meets the condition,
if steps that meet it keep the invariant and steps that do not break the property. -/
theorem Path.always_iff_each (start : I m.init)
    (keep : ∀ {s t : S} {a : A}, I s → m.step s a = some t → ok s a → I t)
    (sound : ∀ {s : S}, I s → P s)
    (sharp : ∀ {s t : S} {a : A}, I s → m.step s a = some t → P t → ok s a)
    {l : List (S × A)} {t : S} (path : Path m l t) : Always P l t ↔ Each ok l := by
  constructor
  · intro all
    induction path with
    | start => intro p hp; cases hp
    | next before move ih =>
      rw [always_snoc] at all
      have steps := ih all.1
      exact each_snoc.mpr ⟨steps, sharp (before.guarded start keep steps) move all.2⟩
  · exact path.always start keep sound

theorem Path.each {Q : S → A → Prop} (start : I m.init)
    (keep : ∀ {s t : S} {a : A}, I s → m.step s a = some t → I t)
    (does : ∀ {s t : S} {a : A}, I s → m.step s a = some t → Q s a)
    {l : List (S × A)} {t : S} (path : Path m l t) : Each Q l := by
  induction path with
  | start =>
    intro p here
    cases here
  | next before move ih =>
    rw [each_snoc]
    exact ⟨ih, does (before.invariant start keep) move⟩

/-- From a state on that meets a condition which steps keep, what those steps keep stays. -/
theorem Path.settled {α : Type} {f : S → α} (start : I m.init)
    (keep : ∀ {s t : S} {a : A}, I s → m.step s a = some t → I t)
    (stays : ∀ {s t : S} {a : A}, I s → m.step s a = some t → P s → P t ∧ f t = f s)
    {l : List (S × A)} {t : S} (path : Path m l t) : ∀ p ∈ l, P p.1 → P t ∧ f t = f p.1 := by
  induction path with
  | start =>
    intro p here
    cases here
  | next before move ih =>
    have inv := before.invariant start keep
    intro p here settled
    rcases List.mem_append.mp here with earlier | last
    · obtain ⟨still, same⟩ := ih p earlier settled
      obtain ⟨next, kept⟩ := stays inv move still
      exact ⟨next, kept.trans same⟩
    · obtain rfl := List.mem_singleton.mp last
      exact stays inv move settled

/-- Every step of a run does what is asked of it exactly when every step meets the condition. -/
theorem Path.each_iff_each {Q : S → A → Prop} (start : I m.init)
    (keep : ∀ {s t : S} {a : A}, I s → m.step s a = some t → ok s a → I t)
    (sound : ∀ {s t : S} {a : A}, I s → m.step s a = some t → ok s a → Q s a)
    (sharp : ∀ {s t : S} {a : A}, I s → m.step s a = some t → Q s a → ok s a)
    {l : List (S × A)} {t : S} (path : Path m l t) : Each Q l ↔ Each ok l := by
  induction path with
  | start =>
    have nothing : ∀ {R : S → A → Prop}, Each R [] := by
      intro R p hp
      cases hp
    exact ⟨fun _ => nothing, fun _ => nothing⟩
  | next before move ih =>
    rw [each_snoc, each_snoc]
    constructor
    · intro all
      have steps := ih.mp all.1
      exact ⟨steps, sharp (before.guarded start keep steps) move all.2⟩
    · intro steps
      exact ⟨ih.mpr steps.1, sound (before.guarded start keep steps.1) move steps.2⟩

end Invariants

section Annotation

variable {G : Type}

/-- The machine beside which notes on its steps are kept. -/
def System.annotate (m : System S A) (note : G → S → A → S → G) (blank : G) : System (S × G) A where
  init := (m.init, blank)
  step := fun p a => (m.step p.1 a).map fun t => (t, note p.2 p.1 a t)

variable {m : System S A} {note : G → S → A → S → G} {blank : G}

theorem annotate_step {p q : S × G} {a : A} (move : (m.annotate note blank).step p a = some q) :
    m.step p.1 a = some q.1 ∧ q.2 = note p.2 p.1 a q.1 := by
  obtain ⟨t, step, rfl⟩ := Option.map_eq_some_iff.mp move
  exact ⟨step, rfl⟩

/-- Notes can be kept beside every run. -/
theorem Path.annotate {l : List (S × A)} {t : S} (path : Path m l t) :
    ∃ notes g, Path (m.annotate note blank) notes (t, g) ∧
      notes.map (fun step => (step.1.1, step.2)) = l := by
  induction path with
  | start => exact ⟨[], blank, .start, rfl⟩
  | @next l s t a before move ih =>
    obtain ⟨notes, g, annotated, same⟩ := ih
    have step : (m.annotate note blank).step (s, g) a = some (t, note g s a t) :=
      congrArg (Option.map fun t => (t, note g s a t)) move
    exact ⟨notes ++ [((s, g), a)], _, annotated.next step, by rw [List.map_append, same]; rfl⟩

end Annotation

/-- The state after the actions, if each of them is possible. -/
def System.exec (m : System S A) (actions : List A) : Option S :=
  actions.foldlM m.step m.init

theorem path_of_exec (m : System S A) {actions : List A} {t : S} (h : m.exec actions = some t) :
    ∃ l, Path m l t := by
  have extend : ∀ (as : List A) (l : List (S × A)) (s : S), Path m l s →
      as.foldlM m.step s = some t → ∃ l, Path m l t := by
    intro as
    induction as with
    | nil =>
      intro l s path last
      obtain rfl := Option.some.inj last
      exact ⟨l, path⟩
    | cons a as ih =>
      intro l s path rest
      rw [List.foldlM_cons] at rest
      obtain ⟨u, move, rest⟩ := Option.bind_eq_some_iff.mp rest
      exact ih _ _ (path.next move) rest
  exact extend actions [] m.init Path.start h

theorem exists_path_of_exec (m : System S A) (actions : List A) (bad : S → Bool)
    (h : (m.exec actions).any bad = true) : ∃ l t, Path m l t ∧ bad t = true := by
  cases reached : m.exec actions with
  | none => simp [reached] at h
  | some t =>
    obtain ⟨l, path⟩ := path_of_exec m reached
    exact ⟨l, t, path, by simpa [reached] using h⟩

/-- The machine that also refuses the steps that do not pass a check. -/
def System.only (m : System S A) (check : S → A → Bool) : System S A where
  init := m.init
  step := fun s a => if check s a then m.step s a else none

theorem only_step {m : System S A} {check : S → A → Bool} {s t : S} {a : A} :
    (m.only check).step s a = some t ↔ check s a = true ∧ m.step s a = some t := by
  change (if check s a then m.step s a else none) = some t ↔ _
  split
  · rename_i passed
    exact ⟨fun move => ⟨passed, move⟩, And.right⟩
  · rename_i refused
    exact iff_of_false (by simp) fun both => refused both.1

theorem path_of_only {m : System S A} {check : S → A → Bool} {l : List (S × A)} {t : S}
    (path : Path (m.only check) l t) :
    Path m l t ∧ Each (fun s a => check s a = true) l := by
  induction path with
  | start => exact ⟨.start, fun p here => by cases here⟩
  | @next l s t a before move ih =>
    replace move : (if check s a then m.step s a else none) = some t := move
    split at move
    · rename_i passed
      exact ⟨ih.1.next move, each_snoc.mpr ⟨ih.2, passed⟩⟩
    · cases move

end AsyncEngine.Lib.Run
