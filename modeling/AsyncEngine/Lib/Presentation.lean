/- Symbols given by their first-letter expansions, and the finite certificate by which a
   deterministic table automaton is shown to recognise the languages they derive. -/

import Mathlib.Computability.Language
import AsyncEngine.Lib.Braun

set_option autoImplicit false
set_option relaxedAutoImplicit false

namespace AsyncEngine.Lib.Presentation

variable {σ α τ Q : Type}

/-- `null s` says that `s` derives the empty word; `next s a` lists the sentential forms
left after `s` has produced the letter `a`. -/
structure Expansions (σ α : Type) where
  null : σ → Bool
  next : σ → α → List (List σ)

/-- The language of a sentential form under an interpretation of its symbols. -/
def form (lang : σ → Language α) (k : List σ) : Language α := (k.map lang).prod

/-- The presentation describes the interpretation exactly, one letter at a time. -/
structure Interprets (P : Expansions σ α) (lang : σ → Language α) : Prop where
  nil_mem : ∀ s, [] ∈ lang s ↔ P.null s = true
  cons_mem : ∀ s a w, a :: w ∈ lang s ↔ ∃ k ∈ P.next s a, w ∈ form lang k

/-- The sentential forms left after a whole form has produced the letter `a`. -/
def quotient (P : Expansions σ α) : List σ → α → List (List σ)
  | [], _ => []
  | s :: k, a => (P.next s a).map (· ++ k) ++ if P.null s then quotient P k a else []

/-- A form derives the empty word when all its symbols do. -/
def nullable (P : Expansions σ α) (k : List σ) : Bool := k.all P.null

@[simp] theorem form_nil (lang : σ → Language α) : form lang [] = 1 := rfl

@[simp] theorem form_cons (lang : σ → Language α) (s : σ) (k : List σ) :
    form lang (s :: k) = lang s * form lang k := by
  simp [form]

theorem form_append (lang : σ → Language α) (k l : List σ) :
    form lang (k ++ l) = form lang k * form lang l := by
  simp [form]

theorem cons_mem_mul (L M : Language α) (a : α) (w : List α) :
    a :: w ∈ L * M ↔
      (∃ u v, w = u ++ v ∧ a :: u ∈ L ∧ v ∈ M) ∨ ([] ∈ L ∧ a :: w ∈ M) := by
  constructor
  · rintro ⟨x, hx, y, hy, hxy⟩
    cases x with
    | nil => exact .inr ⟨hx, by simpa using hxy ▸ hy⟩
    | cons b u =>
      simp only [List.cons_append, List.cons.injEq] at hxy
      obtain ⟨rfl, rfl⟩ := hxy
      exact .inl ⟨u, y, rfl, hx, hy⟩
  · rintro (⟨u, v, rfl, hu, hv⟩ | ⟨hn, hw⟩)
    · exact ⟨a :: u, hu, v, hv, rfl⟩
    · exact ⟨[], hn, a :: w, hw, rfl⟩

theorem nil_mem_mul (L M : Language α) : [] ∈ L * M ↔ [] ∈ L ∧ [] ∈ M := by
  constructor
  · rintro ⟨x, hx, y, hy, hxy⟩
    obtain ⟨rfl, rfl⟩ := List.append_eq_nil_iff.mp hxy
    exact ⟨hx, hy⟩
  · rintro ⟨hL, hM⟩
    exact ⟨[], hL, [], hM, rfl⟩

theorem nil_mem_form {P : Expansions σ α} {lang : σ → Language α}
    (h : Interprets P lang) (k : List σ) : [] ∈ form lang k ↔ nullable P k = true := by
  induction k with
  | nil => simp [nullable]
  | cons s k ih =>
    rw [form_cons, nil_mem_mul, h.nil_mem, ih]
    simp [nullable]

theorem cons_mem_form {P : Expansions σ α} {lang : σ → Language α}
    (h : Interprets P lang) (k : List σ) (a : α) (w : List α) :
    a :: w ∈ form lang k ↔ ∃ l ∈ quotient P k a, w ∈ form lang l := by
  induction k with
  | nil => simp [quotient]
  | cons s k ih =>
    rw [form_cons, cons_mem_mul, h.nil_mem, ih]
    have first : (∃ u v, w = u ++ v ∧ a :: u ∈ lang s ∧ v ∈ form lang k) ↔
        ∃ l ∈ (P.next s a).map (· ++ k), w ∈ form lang l := by
      simp only [h.cons_mem, List.mem_map]
      constructor
      · rintro ⟨u, v, rfl, ⟨l, hl, hu⟩, hv⟩
        refine ⟨l ++ k, ⟨l, hl, rfl⟩, ?_⟩
        rw [form_append]
        exact ⟨u, hu, v, hv, rfl⟩
      · rintro ⟨_, ⟨l, hl, rfl⟩, hw⟩
        rw [form_append] at hw
        obtain ⟨u, hu, v, hv, rfl⟩ := hw
        exact ⟨u, v, rfl, ⟨l, hl, hu⟩, hv⟩
    rw [first, quotient]
    by_cases hs : P.null s = true
    · simp only [hs, if_true, true_and, List.mem_append]
      exact ⟨by rintro (⟨l, hl, hw⟩ | ⟨l, hl, hw⟩); exacts [⟨l, .inl hl, hw⟩, ⟨l, .inr hl, hw⟩],
        by rintro ⟨l, hl | hl, hw⟩; exacts [.inl ⟨l, hl, hw⟩, .inr ⟨l, hl, hw⟩]⟩
    · simp [hs]

/-- Several sentential forms followed at once, each with the tag it is to be accepted under. -/
abbrev Forms (τ σ : Type) := List (τ × List σ)

/-- The words that a set of tagged forms derives under one tag. -/
def words (lang : σ → Language α) (S : Forms τ σ) (t : τ) : Language α :=
  {w | ∃ k, (t, k) ∈ S ∧ w ∈ form lang k}

theorem mem_words {lang : σ → Language α} {S : Forms τ σ} {t : τ} {w : List α} :
    w ∈ words lang S t ↔ ∃ k, (t, k) ∈ S ∧ w ∈ form lang k := Iff.rfl

/-- The tagged forms left after one letter. -/
def stepForms (P : Expansions σ α) (S : Forms τ σ) (a : α) : Forms τ σ :=
  S.flatMap fun p => (quotient P p.2 a).map (p.1, ·)

theorem cons_mem_words {P : Expansions σ α} {lang : σ → Language α} (h : Interprets P lang)
    (S : Forms τ σ) (t : τ) (a : α) (w : List α) :
    a :: w ∈ words lang S t ↔ w ∈ words lang (stepForms P S a) t := by
  simp only [mem_words, cons_mem_form h, stepForms, List.mem_flatMap, List.mem_map, Prod.exists,
    Prod.mk.injEq]
  constructor
  · rintro ⟨k, hk, l, hl, hw⟩
    exact ⟨l, ⟨t, k, hk, l, hl, rfl, rfl⟩, hw⟩
  · rintro ⟨l, ⟨_, k, hk, l, hl, rfl, rfl⟩, hw⟩
    exact ⟨k, hk, l, hl, hw⟩

/-- A letter automaton with tagged acceptance; `none` is its error state. -/
structure Table (Q α τ : Type) where
  delta : Q → α → Option Q
  accept : Q → Option τ
  /-- The cell under which pairs of this state are stored. -/
  index : Q → Nat

def Table.run (M : Table Q α τ) : Q → List α → Option Q
  | q, [] => some q
  | q, a :: w => (M.delta q a).bind fun q' => M.run q' w

@[simp] theorem Table.run_nil (M : Table Q α τ) (q : Q) : M.run q [] = some q := rfl

@[simp] theorem Table.run_cons (M : Table Q α τ) (q : Q) (a : α) (w : List α) :
    M.run q (a :: w) = (M.delta q a).bind (M.run · w) := rfl

theorem Table.run_append (M : Table Q α τ) (q : Q) (u v : List α) :
    M.run q (u ++ v) = (M.run q u).bind (M.run · v) := by
  induction u generalizing q with
  | nil => rfl
  | cons a u ih => simp [ih, Option.bind_assoc]

section Certificate

variable [BEq σ] [BEq τ] [BEq Q]

/-- Pairs of an automaton state and the tagged forms it stands for. -/
abbrev Pairs (Q τ σ : Type) := Braun.Tree (List (Q × Forms τ σ))

/-- The two lists hold the same tagged forms. -/
def sameForms (S T : Forms τ σ) : Bool := S.all T.contains && T.all S.contains

/-- The pair `(q, S)` is listed, up to the order of the forms. -/
def listed (M : Table Q α τ) (rel : Pairs Q τ σ) (q : Q) (S : Forms τ σ) : Bool :=
  ((Braun.get rel (M.index q)).getD []).any fun p => p.1 == q && sameForms S p.2

/-- One letter leads automaton and forms to a listed pair, or both out. -/
def letterOk (P : Expansions σ α) (M : Table Q α τ) (rel : Pairs Q τ σ) (q : Q)
    (S : Forms τ σ) (a : α) : Bool :=
  match M.delta q a with
  | none => (stepForms P S a).isEmpty
  | some q' => listed M rel q' (stepForms P S a)

/-- The automaton accepts under exactly the tags of the nullable forms. -/
def acceptOk (P : Expansions σ α) (M : Table Q α τ) (q : Q) (S : Forms τ σ) : Bool :=
  (S.all fun p => !nullable P p.2 || M.accept q == some p.1) &&
    (M.accept q).all fun t => S.any fun p => p.1 == t && nullable P p.2

/-- A listed pair follows some form, follows live symbols only, accepts alike and stays
listed under each letter. -/
def pairOk (P : Expansions σ α) (M : Table Q α τ) (letters : List α) (live : σ → Bool)
    (rel : Pairs Q τ σ) (p : Q × Forms τ σ) : Bool :=
  !p.2.isEmpty && (p.2.all fun f => f.2.all live) && acceptOk P M p.1 p.2 &&
    letters.all (letterOk P M rel p.1 p.2)

def certified (P : Expansions σ α) (M : Table Q α τ) (letters : List α) (live : σ → Bool)
    (rel : Pairs Q τ σ) : Bool :=
  (Braun.values rel).all fun cell => cell.all (pairOk P M letters live rel)

/-- Add the successors of one pair that are not listed yet to the pairs and to the worklist. -/
def discover (P : Expansions σ α) (M : Table Q α τ) (q : Q) (S : Forms τ σ) :
    List α → Pairs Q τ σ → List (Q × Forms τ σ) → Pairs Q τ σ × List (Q × Forms τ σ)
  | [], rel, todo => (rel, todo)
  | a :: as, rel, todo =>
    match M.delta q a with
    | none => discover P M q S as rel todo
    | some q' =>
      let T := stepForms P S a
      bif listed M rel q' T then discover P M q S as rel todo
      else discover P M q S as (Braun.modify ((q', T) :: ·) rel (M.index q')) ((q', T) :: todo)

/-- The pairs met from the worklist, followed for at most `fuel` pairs. -/
def explore (P : Expansions σ α) (M : Table Q α τ) (letters : List α) :
    Nat → Pairs Q τ σ → List (Q × Forms τ σ) → Pairs Q τ σ
  | 0, rel, _ => rel
  | _ + 1, rel, [] => rel
  | fuel + 1, rel, (q, S) :: todo =>
    let next := discover P M q S letters rel todo
    explore P M letters fuel next.1 next.2

def Listed (rel : Pairs Q τ σ) (q : Q) (S : Forms τ σ) : Prop :=
  ∃ cell ∈ Braun.values rel, (q, S) ∈ cell

variable {P : Expansions σ α} {M : Table Q α τ} {letters : List α} {live : σ → Bool}
  {rel : Pairs Q τ σ} {lang : σ → Language α}

theorem pairOk_of_listed (hc : certified P M letters live rel = true) {q : Q} {S : Forms τ σ}
    (h : Listed rel q S) : pairOk P M letters live rel (q, S) = true := by
  obtain ⟨cell, hcell, hp⟩ := h
  simp only [certified, List.all_eq_true] at hc
  exact hc cell hcell _ hp

variable [LawfulBEq σ] [LawfulBEq τ] [LawfulBEq Q]

omit [BEq Q] [LawfulBEq Q] in
theorem words_eq_of_sameForms {S T : Forms τ σ}
    (h : sameForms S T = true) (t : τ) : words lang S t = words lang T t := by
  simp only [sameForms, Bool.and_eq_true, List.all_eq_true, List.contains_iff_mem] at h
  ext w
  exact ⟨fun ⟨k, hk, hw⟩ => ⟨k, h.1 _ hk, hw⟩, fun ⟨k, hk, hw⟩ => ⟨k, h.2 _ hk, hw⟩⟩

omit [LawfulBEq σ] [LawfulBEq τ] in
theorem exists_of_listed {q : Q} {S : Forms τ σ}
    (h : listed M rel q S = true) : ∃ T, Listed rel q T ∧ sameForms S T = true := by
  simp only [listed, List.any_eq_true, Bool.and_eq_true, beq_iff_eq] at h
  obtain ⟨⟨p, T⟩, hT, hq, same⟩ := h
  subst hq
  cases hcell : Braun.get rel (M.index p) with
  | none => simp [hcell] at hT
  | some cell => exact ⟨T, ⟨cell, Braun.mem_values_of_get hcell, by simpa [hcell] using hT⟩, same⟩

omit [LawfulBEq σ] [LawfulBEq Q] in
theorem accept_iff (h : Interprets P lang) (hc : certified P M letters live rel = true) {q : Q}
    {S : Forms τ σ} (hp : Listed rel q S) (t : τ) :
    [] ∈ words lang S t ↔ M.accept q = some t := by
  have ok := pairOk_of_listed hc hp
  simp only [pairOk, acceptOk, Bool.and_eq_true, List.all_eq_true, Bool.or_eq_true,
    Bool.not_eq_true', beq_iff_eq] at ok
  obtain ⟨⟨-, accepts, witnessed⟩, -⟩ := ok
  simp only [mem_words, nil_mem_form h]
  constructor
  · rintro ⟨k, hk, nul⟩
    exact (accepts _ hk).resolve_left (by simp [nul])
  · intro ha
    simp only [ha, Option.all_some, List.any_eq_true, Bool.and_eq_true, beq_iff_eq] at witnessed
    obtain ⟨⟨_, k⟩, hk, rfl, nul⟩ := witnessed
    exact ⟨k, hk, nul⟩

omit [LawfulBEq σ] [LawfulBEq τ] [LawfulBEq Q] in
theorem exists_word (live_word : ∀ s, live s = true → ∃ w, w ∈ lang s)
    (hc : certified P M letters live rel = true) {q : Q} {S : Forms τ σ} (hp : Listed rel q S) :
    ∃ t v, v ∈ words lang S t := by
  have ok := pairOk_of_listed hc hp
  simp only [pairOk, Bool.and_eq_true, List.all_eq_true, Bool.not_eq_true'] at ok
  obtain ⟨⟨⟨inhabited, alive⟩, -⟩, -⟩ := ok
  cases S with
  | nil => simp at inhabited
  | cons f S =>
    have word : ∀ k : List σ, (∀ s ∈ k, live s = true) → ∃ v, v ∈ form lang k := by
      intro k
      induction k with
      | nil => exact fun _ => ⟨[], rfl⟩
      | cons s k ih =>
        intro hk
        obtain ⟨u, hu⟩ := live_word s (hk s (by simp))
        obtain ⟨v, hv⟩ := ih fun x hx => hk x (by simp [hx])
        exact ⟨u ++ v, by rw [form_cons]; exact ⟨u, hu, v, hv, rfl⟩⟩
    obtain ⟨v, hv⟩ := word f.2 (alive f (by simp))
    exact ⟨f.1, v, f.2, by simp, hv⟩

/-- Under a certificate that covers the alphabet up to a choice of representatives, the
automaton started from a listed pair accepts a word under a tag exactly when the forms
derive it under that tag, and stays out of its error state exactly on the prefixes of
derived words. -/
theorem run_iff (h : Interprets P lang) (hc : certified P M letters live rel = true)
    (live_word : ∀ s, live s = true → ∃ w, w ∈ lang s) (rep : α → α)
    (rep_mem : ∀ a, rep a ∈ letters) (delta_rep : ∀ q a, M.delta q a = M.delta q (rep a))
    (next_rep : ∀ s, live s = true → ∀ a, P.next s a = P.next s (rep a)) (w : List α) :
    ∀ {q : Q} {S : Forms τ σ}, Listed rel q S →
      (∀ t, w ∈ words lang S t ↔ ∃ q', M.run q w = some q' ∧ M.accept q' = some t) ∧
      ((∃ t v, w ++ v ∈ words lang S t) ↔ (M.run q w).isSome = true) := by
  have quotient_rep : ∀ (k : List σ) (a : α), (∀ s ∈ k, live s = true) →
      quotient P k a = quotient P k (rep a) := by
    intro k a
    induction k with
    | nil => exact fun _ => rfl
    | cons s k ih =>
      intro hk
      rw [quotient, quotient, next_rep s (hk s (by simp)) a, ih fun x hx => hk x (by simp [hx])]
  induction w with
  | nil =>
    intro q S hp
    refine ⟨fun t => ?_, ?_⟩
    · simpa using accept_iff h hc hp t
    · simpa using exists_word live_word hc hp
  | cons a w ih =>
    intro q S hp
    have ok := pairOk_of_listed hc hp
    simp only [pairOk, Bool.and_eq_true, List.all_eq_true] at ok
    have letter := ok.2 (rep a) (rep_mem a)
    have same_step : stepForms P S (rep a) = stepForms P S a :=
      List.flatMap_congr fun f hf => by rw [quotient_rep f.2 a (ok.1.1.2 f hf)]
    rw [letterOk, ← delta_rep, same_step] at letter
    simp only [List.cons_append, cons_mem_words h, Table.run_cons]
    cases hd : M.delta q a with
    | none =>
      rw [hd] at letter
      have empty : stepForms P S a = [] := by simpa using letter
      simp [empty, mem_words]
    | some q' =>
      rw [hd] at letter
      obtain ⟨T, hT, same⟩ := exists_of_listed letter
      simpa only [words_eq_of_sameForms same, Option.bind_some] using ih hT

end Certificate

end AsyncEngine.Lib.Presentation
