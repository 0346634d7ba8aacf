/- What `ae_ip_parser_execute` returns for every text, against the grammar of `ip_parser.rl`. -/

import AsyncEngine.IpParser.Descent

set_option autoImplicit false
set_option relaxedAutoImplicit false

namespace AsyncEngine.IpParser.Recognition

open AsyncEngine.Lib AsyncEngine.Lib.Presentation
open AsyncEngine.IpParser.Grammar
open AsyncEngine.IpParser.Machine
open AsyncEngine.IpParser.Descent

/-- The state of the generated code together with the action of its last transition. -/
abbrev Control := Nat × Option IpType

/-- The machine as a table automaton that accepts by the action just executed. -/
def machine : Table Control UInt8 IpType where
  delta q b := goto q.1 b
  accept q := q.2
  index q := q.1

/-- The three alternatives of rule `main`, under the type their action sets. -/
def main : Forms IpType Place :=
  [(.ipv4, [.decOctet, .octets 3]), (.ipv6, [.ipv6]),
    (.ipv6Reference, [.range 0x5b 0x5b, .ipv6, .range 0x5d 0x5d])]

/-- The ranges that the tests of the machine and of the grammar use. -/
def bounds : List (Nat × Nat) :=
  [(46, 46), (48, 48), (49, 49), (50, 50), (53, 53), (58, 58), (91, 91), (93, 93), (48, 57),
    (49, 57), (51, 57), (54, 57), (48, 52), (48, 53), (65, 70), (97, 102)]

def representative (b : UInt8) : UInt8 :=
  if b = 46 ∨ b = 48 ∨ b = 49 ∨ b = 50 ∨ b = 53 ∨ b = 58 ∨ b = 91 ∨ b = 93 then b
  else if 51 ≤ b ∧ b ≤ 52 then 51
  else if 54 ≤ b ∧ b ≤ 57 then 54
  else if 65 ≤ b ∧ b ≤ 70 then 65
  else if 97 ≤ b ∧ b ≤ 102 then 97
  else 0

def letters : List UInt8 := [46, 48, 49, 50, 51, 53, 54, 58, 65, 97, 91, 93, 0]

/-- The places that occur in addresses. -/
def live : Place → Bool
  | .range lo hi => bounds.contains (lo, hi)
  | .elidedTail m => Nat.ble 1 m
  | _ => true

def pairs : Pairs Control IpType Place :=
  explore places machine letters 400
    (Braun.modify ((((1, none) : Control), main) :: ·) (Braun.ofList (cases.map fun _ => [])) 1)
    [((1, none), main)]

private theorem pairs_certified :
    (certified places machine letters live pairs &&
      listed machine pairs (1, none) main) = true := by
  decide +kernel

private theorem inRange_representative (lo hi : Nat) (h : (lo, hi) ∈ bounds) (b : UInt8) :
    inRange lo hi b = inRange lo hi (representative b) := by
  have table : ∀ p ∈ bounds, ∀ n < 256,
      inRange p.1 p.2 (UInt8.ofNat n) = inRange p.1 p.2 (representative (UInt8.ofNat n)) := by
    decide +kernel
  simpa using table _ h b.toNat b.toNat_lt

private theorem representative_mem (b : UInt8) : representative b ∈ letters := by
  have table : ∀ n < 256, representative (UInt8.ofNat n) ∈ letters := by decide +kernel
  simpa using table b.toNat b.toNat_lt

private theorem isLetter_representative (b : UInt8) : isLetter b = isLetter (representative b) := by
  rw [isLetter, isLetter, inRange_representative 65 70 (by decide) b,
    inRange_representative 97 102 (by decide) b]

private theorem isHexdigit_representative (b : UInt8) :
    isHexdigit b = isHexdigit (representative b) := by
  rw [isHexdigit, isHexdigit, isLetter_representative b,
    inRange_representative 48 57 (by decide) b]

/-- The arm tests one of the listed ranges. -/
private def aligned : Arm → Bool
  | .byte c _ => bounds.contains (c, c)
  | .range lo hi _ => bounds.contains (lo, hi)
  | _ => true

private theorem fire_representative {arm : Arm} (h : aligned arm = true) (b : UInt8) :
    arm.fire b = arm.fire (representative b) := by
  cases arm with
  | byte c goto =>
    rw [Arm.fire, Arm.fire, inRange_representative _ _ (by simpa [aligned] using h)]
  | range lo hi goto =>
    rw [Arm.fire, Arm.fire, inRange_representative _ _ (by simpa [aligned] using h)]
  | hexdigit goto => rw [Arm.fire, Arm.fire, isHexdigit_representative]
  | letter goto => rw [Arm.fire, Arm.fire, isLetter_representative]

private theorem arms_mem (cs : Nat) : arms cs = [] ∨ arms cs ∈ cases := by
  rw [arms_eq]
  cases h : cases[cs]? with
  | none => exact .inl rfl
  | some row => exact .inr (List.mem_of_getElem? h)

private theorem arms_aligned {cs : Nat} {arm : Arm} (h : arm ∈ arms cs) : aligned arm = true := by
  have table : (cases.all fun row => row.all aligned) = true := by decide +kernel
  rcases arms_mem cs with empty | row
  · simp [empty] at h
  · exact List.all_eq_true.mp (List.all_eq_true.mp table _ row) _ h

private theorem findSome_congr {β γ : Type} {l : List β} {f g : β → Option γ}
    (h : ∀ x ∈ l, f x = g x) : l.findSome? f = l.findSome? g := by
  induction l with
  | nil => rfl
  | cons x l ih =>
    rw [List.findSome?_cons, List.findSome?_cons, h x (by simp),
      ih fun y hy => h y (by simp [hy])]

private theorem goto_representative (cs : Nat) (b : UInt8) :
    goto cs b = goto cs (representative b) := by
  have fired : (arms cs).findSome? (fun arm : Arm => arm.fire b) =
      (arms cs).findSome? fun arm : Arm => arm.fire (representative b) :=
    findSome_congr fun arm (harm : arm ∈ arms cs) => fire_representative (arms_aligned harm) b
  unfold goto
  rw [fired]

private theorem nextOctet_representative (b : UInt8) :
    nextOctet b = nextOctet (representative b) := by
  simp only [nextOctet]
  rw [inRange_representative 0x30 0x39 (by decide),
    inRange_representative 0x31 0x39 (by decide),
    inRange_representative 0x31 0x31 (by decide),
    inRange_representative 0x32 0x32 (by decide)]

private theorem next_representative (place : Place) (h : live place = true) (b : UInt8) :
    next place b = next place (representative b) := by
  have hex := isHexdigit_representative b
  have octet := nextOctet_representative b
  have dot := inRange_representative 0x2e 0x2e (by decide) b
  have colon := inRange_representative 0x3a 0x3a (by decide) b
  cases place with
  | range lo hi => rw [next, next, inRange_representative _ _ (by simpa [live] using h)]
  | decOctet => exact octet
  | octets n => cases n <;> simp only [next, dot]
  | hexTail n => cases n <;> simp only [next, hex]
  | ipv6 => simp only [next, nextGroup, nextQuad, hex, octet, colon]
  | group s => simp only [next, nextGroup, nextQuad, hex, octet]
  | afterGroup s => cases s <;> simp only [next, colon]
  | elided m => simp only [next, nextTail, nextQuad, hex, octet]
  | elidedGroup m => cases m <;> simp only [next, colon]
  | elidedTail m => simp only [next, nextTail, nextQuad, hex, octet]

private theorem exists_mem_mul {L M : Language UInt8} (hL : ∃ w, w ∈ L) (hM : ∃ w, w ∈ M) :
    ∃ w, w ∈ L * M := by
  obtain ⟨u, hu⟩ := hL
  obtain ⟨v, hv⟩ := hM
  exact ⟨u ++ v, u, hu, v, hv, rfl⟩

private theorem exists_mem_add {L M : Language UInt8} (hL : ∃ w, w ∈ L) : ∃ w, w ∈ L + M :=
  hL.imp fun w hw => (Language.mem_add L M w).mpr (.inl hw)

private theorem live_word (place : Place) (h : live place = true) : ∃ w, w ∈ lang place := by
  have byte (lo hi : Nat) (hb : (lo, hi) ∈ bounds) : ∃ w, w ∈ range lo hi := by
    have table : ∀ p ∈ bounds, p.1 ≤ (UInt8.ofNat p.1).toNat ∧ (UInt8.ofNat p.1).toNat ≤ p.2 := by
      decide +kernel
    exact ⟨[UInt8.ofNat lo], _, rfl, table _ hb⟩
  have one (L : Language UInt8) : ∃ w, w ∈ 1 + L := exists_mem_add ⟨[], rfl⟩
  have octet : ∃ w, w ∈ decOctet := by
    rw [decOctet, add_assoc, add_assoc, add_assoc]
    exact exists_mem_add (byte 0x30 0x39 (by decide))
  have octets : ∀ n, ∃ w, w ∈ octetsLang n := by
    intro n
    induction n with
    | zero => exact ⟨[], rfl⟩
    | succ n ih => exact exists_mem_mul (exists_mem_mul (byte _ _ (by decide)) octet) ih
  have group : ∃ w, w ∈ groupText :=
    exists_mem_mul (exists_mem_add (byte _ _ (by decide))) (one _)
  have groups : ∀ s, ∃ w, w ∈ groupLang s := by
    intro s
    induction s with
    | zero => exact group
    | succ s ih =>
      exact exists_mem_add (exists_mem_mul group (exists_mem_add
        (exists_mem_mul (byte _ _ (by decide)) ih)))
  have tail : ∀ m, ∃ w, w ∈ tailLang (m + 1) :=
    fun m => exists_mem_add (exists_mem_mul group (one _))
  cases place with
  | range lo hi => exact byte lo hi (by simpa [live] using h)
  | decOctet => exact octet
  | octets n => exact octets n
  | hexTail n =>
    cases n <;> exact ⟨[], by first | rfl | exact (Language.mem_add _ _ _).mpr (.inl rfl)⟩
  | ipv6 =>
    exact exists_mem_add
      (exists_mem_mul (exists_mem_mul (byte _ _ (by decide)) (byte _ _ (by decide)))
      (one _))
  | group s => exact groups s
  | afterGroup s =>
    cases s with
    | zero => exact ⟨[], rfl⟩
    | succ s => exact exists_mem_add (exists_mem_mul (byte _ _ (by decide)) (groups s))
  | elided m => exact one _
  | elidedGroup m => exact one _
  | elidedTail m =>
    cases m with
    | zero => simp [live] at h
    | succ m => exact tail m

/-- Rule `main`: the words derived under each `ip_type`. -/
def address : IpType → Language UInt8
  | .noIp => 0
  | .ipv4 => ipv4Address
  | .ipv6 => ipv6Address
  | .ipv6Reference => ipv6Reference

private theorem words_main (t : IpType) : words lang main t = address t := by
  ext w
  rw [mem_words]
  cases t <;> simp [main, address, lang, octetsLang, ipv6Address_eq, ipv6Reference, lit,
    ipv4Address, mul_assoc, Language.notMem_zero]

/-- The machine accepts a text under a type exactly when `main` derives it under that type,
and stays out of `st0` exactly on the beginnings of addresses. -/
theorem machine_run (w : List UInt8) :
    (∀ t, w ∈ address t ↔ ∃ q, machine.run (1, none) w = some q ∧ q.2 = some t) ∧
      ((∃ t v, w ++ v ∈ address t) ↔ (machine.run (1, none) w).isSome = true) := by
  have ok := pairs_certified
  rw [Bool.and_eq_true] at ok
  obtain ⟨S, hS, same⟩ := exists_of_listed ok.2
  have delta : ∀ q b, machine.delta q b = machine.delta q (representative b) := by
    intro q b
    simp only [machine, ← goto_representative]
  have h := run_iff places_interpret ok.1 live_word representative representative_mem
    delta next_representative w hS
  simp only [← words_main, words_eq_of_sameForms same]
  exact h

end AsyncEngine.IpParser.Recognition
