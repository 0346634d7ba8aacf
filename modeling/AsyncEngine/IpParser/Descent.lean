/- The grammar of `ip_parser.rl` by first letters: which texts may follow at each place of an
   address, and that these places derive exactly the words of the rules. -/

import Mathlib.Tactic.Abel
import AsyncEngine.Lib.Presentation
import AsyncEngine.IpParser.Grammar
import AsyncEngine.IpParser.Machine

set_option autoImplicit false
set_option relaxedAutoImplicit false

namespace AsyncEngine.IpParser.Descent

open AsyncEngine.Lib.Presentation
open AsyncEngine.IpParser.Grammar
open AsyncEngine.IpParser.Machine (IpType inRange isHexdigit isLetter)

/-- A place in an address. A count is the number of items that may still come: `group s` stands
before a group with `s` more to come and no `"::"` so far, `afterGroup s` after such a group;
`elided m` stands just after `"::"` with room for `m` groups, `elidedGroup m` after a group that
follows it, `elidedTail m` after the colon that follows that. -/
inductive Place
  | range (lo hi : Nat)
  | decOctet
  | octets (n : Nat)
  | hexTail (n : Nat)
  | ipv6
  | group (s : Nat)
  | afterGroup (s : Nat)
  | elided (m : Nat)
  | elidedGroup (m : Nat)
  | elidedTail (m : Nat)
  deriving BEq, ReflBEq, LawfulBEq, DecidableEq

/-- `( "." dec_octet ){n}`. -/
def octetsLang : Nat → Language UInt8
  | 0 => 1
  | n + 1 => dot * decOctet * octetsLang n

/-- `HEXDIG{,n}`. -/
def hexTailLang : Nat → Language UInt8
  | 0 => 1
  | n + 1 => 1 + hexdig * hexTailLang n

/-- A group of hexadecimal digits, by its first digit. -/
def groupText : Language UInt8 := hexdig * hexTailLang 3

/-- A dotted quad, by its first octet. -/
def quadText : Language UInt8 := decOctet * octetsLang 3

def tailLang : Nat → Language UInt8
  | 0 => 0
  | m + 1 => groupText * (1 + colon * tailLang m) + if 1 ≤ m then quadText else 0

def elidedLang (m : Nat) : Language UInt8 := 1 + tailLang m

def elidedGroupLang (m : Nat) : Language UInt8 := 1 + colon * tailLang m

def groupLang : Nat → Language UInt8
  | 0 => groupText
  | s + 1 => groupText * (colon * groupLang s + elision * elidedLang s) +
      if s = 0 then quadText else 0

def afterGroupLang : Nat → Language UInt8
  | 0 => 1
  | s + 1 => colon * groupLang s + elision * elidedLang s

/-- The texts that may stand at a place. -/
def lang : Place → Language UInt8
  | .range lo hi => range lo hi
  | .decOctet => decOctet
  | .octets n => octetsLang n
  | .hexTail n => hexTailLang n
  | .ipv6 => elision * elidedLang 7 + groupLang 7
  | .group s => groupLang s
  | .afterGroup s => afterGroupLang s
  | .elided m => elidedLang m
  | .elidedGroup m => elidedGroupLang m
  | .elidedTail m => tailLang m

/-- What may follow the first byte of a `dec_octet`. -/
def nextOctet (b : UInt8) : List (List Place) :=
  (bif inRange 0x30 0x39 b then [[]] else []) ++
  (bif inRange 0x31 0x39 b then [[.range 0x30 0x39]] else []) ++
  (bif inRange 0x31 0x31 b then [[.range 0x30 0x39, .range 0x30 0x39]] else []) ++
  (bif inRange 0x32 0x32 b then [[.range 0x30 0x34, .range 0x30 0x39]] else []) ++
  (bif inRange 0x32 0x32 b then [[.range 0x35 0x35, .range 0x30 0x35]] else [])

/-- What may follow the first byte of a dotted quad. -/
def nextQuad (b : UInt8) : List (List Place) := (nextOctet b).map (· ++ [.octets 3])

def nextGroup (s : Nat) (b : UInt8) : List (List Place) :=
  (bif isHexdigit b then [[.hexTail 3, .afterGroup s]] else []) ++
    bif Nat.beq s 1 then nextQuad b else []

def nextTail (m : Nat) (b : UInt8) : List (List Place) :=
  (bif Nat.ble 1 m && isHexdigit b then [[.hexTail 3, .elidedGroup (m - 1)]] else []) ++
    bif Nat.ble 2 m then nextQuad b else []

def null : Place → Bool
  | .octets n => Nat.beq n 0
  | .hexTail _ => true
  | .afterGroup s => Nat.beq s 0
  | .elided _ => true
  | .elidedGroup _ => true
  | _ => false

def next : Place → UInt8 → List (List Place)
  | .range lo hi, b => bif inRange lo hi b then [[]] else []
  | .decOctet, b => nextOctet b
  | .octets 0, _ => []
  | .octets (n + 1), b => bif inRange 0x2e 0x2e b then [[.decOctet, .octets n]] else []
  | .hexTail 0, _ => []
  | .hexTail (n + 1), b => bif isHexdigit b then [[.hexTail n]] else []
  | .ipv6, b =>
    (bif inRange 0x3a 0x3a b then [[.range 0x3a 0x3a, .elided 7]] else []) ++ nextGroup 7 b
  | .group s, b => nextGroup s b
  | .afterGroup 0, _ => []
  | .afterGroup (s + 1), b =>
    bif inRange 0x3a 0x3a b then [[.group s], [.range 0x3a 0x3a, .elided s]] else []
  | .elided m, b => nextTail m b
  | .elidedGroup 0, _ => []
  | .elidedGroup (m + 1), b => bif inRange 0x3a 0x3a b then [[.elidedTail (m + 1)]] else []
  | .elidedTail m, b => nextTail m b

def places : Expansions Place UInt8 := ⟨null, next⟩

private theorem groupLang_eq (s : Nat) :
    groupLang s = groupText * afterGroupLang s + if s = 1 then quadText else 0 := by
  cases s <;> simp [groupLang, afterGroupLang]

private theorem cons_mem_range_mul (lo hi : Nat) (L : Language UInt8) (a : UInt8)
    (w : List UInt8) : a :: w ∈ range lo hi * L ↔ inRange lo hi a = true ∧ w ∈ L := by
  rw [cons_mem_mul]
  have no_nil : [] ∉ range lo hi := by rintro ⟨b, hb, -⟩; cases hb
  simp only [no_nil, false_and, or_false, inRange, Bool.and_eq_true, Nat.ble_eq]
  constructor
  · rintro ⟨u, v, rfl, ⟨b, hb, bounds⟩, hv⟩
    obtain ⟨rfl, rfl⟩ := List.cons.inj hb
    exact ⟨bounds, hv⟩
  · rintro ⟨bounds, hw⟩
    exact ⟨[], w, rfl, ⟨a, rfl, bounds⟩, hw⟩

private theorem cons_mem_hexdig_mul (L : Language UInt8) (a : UInt8) (w : List UInt8) :
    a :: w ∈ hexdig * L ↔ isHexdigit a = true ∧ w ∈ L := by
  simp only [hexdig, digit, add_mul, Language.mem_add, cons_mem_range_mul, isHexdigit, isLetter,
    Bool.or_eq_true]
  tauto

/-- The words of `L` that start with `a` go on with one of the forms `ks`. -/
private def Starts (L : Language UInt8) (a : UInt8) (ks : List (List Place)) : Prop :=
  ∀ w, a :: w ∈ L ↔ ∃ k ∈ ks, w ∈ form lang k

private theorem starts_zero (a : UInt8) : Starts 0 a [] := by
  intro w
  simp [Language.notMem_zero]

private theorem starts_one (a : UInt8) : Starts 1 a [] := by
  intro w
  simp [Language.mem_one]

private theorem starts_add {L M : Language UInt8} {a : UInt8} {ks ls : List (List Place)}
    (hL : Starts L a ks) (hM : Starts M a ls) : Starts (L + M) a (ks ++ ls) := by
  intro w
  rw [Language.mem_add, hL, hM]
  simp only [List.mem_append, or_and_right, exists_or]

private theorem starts_letter {C L : Language UInt8} (c : UInt8 → Bool) (k : List Place)
    (hC : ∀ M a w, a :: w ∈ C * M ↔ c a = true ∧ w ∈ M) (hk : form lang k = L) (a : UInt8) :
    Starts (C * L) a (bif c a then [k] else []) := by
  intro w
  rw [hC, ← hk]
  cases c a <;> simp

private theorem starts_mul {L : Language UInt8} {a : UInt8} {ks : List (List Place)}
    (hL : Starts L a ks) (no_nil : [] ∉ L) (k : List Place) :
    Starts (L * form lang k) a (ks.map (· ++ k)) := by
  intro w
  rw [cons_mem_mul]
  simp only [no_nil, false_and, or_false, List.mem_map]
  constructor
  · rintro ⟨u, v, rfl, hu, hv⟩
    obtain ⟨l, hl, hu⟩ := (hL u).mp hu
    exact ⟨l ++ k, ⟨l, hl, rfl⟩, by rw [form_append]; exact ⟨u, hu, v, hv, rfl⟩⟩
  · rintro ⟨_, ⟨l, hl, rfl⟩, hw⟩
    rw [form_append] at hw
    obtain ⟨u, hu, v, hv, rfl⟩ := hw
    exact ⟨u, v, rfl, (hL u).mpr ⟨l, hl, hu⟩, hv⟩

private theorem starts_range (lo hi : Nat) (k : List Place) (a : UInt8) :
    Starts (range lo hi * form lang k) a (bif inRange lo hi a then [k] else []) :=
  starts_letter (inRange lo hi) k (cons_mem_range_mul lo hi) rfl a

private theorem starts_octet (a : UInt8) : Starts decOctet a (nextOctet a) := by
  have one := starts_range 0x30 0x39 [] a
  have two := starts_range 0x31 0x39 [.range 0x30 0x39] a
  have three := starts_range 0x31 0x31 [.range 0x30 0x39, .range 0x30 0x39] a
  have low := starts_range 0x32 0x32 [.range 0x30 0x34, .range 0x30 0x39] a
  have high := starts_range 0x32 0x32 [.range 0x35 0x35, .range 0x30 0x35] a
  simpa only [form_cons, form_nil, lang, mul_one, decOctet, digit, lit, pow_two, mul_assoc,
    nextOctet] using starts_add (starts_add (starts_add (starts_add one two) three) low) high

private theorem nil_notMem_mul_left {L M : Language UInt8} (h : [] ∉ L) : [] ∉ L * M := by
  rw [nil_mem_mul]
  exact fun hn => h hn.1

private theorem nil_notMem_range (lo hi : Nat) : [] ∉ range lo hi := by
  rintro ⟨b, hb, -⟩
  cases hb

private theorem nil_notMem_hexdig : [] ∉ hexdig := by
  simp [hexdig, digit, Language.mem_add, nil_notMem_range]

private theorem nil_notMem_decOctet : [] ∉ decOctet := by
  simp [decOctet, digit, lit, Language.mem_add, nil_mem_mul, nil_notMem_range]

private theorem starts_quad (a : UInt8) : Starts quadText a (nextQuad a) := by
  have h := starts_mul (starts_octet a) nil_notMem_decOctet [.octets 3]
  simp only [form_cons, form_nil, lang, mul_one] at h
  exact h

private theorem starts_group (place : Place) (a : UInt8) :
    Starts (groupText * lang place) a (bif isHexdigit a then [[.hexTail 3, place]] else []) := by
  rw [groupText, mul_assoc]
  exact starts_letter isHexdigit _ cons_mem_hexdig_mul
    (by rw [form_cons, form_cons, form_nil, mul_one]; rfl) a

private theorem starts_nextGroup (s : Nat) (a : UInt8) :
    Starts (groupLang s) a (nextGroup s a) := by
  rw [groupLang_eq, nextGroup]
  refine starts_add (starts_group (.afterGroup s) a) ?_
  by_cases hs : s = 1
  · simpa [hs] using starts_quad a
  · have hb : Nat.beq s 1 = false := Bool.eq_false_iff.mpr fun h => hs (Nat.eq_of_beq_eq_true h)
    simpa [hs, hb] using starts_zero a

private theorem starts_nextTail (m : Nat) (a : UInt8) : Starts (tailLang m) a (nextTail m a) := by
  cases m with
  | zero => exact starts_zero a
  | succ m =>
    have group := starts_group (.elidedGroup m) a
    by_cases hm : 1 ≤ m
    · have h1 : Nat.ble 1 (m + 1) = true := by simp
      have h2 : Nat.ble 2 (m + 1) = true := by simpa using hm
      rw [tailLang, nextTail, if_pos hm, h1, h2, Bool.true_and, cond_true]
      exact starts_add group (starts_quad a)
    · obtain rfl : m = 0 := by omega
      rw [tailLang, nextTail, if_neg hm]
      exact starts_add group (starts_zero a)

private theorem starts_colon (k : List Place) (a : UInt8) :
    Starts (colon * form lang k) a (bif inRange 0x3a 0x3a a then [k] else []) :=
  starts_range 0x3a 0x3a k a

private theorem starts_place (place : Place) (a : UInt8) :
    Starts (lang place) a (next place a) := by
  cases place with
  | range lo hi =>
    have h := starts_range lo hi [] a
    rwa [form_nil, mul_one] at h
  | decOctet => exact starts_octet a
  | octets n =>
    cases n with
    | zero => exact starts_one a
    | succ n =>
      have h := starts_range 0x2e 0x2e [.decOctet, .octets n] a
      rw [form_cons, form_cons, form_nil, mul_one, ← mul_assoc] at h
      exact h
  | hexTail n =>
    cases n with
    | zero => exact starts_one a
    | succ n =>
      have h := starts_letter isHexdigit [.hexTail n] cons_mem_hexdig_mul rfl a
      rw [form_cons, form_nil, mul_one] at h
      exact starts_add (starts_one a) h
  | ipv6 =>
    have h := starts_colon [.range 0x3a 0x3a, .elided 7] a
    rw [form_cons, form_cons, form_nil, mul_one, ← mul_assoc] at h
    exact starts_add h (starts_nextGroup 7 a)
  | group s => exact starts_nextGroup s a
  | afterGroup s =>
    cases s with
    | zero => exact starts_one a
    | succ s =>
      have plain := starts_colon [.group s] a
      have twice := starts_colon [.range 0x3a 0x3a, .elided s] a
      rw [form_cons, form_cons, form_nil, mul_one, ← mul_assoc] at twice
      rw [form_cons, form_nil, mul_one] at plain
      have h := starts_add plain twice
      have merge : (bif inRange 0x3a 0x3a a then [[Place.group s]] else []) ++
          (bif inRange 0x3a 0x3a a then [[.range 0x3a 0x3a, .elided s]] else []) =
          next (.afterGroup (s + 1)) a := by
        rw [next]
        cases inRange 0x3a 0x3a a <;> rfl
      rw [merge] at h
      exact h
  | elided m =>
    have h := starts_add (starts_one a) (starts_nextTail m a)
    rw [List.nil_append] at h
    exact h
  | elidedGroup m =>
    cases m with
    | zero =>
      have h : lang (.elidedGroup 0) = 1 := by simp [lang, elidedGroupLang, tailLang]
      rw [h]
      exact starts_one a
    | succ m =>
      have h := starts_colon [.elidedTail (m + 1)] a
      rw [form_cons, form_nil, mul_one] at h
      exact starts_add (starts_one a) h
  | elidedTail m => exact starts_nextTail m a

private theorem nil_mem_place (place : Place) : [] ∈ lang place ↔ null place = true := by
  have skip (L : Language UInt8) : [] ∈ 1 + L := (Language.mem_add _ _ _).mpr (.inl rfl)
  have group (L : Language UInt8) : [] ∉ groupText * L :=
    nil_notMem_mul_left (nil_notMem_mul_left nil_notMem_hexdig)
  have quad : [] ∉ quadText := nil_notMem_mul_left nil_notMem_decOctet
  have colon_first (L : Language UInt8) : [] ∉ colon * L :=
    nil_notMem_mul_left (nil_notMem_range _ _)
  have groupLang_pos (s : Nat) : [] ∉ groupLang s := by
    rw [groupLang_eq, Language.mem_add]
    split_ifs <;> simp [group, quad, Language.notMem_zero]
  cases place with
  | range lo hi => exact iff_of_false (nil_notMem_range lo hi) Bool.false_ne_true
  | decOctet => exact iff_of_false nil_notMem_decOctet Bool.false_ne_true
  | octets n =>
    cases n with
    | zero => exact iff_of_true rfl rfl
    | succ n =>
      refine iff_of_false ?_ Bool.false_ne_true
      rw [lang, octetsLang, mul_assoc]
      exact nil_notMem_mul_left (nil_notMem_range _ _)
  | hexTail n =>
    cases n with
    | zero => exact iff_of_true rfl rfl
    | succ n => exact iff_of_true (skip _) rfl
  | ipv6 =>
    refine iff_of_false ?_ Bool.false_ne_true
    rw [lang, Language.mem_add, elision, mul_assoc]
    exact fun h => h.elim (colon_first _) (groupLang_pos 7)
  | group s => exact iff_of_false (groupLang_pos s) Bool.false_ne_true
  | afterGroup s =>
    cases s with
    | zero => exact iff_of_true rfl rfl
    | succ s =>
      refine iff_of_false ?_ Bool.false_ne_true
      rw [lang, afterGroupLang, Language.mem_add, elision, mul_assoc]
      exact fun h => h.elim (colon_first _) (colon_first _)
  | elided m => exact iff_of_true (skip _) rfl
  | elidedGroup m => exact iff_of_true (skip _) rfl
  | elidedTail m =>
    refine iff_of_false ?_ Bool.false_ne_true
    cases m with
    | zero => exact Language.notMem_zero _
    | succ m =>
      rw [lang, tailLang, Language.mem_add]
      split_ifs <;> simp [group, quad, Language.notMem_zero]

/-- The places derive their texts one byte at a time. -/
theorem places_interpret : Interprets places lang := ⟨nil_mem_place, starts_place⟩

private theorem times_zero_succ (n : Nat) (r : Language UInt8) :
    times 0 (n + 1) r = times 0 n r + r ^ (n + 1) := by
  rw [times, times, Finset.sum_Icc_succ_top (Nat.zero_le _)]

private theorem h16_eq : h16 = groupText := by
  have tail : groupText = hexdig + (hexdig ^ 2 + (hexdig ^ 3 + hexdig ^ 4)) := by
    simp only [groupText, hexTailLang, mul_add, mul_one, pow_succ, pow_zero, one_mul, mul_assoc]
  have range : h16 = hexdig ^ 1 + hexdig ^ 2 + hexdig ^ 3 + hexdig ^ 4 := by
    simp [h16, times, Finset.sum_Icc_succ_top]
  rw [tail, range]
  simp only [pow_one, add_assoc]

private theorem quad_eq : ipv4Address = quadText := by
  simp only [ipv4Address, quadText, octetsLang, mul_one, mul_assoc]

/-- The nine alternatives of `IPv6address`, sorted by what stands before the elision. -/
theorem ipv6Address_eq : ipv6Address = lang .ipv6 := by
  have zero (r : Language UInt8) : times 0 0 r = 1 := by simp [times]
  simp only [lang, groupLang, elidedLang, tailLang, ipv6Address, ls32, opt, times_zero_succ, zero,
    h16_eq, quad_eq, if_true, pow_succ, pow_zero, one_mul]
  simp [mul_add, add_mul, mul_assoc]
  abel

end AsyncEngine.IpParser.Descent
