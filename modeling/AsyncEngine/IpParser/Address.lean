/- The addresses that the texts of the grammar denote, and that these texts are the text
   representations of addresses: colons around groups, one elision, a dotted quad at the end. -/

import Mathlib.Tactic.Abel
import AsyncEngine.Lib.Extent
import AsyncEngine.Lib.Fields
import AsyncEngine.IpParser.Grammar

set_option autoImplicit false
set_option relaxedAutoImplicit false

namespace AsyncEngine.IpParser.Address

open AsyncEngine.Lib.Extent
open AsyncEngine.Lib.Fields
open AsyncEngine.IpParser.Grammar

/-- The bytes of `struct in_addr` in network order. -/
abbrev InAddr := {bytes : List UInt8 // bytes.length = 4}

/-- The bytes `s6_addr` of `struct in6_addr`. -/
abbrev In6Addr := {bytes : List UInt8 // bytes.length = 16}

/-- A digit of either base, letters in either case. -/
def digitValue (b : UInt8) : Nat :=
  if b.toNat ≤ 57 then b.toNat - 48 else if b.toNat ≤ 70 then b.toNat - 55 else b.toNat - 87

def numeral (base : Nat) (w : List UInt8) : Nat :=
  w.foldl (fun n b => base * n + digitValue b) 0

/-- The bytes of `d.d.d.d`. -/
def quadBytes (w : List UInt8) : List UInt8 :=
  (fieldsOf 46 w).map fun f => UInt8.ofNat (numeral 10 f)

def groupBytes (w : List UInt8) : List UInt8 :=
  [UInt8.ofNat (numeral 16 w / 256), UInt8.ofNat (numeral 16 w % 256)]

/-- The bytes of what stands between two colons. -/
def fieldBytes (w : List UInt8) : List UInt8 :=
  if (46 : UInt8) ∈ w then quadBytes w else groupBytes w

def bytesOf (fs : List (List UInt8)) : List UInt8 := fs.flatMap fieldBytes

def Groups (fs : List (List UInt8)) : Prop := ∀ f ∈ fs, f ∈ h16

/-- Groups of which the last may be a dotted quad. -/
def Trailing (fs : List (List UInt8)) : Prop :=
  fs = [] ∨ ∃ gs f, fs = gs ++ [f] ∧ Groups gs ∧ (f ∈ h16 ∨ f ∈ ipv4Address)

/-- The text is the dotted decimal form of the address. -/
def Dotted (s : List UInt8) (v : InAddr) : Prop :=
  ∃ fs : List (List UInt8), fs.length = 4 ∧ (∀ f ∈ fs, f ∈ decOctet) ∧ s = join 46 fs ∧
    v.1 = fs.map fun f => UInt8.ofNat (numeral 10 f)

/-- The text is one of the forms of the IPv6 address; an elision stands for one or more groups
of zeros. -/
inductive Denotes : List UInt8 → In6Addr → Prop
  | full {fs : List (List UInt8)} {v : In6Addr} (trailing : Trailing fs)
      (bytes : v.1 = bytesOf fs) : Denotes (join 58 fs) v
  | elided {l r : List (List UInt8)} {n : Nat} {v : In6Addr} (groups : Groups l)
      (trailing : Trailing r) (some : 0 < n)
      (bytes : v.1 = bytesOf l ++ List.replicate (2 * n) 0 ++ bytesOf r) :
      Denotes (join 58 l ++ 58 :: 58 :: join 58 r) v

section Letters

private def IsDigit (b : UInt8) : Prop := 48 ≤ b.toNat ∧ b.toNat ≤ 57

private def IsHexdig (b : UInt8) : Prop :=
  IsDigit b ∨ 65 ≤ b.toNat ∧ b.toNat ≤ 70 ∨ 97 ≤ b.toNat ∧ b.toNat ≤ 102

private theorem within_range {p : UInt8 → Prop} {lo hi : Nat}
    (h : ∀ b : UInt8, lo ≤ b.toNat → b.toNat ≤ hi → p b) : Within p 1 1 (range lo hi) := by
  rintro w ⟨b, rfl, least, most⟩
  simpa using h b least most

private theorem within_digits {lo hi : Nat} (hlo : 48 ≤ lo) (hhi : hi ≤ 57) :
    Within IsDigit 1 1 (range lo hi) :=
  within_range fun _ least most => ⟨hlo.trans least, most.trans hhi⟩

private theorem within_decOctet : Within IsDigit 1 3 decOctet := by
  have one {lo hi : Nat} (hlo : 48 ≤ lo) (hhi : hi ≤ 57) := within_digits hlo hhi
  have digit : Within IsDigit 1 1 digit := one (by omega) (by omega)
  have same (b : UInt8) (h : IsDigit b) : IsDigit b := h
  refine ((((digit.weaken same ?_ ?_).add ?_).add ?_).add ?_).add ?_
  · omega
  · omega
  · exact ((one (by omega) (by omega)).mul digit).weaken same (by omega) (by omega)
  · exact ((one (by omega) (by omega)).mul (digit.pow 2)).weaken same (by omega) (by omega)
  · exact (((one (by omega) (by omega)).mul (one (by omega) (by omega))).mul digit).weaken same
      (by omega) (by omega)
  · exact (((one (by omega) (by omega)).mul (one (by omega) (by omega))).mul
      (one (by omega) (by omega))).weaken same (by omega) (by omega)

private theorem within_h16 : Within IsHexdig 1 4 h16 := by
  have hexdig : Within IsHexdig 1 1 hexdig := by
    refine (within_range fun b least most => .inl ⟨least, most⟩).add (.add ?_ ?_)
    · exact within_range fun b least most => .inr (.inl ⟨least, most⟩)
    · exact within_range fun b least most => .inr (.inr ⟨least, most⟩)
  rw [h16, times]
  refine Within.sum fun i hi => ?_
  rw [Finset.mem_Icc] at hi
  exact (hexdig.pow i).weaken (fun _ h => h) (by omega) (by omega)

private theorem letters_ipv4Address : Within (fun b => IsDigit b ∨ b = 46) 7 15 ipv4Address := by
  have octet : Within (fun b => IsDigit b ∨ b = 46) 1 3 decOctet :=
    within_decOctet.weaken (fun _ h => .inl h) le_rfl le_rfl
  have dot : Within (fun b => IsDigit b ∨ b = 46) 1 1 dot :=
    within_range fun b least most => .inr (UInt8.toNat_inj.mp (le_antisymm most least))
  exact (((((octet.mul dot).mul octet).mul dot).mul octet).mul dot).mul octet

/-- Neither NUL nor `"["`. -/
private def IsPlain (b : UInt8) : Prop := b ≠ 0 ∧ b ≠ 91

private theorem plain_h16 : Within IsPlain 1 4 h16 := by
  refine within_h16.weaken (fun b h => ?_) le_rfl le_rfl
  constructor
  · rintro rfl
    simp [IsHexdig, IsDigit] at h
  · rintro rfl
    simp [IsHexdig, IsDigit] at h

private theorem plain_ipv4Address : Within IsPlain 7 15 ipv4Address := by
  refine letters_ipv4Address.weaken (fun b h => ?_) le_rfl le_rfl
  constructor
  · rintro rfl
    simp [IsDigit] at h
  · rintro rfl
    simp [IsDigit] at h

theorem within_ipv4Address : Within (· ≠ 0) 7 15 ipv4Address :=
  plain_ipv4Address.weaken (fun _ h => h.1) le_rfl le_rfl

private theorem proper_of_within {p : UInt8 → Prop} {n : Nat} {L : Language UInt8}
    (h : Within p 1 n L) {sep : UInt8} (hsep : ¬ p sep) {fs : List (List UInt8)}
    (hfs : ∀ f ∈ fs, f ∈ L) : Proper sep fs := by
  intro f hf
  obtain ⟨letters, least, -⟩ := h f (hfs f hf)
  exact ⟨List.ne_nil_of_length_pos least, fun inside => hsep (letters sep inside)⟩

private theorem proper_groups {fs : List (List UInt8)} (h : Groups fs) : Proper 58 fs :=
  proper_of_within within_h16 (by simp [IsHexdig, IsDigit]) h

private theorem proper_trailing {fs : List (List UInt8)} (h : Trailing fs) : Proper 58 fs := by
  rcases h with rfl | ⟨gs, f, rfl, groups, last⟩
  · exact fun f hf => absurd hf (by simp)
  · intro g hg
    rcases List.mem_append.mp hg with front | final
    · exact proper_groups groups g front
    · obtain rfl := List.mem_singleton.mp final
      rcases last with group | quad
      · have alone : Groups [g] := by simpa [Groups] using group
        exact proper_groups alone g (by simp)
      · obtain ⟨letters, least, -⟩ := letters_ipv4Address g quad
        refine ⟨List.ne_nil_of_length_pos (by omega), fun inside => ?_⟩
        rcases letters 58 inside with digit | dot
        · simp [IsDigit] at digit
        · simp at dot

end Letters

/-! ### Dotted quads -/

private theorem mem_lit {c : Nat} (hc : c < 256) (w : List UInt8) :
    w ∈ lit c ↔ w = [UInt8.ofNat c] := by
  constructor
  · rintro ⟨b, rfl, least, most⟩
    have equal : b.toNat = c := le_antisymm most least
    rw [← equal, UInt8.ofNat_toNat]
  · rintro rfl
    refine ⟨UInt8.ofNat c, rfl, ?_⟩
    rw [UInt8.toNat_ofNat_of_lt' hc]
    exact ⟨le_rfl, le_rfl⟩

private theorem mem_lit_mul {c : Nat} (hc : c < 256) (L : Language UInt8) (w : List UInt8) :
    w ∈ lit c * L ↔ ∃ v ∈ L, w = UInt8.ofNat c :: v := by
  rw [Language.mem_mul]
  constructor
  · rintro ⟨u, hu, v, hv, rfl⟩
    obtain rfl := (mem_lit hc u).mp hu
    exact ⟨v, hv, rfl⟩
  · rintro ⟨v, hv, rfl⟩
    exact ⟨_, (mem_lit hc _).mpr rfl, v, hv, rfl⟩

private theorem mem_dot_mul (L : Language UInt8) (w : List UInt8) :
    w ∈ dot * L ↔ ∃ v ∈ L, w = 46 :: v :=
  mem_lit_mul (by omega) L w

private theorem mem_colon_mul (L : Language UInt8) (w : List UInt8) :
    w ∈ colon * L ↔ ∃ v ∈ L, w = 58 :: v :=
  mem_lit_mul (by omega) L w

private theorem mem_ipv4Address (s : List UInt8) :
    s ∈ ipv4Address ↔
      ∃ fs : List (List UInt8), fs.length = 4 ∧ (∀ f ∈ fs, f ∈ decOctet) ∧ s = join 46 fs := by
  have dotted : ipv4Address =
      decOctet * (dot * (decOctet * (dot * (decOctet * (dot * decOctet))))) := by
    simp only [ipv4Address, mul_assoc]
  simp only [dotted, Language.mem_mul (l := decOctet), mem_dot_mul]
  constructor
  · rintro ⟨a, ha, _, ⟨_, ⟨b, hb, _, ⟨_, ⟨c, hc, _, ⟨d, hd, rfl⟩, rfl⟩, rfl⟩, rfl⟩, rfl⟩, rfl⟩
    exact ⟨[a, b, c, d], rfl, by simp [ha, hb, hc, hd], by simp⟩
  · rintro ⟨fs, four, octets, rfl⟩
    match fs, four with
    | [a, b, c, d], _ =>
      simp only [List.mem_cons, List.not_mem_nil, or_false, forall_eq_or_imp, forall_eq] at octets
      obtain ⟨ha, hb, hc, hd⟩ := octets
      exact ⟨a, ha, _, ⟨_, ⟨b, hb, _, ⟨_, ⟨c, hc, _, ⟨d, hd, rfl⟩, rfl⟩, rfl⟩, rfl⟩, rfl⟩,
        by simp⟩

private theorem quadBytes_join {fs : List (List UInt8)} (h : ∀ f ∈ fs, f ∈ decOctet) :
    quadBytes (join 46 fs) = fs.map fun f => UInt8.ofNat (numeral 10 f) := by
  rw [quadBytes, fieldsOf_join (proper_of_within within_decOctet (by simp [IsDigit]) h)]

theorem quadBytes_eq {s : List UInt8} {v : InAddr} (h : Dotted s v) : quadBytes s = v.1 := by
  obtain ⟨fs, -, octets, rfl, bytes⟩ := h
  rw [quadBytes_join octets, bytes]

theorem mem_ipv4Address_iff (s : List UInt8) : s ∈ ipv4Address ↔ ∃ v, Dotted s v := by
  rw [mem_ipv4Address]
  constructor
  · rintro ⟨fs, four, octets, text⟩
    exact ⟨⟨_, by rw [List.length_map, four]⟩, fs, four, octets, text, rfl⟩
  · rintro ⟨v, fs, four, octets, text, -⟩
    exact ⟨fs, four, octets, text⟩

/-! ### Groups and elisions -/

theorem fieldBytes_h16 {w : List UInt8} (h : w ∈ h16) : fieldBytes w = groupBytes w := by
  have free : (46 : UInt8) ∉ w := by
    intro inside
    simpa [IsHexdig, IsDigit] using (within_h16 w h).1 46 inside
  exact if_neg free

private theorem fieldBytes_group {w : List UInt8} (h : w ∈ h16) :
    (fieldBytes w).length = 2 := by
  rw [fieldBytes_h16 h]
  rfl

theorem fieldBytes_dotted {w : List UInt8} {v : InAddr} (h : Dotted w v) :
    fieldBytes w = v.1 := by
  have inside : (46 : UInt8) ∈ w := by
    obtain ⟨fs, four, -, rfl, -⟩ := h
    match fs, four with
    | [a, b, c, d], _ => simp
  rw [fieldBytes, if_pos inside, quadBytes_eq h]

private theorem fieldBytes_quad {w : List UInt8} (h : w ∈ ipv4Address) :
    (fieldBytes w).length = 4 := by
  obtain ⟨v, hv⟩ := (mem_ipv4Address_iff w).mp h
  rw [fieldBytes_dotted hv, v.2]

private theorem bytesOf_groups {fs : List (List UInt8)} (h : Groups fs) :
    (bytesOf fs).length = 2 * fs.length := by
  induction fs with
  | nil => rfl
  | cons f fs ih =>
    have rest := ih fun g hg => h g (by simp [hg])
    have first := fieldBytes_group (h f (by simp))
    rw [bytesOf, List.flatMap_cons, List.length_append, first, ← bytesOf, rest]
    simp only [List.length_cons]
    omega

theorem bytesOf_snoc (fs : List (List UInt8)) (f : List UInt8) :
    bytesOf (fs ++ [f]) = bytesOf fs ++ fieldBytes f := by
  simp [bytesOf]

private theorem mem_groups (n : Nat) (s : List UInt8) :
    s ∈ (h16 * colon) ^ n ↔
      ∃ gs, Groups gs ∧ gs.length = n ∧ s = gs.flatMap (· ++ [58]) := by
  induction n generalizing s with
  | zero =>
    rw [pow_zero, Language.mem_one]
    constructor
    · rintro rfl
      exact ⟨[], by simp [Groups], rfl, rfl⟩
    · rintro ⟨gs, -, none, rfl⟩
      rw [List.length_eq_zero_iff.mp none]
      rfl
  | succ n ih =>
    rw [pow_succ', mul_assoc, Language.mem_mul]
    simp only [mem_colon_mul, ih]
    constructor
    · rintro ⟨f, hf, _, ⟨_, ⟨gs, groups, count, rfl⟩, rfl⟩, rfl⟩
      refine ⟨f :: gs, ?_, by simp [count], by simp⟩
      intro g hg
      rcases List.mem_cons.mp hg with rfl | hg
      · exact hf
      · exact groups g hg
    · rintro ⟨gs, groups, count, rfl⟩
      match gs, count with
      | f :: gs, count =>
        refine ⟨f, groups f (by simp), _, ⟨_, ⟨gs, fun g hg => groups g (by simp [hg]), ?_, rfl⟩,
          rfl⟩, by simp⟩
        simpa using count

/-- What may stand before an elision when there is room for `k` groups. -/
private def before : Nat → Language UInt8
  | 0 => 1
  | k + 1 => opt (times 0 k (h16 * colon) * h16)

/-- What may stand behind an elision and fills `n` groups. -/
private def after : Nat → Language UInt8
  | 0 => 1
  | 1 => h16
  | n + 2 => (h16 * colon) ^ n * ls32

private theorem mem_before (k : Nat) (s : List UInt8) :
    s ∈ before k ↔ ∃ gs, Groups gs ∧ gs.length ≤ k ∧ s = join 58 gs := by
  cases k with
  | zero =>
    rw [before, Language.mem_one]
    constructor
    · rintro rfl
      exact ⟨[], by simp [Groups], le_rfl, rfl⟩
    · rintro ⟨gs, -, none, rfl⟩
      rw [List.length_eq_zero_iff.mp (Nat.le_zero.mp none)]
      rfl
  | succ k =>
    rw [before, opt, Language.mem_add, Language.mem_one, Language.mem_mul]
    simp only [times, mem_sum, mem_groups]
    constructor
    · rintro (rfl | ⟨_, ⟨i, hi, gs, groups, count, rfl⟩, f, hf, rfl⟩)
      · exact ⟨[], by simp [Groups], Nat.zero_le _, rfl⟩
      · rw [Finset.mem_Icc] at hi
        refine ⟨gs ++ [f], ?_, ?_, (join_snoc 58 gs f).symm⟩
        · intro g hg
          rcases List.mem_append.mp hg with hg | hg
          · exact groups g hg
          · exact List.mem_singleton.mp hg ▸ hf
        · rw [List.length_append, List.length_singleton]
          omega
    · rintro ⟨gs, groups, count, rfl⟩
      rcases List.eq_nil_or_concat gs with rfl | ⟨gs, f, rfl⟩
      · exact .inl rfl
      · rw [List.concat_eq_append] at groups count ⊢
        rw [List.length_append, List.length_singleton] at count
        refine .inr ⟨_, ⟨gs.length, ?_, gs, fun g hg => groups g (by simp [hg]), rfl, rfl⟩, f,
          groups f (by simp), (join_snoc 58 gs f).symm⟩
        rw [Finset.mem_Icc]
        omega

private theorem mem_ls32 (s : List UInt8) :
    s ∈ ls32 ↔ (∃ f ∈ h16, ∃ g ∈ h16, s = f ++ 58 :: g) ∨ s ∈ ipv4Address := by
  rw [ls32, Language.mem_add, mul_assoc, Language.mem_mul]
  simp only [mem_colon_mul]
  constructor
  · rintro (⟨f, hf, _, ⟨g, hg, rfl⟩, rfl⟩ | quad)
    · exact .inl ⟨f, hf, g, hg, rfl⟩
    · exact .inr quad
  · rintro (⟨f, hf, g, hg, rfl⟩ | quad)
    · exact .inl ⟨f, hf, _, ⟨g, hg, rfl⟩, rfl⟩
    · exact .inr quad

private theorem groups_snoc {gs : List (List UInt8)} {f : List UInt8} :
    Groups (gs ++ [f]) ↔ Groups gs ∧ f ∈ h16 := by
  simp [Groups, or_imp, forall_and]

private theorem mem_groups_ls32 (n : Nat) (s : List UInt8) :
    s ∈ (h16 * colon) ^ n * ls32 ↔
      ∃ fs, Trailing fs ∧ (bytesOf fs).length = 2 * (n + 2) ∧ s = join 58 fs := by
  rw [Language.mem_mul]
  simp only [mem_groups, mem_ls32]
  constructor
  · rintro ⟨_, ⟨gs, groups, count, rfl⟩, _, ⟨f, hf, g, hg, rfl⟩ | quad, rfl⟩
    · have front : Groups (gs ++ [f]) := groups_snoc.mpr ⟨groups, hf⟩
      refine ⟨gs ++ [f] ++ [g], .inr ⟨gs ++ [f], g, rfl, front, .inl hg⟩, ?_, ?_⟩
      · rw [bytesOf_groups (groups_snoc.mpr ⟨front, hg⟩)]
        simp only [List.length_append, List.length_singleton]
        omega
      · rw [join_snoc, List.flatMap_append]
        simp
    · rename_i f
      refine ⟨gs ++ [f], .inr ⟨gs, f, rfl, groups, .inr quad⟩, ?_, (join_snoc 58 gs f).symm⟩
      rw [bytesOf_snoc, List.length_append, bytesOf_groups groups, fieldBytes_quad quad]
      omega
  · rintro ⟨fs, rfl | ⟨gs, f, rfl, groups, group | quad⟩, size, rfl⟩
    · simp [bytesOf] at size
    · rw [bytesOf_groups (groups_snoc.mpr ⟨groups, group⟩), List.length_append,
        List.length_singleton] at size
      rcases List.eq_nil_or_concat gs with rfl | ⟨gs, g, rfl⟩
      · simp at size
      · rw [List.concat_eq_append] at groups size ⊢
        obtain ⟨front, last⟩ := groups_snoc.mp groups
        rw [List.length_append, List.length_singleton] at size
        refine ⟨_, ⟨gs, front, by omega, rfl⟩, _, .inl ⟨g, last, f, group, rfl⟩, ?_⟩
        rw [join_snoc, List.flatMap_append]
        simp
    · rw [bytesOf_snoc, List.length_append, bytesOf_groups groups, fieldBytes_quad quad] at size
      exact ⟨_, ⟨gs, groups, by omega, rfl⟩, f, .inr quad, (join_snoc 58 gs f).symm⟩

private theorem mem_after (n : Nat) (s : List UInt8) :
    s ∈ after n ↔ ∃ fs, Trailing fs ∧ (bytesOf fs).length = 2 * n ∧ s = join 58 fs := by
  match n with
  | n + 2 => exact mem_groups_ls32 n s
  | 1 =>
    rw [after]
    constructor
    · intro group
      refine ⟨[s], .inr ⟨[], s, rfl, by simp [Groups], .inl group⟩, ?_, by simp⟩
      simpa [bytesOf] using fieldBytes_group group
    · rintro ⟨fs, rfl | ⟨gs, f, rfl, groups, group | quad⟩, size, rfl⟩
      · simp [bytesOf] at size
      · rw [bytesOf_groups (groups_snoc.mpr ⟨groups, group⟩), List.length_append,
          List.length_singleton] at size
        rw [List.length_eq_zero_iff.mp (show gs.length = 0 by omega)]
        simpa using group
      · rw [bytesOf_snoc, List.length_append, fieldBytes_quad quad] at size
        omega
  | 0 =>
    rw [after, Language.mem_one]
    constructor
    · rintro rfl
      exact ⟨[], .inl rfl, rfl, rfl⟩
    · rintro ⟨fs, rfl | ⟨gs, f, rfl, groups, group | quad⟩, size, rfl⟩
      · rfl
      · rw [bytesOf_snoc, List.length_append, fieldBytes_group group] at size
        omega
      · rw [bytesOf_snoc, List.length_append, fieldBytes_quad quad] at size
        omega

/-- The nine alternatives of `IPv6address`, by the number of groups behind the elision. -/
private theorem ipv6Address_alternatives :
    ipv6Address = after 8 + ∑ n ∈ Finset.range 8, before (7 - n) * elision * after n := by
  have zero (r : Language UInt8) : times 0 0 r = 1 := by simp [times]
  have one (r : Language UInt8) : times 0 1 r = opt r := by
    simp [times, opt, Finset.sum_Icc_succ_top]
  simp only [Finset.sum_range_succ, Finset.sum_range_zero, Nat.reduceSub, before, after, zero, one,
    ipv6Address, pow_zero, pow_one, one_mul, mul_one, zero_add, mul_assoc]
  abel

private theorem plain_colon : Within IsPlain 1 1 colon := by
  refine within_range fun b least most => ?_
  constructor
  · rintro rfl
    exact absurd least (by decide)
  · rintro rfl
    exact absurd most (by decide)

private theorem plain_ls32 : Within IsPlain 3 15 ls32 := by
  have group := plain_h16
  have colon := plain_colon
  refine (((group.mul colon).mul group).weaken (fun _ h => h) le_rfl (by omega)).add ?_
  exact plain_ipv4Address.weaken (fun _ h => h) (by omega) le_rfl

private theorem plain_before (k : Nat) : Within IsPlain 0 (5 * k) (before k) := by
  cases k with
  | zero => exact within_one
  | succ k =>
    refine (within_one.weaken (fun _ h => h) le_rfl (Nat.zero_le _)).add ?_
    have front : Within IsPlain 0 (k * 5) (times 0 k (h16 * colon)) := by
      refine Within.sum fun i hi => ?_
      rw [Finset.mem_Icc] at hi
      exact ((plain_h16.mul plain_colon).pow i).weaken (fun _ h => h) (Nat.zero_le _)
        (Nat.mul_le_mul_right 5 hi.2)
    exact (front.mul plain_h16).weaken (fun _ h => h) (Nat.zero_le _) (by omega)

private theorem plain_after (n : Nat) : Within IsPlain 0 (5 * n + 5) (after n) := by
  match n with
  | 0 => exact within_one.weaken (fun _ h => h) le_rfl (Nat.zero_le _)
  | 1 => exact plain_h16.weaken (fun _ h => h) (Nat.zero_le _) (by omega)
  | n + 2 =>
    exact (((plain_h16.mul plain_colon).pow n).mul plain_ls32).weaken (fun _ h => h)
      (Nat.zero_le _) (by omega)

private theorem plain_ipv6Address : Within IsPlain 0 45 ipv6Address := by
  rw [ipv6Address_alternatives]
  refine ((plain_after 8).weaken (fun _ h => h) le_rfl le_rfl).add (Within.sum fun n hn => ?_)
  rw [Finset.mem_range] at hn
  exact (((plain_before (7 - n)).mul (plain_colon.mul plain_colon)).mul
    (plain_after n)).weaken (fun _ h => h) (Nat.zero_le _) (by omega)

theorem within_ipv6Address : Within (· ≠ 0) 0 45 ipv6Address :=
  plain_ipv6Address.weaken (fun _ h => h.1) le_rfl le_rfl

theorem bracket_notMem_ipv6Address {s : List UInt8} (h : s ∈ ipv6Address) : (91 : UInt8) ∉ s :=
  fun inside => ((plain_ipv6Address s h).1 91 inside).2 rfl

/-- The words of `IPv6address` are exactly the text representations of IPv6 addresses. -/
theorem mem_ipv6Address_iff (s : List UInt8) : s ∈ ipv6Address ↔ ∃ v, Denotes s v := by
  have parts (n : Nat) : s ∈ before (7 - n) * elision * after n ↔
      ∃ l r, Groups l ∧ Trailing r ∧ l.length ≤ 7 - n ∧ (bytesOf r).length = 2 * n ∧
        s = join 58 l ++ 58 :: 58 :: join 58 r := by
    rw [mul_assoc, elision, mul_assoc, Language.mem_mul]
    simp only [mem_colon_mul, mem_before, mem_after]
    constructor
    · rintro ⟨_, ⟨l, groups, room, rfl⟩, _, ⟨_, ⟨_, ⟨r, trailing, size, rfl⟩, rfl⟩, rfl⟩, rfl⟩
      exact ⟨l, r, groups, trailing, room, size, rfl⟩
    · rintro ⟨l, r, groups, trailing, room, size, rfl⟩
      exact ⟨_, ⟨l, groups, room, rfl⟩, _, ⟨_, ⟨_, ⟨r, trailing, size, rfl⟩, rfl⟩, rfl⟩, rfl⟩
  rw [ipv6Address_alternatives, Language.mem_add, mem_after, mem_sum]
  simp only [parts, Finset.mem_range]
  constructor
  · rintro (⟨fs, trailing, size, rfl⟩ | ⟨n, small, l, r, groups, trailing, room, size, rfl⟩)
    · exact ⟨⟨bytesOf fs, size⟩, .full trailing rfl⟩
    · have front := bytesOf_groups groups
      refine ⟨⟨bytesOf l ++ List.replicate (2 * (8 - n - l.length)) 0 ++ bytesOf r, ?_⟩,
        .elided groups trailing (by omega) rfl⟩
      simp only [List.length_append, List.length_replicate]
      omega
  · rintro ⟨v, denotes⟩
    have sixteen := v.2
    cases denotes with
    | full trailing bytes =>
      rw [bytes] at sixteen
      exact .inl ⟨_, trailing, sixteen, rfl⟩
    | @elided l r n _ groups trailing some bytes =>
      have front := bytesOf_groups groups
      rw [bytes] at sixteen
      simp only [List.length_append, List.length_replicate] at sixteen
      exact .inr ⟨8 - n - l.length, by omega, l, r, groups, trailing, by omega, by omega, rfl⟩

/-- The bytes read from the fields before and behind the elision. -/
def read (s : List UInt8) : List UInt8 :=
  match cut 58 s with
  | none => bytesOf (fieldsOf 58 s)
  | some (l, r) =>
    let front := bytesOf (fieldsOf 58 l)
    let back := bytesOf (fieldsOf 58 r)
    front ++ List.replicate (16 - (front.length + back.length)) 0 ++ back

/-- A text denotes no other address than the one read from it. -/
theorem read_eq {s : List UInt8} {v : In6Addr} (h : Denotes s v) : read s = v.1 := by
  cases h with
  | @full fs _ trailing bytes =>
    have proper := proper_trailing trailing
    rw [read, cut_join proper, bytes]
    simp only [fieldsOf_join proper]
  | @elided l r n _ groups trailing some bytes =>
    have sixteen := v.2
    rw [bytes] at sixteen
    simp only [List.length_append, List.length_replicate] at sixteen
    have zeros : 16 - ((bytesOf l).length + (bytesOf r).length) = 2 * n := by omega
    rw [read, cut_elided (proper_groups groups), bytes]
    simp only [fieldsOf_join (proper_groups groups), fieldsOf_join (proper_trailing trailing),
      zeros]

/-! ### Texts of any kind -/

inductive IpAddress
  | inet (v : InAddr)
  | inet6 (v : In6Addr)
deriving DecidableEq

/-- The address a text stands for, with the brackets of a reference taken off. -/
inductive Names : List UInt8 → IpAddress → Prop
  | ipv4 {s : List UInt8} {v : InAddr} (h : Dotted s v) : Names s (.inet v)
  | ipv6 {s : List UInt8} {v : In6Addr} (h : Denotes s v) : Names s (.inet6 v)
  | reference {s : List UInt8} {v : In6Addr} (h : Denotes s v) : Names (91 :: s ++ [93]) (.inet6 v)

/-- The whole text is derived from one of the three rules. -/
def Derived (s : List UInt8) : Prop := s ∈ ipv4Address ∨ s ∈ ipv6Address ∨ s ∈ ipv6Reference

theorem mem_ipv6Reference (s : List UInt8) :
    s ∈ ipv6Reference ↔ ∃ t ∈ ipv6Address, s = 91 :: t ++ [93] := by
  rw [ipv6Reference, mul_assoc, mem_lit_mul (by omega)]
  simp only [Language.mem_mul, mem_lit (show 0x5d < 256 by omega)]
  constructor
  · rintro ⟨_, ⟨t, ht, _, rfl, rfl⟩, rfl⟩
    exact ⟨t, ht, rfl⟩
  · rintro ⟨t, ht, rfl⟩
    exact ⟨_, ⟨t, ht, _, rfl, rfl⟩, rfl⟩

theorem derived_iff (s : List UInt8) : Derived s ↔ ∃ v, Names s v := by
  rw [Derived, mem_ipv4Address_iff, mem_ipv6Reference]
  simp only [mem_ipv6Address_iff]
  constructor
  · rintro (⟨v, h⟩ | ⟨v, h⟩ | ⟨t, ⟨v, h⟩, rfl⟩)
    · exact ⟨_, .ipv4 h⟩
    · exact ⟨_, .ipv6 h⟩
    · exact ⟨_, .reference h⟩
  · rintro ⟨_, h | h | h⟩
    · exact .inl ⟨_, h⟩
    · exact .inr (.inl ⟨_, h⟩)
    · exact .inr (.inr ⟨_, ⟨_, h⟩, rfl⟩)

theorem Derived.short {s : List UInt8} (h : Derived s) : s.length ≤ 47 := by
  rcases h with ipv4 | ipv6 | reference
  · exact (within_ipv4Address s ipv4).2.2.trans (by omega)
  · exact (within_ipv6Address s ipv6).2.2.trans (by omega)
  · obtain ⟨t, ht, rfl⟩ := (mem_ipv6Reference s).mp reference
    have inner := (within_ipv6Address t ht).2.2
    simp only [List.length_append, List.length_cons, List.length_nil]
    omega

end AsyncEngine.IpParser.Address
