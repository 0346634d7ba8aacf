/- The rules of machine `ae_ip_parser` in `ip_parser.rl`, read as languages of bytes. -/

import Mathlib.Computability.Language
import Mathlib.Algebra.BigOperators.Intervals

set_option autoImplicit false
set_option relaxedAutoImplicit false

namespace AsyncEngine.IpParser.Grammar

/-- `lo..hi`: one byte of the range. -/
def range (lo hi : Nat) : Language UInt8 := {w | ∃ b : UInt8, w = [b] ∧ lo ≤ b.toNat ∧ b.toNat ≤ hi}

def lit (c : Nat) : Language UInt8 := range c c

/-- Ragel's `r{m,n}`; `r{,n}` is `times 0 n r` and `r{n}` is `r ^ n`. -/
def times (m n : Nat) (r : Language UInt8) : Language UInt8 := ∑ i ∈ Finset.Icc m n, r ^ i

/-- Ragel's `r?`. -/
def opt (r : Language UInt8) : Language UInt8 := 1 + r

def digit : Language UInt8 := range 0x30 0x39

/-- `DIGIT | "A"i | ... | "F"i`, the letters in either case. -/
def hexdig : Language UInt8 := digit + (range 0x41 0x46 + range 0x61 0x66)

def dot : Language UInt8 := lit 0x2e

def colon : Language UInt8 := lit 0x3a

/-- The literal `"::"`. -/
def elision : Language UInt8 := colon * colon

def decOctet : Language UInt8 :=
  digit + range 0x31 0x39 * digit + lit 0x31 * digit ^ 2 +
    lit 0x32 * range 0x30 0x34 * digit + lit 0x32 * lit 0x35 * range 0x30 0x35

def ipv4Address : Language UInt8 := decOctet * dot * decOctet * dot * decOctet * dot * decOctet

def h16 : Language UInt8 := times 1 4 hexdig

def ls32 : Language UInt8 := h16 * colon * h16 + ipv4Address

def ipv6Address : Language UInt8 :=
  (h16 * colon) ^ 6 * ls32 +
  elision * (h16 * colon) ^ 5 * ls32 +
  opt h16 * elision * (h16 * colon) ^ 4 * ls32 +
  opt (opt (h16 * colon) * h16) * elision * (h16 * colon) ^ 3 * ls32 +
  opt (times 0 2 (h16 * colon) * h16) * elision * (h16 * colon) ^ 2 * ls32 +
  opt (times 0 3 (h16 * colon) * h16) * elision * h16 * colon * ls32 +
  opt (times 0 4 (h16 * colon) * h16) * elision * ls32 +
  opt (times 0 5 (h16 * colon) * h16) * elision * h16 +
  opt (times 0 6 (h16 * colon) * h16) * elision

def ipv6Reference : Language UInt8 := lit 0x5b * ipv6Address * lit 0x5d

end AsyncEngine.IpParser.Grammar
