/- The part of Ruby that the extension sees: values, errors, the argument macros of
   rb_utilities.h and the conversions from Ruby to C. -/

import Mathlib.Data.List.Basic
import AsyncEngine.IpParser.Machine

set_option autoImplicit false
set_option relaxedAutoImplicit false

namespace AsyncEngine.Engine.Ruby

open AsyncEngine.IpParser.Machine

/-- What `rb_errinfo` can hold: an Exception object, or Fixnum 8 for a killed thread. -/
inductive RubyError
  | notRunning
  | engine (message : String)
  | uv (errno : Int)
  | type (message : String)
  | argument (message : String)
  | range
  | noMemory
  | thread (message : String)
  | interrupt (message : String)
  | application (id : Nat) (standard : Bool)
  | killed
deriving DecidableEq

/-- `rb_obj_is_kind_of(error, rb_eStandardError)`. -/
def RubyError.isStandard : RubyError → Bool
  | .application _ standard => standard
  | .noMemory => false
  | .interrupt _ => false
  | .killed => false
  | _ => true

/-- `enum_string_encoding`. `Encoding.default_internal` is nil, as Ruby leaves it, so that
`ae_rb_str_new` labels the bytes of a String with their encoding and transcodes none of them. -/
inductive Encoding
  | external
  | utf8
  | ascii
deriving DecidableEq

/-- The objects that conversions to C tell apart. `other` stands for the objects that `NUM2DBL`
rejects: those that it converts by calling their `to_f`, which is user code, are not modelled. -/
inductive Value
  | nil
  | true
  | false
  | fixnum (n : Int)
  | float (x : Float)
  | string (bytes : List UInt8)
  | symbol (name : String)
  | proc (id : Nat)
  | ipPort (address : List UInt8) (family : IpType)
  | other
deriving DecidableEq

inductive Return
  | value (v : Value)
  | raised (error : RubyError)
deriving DecidableEq

structure Args where
  argv : List Value := []
  block : Option Nat := none
deriving DecidableEq

/-- A sequence of argument checks, cut short by a `return` or an `rb_raise`. -/
abbrev Check (α : Type) := Except Return α

def rbRaise {α : Type} (error : RubyError) : Check α := .error (.raised error)

def checkNumArgs (args : Args) (min max : Nat) : Check Unit :=
  if args.argv.length < min ∨ args.argv.length > max then
    rbRaise (.argument "wrong number of arguments")
  else pure ()

def getBlockOrProc (numArg : Nat) (args : Args) : Check (Option Nat) :=
  match args.block with
  | some proc => pure (some proc)
  | none =>
    match args.argv[numArg - 1]? with
    | none => pure none
    | some (.proc proc) => pure (some proc)
    | some _ => rbRaise (.type s!"argument {numArg} is not a Proc")

def ensureBlockOrProc (numArg : Nat) (args : Args) : Check Nat := do
  match ← getBlockOrProc numArg args with
  | some proc => pure proc
  | none => rbRaise (.argument "no block or proc given")

def getString (v : Option Value) (message : String) : Check (List UInt8) :=
  match v with
  | some (.string s) => pure s
  | _ => rbRaise (.type message)

/-- `StringValueCStr`: the text must not contain a NUL. -/
def stringValueCStr (s : List UInt8) : Check (List UInt8) :=
  if (0 : UInt8) ∈ s then rbRaise (.argument "string contains null byte") else pure s

def getFixnum (v : Option Value) (message : String) : Check Int :=
  match v with
  | some (.fixnum n) => pure n
  | _ => rbRaise (.type message)

/-- `FIX2INT` on a machine with 64-bit `long` and 32-bit `int`. -/
def fix2int (n : Int) : Check Int :=
  if n < -2147483648 ∨ n > 2147483647 then rbRaise .range else pure n

/-- The value of a `long` after it is stored in an `int`. -/
def toInt (n : Int) : Int := Int.bmod n 4294967296

/-- `ALLOC_N(char, len)` and `memcpy`, where the length of the String was stored in an `int`. -/
def copyBytes (s : List UInt8) : Check (List UInt8) :=
  if toInt s.length < 0 then rbRaise .noMemory else pure (s.take (toInt s.length).toNat)

/-- The cast of a `double` to a 64-bit `long`: toward zero. What C leaves undefined, of a NaN or of
a number that is out of range, is the least `long`, as the conversion of x86-64 gives it. -/
def toLong (x : Float) : Int :=
  if 0 ≤ x ∧ x < 9223372036854775808 then x.toUInt64.toNat
  else if -9223372036854775808 ≤ x ∧ x < 0 then -(-x).toUInt64.toNat
  else -9223372036854775808

/-- `NUM2DBL`, which runs no user code on these objects. -/
def num2dbl (v : Option Value) : Check Float :=
  match v with
  | some (.fixnum n) => pure (Float.ofInt n)
  | some (.float x) => pure x
  | _ => rbRaise (.type "can't convert into Float")

/-- `(long)(NUM2DBL(v) * 1000)`. -/
def num2ms (v : Option Value) : Check Int := do
  pure (toLong ((← num2dbl v) * 1000))

def delayOf (v : Option Value) : Check Int := do
  let delay ← num2ms v
  pure (if delay < 1 then 1 else delay)

def aeIpUtilsIsValidPort (port : Int) : Bool := 0 ≤ port && port ≤ 65535

/-- `ae_ip_parser_execute` on a Ruby String whose length was stored in an `int`. -/
def ipTypeOf (s : List UInt8) : IpType := aeIpParserExecute s (toInt s.length)

def checkPort (v : Option Value) (notFixnum invalid : String) : Check Int := do
  let port ← fix2int (← getFixnum v notFixnum)
  if aeIpUtilsIsValidPort port then pure port else rbRaise (.argument invalid)

end AsyncEngine.Engine.Ruby
