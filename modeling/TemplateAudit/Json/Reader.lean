import TemplateAudit.Json.Basic
import TemplateAudit.Json.Written

/-!
# Reading JSON

`Json.read?` is the strict reader: the grammar of `Written`, at most 127 nested containers, no lone
surrogates, and no number beyond the largest double. Numbers without point and exponent that fit 64
bits stay integers. Every other number is read as a significand of at most 64 bits times a power of
ten, and each step of that product is rounded; the result can differ from the nearest double in its
last place.
-/

namespace TemplateAudit.Json

set_option autoImplicit false

open Decimal

namespace NumberText

/-- A significand and the power of ten that it is to be multiplied by. -/
structure Scaled where
  significand : Nat
  power : Int

/-- Takes up digits for as long as the significand fits 64 bits. -/
def takeDigits : Nat → List Nat → Nat × List Nat
  | significand, [] => (significand, [])
  | significand, d :: rest =>
    if significand * 10 + d < UInt64.size then takeDigits (significand * 10 + d) rest
    else (significand, d :: rest)

/-- Digits before the point that no longer fit count for the power of ten; digits after the point
that no longer fit are dropped. -/
def scaled (text : NumberText) : Scaled :=
  let (whole, cut) := takeDigits 0 text.whole
  match text.fraction with
  | none => ⟨whole, cut.length⟩
  | some ds =>
    let (significand, dropped) := takeDigits whole ds
    ⟨significand, Int.ofNat cut.length - Int.ofNat (ds.length - dropped.length)⟩

/-- The double nearest to a power of ten up to `10 ^ 308`. -/
def powerOfTen (power : Nat) : Magnitude :=
  Magnitude.ofNat (tenTo power)

/-- Divides by a power of ten in steps of at most `10 ^ 308`. -/
def divideByPower : Nat → Magnitude → Nat → Option Magnitude
  | 0, _, _ => none
  | fuel + 1, m, power =>
    if power ≤ 308 then m.div? (powerOfTen power)
    else if m.isZero then some m
    else match m.div? (powerOfTen 308) with
      | some smaller => divideByPower fuel smaller (power - 308)
      | none => none

/-- The magnitude of a significand times a power of ten; `none` beyond the largest double. -/
def multiply (significand : Nat) (power : Int) : Option Magnitude :=
  let start := Magnitude.ofNat significand
  if power < 0 then divideByPower (power.natAbs / 308 + 1) start power.natAbs
  else if power ≤ 308 then start.mul? (powerOfTen power.natAbs)
  else if start.isZero then some start
  else none

def exponentValue (digits : List Nat) : Nat :=
  digits.foldl (fun value d => value * 10 + d) 0

/-- The magnitude of a number with point or exponent, or of one that does not fit 64 bits. An
exponent beyond 31 bits leaves nothing to compute. -/
def magnitude? (text : NumberText) : Option Magnitude :=
  let s := text.scaled
  match text.exponent with
  | none => multiply s.significand s.power
  | some (negative, digits) =>
    let exponent := exponentValue digits
    if exponent < 2147483648 then
      multiply s.significand (if negative then s.power - Int.ofNat exponent else s.power + Int.ofNat exponent)
    else if negative || s.significand == 0 then some .zero
    else none

/-- The integer that a text without point and exponent stands for, when it fits 64 bits. The text
`-0` is not an integer. -/
def integer? (text : NumberText) : Option Integer :=
  let n := text.whole.foldl (fun value d => value * 10 + d) 0
  let signed : Int := if text.negative then -Int.ofNat n else Int.ofNat n
  if text.fraction.isSome || text.exponent.isSome || (text.negative && n == 0) then none
  else if h : Fits64 signed then some ⟨signed, h⟩ else none

/-- The number that a text stands for; `none` beyond the largest double. -/
def number? (text : NumberText) : Option Number :=
  match text.integer? with
  | some n => some (.int n)
  | none => text.magnitude?.map fun m => .float ⟨text.negative, m⟩

end NumberText

def isHighSurrogate (unit : Nat) : Bool :=
  0xD800 ≤ unit && unit ≤ 0xDBFF

def isLowSurrogate (unit : Nat) : Bool :=
  0xDC00 ≤ unit && unit ≤ 0xDFFF

/-- The characters of a string literal; surrogates must come in pairs. -/
def decodeUnits? : List StringUnit → Option (List Char)
  | [] => some []
  | .char c :: rest => (decodeUnits? rest).map (c :: ·)
  | .code high :: .code low :: rest =>
    if isHighSurrogate high then
      if isLowSurrogate low then
        (decodeUnits? rest).map
          (Char.ofNat (0x10000 + (high - 0xD800) * 0x400 + (low - 0xDC00)) :: ·)
      else none
    else if isLowSurrogate high then none
    else (decodeUnits? (.code low :: rest)).map (Char.ofNat high :: ·)
  | .code unit :: rest =>
    if isHighSurrogate unit || isLowSurrogate unit then none
    else (decodeUnits? rest).map (Char.ofNat unit :: ·)

def decodeString? (units : List StringUnit) : Option String :=
  (decodeUnits? units).map String.ofList

mutual

/-- The value of a text in which fewer than `room` containers are nested. -/
def Written.toJson? : Nat → Written → Option Json
  | _, .null => some .null
  | _, .bool b => some (.bool b)
  | _, .number text => text.number?.map .number
  | _, .string units => (decodeString? units).map .string
  | room, .array items =>
    if room ≤ 1 then none else (Written.itemsToJson? (room - 1) items).map .array
  | room, .object members =>
    if room ≤ 1 then none
    else (Written.membersToJson? (room - 1) members).map fun ms => .object (Members.ofList ms)

def Written.itemsToJson? : Nat → List Written → Option (List Json)
  | _, [] => some []
  | room, item :: rest =>
    match Written.toJson? room item, Written.itemsToJson? room rest with
    | some value, some values => some (value :: values)
    | _, _ => none

def Written.membersToJson? :
    Nat → List (List StringUnit × Written) → Option (List (String × Json))
  | _, [] => some []
  | room, (key, item) :: rest =>
    match decodeString? key, Written.toJson? room item, Written.membersToJson? room rest with
    | some name, some value, some values => some ((name, value) :: values)
    | _, _, _ => none

end

def read? (text : String) : Option Json :=
  match Written.read? text.toList with
  | some written => written.toJson? 128
  | none => none

end TemplateAudit.Json
