import WireDictionary.Text.Blank

/-! Integers in columns and in declarations. A plain column holds a decimal number. A literal may
carry a base: `0x`, `0o` and `0b` announce sixteen, eight and two, and so does a bare leading zero
for eight. Numbers are 64 bits wide; a literal that fills all 64 bits is read as two's complement. -/

namespace WireDictionary.Numeral

/-- The value of an ASCII digit below `base`; letters of either case follow nine. -/
def digit? (base : Nat) (c : Char) : Option Nat :=
  let value :=
    if '0' ≤ c ∧ c ≤ '9' then c.toNat - '0'.toNat
    else if 'a' ≤ c ∧ c ≤ 'z' then c.toNat - 'a'.toNat + 10
    else if 'A' ≤ c ∧ c ≤ 'Z' then c.toNat - 'A'.toNat + 10
    else base
  if value < base then some value else none

/-- The value of digits that follow a number of value `high`. -/
def valueFrom? (base : Nat) (high : Nat) : List Char → Option Nat
  | [] => some high
  | c :: rest => (digit? base c).bind fun d => valueFrom? base (high * base + d) rest

def magnitude? (base : Nat) (digits : List Char) : Option Nat :=
  if digits.isEmpty then none else valueFrom? base 0 digits

/-- Whether a text starts with a minus sign, and the text after its sign, if it has one. -/
def splitSign : List Char → Bool × List Char
  | '-' :: rest => (true, rest)
  | '+' :: rest => (false, rest)
  | text => (false, text)

def signed (negative : Bool) (magnitude : Nat) : Int :=
  if negative then -magnitude else magnitude

/-- Reads a decimal number between blanks. It must lie in the range of 64-bit integers. -/
def decimal? (text : List Char) : Option Int64 :=
  let (negative, digits) := splitSign (Text.trim text)
  (magnitude? 10 digits).bind fun m =>
    let value := signed negative m
    if Int64.minValue.toInt ≤ value ∧ value ≤ Int64.maxValue.toInt then some (Int64.ofInt value)
    else none

/-- The base that the start of an unsigned literal announces, and its digits. -/
def splitBase : List Char → Nat × List Char
  | '0' :: c :: rest =>
    if c = 'x' ∨ c = 'X' then (16, rest)
    else if c = 'o' ∨ c = 'O' then (8, rest)
    else if c = 'b' ∨ c = 'B' then (2, rest)
    else (8, c :: rest)
  | digits => (10, digits)

/-- Reads a literal between blanks. Its magnitude must fit in 64 bits; the value is taken modulo
`2 ^ 64`. -/
def literal? (text : List Char) : Option Int64 :=
  let (negative, body) := splitSign (Text.trim text)
  let (base, digits) := splitBase body
  (magnitude? base digits).bind fun m =>
    if m < UInt64.size then some (Int64.ofInt (signed negative m)) else none

def natural (n : Nat) : String := String.ofList (Nat.toDigits 10 n)

def decimal (v : Int64) : String :=
  let digits := Nat.toDigits 10 v.toInt.natAbs
  String.ofList (if v < 0 then '-' :: digits else digits)

/-- The two's complement bits of a 64-bit integer in hexadecimal, in at least `width` digits. -/
def hexadecimal (width : Nat) (v : Int64) : String :=
  let digits := Nat.toDigits 16 v.toUInt64.toNat
  String.ofList ('0' :: 'x' :: List.replicate (width - digits.length) '0' ++ digits)

end WireDictionary.Numeral
