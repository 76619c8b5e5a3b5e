import SheetFormula.Number.Double
import SheetFormula.Yaml.Timestamp

/-!
# Values of YAML scalars

A plain scalar may stand for nothing, a truth value, a number or a date. Bytes are written in letters: three
bytes as four letters, six bits each, and a last group of one or two bytes filled up with equals signs. Main
definitions:

* `Base64.digit?`, `Base64.decode?` — the six bits of a letter, and the bytes of a text;
* `Yaml.Scalar` — what a scalar stands for, with `Yaml.Scalar.tag`;
* `Yaml.integer?`, `Yaml.float?` — the numbers;
* `Yaml.Scalar.ofPlain` — what a plain scalar stands for by its text;
* `Yaml.Scalar.tags` — the tags that say what a scalar stands for;
* `Yaml.Scalar.of?` — what a scalar stands for by its tag and its text.
-/

namespace SheetFormula

/-! ## Bytes in letters -/

namespace Base64

/-- **Six bits of a letter**. -/
def digit? (c : Char) : Option Nat :=
  if 'A' ≤ c && c ≤ 'Z' then some (c.toNat - 'A'.toNat)
  else if 'a' ≤ c && c ≤ 'z' then some (c.toNat - 'a'.toNat + 26)
  else if '0' ≤ c && c ≤ '9' then some (c.toNat - '0'.toNat + 52)
  else if c = '+' then some 62
  else if c = '/' then some 63
  else none

/-- The first `n` bytes of four letters. -/
def group? (n : Nat) (a b c d : Char) : Option (List UInt8) := do
  let bits := ((← digit? a) * 64 + (← digit? b)) * 4096 + (← digit? c) * 64 + (← digit? d)
  return [(bits / 65536).toUInt8, (bits / 256).toUInt8, bits.toUInt8].take n

/-- **Bytes of groups** of four letters. Only the last group may be filled up. -/
def groups? : List Char → Option (List UInt8)
  | [] => some []
  | [a, b, '=', '='] => group? 1 a b 'A' 'A'
  | [a, b, c, '='] => group? 2 a b c 'A'
  | a :: b :: c :: d :: rest => do return (← group? 3 a b c d) ++ (← groups? rest)
  | _ => none

/-- **Bytes of a text**. Line breaks count nowhere. -/
def decode? (s : String) : Option (List UInt8) := groups? (s.toList.filter fun c => c ≠ '\n' && c ≠ '\r')

end Base64

/-! ## Scalars -/

namespace Yaml

/-- **What a scalar stands for**. -/
inductive Scalar where
  /-- Nothing. -/
  | null
  /-- A truth value. -/
  | bool (value : Bool)
  /-- An integer that fits into 64 bits, with or without a sign. -/
  | int (value : Int)
  /-- A binary64 number, by its bits. -/
  | float (bits : UInt64)
  /-- A date. -/
  | timestamp (value : Timestamp)
  /-- The key of mappings to merge in. -/
  | merge
  /-- A text, as it is written. -/
  | str
  /-- Bytes that are written in letters. -/
  | binary (bytes : List UInt8)
  deriving DecidableEq, Repr

/-- **Tag of a scalar**. -/
def Scalar.tag : Scalar → String
  | .null => "!!null"
  | .bool _ => "!!bool"
  | .int _ => "!!int"
  | .float _ => "!!float"
  | .timestamp _ => "!!timestamp"
  | .merge => "!!merge"
  | .str => "!!str"
  | .binary _ => "!!binary"

/-! ## Integers -/

/-- The value of a digit in bases up to sixteen. -/
def digitValue? (c : Char) : Option Nat :=
  if '0' ≤ c && c ≤ '9' then some (c.toNat - '0'.toNat)
  else if 'a' ≤ c && c ≤ 'f' then some (c.toNat - 'a'.toNat + 10)
  else if 'A' ≤ c && c ≤ 'F' then some (c.toNat - 'A'.toNat + 10)
  else none

/-- **Digits of a base**, at least one. -/
def digits? (base : Nat) (cs : List Char) : Option Nat :=
  if cs.isEmpty then none
  else
    cs.foldl (fun acc c =>
      match acc, digitValue? c with
      | some n, some d => if d < base then some (base * n + d) else none
      | _, _ => none) (some 0)

/-- **Unsigned integer**: in base sixteen, eight or two behind `0x`, `0o` or `0b`, in base eight behind
another zero, and otherwise in base ten. -/
def unsigned? (cs : List Char) : Option Nat :=
  match cs with
  | '0' :: 'x' :: ds | '0' :: 'X' :: ds => digits? 16 ds
  | '0' :: 'o' :: ds | '0' :: 'O' :: ds => digits? 8 ds
  | '0' :: 'b' :: ds | '0' :: 'B' :: ds => digits? 2 ds
  | ['0'] => some 0
  | '0' :: ds => digits? 8 ds
  | ds => digits? 10 ds

/-- A number of the signed 64-bit range. -/
def signed? (n : Int) : Option Int :=
  if Int64.minValue.toInt ≤ n && n ≤ Int64.maxValue.toInt then some n else none

/-- **Integer** that fits into 64 bits. A sign is only allowed where the signed range holds the number. -/
def integer? (cs : List Char) : Option Int :=
  match cs with
  | '-' :: ds => (unsigned? ds).bind fun n => signed? (-n)
  | '+' :: ds => (unsigned? ds).bind fun n => signed? n
  | ds => (unsigned? ds).bind fun n => if n < UInt64.size then some (n : Int) else none

/-- **Integer with its sign behind the base**, which is two or eight. -/
def baseFirst? (cs : List Char) : Option Int :=
  let digits := fun (base : Nat) (cs : List Char) =>
    match cs with
    | '-' :: ds => (digits? base ds).bind fun n => signed? (-n)
    | '+' :: ds => (digits? base ds).bind fun n => signed? n
    | _ => none
  match cs with
  | '0' :: 'b' :: ds => digits 2 ds
  | '0' :: 'o' :: ds => digits 8 ds
  | _ => none

/-! ## Numbers with a fraction or an exponent -/

/-- **Decimal number** with digits before or behind a point and an optional exponent, as coefficient and
exponent of ten. -/
def decimal? (cs : List Char) : Option (Nat × Int) :=
  let whole := cs.takeWhile Char.isDigit
  let rest := cs.dropWhile Char.isDigit
  let (fraction, rest) :=
    match rest with
    | '.' :: more => (more.takeWhile Char.isDigit, more.dropWhile Char.isDigit)
    | _ => ([], rest)
  let exponent : Option Int :=
    match rest with
    | [] => some 0
    | e :: more =>
      if e = 'e' || e = 'E' then
        match more with
        | '-' :: ds => (digits? 10 ds).map fun n => -(n : Int)
        | '+' :: ds => (digits? 10 ds).map fun n => (n : Int)
        | ds => (digits? 10 ds).map fun n => (n : Int)
      else none
  match digits? 10 (whole ++ fraction), exponent with
  | some n, some e => some (n, e - fraction.length)
  | _, _ => none

/-- The bits of a decimal, or `none` when it is too large. Beyond a thousand places only zero or an infinity
is left. -/
def nearest? (negative : Bool) (coefficient : Nat) (exponent : Int) : Option UInt64 :=
  let places : Int := (Nat.toDigits 10 coefficient).length + exponent
  let sign : UInt64 := if negative then 0x8000000000000000 else 0
  if coefficient = 0 || places < -1000 then some sign
  else if 1000 < places then none
  else
    let x := Float.ofScientific coefficient (exponent < 0) exponent.natAbs
    match Double.classify x.toBits with
    | .infinite _ => none
    | _ => some (x.toBits ||| sign)

/-- **Float**: a decimal number, with an optional sign. -/
def float? (cs : List Char) : Option UInt64 :=
  match cs with
  | '-' :: ds => (decimal? ds).bind fun (n, e) => nearest? true n e
  | '+' :: ds => (decimal? ds).bind fun (n, e) => nearest? false n e
  | ds => (decimal? ds).bind fun (n, e) => nearest? false n e

/-- Whether every underscore stands between two digits; `digit` says whether a digit stands in front. -/
def underscoresInside : Bool → List Char → Bool
  | _, [] => true
  | digit, c :: rest =>
    if c = '_' then digit && rest.head?.any Char.isDigit && underscoresInside false rest
    else underscoresInside c.isDigit rest

/-! ## Plain scalars -/

/-- Texts that stand for something of their own. -/
def Scalar.fixed : List (String × Scalar) :=
  [("", .null), ("~", .null), ("null", .null), ("Null", .null), ("NULL", .null),
    ("true", .bool true), ("True", .bool true), ("TRUE", .bool true),
    ("false", .bool false), ("False", .bool false), ("FALSE", .bool false),
    (".nan", .float 0x7ff8000000000001), (".NaN", .float 0x7ff8000000000001),
    (".NAN", .float 0x7ff8000000000001), (".inf", .float 0x7ff0000000000000),
    (".Inf", .float 0x7ff0000000000000), (".INF", .float 0x7ff0000000000000),
    ("+.inf", .float 0x7ff0000000000000), ("+.Inf", .float 0x7ff0000000000000),
    ("+.INF", .float 0x7ff0000000000000), ("-.inf", .float 0xfff0000000000000),
    ("-.Inf", .float 0xfff0000000000000), ("-.INF", .float 0xfff0000000000000), ("<<", .merge)]

/-- **Number or date** of a text that starts with a digit or a sign. Underscores count in dates only. -/
def Scalar.ofDigits (cs : List Char) : Scalar :=
  let bare := cs.filter (· ≠ '_')
  match timestamp? cs with
  | some t => .timestamp t
  | none =>
    match integer? bare with
    | some n => .int n
    | none =>
      match float? bare with
      | some bits => .float bits
      | none => (baseFirst? bare).elim .str .int

/-- **Number** of a text that starts with a point. Underscores stand between digits. -/
def Scalar.ofFraction (cs : List Char) : Scalar :=
  match float? (cs.filter (· ≠ '_')) with
  | some bits => if underscoresInside false cs then .float bits else .str
  | none => .str

/-- **What a plain scalar stands for**: one of the fixed texts, else by its first character a date or a
number, and else a text. -/
def Scalar.ofPlain (value : String) : Scalar :=
  match Scalar.fixed.lookup value with
  | some s => s
  | none =>
    match value.toList with
    | [] => .null
    | c :: rest =>
      if c.isDigit || c = '+' || c = '-' then .ofDigits (c :: rest)
      else if c = '.' then .ofFraction (c :: rest)
      else .str

/-- The binary64 number next to a signed integer. -/
def floatOfInt? (n : Int) : Option UInt64 := (signed? n).bind fun n => nearest? (n < 0) n.natAbs 0

/-- **Tags that say what a scalar stands for**. -/
def Scalar.tags : List String := ["!!str", "!!bool", "!!int", "!!float", "!!null", "!!timestamp"]

/-- **What a scalar stands for**. Without a tag a quoted one is a text. A tag has to agree with the text,
except that every text is a text, and an integer is also a float; bytes are read off the text. Under any other
tag a scalar is a text. -/
def Scalar.of? (tag : Option String) (plain : Bool) (value : String) : Option Scalar :=
  match tag with
  | none => some (if plain then .ofPlain value else .str)
  | some "!!binary" => (Base64.decode? value).map .binary
  | some tag =>
    let s := Scalar.ofPlain value
    if tag = "!!str" || !Scalar.tags.contains tag then some .str
    else if s.tag = tag then some s
    else
      match s with
      | .int n => if tag = "!!float" then (floatOfInt? n).map .float else none
      | _ => none

end Yaml

end SheetFormula
