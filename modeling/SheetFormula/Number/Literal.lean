/-!
# Integer literals

Integers as people type them: a sign, a base given by its mark (`0x`, `0o`, `0b`, or a leading zero for base
eight), and underscores between digits. Main definitions:

* `IntegerLiteral.Error` — why a text is no integer, with its message;
* `IntegerLiteral.base` — the base of a text, and its digits;
* `IntegerLiteral.underscoresOk` — whether underscores stand between digits;
* `IntegerLiteral.parse` — the integer of a text.
-/

namespace SheetFormula

namespace IntegerLiteral

/-- **Why a text is no integer**. -/
inductive Error where
  /-- It is not written like one. -/
  | malformed
  /-- It does not fit into 64 bits. -/
  | outOfRange
  deriving DecidableEq, Repr

/-- **Message of an error**. -/
def Error.message : Error → String
  | .malformed => "parse error"
  | .outOfRange => "value out of range"

/-- Value of a digit in some base up to thirty-six. -/
def digit? (c : Char) : Option Nat :=
  if c.isDigit then some (c.toNat - 48)
  else if c.isLower then some (c.toNat - 87)
  else if c.isUpper then some (c.toNat - 55)
  else none

/-- **Base of a text and its digits**. A mark counts only when something follows it. -/
def base (text : List Char) : Nat × List Char :=
  match text with
  | '0' :: 'b' :: c :: rest | '0' :: 'B' :: c :: rest => (2, c :: rest)
  | '0' :: 'o' :: c :: rest | '0' :: 'O' :: c :: rest => (8, c :: rest)
  | '0' :: 'x' :: c :: rest | '0' :: 'X' :: c :: rest => (16, c :: rest)
  | '0' :: rest => (8, rest)
  | text => (10, text)

/-- The number that digits stand for, behind the number `n`. Underscores are passed over, and the first fault
in reading order counts. -/
def valueFrom (base n : Nat) : List Char → Except Error Nat
  | [] => .ok n
  | '_' :: rest => valueFrom base n rest
  | c :: rest =>
    match digit? c with
    | none => .error .malformed
    | some d =>
      if base ≤ d then .error .malformed
      else if UInt64.size ≤ base * n + d then .error .outOfRange
      else valueFrom base (base * n + d) rest

/-- **Whether underscores stand between digits**: behind a digit, or what counts as one, and in front of
one. -/
def underscoresOk (afterDigit : Bool) : List Char → Bool
  | [] => true
  | ['_'] => false
  | '_' :: rest => afterDigit && underscoresOk false rest
  | _ :: rest => underscoresOk true rest

/-- **Magnitude** of a text without a sign. -/
def magnitude (text : List Char) : Except Error Nat :=
  match text with
  | [] => .error .malformed
  | text =>
    match base text with
    | (b, digits) =>
      match valueFrom b 0 digits with
      | .ok n => if underscoresOk (b ≠ 10) digits then .ok n else .error .malformed
      | .error e => .error e

/-- **Integer of a text**. -/
def parse (text : String) : Except Error Int64 :=
  let (negative, digits) :=
    match text.toList with
    | '-' :: rest => (true, rest)
    | '+' :: rest => (false, rest)
    | rest => (false, rest)
  match magnitude digits with
  | .error e => .error e
  | .ok n =>
    if negative then if Int64.maxValue.toInt + 1 < n then .error .outOfRange else .ok (Int64.ofInt (-n))
    else if Int64.maxValue.toInt < n then .error .outOfRange else .ok (Int64.ofNat n)

end IntegerLiteral

end SheetFormula
