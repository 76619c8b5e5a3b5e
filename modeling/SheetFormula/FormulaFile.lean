import SheetFormula.Text.Quoted

/-!
# Files of formulas

A file holds a formula a line, written in hexadecimal with white space anywhere. Blank lines and comments are
passed over. The text is given as UTF-8 bytes that need not be valid: a byte that starts a white-space
character never stands inside another character, so white space is found without decoding the rest. Main
definitions:

* `Blank.width`, `Blank.removed` — how many bytes the white space at the start of some bytes takes, and the
  bytes without white space;
* `HexText.decode` — the bytes of a text, two digits a byte; `HexError` — why a text does not stand for bytes;
* `FormulaLine` — a formula and the number of its line;
* `FormulaFileError` — why a file could not be read, with its message;
* `FormulaFile.lines`, `FormulaFile.parseLine` — the lines of a text, and what one line holds;
* `FormulaFile.parse` — the formulas of a text.
-/

namespace SheetFormula

/-! ## White space -/

namespace Blank

/-- White-space characters of one byte: tabulators, line ends and the space. -/
def isSingle (a : UInt8) : Bool := (0x09 ≤ a && a ≤ 0x0d) || a = 0x20

/-- White-space characters of two bytes: next line and the no-break space. -/
def isPair (a b : UInt8) : Bool := a = 0xc2 && (b = 0x85 || b = 0xa0)

/-- White-space characters of three bytes: the ogham space, the spaces of typography, line and paragraph
separators, the narrow no-break space, the mathematical space and the ideographic space. -/
def isTriple (a b c : UInt8) : Bool :=
  (a = 0xe1 && b = 0x9a && c = 0x80) ||
  (a = 0xe2 && b = 0x80 && ((0x80 ≤ c && c ≤ 0x8a) || c = 0xa8 || c = 0xa9 || c = 0xaf)) ||
  (a = 0xe2 && b = 0x81 && c = 0x9f) ||
  (a = 0xe3 && b = 0x80 && c = 0x80)

/-- **Width of white space** at the start of some bytes; zero when they start with something else. -/
def width : List UInt8 → Nat
  | [] => 0
  | [a] => if isSingle a then 1 else 0
  | [a, b] => if isSingle a then 1 else if isPair a b then 2 else 0
  | a :: b :: c :: _ => if isSingle a then 1 else if isPair a b then 2 else if isTriple a b c then 3 else 0

/-- Pass over `skip` bytes, then put bytes that are not white space in front of `kept`. -/
def removedOnto (kept : List UInt8) : Nat → List UInt8 → List UInt8
  | _, [] => kept.reverse
  | skip + 1, _ :: rest => removedOnto kept skip rest
  | 0, b :: rest =>
    match width (b :: rest) with
    | 0 => removedOnto (b :: kept) 0 rest
    | n + 1 => removedOnto kept n rest

/-- **Bytes without white space**. -/
def removed (bytes : List UInt8) : List UInt8 := removedOnto [] 0 bytes

end Blank

/-! ## Bytes written in hexadecimal -/

/-- **Why a text does not stand for bytes**. -/
inductive HexError where
  /-- A byte of the text is no digit. -/
  | invalid (byte : UInt8)
  /-- The last digit stands alone. -/
  | oddLength
  deriving DecidableEq, Repr

/-- **Message of a hexadecimal error**. -/
def HexError.message : HexError → String
  | .invalid byte => "encoding/hex: invalid byte: " ++ Text.codePoint (Char.ofNat byte.toNat)
  | .oddLength => "encoding/hex: odd length hex string"

namespace HexText

/-- **Value of a digit**. -/
def digit? (b : UInt8) : Option UInt8 :=
  if 0x30 ≤ b && b ≤ 0x39 then some (b - 0x30)
  else if 0x41 ≤ b && b ≤ 0x46 then some (b - 0x41 + 10)
  else if 0x61 ≤ b && b ≤ 0x66 then some (b - 0x61 + 10)
  else none

/-- Put the bytes of a text in front of those that are known. The first fault in reading order counts. -/
def decodeOnto (known : List UInt8) : List UInt8 → Except HexError (List UInt8)
  | [] => .ok known.reverse
  | [a] =>
    match digit? a with
    | none => .error (.invalid a)
    | some _ => .error .oddLength
  | a :: b :: rest =>
    match digit? a, digit? b with
    | none, _ => .error (.invalid a)
    | some _, none => .error (.invalid b)
    | some high, some low => decodeOnto ((16 * high + low) :: known) rest

/-- **Bytes of a text**. -/
def decode (text : List UInt8) : Except HexError (List UInt8) := decodeOnto [] text

end HexText

/-! ## Formulas by line -/

/-- **A formula on a line**. -/
structure FormulaLine where
  /-- Number of the line; the first one is one. -/
  number : Nat
  /-- The bytes of the formula. -/
  data : List UInt8
  deriving DecidableEq, Repr

/-- **Why a file of formulas could not be read**. -/
inductive FormulaFileError where
  /-- A line is too long. -/
  | tooLong
  /-- A line does not stand for bytes. -/
  | badLine (number : Nat) (error : HexError)
  deriving DecidableEq, Repr

/-- **Message of a formula file error**. -/
def FormulaFileError.message : FormulaFileError → String
  | .tooLong => "bufio.Scanner: token too long"
  | .badLine number error => "line " ++ Digits.decimal number ++ ": " ++ error.message

namespace FormulaFile

/-- Lines have fewer bytes than this. -/
def lineLimit : Nat := 1048576

/-- **Lines of a text**, without their newlines. What follows the last newline is a line when there is
something. -/
def lines (text : List UInt8) : List (List UInt8) :=
  let pieces := text.splitOn 0x0a
  if pieces.getLast? = some [] then pieces.dropLast else pieces

/-- **What a line holds**: nothing when it is blank or a comment, else a formula. -/
def parseLine (number : Nat) (line : List UInt8) : Except FormulaFileError (Option FormulaLine) :=
  if lineLimit ≤ line.length then .error .tooLong
  else
    match Blank.removed line with
    | [] => .ok none
    | 0x23 :: _ => .ok none
    | text =>
      match HexText.decode text with
      | .ok data => .ok (some ⟨number, data⟩)
      | .error e => .error (.badLine number e)

/-- Put the formulas of the lines from `number` on in front of those that are known. The first line that
cannot be read counts. -/
def parseOnto (known : List FormulaLine) (number : Nat) :
    List (List UInt8) → Except FormulaFileError (List FormulaLine)
  | [] => .ok known.reverse
  | line :: rest =>
    match parseLine number line with
    | .ok none => parseOnto known (number + 1) rest
    | .ok (some formula) => parseOnto (formula :: known) (number + 1) rest
    | .error e => .error e

/-- **Formulas of a text**, each with the number of its line. -/
def parse (text : List UInt8) : Except FormulaFileError (List FormulaLine) := parseOnto [] 1 (lines text)

end FormulaFile

end SheetFormula
