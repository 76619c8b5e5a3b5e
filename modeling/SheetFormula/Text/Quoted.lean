import SheetFormula.Text.Printable

/-!
# Written text

Texts of integers, text in UTF-8, and text inside double quotes with everything that could not be seen written
as an escape. Main definitions:

* `Digits.decimal`, `Digits.hex` — an integer in base ten, and in lower-case base sixteen up to a width;
* `Digits.padLeft`, `Digits.padRight` — a text filled with a character up to a width;
* `Utf8.first`, `Utf8.pieces` — what some bytes start with, and their pieces: characters, and bytes that
  belong to none;
* `Utf8.text` — the text of some bytes, with a replacement character for every byte that belongs to none;
* `Text.escape` — the written form of one character;
* `Text.quoted`, `Text.quotedBytes` — a text between double quotes;
* `Text.codePoint` — a character as `U+0067 'g'`.
-/

namespace SheetFormula

/-! ## Digits of integers -/

namespace Digits

/-- **Fill on the left** with `c` up to `width` characters. -/
def padLeft (c : Char) (width : Nat) (s : String) : String :=
  String.ofList (List.replicate (width - s.length) c) ++ s

/-- **Fill on the right** with `c` up to `width` characters. -/
def padRight (c : Char) (width : Nat) (s : String) : String :=
  s ++ String.ofList (List.replicate (width - s.length) c)

/-- **Digits of a natural number** in a base up to sixteen, most significant first. -/
def natural (base n : Nat) : String := String.ofList (Nat.toDigits base n)

/-- **Base ten**, with a minus sign in front of a negative number. -/
def decimal (n : Int) : String :=
  if n < 0 then "-" ++ natural 10 n.natAbs else natural 10 n.natAbs

/-- **Base sixteen**, filled with zeros up to `width` characters. The sign of a negative number comes first
and counts towards the width. -/
def hex (width : Nat) (n : Int) : String :=
  if n < 0 then "-" ++ padLeft '0' (width - 1) (natural 16 n.natAbs)
  else padLeft '0' width (natural 16 n.natAbs)

end Digits

/-! ## Text in UTF-8 -/

namespace Utf8

/-- **What some bytes start with**. -/
inductive First where
  /-- A character, and the bytes behind it. -/
  | char (c : Char) (rest : List UInt8)
  /-- The beginning of a character. -/
  | cut
  /-- No character. -/
  | fault

/-- The number that leading bits and the bytes behind them stand for, six bits a byte; `none` when one of them
does not continue a character. -/
def continued? (start : Nat) (bytes : List UInt8) : Option Nat :=
  bytes.foldl (fun value b => value.bind fun n =>
    if b.toNat / 64 = 2 then some (64 * n + b.toNat % 64) else none) (some start)

/-- The character of `width` bytes, which is not below `least` because no shorter form exists. -/
def wide (width least start : Nat) (rest : List UInt8) : First :=
  let more := rest.take (width - 1)
  if more.length < width - 1 then .cut
  else
    match continued? start more with
    | some n =>
      if n < least || (0xd800 ≤ n && n ≤ 0xdfff) || 0x10ffff < n then .fault
      else .char (Char.ofNat n) (rest.drop (width - 1))
    | none => .fault

/-- **First character** of some bytes; the leading byte tells how many it takes. -/
def first : List UInt8 → First
  | [] => .cut
  | b :: rest =>
    let n := b.toNat
    if n < 0x80 then wide 1 0 n rest
    else if n / 32 = 6 then wide 2 0x80 (n % 32) rest
    else if n / 16 = 14 then wide 3 0x800 (n % 16) rest
    else if n / 8 = 30 then wide 4 0x10000 (n % 8) rest
    else .fault

/-- **Piece of a text**. -/
inductive Piece where
  /-- A character. -/
  | char (c : Char)
  /-- A byte that belongs to no character. -/
  | byte (b : UInt8)
  deriving DecidableEq, Repr

/-- The pieces behind the next `skip` bytes. -/
def piecesBehind : Nat → List UInt8 → List Piece
  | _, [] => []
  | skip + 1, _ :: rest => piecesBehind skip rest
  | 0, b :: rest =>
    match first (b :: rest) with
    | .char c _ => .char c :: piecesBehind (c.utf8Size - 1) rest
    | _ => .byte b :: piecesBehind 0 rest

/-- **Pieces of some bytes**. -/
def pieces (bytes : List UInt8) : List Piece := piecesBehind 0 bytes

/-- A piece as a character. -/
def Piece.shown : Piece → Char
  | .char c => c
  | .byte _ => '\ufffd'

/-- **Text of some bytes**. -/
def text (bytes : List UInt8) : String := String.ofList ((pieces bytes).map Piece.shown)

/-- **Bytes of a text**. -/
def bytes (s : String) : List UInt8 := s.toUTF8.toList

end Utf8

/-! ## Quoted text -/

namespace Text

/-- **Escape**: a short name for the usual control characters, a backslash in front of a backslash or a
double quote, two hexadecimal digits for other characters below a byte's half, four or eight for what is not
printable beyond, and any other character as it is. -/
def escape (c : Char) : String :=
  match c with
  | '\x07' => "\\a"
  | '\x08' => "\\b"
  | '\x0c' => "\\f"
  | '\n' => "\\n"
  | '\r' => "\\r"
  | '\t' => "\\t"
  | '\x0b' => "\\v"
  | '\\' => "\\\\"
  | '"' => "\\\""
  | c =>
    if isPrintable c then String.ofList [c]
    else if c.toNat < 0x80 then "\\x" ++ Digits.hex 2 c.toNat
    else if c.toNat < 0x10000 then "\\u" ++ Digits.hex 4 c.toNat
    else "\\U" ++ Digits.hex 8 c.toNat

/-- **Quoted text**. -/
def quoted (s : String) : String :=
  "\"" ++ String.join (s.toList.map escape) ++ "\""

/-- The written form of a piece of a text; a byte that belongs to no character as two hexadecimal digits. -/
def escapePiece : Utf8.Piece → String
  | .char c => escape c
  | .byte b => "\\x" ++ Digits.hex 2 b.toNat

/-- **Quoted text** of some bytes. -/
def quotedBytes (bytes : List UInt8) : String :=
  "\"" ++ String.join ((Utf8.pieces bytes).map escapePiece) ++ "\""

/-- Upper-case hexadecimal digits of a number, at least four. -/
def upperHex (n : Nat) : String :=
  (Digits.hex 4 n).map Char.toUpper

/-- **Code point** of a character, followed by the character in single quotes when it is printable. -/
def codePoint (c : Char) : String :=
  "U+" ++ upperHex c.toNat ++ (if isPrintable c then " '" ++ String.ofList [c] ++ "'" else "")

end Text

end SheetFormula
