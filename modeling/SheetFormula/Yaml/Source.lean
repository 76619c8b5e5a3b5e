import SheetFormula.Text.Quoted

/-!
# Characters of a YAML document

A document is given by its bytes, in UTF-8 or, behind its byte order mark, in UTF-16. They are decoded block
by block, each block when a character of it is needed, so that bytes which are no text do no harm in a block
that nobody reads. Main definitions:

* `Yaml.isAllowed` — the characters that may occur in a document;
* `Yaml.Encoding` — how characters are written; `Yaml.Encoding.first` — the first character of some bytes;
* `Yaml.Source` — the characters that can be read, and whether a faulty block stands behind them;
* `Yaml.Source.ofBytes` — the source of some bytes.
-/

namespace SheetFormula

namespace Yaml

/-- **Characters that may occur** in a document. -/
def isAllowed (c : Char) : Bool :=
  let n := c.toNat
  n = 0x09 || n = 0x0a || n = 0x0d || (0x20 ≤ n && n ≤ 0x7e) || n = 0x85 ||
    (0xa0 ≤ n && n ≤ 0xfffd) || 0x10000 ≤ n

/-- **How characters are written** as bytes. -/
inductive Encoding where
  /-- UTF-8. -/
  | utf8
  /-- UTF-16, with the high byte first or last. -/
  | utf16 (highFirst : Bool)
  deriving DecidableEq, Repr

/-- The number of two bytes. -/
def unit (highFirst : Bool) (a b : UInt8) : Nat :=
  if highFirst then 256 * a.toNat + b.toNat else a.toNat + 256 * b.toNat

/-- **First character in UTF-16**: one unit, or two of which the first announces the second. -/
def firstUnits (highFirst : Bool) : List UInt8 → Utf8.First
  | a :: b :: rest =>
    let n := unit highFirst a b
    if n / 1024 = 55 then .fault
    else if n / 1024 = 54 then
      match rest with
      | c :: d :: rest =>
        let m := unit highFirst c d
        if m / 1024 = 55 then .char (Char.ofNat (0x10000 + 1024 * (n % 1024) + m % 1024)) rest else .fault
      | _ => .cut
    else .char (Char.ofNat n) rest
  | _ => .cut

/-- **First character** of some bytes; one that may not occur is a fault. -/
def Encoding.first (e : Encoding) (bytes : List UInt8) : Utf8.First :=
  let found :=
    match e with
    | .utf8 => Utf8.first bytes
    | .utf16 highFirst => firstUnits highFirst bytes
  match found with
  | .char c rest => if isAllowed c then .char c rest else .fault
  | other => other

/-- **Characters of a block** put in front of `chars`, the last first, and the bytes of a character that the
block cuts; `none` when the block is faulty. -/
def blockOnto (e : Encoding) : Nat → List Char → List UInt8 → Option (List Char × List UInt8)
  | 0, chars, bytes => some (chars, bytes)
  | fuel + 1, chars, bytes =>
    match e.first bytes with
    | .char c rest => blockOnto e fuel (c :: chars) rest
    | .cut => some (chars, bytes)
    | .fault => none

/-- **Source of characters**. -/
structure Source where
  /-- The characters that can be read. -/
  chars : List Char
  /-- Whether a faulty block follows them, so that they are not the whole document. -/
  faulty : Bool := false
  /-- How many of them are in the first block, when it starts with a second byte order mark. -/
  remarked : Nat := 0
  deriving DecidableEq, Repr

namespace Source

/-- How many bytes are decoded at a time. -/
def blockSize : Nat := 512

/-- Source of bytes whose first block takes `size` of them; `chars` were read before, the last first. -/
def ofBlocks (e : Encoding) : Nat → Nat → List Char → List UInt8 → Source
  | 0, _, chars, _ => { chars := chars.reverse, faulty := true }
  | fuel + 1, size, chars, bytes =>
    if bytes.isEmpty then { chars := chars.reverse }
    else
      let block := bytes.take size
      match blockOnto e size chars block with
      | some (more, held) =>
        if held.length < block.length then ofBlocks e fuel blockSize more (held ++ bytes.drop size)
        else { chars := chars.reverse, faulty := true }
      | none => { chars := chars.reverse, faulty := true }

/-- Source of the bytes behind a byte order mark that took `size` of the first block. -/
def behindMark (e : Encoding) (size : Nat) (bytes : List UInt8) : Source :=
  let s := ofBlocks e (bytes.length + 1) (blockSize - size) [] bytes
  let first := (blockOnto e (blockSize - size) [] (bytes.take (blockSize - size))).elim 0 (·.1.length)
  { s with remarked := if s.chars.head? = some '\ufeff' then first else 0 }

/-- **Source of some bytes**, without the byte order mark, which tells the encoding. -/
def ofBytes (bytes : List UInt8) : Source :=
  match bytes with
  | 0xef :: 0xbb :: 0xbf :: rest => behindMark .utf8 3 rest
  | 0xff :: 0xfe :: rest => behindMark (.utf16 false) 2 rest
  | 0xfe :: 0xff :: rest => behindMark (.utf16 true) 2 rest
  | _ => ofBlocks .utf8 (bytes.length + 1) blockSize [] bytes

end Source

end Yaml

end SheetFormula
