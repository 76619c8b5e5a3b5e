import SheetFormula.Yaml.ScalarText

/-!
# Names, tags and directives

A node may have a name, by which other places refer to it, and a tag; a directive stands in front of a
document. Main definitions:

* `Yaml.name?` — the name behind its mark;
* `Yaml.TagText`, `Yaml.tag?` — a tag as it is written;
* `Yaml.Directive`, `Yaml.directive?` — a directive.
-/

namespace SheetFormula

namespace Yaml

/-- Characters of names: letters, digits, underscore and dash. -/
def isNameChar (c : Char) : Bool :=
  ('0' ≤ c && c ≤ '9') || ('A' ≤ c && c ≤ 'Z') || ('a' ≤ c && c ≤ 'z') || c = '_' || c = '-'

/-- **Name** behind its mark, in front of a gap or of a mark that may follow it. -/
def name? (c : Cursor) : Option (String × Cursor) :=
  let text := (c.rest.drop 1).takeWhile isNameChar
  let c := c.ahead (text.length + 1)
  if c.lacks 1 || text.isEmpty then none
  else if gapOrEnd c.rest || c.sees fun a => "?:,]\x7d%@`".toList.contains a then some (String.ofList text, c)
  else none

/-! ## Tags -/

/-- Characters of a tag, escapes apart. -/
def isTagChar (c : Char) : Bool := isNameChar c || ";/?:@&=+$,.!~*'()[]".toList.contains c

/-- **Escaped character** of a tag: percent signs, each with a byte in hexadecimal, as many as the first byte
asks for. The result is the bytes and how many characters they take. -/
def tagEscape? (cs : List Char) : Option (List UInt8 × Nat) :=
  let byte? := fun (cs : List Char) =>
    match cs with
    | '%' :: rest => hexNumber? 2 rest
    | _ => none
  match byte? cs with
  | none => none
  | some first =>
    let width := if first < 0x80 then 1 else if first / 32 = 6 then 2 else if first / 16 = 14 then 3
      else if first / 8 = 30 then 4 else 0
    let more := (List.range (width - 1)).mapM fun k =>
      (byte? (cs.drop (3 * (k + 1)))).bind fun b => if b / 64 = 2 then some b else none
    if width = 0 then none else more.map fun bs => ((first :: bs).map Nat.toUInt8, 3 * width)

/-- Text of a tag behind `done`, the last byte first, and the place behind it. -/
def tagTextUpTo : Nat → List UInt8 → Cursor → Option (List UInt8 × Cursor)
  | 0, _, _ => none
  | fuel + 1, done, c =>
    if c.lacks 1 then none
    else
      match c.rest with
      | [] => some (done, c)
      | a :: _ =>
        if a = '%' then
          match tagEscape? c.rest with
          | some (bytes, n) => tagTextUpTo fuel (bytes.reverse ++ done) (c.ahead n)
          | none => none
        else if isTagChar a then tagTextUpTo fuel (a.toNat.toUInt8 :: done) (c.ahead 1)
        else some (done, c)

/-- **Text of a tag** behind the characters `head`; it may only be empty when `head` is not. -/
def tagText? (head : List Char) (c : Cursor) : Option (String × Cursor) :=
  match tagTextUpTo (c.left + 1) [] c with
  | none => none
  | some (bytes, next) =>
    if head.isEmpty && bytes.isEmpty then none
    else
      some (String.ofList (head.drop 1) ++ Utf8.text bytes.reverse, next)

/-- **A tag as it is written**: a handle, which stands for the beginning of the tag, and the rest. -/
structure TagText where
  /-- The handle, empty when the tag is complete. -/
  handle : String
  /-- The rest. -/
  text : String
  deriving DecidableEq, Repr

/-- The handle of a tag: an exclamation mark, or a name between two of them; what else starts with the mark is
none. -/
def handle (cs : List Char) : List Char :=
  let name := (cs.drop 1).takeWhile isNameChar
  let closed := (cs.drop (name.length + 1)).head? = some '!'
  '!' :: (if closed then name ++ ['!'] else name)

/-- **Tag** at its mark, in front of a gap. -/
def tag? (c : Cursor) : Option (TagText × Cursor) :=
  let found : Option (TagText × Cursor) :=
    if (c.rest.drop 1).head? = some '<' then
      match tagText? [] (c.ahead 2) with
      | some (text, c) => if c.isAt '>' then some (⟨"", text⟩, c.ahead 1) else none
      | none => none
    else
      let handle := handle c.rest
      let next := c.ahead handle.length
      if 1 < handle.length && handle.getLast? = some '!' then
        (tagText? [] next).map fun (text, c) => (⟨String.ofList handle, text⟩, c)
      else
        (tagText? handle next).map fun (text, c) => (if text = "" then ⟨"", "!"⟩ else ⟨"!", text⟩, c)
  match found with
  | some (tag, c) => if c.lacks 1 || !gapOrEnd c.rest then none else some (tag, c)
  | none => none

/-! ## Directives -/

/-- **Directive** in front of a document. -/
inductive Directive where
  /-- The version of the language. -/
  | version (major minor : Nat)
  /-- What a handle stands for. -/
  | handle (name start : String)
  deriving DecidableEq, Repr

/-- One or two digits and the place behind them. -/
def versionNumber? (c : Cursor) : Option (Nat × Cursor) :=
  let digits := c.rest.takeWhile Char.isDigit
  if digits.isEmpty || 2 < digits.length then none
  else some (digits.foldl (fun n d => 10 * n + (d.toNat - '0'.toNat)) 0, c.ahead digits.length)

/-- Version behind the directive's name. -/
def version? (c : Cursor) : Option (Directive × Cursor) :=
  match versionNumber? (c.skipWhile isBlank) with
  | some (major, c) =>
    if c.isAt '.' then (versionNumber? (c.ahead 1)).map fun (minor, c) => (.version major minor, c) else none
  | none => none

/-- Handle and what it stands for, behind the directive's name. -/
def handle? (c : Cursor) : Option (Directive × Cursor) :=
  let c := c.skipWhile isBlank
  let name := handle c.rest
  let next := c.ahead name.length
  if !c.isAt '!' || !(name = ['!'] || name.getLast? = some '!') || !next.sees isBlank then none
  else
    match tagText? [] (next.skipWhile isBlank) with
    | some (start, c) => if gapOrEnd c.rest then some (.handle (String.ofList name) start, c) else none
    | none => none

/-- **Directive** at its mark, with the rest of its line. -/
def directive? (c : Cursor) : Option (Directive × Cursor) :=
  let name := (c.rest.drop 1).takeWhile isNameChar
  let c := c.ahead (name.length + 1)
  let found : Option (Directive × Cursor) :=
    if c.lacks 1 || !gapOrEnd c.rest then none
    else if name = "YAML".toList then version? c
    else if name = "TAG".toList then handle? c
    else none
  match found with
  | some (d, c) =>
    let c := c.skipWhile isBlank
    let c := if c.isAt '#' then c.skipComment else c
    if c.lacks 2 || !breakOrEnd c.rest then none else some (d, c.nextLine)
  | none => none

end Yaml

end SheetFormula
