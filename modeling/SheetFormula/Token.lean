import SheetFormula.Opcode
import SheetFormula.Reference

/-!
# Tokens

The opcode stream is read token by token. Main definitions:

* `Cursor` — a position in some data, and where reading has to end; `Cursor.ofData` — at the start of some
  data;
* `Cursor.take` — the next bytes, when they lie before the end;
* `Token` — an opcode with the operands that stand behind it, references apart;
* `Token.read` — the next token;
* `Options.readRef`, `Options.readRange` — one reference, and the two of a range.

A reader also gives the cursor behind it when it fails: what it took stays taken.
-/

namespace SheetFormula

/-! ## Cursors -/

/-- **A place in some data**. The data may go on behind the end, and they may be over before it: each read has
to look where it ends. -/
structure Cursor where
  /-- All the data. -/
  data : Array UInt8
  /-- Position of the first unread byte. -/
  pos : Nat
  /-- The position behind the last byte to be read, as it is announced. -/
  limit : Int
  deriving DecidableEq, Repr

namespace Cursor

/-- **Start of some data** whose end is announced to be at `stop`. -/
def ofData (data : List UInt8) (stop : Int) : Cursor := ⟨data.toArray, 0, stop⟩

/-- How many bytes are announced to be left. -/
def left (c : Cursor) : Int := c.limit - c.pos

/-- Pass over `n` bytes. -/
def skip (c : Cursor) (n : Nat) : Cursor := { c with pos := c.pos + n }

/-- **A region** of the same data, from `start` up to `stop`. -/
def region (c : Cursor) (start : Nat) (stop : Int) : Cursor := { c with pos := start, limit := stop }

/-- **Take a part** of `n` bytes, which has to end before the limit. -/
def take (part : Part) (n : Nat) (c : Cursor) : Except Stop (List UInt8) :=
  if c.limit < c.pos + n then .error (.error ⟨.short n part c.left, c.pos⟩)
  else
    match Bytes.block? c.data c.pos n with
    | some block => .ok block
    | none => .error .fault

end Cursor

/-! ## Tokens -/

/-- **What a token brings with it**. -/
inductive Payload where
  /-- The bits of a number. -/
  | number (bits : UInt64)
  /-- A short integer. -/
  | integer (value : Int16)
  /-- A text. -/
  | text (content : String)
  /-- One reference is to be taken. -/
  | cellRef
  /-- A range is to be taken. -/
  | rangeRef
  /-- The formula ends. -/
  | terminator
  /-- So many operands are to be replaced by one. -/
  | reduce (operands : Nat)
  deriving DecidableEq, Repr

/-- **A token**: an opcode, where it stands, and what it brings with it. -/
structure Token where
  /-- The opcode. -/
  opcode : Opcode
  /-- Its position. -/
  offset : Nat
  /-- What it brings with it. -/
  payload : Payload
  deriving DecidableEq, Repr

/-- **Operand count** of a payload, as the log shows it. -/
def Payload.operands : Payload → Nat
  | .reduce n => n
  | .terminator => 1
  | _ => 0

namespace Token

/-- A number from the block of its eight bytes. -/
def numberOf? (block : List UInt8) : Option Payload :=
  (Bytes.littleEndian? block 0 8).map fun n => .number (UInt64.ofNat n)

/-- An integer from the block of its two bytes. -/
def integerOf? (block : List UInt8) : Option Payload :=
  (Bytes.word? block 0).map fun w => .integer w.toInt16

/-- A reduction from the block of its count byte. -/
def countOf? (block : List UInt8) : Option Payload :=
  block[0]?.map fun b => .reduce b.toNat

/-- **Read a block** of `n` bytes and make a payload of it. -/
def readBlock (part : Part) (n : Nat) (make : List UInt8 → Option Payload) (c : Cursor) :
    Except Stop Payload × Cursor :=
  match c.take part n with
  | .error stop => (.error stop, c)
  | .ok block =>
    match make block with
    | some payload => (.ok payload, c.skip n)
    | none => (.error .fault, c.skip n)

/-- **Read a text literal**, which has to end before the limit. -/
def readText (page : CodePage) (c : Cursor) : Except Stop Payload × Cursor :=
  match TextLiteral.read page c.data c.pos c.limit with
  | none => (.error .fault, c)
  | some (.error e) => (.error (.error ⟨.text e, c.pos⟩), c)
  | some (.ok (text, next)) => (.ok (.text text), { c with pos := next.toNat })

/-- **Read a payload** for a role; `code` and `start` are those of the opcode before it. -/
def readPayload (page : CodePage) (code : UInt8) (start : Nat) (role : Role) (c : Cursor) :
    Except Stop Payload × Cursor :=
  match role with
  | .number => readBlock .number 8 numberOf? c
  | .integer => readBlock .integer 2 integerOf? c
  | .text => readText page c
  | .cellRef => (.ok .cellRef, c)
  | .rangeRef => (.ok .rangeRef, c)
  | .terminator => (.ok .terminator, c)
  | .reduce n => (.ok (.reduce n), c)
  | .reduceCounted => readBlock .argumentCount 1 countOf? c
  | .reserved => (.error (.error ⟨.unknownOpcode code, start⟩), c)

/-- **Read a token**: its opcode, then what the opcode's role asks for. -/
def read (page : CodePage) (c : Cursor) : Except Stop Token × Cursor :=
  match c.take .opcode 1 with
  | .ok [code] =>
    match Opcode.lookup? code with
    | none => (.error (.error ⟨.unknownOpcode code, c.pos⟩), c.skip 1)
    | some opcode =>
      match readPayload page code c.pos opcode.role (c.skip 1) with
      | (.ok payload, c') => (.ok ⟨opcode, c.pos, payload⟩, c')
      | (.error stop, c') => (.error stop, c')
  | .ok _ => (.error .fault, c)
  | .error stop => (.error stop, c)

end Token

/-! ## References -/

namespace Options

variable {σ : Type}

/-- **Read a reference**. An error in its fields is noticed at its first byte. -/
def readRef (o : Options σ) (c : Cursor) (t : Trace σ) : Except Stop CellRef × Cursor × Trace σ :=
  match c.take .cellReference o.variant.refSize with
  | .error stop => (.error stop, c, t)
  | .ok block =>
    match RefFields.ofBytes? o.variant.sheetField block with
    | none => (.error .fault, c.skip o.variant.refSize, t)
    | some fields =>
      match o.resolve fields t with
      | (.ok ref, t') => (.ok ref, c.skip o.variant.refSize, t')
      | (.error field, t') => (.error (.error ⟨field.cause, c.pos⟩), c.skip o.variant.refSize, t')

/-- **Read a range**: two references, one after the other. -/
def readRange (o : Options σ) (c : Cursor) (t : Trace σ) :
    Except Stop (CellRef × CellRef) × Cursor × Trace σ :=
  match o.readRef c t with
  | (.error stop, c, t) => (.error stop, c, t)
  | (.ok first, c, t) =>
    match o.readRef c t with
    | (.error stop, c, t) => (.error stop, c, t)
    | (.ok last, c, t) => (.ok (first, last), c, t)

end Options

end SheetFormula
