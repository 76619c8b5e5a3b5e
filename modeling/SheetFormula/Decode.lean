import SheetFormula.Bytes
import SheetFormula.Reduction
import SheetFormula.TokenSource

/-!
# Decoding a formula

The opcode stream is run on an operand stack: literals and references are pushed, a reduction replaces its
operands by one. Main definitions:

* `Machine` — the state of a run, with `Machine.step`, `Machine.run` and `Machine.finish`;
* `Decoded` — a decoded formula; `Failure` — why there is none;
* `decode` — the formula in the first bytes of some data.
-/

namespace SheetFormula

variable {σ : Type}

/-! ## The machine -/

/-- **State of a run**. -/
structure Machine (σ : Type) where
  /-- What is left to read. -/
  source : TokenSource σ
  /-- The operands so far. -/
  stack : OperandStack := .empty
  /-- Log entries so far, the latest first. -/
  log : List LogEntry := []
  /-- The last opcode. -/
  last : Option UInt8 := none

namespace Machine

/-- Put an operand on the stack. -/
def push (m : Machine σ) (list : List Instruction) : Machine σ := { m with stack := m.stack.push list }

/-- Add a note. -/
def note (m : Machine σ) (n : Note) : Machine σ :=
  { m with source := { m.source with trace := { m.source.trace with notes := n :: m.source.trace.notes } } }

/-- Add a log entry. -/
def logged (m : Machine σ) (e : LogEntry) : Machine σ := { m with log := e :: m.log }

/-- **How a step ends**. -/
inductive Progress (σ : Type) where
  /-- The run goes on. -/
  | running (m : Machine σ)
  /-- The terminator was read. -/
  | ended (m : Machine σ)
  /-- The run stops. -/
  | stopped (stop : Stop) (m : Machine σ)

/-- **Reduce**: take `operands` lists off the stack and put their composition on it. A term function is put on
as a function of periods, and noted. -/
def reduce (m : Machine σ) (opcode : Opcode) (offset operands : Nat) : Progress σ :=
  match m.stack.popN operands with
  | none => .stopped (.error ⟨.underflow (some opcode.code) operands m.stack.depth, offset⟩) m
  | some (args, stack) =>
    match if opcode.shape = .call then periods? opcode.name args else none with
    | some list => .running (({ m with stack } : Machine σ).push list |>.note (.rewrote offset opcode.name))
    | none =>
      match opcode.shape.compose? opcode.name args with
      | some list => .running (({ m with stack } : Machine σ).push list)
      | none => .stopped .fault m

/-- **Perform a token** that was just read. -/
def perform (o : Options σ) (m : Machine σ) (token : Token) : Progress σ :=
  match token.payload with
  | .number bits => .running (m.push [.number bits])
  | .integer value => .running (m.push [.integer value])
  | .text content => .running (m.push [.text content])
  | .cellRef =>
    match m.source.nextCell o with
    | (.ok ref, source) => .running (({ m with source } : Machine σ).push [.cell ref])
    | (.error stop, source) => .stopped stop { m with source }
  | .rangeRef =>
    match m.source.nextRange o with
    | (.ok (first, last), source) => .running (({ m with source } : Machine σ).push [.range first last])
    | (.error stop, source) => .stopped stop { m with source }
  | .terminator => .ended m
  | .reduce operands => m.reduce token.opcode token.offset operands

/-- The last opcode after a token could not be read: the byte itself when it is no valid opcode, and otherwise
the one before. -/
def lastAfter (last : Option UInt8) : Stop → Option UInt8
  | .error ⟨.unknownOpcode code, _⟩ => some code
  | _ => last

/-- The log entry of a token. -/
def entryOf (m : Machine σ) (token : Token) : LogEntry :=
  .opcode token.offset token.opcode.code token.opcode.name token.payload.operands m.stack.depth

/-- **Behind a token** that was read from the source: it is logged, and its opcode is the last one. -/
def took (m : Machine σ) (token : Token) (source : TokenSource σ) : Machine σ :=
  ({ m with source, last := some token.opcode.code } : Machine σ).logged (m.entryOf token)

/-- **One step**: read a token, log it, perform it. -/
def step (o : Options σ) (page : CodePage) (m : Machine σ) : Progress σ :=
  match m.source.nextToken page with
  | (.error stop, source) => .stopped stop { m with source, last := lastAfter m.last stop }
  | (.ok token, source) => (m.took token source).perform o token

end Machine

/-! ## The end of a run -/

/-- **A decoded formula**. -/
structure Decoded where
  /-- The formula in infix order. -/
  instructions : List Instruction
  /-- Set when bytes were left over. -/
  warning : Option DecodeError
  /-- What was noted on the way, in order. -/
  notes : List Note
  deriving DecidableEq, Repr

namespace Machine

/-- Note references that nobody took. -/
def notePending (m : Machine σ) : Machine σ :=
  if 0 < m.source.pending then m.note (.unusedReferences m.source.pending) else m

/-- **Bytes behind the terminator** are noted, logged and warned about. -/
def warnTrailing (m : Machine σ) : Option DecodeError × Machine σ :=
  let code := m.source.code
  if code.pos < code.limit then
    (some ⟨.trailing, code.pos⟩,
      (m.note (.trailingBytes code.left.toNat code.pos)).logged (.trailing code.pos code.limit.toNat))
  else (none, m)

/-- **Bytes behind the reference table** are noted; they are logged and warned about when nothing else was. -/
def warnTail (warning : Option DecodeError) (m : Machine σ) : Option DecodeError × Machine σ :=
  match m.source.behind with
  | none | some (_, 0) => (warning, m)
  | some (start, count + 1) =>
    match warning with
    | some w => (some w, m.note (.trailingAfterTable (count + 1) start))
    | none =>
      (some ⟨.trailing, start⟩,
        (m.logged (.trailing start (start + (count + 1)))).note (.trailingAfterTable (count + 1) start))

/-- **Conclude a run** that left the operand `list`. -/
def conclude (terminated : Bool) (list : List Instruction) (m : Machine σ) : Decoded × Machine σ :=
  match if terminated then m.notePending.warnTrailing else (none, m.notePending) with
  | (warning, m) =>
    match m.warnTail warning with
    | (warning, m) => (⟨list, warning, m.source.trace.notes.reverse⟩, m)

/-- **Finish a run**: exactly one operand must be left. -/
def finish (terminated : Bool) (m : Machine σ) : Except Stop Decoded × Machine σ :=
  match m.stack.items with
  | [] => (.error (.error ⟨.underflow m.last 1 0, m.source.code.pos⟩), m)
  | [list] =>
    match m.conclude terminated list with
    | (decoded, m) => (.ok decoded, m)
  | _ => (.error (.error ⟨.excess m.last m.stack.depth, m.source.code.pos⟩), m)

/-- **Run** up to the terminator or the end of the opcode stream. A step takes at least one byte, so as many
steps as there are bytes are enough. -/
def run (o : Options σ) (page : CodePage) : Nat → Machine σ → Except Stop Decoded × Machine σ
  | 0, m => m.finish false
  | fuel + 1, m =>
    if m.source.code.limit ≤ m.source.code.pos then m.finish false
    else
      match m.step o page with
      | .running m => run o page fuel m
      | .ended m => m.finish true
      | .stopped stop m => (.error stop, m)

end Machine

/-! ## Decoding -/

/-- **Why there is no formula**. -/
inductive Failure where
  /-- The variant names a code page that nobody knows. -/
  | unknownCharset (variant charset : String)
  /-- The formula is in error; with the notes, and the bytes to be dumped behind them. -/
  | rejected (error : DecodeError) (notes : List Note) (dump : List UInt8)
  /-- An access outside of what was read. -/
  | fault
  deriving DecidableEq, Repr

/-- The message for a quoted name of a code page that nobody knows. -/
def unknownCharsetQuoted (quoted : String) : String := "unknown charset " ++ quoted

/-- The message for a code page that nobody knows. -/
def unknownCharsetMessage (charset : String) : String := unknownCharsetQuoted (Text.quoted charset)

namespace Failure

/-- **Message of a failure**. -/
def message : Failure → String
  | unknownCharset variant charset =>
    messageTag ++ "variant " ++ variant ++ ": " ++ unknownCharsetMessage charset
  | rejected error _ _ => error.message
  | fault => "access out of range"

/-- **Diagnostics of a failure**: its notes and a dump of the formula. -/
def diagnostics : Failure → String
  | rejected _ notes dump => Note.trace notes ++ HexDump.dump (some 0) dump
  | _ => ""

end Failure

/-- **Diagnostics of a decoded formula**. -/
def Decoded.diagnostics (d : Decoded) : String := Note.trace d.notes

/-- **Outcome of decoding**, with the log in order and the state of the names. -/
@[ext] structure Run (σ : Type) where
  /-- The formula, or why there is none. -/
  outcome : Except Failure Decoded
  /-- The log, in order. -/
  log : List LogEntry
  /-- State of the names. -/
  names : σ

/-- **Notes on a formula that failed**: those so far, the operands from the bottom to the top, and the
failure. -/
def failureNotes (notes : List Note) (stack : OperandStack) (last : Option UInt8) (kind : ErrorKind) :
    List Note :=
  notes.reverse ++ (stack.toList.zipIdx.map fun (list, i) => .operand i list) ++
    [.failure kind last stack.depth]

/-- **Failure of a formula** that ends at `stop`: its notes are followed by a dump of the data before the
end. -/
def Failure.ofStop (data : List UInt8) (stop : Int) (notes : List Note) (stack : OperandStack)
    (last : Option UInt8) : Stop → Failure
  | .fault => .fault
  | .error e =>
    match HexDump.bytes? data 0 stop with
    | none => .fault
    | some dump => .rejected e (failureNotes notes stack last e.cause.kind) dump

namespace Machine

/-- **Failure of a run**. -/
def failure (m : Machine σ) (data : List UInt8) (stop : Int) (reason : Stop) : Failure :=
  .ofStop data stop m.source.trace.notes m.stack m.last reason

/-- A run that failed for an error of the formula has that error in its log. -/
def logFailure (m : Machine σ) : Stop → Machine σ
  | .fault => m
  | .error e => m.logged (.failed e.message)

end Machine

/-- **Decode a formula** whose code page is known, in the first `stop` bytes of `data`. -/
def decodeFormula (o : Options σ) (page : CodePage) (names : σ) (data : List UInt8) (stop : Int) : Run σ :=
  match TokenSource.ofCursor o (.ofData data stop) ⟨names, []⟩ with
  | (.error reason, t) => ⟨.error (.ofStop data stop t.notes .empty none reason), [], t.names⟩
  | (.ok source, _) =>
    match Machine.run o page source.code.left.toNat { source } with
    | (.ok decoded, m) => ⟨.ok decoded, m.log.reverse, m.source.trace.names⟩
    | (.error reason, m) =>
      ⟨.error (m.failure data stop reason), (m.logFailure reason).log.reverse, m.source.trace.names⟩

/-- **Decode** the formula in the first `stop` bytes of `data`. The end must lie in the data and the code page
must be known; no byte behind the end is looked at. -/
def decode (o : Options σ) (names : σ) (data : List UInt8) (stop : Int) : Run σ :=
  if stop < 0 || (data.length : Int) < stop then
    ⟨.error (.rejected ⟨.endOutside stop data.length, 0⟩ [] []), [], names⟩
  else
    match CodePage.ofName? o.variant.charset with
    | none => ⟨.error (.unknownCharset o.variant.name o.variant.charset), [], names⟩
    | some page => decodeFormula o page names data stop

end SheetFormula
