import SheetFormula.Proofs.AcceptedReference
import SheetFormula.Proofs.Flattening
import SheetFormula.TokenSource

/-!
# Opcode streams

The byte form of a postfix stream, and what the token reader makes of it:

* **`Leaf`** — literals and reference operands, with references of any kind;
* **`Lexeme.code`** — a lexeme in the opcode stream, references apart; `Lexeme.bytes` — with its references
  behind it; `Expression.code`, `Expression.bytes` — the same of a tree;
* **`Token.read_code`** — the code of a lexeme is read as its token;
* **`TokenRead`**, **`Token.read_spec`** — what reading a token can come to: the code of a lexeme is ahead, or
  an invalid byte, or too few bytes.
-/

namespace SheetFormula

/-! ## Leaves -/

/-- **Raw text** of a literal: bytes other than zero. -/
structure RawText where
  /-- The bytes. -/
  bytes : List UInt8
  /-- None of them is zero. -/
  zero_free : 0 ∉ bytes

/-- **Leaf of a formula**. -/
inductive Leaf (ρ : Type) where
  /-- A number, by its 64 bits. -/
  | number (bits : UInt64)
  /-- A short integer. -/
  | integer (value : Int16)
  /-- A text literal. -/
  | text (raw : RawText)
  /-- A cell or a range. -/
  | target (t : Target ρ)

variable {ρ ρ' σ : Type}

namespace Target

/-- The opcode of a reference operand; its code is also the kind of an entry in the reference table. -/
def opcode : Target ρ → Opcode
  | .cell _ => ⟨0x01, "CellRef", .cellRef⟩
  | .range _ _ => ⟨0x02, "RangeRef", .rangeRef⟩

/-- **References of a target**, in order. -/
def refs : Target ρ → List ρ
  | .cell ref => [ref]
  | .range first last => [first, last]

/-- **Instruction of a target**. -/
def instruction : Target CellRef → Instruction
  | .cell ref => .cell ref
  | .range first last => .range first last

/-- A target is an operand. -/
theorem isOperand_instruction (t : Target CellRef) : t.instruction.isOperand = true := by cases t <;> rfl

/-- **Replace the references** of a target in order, handing a state on. -/
def traverse (f : ρ → σ → ρ' × σ) : Target ρ → σ → Target ρ' × σ
  | .cell ref, s => (.cell (f ref s).1, (f ref s).2)
  | .range first last, s =>
    (.range (f first s).1 (f last (f first s).2).1, (f last (f first s).2).2)

/-- What the token of a reference operand brings with it. -/
def payload : Target ρ → Payload
  | .cell _ => .cellRef
  | .range _ _ => .rangeRef

/-- The cells of two lists of targets, one after the other. -/
theorem cells_append (ts ts' : List (Target ρ)) : cells (ts ++ ts') = cells ts ++ cells ts' :=
  List.filterMap_append

/-- The ranges of two lists of targets, one after the other. -/
theorem ranges_append (ts ts' : List (Target ρ)) : ranges (ts ++ ts') = ranges ts ++ ranges ts' :=
  List.filterMap_append

end Target

namespace Leaf

/-- The opcode of a leaf. -/
def opcode : Leaf ρ → Opcode
  | .number _ => ⟨0x00, "Number", .number⟩
  | .integer _ => ⟨0x05, "Integer", .integer⟩
  | .text _ => ⟨0x06, "String", .text⟩
  | .target t => t.opcode

/-- **Bytes behind the opcode** of a leaf, references apart. -/
def immediate : Leaf ρ → List UInt8
  | .number bits => Bytes.written 8 bits.toNat
  | .integer value => Bytes.ofWord value.toUInt16
  | .text raw => raw.bytes ++ [0]
  | .target _ => []

/-- **Instruction of a leaf** whose texts are in a code page. -/
def instruction (page : CodePage) : Leaf CellRef → Instruction
  | .number bits => .number bits
  | .integer value => .integer value
  | .text raw => .text (page.decode raw.bytes)
  | .target t => t.instruction

/-- A leaf is an operand. -/
theorem isOperand_instruction (page : CodePage) (l : Leaf CellRef) :
    (l.instruction page).isOperand = true := by
  cases l with
  | number | integer | text => rfl
  | target t => exact t.isOperand_instruction

/-- **Replace the references** of a leaf. -/
def traverse (f : ρ → σ → ρ' × σ) : Leaf ρ → σ → Leaf ρ' × σ
  | .number bits, s => (.number bits, s)
  | .integer value, s => (.integer value, s)
  | .text raw, s => (.text raw, s)
  | .target t, s => (.target (t.traverse f s).1, (t.traverse f s).2)

end Leaf

/-! ## Lexemes as bytes -/

namespace Lexeme

/-- The opcode of a lexeme. -/
def opcode : Lexeme (Leaf ρ) → Opcode
  | .leaf l => l.opcode
  | .reduce r => r.opcode
  | .terminator => ⟨0x03, "Return", .terminator⟩

/-- **Bytes behind the opcode** of a lexeme, references apart: a counted reduction has its count there. -/
def immediate : Lexeme (Leaf ρ) → List UInt8
  | .leaf l => l.immediate
  | .reduce r => if r.opcode.role = .reduceCounted then [UInt8.ofNat r.operands] else []
  | .terminator => []

/-- **Code of a lexeme**: its bytes in an opcode stream without references. -/
def code (x : Lexeme (Leaf ρ)) : List UInt8 := x.opcode.code :: x.immediate

/-- **Payload of a lexeme**: what its token brings with it. -/
def payload (page : CodePage) : Lexeme (Leaf ρ) → Payload
  | .leaf (.number bits) => .number bits
  | .leaf (.integer value) => .integer value
  | .leaf (.text raw) => .text (page.decode raw.bytes)
  | .leaf (.target t) => t.payload
  | .reduce r => .reduce r.operands
  | .terminator => .terminator

/-- **Token of a lexeme** at a position. -/
def token (page : CodePage) (pos : Nat) (x : Lexeme (Leaf ρ)) : Token := ⟨x.opcode, pos, x.payload page⟩

/-- **Reference operands** of a lexeme: at most one. -/
def targets : Lexeme (Leaf ρ) → List (Target ρ)
  | .leaf (.target t) => [t]
  | _ => []

/-- **Bytes of a lexeme** with its references behind its code. -/
def bytes {o : Options σ} (x : Lexeme (Leaf o.Ref)) : List UInt8 :=
  x.code ++ x.targets.flatMap fun t => t.refs.flatMap Options.Ref.written

/-- The opcodes of lexemes are listed. -/
theorem opcode_mem (x : Lexeme (Leaf ρ)) : x.opcode ∈ Opcode.table := by
  have literals : (⟨0x00, "Number", .number⟩ : Opcode) ∈ Opcode.table ∧
      (⟨0x05, "Integer", .integer⟩ : Opcode) ∈ Opcode.table ∧
      (⟨0x06, "String", .text⟩ : Opcode) ∈ Opcode.table := by decide +kernel
  have others : (⟨0x01, "CellRef", .cellRef⟩ : Opcode) ∈ Opcode.table ∧
      (⟨0x02, "RangeRef", .rangeRef⟩ : Opcode) ∈ Opcode.table ∧
      (⟨0x03, "Return", .terminator⟩ : Opcode) ∈ Opcode.table := by decide +kernel
  -- Only reductions carry their opcode with them.
  cases x with
  | leaf l =>
      cases l with
      | number => exact literals.1
      | integer => exact literals.2.1
      | text => exact literals.2.2
      | target t =>
          cases t with
          | cell => exact others.1
          | range => exact others.2.1
  | reduce r => exact r.takes.1
  | terminator => exact others.2.2

/-- The opcode of a lexeme is found under the first byte of its code. -/
theorem lookup?_code (x : Lexeme (Leaf ρ)) : Opcode.lookup? x.opcode.code = some x.opcode :=
  Opcode.lookup?_of_mem x.opcode_mem

end Lexeme

/-- **Bytes of a tree** in postfix order, each reference behind its opcode. -/
def Expression.bytes {o : Options σ} : Expression (Leaf o.Ref) → List UInt8 := Expression.encode Lexeme.bytes

/-- **Code of a tree**: its bytes in postfix order, without references. -/
def Expression.code : Expression (Leaf ρ) → List UInt8 := Expression.encode Lexeme.code

/-! ## Reading tokens -/

namespace Opcode

/-- **Invalid byte**: it is not in the opcode table, or only reserved there. -/
def Invalid (code : UInt8) : Prop := ∀ o, Opcode.lookup? code = some o → o.role = .reserved

/-- **Roles of their own**: apart from reductions and reserved codes, a role belongs to one opcode. -/
theorem eq_of_role : ∀ o ∈ Opcode.table,
    (o.role = .number → o = ⟨0x00, "Number", .number⟩) ∧
    (o.role = .integer → o = ⟨0x05, "Integer", .integer⟩) ∧
    (o.role = .text → o = ⟨0x06, "String", .text⟩) ∧
    (o.role = .cellRef → o = ⟨0x01, "CellRef", .cellRef⟩) ∧
    (o.role = .rangeRef → o = ⟨0x02, "RangeRef", .rangeRef⟩) ∧
    (o.role = .terminator → o = ⟨0x03, "Return", .terminator⟩) := by
  decide +kernel

end Opcode

namespace Token

variable {c : Cursor} {tail : List UInt8}

/-- A block that is ahead is read when a payload can be made of it. -/
theorem readBlock_append (part : Part) {make : List UInt8 → Option Payload} {block : List UInt8}
    {payload : Payload} (made : make block = some payload) (ahead : c.rest = block ++ tail)
    (some : block ≠ []) :
    readBlock part block.length make c = (.ok payload, c.skip block.length) := by
  rw [readBlock, Cursor.take_append part ahead some]
  simp only [made]

/-- A number is read from its eight bytes. -/
theorem numberOf?_written (bits : UInt64) :
    numberOf? (Bytes.written 8 bits.toNat) = some (.number bits) := by
  have read := Bytes.littleEndian?_append [] (Bytes.written 8 bits.toNat) []
  rw [List.nil_append, List.append_nil, Bytes.length_written, List.length_nil,
    Bytes.value_written bits.toNat_lt] at read
  rw [numberOf?, read, Option.map_some, UInt64.ofNat_toNat]

/-- An integer is read from its two bytes. -/
theorem integerOf?_ofWord (value : Int16) :
    integerOf? (Bytes.ofWord value.toUInt16) = some (.integer value) := by
  have read := Bytes.word?_append [] [] value.toUInt16
  rw [List.nil_append, List.append_nil, List.length_nil] at read
  rw [integerOf?, read, Option.map_some]
  rfl

/-- **A literal is looked for among the bytes ahead**, if they are all there. -/
theorem readText_eq (whole : c.Whole) (page : CodePage) :
    readText page c =
      match TextLiteral.raw? c.data c.pos c.left.toNat with
      | some raw => (.ok (.text (page.decode raw)), c.skip (raw.length + 1))
      | none => (.error (.error ⟨.text .unterminated, c.pos⟩), c) := by
  have before : ¬ c.limit < c.pos := by
    have := whole.pos_le
    omega
  have inside : ¬ (decide ((c.pos : Int) < 0) || decide ((c.data.size : Int) < c.limit)) = true := by
    have := whole.limit_le
    simp only [Bool.or_eq_true, decide_eq_true_eq]
    omega
  rw [readText, TextLiteral.read, if_neg before, if_neg inside, Int.toNat_natCast, Cursor.left]
  cases TextLiteral.raw? c.data c.pos (c.limit - c.pos).toNat with
  | none => rfl
  | some raw => rfl

/-- **Data that end before the limit** have no literal, whatever they hold. -/
theorem readText_missing (before : (c.pos : Int) ≤ c.limit) (missing : (c.data.size : Int) < c.limit)
    (page : CodePage) : readText page c = (.error .fault, c) := by
  have missing : (decide ((c.pos : Int) < 0) || decide ((c.data.size : Int) < c.limit)) = true := by
    simp only [Bool.or_eq_true, decide_eq_true_eq]
    omega
  rw [readText, TextLiteral.read, if_neg (by omega), if_pos missing]

/-- A text with its zero byte is read from the bytes ahead. -/
theorem readText_append (whole : c.Whole) (page : CodePage) (raw : RawText)
    (ahead : c.rest = raw.bytes ++ [0] ++ tail) :
    readText page c = (.ok (.text (page.decode raw.bytes)), c.skip (raw.bytes.length + 1)) := by
  have found : TextLiteral.raw? c.data c.pos c.left.toNat = some raw.bytes :=
    TextLiteral.raw?_eq_some_iff.mpr ⟨raw.zero_free, tail, ahead.symm⟩
  rw [readText_eq whole, found]

/-- **The payload of a lexeme is read from the bytes behind its opcode.** -/
theorem readPayload_immediate (page : CodePage) (x : Lexeme (Leaf ρ)) (code : UInt8) (start : Nat)
    (whole : c.Whole) (ahead : c.rest = x.immediate ++ tail) :
    readPayload page code start x.opcode.role c = (.ok (x.payload page), c.skip x.immediate.length) := by
  cases x with
  | leaf l =>
      cases l with
      | number bits =>
          have read := readBlock_append .number (numberOf?_written bits) ahead (by simp [Bytes.written])
          rwa [Bytes.length_written] at read
      | integer value =>
          exact readBlock_append .integer (integerOf?_ofWord value) ahead
            (by simp [Bytes.ofWord, Bytes.written])
      | text raw =>
          show readText page c = (.ok (.text (page.decode raw.bytes)), c.skip (raw.bytes ++ [0]).length)
          rw [readText_append whole page raw ahead, List.length_append, List.length_singleton]
      | target t => cases t <;> rfl
  | reduce r =>
      have immediate : (Lexeme.reduce r : Lexeme (Leaf ρ)).immediate =
        if r.opcode.role = .reduceCounted then [UInt8.ofNat r.operands] else [] := rfl
      show readPayload page code start r.opcode.role _ = _
      -- A listed count takes no byte, a counted reduction has its count behind the opcode.
      rcases r.takes.2 with role | ⟨role, small⟩
      · rw [immediate, role]
        rfl
      · have count : countOf? [UInt8.ofNat r.operands] = some (.reduce r.operands) := by
          simp [countOf?, Nat.mod_eq_of_lt small]
        rw [immediate, role, if_pos rfl] at ahead
        rw [immediate, role, if_pos rfl]
        exact readBlock_append .argumentCount count ahead (List.cons_ne_nil _ _)
  | terminator => rfl

/-- An opcode that is ahead is looked up, and its payload read behind it. -/
theorem read_cons (page : CodePage) {code : UInt8} (ahead : c.rest = code :: tail) :
    read page c =
      match Opcode.lookup? code with
      | none => (.error (.error ⟨.unknownOpcode code, c.pos⟩), c.skip 1)
      | some opcode =>
        match readPayload page code c.pos opcode.role (c.skip 1) with
        | (.ok payload, c') => (.ok ⟨opcode, c.pos, payload⟩, c')
        | (.error stop, c') => (.error stop, c') := by
  have taken : c.take .opcode 1 = .ok [code] :=
    Cursor.take_append .opcode (show c.rest = [code] ++ tail from ahead) (List.cons_ne_nil _ _)
  rewrite [read, taken]
  rfl

/-- **The code of a lexeme is read as its token.** -/
theorem read_code (page : CodePage) (x : Lexeme (Leaf ρ)) (whole : c.Whole)
    (ahead : c.rest = x.code ++ tail) :
    read page c = (.ok (x.token page c.pos), c.skip x.code.length) := by
  have first : c.rest = x.opcode.code :: (x.immediate ++ tail) := ahead
  have behind : (c.skip 1).rest = x.immediate ++ tail :=
    Cursor.rest_skip_of_append (show c.rest = [x.opcode.code] ++ (x.immediate ++ tail) from first)
  have there : 1 ≤ c.rest.length := by
    rw [first, List.length_cons]
    omega
  have payload := readPayload_immediate page x x.opcode.code c.pos (whole.skip there) behind
  rw [read_cons page first]
  simp only [x.lookup?_code, payload]
  rw [Lexeme.code, List.length_cons, Nat.add_comm, ← Cursor.skip_skip]
  rfl

/-- **An invalid byte is an unknown opcode.** -/
theorem read_invalid (page : CodePage) {code : UInt8} (invalid : Opcode.Invalid code)
    (ahead : c.rest = code :: tail) :
    read page c = (.error (.error ⟨.unknownOpcode code, c.pos⟩), c.skip 1) := by
  rw [read_cons page ahead]
  cases found : Opcode.lookup? code with
  | none => rfl
  | some opcode => simp only [invalid opcode found, readPayload]

end Token

/-! ## What reading a token can come to -/

/-- **Missing payload**: why what belongs to a role cannot be read at a cursor. -/
inductive Role.Lacks (c : Cursor) : Role → Stop → Prop
  | number {stop : Stop} (failed : c.take .number 8 = .error stop) : Lacks c .number stop
  | integer {stop : Stop} (failed : c.take .integer 2 = .error stop) : Lacks c .integer stop
  | count {stop : Stop} (failed : c.take .argumentCount 1 = .error stop) : Lacks c .reduceCounted stop
  | text (whole : c.Whole) (unterminated : 0 ∉ c.rest) : Lacks c .text (.error ⟨.text .unterminated, c.pos⟩)
  | fault (missing : (c.data.size : Int) < c.limit) : Lacks c .text .fault

/-- **What reading a token can come to**: it is that of a lexeme whose code is ahead, or there is no byte, or
an invalid one, or something is missing behind a listed one. -/
inductive TokenRead (page : CodePage) (c : Cursor) : Except Stop Token × Cursor → Prop
  | lexeme (x : Lexeme (Leaf Unit)) (ahead : c.rest = x.code ++ (c.skip x.code.length).rest) :
      TokenRead page c (.ok (x.token page c.pos), c.skip x.code.length)
  | missing {stop : Stop} (failed : c.take .opcode 1 = .error stop) : TokenRead page c (.error stop, c)
  | invalid {code : UInt8} (ahead : c.rest = code :: (c.skip 1).rest) (invalid : Opcode.Invalid code) :
      TokenRead page c (.error (.error ⟨.unknownOpcode code, c.pos⟩), c.skip 1)
  | cut {opcode : Opcode} {stop : Stop} (listed : opcode ∈ Opcode.table)
      (ahead : c.rest = opcode.code :: (c.skip 1).rest) (lacks : opcode.role.Lacks (c.skip 1) stop) :
      TokenRead page c (.error stop, c.skip 1)

namespace Token

variable {c : Cursor}

/-- **A block is read as the payload of a lexeme** with these bytes, or it cannot be taken. -/
theorem readBlock_cases (page : CodePage) (part : Part) (n : Nat) {make : List UInt8 → Option Payload}
    {o : Opcode} (makes : ∀ block : List UInt8, block.length = n → ∃ x : Lexeme (Leaf Unit), x.opcode = o ∧
      x.immediate = block ∧ make block = some (x.payload page)) (c : Cursor) :
    (∃ x : Lexeme (Leaf Unit), x.opcode = o ∧ c.rest = x.immediate ++ (c.skip x.immediate.length).rest ∧
        readBlock part n make c = (.ok (x.payload page), c.skip x.immediate.length)) ∨
      ∃ stop, c.take part n = .error stop ∧ readBlock part n make c = (.error stop, c) := by
  unfold readBlock
  cases taken : c.take part n with
  | error stop => exact .inr ⟨stop, rfl, rfl⟩
  | ok block =>
      obtain ⟨rfl, ahead⟩ := Cursor.rest_of_take taken
      obtain ⟨x, opcode, rfl, made⟩ := makes block rfl
      exact .inl ⟨x, opcode, ahead, by simp only [made]⟩

/-- **A text is read up to its zero byte**, or there is none. -/
theorem readText_cases (page : CodePage) (before : (c.pos : Int) ≤ c.limit) :
    (∃ raw : RawText, c.rest = raw.bytes ++ [0] ++ (c.skip (raw.bytes ++ [0]).length).rest ∧
        readText page c = (.ok (.text (page.decode raw.bytes)), c.skip (raw.bytes ++ [0]).length)) ∨
      ∃ stop, Role.text.Lacks c stop ∧ readText page c = (.error stop, c) := by
  by_cases inside : c.limit ≤ c.data.size
  · have whole : c.Whole := ⟨before, inside⟩
    cases found : TextLiteral.raw? c.data c.pos c.left.toNat with
    | some bytes =>
        obtain ⟨free, tail, parts⟩ := TextLiteral.raw?_eq_some_iff.mp found
        have ahead : c.rest = (bytes ++ [0]) ++ tail := parts.symm
        have read := readText_append whole page ⟨bytes, free⟩ ahead
        refine .inl ⟨⟨bytes, free⟩, by rw [Cursor.rest_skip_of_append ahead, ahead], ?_⟩
        rwa [List.length_append, List.length_singleton]
    | none =>
        refine .inr ⟨_, .text whole (TextLiteral.raw?_eq_none_iff.mp found), ?_⟩
        rw [readText_eq whole, found]
  · have missing : (c.data.size : Int) < c.limit := by omega
    exact .inr ⟨.fault, .fault missing, readText_missing before missing page⟩

/-- **Behind an opcode stands what belongs to it**, unless it is reserved or something is missing. -/
theorem readPayload_cases (page : CodePage) {o : Opcode} (mem : o ∈ Opcode.table) (code : UInt8) (start : Nat)
    (before : (c.pos : Int) ≤ c.limit) :
    (∃ x : Lexeme (Leaf Unit), x.opcode = o ∧ c.rest = x.immediate ++ (c.skip x.immediate.length).rest ∧
        readPayload page code start o.role c = (.ok (x.payload page), c.skip x.immediate.length)) ∨
      o.role = .reserved ∨
      ∃ stop, o.role.Lacks c stop ∧ readPayload page code start o.role c = (.error stop, c) := by
  -- A role of its own names the opcode, so a lexeme of that role has the opcode that was found.
  obtain ⟨number, integer, text, cellRef, rangeRef, terminator⟩ := Opcode.eq_of_role o mem
  have nothing : c.rest = [] ++ (c.skip 0).rest := rfl
  cases role : o.role with
  | number =>
      refine (readBlock_cases page .number 8 (fun block length => ?_) c).imp id fun ⟨stop, failed, read⟩ =>
        .inr ⟨stop, .number failed, read⟩
      obtain ⟨bits, rfl⟩ := Bytes.exists_written_eight length
      exact ⟨.leaf (.number bits), (number role).symm, rfl, numberOf?_written bits⟩
  | integer =>
      refine (readBlock_cases page .integer 2 (fun block length => ?_) c).imp id fun ⟨stop, failed, read⟩ =>
        .inr ⟨stop, .integer failed, read⟩
      obtain ⟨w, rfl⟩ := Bytes.exists_ofWord length
      exact ⟨.leaf (.integer w.toInt16), (integer role).symm, rfl, integerOf?_ofWord w.toInt16⟩
  | reduceCounted =>
      refine (readBlock_cases page .argumentCount 1 (fun block length => ?_) c).imp id
        fun ⟨stop, failed, read⟩ => .inr ⟨stop, .count failed, read⟩
      obtain ⟨b, rfl⟩ := List.length_eq_one_iff.mp length
      exact ⟨.reduce ⟨o, b.toNat, mem, .inr ⟨role, b.toNat_lt⟩⟩, rfl, by simp [Lexeme.immediate, role], rfl⟩
  | text =>
      rcases readText_cases page before with ⟨raw, ahead, read⟩ | lacks
      · exact .inl ⟨.leaf (.text raw), (text role).symm, ahead, read⟩
      · exact .inr (.inr lacks)
  | cellRef => exact .inl ⟨.leaf (.target (.cell ())), (cellRef role).symm, nothing, rfl⟩
  | rangeRef => exact .inl ⟨.leaf (.target (.range () ())), (rangeRef role).symm, nothing, rfl⟩
  | terminator => exact .inl ⟨.terminator, (terminator role).symm, nothing, rfl⟩
  | reduce n =>
      have immediate : (Lexeme.reduce ⟨o, n, mem, .inl role⟩ : Lexeme (Leaf Unit)).immediate = [] := by
        simp [Lexeme.immediate, role]
      exact .inl ⟨.reduce ⟨o, n, mem, .inl role⟩, rfl, by rw [immediate]; exact nothing,
        by rw [immediate]; rfl⟩
  | reserved => exact .inr (.inl rfl)

/-- **Reading a token** comes to one of these. -/
theorem read_spec (page : CodePage) (c : Cursor) : TokenRead page c (read page c) := by
  cases taken : c.take .opcode 1 with
  | error stop =>
      rw [read, taken]
      exact .missing taken
  | ok block =>
      obtain ⟨length, first⟩ := Cursor.rest_of_take taken
      obtain ⟨code, rfl⟩ := List.length_eq_one_iff.mp length
      have ahead : c.rest = code :: (c.skip 1).rest := first
      cases found : Opcode.lookup? code with
      | none =>
          have invalid : Opcode.Invalid code := fun o listed => by simp [found] at listed
          rw [read_invalid page invalid ahead]
          exact .invalid ahead invalid
      | some o =>
          obtain ⟨mem, rfl⟩ := Opcode.mem_of_lookup? found
          have something : c.rest ≠ [] := by simp [ahead]
          have before : ((c.skip 1).pos : Int) ≤ (c.skip 1).limit := by
            have := Cursor.pos_lt_limit something
            show ((c.pos + 1 : Nat) : Int) ≤ c.limit
            omega
          -- A listed opcode has its payload behind it, or is reserved, or is cut off.
          rcases readPayload_cases page mem o.code c.pos before with
            ⟨x, rfl, behind, payload⟩ | reserved | ⟨stop, lacks, failed⟩
          · have skipped : (c.skip 1).skip x.immediate.length = c.skip x.code.length := by
              rw [Cursor.skip_skip, Lexeme.code, List.length_cons, Nat.add_comm]
            have read : read page c = (.ok (x.token page c.pos), c.skip x.code.length) := by
              rw [read_cons page ahead]
              simp only [found, payload, skipped]
              rfl
            rw [read]
            refine .lexeme x ?_
            rw [← skipped, Lexeme.code, List.cons_append, ← behind]
            exact ahead
          · have invalid : Opcode.Invalid o.code := by
              intro o' found'
              rw [found, Option.some.injEq] at found'
              rwa [← found']
            rw [read_invalid page invalid ahead]
            exact .invalid ahead invalid
          · rw [read_cons page ahead]
            simp only [found, failed]
            exact .cut mem ahead lacks

end Token

/-- **Missing bytes** are an error where they are missing, if the data reach as far as the limit. -/
theorem Role.Lacks.error {c : Cursor} {role : Role} {stop : Stop} (h : role.Lacks c stop) (whole : c.Whole) :
    ∃ cause, stop = .error ⟨cause, c.pos⟩ ∧ cause.kind = .truncatedStream := by
  cases h with
  | number failed | integer failed | count failed => exact ⟨_, (whole.take_error failed).2, rfl⟩
  | text _ unterminated => exact ⟨_, rfl, rfl⟩
  | fault missing => exact absurd whole.limit_le (by omega)

/-- What a role lacks at one cursor, it lacks at those that agree. -/
theorem Role.Lacks.agrees {c c' : Cursor} {role : Role} {stop : Stop} (h : role.Lacks c stop)
    (agrees : c.Agrees c') : role.Lacks c' stop := by
  cases h with
  | number failed => exact .number ((agrees.take _ _).trans failed)
  | integer failed => exact .integer ((agrees.take _ _).trans failed)
  | count failed => exact .count ((agrees.take _ _).trans failed)
  | text whole unterminated =>
      rw [← agrees.pos]
      exact .text (agrees.whole whole) (by rwa [agrees.rest_eq])
  | fault missing =>
      refine .fault ?_
      rw [agrees.limit]
      exact agrees.size_lt_iff.mpr missing

/-- **Without what belongs to it, a role is not read.** -/
theorem Role.Lacks.readPayload_eq {c : Cursor} {role : Role} {stop : Stop} (h : role.Lacks c stop)
    (before : (c.pos : Int) ≤ c.limit) (page : CodePage) (code : UInt8) (start : Nat) :
    Token.readPayload page code start role c = (.error stop, c) := by
  cases h with
  | number failed | integer failed | count failed => rw [Token.readPayload, Token.readBlock, failed]
  | text whole unterminated =>
      rw [Token.readPayload, Token.readText_eq whole, TextLiteral.raw?_eq_none_iff.mpr unterminated]
  | fault missing => exact Token.readText_missing before missing page

namespace TokenRead

variable {page : CodePage} {c c' : Cursor}

/-- **A token is read in one way**, where all bytes are there. -/
theorem eq {r : Except Stop Token × Cursor} (h : TokenRead page c r) (whole : c.Whole) :
    Token.read page c = r := by
  cases h with
  | lexeme x ahead => exact Token.read_code page x whole ahead
  | missing failed => rw [Token.read, failed]
  | invalid ahead invalid => exact Token.read_invalid page invalid ahead
  | @cut opcode stop listed ahead lacks =>
      have before := (whole.skip (show 1 ≤ c.rest.length by rw [ahead, List.length_cons]; omega)).pos_le
      rw [Token.read_cons page ahead, Opcode.lookup?_of_mem listed]
      simp only [lacks.readPayload_eq before page opcode.code c.pos]

/-- Reading a token passes over bytes that are ahead. -/
theorem passes {r : Except Stop Token × Cursor} (h : TokenRead page c r) : c.Passes r.2 := by
  have first {b : UInt8} (ahead : c.rest = b :: (c.skip 1).rest) : c.Passes (c.skip 1) :=
    .block (show c.rest = [b] ++ (c.skip 1).rest from ahead)
  cases h with
  | lexeme x ahead => exact .block ahead
  | missing failed => exact .refl c
  | invalid ahead invalid => exact first ahead
  | cut listed ahead lacks => exact first ahead

/-- **A byte that is ahead is passed over**, also where no token is read. -/
theorem pos_lt {r : Except Stop Token × Cursor} (h : TokenRead page c r) (something : c.rest ≠ []) :
    c.pos < r.2.pos := by
  cases h with
  | lexeme x ahead =>
      show c.pos < c.pos + x.code.length
      rw [Lexeme.code, List.length_cons]
      omega
  | missing failed =>
      obtain ⟨b, tail, ahead⟩ := List.exists_cons_of_ne_nil something
      have taken := Cursor.take_append .opcode (show c.rest = [b] ++ tail from ahead) (List.cons_ne_nil b [])
      cases failed.symm.trans taken
  | invalid ahead invalid => exact Nat.lt_succ_self _
  | cut listed ahead lacks => exact Nat.lt_succ_self _

/-- **Where all bytes are there, no access goes astray**: a token is read, or the formula is in error. -/
theorem error_of_whole {stop : Stop} (h : TokenRead page c (.error stop, c')) (whole : c.Whole) :
    ∃ e, stop = .error e := by
  cases h with
  | missing failed => exact ⟨_, (whole.take_error failed).2⟩
  | invalid ahead invalid => exact ⟨_, rfl⟩
  | cut listed ahead lacks =>
      obtain ⟨cause, rfl, -⟩ := lacks.error (whole.skip (by rw [ahead, List.length_cons]; omega))
      exact ⟨_, rfl⟩

end TokenRead

end SheetFormula
