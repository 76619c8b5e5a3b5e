import SheetFormula.Instruction

/-!
# Formula text

Instructions written as a formula such as `SUM($A$1:$B$3;2)`. Columns are named `A` to `Z`, then `AA`, `AB`
and so on; a coordinate that was stored as a distance has no dollar sign. Main definitions:

* `ColumnName.letters` — the letters of a column counted from zero;
* `ColumnName.name?` — the name of a column word, which has room for eight letters;
* `quotedSheetName` — a sheet name, in quotes where it needs them;
* `CellRef.name?`, `CellRef.rangeName?` — the name of a cell and of a range;
* `render?` — the text of an instruction list.

A text is `none` only when a column needs more letters than a column name has room for.
-/

namespace SheetFormula

/-! ## Column names -/

namespace ColumnName

/-- The letter of a digit below 26. -/
def letter (d : Nat) : Char := Char.ofNat ('A'.toNat + d)

/-- Letters of a column in front of `tail`. Each step takes the last letter off and goes on with the column of
the letters before it, which is smaller, so `column` steps are enough. -/
def lettersOnto : Nat → Nat → List Char → List Char
  | 0, column, tail => letter (column % 26) :: tail
  | fuel + 1, column, tail =>
    if column < 26 then letter column :: tail
    else lettersOnto fuel (column / 26 - 1) (letter (column % 26) :: tail)

/-- **Letters of a column**, most significant first: `0` is `A`, `26` is `AA`. -/
def letters (column : Nat) : List Char := lettersOnto column column []

/-- The most letters a name has room for. -/
def maxLetters : Nat := 8

/-- **Name of a column word**: a question mark for a negative one, and `none` when it needs more letters than
there is room for. -/
def name? (column : Int64) : Option String :=
  if column < 0 then some "?"
  else
    let ls := letters column.toInt.toNat
    if ls.length ≤ maxLetters then some (String.ofList ls) else none

end ColumnName

/-! ## Names and texts -/

/-- **Double a character** wherever it occurs. -/
def doubled (q : Char) (s : List Char) : List Char :=
  s.flatMap fun c => if c = q then [q, q] else [c]

/-- In an empty text there is nothing to double. -/
@[simp] theorem doubled_nil (q : Char) : doubled q [] = [] := rfl

/-- A quote becomes two, and any other character stays. -/
@[simp] theorem doubled_cons (q c : Char) (s : List Char) :
    doubled q (c :: s) = (if c = q then [q, q] else [c]) ++ doubled q s := rfl

/-- **Quote around** a text, with each quote inside written twice. -/
def enclosed (q : Char) (s : String) : String :=
  String.ofList (q :: doubled q s.toList ++ [q])

/-- **Sheet name** in a reference: in single quotes when it has a quote or a space. -/
def quotedSheetName (name : String) : String :=
  if name.toList.contains '\'' || name.toList.contains ' ' then enclosed '\'' name else name

namespace CellRef

/-- Column and row of a reference, such as `$C5`. -/
def localName? (r : CellRef) : Option String :=
  (ColumnName.name? r.column.value).map fun column =>
    (if r.column.relative then "" else "$") ++ column ++ (if r.row.relative then "" else "$") ++
      Digits.decimal (r.row.value + 1).toInt

/-- The name of a sheet or file, or a stand-in with its number when the name is empty. -/
def shownName (kind : String) (n : NamedId) : String :=
  if n.name = "" then "?" ++ kind ++ " " ++ Digits.decimal n.id.toInt ++ "?" else n.name

/-- **Qualifier** of a reference: its file in double angle brackets, its sheet before an exclamation mark. -/
def qualifier (r : CellRef) : String :=
  (if r.file.given then "<<" ++ shownName "file" r.file ++ ">>" else "") ++
    (if r.sheet.given then quotedSheetName (shownName "sheet" r.sheet) ++ "!" else "")

/-- **Name of a cell**. -/
def name? (r : CellRef) : Option String :=
  if r.unresolved then some "#REF!" else r.localName?.map (r.qualifier ++ ·)

/-- **Name of a range**, qualified once, by its first corner. -/
def rangeName? (first last : CellRef) : Option String :=
  if first.unresolved || last.unresolved then some "#REF!"
  else
    match first.localName?, last.localName? with
    | some a, some b => some (first.qualifier ++ a ++ ":" ++ b)
    | _, _ => none

end CellRef

/-- **Text of one instruction**. -/
def Instruction.text? : Instruction → Option String
  | operator s => some s
  | function s => some s
  | cell ref => ref.name?
  | range first last => first.rangeName? last
  | number bits => some (Double.text bits)
  | integer value => some (Digits.decimal value.toInt)
  | text s => some (enclosed '"' s)
  | unlisted _ => some "?"

/-- **Text of an instruction list**: the texts of its instructions, one after the other. -/
def render? (instructions : List Instruction) : Option String :=
  (instructions.mapM Instruction.text?).map String.join

end SheetFormula
