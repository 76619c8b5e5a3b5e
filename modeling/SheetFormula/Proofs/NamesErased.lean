import SheetFormula.Proofs.LockstepRun
import SheetFormula.Proofs.Safety

/-!
# Names and code pages erased

One formula, read with two sets of names and in two code pages, has one structure. Only what texts say and
what sheets and files are called may differ:

* **`Instruction.erased`** — an instruction without texts and names;
* **`Options.SameFrame`** — circumstances that differ in names and code pages only;
* **`Options.resolve_erased`** — the same fields are resolved to references that are the same once names are
  erased, or rejected alike;
* **`decode_erased`** — decoding gives the same error, or the same formula once texts and names are erased.
-/

namespace SheetFormula

variable {σ τ : Type}

/-! ## Erasing -/

/-- A sheet or file without its name. -/
def NamedId.erased (n : NamedId) : NamedId := { n with name := "" }

/-- **A reference without names**. -/
def CellRef.erased (r : CellRef) : CellRef := { r with sheet := r.sheet.erased, file := r.file.erased }

/-- References that are the same without names. -/
def CellRef.SameErased (r r' : CellRef) : Prop := r'.erased = r.erased

/-- **An instruction without texts and names**. -/
def Instruction.erased : Instruction → Instruction
  | .text _ => .text ""
  | .cell ref => .cell ref.erased
  | .range first last => .range first.erased last.erased
  | other => other

/-- Instructions that are alike are the same once texts and names are erased. -/
theorem Instruction.Alike.erased_eq {texts : String → String → Prop} {i j : Instruction}
    (h : Instruction.Alike texts CellRef.SameErased i j) : j.erased = i.erased := by
  cases h with
  | operator | function | number | integer | text => rfl
  | cell ref => exact congrArg Instruction.cell ref
  | range first last => exact congrArg₂ Instruction.range first last

/-- **Lists that are alike are the same** once texts and names are erased. -/
theorem Instruction.map_erased_eq {texts : String → String → Prop} {list list' : List Instruction}
    (h : List.Forall₂ (Instruction.Alike texts CellRef.SameErased) list list') :
    list'.map Instruction.erased = list.map Instruction.erased := by
  induction h with
  | nil => rfl
  | cons first _ ih => rw [List.map_cons, List.map_cons, first.erased_eq, ih]

/-! ## Circumstances -/

/-- **Circumstances with one frame**: formulas are laid out alike and have one owner. Names, code pages and
the names of the variants may differ. -/
structure Options.SameFrame (o : Options σ) (o' : Options τ) : Prop where
  /-- The distances of relative coordinates. -/
  width : o'.variant.width = o.variant.width
  /-- Where references are stored. -/
  layout : o'.variant.layout = o.variant.layout
  /-- Whether references have a sheet field. -/
  sheetField : o'.variant.sheetField = o.variant.sheetField
  /-- The owner. -/
  position : o'.position = o.position

/-- Fields are read by the width of a variant. -/
theorem AxisValue.ofField?_congr {v v' : Variant} (width : v'.width = v.width) (own : Int64) (field : Nat) :
    ofField? v' own field = ofField? v own field := by
  unfold ofField? Variant.axisWidth
  rw [width]

/-- Columns are clamped by the width of a variant. -/
theorem clampColumn_congr {v v' : Variant} (width : v'.width = v.width) (c : Coordinate) :
    clampColumn v' c = clampColumn v c := by
  unfold clampColumn
  rw [width]

namespace Options

variable {o : Options σ} {o' : Options τ}

/-- The file of a reference is known before its name. -/
theorem resolveFile_erased (o : Options σ) (o' : Options τ) (f : RefFields) (t : Trace σ) (t' : Trace τ) :
    (o'.resolveFile f t').1.erased = (o.resolveFile f t).1.erased := by
  unfold resolveFile
  cases f.file? with
  | none => rfl
  | some n => rfl

/-- So is its sheet. -/
theorem resolveSheet_erased (position : o'.position = o.position) (f : RefFields) (fileGiven : Bool)
    (t : Trace σ) (t' : Trace τ) :
    (o'.resolveSheet f fileGiven t').1.erased = (o.resolveSheet f fileGiven t).1.erased := by
  have sheet : o'.sheetOf f = o.sheetOf f := by rw [sheetOf, sheetOf, position]
  unfold resolveSheet
  rw [sheet, position]
  by_cases given : (decide (o.sheetOf f ≠ o.position.sheet) || fileGiven) = true
  · rw [if_pos given, if_pos given]
    rfl
  · rw [if_neg given, if_neg given]

/-- **The same fields give the same reference without names**, or are rejected alike, whatever the names
answer. -/
theorem resolve_erased (frame : o.SameFrame o') (f : RefFields) (t : Trace σ) (t' : Trace τ) :
    Together CellRef.SameErased (fun _ _ => True) (o.resolve f t) (o'.resolve f t') := by
  have file := resolveFile_erased o o' f t t'
  have axis : ∀ own field, AxisValue.ofField? o'.variant own field = AxisValue.ofField? o.variant own field :=
    AxisValue.ofField?_congr frame.width
  have spec := o'.resolve_spec f t'
  generalize o'.resolve f t' = r' at spec ⊢
  cases spec with
  | noColumn columnField =>
      rw [axis, frame.position] at columnField
      rw [(Resolves.noColumn columnField).eq]
      exact .error _ trivial
  | noRow columnField rowField =>
      rw [axis, frame.position] at columnField rowField
      rw [(Resolves.noRow columnField rowField).eq]
      exact .error _ trivial
  | gone columnField rowField gone =>
      rw [axis, frame.position] at columnField rowField
      rw [(Resolves.gone columnField rowField gone).eq]
      exact .ok rfl trivial
  | there columnField rowField sheetField =>
      rw [axis, frame.position] at columnField rowField
      rw [(Resolves.there columnField rowField sheetField).eq]
      -- Whether the sheet is looked up depends on there being a file, not on its name.
      have given : (o'.resolveFile f t').1.given = (o.resolveFile f t).1.given :=
        show (o'.resolveFile f t').1.erased.given = (o.resolveFile f t).1.erased.given by rw [file]
      have sheet := resolveSheet_erased frame.position f (o.resolveFile f t).1.given (o.resolveFile f t).2
        (o'.resolveFile f t').2
      rw [given, clampColumn_congr frame.width]
      refine .ok ?_ trivial
      exact congrArg₂ (fun sheet file => (⟨_, _, sheet, file, false⟩ : CellRef)) sheet file

/-- Decoders that differ in names and code pages, in lockstep. Their traces need not have anything in
common. -/
def erasing (frame : o.SameFrame o') (page page' : CodePage) : Lockstep o page o' page' where
  trace := fun _ _ => True
  text := fun _ _ => True
  ref := CellRef.SameErased
  layout := frame.layout
  sheetField := frame.sheetField
  decoded := fun _ => trivial
  resolved := fun f t t' _ => resolve_erased frame f t t'
  noted := fun _ _ _ _ => trivial

end Options

/-! ## Decoding -/

/-- **Outcomes of one structure**: the same error, or formulas with the same warning, whose instructions are
the same once texts and names are erased. -/
inductive SameStructure : Except Failure Decoded → Except Failure Decoded → Prop
  | rejected (e : DecodeError) (notes notes' : List Note) (dump : List UInt8) :
      SameStructure (.error (.rejected e notes dump)) (.error (.rejected e notes' dump))
  | decoded {d d' : Decoded} (warning : d'.warning = d.warning)
      (instructions : d'.instructions.map Instruction.erased = d.instructions.map Instruction.erased) :
      SameStructure (.ok d) (.ok d')

/-- **Names and code pages leave the structure of a formula alone.** Take any bytes, any end, and two
circumstances with one frame: any names, in any state, or none at all, and any two known code pages. Decoding
fails in both with the same error, or succeeds in both with the same warning and with instructions that are
the same once the texts of literals and the names of sheets and files are erased. -/
theorem decode_erased (o : Options σ) (o' : Options τ) (frame : o.SameFrame o')
    (known : (CodePage.ofName? o.variant.charset).isSome)
    (known' : (CodePage.ofName? o'.variant.charset).isSome) (names : σ) (names' : τ) (data : List UInt8)
    (stop : Int) :
    SameStructure (decode o names data stop).outcome (decode o' names' data stop).outcome := by
  obtain ⟨page, known⟩ := Option.isSome_iff_exists.mp known
  obtain ⟨page', known'⟩ := Option.isSome_iff_exists.mp known'
  by_cases inside : 0 ≤ stop ∧ stop ≤ data.length
  · have framed : Framed data stop (data.take stop.toNat) := ⟨inside.1, inside.2, rfl⟩
    have start : (Options.erasing frame page page').trace ⟨names, []⟩ ⟨names', []⟩ := trivial
    have outcomes := ((Options.erasing frame page page').decodeFormula start (.refl (.ofData data stop))
      framed.whole).outcome
    -- A fault would go together with a fault, but there is none.
    have safe := (framed.decodeFormula_safe o page names).1
    rw [framed.decode_eq known, framed.decode_eq known']
    generalize (decodeFormula o page names data stop).outcome = r at outcomes safe ⊢
    generalize (decodeFormula o' page' names' data stop).outcome = r' at outcomes ⊢
    cases outcomes with
    | decoded formulas => exact .decoded formulas.warning (Instruction.map_erased_eq formulas.instructions)
    | rejected e last dump _ _ => exact .rejected e _ _ dump
    | fault => exact absurd rfl safe
  · rw [decode_outside inside, decode_outside inside]
    exact .rejected _ _ _ _

/-- A text with a byte that one code page assigns and the other does not, joined to a cell of another sheet.
One table of names knows the sheet, and the other names are empty. -/
theorem decode_erased_joined :
    let known : Options Unit :=
      ⟨⟨"a", extendedWidth, .interleaved, true, "cp437"⟩, {},
        (NameTable.names { sheets := [(7, "Data")] }).resolver⟩
    let unknown : Options Unit :=
      ⟨⟨"b", extendedWidth, .interleaved, true, "windows-1252"⟩, {}, Names.none.resolver⟩
    let formula : List UInt8 := [0x06, 0x81, 0x00, 0x01, 0x02, 0x00, 0x03, 0x00, 0x07, 0x00, 0x18]
    (decode known () formula 11).outcome =
        .ok ⟨[.text "ü", .operator "&",
          .cell { column := ⟨2, false⟩, row := ⟨3, false⟩, sheet := ⟨true, 7, "Data"⟩ }], none, []⟩ ∧
      (decode unknown () formula 11).outcome =
        .ok ⟨[.text "�", .operator "&",
          .cell { column := ⟨2, false⟩, row := ⟨3, false⟩, sheet := ⟨true, 7, ""⟩ }], none,
            [.noSheetName 7]⟩ ∧
      SameStructure (decode known () formula 11).outcome (decode unknown () formula 11).outcome := by
  intro known unknown formula
  refine ⟨by decide +kernel, by decide +kernel, ?_⟩
  exact decode_erased known unknown ⟨rfl, rfl, rfl, rfl⟩ (by decide +kernel) (by decide +kernel) () ()
    formula 11

end SheetFormula
