import Mathlib.Data.Int.ModEq
import SheetFormula.Proofs.LockstepRun
import SheetFormula.Proofs.Safety

/-!
# Rebasing a formula

One formula, read for two owners on one sheet, means the same but for its relative coordinates, and these move
along with the owner:

* **`toInt_wrapAround`** — a step around an axis is the remainder of the exact sum, although the words
  overflow;
* **`CellRef.Rebased`** — references that differ in relative coordinates only, by the distance of the owners
  modulo the width of the axis;
* **`Options.resolve_rebased`** — the same fields are resolved to such references, or rejected alike;
* **`decode_rebased`** — decoding gives the same error, or the same formula up to such references.
-/

namespace SheetFormula

variable {σ : Type}

/-! ## Steps around an axis -/

/-- Words are added like integers modulo a divisor of their number. -/
theorem toInt_add_modEq {width : Int} (divides : width ∣ 2 ^ 64) (a b : Int64) :
    (a + b).toInt ≡ a.toInt + b.toInt [ZMOD width] := by
  have full : (a + b).toInt ≡ a.toInt + b.toInt [ZMOD 2 ^ 64] := by
    rw [Int64.toInt_add]
    exact Int.bmod_emod
  exact full.of_dvd divides

/-- A word stands for its integer modulo a divisor of the number of words. -/
theorem toInt_ofInt_modEq {width : Int} (divides : width ∣ 2 ^ 64) (d : Int) :
    (Int64.ofInt d).toInt ≡ d [ZMOD width] := by
  have full : (Int64.ofInt d).toInt ≡ d [ZMOD 2 ^ 64] := by
    rw [Int64.toInt_ofInt]
    exact Int.bmod_emod
  exact full.of_dvd divides

/-- **A step around an axis is exact** when the width divides the number of words: an overflow of the sum is a
number of turns. -/
theorem toInt_wrapAround {modulus : Int64} (positive : 0 < modulus.toInt) (divides : modulus.toInt ∣ 2 ^ 64)
    (own : Int64) (d : Int) : (wrapAround modulus own d).toInt = (own.toInt + d) % modulus.toInt := by
  have sum : (own + Int64.ofInt d).toInt ≡ own.toInt + d [ZMOD modulus.toInt] :=
    (toInt_add_modEq divides own (Int64.ofInt d)).trans ((toInt_ofInt_modEq divides d).add_left own.toInt)
  have remainder : ((own + Int64.ofInt d) % modulus).toInt ≡ own.toInt + d [ZMOD modulus.toInt] := by
    rw [Int64.toInt_mod]
    refine Int.ModEq.trans ?_ sum
    rw [Int.modEq_iff_dvd, Int.tmod_def, sub_sub_cancel]
    exact dvd_mul_right _ _
  have congruent : (wrapAround modulus own d).toInt ≡ own.toInt + d [ZMOD modulus.toInt] := by
    unfold wrapAround
    dsimp only
    split
    · -- One turn more does not matter.
      refine (toInt_add_modEq divides _ modulus).trans ?_
      rw [Int.ModEq, Int.add_emod_right]
      exact remainder
    · exact remainder
  obtain ⟨low, high⟩ := wrapAround_bounds positive own d
  calc (wrapAround modulus own d).toInt
    _ = (wrapAround modulus own d).toInt % modulus.toInt := (Int.emod_eq_of_lt low high).symm
    _ = (own.toInt + d) % modulus.toInt := congruent

/-- Both widths of an axis divide the number of words. -/
theorem Variant.axisWidth_dvd (v : Variant) : v.axisWidth.toInt ∣ 2 ^ 64 := by
  unfold axisWidth
  split <;> decide

/-! ## Coordinates -/

/-- **Rebased coordinates**: the same when they are absolute. When they are relative, both lie on the axis and
differ by the way from one owner to the other, modulo its width. -/
inductive Coordinate.Rebased (width shift : Int) : Coordinate → Coordinate → Prop
  | absolute (value : Int64) : Rebased width shift ⟨value, false⟩ ⟨value, false⟩
  | relative {value value' : Int64} (onAxis : 0 ≤ value.toInt ∧ value.toInt < width)
      (onAxis' : 0 ≤ value'.toInt ∧ value'.toInt < width)
      (moved : value'.toInt ≡ value.toInt + shift [ZMOD width]) :
      Rebased width shift ⟨value, true⟩ ⟨value', true⟩

/-- **Rebased axis values**: rebased coordinates, or both cells are gone. -/
inductive AxisValue.Rebased (width shift : Int) : AxisValue → AxisValue → Prop
  | place {c c' : Coordinate} (coordinates : c.Rebased width shift c') :
      Rebased width shift (.place c) (.place c')
  | gone : Rebased width shift .gone .gone

/-- Where a cell is gone for one owner, it is gone for the other. -/
theorem AxisValue.Rebased.gone_eq {width shift : Int} {a a' : AxisValue} (h : a.Rebased width shift a')
    (gone : a = .gone) : a' = .gone := by
  cases h with
  | place => cases gone
  | gone => rfl

/-- **A field is rebased** with the owner's coordinate, or has no meaning for either owner. -/
theorem AxisValue.ofField?_rebased (v : Variant) (own own' : Int64) (field : Nat) :
    Option.Rel (AxisValue.Rebased v.axisWidth.toInt (own'.toInt - own.toInt)) (ofField? v own field)
      (ofField? v own' field) := by
  unfold ofField?
  split
  · exact .some (.place (.absolute _))
  · split
    · have positive := v.axisWidth_bounds.1
      refine .some
        (.place (.relative (wrapAround_bounds positive own _) (wrapAround_bounds positive own' _) ?_))
      -- Before the axis is wrapped around, the two targets differ by the move of the owner.
      rw [toInt_wrapAround positive v.axisWidth_dvd, toInt_wrapAround positive v.axisWidth_dvd]
      have target : own'.toInt + distance v.width field =
          own.toInt + distance v.width field + (own'.toInt - own.toInt) := by omega
      rw [target]
      exact (Int.mod_modEq _ _).trans ((Int.mod_modEq _ _).symm.add_right _)
    · split
      · exact .some .gone
      · exact .none

/-- A field with a meaning for one owner has a rebased one for the other. -/
theorem AxisValue.exists_rebased {v : Variant} {own : Int64} {field : Nat} {a : AxisValue}
    (h : ofField? v own field = some a) (own' : Int64) :
    ∃ a', ofField? v own' field = some a' ∧ a.Rebased v.axisWidth.toInt (own'.toInt - own.toInt) a' := by
  have related := ofField?_rebased v own own' field
  rw [h] at related
  generalize ofField? v own' field = value at related
  cases related with
  | some rebased => exact ⟨_, rfl, rebased⟩

/-- A field without a meaning for one owner has none for the other. -/
theorem AxisValue.none_rebased {v : Variant} {own : Int64} {field : Nat} (h : ofField? v own field = none)
    (own' : Int64) : ofField? v own' field = none := by
  have related := ofField?_rebased v own own' field
  rw [h] at related
  generalize ofField? v own' field = value at related
  cases related with
  | none => rfl

/-- **Clamping keeps columns rebased**: an absolute one is clamped for either owner, and with eight-bit
distances the axis ends at the last column, so no relative one is. -/
theorem clampColumn_rebased (v : Variant) {shift : Int} {c c' : Coordinate}
    (h : c.Rebased v.axisWidth.toInt shift c') :
    (clampColumn v c).Rebased v.axisWidth.toInt shift (clampColumn v c') := by
  -- A relative column is on the axis already, so that it needs no cap.
  have kept : ∀ value : Int64, value.toInt < v.axisWidth.toInt →
      clampColumn v ⟨value, true⟩ = ⟨value, true⟩ := by
    intro value onAxis
    refine if_neg ?_
    rw [Bool.and_eq_true, decide_eq_true_eq, decide_eq_true_eq]
    rintro ⟨narrow, beyond⟩
    rw [Variant.axisWidth, narrow, if_neg (by decide)] at onAxis
    have last : narrowColumnMax.toInt < value.toInt := Int64.lt_iff_toInt_lt.mp beyond
    have values : narrowColumnMax.toInt = 255 ∧ (256 : Int64).toInt = 256 := by decide
    omega
  cases h with
  | absolute value =>
      unfold clampColumn
      split
      · exact .absolute _
      · exact .absolute _
  | relative onAxis onAxis' moved =>
      rw [kept _ onAxis.2, kept _ onAxis'.2]
      exact .relative onAxis onAxis' moved

/-! ## References -/

/-- **Rebased references** of the owners `p` and `q`: column and row are rebased, and everything else is the
same. -/
structure CellRef.Rebased (width : Int) (p q : Position) (ref ref' : CellRef) : Prop where
  /-- The column moves with the owner's. -/
  column : ref.column.Rebased width (q.column.toInt - p.column.toInt) ref'.column
  /-- The row moves with the owner's. -/
  row : ref.row.Rebased width (q.row.toInt - p.row.toInt) ref'.row
  /-- The sheet. -/
  sheet : ref'.sheet = ref.sheet
  /-- The external file. -/
  file : ref'.file = ref.file
  /-- Whether the cell is gone. -/
  unresolved : ref'.unresolved = ref.unresolved

/-- Circumstances with another owner. -/
def Options.at (o : Options σ) (p : Position) : Options σ := { o with position := p }

/-- **The same fields are rebased**, or rejected for both owners. Names are looked up alike: the sheet of the
owners is the same. -/
theorem Options.resolve_rebased (o : Options σ) {p q : Position} (same : q.sheet = p.sheet) (f : RefFields)
    (t : Trace σ) :
    Together (CellRef.Rebased o.variant.axisWidth.toInt p q) Eq ((o.at p).resolve f t)
      ((o.at q).resolve f t) := by
  have sheets : ∀ given t, (o.at q).resolveSheet f given t = (o.at p).resolveSheet f given t := by
    intro given t
    unfold resolveSheet sheetOf Options.at
    rw [same]
  have spec := (o.at p).resolve_spec f t
  generalize (o.at p).resolve f t = r at spec ⊢
  cases spec with
  | noColumn columnField =>
      have resolves : (o.at q).Resolves f t _ := .noColumn (AxisValue.none_rebased columnField q.column)
      rw [resolves.eq]
      exact .error _ rfl
  | noRow columnField rowField =>
      obtain ⟨_, columnField', -⟩ := AxisValue.exists_rebased columnField q.column
      have resolves : (o.at q).Resolves f t _ :=
        .noRow columnField' (AxisValue.none_rebased rowField q.row)
      rw [resolves.eq]
      exact .error _ rfl
  | gone columnField rowField gone =>
      obtain ⟨_, columnField', column⟩ := AxisValue.exists_rebased columnField q.column
      obtain ⟨_, rowField', row⟩ := AxisValue.exists_rebased rowField q.row
      have resolves : (o.at q).Resolves f t _ :=
        .gone columnField' rowField' (gone.imp column.gone_eq (.imp_left row.gone_eq))
      rw [resolves.eq]
      -- A cell that is gone has no coordinates that could move.
      exact .ok ⟨.absolute 0, .absolute 0, rfl, rfl, rfl⟩ rfl
  | there columnField rowField sheetField =>
      obtain ⟨_, columnField', ⟨column⟩⟩ := AxisValue.exists_rebased columnField q.column
      obtain ⟨_, rowField', ⟨row⟩⟩ := AxisValue.exists_rebased rowField q.row
      have resolves : (o.at q).Resolves f t _ := .there columnField' rowField' sheetField
      rw [resolves.eq, sheets]
      exact .ok ⟨clampColumn_rebased o.variant column, row, rfl, rfl, rfl⟩ rfl

/-! ## Decoding -/

/-- Decoders for two owners on one sheet, in lockstep. -/
def Options.rebasing (o : Options σ) (page : CodePage) {p q : Position} (same : q.sheet = p.sheet) :
    Lockstep (o.at p) page (o.at q) page :=
  .onePage Eq (CellRef.Rebased o.variant.axisWidth.toInt p q) rfl rfl
    (fun f _ _ traces => traces ▸ o.resolve_rebased same f _)
    (fun _ _ _ traces => by rw [traces])

/-- **Rebased outcomes** of the owners `p` and `q`: the same error, or formulas with the same warning and the
same diagnostics, whose instructions are the same but for rebased references. -/
inductive Rebased (width : Int) (p q : Position) : Except Failure Decoded → Except Failure Decoded → Prop
  | rejected (e : DecodeError) (notes notes' : List Note) (dump : List UInt8) :
      Rebased width p q (.error (.rejected e notes dump)) (.error (.rejected e notes' dump))
  | decoded {d d' : Decoded}
      (instructions : List.Forall₂ (Instruction.Alike Eq (CellRef.Rebased width p q)) d.instructions
        d'.instructions)
      (warning : d'.warning = d.warning) (diagnostics : d'.diagnostics = d.diagnostics) :
      Rebased width p q (.ok d) (.ok d')

/-- **Decoding is rebased.** Take any bytes, any end, any variant with a known code page, any names, and two
owners on one sheet, wherever they stand. Decoding for either of them fails with the same error, or gives
formulas with the same warning and the same diagnostics. Their instructions are the same but for relative
coordinates: these lie on the axis and differ by the way from one owner to the other, modulo its width. -/
theorem decode_rebased (o : Options σ) {page : CodePage}
    (known : CodePage.ofName? o.variant.charset = some page) (p q : Position) (same : q.sheet = p.sheet)
    (names : σ) (data : List UInt8) (stop : Int) :
    Rebased o.variant.axisWidth.toInt p q (decode (o.at p) names data stop).outcome
      (decode (o.at q) names data stop).outcome := by
  have known' : ∀ owner, CodePage.ofName? (o.at owner).variant.charset = some page := fun _ => known
  by_cases inside : 0 ≤ stop ∧ stop ≤ data.length
  · have framed : Framed data stop (data.take stop.toNat) := ⟨inside.1, inside.2, rfl⟩
    have start : (o.rebasing page same).trace ⟨names, []⟩ ⟨names, []⟩ := rfl
    have outcomes :=
      ((o.rebasing page same).decodeFormula start (.refl (.ofData data stop)) framed.whole).outcome
    have safe := (framed.decodeFormula_safe (o.at p) page names).1
    rw [framed.decode_eq (known' p), framed.decode_eq (known' q)]
    generalize (decodeFormula (o.at p) page names data stop).outcome = r at outcomes safe ⊢
    generalize (decodeFormula (o.at q) page names data stop).outcome = r' at outcomes ⊢
    cases outcomes with
    | decoded formulas =>
        -- Owners on one sheet ask for the same names, and note the same.
        obtain ⟨t, t', traces, notes, notes'⟩ := formulas.notes
        refine .decoded formulas.instructions formulas.warning ?_
        have traces : t = t' := traces
        rw [Decoded.diagnostics, Decoded.diagnostics, notes, notes', traces]
    | rejected e last dump _ _ => exact .rejected e _ _ dump
    | fault => exact absurd rfl safe
  · rw [decode_outside inside, decode_outside inside]
    exact .rejected _ _ _ _

/-- A cell one column to the left and five rows down, for an owner in the corner and for one at the ends of
the words: the columns are the last one of the axis and the one before it, and the rows are the same. -/
theorem decode_rebased_overflow :
    (decode (Options.at ⟨.wk1, {}, Names.none.resolver⟩ {}) () [0x01, 0xff, 0x80, 0x05, 0x80] 5).outcome =
        .ok ⟨[.cell { column := ⟨255, true⟩, row := ⟨5, true⟩ }], none, []⟩ ∧
      (decode (Options.at ⟨.wk1, {}, Names.none.resolver⟩ ⟨Int64.maxValue, Int64.minValue, 0⟩) ()
          [0x01, 0xff, 0x80, 0x05, 0x80] 5).outcome =
        .ok ⟨[.cell { column := ⟨254, true⟩, row := ⟨5, true⟩ }], none, []⟩ ∧
      Rebased 256 {} ⟨Int64.maxValue, Int64.minValue, 0⟩
        (.ok ⟨[.cell { column := ⟨255, true⟩, row := ⟨5, true⟩ }], none, []⟩)
        (.ok ⟨[.cell { column := ⟨254, true⟩, row := ⟨5, true⟩ }], none, []⟩) := by
  have corner : (decode (Options.at ⟨.wk1, {}, Names.none.resolver⟩ {}) ()
      [0x01, 0xff, 0x80, 0x05, 0x80] 5).outcome =
        .ok ⟨[.cell { column := ⟨255, true⟩, row := ⟨5, true⟩ }], none, []⟩ := by decide +kernel
  have ends : (decode (Options.at ⟨.wk1, {}, Names.none.resolver⟩ ⟨Int64.maxValue, Int64.minValue, 0⟩) ()
      [0x01, 0xff, 0x80, 0x05, 0x80] 5).outcome =
        .ok ⟨[.cell { column := ⟨254, true⟩, row := ⟨5, true⟩ }], none, []⟩ := by decide +kernel
  have both := decode_rebased ⟨.wk1, {}, Names.none.resolver⟩ (CodePage.ofName?_name .cp437) {}
    ⟨Int64.maxValue, Int64.minValue, 0⟩ rfl () [0x01, 0xff, 0x80, 0x05, 0x80] 5
  rw [corner, ends] at both
  exact ⟨corner, ends, both⟩

end SheetFormula
