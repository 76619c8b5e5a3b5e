import SheetFormula.Reference

/-!
# Resolution of references

What becomes of the raw fields of a reference, and how it depends on the names:

* **`Options.Resolves`**, **`Options.resolve_spec`**, **`Options.Resolves.eq`** — what resolving fields can
  come to: a field has no meaning, or the cell is gone, or it has a place and its sheet is looked up;
* **`Options.Resolves.keeps`** — what look-ups keep, a resolution keeps;
* **`NameCache.Faithful`** — caches that hold only answers of an assignment, whatever they are asked;
* **`Resolver.Relates`**, **`Resolver.Alike`** — resolvers that cannot be told apart by their answers. Fields
  are resolved alike with either (`Options.resolve_related`).
-/

namespace SheetFormula

variable {σ : Type}

/-! ## What resolving fields can come to -/

namespace Options

variable {o : Options σ} {f : RefFields} {t : Trace σ}

/-- **What resolving fields can come to**. The file has been looked up before anything else; the sheet is
looked up only for a cell that is there. -/
inductive Resolves (o : Options σ) (f : RefFields) (t : Trace σ) :
    Except MalformedField CellRef × Trace σ → Prop
  | noColumn (columnField : AxisValue.ofField? o.variant o.position.column f.columnField = none) :
      Resolves o f t (.error (.column f.column), (o.resolveFile f t).2)
  | noRow {column : AxisValue}
      (columnField : AxisValue.ofField? o.variant o.position.column f.columnField = some column)
      (rowField : AxisValue.ofField? o.variant o.position.row f.row.toNat = none) :
      Resolves o f t (.error (.row f.row), (o.resolveFile f t).2)
  | gone {column row : AxisValue}
      (columnField : AxisValue.ofField? o.variant o.position.column f.columnField = some column)
      (rowField : AxisValue.ofField? o.variant o.position.row f.row.toNat = some row)
      (gone : column = .gone ∨ row = .gone ∨ sheetGone f = true) :
      Resolves o f t (.ok .gone, (o.resolveFile f t).2)
  | there {column row : Coordinate}
      (columnField : AxisValue.ofField? o.variant o.position.column f.columnField = some (.place column))
      (rowField : AxisValue.ofField? o.variant o.position.row f.row.toNat = some (.place row))
      (sheetField : sheetGone f = false) :
      Resolves o f t
        (.ok ⟨clampColumn o.variant column, row,
          (o.resolveSheet f (o.resolveFile f t).1.given (o.resolveFile f t).2).1, (o.resolveFile f t).1,
          false⟩,
        (o.resolveSheet f (o.resolveFile f t).1.given (o.resolveFile f t).2).2)

/-- **Resolving fields** comes to one of these. -/
theorem resolve_spec (o : Options σ) (f : RefFields) (t : Trace σ) : o.Resolves f t (o.resolve f t) := by
  unfold resolve
  cases columnField : AxisValue.ofField? o.variant o.position.column f.columnField with
  | none => exact .noColumn columnField
  | some column =>
      cases rowField : AxisValue.ofField? o.variant o.position.row f.row.toNat with
      | none => exact .noRow columnField rowField
      | some row =>
          -- One part that is gone is enough, and otherwise both axes have a place.
          cases column with
          | gone => exact .gone columnField rowField (.inl rfl)
          | place column =>
              cases row with
              | gone => exact .gone columnField rowField (.inr (.inl rfl))
              | place row =>
                  cases sheetField : sheetGone f with
                  | true => exact .gone columnField rowField (.inr (.inr sheetField))
                  | false => exact .there columnField rowField sheetField

namespace Resolves

variable {r : Except MalformedField CellRef × Trace σ}

/-- Fields are resolved in one way. -/
theorem eq (h : o.Resolves f t r) : o.resolve f t = r := by
  unfold resolve
  cases h with
  | noColumn columnField => rw [columnField]
  | noRow columnField rowField => rw [columnField, rowField]
  | @gone column row columnField rowField gone =>
      rw [columnField, rowField]
      rcases gone with rfl | rfl | gone
      · rfl
      · cases column <;> rfl
      · rw [gone]
        cases column <;> cases row <;> rfl
  | there columnField rowField sheetField => rw [columnField, rowField, sheetField]

/-- **What look-ups keep, a resolution keeps.** -/
theorem keeps {P : Trace σ → Prop} (kept : ∀ {t} key, P t → P (t.nameOf o.resolver key).2)
    (h : o.Resolves f t r) (start : P t) : P r.2 := by
  have file : P (o.resolveFile f t).2 := by
    unfold resolveFile
    split
    · exact kept _ start
    · exact start
  cases h with
  | noColumn | noRow | gone => exact file
  | there columnField rowField sheetField =>
      unfold resolveSheet
      split
      · exact kept _ file
      · exact file

end Resolves

end Options

/-! ## Faithful caches -/

namespace NameCache

/-- **A faithful cache** holds only answers of an assignment. -/
def Faithful (names : Names) (c : NameCache) : Prop := ∀ e ∈ c.entries, e.2 = names e.1

variable {names : Names} {c : NameCache} (h : c.Faithful names) (key : NameKey)

include h

/-- What is left of a faithful cache without a key are answers of the assignment. -/
theorem Faithful.without : ∀ e ∈ NameCache.without key c.entries, e.2 = names e.1 :=
  fun e mem => h e (List.mem_filter.mp mem).1

/-- **What a faithful cache answers is right**, and it stays faithful. -/
theorem Faithful.get? :
    (∀ answer, (c.get? key).1 = some answer → answer = names key) ∧ (c.get? key).2.Faithful names := by
  unfold NameCache.get?
  cases kept : c.entries.lookup key with
  | none => exact ⟨nofun, h⟩
  | some answer =>
      obtain ⟨before, behind, entries, -⟩ := List.lookup_eq_some_iff.mp kept
      have known : answer = names key := h (key, answer) (by simp [entries])
      refine ⟨?_, List.forall_mem_cons.mpr ⟨known, h.without key⟩⟩
      rintro _ ⟨⟩
      exact known

/-- **A faithful cache stays so** with an answer of the assignment put in, whatever it drops. -/
theorem Faithful.add {answer : Option String} (known : answer = names key) :
    (c.add key answer).Faithful names := by
  have added : ∀ e ∈ (key, answer) :: NameCache.without key c.entries, e.2 = names e.1 :=
    List.forall_mem_cons.mpr ⟨known, h.without key⟩
  exact fun e mem => added e (List.mem_of_mem_take mem)

end NameCache

/-! ## Resolvers that answer alike -/

namespace Resolver

variable {τ : Type}

/-- **A relation goes with equal answers**, and is kept by every question. -/
def Relates (R : σ → τ → Prop) (r : Resolver σ) (r' : Resolver τ) : Prop :=
  ∀ s s', R s s' → ∀ key, (r key s).1 = (r' key s').1 ∧ R (r key s).2 (r' key s').2

/-- **Two resolvers answer alike** from two states on: nothing they are asked tells them apart. -/
def Alike (r : Resolver σ) (r' : Resolver τ) (s : σ) (s' : τ) : Prop :=
  ∃ R : σ → τ → Prop, Relates R r r' ∧ R s s'

/-- A resolver goes with itself. -/
theorem relates_eq (r : Resolver σ) : Relates Eq r r := by
  rintro s _ rfl key
  exact ⟨rfl, rfl⟩

/-- A fixed assignment answers like itself. -/
theorem alike_assignment (names : Names) : names.resolver.Alike names.resolver () () :=
  ⟨Eq, relates_eq _, rfl⟩

/-- A cached resolver answers by the assignment as long as its cache is faithful, which every question
keeps. -/
theorem Relates.cached {R : σ → Unit → Prop} {r : Resolver σ} {names : Names}
    (related : Relates R r names.resolver) :
    Relates (fun state _ => R state.1 () ∧ state.2.Faithful names) r.cached names.resolver := by
  rintro ⟨s, c⟩ _ ⟨here, faithful⟩ key
  obtain ⟨known, kept⟩ := faithful.get? key
  unfold Resolver.cached
  dsimp only at known kept ⊢
  generalize c.get? key = found at known kept ⊢
  obtain ⟨_ | answer, c'⟩ := found
  · obtain ⟨answer, next⟩ := related s () here key
    exact ⟨answer, next, kept.add key answer⟩
  · exact ⟨known answer rfl, here, kept⟩

/-- So does one that may have a cache. -/
theorem Relates.cachedIf {R : σ → Unit → Prop} {r : Resolver σ} {names : Names}
    (related : Relates R r names.resolver) :
    Relates (fun state _ => R state.1 () ∧ ∀ c ∈ state.2, c.Faithful names) r.cachedIf names.resolver := by
  rintro ⟨s, cache⟩ _ ⟨here, faithful⟩ key
  cases cache with
  | none =>
      obtain ⟨answer, next⟩ := related s () here key
      exact ⟨answer, next, nofun⟩
  | some c =>
      obtain ⟨answer, next, kept⟩ := related.cached (s, c) () ⟨here, faithful c rfl⟩ key
      refine ⟨answer, next, ?_⟩
      rintro _ ⟨⟩
      exact kept

/-- **A faithful cache does not show**: it holds only answers of the assignment, and so it does after every
question, whatever it drops. -/
theorem Alike.cached {r : Resolver σ} {names : Names} {s : σ} (h : r.Alike names.resolver s ())
    {c : NameCache} (faithful : ∀ e ∈ c.entries, e.2 = names e.1) :
    r.cached.Alike names.resolver (s, c) () := by
  obtain ⟨R, related, start⟩ := h
  exact ⟨_, related.cached, start, faithful⟩

end Resolver

/-! ## Resolution with related names

The notes taken so far have no influence on a resolution, and the state of the names only by its answers. -/

/-- **Results together**: values in a relation or the same error, and in either case states in another
relation. -/
inductive Together {ε α β γ δ : Type} (value : α → β → Prop) (state : γ → δ → Prop) :
    Except ε α × γ → Except ε β × δ → Prop
  | ok {a : α} {b : β} {s : γ} {t : δ} (values : value a b) (states : state s t) :
      Together value state (.ok a, s) (.ok b, t)
  | error (e : ε) {s : γ} {t : δ} (states : state s t) : Together value state (.error e, s) (.error e, t)

section Related

variable {τ : Type} {r' : Resolver τ} {R : σ → τ → Prop} {Q : List Note → List Note → Prop}

/-- **Traces in relation**: their names in one, and their notes in another. -/
def Trace.Related (R : σ → τ → Prop) (Q : List Note → List Note → Prop) (t : Trace σ) (t' : Trace τ) : Prop :=
  R t.names t'.names ∧ Q t.notes t'.notes

/-- One look-up gives the same name, and the same note if nobody knows it. -/
theorem Trace.Related.nameOf {r : Resolver σ} (related : Resolver.Relates R r r')
    (noted : ∀ n {l l'}, Q l l' → Q (n :: l) (n :: l')) {t : Trace σ} {t' : Trace τ}
    (h : Trace.Related R Q t t') (key : NameKey) :
    (t'.nameOf r' key).1 = (t.nameOf r key).1 ∧
      Trace.Related R Q (t.nameOf r key).2 (t'.nameOf r' key).2 := by
  obtain ⟨answer, next⟩ := related _ _ h.1 key
  unfold Trace.nameOf
  generalize r key t.names = found at answer next ⊢
  generalize r' key t'.names = found' at answer next ⊢
  obtain ⟨found, s⟩ := found
  obtain ⟨found', s'⟩ := found'
  obtain rfl : found = found' := answer
  cases found with
  | none => exact ⟨rfl, next, noted _ h.2⟩
  | some name => exact ⟨rfl, next, h.2⟩

namespace Options

/-- The same circumstances with other names. -/
def withResolver (o : Options σ) (r : Resolver τ) : Options τ := ⟨o.variant, o.position, r⟩

variable (o : Options σ) (related : Resolver.Relates R o.resolver r')
  (noted : ∀ n {l l'}, Q l l' → Q (n :: l) (n :: l')) (f : RefFields) {t : Trace σ} {t' : Trace τ}

include related noted

/-- The file of a reference gets the same name. -/
theorem resolveFile_related (h : Trace.Related R Q t t') :
    ((o.withResolver r').resolveFile f t').1 = (o.resolveFile f t).1 ∧
      Trace.Related R Q (o.resolveFile f t).2 ((o.withResolver r').resolveFile f t').2 := by
  unfold resolveFile
  cases f.file? with
  | none => exact ⟨rfl, h⟩
  | some n =>
      obtain ⟨name, traces⟩ := h.nameOf related noted (.file (Int64.ofNat n))
      exact ⟨congrArg (NamedId.mk true (Int64.ofNat n)) name, traces⟩

/-- The sheet of a reference gets the same name. -/
theorem resolveSheet_related (fileGiven : Bool) (h : Trace.Related R Q t t') :
    ((o.withResolver r').resolveSheet f fileGiven t').1 = (o.resolveSheet f fileGiven t).1 ∧
      Trace.Related R Q (o.resolveSheet f fileGiven t).2
        ((o.withResolver r').resolveSheet f fileGiven t').2 := by
  have sheet : (o.withResolver r').sheetOf f = o.sheetOf f := rfl
  have position : (o.withResolver r').position = o.position := rfl
  unfold resolveSheet
  rw [sheet, position]
  by_cases given : (decide (o.sheetOf f ≠ o.position.sheet) || fileGiven) = true
  · obtain ⟨name, traces⟩ := h.nameOf related noted (.sheet (o.sheetOf f))
    rw [if_pos given, if_pos given]
    exact ⟨congrArg (NamedId.mk true (o.sheetOf f)) name, traces⟩
  · rw [if_neg given, if_neg given]
    exact ⟨rfl, h⟩

/-- **Only answers matter**: with related names, fields are resolved to the same reference, or rejected
alike. -/
theorem resolve_related (h : Trace.Related R Q t t') :
    Together Eq (Trace.Related R Q) (o.resolve f t) ((o.withResolver r').resolve f t') := by
  obtain ⟨file, traces⟩ := o.resolveFile_related related noted f h
  -- The axes ask for no name, so that they are the same on both sides; only the sheet comes behind them.
  have spec := o.resolve_spec f t
  generalize o.resolve f t = r at spec ⊢
  cases spec with
  | noColumn columnField =>
      have resolves : (o.withResolver r').Resolves f t' _ := .noColumn columnField
      rw [resolves.eq]
      exact .error _ traces
  | noRow columnField rowField =>
      have resolves : (o.withResolver r').Resolves f t' _ := .noRow columnField rowField
      rw [resolves.eq]
      exact .error _ traces
  | gone columnField rowField gone =>
      have resolves : (o.withResolver r').Resolves f t' _ := .gone columnField rowField gone
      rw [resolves.eq]
      exact .ok rfl traces
  | there columnField rowField sheetField =>
      have resolves : (o.withResolver r').Resolves f t' _ := .there columnField rowField sheetField
      obtain ⟨sheet, traces⟩ := o.resolveSheet_related related noted f (o.resolveFile f t).1.given traces
      rw [resolves.eq, file, sheet]
      exact .ok rfl traces

end Options

end Related

end SheetFormula
