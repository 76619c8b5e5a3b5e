import SheetFormula.Proofs.MachineMoves

/-!
# Notes of the readers

The readers of a formula note names that nobody knows, and nothing else; in particular they tell of no
operand:

* **`Note.Plain`**, **`Trace.Plain`** — a note that tells of no operand, and a trace of such notes;
* **`Options.resolve_plain`**, **`Options.EntryRead.plain`** — references and table entries leave a trace
  plain, whether they are read or not;
* **`TokenSource.Opens.plain`**, **`TokenSource.Hands.plain`** — so do the sources of a formula.
-/

namespace SheetFormula

variable {σ : Type}

/-- **Plain note**: it tells of no operand. -/
def Note.Plain (n : Note) : Prop := ∀ index list, n ≠ .operand index list

/-- **Plain trace**: no operand has been noted. -/
def Trace.Plain (t : Trace σ) : Prop := ∀ n ∈ t.notes, n.Plain

/-- At the start nothing has been noted. -/
theorem Trace.plain_start (names : σ) : (⟨names, []⟩ : Trace σ).Plain := by
  intro n mem
  cases mem

/-- A plain note keeps a trace plain. -/
theorem Trace.Plain.cons {t : Trace σ} (h : t.Plain) {n : Note} (plain : n.Plain) (names : σ) :
    (⟨names, n :: t.notes⟩ : Trace σ).Plain := List.forall_mem_cons.mpr ⟨plain, h⟩

/-- A name that nobody knows is noted, and no operand with it. -/
theorem Trace.Plain.nameOf {t : Trace σ} (h : t.Plain) (resolver : Resolver σ) (key : NameKey) :
    (t.nameOf resolver key).2.Plain := by
  have missing : key.missing.Plain := by
    intro index list
    cases key <;> simp [NameKey.missing]
  unfold Trace.nameOf
  split
  · exact h
  · next s _ => exact h.cons missing s

namespace Options

/-- Resolving a reference notes no operand. -/
theorem resolve_plain (o : Options σ) (f : RefFields) {t : Trace σ} (h : t.Plain) :
    (o.resolve f t).2.Plain :=
  (o.resolve_spec f t).keeps (fun key plain => plain.nameOf o.resolver key) h

variable {o : Options σ} {c : Cursor} {t : Trace σ}

/-- Reading a reference notes no operand. -/
theorem RefRead.plain {r : Except Stop CellRef × Cursor × Trace σ} (h : o.RefRead c t r) (plain : t.Plain) :
    r.2.2.Plain := by
  cases h with
  | missing failed => exact plain
  | @accepted f ref t' fields resolved | @malformed f field t' fields resolved =>
      have after := o.resolve_plain f plain
      rwa [resolved] at after

/-- Reading a table entry notes no operand. -/
theorem EntryRead.plain {r : Except Stop (Target CellRef) × Cursor × Trace σ} (h : o.EntryRead c t r)
    (plain : t.Plain) : r.2.2.Plain := by
  cases h with
  | missing here => exact plain
  | unknown here unknown => exact plain
  | target here announces read => exact read.keeps (P := fun _ t => t.Plain) RefRead.plain plain

end Options

namespace TokenSource

variable {o : Options σ}

/-- **Opening a formula notes no operand**, whether it succeeds or not. -/
theorem Opens.plain {formula : Cursor} {t : Trace σ} {r : Except Stop (TokenSource σ) × Trace σ}
    (h : Opens o formula t r) (plain : t.Plain) :
    r.2.Plain ∧ ∀ source, r.1 = .ok source → source.trace.Plain := by
  cases h with
  | inline layout =>
      refine ⟨plain, fun source opened => ?_⟩
      cases opened
      exact plain
  | unlisted layout => exact ⟨plain, fun source opened => by cases opened⟩
  | noHeader layout failed => exact ⟨plain, fun source opened => by cases opened⟩
  | outside layout header outside => exact ⟨plain, fun source opened => by cases opened⟩
  -- Scanning the table may note missing names, and nothing else is noted before the run.
  | unscanned layout located scan =>
      exact ⟨scan.keeps Options.EntryRead.plain plain, fun source opened => by cases opened⟩
  | tabled layout located scan =>
      have scanned := scan.keeps Options.EntryRead.plain plain
      refine ⟨scanned, fun source opened => ?_⟩
      cases opened
      exact scanned

/-- **Taking a reference operand notes none.** -/
theorem Hands.plain {s : TokenSource σ} {p : Payload} {r : Except Stop (Target CellRef) × TokenSource σ}
    (h : s.Hands o p r) (plain : s.trace.Plain) : r.2.trace.Plain := by
  cases h with
  | inline supply read => exact read.keeps (P := fun _ t => t.Plain) Options.RefRead.plain plain
  | cell | noCell | range | noRange => exact plain

end TokenSource

end SheetFormula
