import SheetFormula.Proofs.OpcodeStream

/-!
# Reference tables

How references are read in the opcode stream and in a reference table, and how a formula with a table is
opened:

* **`Options.TargetRead`** — what reading a cell or a range can come to; exactly the bytes of accepted
  references are read (`Options.targetRead_written`, `Options.TargetRead.exists_refs`);
* **`Target.entry`** — an entry of the table; `Options.resolveTargets` — the targets of a table, resolved in
  order;
* **`Options.EntryRead`**, **`Options.TableScan`** — what reading an entry, and scanning a table, can come to.
  Exactly the bytes of some entries are scanned (`Options.tableScan_entries`,
  `Options.TableScan.exists_entries`);
* **`TokenSource.Opens`** — what opening a formula can come to;
* **`TableBounds`** — where the table stands, by the header; **`TokenSource.Serves`** — the source of a
  formula in some data. Exactly the formulas with such bounds and entries are opened
  (`TokenSource.ofCursor_entries`, `TokenSource.serves_of_opened`).
-/

namespace SheetFormula

variable {σ : Type} {o : Options σ} {c c' : Cursor} {t t' : Trace σ}

/-! ## Targets -/

namespace Options

/-- **What reading a cell or a range can come to**, one reference after the other. -/
inductive TargetRead (o : Options σ) (c : Cursor) (t : Trace σ) :
    Payload → Except Stop (Target CellRef) × Cursor × Trace σ → Prop
  | cell {ref : CellRef} {c' : Cursor} {t' : Trace σ} (read : o.RefRead c t (.ok ref, c', t')) :
      TargetRead o c t .cellRef (.ok (.cell ref), c', t')
  | noCell {stop : Stop} {c' : Cursor} {t' : Trace σ} (read : o.RefRead c t (.error stop, c', t')) :
      TargetRead o c t .cellRef (.error stop, c', t')
  | range {first last : CellRef} {c' c'' : Cursor} {t' t'' : Trace σ}
      (read : o.RefRead c t (.ok first, c', t')) (read' : o.RefRead c' t' (.ok last, c'', t'')) :
      TargetRead o c t .rangeRef (.ok (.range first last), c'', t'')
  | noFirst {stop : Stop} {c' : Cursor} {t' : Trace σ} (read : o.RefRead c t (.error stop, c', t')) :
      TargetRead o c t .rangeRef (.error stop, c', t')
  | noLast {first : CellRef} {stop : Stop} {c' c'' : Cursor} {t' t'' : Trace σ}
      (read : o.RefRead c t (.ok first, c', t')) (read' : o.RefRead c' t' (.error stop, c'', t'')) :
      TargetRead o c t .rangeRef (.error stop, c'', t'')

/-- **Reading a cell** comes to one of these. -/
theorem readCell_spec (o : Options σ) (c : Cursor) (t : Trace σ) :
    o.TargetRead c t .cellRef ((o.readRef c t).1.map .cell, (o.readRef c t).2) := by
  have read := o.readRef_spec c t
  generalize o.readRef c t = r at read ⊢
  obtain ⟨stop | ref, c', t'⟩ := r
  · exact .noCell read
  · exact .cell read

/-- **Reading a range** comes to one of these. -/
theorem readRange_spec (o : Options σ) (c : Cursor) (t : Trace σ) :
    o.TargetRead c t .rangeRef
      ((o.readRange c t).1.map fun range => .range range.1 range.2, (o.readRange c t).2) := by
  have read := o.readRef_spec c t
  unfold readRange
  generalize o.readRef c t = r at read ⊢
  obtain ⟨stop | first, c', t'⟩ := r
  · exact .noFirst read
  · -- The second corner is read from where the first one ends, with the names that it left.
    have read' := o.readRef_spec c' t'
    dsimp only at read' ⊢
    generalize o.readRef c' t' = r' at read' ⊢
    obtain ⟨stop | last, c'', t''⟩ := r'
    · exact .noLast read read'
    · exact .range read read'

namespace TargetRead

variable {p : Payload} {r : Except Stop (Target CellRef) × Cursor × Trace σ}

/-- A cell is read in one way. -/
theorem eq_cell (h : o.TargetRead c t .cellRef r) : ((o.readRef c t).1.map .cell, (o.readRef c t).2) = r := by
  cases h with
  | cell read => rw [read.eq]; rfl
  | noCell read => rw [read.eq]; rfl

/-- A range is read in one way. -/
theorem eq_range (h : o.TargetRead c t .rangeRef r) :
    ((o.readRange c t).1.map fun range => .range range.1 range.2, (o.readRange c t).2) = r := by
  unfold readRange
  cases h with
  | range read read' => simp only [read.eq, read'.eq]; rfl
  | noFirst read => simp only [read.eq]; rfl
  | noLast read read' => simp only [read.eq, read'.eq]; rfl

/-- **What a reference keeps, a cell or a range keeps.** -/
theorem keeps {P : Cursor → Trace σ → Prop}
    (kept : ∀ {c t} {r : Except Stop CellRef × Cursor × Trace σ}, o.RefRead c t r → P c t → P r.2.1 r.2.2)
    (h : o.TargetRead c t p r) (start : P c t) : P r.2.1 r.2.2 := by
  cases h with
  | cell read | noCell read | noFirst read => exact kept read start
  | range read read' | noLast read read' => exact kept read' (kept read start)

/-- Reading a cell or a range passes over bytes that are ahead. -/
theorem passes (h : o.TargetRead c t p r) : c.Passes r.2.1 :=
  h.keeps (P := fun c' _ => c.Passes c') (fun read before => before.trans read.passes) (.refl c)

/-- **Where all bytes are there, no access goes astray.** -/
theorem error_of_whole {stop : Stop} (h : o.TargetRead c t p (.error stop, c', t')) (whole : c.Whole) :
    ∃ e, stop = .error e := by
  cases h with
  | noCell read | noFirst read => exact read.error_of_whole whole
  | noLast read read' => exact read'.error_of_whole (read.passes.whole whole)

/-- **Only accepted references are read.** -/
theorem exists_refs {target : Target CellRef} (h : o.TargetRead c t p (.ok target, c', t')) :
    ∃ y : Target o.Ref, y.payload = p ∧ c.rest = y.refs.flatMap Ref.written ++ c'.rest ∧
      c' = c.skip (y.refs.flatMap Ref.written).length ∧
      target = (y.traverse (fun ref => o.reference ref.val) t.names).1 ∧
      t'.names = (y.traverse (fun ref => o.reference ref.val) t.names).2 := by
  cases h with
  | cell read =>
      obtain ⟨r, ahead, rfl, rfl, names⟩ := read.exists_ref
      have written : (Target.cell r).refs.flatMap Ref.written = r.written := by simp [Target.refs]
      exact ⟨.cell r, rfl, by rw [written, ahead], by rw [written], rfl, names⟩
  | range read read' =>
      obtain ⟨first, ahead, rfl, rfl, names⟩ := read.exists_ref
      -- The second corner is resolved with the names that the first one left.
      obtain ⟨last, ahead', rfl, rfl, names'⟩ := read'.exists_ref
      have written : (Target.range first last).refs.flatMap Ref.written = first.written ++ last.written := by
        simp [Target.refs]
      rw [names] at names' ⊢
      refine ⟨.range first last, rfl, ?_, ?_, rfl, names'⟩
      · rw [written, List.append_assoc, ← ahead', ← ahead]
      · rw [written, List.length_append, Cursor.skip_skip]

end TargetRead

/-- **The bytes of accepted references are read as their target.** -/
theorem targetRead_written (y : Target o.Ref) {tail : List UInt8}
    (ahead : c.rest = y.refs.flatMap Ref.written ++ tail) (t : Trace σ) :
    ∃ notes, o.TargetRead c t y.payload (.ok (y.traverse (fun ref => o.reference ref.val) t.names).1,
      c.skip (y.refs.flatMap Ref.written).length,
      ⟨(y.traverse (fun ref => o.reference ref.val) t.names).2, notes⟩) := by
  cases y with
  | cell r =>
      have written : (Target.cell r).refs.flatMap Ref.written = r.written := by simp [Target.refs]
      rw [written] at ahead ⊢
      obtain ⟨notes, read⟩ := refRead_written r ahead t
      exact ⟨notes, .cell read⟩
  | range first last =>
      have written : (Target.range first last).refs.flatMap Ref.written = first.written ++ last.written := by
        simp [Target.refs]
      rw [written, List.append_assoc] at ahead
      rw [written, List.length_append, ← Cursor.skip_skip]
      obtain ⟨notes, read⟩ := refRead_written first ahead t
      obtain ⟨notes', read'⟩ := refRead_written last (Cursor.rest_skip_of_append ahead)
        ⟨(o.reference first.val t.names).2, notes⟩
      exact ⟨notes', .range read read'⟩

end Options

/-! ## Entries -/

/-- **Table entry of a target**: its kind, then its references. -/
def Target.entry : Target o.Ref → List UInt8
  | .cell ref => cellEntry :: ref.written
  | .range first last => rangeEntry :: (first.written ++ last.written)

/-- What an entry of a kind announces. -/
def entryPayload? (kind : UInt8) : Option Payload :=
  if kind = cellEntry then some .cellRef else if kind = rangeEntry then some .rangeRef else none

/-- An entry is a kind that announces its target, and the references of the target. -/
theorem Target.exists_kind (y : Target o.Ref) :
    ∃ kind, entryPayload? kind = some y.payload ∧ y.entry = kind :: y.refs.flatMap Options.Ref.written := by
  cases y with
  | cell ref => exact ⟨cellEntry, rfl, by simp [entry, refs]⟩
  | range first last => exact ⟨rangeEntry, rfl, by simp [entry, refs]⟩

/-- The references of a target, behind a kind that announces it, are its entry. -/
theorem Target.entry_eq (y : Target o.Ref) {kind : UInt8} (announces : entryPayload? kind = some y.payload) :
    y.entry = kind :: y.refs.flatMap Options.Ref.written := by
  unfold entryPayload? at announces
  split at announces
  · next cell =>
    cases y with
    | cell ref => simp [entry, refs, cell]
    | range first last => cases announces
  · split at announces
    · next range =>
      cases y with
      | cell ref => cases announces
      | range first last => simp [entry, refs, range]
    · cases announces

/-- **Resolve the targets of a table** in order, from a state of the names. -/
def Options.resolveTargets (o : Options σ) : List (Target o.Ref) → σ → List (Target CellRef) × σ :=
  threaded (Target.traverse fun ref => o.reference ref.val)

namespace Options

/-- **What reading an entry can come to**: there is no byte for its kind, or the kind is unknown, or it
announces a target, which is read or not. -/
inductive EntryRead (o : Options σ) (c : Cursor) (t : Trace σ) :
    Except Stop (Target CellRef) × Cursor × Trace σ → Prop
  | missing (here : c.data[c.pos]? = none) : EntryRead o c t (.error .fault, c, t)
  | unknown {kind : UInt8} (here : c.data[c.pos]? = some kind) (unknown : entryPayload? kind = none) :
      EntryRead o c t (.error (.error ⟨.entryKind kind, c.pos⟩), c.skip 1, t)
  | target {kind : UInt8} {p : Payload} {r : Except Stop (Target CellRef) × Cursor × Trace σ}
      (here : c.data[c.pos]? = some kind) (announces : entryPayload? kind = some p)
      (read : o.TargetRead (c.skip 1) t p r) : EntryRead o c t r

/-- **Reading an entry** comes to one of these. -/
theorem readEntry_spec (o : Options σ) (c : Cursor) (t : Trace σ) : o.EntryRead c t (o.readEntry c t) := by
  unfold readEntry
  cases here : c.data[c.pos]? with
  | none => exact .missing here
  | some kind =>
      dsimp only
      by_cases cell : kind = cellEntry
      · rw [if_pos cell]
        exact .target here (if_pos cell) (o.readCell_spec (c.skip 1) t)
      · rw [if_neg cell]
        by_cases range : kind = rangeEntry
        · rw [if_pos range]
          exact .target here (by rw [entryPayload?, if_neg cell, if_pos range])
            (o.readRange_spec (c.skip 1) t)
        · rw [if_neg range]
          exact .unknown here (by rw [entryPayload?, if_neg cell, if_neg range])

namespace EntryRead

variable {r : Except Stop (Target CellRef) × Cursor × Trace σ}

/-- An entry is read in one way. -/
theorem eq (h : o.EntryRead c t r) : o.readEntry c t = r := by
  unfold readEntry
  cases h with
  | missing here => simp only [here]
  | @unknown kind here unknown =>
      unfold entryPayload? at unknown
      split at unknown
      · cases unknown
      · next cell =>
        split at unknown
        · cases unknown
        · next range => simp only [here, if_neg cell, if_neg range]
  | @target kind p r here announces read =>
      unfold entryPayload? at announces
      simp only [here]
      split at announces
      · next cell =>
        cases announces
        rw [if_pos cell]
        exact read.eq_cell
      · next cell =>
        split at announces
        · next range =>
          cases announces
          rw [if_neg cell, if_pos range]
          exact read.eq_range
        · cases announces

/-- Behind an entry that was read fewer bytes are announced: it has at least its kind. -/
theorem left_lt {target : Target CellRef} (h : o.EntryRead c t (.ok target, c', t')) : c'.left < c.left := by
  cases h with
  | target here announces read =>
      have limit : c'.limit = c.limit := read.passes.limit_eq
      have further : c.pos + 1 ≤ c'.pos := read.passes.pos_le
      rw [Cursor.left, Cursor.left, limit]
      omega

/-- **Only the entries of accepted references are read.** -/
theorem exists_entry {target : Target CellRef} (h : o.EntryRead c t (.ok target, c', t'))
    (more : (c.pos : Int) < c.limit) :
    ∃ y : Target o.Ref, c.rest = y.entry ++ c'.rest ∧ c' = c.skip y.entry.length ∧
      target = (y.traverse (fun ref => o.reference ref.val) t.names).1 ∧
      t'.names = (y.traverse (fun ref => o.reference ref.val) t.names).2 := by
  cases h with
  | target here announces read =>
      obtain ⟨y, rfl, ahead, rfl, value, names⟩ := read.exists_refs
      have entry := y.entry_eq announces
      refine ⟨y, ?_, ?_, value, names⟩
      · rw [entry, Cursor.rest_of_getElem? more here, ahead, List.cons_append]
      · rw [entry, List.length_cons, Nat.add_comm, ← Cursor.skip_skip]

end EntryRead

/-- **The entry of a target is read as that target.** -/
theorem entryRead_entry (y : Target o.Ref) {tail : List UInt8} (ahead : c.rest = y.entry ++ tail)
    (t : Trace σ) :
    ∃ notes, o.EntryRead c t (.ok (y.traverse (fun ref => o.reference ref.val) t.names).1,
      c.skip y.entry.length,
      ⟨(y.traverse (fun ref => o.reference ref.val) t.names).2, notes⟩) := by
  obtain ⟨kind, announces, entry⟩ := y.exists_kind
  rw [entry] at ahead
  have behind := Cursor.rest_skip_of_append (show c.rest = [kind] ++ _ from ahead)
  obtain ⟨notes, read⟩ := targetRead_written y behind t
  refine ⟨notes, ?_⟩
  rw [entry, List.length_cons, Nat.add_comm, ← Cursor.skip_skip]
  exact .target (Cursor.getElem?_of_rest ahead) announces read

/-! ## Tables -/

/-- **What scanning a table can come to**: entry by entry up to the limit, or to the first that cannot be
read. -/
inductive TableScan (o : Options σ) : Cursor → Trace σ → Except Stop (List (Target CellRef)) × Trace σ → Prop
  | done {c : Cursor} {t : Trace σ} (exhausted : c.limit ≤ c.pos) : TableScan o c t (.ok [], t)
  | stopped {c c' : Cursor} {t t' : Trace σ} {stop : Stop} (more : (c.pos : Int) < c.limit)
      (failed : o.EntryRead c t (.error stop, c', t')) : TableScan o c t (.error stop, t')
  | entry {c c' : Cursor} {t t' t'' : Trace σ} {target : Target CellRef}
      {result : Except Stop (List (Target CellRef))} (more : (c.pos : Int) < c.limit)
      (read : o.EntryRead c t (.ok target, c', t')) (others : TableScan o c' t' (result, t'')) :
      TableScan o c t (result.map (target :: ·), t'')

/-- **Scanning a table** comes to one of these, if there is fuel for each byte. -/
theorem scanTable_spec (o : Options σ) {fuel : Nat} {c : Cursor} (enough : c.left ≤ fuel) (t : Trace σ) :
    o.TableScan c t (o.scanTable fuel c t) := by
  induction fuel generalizing c t with
  | zero => exact .done (by simp only [Cursor.left] at enough; omega)
  | succ fuel ih =>
      rw [scanTable]
      by_cases exhausted : c.limit ≤ c.pos
      · rw [if_pos exhausted]
        exact .done exhausted
      · have more : (c.pos : Int) < c.limit := by omega
        have read := o.readEntry_spec c t
        rw [if_neg exhausted]
        generalize o.readEntry c t = r at read ⊢
        obtain ⟨stop | target, c', t'⟩ := r
        · exact .stopped more read
        · -- The entry took a byte, so the fuel that is left is enough for the others.
          have fewer := read.left_lt
          have others := ih (show c'.left ≤ fuel by omega) t'
          dsimp only
          generalize o.scanTable fuel c' t' = scanned at others ⊢
          obtain ⟨stop | targets, t''⟩ := scanned
          · exact .entry more read others
          · exact .entry more read others

namespace TableScan

/-- A table is scanned in one way, with any fuel that is enough. -/
theorem eq {r : Except Stop (List (Target CellRef)) × Trace σ} (h : o.TableScan c t r) {fuel : Nat}
    (enough : c.left ≤ fuel) : o.scanTable fuel c t = r := by
  induction h generalizing fuel with
  | done exhausted =>
      cases fuel with
      | zero => rfl
      | succ fuel => rw [scanTable, if_pos exhausted]
  | stopped more failed =>
      obtain ⟨fuel, rfl⟩ := Cursor.exists_fuel enough more
      rw [scanTable, if_neg (by omega), failed.eq]
  | @entry c c' t t' t'' target result more read others ih =>
      obtain ⟨fuel, rfl⟩ := Cursor.exists_fuel enough more
      have fewer := read.left_lt
      have scanned := ih (show c'.left ≤ fuel by omega)
      rw [scanTable, if_neg (by omega), read.eq]
      simp only [scanned]
      cases result <;> rfl

/-- **What entries keep, a table keeps.** -/
theorem keeps {P : Trace σ → Prop}
    (kept : ∀ {c t} {r : Except Stop (Target CellRef) × Cursor × Trace σ}, o.EntryRead c t r → P t → P r.2.2)
    {r : Except Stop (List (Target CellRef)) × Trace σ} (h : o.TableScan c t r) (start : P t) : P r.2 := by
  induction h with
  | done exhausted => exact start
  | stopped more failed => exact kept failed start
  | entry more read others ih => exact ih (kept read start)

/-- **Only entries are scanned**: all bytes ahead are those of some, and they are resolved in order. -/
theorem exists_entries {targets : List (Target CellRef)} (h : o.TableScan c t (.ok targets, t')) :
    ∃ table : List (Target o.Ref), c.rest = table.flatMap Target.entry ∧
      targets = (o.resolveTargets table t.names).1 ∧ t'.names = (o.resolveTargets table t.names).2 := by
  generalize result : (Except.ok targets, t') = r at h
  induction h generalizing targets with
  | done exhausted =>
      cases result
      exact ⟨[], Cursor.rest_eq_nil exhausted, rfl, rfl⟩
  | stopped more failed => cases result
  | @entry c c' t₀ t₁ t₂ target scanned more read others ih =>
      obtain ⟨same, rfl⟩ := Prod.mk.inj result
      cases scanned with
      | error stop => cases same
      | ok others' =>
          obtain rfl := Except.ok.inj same
          obtain ⟨table, behind, rfl, names⟩ := ih rfl
          -- The first entry stands ahead, and the others behind it.
          obtain ⟨y, ahead, -, rfl, names'⟩ := read.exists_entry more
          rw [names'] at names ⊢
          refine ⟨y :: table, ?_, ?_, ?_⟩
          · rw [List.flatMap_cons, ahead, behind]
          · rw [resolveTargets, threaded_cons]
          · rw [resolveTargets, threaded_cons]
            exact names

/-- **A scan that fails stops at an entry** behind others that were read. -/
theorem exists_failed {stop : Stop} (h : o.TableScan c t (.error stop, t')) :
    ∃ (table : List (Target o.Ref)) (c' c'' : Cursor) (t'' : Trace σ),
      c.rest = table.flatMap Target.entry ++ c'.rest ∧ c' = c.skip (table.flatMap Target.entry).length ∧
        (c'.pos : Int) < c'.limit ∧ o.EntryRead c' t'' (.error stop, c'', t') := by
  generalize result : (Except.error stop, t') = r at h
  induction h with
  | done exhausted => cases result
  -- The entry that fails is the first one here; those read before are added one by one.
  | @stopped c c' t₀ t₁ stop' more failed =>
      cases result
      exact ⟨[], c, c', t₀, rfl, rfl, more, failed⟩
  | @entry c c₁ t₀ t₁ t₂ target scanned more read others ih =>
      obtain ⟨same, rfl⟩ := Prod.mk.inj result
      cases scanned with
      | ok targets => cases same
      | error stop' =>
          obtain rfl := Except.error.inj same
          obtain ⟨table, c', c'', t'', behind, rfl, more', failed⟩ := ih rfl
          obtain ⟨y, ahead, rfl, -, -⟩ := read.exists_entry more
          refine ⟨y :: table, _, c'', t'', ?_, ?_, more', failed⟩
          · rw [List.flatMap_cons, List.append_assoc, ← behind, ahead]
          · rw [List.flatMap_cons, List.length_append, Cursor.skip_skip]

/-- **Where all bytes are there, no access goes astray.** -/
theorem error_of_whole {stop : Stop} (h : o.TableScan c t (.error stop, t')) (whole : c.Whole) :
    ∃ e, stop = .error e := by
  obtain ⟨table, c', c'', t'', ahead, rfl, more, failed⟩ := h.exists_failed
  have whole' := (Cursor.Passes.block ahead).whole whole
  cases failed with
  | missing here =>
      have := whole'.limit_le
      rw [Array.getElem?_eq_none_iff] at here
      omega
  | unknown here unknown => exact ⟨_, rfl⟩
  | @target kind p r here announces read =>
      have kind := Cursor.Passes.block (show _ = [kind] ++ _ from Cursor.rest_of_getElem? more here)
      exact read.error_of_whole (kind.whole whole')

end TableScan

/-- **Entries are scanned as their targets.** -/
theorem tableScan_entries (whole : c.Whole) {table : List (Target o.Ref)}
    (ahead : c.rest = table.flatMap Target.entry) (t : Trace σ) :
    ∃ notes, o.TableScan c t
      (.ok (o.resolveTargets table t.names).1, ⟨(o.resolveTargets table t.names).2, notes⟩) := by
  induction table generalizing c t with
  | nil => exact ⟨t.notes, .done (whole.limit_le_of_rest ahead)⟩
  | cons y table ih =>
      rw [List.flatMap_cons] at ahead
      -- An entry has at least its kind, so the table is not over.
      have something : c.rest ≠ [] := by
        obtain ⟨kind, -, entry⟩ := y.exists_kind
        simp [ahead, entry]
      obtain ⟨notes, read⟩ := entryRead_entry y ahead t
      obtain ⟨notes', others⟩ :=
        ih ((Cursor.Passes.block ahead).whole whole) (Cursor.rest_skip_of_append ahead)
        ⟨(y.traverse (fun ref => o.reference ref.val) t.names).2, notes⟩
      refine ⟨notes', ?_⟩
      rw [resolveTargets, threaded_cons]
      exact .entry (Cursor.pos_lt_limit something) read others

end Options

/-! ## Opening a formula -/

namespace TokenSource

/-- **Header of a formula**: two words that say where its table starts and ends. -/
structure HeaderAt (formula : Cursor) (first last : UInt16) : Prop where
  /-- The words are ahead. -/
  ahead : formula.rest = Bytes.ofWord first ++ (Bytes.ofWord last ++ (formula.skip headerSize).rest)

/-- **A table in its place**: behind the header, not ending before it starts, nor behind the formula. -/
structure Located (formula : Cursor) (first last : UInt16) : Prop extends HeaderAt formula first last where
  /-- The table stands behind the header. -/
  behind_header : headerSize ≤ first.toNat
  /-- It does not end before it starts. -/
  ordered : first.toNat ≤ last.toNat
  /-- It ends in the formula. -/
  inside : (last.toNat : Int) ≤ formula.limit

/-- **What opening a formula can come to**, by the layout of its references and by its header. -/
inductive Opens (o : Options σ) (formula : Cursor) (t : Trace σ) :
    Except Stop (TokenSource σ) × Trace σ → Prop
  | inline (layout : o.variant.layout = .interleaved) : Opens o formula t (.ok ⟨formula, .inline, none, t⟩, t)
  | unlisted {n : Int64} (layout : o.variant.layout = .unlisted n) :
      Opens o formula t (.error (.error ⟨.layout (.unlisted n), 0⟩), t)
  | noHeader {stop : Stop} (layout : o.variant.layout = .prescanned)
      (failed : formula.take .tableHeader headerSize = .error stop) : Opens o formula t (.error stop, t)
  | outside {first last : UInt16} (layout : o.variant.layout = .prescanned)
      (header : HeaderAt formula first last) (outside : ¬ Located formula first last) :
      Opens o formula t (.error (.error ⟨.tableOutside first.toNat last.toNat formula.limit, 0⟩), t)
  | unscanned {first last : UInt16} {stop : Stop} {t' : Trace σ} (layout : o.variant.layout = .prescanned)
      (located : Located formula first last)
      (scan : o.TableScan (formula.region first.toNat last.toNat) t (.error stop, t')) :
      Opens o formula t (.error stop, t')
  | tabled {first last : UInt16} {targets : List (Target CellRef)} {t' : Trace σ}
      (layout : o.variant.layout = .prescanned) (located : Located formula first last)
      (scan : o.TableScan (formula.region first.toNat last.toNat) t (.ok targets, t')) :
      Opens o formula t (.ok ⟨formula.region headerSize first.toNat,
        .queued (Target.cells targets) (Target.ranges targets),
        some (last.toNat, (formula.limit - last.toNat).toNat), t'⟩, t')

variable {formula : Cursor}

/-- A header that is ahead is taken, and its words are told apart. -/
theorem HeaderAt.taken {first last : UInt16} (h : HeaderAt formula first last) :
    ∃ header, formula.take .tableHeader headerSize = .ok header ∧
      Bytes.word? header 0 = some first ∧ Bytes.word? header 2 = some last := by
  have ahead := h.ahead
  rw [← List.append_assoc] at ahead
  refine ⟨Bytes.ofWord first ++ Bytes.ofWord last, ?_, ?_, ?_⟩
  · exact Cursor.take_append .tableHeader ahead (by simp [Bytes.ofWord, Bytes.written])
  · exact Bytes.word?_append [] (Bytes.ofWord last) first
  · simpa using Bytes.word?_append (Bytes.ofWord first) [] last

/-- The check on the words of a header. -/
theorem HeaderAt.located_iff {first last : UInt16} (h : HeaderAt formula first last) :
    Located formula first last ↔
      ¬ (decide (first.toNat < headerSize) || decide (last.toNat < first.toNat) ||
        decide (formula.limit < last.toNat)) = true := by
  simp only [Bool.or_eq_true, decide_eq_true_eq, not_or, Nat.not_lt, Int.not_lt, and_assoc]
  constructor
  · intro located
    exact ⟨located.behind_header, located.ordered, located.inside⟩
  · rintro ⟨behind_header, ordered, inside⟩
    exact ⟨h, behind_header, ordered, inside⟩

/-- A header stands in both of two formulas that agree. -/
theorem HeaderAt.agrees {formula' : Cursor} {first last : UInt16} (h : HeaderAt formula first last)
    (agrees : formula.Agrees formula') : HeaderAt formula' first last := by
  refine ⟨?_⟩
  rw [agrees.rest_eq, (agrees.skip _).rest_eq]
  exact h.ahead

/-- A table has its place in both of two formulas that agree. -/
theorem Located.agrees {formula' : Cursor} {first last : UInt16} (h : Located formula first last)
    (agrees : formula.Agrees formula') : Located formula' first last :=
  ⟨h.toHeaderAt.agrees agrees, h.behind_header, h.ordered, agrees.limit ▸ h.inside⟩

/-- **A header that was taken** is two words. -/
theorem exists_headerAt {header : List UInt8} (taken : formula.take .tableHeader headerSize = .ok header) :
    ∃ first last, HeaderAt formula first last ∧ Bytes.word? header 0 = some first ∧
      Bytes.word? header 2 = some last := by
  obtain ⟨length, ahead⟩ := Cursor.rest_of_take taken
  obtain ⟨first, last, rest, rfl⟩ := Bytes.exists_two_words (Nat.le_of_eq length.symm)
  obtain rfl : rest = [] := by
    rw [List.length_append, List.length_append, Bytes.length_ofWord, Bytes.length_ofWord] at length
    exact List.eq_nil_of_length_eq_zero (by simp only [headerSize] at length; omega)
  have words : HeaderAt formula first last := ⟨by simpa using ahead⟩
  obtain ⟨header', taken', word, word'⟩ := words.taken
  obtain rfl := Except.ok.inj (taken.symm.trans taken')
  exact ⟨first, last, words, word, word'⟩

/-- No more bytes are announced in a table than lie between its bounds. -/
theorem left_table (formula : Cursor) (first last : UInt16) :
    (formula.region first.toNat last.toNat).left ≤ (last.toNat - first.toNat : Nat) := by
  simp only [Cursor.left, Cursor.region]
  omega

/-- **Opening a formula** comes to one of these. -/
theorem ofCursor_spec (o : Options σ) (formula : Cursor) (t : Trace σ) :
    Opens o formula t (ofCursor o formula t) := by
  unfold ofCursor
  cases layout : o.variant.layout with
  | interleaved => exact .inline layout
  | unlisted n => exact .unlisted layout
  | prescanned =>
      unfold ofPrescanned
      cases taken : formula.take .tableHeader headerSize with
      | error stop => exact .noHeader layout taken
      | ok header =>
          obtain ⟨first, last, header, word, word'⟩ := exists_headerAt taken
          simp only [word, word']
          by_cases located : Located formula first last
          · rw [if_neg (header.located_iff.mp located)]
            have scan := o.scanTable_spec (left_table formula first last) t
            generalize o.scanTable _ _ t = r at scan ⊢
            obtain ⟨stop | targets, t'⟩ := r
            · exact .unscanned layout located scan
            · exact .tabled layout located scan
          · rw [if_pos (header.located_iff.not_left.mp located)]
            exact .outside layout header located

/-- A formula is opened in one way. -/
theorem Opens.eq {r : Except Stop (TokenSource σ) × Trace σ} (h : Opens o formula t r) :
    ofCursor o formula t = r := by
  have scanned {first last : UInt16} {r : Except Stop (List (Target CellRef)) × Trace σ}
      (scan : o.TableScan (formula.region first.toNat last.toNat) t r) :
      o.scanTable (last.toNat - first.toNat) (formula.region first.toNat last.toNat) t = r :=
    scan.eq (left_table formula first last)
  unfold ofCursor
  cases h with
  | inline layout => rw [layout]
  | unlisted layout => rw [layout]
  | noHeader layout failed => simp only [layout, ofPrescanned, failed]
  -- The bounds are refused by the same test that `Located` is about.
  | outside layout header outside =>
      obtain ⟨block, taken, word, word'⟩ := header.taken
      simp only [layout, ofPrescanned, taken, word, word', if_pos (header.located_iff.not_left.mp outside)]
  | unscanned layout located scan =>
      obtain ⟨block, taken, word, word'⟩ := located.toHeaderAt.taken
      simp only [layout, ofPrescanned, taken, word, word', if_neg (located.toHeaderAt.located_iff.mp located),
        scanned scan]
  | tabled layout located scan =>
      obtain ⟨block, taken, word, word'⟩ := located.toHeaderAt.taken
      simp only [layout, ofPrescanned, taken, word, word', if_neg (located.toHeaderAt.located_iff.mp located),
        scanned scan]

/-- Where all bytes are there, a formula that is not opened is in error. -/
theorem Opens.error_of_whole {stop : Stop} (h : Opens o formula t (.error stop, t')) (whole : formula.Whole) :
    ∃ e, stop = .error e := by
  cases h with
  | unlisted layout => exact ⟨_, rfl⟩
  | noHeader layout failed => exact ⟨_, (whole.take_error failed).2⟩
  | outside layout header outside => exact ⟨_, rfl⟩
  | unscanned layout located scan =>
      exact scan.error_of_whole (whole.region located.ordered located.inside)

/-- **Without a table** a formula is opened as it is. -/
theorem ofCursor_interleaved (layout : o.variant.layout = .interleaved) (formula : Cursor) (t : Trace σ) :
    ofCursor o formula t = (.ok ⟨formula, .inline, none, t⟩, t) :=
  (Opens.inline layout).eq

end TokenSource

/-! ## Bounds -/

/-- **Bounds of the reference table** of a formula: the two words at its start, when the table they locate
stands between the header and the end. -/
structure TableBounds (formula : List UInt8) where
  /-- Where the table starts. -/
  first : UInt16
  /-- Where it ends. -/
  last : UInt16
  /-- The start is the first word. -/
  first_eq : Bytes.word? formula 0 = some first
  /-- The end is the second word. -/
  last_eq : Bytes.word? formula 2 = some last
  /-- The table stands behind the header. -/
  behind_header : TokenSource.headerSize ≤ first.toNat
  /-- It does not end before it starts. -/
  ordered : first.toNat ≤ last.toNat
  /-- It ends in the formula. -/
  inside : last.toNat ≤ formula.length

namespace TableBounds

variable {data formula : List UInt8} {stop : Int} (b : TableBounds formula)

/-- **Opcodes of a formula with a table**: from the header to the table. -/
def code : List UInt8 := (formula.take b.first.toNat).drop TokenSource.headerSize

/-- **Bytes of the table**. -/
def table : List UInt8 := (formula.take b.last.toNat).drop b.first.toNat

/-- **Warning about bytes behind the table**. -/
def tailWarning : Option DecodeError :=
  if b.last.toNat < formula.length then some ⟨.trailing, b.last.toNat⟩ else none

/-- **Cursor at the opcodes**, in data that hold the formula. -/
def stream (data : List UInt8) : Cursor :=
  (Cursor.ofData data b.last.toNat).region TokenSource.headerSize b.first.toNat

/-- **Cursor at the table**, in data that hold the formula. -/
def entries (data : List UInt8) : Cursor :=
  (Cursor.ofData data b.last.toNat).region b.first.toNat b.last.toNat

/-- The table ends in the formula, also where it stands in other data. -/
theorem last_le (framed : Framed data stop formula) : (b.last.toNat : Int) ≤ stop := by
  rw [← framed.length_eq]
  exact Int.ofNat_le.mpr b.inside

/-- Bytes behind the table, counted from the end of the formula in the data or by its length. -/
theorem behind_eq (framed : Framed data stop formula) :
    (stop - (b.last.toNat : Int)).toNat = formula.length - b.last.toNat := by
  rw [← framed.length_eq]
  omega

/-- The opcodes are there as a whole. -/
theorem whole_stream (framed : Framed data stop formula) : (b.stream data).Whole := by
  have inside := b.last_le framed
  have ordered := b.ordered
  exact framed.whole.region b.behind_header (show (b.first.toNat : Int) ≤ stop by omega)

/-- The opcodes are ahead of the stream. -/
theorem rest_stream (framed : Framed data stop formula) : (b.stream data).rest = b.code := by
  have inside := b.last_le framed
  have ordered := b.ordered
  have region := Cursor.rest_region (c := .ofData data stop) rfl TokenSource.headerSize
    (show (b.first.toNat : Int) ≤ stop by omega)
  rwa [framed.rest_eq] at region

/-- The table is there as a whole. -/
theorem whole_entries (framed : Framed data stop formula) : (b.entries data).Whole :=
  framed.whole.region b.ordered (b.last_le framed)

/-- The bytes of the table are ahead of its cursor. -/
theorem rest_entries (framed : Framed data stop formula) : (b.entries data).rest = b.table := by
  have region := Cursor.rest_region (c := .ofData data stop) rfl b.first.toNat (b.last_le framed)
  rwa [framed.rest_eq] at region

/-- **The header of a formula in bounds locates its table.** -/
theorem located (framed : Framed data stop formula) :
    TokenSource.Located (.ofData data stop) b.first b.last := by
  have size : TokenSource.headerSize ≤ formula.length :=
    Nat.le_trans b.behind_header (Nat.le_trans b.ordered b.inside)
  obtain ⟨first, last, rest, parts⟩ := Bytes.exists_two_words size
  -- The two words at the start are those of the bounds.
  have firstWord : Bytes.word? formula 0 = some first := by
    rw [parts]
    exact Bytes.word?_append [] _ first
  have lastWord : Bytes.word? formula 2 = some last := by
    rw [parts]
    exact Bytes.word?_append (Bytes.ofWord first) _ last
  obtain rfl := Option.some.inj (b.first_eq.symm.trans firstWord)
  obtain rfl := Option.some.inj (b.last_eq.symm.trans lastWord)
  refine ⟨⟨?_⟩, b.behind_header, b.ordered, b.last_le framed⟩
  have ahead : (Cursor.ofData data stop).rest = Bytes.ofWord b.first ++ Bytes.ofWord b.last ++ rest := by
    rw [framed.rest_eq, List.append_assoc, ← parts]
  have behind := Cursor.rest_skip_of_append ahead
  rw [List.length_append, Bytes.length_ofWord, Bytes.length_ofWord] at behind
  rw [show TokenSource.headerSize = 2 + 2 from rfl, behind, ahead, List.append_assoc]

end TableBounds

/-- **A table in its place is in bounds.** -/
theorem TokenSource.Located.exists_bounds {data formula : List UInt8} {stop : Int} {first last : UInt16}
    (h : Located (.ofData data stop) first last) (framed : Framed data stop formula) :
    ∃ b : TableBounds formula, b.first = first ∧ b.last = last := by
  have ahead := h.ahead
  rw [framed.rest_eq] at ahead
  have inside : last.toNat ≤ formula.length := by
    have inside := h.inside
    rw [show (Cursor.ofData data stop).limit = stop from rfl, ← framed.length_eq] at inside
    omega
  refine ⟨⟨first, last, ?_, ?_, h.behind_header, h.ordered, inside⟩, rfl, rfl⟩
  · rw [ahead]
    exact Bytes.word?_append [] _ first
  · rw [ahead]
    exact Bytes.word?_append (Bytes.ofWord first) _ last

/-! ## Opened formulas -/

namespace TokenSource

variable {data formula : List UInt8} {stop : Int} {names : σ}

/-- **Source of a formula**: the formula itself, or its opcodes and the targets of its table in two queues. -/
inductive Serves (o : Options σ) (names : σ) (data : List UInt8) (stop : Int) (formula : List UInt8) :
    TokenSource σ → Prop
  | inline (layout : o.variant.layout = .interleaved) :
      Serves o names data stop formula ⟨.ofData data stop, .inline, none, ⟨names, []⟩⟩
  | tabled (layout : o.variant.layout = .prescanned) (b : TableBounds formula) {table : List (Target o.Ref)}
      (entries : b.table = table.flatMap Target.entry) {t : Trace σ}
      (resolved : t.names = (o.resolveTargets table names).2) :
      Serves o names data stop formula ⟨b.stream data,
        .queued (Target.cells (o.resolveTargets table names).1)
          (Target.ranges (o.resolveTargets table names).1),
        some (b.last.toNat, formula.length - b.last.toNat), t⟩

/-- **An opened formula has such a source.** -/
theorem serves_of_opened (framed : Framed data stop formula) {source : TokenSource σ} {t : Trace σ}
    (opened : ofCursor o (.ofData data stop) ⟨names, []⟩ = (.ok source, t)) :
    Serves o names data stop formula source ∧ t = source.trace := by
  have opens := ofCursor_spec o (.ofData data stop) ⟨names, []⟩
  rw [opened] at opens
  cases opens with
  | inline layout => exact ⟨.inline layout, rfl⟩
  | @tabled first last targets t layout located scan =>
      obtain ⟨b, rfl, rfl⟩ := located.exists_bounds framed
      obtain ⟨table, entries, rfl, resolved⟩ := scan.exists_entries
      have ahead : (b.entries data).rest = table.flatMap Target.entry := entries
      rw [b.rest_entries framed] at ahead
      refine ⟨?_, rfl⟩
      show Serves o names data stop formula ⟨_, _, some (_, (stop - (b.last.toNat : Int)).toNat), t⟩
      rw [b.behind_eq framed]
      exact .tabled layout b ahead resolved

/-- The stream of a source is there as a whole. -/
theorem Serves.whole {source : TokenSource σ} (h : Serves o names data stop formula source)
    (framed : Framed data stop formula) : source.code.Whole := by
  cases h with
  | inline layout => exact framed.whole
  | tabled layout b entries resolved => exact b.whole_stream framed

/-- **Entries in bounds are opened**, with the targets of the entries in two queues. -/
theorem ofCursor_entries (framed : Framed data stop formula) (layout : o.variant.layout = .prescanned)
    (b : TableBounds formula) {table : List (Target o.Ref)} (h : b.table = table.flatMap Target.entry)
    (names : σ) :
    ∃ t, t.names = (o.resolveTargets table names).2 ∧ ofCursor o (.ofData data stop) ⟨names, []⟩ =
      (.ok ⟨b.stream data,
        .queued (Target.cells (o.resolveTargets table names).1)
          (Target.ranges (o.resolveTargets table names).1),
        some (b.last.toNat, formula.length - b.last.toNat), t⟩, t) := by
  have ahead : (b.entries data).rest = table.flatMap Target.entry := by rw [b.rest_entries framed, h]
  obtain ⟨notes, scan⟩ := o.tableScan_entries (b.whole_entries framed) ahead ⟨names, []⟩
  refine ⟨⟨_, notes⟩, rfl, ?_⟩
  rw [← b.behind_eq framed]
  exact (Opens.tabled layout (b.located framed) scan).eq

end TokenSource

end SheetFormula
