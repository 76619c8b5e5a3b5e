import SheetFormula.Proofs.LockstepRun
import SheetFormula.Proofs.MachineRun

/-!
# Bounds of the streams

Where a decoder reads, in terms of the data that it was given. Each part of a formula is read from all of the
data, up to a limit of its own:

* **`Cursor.Within`** — a cursor that stands in some data, before a limit in them; what readers pass over does
  not lead out of it (`Cursor.Within.passes`);
* **`TokenSource.within_of_opened`**, **`Machine.Visits.within`** — an opened formula is read from such a
  cursor, and all machines that a run passes stand at one;
* **`decodeFormula_agrees`** — data that are the same before the end are decoded alike, because each single
  read is;
* **`decode_before_end`** — decoding does not depend on the bytes behind the end.
-/

namespace SheetFormula

variable {σ : Type} {data : List UInt8} {limit : Nat}

/-! ## Cursors in some data -/

/-- **A cursor stands in some data**: it has all of them, and its limit lies in them and is not passed. -/
structure Cursor.Within (data : List UInt8) (limit : Nat) (c : Cursor) : Prop where
  /-- It has all of the data. -/
  bytes : c.data.toList = data
  /-- It is read up to the limit. -/
  limit_eq : c.limit = limit
  /-- The position is not behind the limit. -/
  pos_le : c.pos ≤ limit
  /-- The limit lies in the data. -/
  inside : limit ≤ data.length

namespace Cursor.Within

variable {c c' : Cursor}

/-- The bytes ahead are those of the data, from the position up to the limit. -/
theorem rest_eq (h : c.Within data limit) : c.rest = (data.take limit).drop c.pos := by
  have left : c.left.toNat = limit - c.pos := by
    rw [Cursor.left, h.limit_eq]
    omega
  rw [rest, h.bytes, left, List.drop_take]

/-- As many bytes are ahead as stand before the limit. -/
theorem length_eq (h : c.Within data limit) : c.pos + c.rest.length = limit := by
  have pos := h.pos_le
  have inside := h.inside
  rw [h.rest_eq, List.length_drop, List.length_take]
  omega

/-- A byte ahead is a byte of the data before the limit. -/
theorem getElem? (h : c.Within data limit) {i : Nat} {b : UInt8} (here : c.rest[i]? = some b) :
    c.pos + i < limit ∧ data[c.pos + i]? = some b := by
  have before : c.pos + i < limit := by
    have := (List.getElem?_eq_some_iff.mp here).1
    have := h.length_eq
    omega
  refine ⟨before, ?_⟩
  rwa [h.rest_eq, List.getElem?_drop, List.getElem?_take_of_lt before] at here

/-- All bytes up to the limit are there. -/
theorem whole (h : c.Within data limit) : c.Whole := by
  have inside := h.inside
  rw [← h.bytes, Array.length_toList] at inside
  refine ⟨?_, ?_⟩
  · rw [h.limit_eq]
    exact Int.ofNat_le.mpr h.pos_le
  · rw [h.limit_eq]
    exact Int.ofNat_le.mpr inside

/-- **Behind bytes that were read** the cursor still stands in the data. -/
theorem passes (h : c.Within data limit) (read : c.Passes c') : c'.Within data limit := by
  obtain ⟨n, there, rfl⟩ := read
  have length := h.length_eq
  exact ⟨h.bytes, h.limit_eq, show c.pos + n ≤ limit by omega, h.inside⟩

end Cursor.Within

/-! ## Opened formulas -/

/-- The start of some data stands in them. -/
theorem Framed.within {formula : List UInt8} {stop : Int} (framed : Framed data stop formula) :
    (Cursor.ofData data stop).Within data stop.toNat where
  bytes := rfl
  limit_eq := (Int.toNat_of_nonneg framed.start).symm
  pos_le := Nat.zero_le _
  inside := by
    have inside := framed.inside
    omega

/-- **An opened formula** is read within the bytes before its end: all of them, or those before its table. -/
theorem TokenSource.within_of_opened {o : Options σ} {formula : List UInt8} {stop : Int}
    (framed : Framed data stop formula) {names : σ} {source : TokenSource σ} {t : Trace σ}
    (opened : ofCursor o (.ofData data stop) ⟨names, []⟩ = (.ok source, t)) :
    ∃ limit ≤ stop.toNat, source.code.Within data limit := by
  cases (serves_of_opened framed opened).1 with
  | inline layout => exact ⟨stop.toNat, Nat.le_refl _, framed.within⟩
  | tabled layout b entries resolved =>
      have last := b.last_le framed
      have ordered := b.ordered
      have inside := framed.inside
      exact ⟨b.first.toNat, by omega, rfl, rfl, b.behind_header, by omega⟩

/-- **Along a run** the machines stand in the data. -/
theorem Machine.Visits.within {o : Options σ} {page : CodePage} {m : Machine σ} {p : Progress σ}
    (h : Visits o page m p) (start : m.source.code.Within data limit) :
    p.machine.source.code.Within data limit :=
  start.passes h.passes

/-! ## Bytes behind the end -/

/-- **Formulas are decoded alike** in data that agree up to the end. -/
theorem decodeFormula_agrees (o : Options σ) (page : CodePage) (names : σ) {data' : List UInt8} {stop : Int}
    (agrees : (Cursor.ofData data stop).Agrees (.ofData data' stop))
    (whole : (Cursor.ofData data stop).Whole) :
    decodeFormula o page names data stop = decodeFormula o page names data' stop := by
  have related : Resolver.Relates Eq o.resolver o.resolver := by
    rintro s _ rfl key
    exact ⟨rfl, rfl⟩
  obtain ⟨outcome, log, left⟩ := decodeFormula_answered o page related (rfl : names = names) agrees whole
  exact Run.ext outcome log left

/-- **A rejected formula is dumped** as it is. -/
theorem Framed.dump_of_rejected {o : Options σ} {page : CodePage} {names : σ} {formula : List UInt8}
    {stop : Int} (framed : Framed data stop formula) {e : DecodeError} {notes : List Note} {dump : List UInt8}
    (h : (decodeFormula o page names data stop).outcome = .error (.rejected e notes dump)) :
    dump = formula := by
  have spec := decodeFormula_spec o page names data stop
  generalize decodeFormula o page names data stop = run at spec h
  -- Whichever way it failed, the dump was made from the data up to the end.
  have made {notes' : List Note} {stack : OperandStack} {last : Option UInt8} {reason : Stop}
      (failed : Failure.ofStop data stop notes' stack last reason = .rejected e notes dump) :
      dump = formula := by
    obtain ⟨-, -, window⟩ := Failure.ofStop_eq_rejected_iff.mp failed
    exact Option.some.inj (window.symm.trans framed.dump_eq)
  cases spec with
  | unopened unopened => exact made (Except.error.inj h)
  | decoded opened runs => cases h
  | failed opened runs => exact made (Except.error.inj h)

/-- **Only the bytes before the end are looked at.** Put any bytes behind the end of a formula, or any others:
it is decoded to the same instructions, warning and notes, or rejected with the same error, notes and dump,
with the same log and the same questions for names. The dump is the formula itself. Every machine of the run
has all of the data at hand, but it stands before a limit that is not behind the end. -/
theorem decode_before_end (o : Options σ) (names : σ) (data : List UInt8) {stop : Int} (start : 0 ≤ stop)
    (inside : stop ≤ data.length) (behind behind' : List UInt8) :
    decode o names (data.take stop.toNat ++ behind) stop =
      decode o names (data.take stop.toNat ++ behind') stop ∧
      (∀ e notes dump, (decode o names (data.take stop.toNat ++ behind) stop).outcome =
          .error (.rejected e notes dump) → dump = data.take stop.toNat) ∧
      ∀ page source t, CodePage.ofName? o.variant.charset = some page →
        TokenSource.ofCursor o (.ofData (data.take stop.toNat ++ behind) stop) ⟨names, []⟩ = (.ok source, t) →
        ∀ p, Machine.Visits o page { source } p →
          ∃ limit ≤ stop.toNat, p.machine.source.code.Within (data.take stop.toNat ++ behind) limit := by
  have length : (data.take stop.toNat).length = stop.toNat := by
    rw [List.length_take]
    omega
  -- Whatever stands behind the end, the formula is what stands before it.
  have framed : ∀ suffix, Framed (data.take stop.toNat ++ suffix) stop (data.take stop.toNat) := by
    intro suffix
    refine ⟨start, ?_, List.take_left' length⟩
    rw [List.length_append]
    omega
  have agrees : (Cursor.ofData (data.take stop.toNat ++ behind) stop).Agrees
      (.ofData (data.take stop.toNat ++ behind') stop) :=
    Cursor.agrees_ofData ((framed behind').bytes.trans (framed behind).bytes.symm)
  refine ⟨?_, ?_, ?_⟩
  · cases known : CodePage.ofName? o.variant.charset with
    | none => rw [(framed behind).decode_unknown known, (framed behind').decode_unknown known]
    | some page =>
        rw [(framed behind).decode_eq known, (framed behind').decode_eq known]
        exact decodeFormula_agrees o page names agrees (framed behind).whole
  · intro e notes dump rejected
    cases known : CodePage.ofName? o.variant.charset with
    | none =>
        rw [(framed behind).decode_unknown known] at rejected
        cases rejected
    | some page =>
        rw [(framed behind).decode_eq known] at rejected
        exact (framed behind).dump_of_rejected rejected
  · intro page source t known opened p visits
    obtain ⟨limit, before, within⟩ := TokenSource.within_of_opened (framed behind) opened
    exact ⟨limit, before, visits.within within⟩

/-- A text whose zero byte stands behind the end has no end there either. -/
theorem decode_before_end_text :
    decode ⟨.wk1, {}, Names.none.resolver⟩ () ([0x06, 0x61] ++ [0x00, 0x03]) 2 =
        decode ⟨.wk1, {}, Names.none.resolver⟩ () ([0x06, 0x61] ++ []) 2 ∧
      (decode ⟨.wk1, {}, Names.none.resolver⟩ () ([0x06, 0x61] ++ [0x00, 0x03]) 2).outcome =
        .error (.rejected ⟨.text .unterminated, 1⟩ [.failure .truncatedStream none 0] [0x06, 0x61]) :=
  ⟨(decode_before_end ⟨.wk1, {}, Names.none.resolver⟩ () [0x06, 0x61, 0x00, 0x03]
    (show (0 : Int) ≤ 2 by decide) (by decide) [0x00, 0x03] []).1, by decide +kernel⟩

end SheetFormula
