import SheetFormula.Token

/-!
# Bytes ahead of a cursor

A cursor stands in data that may go on behind its limit, or be over before it. What its readers get to see are
the bytes from its position up to the limit:

* **`Cursor.rest`** — the bytes ahead; `Cursor.Whole` — all bytes up to the limit are there;
* **`Cursor.Takes`**, **`Cursor.take_spec`** — what taking a part can come to: a block of the bytes ahead, an
  error because the limit is too near, or an access behind the data;
* **`TextLiteral.raw?_eq_some_iff`**, **`TextLiteral.raw?_eq_none_iff`** — a literal is read up to the first
  zero among some bytes, if there is one;
* **`Cursor.Passes`** — a cursor further on, over bytes that were ahead;
* **`Cursor.Agrees`** — cursors in data that are the same before a common limit. Each single read gives the
  same at both: `Cursor.Agrees.take`, `Cursor.Agrees.getElem?`, and for a text literal
  `Cursor.Agrees.rest_eq`.
-/

namespace SheetFormula

/-! ## Blocks of some data -/

namespace Bytes

variable {data data' : Array UInt8} {start n : Nat}

/-- A byte at an index is the first of those from there on. -/
theorem drop_of_getElem? {b : UInt8} (here : data[start]? = some b) :
    data.toList.drop start = b :: data.toList.drop (start + 1) := by
  obtain ⟨inside, rfl⟩ := Array.getElem?_eq_some_iff.mp here
  rw [← Array.getElem_toList]
  exact List.drop_eq_getElem_cons (by simpa using inside)

/-- Without a byte at an index there is none from there on. -/
theorem drop_of_getElem?_none (here : data[start]? = none) : data.toList.drop start = [] := by
  rw [Array.getElem?_eq_none_iff] at here
  exact List.drop_eq_nil_of_le (by simpa using here)

/-- **A block is read where it stands.** -/
theorem block?_eq_some_iff {block : List UInt8} :
    block? data start n = some block ↔ block.length = n ∧ block <+: data.toList.drop start := by
  induction n generalizing start block with
  | zero =>
      rw [block?, Option.some.injEq, List.length_eq_zero_iff]
      constructor
      · rintro rfl
        exact ⟨rfl, List.nil_prefix⟩
      · rintro ⟨rfl, -⟩
        rfl
  | succ n ih =>
      rw [block?]
      -- A block starts with the byte here; the others are the block behind it.
      cases here : data[start]? with
      | none =>
          rw [drop_of_getElem?_none here, List.prefix_nil]
          simp only [reduceCtorEq, false_iff, not_and]
          rintro length rfl
          simp at length
      | some b =>
          rw [drop_of_getElem? here]
          constructor
          · intro read
            cases others : block? data (start + 1) n with
            | none => simp [others] at read
            | some tail =>
                simp only [others, Option.some.injEq] at read
                subst read
                obtain ⟨length, ahead⟩ := ih.mp others
                exact ⟨congrArg (· + 1) length, List.cons_prefix_cons.mpr ⟨rfl, ahead⟩⟩
          · rintro ⟨length, ahead⟩
            cases block with
            | nil => simp at length
            | cons first tail =>
                obtain ⟨rfl, others⟩ := List.cons_prefix_cons.mp ahead
                rw [ih.mpr ⟨Nat.succ.inj length, others⟩]

/-- **A block that is not there** reaches behind the data. -/
theorem size_lt_of_block? (h : block? data start n = none) : data.size < start + n := by
  refine Nat.lt_of_not_le fun there => ?_
  have length : ((data.toList.drop start).take n).length = n := by
    rw [List.length_take, List.length_drop, Array.length_toList]
    omega
  rw [block?_eq_some_iff.mpr ⟨length, List.take_prefix n _⟩] at h
  cases h

/-- **Only the bytes of a block are looked at.** -/
theorem block?_congr (same : ∀ i, start ≤ i → i < start + n → data'[i]? = data[i]?) :
    block? data' start n = block? data start n := by
  induction n generalizing start with
  | zero => rfl
  | succ n ih =>
      have others : block? data' (start + 1) n = block? data (start + 1) n :=
        ih fun i behind before => same i (by omega) (by omega)
      rw [block?, block?, same start (Nat.le_refl _) (by omega), others]

end Bytes

/-! ## Text literals -/

namespace TextLiteral

variable {data data' : Array UInt8} {start n : Nat}

/-- **A literal ends at the first zero byte**, which is among the bytes that may be read. -/
theorem raw?_eq_some_iff {raw : List UInt8} :
    raw? data start n = some raw ↔ 0 ∉ raw ∧ raw ++ [0] <+: (data.toList.drop start).take n := by
  induction n generalizing start raw with
  | zero => simp [raw?]
  | succ n ih =>
      rw [raw?]
      cases here : data[start]? with
      | none => simp [Bytes.drop_of_getElem?_none here]
      | some b =>
          rw [Bytes.drop_of_getElem? here, List.take_succ_cons]
          by_cases zero : b = 0
          · -- The literal is over before it has a byte.
            simp only [if_pos zero, Option.some.injEq]
            constructor
            · rintro rfl
              exact ⟨List.not_mem_nil, List.cons_prefix_cons.mpr ⟨zero.symm, List.nil_prefix⟩⟩
            · rintro ⟨free, ahead⟩
              cases raw with
              | nil => rfl
              | cons first tail =>
                  obtain ⟨rfl, -⟩ := List.cons_prefix_cons.mp ahead
                  simp [zero] at free
          · simp only [if_neg zero, Option.map_eq_some_iff, ih]
            constructor
            · rintro ⟨tail, ⟨free, ahead⟩, rfl⟩
              exact ⟨by simpa [free] using Ne.symm zero, List.cons_prefix_cons.mpr ⟨rfl, ahead⟩⟩
            · rintro ⟨free, ahead⟩
              cases raw with
              | nil => exact absurd (List.cons_prefix_cons.mp ahead).1.symm zero
              | cons first tail =>
                  obtain ⟨rfl, others⟩ := List.cons_prefix_cons.mp ahead
                  exact ⟨tail, ⟨fun mem => free (List.mem_cons_of_mem _ mem), others⟩, rfl⟩

/-- **Without a zero byte** there is no literal. -/
theorem raw?_eq_none_iff : raw? data start n = none ↔ 0 ∉ (data.toList.drop start).take n := by
  induction n generalizing start with
  | zero => simp [raw?]
  | succ n ih =>
      rw [raw?]
      cases here : data[start]? with
      | none => simp [Bytes.drop_of_getElem?_none here]
      | some b =>
          rw [Bytes.drop_of_getElem? here, List.take_succ_cons, List.mem_cons]
          by_cases zero : b = 0
          · simp [zero]
          · simp only [if_neg zero, Option.map_eq_none_iff, ih, Ne.symm zero, false_or]

end TextLiteral

/-! ## Bytes ahead -/

namespace Cursor

variable {c c' : Cursor}

/-- **Bytes ahead**: those from the position up to the limit, as far as the data reach. -/
def rest (c : Cursor) : List UInt8 := (c.data.toList.drop c.pos).take c.left.toNat

/-- Bytes that are passed over in two goes add up. -/
theorem skip_skip (c : Cursor) (m n : Nat) : (c.skip m).skip n = c.skip (m + n) := by
  simp only [skip, Nat.add_assoc]

/-- The bytes passed over are no longer ahead. -/
theorem rest_skip (c : Cursor) (n : Nat) : (c.skip n).rest = c.rest.drop n := by
  have left : (c.skip n).left.toNat = c.left.toNat - n := by
    simp only [Cursor.left, skip]
    omega
  rw [rest, left, rest, List.drop_take, List.drop_drop]
  rfl

/-- Behind a block, what stood behind it is ahead. -/
theorem rest_skip_of_append {block tail : List UInt8} (ahead : c.rest = block ++ tail) :
    (c.skip block.length).rest = tail := by
  rw [rest_skip, ahead, List.drop_left]

/-- **All bytes ahead stand before the limit** and in the data. -/
theorem pos_add_length_rest_le (something : c.rest ≠ []) :
    (c.pos + c.rest.length : Int) ≤ c.limit ∧ c.pos + c.rest.length ≤ c.data.size := by
  have some := List.length_pos_iff.mpr something
  have length : c.rest.length = min c.left.toNat (c.data.size - c.pos) := by
    rw [rest, List.length_take, List.length_drop, Array.length_toList]
  simp only [left] at length
  omega

/-- With a byte ahead, the limit is not reached. -/
theorem pos_lt_limit (something : c.rest ≠ []) : (c.pos : Int) < c.limit := by
  have some := List.length_pos_iff.mpr something
  have := pos_add_length_rest_le something
  omega

/-- At the limit no byte is ahead. -/
theorem rest_eq_nil (exhausted : c.limit ≤ c.pos) : c.rest = [] := by
  have nothing : c.left.toNat = 0 := by
    rw [left]
    omega
  rw [rest, nothing, List.take_zero]

/-- A byte at the position is ahead, unless the limit is reached. -/
theorem rest_of_getElem? {b : UInt8} (more : (c.pos : Int) < c.limit) (here : c.data[c.pos]? = some b) :
    c.rest = b :: (c.skip 1).rest := by
  have some : c.left.toNat = (c.skip 1).left.toNat + 1 := by
    simp only [left, skip]
    omega
  rw [rest, some, Bytes.drop_of_getElem? here, List.take_succ_cons]
  rfl

/-- The first byte ahead stands at the position. -/
theorem getElem?_of_rest {b : UInt8} {tail : List UInt8} (ahead : c.rest = b :: tail) :
    c.data[c.pos]? = some b := by
  cases here : c.data[c.pos]? with
  | none =>
      rw [rest, Bytes.drop_of_getElem?_none here, List.take_nil] at ahead
      cases ahead
  | some b' =>
      rw [rest_of_getElem? (pos_lt_limit (by simp [ahead])) here] at ahead
      rw [(List.cons.inj ahead).1]

/-- **All bytes are there** up to the limit, which is not passed. -/
structure Whole (c : Cursor) : Prop where
  /-- The limit is not passed. -/
  pos_le : (c.pos : Int) ≤ c.limit
  /-- The data reach as far as the limit. -/
  limit_le : c.limit ≤ c.data.size

namespace Whole

/-- As many bytes are ahead as are announced. -/
theorem length_rest (whole : c.Whole) : (c.rest.length : Int) = c.left := by
  have pos := whole.pos_le
  have limit := whole.limit_le
  rw [rest, List.length_take, List.length_drop, Array.length_toList, left]
  omega

/-- No byte is ahead only at the limit. -/
theorem limit_le_of_rest (whole : c.Whole) (nothing : c.rest = []) : c.limit ≤ c.pos := by
  have length := whole.length_rest
  rw [nothing, List.length_nil, left] at length
  omega

/-- Passing over bytes that are ahead does not pass the limit. -/
theorem skip (whole : c.Whole) {n : Nat} (there : n ≤ c.rest.length) : (c.skip n).Whole := by
  refine ⟨?_, whole.limit_le⟩
  have length := whole.length_rest
  rw [left] at length
  show ((c.pos + n : Nat) : Int) ≤ c.limit
  omega

end Whole

/-- Ahead of the start of some data are the bytes before the end. -/
theorem rest_ofData (data : List UInt8) (stop : Int) : (ofData data stop).rest = data.take stop.toNat := by
  simp [rest, ofData, left]

/-- **A region** of some data holds the bytes from its start up to its end. -/
theorem rest_region (start : c.pos = 0) (first : Nat) {last : Nat} (inside : (last : Int) ≤ c.limit) :
    (c.region first last).rest = (c.rest.take last).drop first := by
  have size : ((last : Int) - first).toNat = last - first := by omega
  have before : min last (c.limit - 0).toNat = last := by omega
  simp only [rest, region, left, start, List.drop_zero, size, List.take_take, Int.natCast_zero, before]
  rw [List.drop_take]

/-- A region between two positions is there as a whole. -/
theorem Whole.region (whole : c.Whole) {first last : Nat} (ordered : first ≤ last)
    (inside : (last : Int) ≤ c.limit) :
    (c.region first last).Whole := by
  have := whole.limit_le
  exact ⟨Int.ofNat_le.mpr ordered, by simp only [Cursor.region]; omega⟩

/-- Before the limit there is fuel left, if there was some for each byte. -/
theorem exists_fuel {fuel : Nat} (enough : c.left ≤ fuel) (more : (c.pos : Int) < c.limit) :
    ∃ n, fuel = n + 1 := by
  rw [left] at enough
  exact ⟨fuel - 1, by omega⟩

/-! ## Taking parts -/

/-- **What taking a part can come to**: a block of the bytes ahead, too few bytes before the limit, or an
access behind the data although the limit was respected. -/
inductive Takes (part : Part) (n : Nat) (c : Cursor) : Except Stop (List UInt8) → Prop
  | block {block : List UInt8} (length : block.length = n) (ahead : c.rest = block ++ (c.skip n).rest) :
      Takes part n c (.ok block)
  | short (few : c.limit < c.pos + n) : Takes part n c (.error (.error ⟨.short n part c.left, c.pos⟩))
  | fault (missing : (c.data.size : Int) < c.limit) : Takes part n c (.error .fault)

/-- **A part is taken from the bytes ahead**, or not at all. -/
theorem take_spec (part : Part) (n : Nat) (c : Cursor) : Takes part n c (c.take part n) := by
  unfold take
  split
  · next few => exact .short few
  · next enough =>
    cases read : Bytes.block? c.data c.pos n with
    | none =>
        have := Bytes.size_lt_of_block? read
        exact .fault (by omega)
    | some block =>
        obtain ⟨length, ahead⟩ := Bytes.block?_eq_some_iff.mp read
        refine .block length ?_
        -- The limit lies behind the block, so the block is among the bytes ahead.
        have front : block <+: c.rest := by
          rw [rest, List.prefix_take_iff, left]
          exact ⟨ahead, by omega⟩
        obtain ⟨tail, parts⟩ := front
        rw [rest_skip, ← parts, ← length, List.drop_left]

/-- **What is taken** is a block of the bytes ahead. -/
theorem rest_of_take {part : Part} {n : Nat} {block : List UInt8} (taken : c.take part n = .ok block) :
    block.length = n ∧ c.rest = block ++ (c.skip n).rest := by
  have taking := take_spec part n c
  rw [taken] at taking
  cases taking with
  | block length ahead => exact ⟨length, ahead⟩

/-- **What cannot be taken** would end behind the limit, if all bytes before it are there. -/
theorem Whole.take_error (whole : c.Whole) {part : Part} {n : Nat} {stop : Stop}
    (failed : c.take part n = .error stop) :
    c.left < n ∧ stop = .error ⟨.short n part c.left, c.pos⟩ := by
  have taking := take_spec part n c
  rw [failed] at taking
  cases taking with
  | short few => exact ⟨by rw [left]; omega, rfl⟩
  | fault missing => exact absurd whole.limit_le (by omega)

/-- **A block that is ahead is taken.** -/
theorem take_append (part : Part) {block tail : List UInt8} (ahead : c.rest = block ++ tail)
    (some : block ≠ []) :
    c.take part block.length = .ok block := by
  have something : c.rest ≠ [] := by simp [ahead, some]
  have there := pos_add_length_rest_le something
  have front : block <+: c.data.toList.drop c.pos := by
    have whole : block <+: c.rest := ⟨tail, ahead.symm⟩
    exact whole.trans (List.take_prefix _ _)
  rw [ahead, List.length_append] at there
  rw [take, if_neg (by omega), Bytes.block?_eq_some_iff.mpr ⟨rfl, front⟩]

/-! ## Further on -/

/-- **Further on**: over bytes that were ahead. -/
def Passes (c c' : Cursor) : Prop := ∃ n ≤ c.rest.length, c' = c.skip n

namespace Passes

/-- Reading nothing stays in place. -/
theorem refl (c : Cursor) : c.Passes c := ⟨0, Nat.zero_le _, rfl⟩

/-- Over a block that is ahead. -/
theorem block {front tail : List UInt8} (ahead : c.rest = front ++ tail) :
    c.Passes (c.skip front.length) := by
  refine ⟨front.length, ?_, rfl⟩
  rw [ahead, List.length_append]
  omega

/-- Two readers, one after the other. -/
theorem trans {c'' : Cursor} (first : c.Passes c') (second : c'.Passes c'') : c.Passes c'' := by
  obtain ⟨m, there, rfl⟩ := first
  obtain ⟨n, there', rfl⟩ := second
  rw [rest_skip, List.length_drop] at there'
  exact ⟨m + n, by omega, skip_skip c m n⟩

/-- The bytes ahead get fewer at their front. -/
theorem exists_taken (h : c.Passes c') :
    ∃ taken, c.rest = taken ++ c'.rest ∧ c'.pos = c.pos + taken.length := by
  obtain ⟨n, there, rfl⟩ := h
  refine ⟨c.rest.take n, ?_, ?_⟩
  · rw [rest_skip, List.take_append_drop]
  · rw [List.length_take_of_le there]
    rfl

/-- The limit stays where it is. -/
theorem limit_eq (h : c.Passes c') : c'.limit = c.limit := by
  obtain ⟨n, -, rfl⟩ := h
  rfl

/-- The position does not go back. -/
theorem pos_le (h : c.Passes c') : c.pos ≤ c'.pos := by
  obtain ⟨n, -, rfl⟩ := h
  exact Nat.le_add_right _ _

/-- Bytes that were there still are. -/
theorem whole (h : c.Passes c') (whole : c.Whole) : c'.Whole := by
  obtain ⟨n, there, rfl⟩ := h
  exact whole.skip there

end Passes

/-! ## Cursors that agree -/

/-- **Cursors that agree**: they stand at one position before one limit, and the data are the same before it.
What stands behind the limit may differ. -/
structure Agrees (c c' : Cursor) : Prop where
  /-- The position. -/
  pos : c'.pos = c.pos
  /-- The limit. -/
  limit : c'.limit = c.limit
  /-- The data before the limit. -/
  data : ∀ i : Nat, (i : Int) < c.limit → c'.data[i]? = c.data[i]?

namespace Agrees

/-- A cursor agrees with itself. -/
theorem refl (c : Cursor) : c.Agrees c := ⟨rfl, rfl, fun _ _ => rfl⟩

/-- Agreement goes both ways. -/
theorem symm (h : c.Agrees c') : c'.Agrees c :=
  ⟨h.pos.symm, h.limit.symm, fun i before => (h.data i (h.limit ▸ before)).symm⟩

/-- Further on, cursors still agree. -/
theorem skip (h : c.Agrees c') (n : Nat) : (c.skip n).Agrees (c'.skip n) :=
  ⟨congrArg (· + n) h.pos, h.limit, h.data⟩

/-- Cursors agree on a region that ends before their limit. -/
theorem region (h : c.Agrees c') (start : Nat) {stop : Int} (before : stop ≤ c.limit) :
    (c.region start stop).Agrees (c'.region start stop) :=
  ⟨rfl, rfl, fun i inside => h.data i (Int.lt_of_lt_of_le inside before)⟩

/-- As many bytes are announced. -/
theorem left (h : c.Agrees c') : c'.left = c.left := by rw [Cursor.left, Cursor.left, h.limit, h.pos]

/-- **The same bytes are ahead.** -/
theorem rest_eq (h : c.Agrees c') : c'.rest = c.rest := by
  refine List.ext_getElem? fun i => ?_
  rw [rest, rest, h.left, h.pos, List.getElem?_take, List.getElem?_take]
  split
  · next before =>
    rw [List.getElem?_drop, List.getElem?_drop, Array.getElem?_toList, Array.getElem?_toList]
    exact h.data (c.pos + i) (by rw [Cursor.left] at before; omega)
  · rfl

/-- The next byte is the same, if it may be read. -/
theorem getElem? (h : c.Agrees c') (more : c.pos < c.limit) : c'.data[c'.pos]? = c.data[c.pos]? := by
  rw [h.pos]
  exact h.data c.pos more

/-- **A part is taken alike.** -/
theorem take (h : c.Agrees c') (part : Part) (n : Nat) : c'.take part n = c.take part n := by
  unfold Cursor.take
  rw [h.pos, h.limit, h.left]
  by_cases few : c.limit < c.pos + n
  · rw [if_pos few, if_pos few]
  · rw [if_neg few, if_neg few, Bytes.block?_congr fun i _ before => h.data i (by omega)]

/-- The data end before the limit on both sides, or on neither. -/
theorem size_lt_iff (h : c.Agrees c') : (c'.data.size : Int) < c.limit ↔ (c.data.size : Int) < c.limit := by
  have last := h.data (c.limit.toNat - 1)
  have missing : ∀ d : Array UInt8, 0 < c.limit →
      (d[c.limit.toNat - 1]? = none ↔ (d.size : Int) < c.limit) := by
    intro d some
    rw [Array.getElem?_eq_none_iff]
    omega
  by_cases some : 0 < c.limit
  · rw [← missing c.data some, ← missing c'.data some, last (by omega)]
  · omega

/-- All bytes are there on both sides, or on neither. -/
theorem whole (h : c.Agrees c') (whole : c.Whole) : c'.Whole := by
  have inside : ¬ (c'.data.size : Int) < c.limit := mt h.size_lt_iff.mp (Int.not_lt.mpr whole.limit_le)
  refine ⟨?_, ?_⟩
  · rw [h.pos, h.limit]
    exact whole.pos_le
  · rw [h.limit]
    exact Int.not_lt.mp inside

end Agrees

/-- **Data with the same bytes before an end** agree up to it. -/
theorem agrees_ofData {data data' : List UInt8} {stop : Int}
    (same : data'.take stop.toNat = data.take stop.toNat) :
    (ofData data stop).Agrees (ofData data' stop) := by
  refine ⟨rfl, rfl, fun i before => ?_⟩
  have inside : i < stop.toNat := by
    have before : (i : Int) < stop := before
    omega
  have bytes := congrArg (·[i]?) same
  simpa [ofData, List.getElem?_take_of_lt inside] using bytes

end Cursor

/-! ## Formulas in data -/

/-- **Framed formula**: the bytes before an end that lies in the data. -/
structure Framed (data : List UInt8) (stop : Int) (formula : List UInt8) : Prop where
  /-- The end is no negative number. -/
  start : 0 ≤ stop
  /-- The end is not behind the data. -/
  inside : stop ≤ data.length
  /-- The formula is what stands before the end. -/
  bytes : data.take stop.toNat = formula

/-- A formula that is all of the data. -/
theorem framed_whole (formula : List UInt8) : Framed formula formula.length formula where
  start := Int.natCast_nonneg _
  inside := Int.le_refl _
  bytes := by rw [Int.toNat_natCast, List.take_length]

namespace Framed

variable {data formula : List UInt8} {stop : Int}

/-- The end of a formula is its length. -/
theorem length_eq (h : Framed data stop formula) : (formula.length : Int) = stop := by
  have start := h.start
  have inside := h.inside
  rw [← h.bytes, List.length_take]
  omega

/-- All bytes of a formula are there. -/
theorem whole (h : Framed data stop formula) : (Cursor.ofData data stop).Whole :=
  ⟨h.start, by simpa [Cursor.ofData] using h.inside⟩

/-- Ahead of the start of some data is the formula. -/
theorem rest_eq (h : Framed data stop formula) : (Cursor.ofData data stop).rest = formula :=
  (Cursor.rest_ofData data stop).trans h.bytes

end Framed

end SheetFormula
