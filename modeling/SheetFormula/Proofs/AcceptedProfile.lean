import SheetFormula.Profile
import SheetFormula.Proofs.AsciiText
import SheetFormula.Proofs.LockstepRun
import SheetFormula.Proofs.WitnessedErrors

/-!
# Accepted profiles can be used

The conditions on a profile are checked once, when it is read. What it says is looked up again later: its
variant when the circumstances are made, its code page and the layout of its variant when a formula is
decoded.

* **`Profile.Draft.Acceptable`**, **`Profile.Draft.check_eq_ok_iff`** — which drafts are accepted, and the
  profile of one;
* **`decode_configured`** — decoding with a known code page and a known layout fails for the bytes only;
* **`Options.namesAfter`** — the state of the names after some formulas; `Profile.exists_related` says that
  those of a profile answer by its table;
* **`Profile.Usable`**, **`Profile.accepted_usable`** — an accepted profile describes the circumstances it
  names, and decoding in these fails for the bytes only, with the same outcome for every size of the cache.
-/

namespace SheetFormula

variable {σ : Type}

/-! ## Names that are registered -/

/-- A registered variant is found by its name. -/
theorem Variant.ofName?_name {v : Variant} (registered : v ∈ Variant.registered) :
    ofName? v.name = some v := by
  have all : ∀ v ∈ Variant.registered, ofName? v.name = some v := by decide
  exact all v registered

/-- The names of the registered variants are ASCII. -/
theorem Variant.name_ascii {v : Variant} (registered : v ∈ Variant.registered) : Utf8.Ascii v.name := by
  have all : ∀ v ∈ Variant.registered, Utf8.Ascii v.name := by decide
  exact all v registered

/-- **Registered variants name a known code page.** -/
theorem Variant.charset_known {v : Variant} (registered : v ∈ Variant.registered) :
    ∃ page : CodePage, v.charset = page.name := by
  have all : ∀ v ∈ Variant.registered, v.charset ∈ CodePage.all.map CodePage.name := by decide
  obtain ⟨page, -, same⟩ := List.mem_map.mp (all v registered)
  exact ⟨page, same.symm⟩

/-- **Registered variants have a known layout.** -/
theorem Variant.layout_listed {v : Variant} (registered : v ∈ Variant.registered) (n : Int64) :
    v.layout ≠ .unlisted n := by
  have all : ∀ v ∈ Variant.registered, v.layout = .prescanned ∨ v.layout = .interleaved := by decide
  rcases all v registered with layout | layout <;> simp [layout]

/-- The names of the code pages are ASCII. -/
theorem CodePage.name_ascii (page : CodePage) : Utf8.Ascii page.name := by cases page <;> decide

/-- What is found under a name has that name. -/
theorem CodePage.name_of_ofName? {s : String} {page : CodePage} (given : s ≠ "") (h : ofName? s = some page) :
    page.name = s := by
  rw [ofName?, if_neg given] at h
  simpa using List.find?_some h

/-! ## Decoding when everything is known -/

/-- **A formula, or an error that is not about the layout.** -/
def Concluded (outcome : Except Failure Decoded) : Prop :=
  (∃ d, outcome = .ok d) ∨
    ∃ e notes dump, outcome = .error (.rejected e notes dump) ∧ e.report.kind ≠ .unsupportedReferenceLayout

/-- **Decoding fails for the bytes only**, when the code page and the layout are known. -/
theorem decode_configured (o : Options σ) {page : CodePage}
    (known : CodePage.ofName? o.variant.charset = some page) (listed : ∀ n, o.variant.layout ≠ .unlisted n)
    (names : σ) (data : List UInt8) (stop : Int) :
    Concluded (decode o names data stop).outcome := by
  by_cases inside : 0 ≤ stop ∧ stop ≤ data.length
  · have framed : Framed data stop (data.take stop.toNat) := ⟨inside.1, inside.2, rfl⟩
    rw [framed.decode_eq known]
    cases outcome : (decodeFormula o page names data stop).outcome with
    | ok d => exact .inl ⟨d, rfl⟩
    | error failure =>
        obtain ⟨e, notes, rfl, shown⟩ := framed.decodeFormula_shown outcome
        refine .inr ⟨e, notes, _, rfl, fun kind => ?_⟩
        obtain ⟨n, unlisted⟩ := shown.exists_unlisted kind
        exact listed n unlisted
  · rw [decode_outside inside]
    exact .inr ⟨_, _, _, rfl, by simp [DecodeError.report, Cause.kind]⟩

/-- **Names after some formulas**, decoded one after the other. -/
def Options.namesAfter (o : Options σ) (names : σ) (earlier : List (List UInt8 × Int)) : σ :=
  earlier.foldl (fun names formula => (decode o names formula.1 formula.2).names) names

/-- Names that answer by an assignment do so after any formulas. -/
theorem Options.namesAfter_related (o : Options σ) {R : σ → Unit → Prop} {assignment : Names}
    (related : Resolver.Relates R o.resolver assignment.resolver) {names : σ} (answers : R names ())
    (earlier : List (List UInt8 × Int)) : R (o.namesAfter names earlier) () := by
  induction earlier generalizing names with
  | nil => exact answers
  | cons formula earlier ih => exact ih (decode_answered o related answers formula.1 formula.2).2.2

namespace Profile

/-! ## Accepted drafts -/

namespace Draft

/-- **A document says a draft**: it can be read, and nothing in it is of the wrong type. -/
def SaidBy (d : Draft) (bytes : List UInt8) : Prop :=
  ∃ document tally, Yaml.document? bytes = some document ∧ (ofDocument document).run {} = .ok (d, tally) ∧
    tally.mistakes = []

/-- **A draft is acceptable**, and names a variant. -/
structure Acceptable (d : Draft) (v : Variant) : Prop where
  /-- The variant is registered. -/
  registered : v ∈ Variant.registered
  /-- Its name is given, or none at all. -/
  variant : Utf8.bytes v.name = if d.variant = [] then Utf8.bytes Variant.wk1.name else d.variant
  /-- The code page is known, when one is given. -/
  charset : d.charset = [] ∨ ∃ page : CodePage, d.charset = Utf8.bytes page.name
  /-- The size of the cache is not negative. -/
  cacheSize : 0 ≤ d.cacheSize

/-- The profile of a draft that names a variant. -/
def profile (d : Draft) (v : Variant) : Profile :=
  ⟨v.name, Utf8.text d.charset, d.position, d.names, d.cacheSize⟩

variable {d : Draft} {p : Profile} {v : Variant}

/-- Only no bytes at all have no text. -/
theorem text_eq_empty_iff {bytes : List UInt8} : Utf8.text bytes = "" ↔ bytes = [] := by
  rw [Utf8.text_eq_iff (by decide), Utf8.bytes_eq]
  rfl

/-- The variant that a draft names is found, and no other. -/
theorem ofName?_withDefault :
    Variant.ofName? (Utf8.text d.withDefault.variant) = some v ↔
      v ∈ Variant.registered ∧ Utf8.bytes v.name = if d.variant = [] then Utf8.bytes Variant.wk1.name
        else d.variant := by
  have given : d.withDefault.variant = if d.variant = [] then Utf8.bytes Variant.wk1.name else d.variant := by
    unfold withDefault
    split <;> rfl
  rw [given]
  constructor
  · intro found
    obtain ⟨registered, name⟩ := Variant.mem_of_ofName? found
    exact ⟨registered, ((Utf8.text_eq_iff (Variant.name_ascii registered)).mp name.symm).symm⟩
  · rintro ⟨registered, name⟩
    rw [(Utf8.text_eq_iff (Variant.name_ascii registered)).mpr name.symm]
    exact Variant.ofName?_name registered

/-- A code page that is given is found exactly when its bytes are a name. -/
theorem ofName?_charset {bytes : List UInt8} (given : bytes ≠ []) :
    (∃ page, CodePage.ofName? (Utf8.text bytes) = some page) ↔
      ∃ page : CodePage, bytes = Utf8.bytes page.name := by
  constructor
  · rintro ⟨page, found⟩
    have name := CodePage.name_of_ofName? (mt text_eq_empty_iff.mp given) found
    exact ⟨page, (Utf8.text_eq_iff page.name_ascii).mp name.symm⟩
  · rintro ⟨page, rfl⟩
    rw [(Utf8.text_eq_iff page.name_ascii).mpr rfl]
    exact ⟨page, page.ofName?_name⟩

/-- **Which drafts are accepted**, and as which profile. -/
theorem check_eq_ok_iff : d.check = .ok p ↔ ∃ v, d.Acceptable v ∧ p = d.profile v := by
  have kept : d.withDefault.charset = d.charset ∧ d.withDefault.position = d.position ∧
      d.withDefault.names = d.names ∧ d.withDefault.cacheSize = d.cacheSize := by
    unfold withDefault
    split <;> exact ⟨rfl, rfl, rfl, rfl⟩
  obtain ⟨charset, position, names, cacheSize⟩ := kept
  unfold check
  simp only [charset, position, names, cacheSize]
  constructor
  · -- None of the three complaints was made.
    intro accepted
    split at accepted
    · cases accepted
    · next found =>
      split at accepted
      · cases accepted
      · next known =>
        split at accepted
        · cases accepted
        · next size =>
          obtain ⟨v, found⟩ := Option.ne_none_iff_exists'.mp (mt Option.isNone_iff_eq_none.mpr found)
          obtain ⟨registered, named⟩ := ofName?_withDefault.mp found
          have page : d.charset = [] ∨ ∃ page : CodePage, d.charset = Utf8.bytes page.name := by
            refine or_iff_not_imp_left.mpr fun given => (ofName?_charset given).mp ?_
            exact Option.ne_none_iff_exists'.mp fun unknown => known (by simp [given, unknown])
          refine ⟨v, ⟨registered, named, page, Int64.not_lt.mp size⟩, ?_⟩
          rw [← Except.ok.inj accepted, profile, (Variant.mem_of_ofName? found).2]
  · rintro ⟨v, ⟨registered, named, page, size⟩, rfl⟩
    have found := ofName?_withDefault.mpr ⟨registered, named⟩
    have known : ¬ (decide (d.charset ≠ []) && (CodePage.ofName? (Utf8.text d.charset)).isNone) = true := by
      rw [Bool.and_eq_true, decide_eq_true_eq, not_and]
      intro given
      obtain ⟨page, known⟩ := (ofName?_charset given).mpr (page.resolve_left given)
      simp [known]
    rw [if_neg (by simp [found]), if_neg known, if_neg (Int64.not_lt.mpr size), profile,
      (Variant.mem_of_ofName? found).2]

end Draft

/-- **What is parsed**: what a document says, when it is acceptable. -/
theorem parse_eq_ok_iff {bytes : List UInt8} {p : Profile} :
    parse bytes = .ok p ↔ ∃ d : Draft, d.SaidBy bytes ∧ d.check = .ok p := by
  unfold parse Draft.SaidBy
  constructor
  · intro parsed
    -- Each of the three passes has to go through: the document, the draft, its types.
    split at parsed
    · cases parsed
    · next document found =>
      split at parsed
      · cases parsed
      · next d tally read =>
        split at parsed
        · next right => exact ⟨d, ⟨document, tally, found, read, right⟩, parsed⟩
        · cases parsed
  · rintro ⟨d, ⟨document, tally, found, read, right⟩, accepted⟩
    rw [found]
    dsimp only
    rw [read]
    dsimp only
    rw [if_pos right, accepted]

/-! ## Use -/

/-- **The names of a profile answer by its table**, with or without a cache. -/
theorem exists_related {p : Profile} {o : Options NameState} (described : p.options? = some o) :
    ∃ R : NameState → Unit → Prop, Resolver.Relates R o.resolver p.names.names.resolver ∧ R p.cache () := by
  obtain ⟨v, -, rfl⟩ := Option.map_eq_some_iff.mp described
  obtain ⟨R, related, answers⟩ := Resolver.alike_assignment p.names.names
  refine ⟨_, related.cachedIf, answers, fun c made => ?_⟩
  -- The cache is empty at first, so that it holds nothing but answers of the table.
  unfold cache NameCache.new? at made
  dsimp only at made
  split at made
  · rw [← Option.some.inj made]
    exact nofun
  · cases made

/-- **A profile can be used** as the draft `d` asks for: it describes circumstances `o` in which formulas of
the variant `v` are decoded. -/
structure Usable (d : Draft) (p : Profile) (v : Variant) (o : Options NameState) : Prop where
  /-- The variant is the registered one that is named, or the first one. -/
  named : v ∈ Variant.registered ∧ Utf8.bytes v.name = if d.variant = [] then Utf8.bytes "wk1" else d.variant
  /-- The circumstances are described. -/
  described : p.options? = some o
  /-- They have the variant, -/
  variant : o.variant.name = v.name ∧ o.variant.width = v.width ∧ o.variant.layout = v.layout ∧
    o.variant.sheetField = v.sheetField
  /-- with the code page that is given, or else its own, -/
  charset : Utf8.bytes o.variant.charset = if d.charset = [] then Utf8.bytes v.charset else d.charset
  /-- and the position that is given. -/
  position : o.position = d.position
  /-- With any other size of the cache that is not negative, the draft is accepted too and describes the same;
  there is a cache when the size is positive. -/
  sizes : ∀ size : Int64, 0 ≤ size → Draft.check { d with cacheSize := size } =
    .ok { p with cacheSize := size } ∧
    options? { p with cacheSize := size } = some o ∧
    (0 < size → ∃ c, NameCache.new? size = some c ∧ cache { p with cacheSize := size } = ((), some c))
  /-- With any such size, and after any formulas, decoding has the outcome that it has without a cache: a
  formula, or an error that is not about the layout. -/
  decodes : ∀ size : Int64, 0 ≤ size → ∀ earlier data stop,
    let run := decode o (o.namesAfter (cache { p with cacheSize := size }) earlier) data stop
    run.outcome = (decode (o.withResolver d.names.names.resolver) () data stop).outcome ∧
      Concluded run.outcome

namespace Draft

variable {d : Draft} {v : Variant}

/-- The variant with the code page that is given. -/
def variantFor (d : Draft) (v : Variant) : Variant :=
  if Utf8.text d.charset = "" then v else { v with charset := Utf8.text d.charset }

/-- A draft changes the code page of a variant and nothing else of it. -/
theorem variantFor_eq (d : Draft) (v : Variant) :
    (d.variantFor v).name = v.name ∧ (d.variantFor v).width = v.width ∧ (d.variantFor v).layout = v.layout ∧
      (d.variantFor v).sheetField = v.sheetField := by
  unfold variantFor
  split <;> exact ⟨rfl, rfl, rfl, rfl⟩

/-- **The code page is known**, whether it is given or that of the variant. -/
theorem Acceptable.exists_page (h : d.Acceptable v) :
    ∃ page : CodePage, (d.variantFor v).charset = page.name ∧
      Utf8.bytes page.name = if d.charset = [] then Utf8.bytes v.charset else d.charset := by
  unfold variantFor
  by_cases own : d.charset = []
  · obtain ⟨page, name⟩ := Variant.charset_known h.registered
    rw [if_pos (text_eq_empty_iff.mpr own), if_pos own]
    exact ⟨page, name, congrArg Utf8.bytes name.symm⟩
  · obtain ⟨page, given⟩ := h.charset.resolve_left own
    rw [if_neg (mt text_eq_empty_iff.mp own), if_neg own]
    exact ⟨page, (Utf8.text_eq_iff page.name_ascii).mpr given, given.symm⟩

/-- The size of the cache does not show in the circumstances. -/
theorem options?_profile (registered : v ∈ Variant.registered) (size : Int64) :
    options? { d.profile v with cacheSize := size } =
      some ⟨d.variantFor v, d.position, d.names.names.resolver.cachedIf⟩ := by
  rw [options?, profile, Variant.ofName?_name registered]
  rfl

/-- **Acceptable drafts can be used.** -/
theorem Acceptable.usable (h : d.Acceptable v) :
    Usable d (d.profile v) v ⟨d.variantFor v, d.position, d.names.names.resolver.cachedIf⟩ := by
  obtain ⟨page, known, charset⟩ := h.exists_page
  have variant := d.variantFor_eq v
  refine ⟨⟨h.registered, h.variant⟩, options?_profile h.registered d.cacheSize, variant, known ▸ charset, rfl,
    ?_, ?_⟩
  · intro size nonneg
    refine ⟨check_eq_ok_iff.mpr ⟨v, ⟨h.registered, h.variant, h.charset, nonneg⟩, rfl⟩,
      options?_profile h.registered size, fun positive => ?_⟩
    have made : NameCache.new? size = some { capacity := size.toInt.toNat } := if_pos positive
    exact ⟨_, made, congrArg (Prod.mk ()) made⟩
  · -- Whatever the cache holds by then, the names answer by the table.
    intro size nonneg earlier data stop
    obtain ⟨R, related, answers⟩ := exists_related (options?_profile (d := d) h.registered size)
    refine ⟨(decode_answered _ related (Options.namesAfter_related _ related answers earlier) data stop).1,
      ?_⟩
    refine decode_configured _ (known ▸ page.ofName?_name) (fun n => ?_) _ data stop
    exact variant.2.2.1 ▸ Variant.layout_listed h.registered n

end Draft

/-- **An accepted profile never fails later for what it says.** Take any document that is accepted, or any
draft, whatever its texts, position, names and sizes are: when the draft is accepted, then so is every
document that says it. The profile describes circumstances, with the variant that is named or the first one,
and with the code page that is given or that of the variant. Decoding any data up to any end in these gives a
formula or an error of the formula, which is never about the layout; and with any other size of the cache that
is not negative the draft is accepted too, and decoding has the same outcome. -/
theorem accepted_usable :
    (∀ bytes p, parse bytes = .ok p → ∃ d v o, Draft.SaidBy d bytes ∧ Usable d p v o) ∧
      ∀ d p, Draft.check d = .ok p →
        (∀ bytes, d.SaidBy bytes → parse bytes = .ok p) ∧ ∃ v o, Usable d p v o := by
  have usable : ∀ {d p}, Draft.check d = .ok p → ∃ v o, Usable d p v o := by
    intro d p accepted
    obtain ⟨v, acceptable, rfl⟩ := Draft.check_eq_ok_iff.mp accepted
    exact ⟨v, _, acceptable.usable⟩
  refine ⟨fun bytes p parsed => ?_, fun d p accepted => ⟨fun bytes said => ?_, usable accepted⟩⟩
  · obtain ⟨d, said, accepted⟩ := parse_eq_ok_iff.mp parsed
    obtain ⟨v, o, used⟩ := usable accepted
    exact ⟨d, v, o, said, used⟩
  · exact parse_eq_ok_iff.mpr ⟨d, said, accepted⟩

/-- A draft of a variant with a code page that is not its own and a cache for one name; and the empty
document, which says nothing, so that the first variant is taken. -/
theorem accepted_usable_cached :
    let d : Draft :=
      { variant := [0x77, 0x62, 0x31], charset := [0x63, 0x70, 0x38, 0x35, 0x32], position := ⟨2, 10, 1⟩,
        names := { sheets := [(0, "Data")], files := [(3, "budget.wk3")] }, cacheSize := 1 }
    let p : Profile := ⟨"wb1", "cp852", d.position, d.names, 1⟩
    (d.check = .ok p ∧ ∃ v o, Usable d p v o) ∧
      parse [] = .ok { variant := "wk1" } ∧ ∃ d v o, Draft.SaidBy d [] ∧
        Usable d { variant := "wk1" } v o := by
  intro d p
  have accepted : d.check = .ok p := by rfl
  have parsed : parse [] = .ok { variant := "wk1" } :=
    parse_eq_ok_iff.mpr ⟨{}, ⟨none, {}, rfl, rfl, rfl⟩,
      Draft.check_eq_ok_iff.mpr ⟨.wk1, ⟨by decide, rfl, .inl rfl, by decide⟩, rfl⟩⟩
  exact ⟨⟨accepted, (accepted_usable.2 d p accepted).2⟩, parsed, accepted_usable.1 [] _ parsed⟩

end Profile

end SheetFormula
