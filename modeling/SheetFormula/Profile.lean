import SheetFormula.Decode
import SheetFormula.Names
import SheetFormula.Yaml.Document
import SheetFormula.Yaml.Typed

/-!
# Profiles

A profile describes the circumstances under which formulas are decoded. Main definitions:

* `Profile` — the description;
* `Profile.Draft` — what a document says, before it is checked; `Profile.Draft.ofDocument` — the draft of a
  document;
* `ProfileError` — why a profile is not accepted, with its message;
* `Profile.Draft.check` — the conditions on a profile; `Profile.parse` — a profile from the bytes of a
  document;
* `Profile.options?` — the circumstances it describes.
-/

namespace SheetFormula

/-- **Description of circumstances**. -/
structure Profile where
  /-- Name of the variant. -/
  variant : String := ""
  /-- Name of the code page, when it is not the variant's. -/
  charset : String := ""
  /-- Owner of the formulas. -/
  position : Position := {}
  /-- Names of sheets and files. -/
  names : NameTable := {}
  /-- How many names are cached; none when it is not positive. -/
  cacheSize : Int64 := 0
  deriving DecidableEq, Repr

/-- **Why a profile is not accepted**. -/
inductive ProfileError where
  /-- The text is no YAML document. -/
  | notDocument
  /-- Nothing sensible can be read off the document. -/
  | unreadable (error : Yaml.ReadError)
  /-- Nodes of the wrong types. -/
  | types (errors : List Yaml.TypeError)
  /-- A variant that is not registered. -/
  | unknownVariant (name : List UInt8)
  /-- A code page that nobody knows. -/
  | unknownCharset (name : List UInt8)
  /-- A negative cache size. -/
  | negativeCache (size : Int64)
  deriving DecidableEq, Repr

/-- **Message of a profile error**. -/
def ProfileError.message : ProfileError → String
  | .notDocument => "parse profile: yaml: not a document"
  | .unreadable error => "parse profile: " ++ error.message
  | .types errors => "parse profile: " ++ Yaml.TypeError.summary errors
  | .unknownVariant name => Variant.unknownQuoted (Text.quotedBytes name)
  | .unknownCharset name => unknownCharsetQuoted (Text.quotedBytes name)
  | .negativeCache size => "cache_size must not be negative, got " ++ Digits.decimal size.toInt

namespace Profile

/-! ## Reading -/

/-- **What a document says**, before it is checked. The names are given by their bytes, which need not be
those of a text. -/
structure Draft where
  /-- Name of the variant. -/
  variant : List UInt8 := []
  /-- Name of the code page. -/
  charset : List UInt8 := []
  /-- Owner of the formulas. -/
  position : Position := {}
  /-- Names of sheets and files. -/
  names : NameTable := {}
  /-- How many names are cached. -/
  cacheSize : Int64 := 0
  deriving DecidableEq, Repr

/-- Set a field when there is a value. -/
def setWith {α β : Type} (value : Yaml.Reading (Option α)) (record : β) (set : α → β) : Yaml.Reading β := do
  return (← value).elim record set

/-- Fields of a position. -/
def setPosition (s : Yaml.Scope) (name : String) (value : Yaml.Node) (p : Position) : Yaml.Reading Position :=
  match name with
  | "column" => setWith (s.asInt value) p fun n => { p with column := n }
  | "row" => setWith (s.asInt value) p fun n => { p with row := n }
  | "sheet" => setWith (s.asInt value) p fun n => { p with sheet := n }
  | _ => return p

/-- **Position** of a node. -/
def positionOf (s : Yaml.Scope) (value : Yaml.Node) : Yaml.Reading Position :=
  Yaml.Scope.asFields "wkfmla.Position" ["column", "row", "sheet"] setPosition {} s value

namespace Draft

/-- Fields of a draft. -/
def setField (s : Yaml.Scope) (name : String) (value : Yaml.Node) (d : Draft) : Yaml.Reading Draft := do
  match name with
  | "variant" => setWith (s.asText value) d fun bytes => { d with variant := bytes }
  | "charset" => setWith (s.asText value) d fun bytes => { d with charset := bytes }
  | "position" => return { d with position := ← positionOf s value }
  | "sheets" => return { d with names := { d.names with sheets := ← s.asTexts value } }
  | "files" => return { d with names := { d.names with files := ← s.asTexts value } }
  | "cache_size" => setWith (s.asInt value) d fun n => { d with cacheSize := n }
  | _ => return d

/-- **Draft of a document**. Without a document everything is left as it is. -/
def ofDocument : Option Yaml.Document → Yaml.Reading Draft
  | none => return {}
  | some document => do
    let s := Yaml.Scope.ofDocument document
    s.count
    Yaml.Scope.asFields "wkfmla.Profile" ["variant", "charset", "position", "sheets", "files", "cache_size"]
      setField {}
      s document.root

/-! ## Conditions -/

/-- The draft with the first variant when it names none. -/
def withDefault (d : Draft) : Draft :=
  if d.variant = [] then { d with variant := Utf8.bytes Variant.wk1.name } else d

/-- **Conditions on a profile**: its variant is registered, its code page is known, and its cache size is not
negative. -/
def check (d : Draft) : Except ProfileError Profile :=
  let d := d.withDefault
  let p : Profile :=
    { variant := Utf8.text d.variant, charset := Utf8.text d.charset, position := d.position,
      names := d.names, cacheSize := d.cacheSize }
  if (Variant.ofName? p.variant).isNone then .error (.unknownVariant d.variant)
  else if d.charset ≠ [] && (CodePage.ofName? p.charset).isNone then .error (.unknownCharset d.charset)
  else if p.cacheSize < 0 then .error (.negativeCache p.cacheSize)
  else .ok p

end Draft

/-- **Parse a profile** from the bytes of a document. -/
def parse (bytes : List UInt8) : Except ProfileError Profile :=
  match Yaml.document? bytes with
  | none => .error .notDocument
  | some document =>
    match (Draft.ofDocument document).run {} with
    | .error e => .error (.unreadable e)
    | .ok (draft, tally) => if tally.mistakes = [] then draft.check else .error (.types tally.mistakes)

/-! ## Use -/

/-- The state that names are resolved with: a cache, when there is one. -/
abbrev NameState := Unit × Option NameCache

/-- The cache of a profile, empty. -/
def cache (p : Profile) : NameState := ((), NameCache.new? p.cacheSize)

/-- **Circumstances of a profile**, or `none` when its variant is not registered. -/
def options? (p : Profile) : Option (Options NameState) :=
  (Variant.ofName? p.variant).map fun v =>
    { variant := if p.charset = "" then v else { v with charset := p.charset }
      position := p.position
      resolver := p.names.names.resolver.cachedIf }

end Profile

end SheetFormula
