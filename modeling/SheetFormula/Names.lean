/-!
# Names of sheets and files

References carry numbers of sheets and external files; a resolver gives their names. Its answers may be kept
in a cache of fixed capacity; when it is full, the answer that was used least recently goes. Main definitions:

* `NameKey` — what a name is asked for;
* `Names` — a fixed assignment of names; `NameTable` — one given by two lists;
* `Resolver` — a way to answer that may keep a state, with `Names.resolver`;
* `NameCache` — the kept answers, most recently used first;
* `NameCache.get?`, `NameCache.add` — look an answer up, put one in; both make it the most recent;
* `Resolver.cached` — a resolver that asks another only for what is not kept;
* `Resolver.cachedIf` — the same, when there is a cache at all.
-/

namespace SheetFormula

/-! ## Names -/

/-- **What a name is asked for**: a sheet or an external file, by number. -/
inductive NameKey where
  /-- A sheet. -/
  | sheet (id : Int64)
  /-- An external file. -/
  | file (id : Int64)
  deriving DecidableEq, Repr

/-- **A fixed assignment of names**; `none` where there is none. -/
abbrev Names := NameKey → Option String

/-- No names at all. -/
def Names.none : Names := fun _ => Option.none

/-- **Names by number**, in two lists. -/
structure NameTable where
  /-- Names of sheets. -/
  sheets : List (Int64 × String) := []
  /-- Names of external files. -/
  files : List (Int64 × String) := []
  deriving DecidableEq, Repr

/-- **Names of a table**: the first entry of a number counts. -/
def NameTable.names (t : NameTable) : Names
  | .sheet id => t.sheets.lookup id
  | .file id => t.files.lookup id

/-- **A resolver**: it answers, and may change a state of its own. -/
abbrev Resolver (σ : Type) := NameKey → σ → Option String × σ

/-- A fixed assignment needs no state. -/
def Names.resolver (names : Names) : Resolver Unit := fun key s => (names key, s)

/-! ## The cache -/

/-- **Kept answers**, most recently used first. An answer may be that there is no name. -/
structure NameCache where
  /-- How many answers are kept at most. -/
  capacity : Nat
  /-- The answers. -/
  entries : List (NameKey × Option String) := []
  deriving DecidableEq, Repr

namespace NameCache

/-- The message for a capacity that is not positive. -/
def sizeMessage : String := "must provide a positive size"

/-- **Empty cache** of a positive capacity. -/
def new? (size : Int64) : Option NameCache :=
  if 0 < size then some { capacity := size.toInt.toNat } else none

/-- The number of kept answers. -/
def size (c : NameCache) : Nat := c.entries.length

/-- The entries without those of a key. -/
def without (key : NameKey) (entries : List (NameKey × Option String)) : List (NameKey × Option String) :=
  entries.filter fun e => e.1 != key

/-- **Look an answer up**. One that is found becomes the most recent. -/
def get? (c : NameCache) (key : NameKey) : Option (Option String) × NameCache :=
  match c.entries.lookup key with
  | some answer => (some answer, { c with entries := (key, answer) :: without key c.entries })
  | none => (none, c)

/-- **Put an answer in**, as the most recent one. When the cache is full, the least recent one goes. -/
def add (c : NameCache) (key : NameKey) (answer : Option String) : NameCache :=
  { c with entries := ((key, answer) :: without key c.entries).take c.capacity }

end NameCache

namespace Resolver

variable {σ : Type}

/-- **Cached resolver**: it asks `r` only for what the cache does not hold, and keeps what it hears. -/
def cached (r : Resolver σ) : Resolver (σ × NameCache) := fun key (s, c) =>
  match c.get? key with
  | (some answer, c') => (answer, s, c')
  | (none, c') =>
    match r key s with
    | (answer, s') => (answer, s', c'.add key answer)

/-- A resolver with a cache when there is one, and without otherwise. -/
def cachedIf (r : Resolver σ) : Resolver (σ × Option NameCache) := fun key (s, cache) =>
  match cache with
  | some c =>
    match r.cached key (s, c) with
    | (answer, s', c') => (answer, s', some c')
  | none =>
    match r key s with
    | (answer, s') => (answer, s', none)

end Resolver

end SheetFormula
