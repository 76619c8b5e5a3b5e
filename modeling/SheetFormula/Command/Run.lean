import SheetFormula.Command.Arguments
import SheetFormula.Command.Listing
import SheetFormula.Profile

/-!
# The command

The command decodes the formulas of a file and lists them. Main definitions:

* `Folder` — what reading a path gives, and the home folder of the user; `FolderError` — why a file could not
  be read;
* `Folder.readExpanded` — the content of the file at a path, with a leading tilde for the home folder;
* `Command.Surroundings` — what the command can read;
* `Command.Error` — why nothing was listed, with its message and exit status;
* `Command.Request`, `Command.request` — what an argument list asks for;
* `Command.profile` — the profile that the settings describe;
* `Command.listing` — the listing of a text of formulas;
* `Command.run` — what the command writes, and its exit status.
-/

namespace SheetFormula

/-! ## The working folder -/

/-- **Why a file could not be read**. -/
inductive FolderError where
  /-- There is no such file. -/
  | missing (path : String)
  /-- The path is that of a folder. -/
  | isFolder (path : String)
  /-- The path goes on behind a file. -/
  | notFolder (path : String)
  /-- The file may not be read. -/
  | denied (path : String)
  /-- The path, or a name in it, is too long. -/
  | tooLong (path : String)
  /-- The path holds a character that no path holds. -/
  | invalid (path : String)
  /-- Nobody knows the home folder. -/
  | noHome
  deriving DecidableEq, Repr

/-- The message of a folder error. -/
def FolderError.message : FolderError → String
  | .missing path => "open " ++ path ++ ": no such file or directory"
  | .isFolder path => "read " ++ path ++ ": is a directory"
  | .notFolder path => "open " ++ path ++ ": not a directory"
  | .denied path => "open " ++ path ++ ": permission denied"
  | .tooLong path => "open " ++ path ++ ": file name too long"
  | .invalid path => "open " ++ path ++ ": invalid argument"
  | .noHome => "$HOME is not defined"

/-- **Working folder**. -/
structure Folder where
  /-- The content of the file at a path. -/
  read : String → Except FolderError (List UInt8)
  /-- The home folder, when it is set. -/
  home : Option String := none

namespace Folder

/-- **Expand a leading tilde** to the home folder. -/
def expand (f : Folder) (path : String) : Except FolderError String :=
  match path.toList with
  | '~' :: rest =>
    match f.home with
    | none | some "" => .error .noHome
    | some home => .ok (home ++ String.ofList rest)
  | _ => .ok path

/-- **Read the file at a path** whose leading tilde stands for the home folder. -/
def readExpanded (f : Folder) (path : String) : Except FolderError (List UInt8) :=
  match f.expand path with
  | .ok path => f.read path
  | .error e => .error e

end Folder

/-! ## Requests and answers -/

namespace Command

/-- **What the command can read**. -/
structure Surroundings where
  /-- The working folder. -/
  folder : Folder
  /-- Standard input. -/
  input : List UInt8
  /-- Whether the command is cancelled. -/
  canceled : Bool := false

/-- **Why nothing was listed**. -/
inductive Error where
  /-- A flag is not accepted, or help is asked for. -/
  | flag (error : FlagError)
  /-- There is not exactly one operand. -/
  | operands
  /-- There is no such format. -/
  | format (name : String)
  /-- The profile cannot be read. -/
  | profileFile (error : FolderError)
  /-- The profile is not accepted. -/
  | profile (path : String) (error : ProfileError)
  /-- The file that tells the variant cannot be read. -/
  | detectFile (error : FolderError)
  /-- The variant cannot be told. -/
  | detect (error : DetectError)
  /-- There is no such variant. -/
  | variant (name : String)
  /-- The file of formulas cannot be read. -/
  | file (error : FolderError)
  /-- The file of formulas is not accepted. -/
  | formulas (error : FormulaFileError)
  /-- The command was cancelled. -/
  | canceled
  deriving DecidableEq, Repr

namespace Error

/-- **What is written about an error**. -/
def message : Error → String
  | .flag e =>
    match e.message? with
    | some m => m ++ "\n" ++ usage
    | none => usage
  | .operands => usage
  | .format name => "invalid format: unknown format " ++ Text.quoted name ++ "\n"
  | .profileFile e => "invalid profile: " ++ e.message ++ "\n"
  | .profile path e => "invalid profile: " ++ path ++ ": " ++ e.message ++ "\n"
  | .detectFile e => "cannot detect variant: " ++ e.message ++ "\n"
  | .detect e => "cannot detect variant: " ++ e.message ++ "\n"
  | .variant name => "invalid variant: " ++ Variant.unknownMessage name ++ "\n"
  | .file e => e.message ++ "\n"
  | .formulas e => e.message ++ "\n"
  | .canceled => canceledMessage ++ "\n"

/-- **Exit status** for an error: nothing is wrong with asking for help, and two is for wrong arguments. -/
def status : Error → Nat
  | .flag .help => 0
  | .file _ | .formulas _ | .canceled => 1
  | _ => 2

end Error

/-! ## Requests -/

/-- **What is asked for**. -/
inductive Request where
  /-- The version. -/
  | version
  /-- A listing of the formulas of a file. -/
  | decode (settings : Settings) (format : Format) (path : String)
  deriving DecidableEq, Repr

/-- **Request of an argument list**. -/
def request (argv : List String) : Except Error Request :=
  match Arguments.parse argv with
  | .error e => .error (.flag e)
  | .ok ⟨settings, operands⟩ =>
    if settings.version then .ok .version
    else
      match operands with
      | [path] =>
        match Format.ofName? settings.format with
        | some format => .ok (.decode settings format path)
        | none => .error (.format settings.format)
      | _ => .error .operands

/-! ## Circumstances -/

/-- The profile at the path that the settings give; without one, that of the first variant. -/
def givenProfile (folder : Folder) (s : Settings) : Except Error Profile :=
  if s.profile = "" then .ok { variant := Variant.wk1.name }
  else
    match folder.read s.profile with
    | .error e => .error (.profileFile e)
    | .ok bytes =>
      match Profile.parse bytes with
      | .error e => .error (.profile s.profile e)
      | .ok p => .ok p

/-- The name of the variant that the file named in the settings tells, if one is named. -/
def detected (folder : Folder) (s : Settings) : Except Error (Option String) :=
  if s.detect = "" then .ok none
  else
    match folder.readExpanded s.detect with
    | .error e => .error (.detectFile e)
    | .ok bytes =>
      match Variant.detect bytes with
      | .error e => .error (.detect e)
      | .ok v => .ok (some v.name)

/-- The coordinate that the settings give, when it is not negative. -/
def overriding (given profile : Int64) : Int64 := if 0 ≤ given then given else profile

/-- Put the variant and the position of the settings into a profile. -/
def adjusted (s : Settings) (detected : Option String) (p : Profile) : Profile :=
  { p with
    variant := if s.variant = "" then detected.getD p.variant else s.variant
    position :=
      { column := overriding s.column p.position.column
        row := overriding s.row p.position.row
        sheet := overriding s.sheet p.position.sheet } }

/-- **Profile that the settings describe**. -/
def profile (folder : Folder) (s : Settings) : Except Error Profile := do
  let given ← givenProfile folder s
  let variant ← detected folder s
  return adjusted s variant given

/-- **Circumstances** of a profile. -/
def circumstances (p : Profile) : Except Error (Options Profile.NameState) :=
  match p.options? with
  | some o => .ok o
  | none => .error (.variant p.variant)

/-! ## Listing -/

/-- The text of the formulas at a path; a single dash is standard input. -/
def formulaText (around : Surroundings) (path : String) : Except Error (List UInt8) :=
  if path = "-" then .ok around.input
  else
    match around.folder.read path with
    | .ok text => .ok text
    | .error e => .error (.file e)

/-- The formula lines of a text. -/
def formulaLines (text : List UInt8) : Except Error (List FormulaLine) :=
  match FormulaFile.parse text with
  | .ok lines => .ok lines
  | .error e => .error (.formulas e)

/-- **Batch of the formula lines**: each formula takes all of its line, and all have one owner. -/
def batch (o : Options Profile.NameState) (limit : Int64) (lines : List FormulaLine) :
    Batch.Plan Profile.NameState where
  options := o
  jobs := (lines.map fun l => ⟨l.data, l.data.length, o.position⟩).toArray
  limit := limit

/-- **What the command leaves**: its exit status, and what it wrote to standard output and standard error. -/
structure Outcome where
  /-- Exit status. -/
  status : Nat
  /-- Standard output. -/
  out : String := ""
  /-- Standard error. -/
  err : String := ""
  deriving DecidableEq, Repr

/-- The outcome of an error. -/
def Outcome.ofError (e : Error) : Outcome := { status := e.status, err := e.message }

/-- The outcome of an error, or `none` when keys of the profile were compared that cannot be. -/
def Outcome.ofError? : Error → Option Outcome
  | .profile _ (.unreadable .incomparable) => none
  | e => some (.ofError e)

/-- **Listing of formula lines**. A cancelled batch lists nothing. -/
def listing (s : Settings) (format : Format) (o : Options Profile.NameState) (names : Profile.NameState)
    (canceled : Bool) (lines : List FormulaLine) : Option Outcome :=
  let run := decodeBatch (batch o s.jobs lines) canceled names
  if run.canceled then some (.ofError .canceled)
  else
    (Listing.text? format s.dump lines run.reports).map fun out =>
      { status := if s.strict && run.reports.any Listing.failed then 1 else 0, out }

/-- All that a listing needs. -/
def prepare (around : Surroundings) (s : Settings) (path : String) :
    Except Error (Profile × Options Profile.NameState × List FormulaLine) := do
  let p ← profile around.folder s
  let o ← circumstances p
  let text ← formulaText around path
  let lines ← formulaLines text
  return (p, o, lines)

/-- **Answer a request**. `none` stands for an access out of range, or for keys that cannot be compared. -/
def answer (around : Surroundings) : Request → Option Outcome
  | .version => some { status := 0, out := version ++ "\n" }
  | .decode s format path =>
    match prepare around s path with
    | .error e => Outcome.ofError? e
    | .ok (p, o, lines) => listing s format o p.cache around.canceled lines

/-- **Run the command**. `none` stands for an access out of range, or for keys that cannot be compared. -/
def run (around : Surroundings) (argv : List String) : Option Outcome :=
  match request argv with
  | .error e => some (.ofError e)
  | .ok r => answer around r

end Command

end SheetFormula
