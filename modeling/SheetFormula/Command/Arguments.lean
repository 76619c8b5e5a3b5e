import SheetFormula.Number.Literal
import SheetFormula.Text.Quoted

/-!
# Arguments of the command

Flags come first, each behind one or two dashes, with their values behind an equals sign or in the next
argument. Operands follow. Main definitions:

* `Command.usage` — the text that explains the command;
* `Settings` — what the flags say;
* `Flag`, `Flag.named?` — a flag by what it sets;
* `FlagError` — why a flag is not accepted, with its message;
* `Argument.ofText` — what an argument is in the place of a flag;
* `Arguments.parse` — the settings and operands of an argument list.
-/

namespace SheetFormula

/-! ## Help -/

namespace Command

/-- **Version** of the command. -/
def version : String := "dev"

/-- **Help text**. -/
def usage : String :=
  "Usage:\n\n" ++
  " wkfmla [-h] [-v] [-variant VARIANT] [-profile PROFILE] [-detect FILE]\n" ++
  "        [-col COL] [-row ROW] [-sheet SHEET] [-format text|instr]\n" ++
  "        [-dump] [-strict] [-debug] [-j JOBS]\n" ++
  "        formulas\n" ++
  "positional arguments:\n\n" ++
  "  formulas              file with one hex-encoded formula per line, use '-'\n" ++
  "                        to read from STDIN; blank lines and lines starting\n" ++
  "                        with '#' are skipped\n" ++
  "optional arguments:\n\n" ++
  "  -h, --help            show this help message and exit\n" ++
  "  -v, --version         show program's version number and exit\n" ++
  "  -variant VARIANT      format variant, wk1 wq1 or wb1 (default: wk1)\n" ++
  "  -profile PROFILE      YAML file with variant, position, sheet and file names\n" ++
  "  -detect FILE          take the variant from a worksheet file's BOF record\n" ++
  "  -col, -row, -sheet    position of the formula cell, overriding the profile\n" ++
  "  -format FORMAT        'text' for formula text, 'instr' for one instruction\n" ++
  "                        per line (default: text)\n" ++
  "  -dump                 hex dump each formula before its result\n" ++
  "  -strict               exit with status 1 if any formula fails\n" ++
  "  -debug                log opcode traces to stderr\n" ++
  "  -j JOBS               formulas decoded in parallel (default: number of CPUs)\n"

end Command

/-! ## Flags and operands -/

/-- **What the flags say**. -/
structure Settings where
  /-- Show the version. -/
  version : Bool := false
  /-- Name of the variant, when given. -/
  variant : String := ""
  /-- Path of the profile, when given. -/
  profile : String := ""
  /-- Path of the file that tells the variant, when given. -/
  detect : String := ""
  /-- Column of the owner, when not negative. -/
  column : Int64 := -1
  /-- Row of the owner, when not negative. -/
  row : Int64 := -1
  /-- Sheet of the owner, when not negative. -/
  sheet : Int64 := -1
  /-- Name of the output format. -/
  format : String := "text"
  /-- Dump each formula first. -/
  dump : Bool := false
  /-- Formulas that fail count. -/
  strict : Bool := false
  /-- Log the opcodes. -/
  debug : Bool := false
  /-- How many formulas are decoded at a time; any number when it is not positive. -/
  jobs : Int64 := 0
  deriving DecidableEq, Repr

/-- **A flag**, by the setting that it changes. -/
inductive Flag where
  /-- A setting that is on or off. -/
  | switch (set : Bool → Settings → Settings)
  /-- A text. -/
  | text (set : String → Settings → Settings)
  /-- An integer. -/
  | integer (set : Int64 → Settings → Settings)

/-- **Flags by name**. -/
def Flag.named? (name : String) : Option Flag :=
  match name with
  | "v" | "version" => some (.switch fun b s => { s with version := b })
  | "variant" => some (.text fun t s => { s with variant := t })
  | "profile" => some (.text fun t s => { s with profile := t })
  | "detect" => some (.text fun t s => { s with detect := t })
  | "col" => some (.integer fun n s => { s with column := n })
  | "row" => some (.integer fun n s => { s with row := n })
  | "sheet" => some (.integer fun n s => { s with sheet := n })
  | "format" => some (.text fun t s => { s with format := t })
  | "dump" => some (.switch fun b s => { s with dump := b })
  | "strict" => some (.switch fun b s => { s with strict := b })
  | "debug" => some (.switch fun b s => { s with debug := b })
  | "j" => some (.integer fun n s => { s with jobs := n })
  | _ => none

/-- **Why a flag is not accepted**. -/
inductive FlagError where
  /-- Help is asked for. -/
  | help
  /-- There is no name behind the dashes. -/
  | badSyntax (argument : String)
  /-- There is no such flag. -/
  | undefined (name : String)
  /-- A value is missing. -/
  | needsArgument (name : String)
  /-- The value of a switch is neither on nor off. -/
  | badSwitch (name value : String)
  /-- The value is no integer. -/
  | badInteger (name value : String) (error : IntegerLiteral.Error)
  deriving DecidableEq, Repr

/-- **Message of a flag error**; asking for help is none. -/
def FlagError.message? : FlagError → Option String
  | .help => none
  | .badSyntax argument => some ("bad flag syntax: " ++ argument)
  | .undefined name => some ("flag provided but not defined: -" ++ name)
  | .needsArgument name => some ("flag needs an argument: -" ++ name)
  | .badSwitch name value =>
      some ("invalid boolean value " ++ Text.quoted value ++ " for -" ++ name ++ ": parse error")
  | .badInteger name value error =>
    some ("invalid value " ++ Text.quoted value ++ " for flag -" ++ name ++ ": " ++ error.message)

/-- **Values of a switch**. -/
def switchValue? (value : String) : Option Bool :=
  match value with
  | "1" | "t" | "T" | "TRUE" | "true" | "True" => some true
  | "0" | "f" | "F" | "FALSE" | "false" | "False" => some false
  | _ => none

/-- **What an argument is** in the place of a flag. -/
inductive Argument where
  /-- An operand; flags are over. -/
  | operand
  /-- The mark behind which only operands follow. -/
  | terminator
  /-- Dashes without a name. -/
  | bad
  /-- A flag, perhaps with its value. -/
  | flag (name : String) (value : Option String)
  deriving DecidableEq, Repr

namespace Argument

/-- Cut a flag at its first equals sign. -/
def cut (chars : List Char) : Argument :=
  match chars.dropWhile (· ≠ '=') with
  | [] => .flag (String.ofList chars) none
  | _ :: value => .flag (String.ofList (chars.takeWhile (· ≠ '='))) (some (String.ofList value))

/-- A flag by what follows its dashes. -/
def named (chars : List Char) : Argument :=
  match chars with
  | [] | '-' :: _ | '=' :: _ => .bad
  | chars => cut chars

/-- **Read an argument** in the place of a flag. A single dash is an operand. -/
def ofText (text : String) : Argument :=
  match text.toList with
  | ['-', '-'] => .terminator
  | '-' :: '-' :: rest => named rest
  | '-' :: c :: rest => named (c :: rest)
  | _ => .operand

end Argument

/-- **Settings and operands**. -/
structure Arguments where
  /-- What the flags say. -/
  settings : Settings
  /-- What follows them. -/
  operands : List String
  deriving DecidableEq, Repr

namespace Arguments

/-- Set a switch; without a value it is on. -/
def setSwitch (set : Bool → Settings → Settings) (name : String) (value : Option String) (s : Settings) :
    Except FlagError Settings :=
  match value with
  | none => .ok (set true s)
  | some v =>
    match switchValue? v with
    | some b => .ok (set b s)
    | none => .error (.badSwitch name v)

/-- Set a flag to a value. -/
def setValue (flag : Flag) (name value : String) (s : Settings) : Except FlagError Settings :=
  match flag with
  | .switch set => setSwitch set name (some value) s
  | .text set => .ok (set value s)
  | .integer set =>
    match IntegerLiteral.parse value with
    | .ok n => .ok (set n s)
    | .error e => .error (.badInteger name value e)

/-- The error for a name that no flag has. -/
def unknown (name : String) : FlagError :=
  if name = "h" || name = "help" then .help else .undefined name

/-- **Parse arguments** on top of some settings. -/
def parseFrom (s : Settings) : List String → Except FlagError Arguments
  | [] => .ok ⟨s, []⟩
  | text :: rest =>
    match Argument.ofText text with
    | .operand => .ok ⟨s, text :: rest⟩
    | .terminator => .ok ⟨s, rest⟩
    | .bad => .error (.badSyntax text)
    | .flag name value =>
      match Flag.named? name, value with
      | none, _ => .error (unknown name)
      | some (.switch set), value =>
        match setSwitch set name value s with
        | .ok s => parseFrom s rest
        | .error e => .error e
      | some flag, some value =>
        match setValue flag name value s with
        | .ok s => parseFrom s rest
        | .error e => .error e
      | some flag, none =>
        match rest with
        | [] => .error (.needsArgument name)
        | value :: rest =>
          match setValue flag name value s with
          | .ok s => parseFrom s rest
          | .error e => .error e

/-- **Parse arguments**. -/
def parse (argv : List String) : Except FlagError Arguments := parseFrom {} argv

end Arguments

end SheetFormula
