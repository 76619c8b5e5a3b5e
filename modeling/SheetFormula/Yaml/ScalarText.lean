import SheetFormula.Yaml.Cursor

/-!
# Texts of YAML scalars

A scalar is written in quotes, plainly, or as a block of lines. Main definitions:

* `Yaml.escape?` — what an escape in double quotes stands for;
* `Yaml.quoted?`, `Yaml.plain?`, `Yaml.block?` — the text of a scalar and the place behind it.
-/

namespace SheetFormula

namespace Yaml

/-! ## Quoted scalars -/

/-- The value of a hexadecimal digit. -/
def hexValue? (c : Char) : Option Nat :=
  if '0' ≤ c && c ≤ '9' then some (c.toNat - '0'.toNat)
  else if 'a' ≤ c && c ≤ 'f' then some (c.toNat - 'a'.toNat + 10)
  else if 'A' ≤ c && c ≤ 'F' then some (c.toNat - 'A'.toNat + 10)
  else none

/-- The number that `n` hexadecimal digits stand for. -/
def hexNumber? (n : Nat) (cs : List Char) : Option Nat :=
  if (cs.take n).length ≠ n then none
  else ((cs.take n).mapM hexValue?).map fun ds => ds.foldl (fun v d => 16 * v + d) 0

/-- The character whose code `n` hexadecimal digits give. -/
def hexEscape? (n : Nat) (cs : List Char) : Option Char :=
  (hexNumber? n cs).bind fun v =>
    if v < 0xd800 || (0xdfff < v && v < 0x110000) then some (Char.ofNat v) else none

/-- **Escape** in a double-quoted scalar: the character it stands for and how many characters it takes. -/
def escape? (cs : List Char) : Option (Char × Nat) :=
  match cs with
  | '0' :: _ => some ('\x00', 1)
  | 'a' :: _ => some ('\x07', 1)
  | 'b' :: _ => some ('\x08', 1)
  | 't' :: _ | '\t' :: _ => some ('\t', 1)
  | 'n' :: _ => some ('\n', 1)
  | 'v' :: _ => some ('\x0b', 1)
  | 'f' :: _ => some ('\x0c', 1)
  | 'r' :: _ => some ('\r', 1)
  | 'e' :: _ => some ('\x1b', 1)
  | ' ' :: _ => some (' ', 1)
  | '"' :: _ => some ('"', 1)
  | '\'' :: _ => some ('\'', 1)
  | '\\' :: _ => some ('\\', 1)
  | 'N' :: _ => some ('\u0085', 1)
  | '_' :: _ => some ('\u00a0', 1)
  | 'L' :: _ => some ('\u2028', 1)
  | 'P' :: _ => some ('\u2029', 1)
  | 'x' :: ds => (hexEscape? 2 ds).map (·, 3)
  | 'u' :: ds => (hexEscape? 4 ds).map (·, 5)
  | 'U' :: ds => (hexEscape? 8 ds).map (·, 9)
  | _ => none

/-- **What a piece of a quoted scalar ends with**. -/
inductive PieceEnd where
  /-- The closing quote, a blank or a line break. -/
  | mark
  /-- A line break that is escaped, and passed over. -/
  | escapedBreak

/-- Piece of a quoted scalar without blanks and line breaks, put in front of `done`, the last character
first. -/
def pieceUpTo (quote : Char) : Nat → List Char → Cursor → Option (List Char × PieceEnd × Cursor)
  | 0, _, _ => none
  | fuel + 1, done, c =>
    if c.lacks 2 then none
    else
      match c.rest with
      | [] => some (done, .mark, c)
      | a :: rest =>
        if isBlank a || isBreak a then some (done, .mark, c)
        else if a = quote then
          if quote = '\'' && rest.head? = some '\'' then pieceUpTo quote fuel ('\'' :: done) (c.ahead 2)
          else some (done, .mark, c)
        else if a = '\\' && quote = '"' then
          if rest.head?.any isBreak then some (done, .escapedBreak, (c.ahead 1).nextLine)
          else
            match escape? rest with
            | some (e, n) => pieceUpTo quote fuel (e :: done) (c.ahead (n + 1))
            | none => none
        else pieceUpTo quote fuel (a :: done) (c.ahead 1)

/-- Content of a quoted scalar up to its closing quote, and the place behind it; `done` holds the content so
far, the last character first. -/
def quotedUpTo (quote : Char) : Nat → List Char → Cursor → Option (List Char × Cursor)
  | 0, _, _ => none
  | fuel + 1, done, c =>
    if c.lacks 4 || c.atMark || c.rest.isEmpty then none
    else
      match pieceUpTo quote (c.left + 1) done c with
      | none => none
      | some (done, pieceEnd, c) =>
        if c.isAt quote then some (done.reverse, c.ahead 1)
        else
          let spacing : Spacing :=
            match pieceEnd with
            | .mark => {}
            | .escapedBreak => { lineEnded := true }
          match spacing.read 0 c with
          | some (s, c) => quotedUpTo quote fuel (s.text.reverse ++ done) c
          | none => none

/-- **Quoted scalar** at its opening quote. -/
def quoted? (quote : Char) (c : Cursor) : Option (String × Cursor) :=
  (quotedUpTo quote (c.left + 1) [] (c.ahead 1)).map fun (cs, c) => (String.ofList cs, c)

/-! ## Plain scalars -/

/-- Characters that end a plain scalar inside brackets. -/
def isFlowMark (c : Char) : Bool := c = ',' || c = '?' || c = '[' || c = ']' || c = '\x7b' || c = '\x7d'

/-- Length of a piece of a plain scalar behind `n` characters: up to a colon before a gap, inside brackets
also up to a mark, or up to a blank or the line's end. -/
def pieceLength (flow : Bool) : Nat → List Char → Nat
  | n, [] => n
  | n, c :: rest =>
    if isBlank c || isBreak c || (c = ':' && gapOrEnd rest) || (flow && isFlowMark c) then n
    else pieceLength flow (n + 1) rest

/-- Pieces of a plain scalar behind `done`, the last character first, and `spacing`, which only counts when a
piece follows. The result tells whether a line has ended behind the last piece. -/
def plainUpTo (flow : Bool) (margin : Nat) :
    Nat → List Char → Spacing → Cursor → Option (List Char × Bool × Cursor)
  | 0, _, _, _ => none
  | fuel + 1, done, spacing, c =>
    if c.lacks 4 then none
    else if c.atMark || c.isAt '#' then some (done, spacing.lineEnded, c)
    else
      let n := pieceLength flow 0 c.rest
      if n = 0 then some (done, spacing.lineEnded, c)
      else
        let done := (c.rest.take n).reverse ++ (spacing.text.reverse ++ done)
        let c := c.ahead n
        if c.lacks 2 then none
        else if !c.sees fun a => isBlank a || isBreak a then some (done, false, c)
        else
          match ({} : Spacing).read margin c with
          | none => none
          | some (spacing, c) =>
            if !flow && c.column < margin then some (done, spacing.lineEnded, c)
            else plainUpTo flow margin fuel done spacing c

/-- **Plain scalar**, whether a line has ended behind it, and the place behind. Outside brackets its further
lines are indented by `margin` columns; no tab may stand in these columns, inside brackets neither. -/
def plain? (flow : Bool) (margin : Nat) (c : Cursor) : Option (String × Bool × Cursor) :=
  (plainUpTo flow margin (c.left + 1) [] {} c).map fun (cs, ended, c) => (String.ofList cs.reverse, ended, c)

/-- **Start of a plain scalar**: no mark of the language, or a dash, question mark or colon in front of
something else than a gap; the last two not inside brackets. -/
def startsPlain (flow : Bool) (cs : List Char) : Bool :=
  match cs with
  | [] => false
  | '-' :: rest => !gapOrEnd rest
  | '?' :: rest | ':' :: rest => !flow && !gapOrEnd rest
  | c :: _ => !gapOrEnd cs && !(",[]\x7b\x7d#&*!|>'\"%@`".toList.contains c)

/-! ## Block scalars -/

/-- **What becomes of the line breaks at the end** of a block scalar. -/
inductive Chomping where
  /-- All are dropped. -/
  | strip
  /-- The first is kept. -/
  | clip
  /-- All are kept. -/
  | keep
  deriving DecidableEq, Repr

/-- The chomping that a mark asks for. -/
def Chomping.ofMark? (c : Char) : Option Chomping :=
  if c = '+' then some .keep else if c = '-' then some .strip else none

/-- The depth that a digit asks for, which is not zero. -/
def depth? (c : Char) : Option Nat := if '1' ≤ c && c ≤ '9' then some (c.toNat - '0'.toNat) else none

/-- **Header of a block scalar** behind its mark: chomping, depth when it is given, and how many characters
they take; `none` when the depth is zero. -/
def blockHeader? (cs : List Char) : Option (Chomping × Option Nat × Nat) :=
  let a := cs.head?
  let b := (cs.drop 1).head?
  match a.bind Chomping.ofMark?, a.bind depth? with
  | some chomping, _ =>
    match b.bind depth? with
    | some n => some (chomping, some n, 2)
    | none => if b = some '0' then none else some (chomping, none, 1)
  | none, some n =>
    match b.bind Chomping.ofMark? with
    | some chomping => some (chomping, some n, 2)
    | none => some (.clip, some n, 1)
  | none, none => if a = some '0' then none else some (.clip, none, 0)

/-- Pass over indentation and empty lines, at most `fuel` of them. The indentation goes up to `depth` columns,
or over all spaces when it is zero; the widest so far is `widest`, and `breaks` holds the line breaks, the
last first. -/
def blockBreaksUpTo (depth : Nat) : Nat → Nat → List Char → Cursor → Option (Nat × List Char × Cursor)
  | 0, _, _, _ => none
  | fuel + 1, widest, breaks, c =>
    let spaces := (c.rest.takeWhile (· = ' ')).length
    let c := c.ahead (if depth = 0 then spaces else min spaces (depth - c.column))
    let widest := max widest c.column
    if c.lacks 1 then none
    else if (depth = 0 || c.column < depth) && c.isAt '\t' then none
    else if c.sees isBreak then blockBreaksUpTo depth fuel widest (c.breakText ++ breaks) c.nextLine
    else some (widest, breaks, c)

/-- Lines of a block scalar indented by `depth` columns. `done` holds the text so far, `first` the line break
behind it, `more` those behind that one, each the last character first; `wasBlank` says whether the last line
began with a blank. -/
def blockLinesUpTo (literal : Bool) (depth : Nat) :
    Nat → List Char → List Char → List Char → Bool → Cursor →
      Option (List Char × List Char × List Char × Cursor)
  | 0, _, _, _, _, _ => none
  | fuel + 1, done, first, more, wasBlank, c =>
    if c.column ≠ depth || c.rest.isEmpty then some (done, first, more, c)
    else
      let blank := c.sees isBlank
      let joined :=
        if !literal && !wasBlank && !blank && first = ['\n'] then
          if more.isEmpty then ' ' :: done else done
        else first ++ done
      let text := c.rest.takeWhile fun a => !isBreak a
      let c := c.ahead text.length
      if c.lacks 2 then none
      else
        match blockBreaksUpTo depth (c.left + 1) 0 [] c.nextLine with
        | some (_, breaks, next) =>
          blockLinesUpTo literal depth fuel (text.reverse ++ (more ++ joined)) c.breakText breaks blank next
        | none => none

/-- **Block scalar** at its mark, inside a block at column `parent`; a literal one keeps its line breaks. The
lines are indented as the header says, or else as the first of them that is not empty. -/
def block? (literal : Bool) (parent : Option Nat) (c : Cursor) : Option (String × Cursor) :=
  match blockHeader? (c.rest.drop 1) with
  | none => none
  | some (chomping, given, n) =>
    let c := (c.ahead (n + 1)).skipWhile isBlank
    let c := if c.isAt '#' then c.skipComment else c
    if c.lacks 2 || !breakOrEnd c.rest then none
    else
      let c := c.nextLine
      let depth := match given with
        | some n => parent.getD 0 + n
        | none => 0
      match blockBreaksUpTo depth (c.left + 1) 0 [] c with
      | none => none
      | some (widest, breaks, c) =>
        let depth := if depth = 0 then max widest (max (parent.elim 0 (· + 1)) 1) else depth
        match blockLinesUpTo literal depth (c.left + 1) [] [] breaks false c with
        | none => none
        | some (done, first, more, c) =>
          let text := match chomping with
            | .strip => done
            | .clip => first ++ done
            | .keep => more ++ (first ++ done)
          some (String.ofList text.reverse, c)

end Yaml

end SheetFormula
