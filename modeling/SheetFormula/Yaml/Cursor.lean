import SheetFormula.Yaml.Source

/-!
# Places in a YAML document

Reading goes on from place to place, with line and column. Main definitions:

* `Yaml.isBlank`, `Yaml.isBreak` — blanks and line breaks;
* `Yaml.Cursor` — the unread characters and where the first of them stands;
* `Yaml.Cursor.skipGap` — pass over blanks, line breaks and comments;
* `Yaml.Spacing` — blanks and line breaks inside a scalar, with the text they stand for.
-/

namespace SheetFormula

namespace Yaml

/-- A space or a tab. -/
def isBlank (c : Char) : Bool := c = ' ' || c = '\t'

/-- **Line breaks**: line feed, carriage return, next line, and the separators of lines and paragraphs. -/
def isBreak (c : Char) : Bool := c = '\n' || c = '\r' || c = '\u0085' || c = '\u2028' || c = '\u2029'

/-- A blank, a line break, or the end. -/
def gapOrEnd : List Char → Bool
  | [] => true
  | c :: _ => isBlank c || isBreak c

/-- A line break, or the end. -/
def breakOrEnd : List Char → Bool
  | [] => true
  | c :: _ => isBreak c

/-- Whether a mark of three equal characters stands alone at the start. -/
def markAt (mark : Char) : List Char → Bool
  | a :: b :: c :: rest => a = mark && b = mark && c = mark && gapOrEnd rest
  | _ => false

/-- **A place in a document**: the unread characters and where the first of them stands. -/
structure Cursor where
  /-- Unread characters. -/
  rest : List Char
  /-- How many they are. -/
  left : Nat := rest.length
  /-- Whether a faulty block follows them. -/
  faulty : Bool := false
  /-- How many characters the first block has, when it starts with a second byte order mark. -/
  remarked : Nat := 0
  /-- How many characters were read. -/
  index : Nat := 0
  /-- Line of the first unread character, counted from one. -/
  line : Nat := 1
  /-- Column of the first unread character, counted from zero. -/
  column : Nat := 0
  deriving DecidableEq, Repr

namespace Cursor

/-- The first place of a document. -/
def ofSource (s : Source) : Cursor := { rest := s.chars, faulty := s.faulty, remarked := s.remarked }

/-- **Out of reach**: fewer than `n` characters can be read before a faulty block. -/
def lacks (n : Nat) (c : Cursor) : Bool := c.faulty && (c.rest.drop (n - 1)).isEmpty

/-- Pass over `n` characters of a line. -/
def ahead (n : Nat) (c : Cursor) : Cursor :=
  { c with rest := c.rest.drop n, left := c.left - n, index := c.index + n, column := c.column + n }

/-- Pass over one character. A carriage return in front of a line feed does not end the line. -/
def step (c : Cursor) : Cursor :=
  match c.rest with
  | [] => c
  | '\r' :: '\n' :: rest => { c with rest := '\n' :: rest, left := c.left - 1, index := c.index + 1 }
  | a :: rest =>
    if isBreak a then
      { c with rest, left := c.left - 1, index := c.index + 1, line := c.line + 1, column := 0 }
    else { c with rest, left := c.left - 1, index := c.index + 1, column := c.column + 1 }

/-- Pass over `n` characters, line breaks included. -/
def walk : Nat → Cursor → Cursor
  | 0, c => c
  | n + 1, c => walk n c.step

/-- **Pass over a line break**. -/
def nextLine (c : Cursor) : Cursor :=
  match c.rest with
  | '\r' :: '\n' :: _ => c.step.step
  | _ => c.step

/-- The text of a line break: the separators of lines and paragraphs stand for themselves, the others for a
line feed. -/
def breakText (c : Cursor) : List Char :=
  match c.rest with
  | [] => []
  | a :: _ => if a = '\u2028' || a = '\u2029' then [a] else if isBreak a then ['\n'] else []

/-- Whether a character is the first unread one. -/
def isAt (a : Char) (c : Cursor) : Bool := c.rest.head? = some a

/-- Whether the first unread character satisfies `p`. -/
def sees (p : Char → Bool) (c : Cursor) : Bool := c.rest.head?.any p

/-- Pass over characters of a line that satisfy `p`. -/
def skipWhile (p : Char → Bool) (c : Cursor) : Cursor := c.ahead (c.rest.takeWhile p).length

/-- **Document mark** at the start of a line: three dashes or three dots. -/
def atMark (c : Cursor) : Bool := c.column = 0 && (markAt '-' c.rest || markAt '.' c.rest)

/-! ## Comments and gaps -/

/-- How many characters are searched for a comment. -/
def commentReach : Nat := 512

/-- Where the next comment starts, when at most `n` characters are searched and only blanks and empty lines
stand in front of it. -/
def commentAhead? : Nat → List Char → Option Nat
  | n + 1, a :: rest =>
    if a = '#' then some 0
    else if isBlank a || a = '\n' || a = '\r' then (commentAhead? n rest).map (· + 1)
    else none
  | _, _ => none

/-- Pass over a comment, up to the line break. -/
def skipComment (c : Cursor) : Cursor := c.skipWhile fun a => !isBreak a

/-- Pass over a comment and those on the lines below it, however they are indented. -/
def skipCommentsUpTo : Nat → Cursor → Cursor
  | 0, c => c
  | fuel + 1, c =>
    let c := c.skipComment
    match c.rest with
    | a :: rest =>
      if a = '\n' || a = '\r' then
        match commentAhead? (commentReach - 1) rest with
        | some n => skipCommentsUpTo fuel (c.walk (n + 1))
        | none => c
      else c
    | [] => c

/-- **Pass over comments**: the one here and those below it. -/
def skipComments (c : Cursor) : Cursor := skipCommentsUpTo (c.left + 1) c

/-- **Pass over a comment behind a token**, with the blanks in front of it; `none` when a faulty block comes
first. -/
def skipRemark? (c : Cursor) : Option Cursor :=
  let blanks := (c.rest.takeWhile isBlank).length
  let next := if blanks < commentReach && (c.ahead blanks).isAt '#' then (c.ahead blanks).skipComment else c
  if next.lacks 1 || (c.ahead blanks).lacks 1 then none else some next

/-- **Start of a line** outside scalars. In a block that starts with a second byte order mark, the first
character of such a line is passed over like that mark. -/
def skipMark (c : Cursor) : Cursor := if c.column = 0 && c.index < c.remarked then c.ahead 1 else c

/-- Pass over a gap of at most `fuel` lines. -/
def skipGapUpTo (flow : Bool) : Nat → Bool → Cursor → Option (Bool × Cursor)
  | 0, _, _ => none
  | fuel + 1, fresh, c =>
    let c := c.skipMark.skipWhile fun a => a = ' ' || ((flow || !fresh) && a = '\t')
    let c := if c.isAt '#' then c.skipComments else c
    if c.lacks 1 then none
    else if c.sees isBreak then skipGapUpTo flow fuel (fresh || !flow) c.nextLine
    else some (fresh, c)

/-- **Pass over a gap**: blanks, line breaks and comments. `fresh` says whether a key may start here, which a
new line outside brackets makes true; then tabs do not count as blanks. `none` when a faulty block comes
first. -/
def skipGap (flow fresh : Bool) (c : Cursor) : Option (Bool × Cursor) := skipGapUpTo flow (c.left + 2) fresh c

end Cursor

/-! ## Spacing inside scalars -/

/-- **Blanks and line breaks** between two pieces of a scalar. -/
structure Spacing where
  /-- Blanks in front of the first line break, the last first. -/
  blanks : List Char := []
  /-- Whether a line has ended. -/
  lineEnded : Bool := false
  /-- Text of the line break that ended it. -/
  first : List Char := []
  /-- Text of the line breaks behind it, the last first. -/
  more : List Char := []
  deriving DecidableEq, Repr

/-- **Text of spacing**: blanks on a line stay; a line break alone is a blank, and in front of others it is
nothing, unless it stands for itself. -/
def Spacing.text (s : Spacing) : List Char :=
  if !s.lineEnded then s.blanks.reverse
  else if s.first = ['\n'] then
    if s.more.isEmpty then [' '] else s.more.reverse
  else s.first ++ s.more.reverse

/-- Read at most `fuel` blanks and line breaks; in columns below `margin` no tab may follow a line break. -/
def Spacing.readUpTo (margin : Nat) : Nat → Spacing → Cursor → Option (Spacing × Cursor)
  | 0, _, _ => none
  | fuel + 1, s, c =>
    if c.lacks 1 then none
    else
      match c.rest with
      | [] => some (s, c)
      | a :: _ =>
        if isBlank a then
          if s.lineEnded && c.column < margin && a = '\t' then none
          else
            readUpTo margin fuel (if s.lineEnded then s else { s with blanks := a :: s.blanks }) (c.ahead 1)
        else if isBreak a then
          if c.lacks 2 then none
          else
            let s : Spacing :=
              if s.lineEnded then { s with more := c.breakText ++ s.more }
              else { s with blanks := [], lineEnded := true, first := c.breakText }
            readUpTo margin fuel s c.nextLine
        else some (s, c)

/-- **Read spacing** behind what `s` holds. -/
def Spacing.read (margin : Nat) (s : Spacing) (c : Cursor) : Option (Spacing × Cursor) :=
  readUpTo margin (c.left + 1) s c

end Yaml

end SheetFormula
