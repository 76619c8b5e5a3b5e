import SheetFormula.Yaml.Property

/-!
# Tokens of a YAML document

Above its characters a document is a row of tokens; blocks, which indentation marks, start and end by tokens
of their own. What stands in front of a colon turns out to be a key only when the colon is found. So a token
that may be a key is remembered, and the mark of a key is put in front of it later; until then, nobody can use
the token. A user of tokens also needs the two behind the one they look at. Main definitions:

* `Yaml.Symbol` — what a token is; `Yaml.Token` — a token and the line it starts on;
* `Yaml.Lexer.Key` — a token that may be a key; `Yaml.Lexer.Level` — brackets that are open;
* `Yaml.Lexer` — the tokens so far and the place behind them;
* `Yaml.Lexer.next?` — read the next token; `Yaml.Lexer.settle?` — which tokens can be used;
* `Yaml.Source.tokens` — the tokens of a document that can be used.
-/

namespace SheetFormula

namespace Yaml

/-- **What a token is**. -/
inductive Symbol where
  /-- The end of the text. -/
  | textEnd
  /-- The mark in front of a document. -/
  | documentStart
  /-- The mark behind a document. -/
  | documentEnd
  /-- A directive. -/
  | directive (d : Directive)
  /-- The start of a sequence that is a block. -/
  | blockSequence
  /-- The start of a mapping that is a block. -/
  | blockMapping
  /-- The end of a block. -/
  | blockEnd
  /-- The start of a sequence in brackets. -/
  | openSequence
  /-- The end of a sequence in brackets. -/
  | closeSequence
  /-- The start of a mapping in brackets. -/
  | openMapping
  /-- The end of a mapping in brackets. -/
  | closeMapping
  /-- The mark in front of an item of a block. -/
  | item
  /-- The mark between entries in brackets. -/
  | comma
  /-- What follows is a key. -/
  | key
  /-- What follows is a value. -/
  | value
  /-- A reference to a node by its name. -/
  | reference (name : String)
  /-- The name of the node that follows. -/
  | anchor (name : String)
  /-- The tag of the node that follows. -/
  | tag (t : TagText)
  /-- A scalar; only a plain one may stand for something else than a text. -/
  | scalar (plain : Bool) (text : String)
  deriving DecidableEq, Repr

/-- **A token**. -/
structure Token where
  /-- Line it starts on. -/
  line : Nat
  /-- What it is. -/
  symbol : Symbol
  deriving DecidableEq, Repr

/-! ## Reading tokens -/

namespace Lexer

/-- **A token that may be a key**. -/
structure Key where
  /-- Number of the token. -/
  token : Nat
  /-- Whether it must be a key, because of its column. -/
  required : Bool
  /-- Where it starts. -/
  start : Cursor
  /-- Whether the token cannot be used before it is known to be a key or not. -/
  awaited : Bool := true

/-- How far behind the start of a key its colon may stand. -/
def Key.reach : Nat := 1024

/-- **Whether a colon can still make it a key**: it is on the same line and not too far away. -/
def Key.isOpen (k : Key) (c : Cursor) : Bool := k.start.line = c.line && c.index ≤ k.start.index + Key.reach

/-- **One level of nesting**: what stands outside all brackets, or inside a pair of them. -/
structure Level where
  /-- Number of the token that opened it. -/
  opening : Nat := 0
  /-- The last token that may be a key. -/
  key : Option Key := none
  /-- Whether it ever had such a token. -/
  hadKey : Bool := false

/-- How deeply brackets, and blocks, may be nested. -/
def depthLimit : Nat := 10000

end Lexer

/-- **Reader of tokens**. -/
structure Lexer where
  /-- The place behind the tokens. -/
  cursor : Cursor
  /-- The tokens so far, the last first. -/
  tokens : List Token := []
  /-- How many they are. -/
  count : Nat := 0
  /-- How many of them were used. -/
  used : Nat := 0
  /-- Columns of the open blocks, the innermost first. -/
  columns : List Nat := []
  /-- The innermost level. -/
  level : Lexer.Level := {}
  /-- The levels around it, the innermost first. -/
  outer : List Lexer.Level := []
  /-- How many there are. -/
  depth : Nat := 0
  /-- Whether a key may start here. -/
  fresh : Bool := true

namespace Lexer

/-- Whether the place is inside brackets. -/
def inFlow (l : Lexer) : Bool := 0 < l.depth

/-- Add a token that starts at the place. -/
def push (l : Lexer) (symbol : Symbol) : Lexer :=
  { l with tokens := ⟨l.cursor.line, symbol⟩ :: l.tokens, count := l.count + 1 }

/-- Add a token and pass over the `n` characters of it. -/
def take (l : Lexer) (n : Nat) (symbol : Symbol) : Lexer :=
  { l.push symbol with cursor := l.cursor.ahead n }

/-! ## Keys -/

/-- **Forget the token that may be a key**; `none` when it must be one. -/
def dropKey? (l : Lexer) : Option Lexer :=
  match l.level.key with
  | some k => if k.required then none else some { l with level := { l.level with key := none } }
  | none => some l

/-- **Remember that the next token may be a key**, where a key may start. -/
def saveKey? (l : Lexer) : Option Lexer :=
  if l.fresh then
    l.dropKey?.map fun l =>
      let required := !l.inFlow && l.columns.head? = some l.cursor.column
      { l with level := { l.level with key := some ⟨l.count, required, l.cursor, true⟩, hadKey := true } }
  else some l

/-- Put a token in front of the token with number `n`, or behind all when that was used already. -/
def insert (l : Lexer) (n : Nat) (t : Token) : Lexer :=
  { l with tokens := l.tokens.insertIdx (if l.used ≤ n then l.count - n else 0) t, count := l.count + 1 }

/-! ## Blocks -/

/-- **Open a block** at a column, when it is deeper than those that are open and outside brackets; `insert`
puts the token in its place. -/
def openBlock? (l : Lexer) (column : Nat) (insert : Lexer → Lexer) : Option Lexer :=
  if l.inFlow || l.columns.head?.any (column ≤ ·) then some l
  else if depthLimit ≤ l.columns.length then none
  else some (insert { l with columns := column :: l.columns })

/-- Close blocks while their column satisfies `p`, except inside brackets. -/
def closeBlocks (l : Lexer) (p : Nat → Bool) : Lexer :=
  if l.inFlow then l
  else
    let closed := (l.columns.takeWhile p).length
    { l with
      columns := l.columns.drop closed
      tokens := List.replicate closed ⟨l.cursor.line, .blockEnd⟩ ++ l.tokens
      count := l.count + closed }

/-! ## The next token -/

/-- **Comment behind a token** is passed over. -/
def skipRemark? (l : Lexer) : Option Lexer := l.cursor.skipRemark?.map fun cursor => { l with cursor }

/-- A token outside the nodes: all blocks end, and no key is open. -/
def boundary? (l : Lexer) : Option Lexer :=
  (l.closeBlocks fun _ => true).dropKey?.map fun l => { l with fresh := false }

/-- Opening bracket. -/
def openBracket? (l : Lexer) (symbol : Symbol) : Option Lexer :=
  if depthLimit ≤ l.depth then none
  else
    l.saveKey?.map fun l =>
      { l.take 1 symbol with
        outer := l.level :: l.outer
        level := { opening := l.count }
        depth := l.depth + 1
        fresh := true }

/-- Closing bracket. The token that opened a level without any key is no longer awaited. -/
def closeBracket? (l : Lexer) (symbol : Symbol) : Option Lexer :=
  l.dropKey?.map fun l =>
    let l :=
      match l.outer with
      | [] => l
      | level :: outer =>
        let level :=
          match level.key with
          | some k =>
            if !l.level.hadKey && k.token = l.level.opening then
              { level with key := some { k with awaited := false } }
            else level
          | none => level
        { l with level, outer, depth := l.depth - 1 }
    { l.take 1 symbol with fresh := false }

/-- Mark of an item. -/
def item? (l : Lexer) : Option Lexer :=
  if !l.inFlow && !l.fresh then none
  else
    ((l.openBlock? l.cursor.column fun l => l.push .blockSequence).bind dropKey?).map fun l =>
      { l.take 1 .item with fresh := true }

/-- Mark of a key that is no simple one. -/
def key? (l : Lexer) : Option Lexer :=
  if !l.inFlow && !l.fresh then none
  else
    ((l.openBlock? l.cursor.column fun l => l.push .blockMapping).bind dropKey?).map fun l =>
      { l.take 1 .key with fresh := !l.inFlow }

/-- Colon. The token that may be a key is one; without such a token, the key was marked or is left out. -/
def value? (l : Lexer) : Option Lexer :=
  match l.level.key with
  | some k =>
    if k.isOpen l.cursor then
      let l := l.insert k.token ⟨k.start.line, .key⟩
      (l.openBlock? k.start.column fun l => l.insert k.token ⟨k.start.line, .blockMapping⟩).map fun l =>
        { l.take 1 .value with level := { l.level with key := none }, fresh := false }
    else if k.required then none
    else withoutKey { l with level := { l.level with key := none } }
  | none => withoutKey l
where
  /-- A colon with no token that may be a key in front of it. -/
  withoutKey (l : Lexer) : Option Lexer :=
    if !l.inFlow && !l.fresh then none
    else
      (l.openBlock? l.cursor.column fun l => l.push .blockMapping).map fun l =>
        { l.take 1 .value with fresh := !l.inFlow }

/-- A token that may be a key, read by `read`. -/
def simple? (l : Lexer) (read : Cursor → Option (Symbol × Cursor)) : Option Lexer :=
  l.saveKey?.bind fun l => (read l.cursor).map fun (symbol, cursor) =>
    { l.push symbol with cursor, fresh := false }

/-- A plain scalar. A key may start behind it when a line has ended. -/
def plainScalar? (l : Lexer) : Option Lexer :=
  l.saveKey?.bind fun l =>
    match plain? l.inFlow (l.columns.head?.elim 0 (· + 1)) l.cursor with
    | some (text, ended, cursor) =>
      let l := { l.push (.scalar true text) with cursor, fresh := ended }
      if ended then some l else l.skipRemark?
    | none => none

/-- A block scalar, which is never a key. -/
def blockScalar? (l : Lexer) (literal : Bool) : Option Lexer :=
  l.dropKey?.bind fun l =>
    (block? literal l.columns.head? l.cursor).map fun (text, cursor) =>
      { l.push (.scalar false text) with cursor, fresh := true }

/-- The token at the place, by its first character. -/
def token? (l : Lexer) (a : Char) (rest : List Char) : Option Lexer :=
  let c := l.cursor
  if c.column = 0 && a = '%' then
    l.boundary?.bind fun l =>
      (directive? l.cursor).map fun (d, cursor) => { l.push (.directive d) with cursor }
  else if c.column = 0 && markAt '-' c.rest then l.boundary?.map (·.take 3 .documentStart)
  else if c.column = 0 && markAt '.' c.rest then l.boundary?.map (·.take 3 .documentEnd)
  else if a = '-' && gapOrEnd rest then l.item?
  else if a = '|' && !l.inFlow then l.blockScalar? true
  else if a = '>' && !l.inFlow then l.blockScalar? false
  else if startsPlain l.inFlow c.rest then l.plainScalar?
  else
    Option.bind (match a with
      | '[' => l.openBracket? .openSequence
      | '\x7b' => l.openBracket? .openMapping
      | ']' => l.closeBracket? .closeSequence
      | '\x7d' => l.closeBracket? .closeMapping
      | ',' => l.dropKey?.map fun l => { l.take 1 .comma with fresh := true }
      | '?' => l.key?
      | ':' => l.value?
      | '*' => l.simple? fun c => (name? c).map fun (name, c) => (.reference name, c)
      | '&' => l.simple? fun c => (name? c).map fun (name, c) => (.anchor name, c)
      | '!' => l.simple? fun c => (tag? c).map fun (t, c) => (.tag t, c)
      | '\'' => l.simple? fun c => (quoted? '\'' c).map fun (text, c) => (.scalar false text, c)
      | '"' => l.simple? fun c => (quoted? '"' c).map fun (text, c) => (.scalar false text, c)
      | _ => none) skipRemark?

/-- **Read the next token**, with the ends of blocks in front of it; `none` when there is no token that can
stand here. -/
def next? (l : Lexer) : Option Lexer :=
  match l.cursor.skipGap l.inFlow l.fresh with
  | none => none
  | some (fresh, cursor) =>
    let l := { l with cursor, fresh }.closeBlocks (cursor.column < ·)
    if cursor.lacks 4 then none
    else
      match cursor.rest with
      | [] => l.boundary?.map (·.push .textEnd)
      | a :: rest => l.token? a rest

/-! ## Use of tokens -/

/-- The levels, the innermost first. -/
def levels (l : Lexer) : List Level := l.level :: l.outer

/-- The token with number `n` as a possible key that is awaited. -/
def awaited? (l : Lexer) (n : Nat) : Option Key :=
  l.levels.findSome? fun level => level.key.filter fun k => k.awaited && k.token = n

/-- Use at most `fuel` tokens. -/
def settleUpTo : Nat → Lexer → Option Lexer
  | 0, l => some l
  | fuel + 1, l =>
    if l.count < l.used + 3 then some l
    else
      match l.awaited? l.used with
      | none => settleUpTo fuel { l with used := l.used + 1 }
      | some k =>
        if k.isOpen l.cursor then some l
        else if k.required then none
        else settleUpTo fuel { l with used := l.used + 1 }

/-- **Use tokens** as far as two more are known behind each, and none of them may still turn out to be a key;
`none` when one of them had to be a key and is not. -/
def settle? (l : Lexer) : Option Lexer := settleUpTo l.count l

/-- The tokens that were used. -/
def usedTokens (l : Lexer) : List Token := (l.tokens.drop (l.count - l.used)).reverse

/-- Read at most `fuel` tokens: those that can be used when no more can be read, or all when the text ends. -/
def runUpTo : Nat → Lexer → List Token
  | 0, _ => []
  | fuel + 1, l =>
    if l.tokens.head?.any (·.symbol = .textEnd) then l.tokens.reverse
    else
      match l.settle? with
      | none => l.usedTokens
      | some l =>
        match l.next? with
        | none => l.usedTokens
        | some l => runUpTo fuel l

end Lexer

/-- **Tokens of a document**: all of them, with the end of the text last, or else those that can be used
before one that cannot be read. -/
def Source.tokens (s : Source) : List Token :=
  Lexer.runUpTo (s.chars.length + 2) { cursor := .ofSource s }

end Yaml

end SheetFormula
