import SmsGateway.Yaml.Scalar

/-!
The tokens of YAML texts. Indentation is made explicit by tokens that open and close blocks. Whether
a scalar is the key of a mapping shows only at the colon behind it, so that the token of a key is
put in later, where the scalar began.
-/

namespace SmsGateway.Yaml

/-- How a scalar is written, as far as it matters for what it is read as. -/
inductive ScalarStyle where
  | plain
  | quoted
  | literal
  | folded
  deriving DecidableEq, Repr

/-- A token. -/
inductive Token where
  | streamEnd
  | version (major minor : Nat)
  | tagPrefix (handle uri : String)
  | documentStart
  | documentEnd
  | sequenceStart
  | mappingStart
  | blockEnd
  | openBracket
  | closeBracket
  | openBrace
  | closeBrace
  | item
  | comma
  | key
  | value
  | alias (name : String)
  | anchor (name : String)
  | tag (handle suffix : String)
  | scalar (text : String) (style : ScalarStyle)
  deriving DecidableEq, Repr

/-- A scalar or bracket that may turn out to be a key. -/
structure KeyPlace where
  /-- Whether nothing else can stand there. -/
  required : Bool
  token : Nat
  start : Cursor

/-- A text that is being divided into tokens. -/
structure Lexer where
  cursor : Cursor
  tokens : Array Token
  /-- The indentation of the innermost block; negative outside of all. -/
  indent : Int
  /-- The indentations of the blocks around it. -/
  outer : List Int
  /-- Whether a key may begin here. -/
  keyAllowed : Bool
  /-- What may be a key on each level of brackets, the innermost first. -/
  keys : List (Option KeyPlace)

namespace Lexer

def start (s : List Char) : Lexer :=
  ⟨.start s, #[], -1, [], true, [none]⟩

def inFlow (x : Lexer) : Bool :=
  1 < x.keys.length

def emit (x : Lexer) (t : Token) : Lexer :=
  { x with tokens := x.tokens.push t }

def skip (x : Lexer) (n : Nat) : Lexer :=
  { x with cursor := x.cursor.skip n }

def allowKey (x : Lexer) (b : Bool) : Lexer :=
  { x with keyAllowed := b }

def closeBlocks (column : Int) : (outer : List Int) → Lexer → Lexer
  | [], x => x
  | before :: rest, x =>
      if column < x.indent then
        closeBlocks column rest ({ x with indent := before, outer := rest }.emit .blockEnd)
      else x

def unindent (x : Lexer) (column : Int) : Lexer :=
  if x.inFlow then x else closeBlocks column x.outer x

/-- Opens a block at a column, before the token with a given number, unless one is open there. -/
def openBlock (x : Lexer) (column : Nat) (place : Nat) (t : Token) : Lexer :=
  if x.inFlow || decide ((column : Int) ≤ x.indent) then x
  else
    { x with
      indent := column
      outer := x.indent :: x.outer
      tokens := x.tokens.insertIdxIfInBounds place t }

/-- Gives up what may be a key on the innermost level; not if nothing else can stand there. -/
def dropKey (x : Lexer) : Option Lexer :=
  match x.keys with
  | some k :: rest => if k.required then none else some { x with keys := none :: rest }
  | _ => some x

def markKey (x : Lexer) : Option Lexer :=
  if x.keyAllowed then do
    let x ← x.dropKey
    let required := !x.inFlow && decide (x.indent = x.cursor.column)
    return { x with keys := some ⟨required, x.tokens.size, x.cursor⟩ :: x.keys.drop 1 }
  else some x

/-- Whether what may be a key can still be one: it is on the same line and not too far away. -/
def isFresh (x : Lexer) (k : KeyPlace) : Bool :=
  k.start.line == x.cursor.line && decide (x.cursor.index ≤ k.start.index + 1024)

def dropStale (x : Lexer) : Option Lexer := do
  let keys ← x.keys.mapM fun k => match k with
    | some place =>
        if x.isFresh place then some k else if place.required then none else some none
    | none => some none
  return { x with keys }

/-- Goes on to the next token, over blanks, comments and line ends. The first number bounds the
lines. -/
def skipGaps : Nat → Lexer → Lexer
  | 0, x => x
  | n + 1, x =>
      let c := x.cursor
      let c := if c.index = 0 ∧ c.rest.head? = some '\uFEFF' then c.skip 1 else c
      let tabs := x.inFlow || !x.keyAllowed
      let c := c.skipWhile fun y => y == ' ' || (tabs && y == '\t')
      let c := if c.rest.head? == some '#' then c.skipLine else c
      if c.rest.head?.any isBreak then
        skipGaps n { x with cursor := c.skipBreak, keyAllowed := x.keyAllowed || !x.inFlow }
      else { x with cursor := c }

/-- Whether a character may stand in the name of an anchor or a directive. -/
def isNameChar (c : Char) : Bool :=
  c.isAlphanum || c == '_' || c == '-'

/-- Whether a character may stand in a tag; commas and brackets only in some places. -/
def isTagChar (wide : Bool) (c : Char) : Bool :=
  isNameChar c || ";/?:@&=+$.!~*'()%".toList.contains c || (wide && ",[]".toList.contains c)

/-- The text of a tag at the front of a text, which may not be empty unless something is before
it. -/
def tagText (wide nonempty : Bool) (c : Cursor) : Option (String × Cursor) :=
  let text := c.rest.takeWhile (isTagChar wide)
  if nonempty && text.isEmpty then none else some (String.ofList text, c.skip text.length)

def tagHandle (c : Cursor) : Option (String × Cursor) :=
  match c.rest with
  | '!' :: rest =>
      let name := rest.takeWhile isNameChar
      let closed := (rest.drop name.length).head? == some '!'
      let handle := '!' :: name ++ (if closed then ['!'] else [])
      some (String.ofList handle, c.skip handle.length)
  | _ => none

/-- A tag: a handle and what follows it. -/
def tagToken (flow : Bool) (c : Cursor) : Option (Token × Cursor) := do
  let (t, c) ←
    if c.rest.drop 1 |>.head? |> (· == some '<') then do
      let (suffix, c) ← tagText true true (c.skip 2)
      if c.rest.head? == some '>' then some (Token.tag "" suffix, c.skip 1) else none
    else do
      let (handle, c) ← tagHandle c
      if 1 < handle.length && handle.endsWith "!" then do
        let (suffix, c) ← tagText false true c
        some (Token.tag handle suffix, c)
      else do
        let (more, c) ← tagText false false c
        let suffix := String.ofList (handle.toList.drop 1) ++ more
        some (if suffix == "" then Token.tag "" "!" else Token.tag "!" suffix, c)
  if atGap c.rest || (flow && c.rest.head? == some ',') then return (t, c) else none

def directive (c : Cursor) : Option (Token × Cursor) := do
  let c := c.skip 1
  let name := c.rest.takeWhile isNameChar
  let c := c.skip name.length
  if name.isEmpty || !atGap c.rest then none
  let c := c.skipWhile isBlank
  let (t, c) ←
    if name = "YAML".toList then do
      let major := c.rest.takeWhile Char.isDigit
      let rest := c.rest.drop major.length
      let minor := (rest.drop 1).takeWhile Char.isDigit
      if major.isEmpty || rest.head? != some '.' || minor.isEmpty || 9 < major.length ||
        9 < minor.length then none
      let number (ds : List Char) := ds.foldl (fun n d => 10 * n + (d.toNat - 48)) 0
      some (Token.version (number major) (number minor),
        c.skip (major.length + 1 + minor.length))
    else if name = "TAG".toList then do
      let (handle, c) ← tagHandle c
      if !(handle == "!" || handle.endsWith "!") || !c.rest.head?.any isBlank then none
      let (uri, c) ← tagText true true (c.skipWhile isBlank)
      if atGap c.rest then some (Token.tagPrefix handle uri, c) else none
    else none
  let c := c.skipWhile isBlank
  let c := if c.rest.head? == some '#' then c.skipLine else c
  if c.rest.isEmpty || c.rest.head?.any isBreak then return (t, c.skipBreak) else none

def atEnd (x : Lexer) : Option Lexer :=
  ((x.unindent (-1)).dropKey).map fun x => (x.allowKey false).emit .streamEnd

/-- A line of the document level, with a token made from it. -/
def documentLine (x : Lexer) (t : Token) (c : Cursor) : Option Lexer :=
  ((x.unindent (-1)).dropKey).map fun x => ({ x with cursor := c }.allowKey false).emit t

def openFlow (x : Lexer) (t : Token) : Option Lexer :=
  x.markKey.map fun x => (({ x with keys := none :: x.keys }.allowKey true).skip 1).emit t

def closeFlow (x : Lexer) (t : Token) : Option Lexer :=
  x.dropKey.map fun x =>
    let keys := if x.inFlow then x.keys.drop 1 else x.keys
    (({ x with keys }.allowKey false).skip 1).emit t

/-- A mark that stands before an item or a key, and opens a block if need be. -/
def blockMark (x : Lexer) (opening mark : Token) (keyAfter : Bool) : Option Lexer := do
  if !x.inFlow && !x.keyAllowed then none
  let x := x.openBlock x.cursor.column x.tokens.size opening
  let x ← x.dropKey
  return ((x.allowKey keyAfter).skip 1).emit mark

def colon (x : Lexer) : Option Lexer :=
  match x.keys with
  | some k :: rest =>
      let x := { x with keys := none :: rest, tokens := x.tokens.insertIdxIfInBounds k.token .key }
      let x := x.openBlock k.start.column k.token .mappingStart
      some (((x.allowKey false).skip 1).emit .value)
  | _ => do
      if !x.inFlow && !x.keyAllowed then none
      let x := x.openBlock x.cursor.column x.tokens.size .mappingStart
      return ((x.allowKey (!x.inFlow)).skip 1).emit .value

def keyLike (x : Lexer) (read : Cursor → Option (Token × Cursor)) : Option Lexer := do
  let x ← x.markKey
  let (t, c) ← read x.cursor
  return ({ x with cursor := c }.allowKey false).emit t

def named (make : String → Token) (c : Cursor) : Option (Token × Cursor) :=
  let name := (c.rest.drop 1).takeWhile isNameChar
  let after := c.skip (1 + name.length)
  if name.isEmpty then none
  else if atGap after.rest || after.rest.head?.any (fun y => "?:,]\x7d%@`".toList.contains y) then
    some (make (String.ofList name), after)
  else none

def blockScalar (x : Lexer) (literal : Bool) : Option Lexer := do
  let x ← x.dropKey
  let (text, c) ← block literal x.indent x.cursor
  return ({ x with cursor := c }.allowKey true).emit
    (.scalar text (if literal then .literal else .folded))

def plainScalar (x : Lexer) : Option Lexer := do
  let x ← x.markKey
  let (text, ended, c) ← plain x.inFlow (x.indent + 1) x.cursor
  return ({ x with cursor := c }.allowKey ended).emit (.scalar text .plain)

def indicators : List Char :=
  "-?:,[]\x7b\x7d#&*!|>'\"%@`".toList

def beginsPlain (flow : Bool) : List Char → Bool
  | [] => false
  | c :: rest =>
      (!(isBlank c || isBreak c) && !indicators.contains c) ||
        (c == '-' && !rest.head?.any isBlank) ||
        (!flow && (c == '?' || c == ':') && !atGap rest)

def next (x : Lexer) : Option Lexer := do
  let x := skipGaps (x.cursor.rest.length + 1) x
  let x ← x.dropStale
  let x := x.unindent x.cursor.column
  let c := x.cursor
  match c.rest with
  | [] => x.atEnd
  | y :: rest =>
      if c.column = 0 ∧ y = '%' then
        let (t, after) ← directive c
        x.documentLine t after
      else if c.isDocumentMark then
        x.documentLine (if y = '-' then .documentStart else .documentEnd) (c.skip 3)
      else if y = '[' then x.openFlow .openBracket
      else if y = '\x7b' then x.openFlow .openBrace
      else if y = ']' then x.closeFlow .closeBracket
      else if y = '\x7d' then x.closeFlow .closeBrace
      else if y = ',' then x.dropKey.map fun x => ((x.allowKey true).skip 1).emit .comma
      else if y = '-' ∧ atGap rest then x.blockMark .sequenceStart .item true
      else if y = '?' ∧ (x.inFlow ∨ atGap rest) then
        x.blockMark .mappingStart .key (!x.inFlow)
      else if y = ':' ∧ (x.inFlow ∨ atGap rest) then x.colon
      else if y = '*' then x.keyLike (named .alias)
      else if y = '&' then x.keyLike (named .anchor)
      else if y = '!' then x.keyLike (tagToken x.inFlow)
      else if y = '|' ∧ !x.inFlow then x.blockScalar true
      else if y = '>' ∧ !x.inFlow then x.blockScalar false
      else if y = '\'' ∨ y = '"' then
        x.keyLike fun c => (quoted (y = '\'') c).map fun r => (.scalar r.1 .quoted, r.2)
      else if beginsPlain x.inFlow c.rest then x.plainScalar
      else none

/-- Adds tokens to the end of the text. The first number bounds them. -/
def run : Nat → Lexer → Option (List Token)
  | 0, _ => none
  | n + 1, x => do
      let x ← x.next
      if x.tokens.back? = some .streamEnd then return x.tokens.toList else run n x

end Lexer

/-- The tokens of a text, which may begin with a byte order mark. -/
def tokens? (s : List Char) : Option (List Token) :=
  let s := match s with
    | '\uFEFF' :: rest => rest
    | s => s
  if s.all isAllowed then Lexer.run (s.length + 2) (.start s) else none

end SmsGateway.Yaml
