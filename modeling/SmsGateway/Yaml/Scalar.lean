import SmsGateway.Text.Hex
import SmsGateway.Yaml.Cursor

namespace SmsGateway.Yaml

open SmsGateway.Text

/-- What separates two words of a scalar. -/
structure Gap where
  /-- The blanks, the last one first, where there is no line end. -/
  blanks : List Char
  /-- The first line end. -/
  first : List Char
  /-- Further line ends, the last one first. -/
  others : List Char
  /-- Whether there is a line end. -/
  folded : Bool

namespace Gap

def none : Gap := ⟨[], [], [], false⟩

def joined : Gap := ⟨[], [], [], true⟩

def chars (g : Gap) : List Char :=
  if !g.folded then g.blanks.reverse
  else if g.first == ['\n'] then
    if g.others.isEmpty then [' '] else g.others.reverse
  else g.first ++ g.others.reverse

end Gap

/-- Reads a gap. In a line that is not yet indented by `indent` a tab is refused. The first number
bounds the characters read. -/
def readGap (indent : Int) : Nat → Gap → Cursor → Option (Gap × Cursor)
  | 0, _, _ => Option.none
  | n + 1, g, c =>
      match c.rest with
      | [] => some (g, c)
      | x :: _ =>
          if isBlank x then
            if g.folded && x == '\t' && decide ((c.column : Int) < indent) then Option.none
            else
              let g := if g.folded then g else { g with blanks := x :: g.blanks }
              readGap indent n g (c.skip 1)
          else if isBreak x then
            let g :=
              if g.folded then { g with others := c.breakChar :: g.others }
              else ⟨[], [c.breakChar], [], true⟩
            readGap indent n g c.skipBreak
          else some (g, c)

def isFlowMark (c : Char) : Bool :=
  c == ',' || c == '[' || c == ']' || c == '\x7b' || c == '\x7d'

def plainWord (flow : Bool) : List Char → Option (List Char)
  | [] => some []
  | x :: rest =>
      if isBlank x || isBreak x then some []
      else if x == ':' && flow && rest.head?.any (fun y => isFlowMark y || y == '?') then none
      else if (x == ':' && atGap rest) || (flow && isFlowMark x) then some []
      else (plainWord flow rest).map (x :: ·)

/-- A plain scalar that goes on. The first number bounds the words. -/
def plainTail (flow : Bool) (indent : Int) :
    Nat → List Char → Gap → Cursor → Option (List Char × Bool × Cursor)
  | 0, _, _, _ => none
  | n + 1, read, g, c =>
      if c.isDocumentMark || c.rest.head? == some '#' then some (read, g.folded, c)
      else do
        let word ← plainWord flow c.rest
        let (read, g) := if word.isEmpty then (read, g) else (read ++ g.chars ++ word, Gap.none)
        let c := c.skip word.length
        if !atGap c.rest || c.rest.isEmpty then return (read, g.folded, c)
        let (g, c) ← readGap indent (c.rest.length + 1) g c
        if !flow && decide ((c.column : Int) < indent) then return (read, g.folded, c)
        plainTail flow indent n read g c

/-- A plain scalar, and whether a line ends behind it. It belongs to lines that are indented by at
least `indent`. -/
def plain (flow : Bool) (indent : Int) (c : Cursor) : Option (String × Bool × Cursor) :=
  (plainTail flow indent (c.rest.length + 1) [] Gap.none c).map fun r =>
    (String.ofList r.1, r.2)

def numbered (n : Nat) (s : List Char) : Option Char := do
  if s.length < n then none
  let digits ← (s.take n).mapM hexValue?
  let code := digits.foldl (fun acc d => 16 * acc + d) 0
  if code < 0xD800 ∨ (0xDFFF < code ∧ code < 0x110000) then some (Char.ofNat code) else none

def escapes : List (Char × Char) :=
  [('0', '\x00'), ('a', '\x07'), ('b', '\x08'), ('t', '\t'), ('\t', '\t'), ('n', '\n'),
    ('v', '\x0B'), ('f', '\x0C'), ('r', '\r'), ('e', '\x1B'), (' ', ' '), ('"', '"'), ('/', '/'),
    ('\\', '\\'), ('N', '\u0085'), ('_', '\u00A0'), ('L', '\u2028'), ('P', '\u2029')]

/-- A character after a backslash, and how many characters it takes. -/
def escaped : List Char → Option (Char × Nat)
  | 'x' :: rest => (numbered 2 rest).map (·, 3)
  | 'u' :: rest => (numbered 4 rest).map (·, 5)
  | 'U' :: rest => (numbered 8 rest).map (·, 9)
  | x :: _ => (escapes.lookup x).map (·, 1)
  | [] => none

/-- A word within quotation marks, and whether a backslash ends its line. The first number bounds
the characters. -/
def quotedWord (single : Bool) : Nat → Cursor → Option (List Char × Bool × Cursor)
  | 0, _ => none
  | n + 1, c =>
      match c.rest with
      | [] => some ([], false, c)
      | x :: rest =>
          if isBlank x || isBreak x then some ([], false, c)
          else if single then
            if x == '\'' then
              if rest.head? == some '\'' then
                (quotedWord single n (c.skip 2)).map fun r => ('\'' :: r.1, r.2)
              else some ([], false, c)
            else (quotedWord single n (c.skip 1)).map fun r => (x :: r.1, r.2)
          else if x == '"' then some ([], false, c)
          else if x == '\\' then
            if rest.head?.any isBreak then some ([], true, (c.skip 1).skipBreak)
            else do
              let (y, size) ← escaped rest
              (quotedWord single n (c.skip (1 + size))).map fun r => (y :: r.1, r.2)
          else (quotedWord single n (c.skip 1)).map fun r => (x :: r.1, r.2)

/-- A scalar in quotation marks that goes on. The first number bounds the words. -/
def quotedTail (single : Bool) : Nat → List Char → Cursor → Option (List Char × Cursor)
  | 0, _, _ => none
  | n + 1, read, c => do
      if c.isDocumentMark || c.rest.isEmpty then none
      let (word, joined, c) ← quotedWord single (c.rest.length + 1) c
      let read := read ++ word
      if c.rest.head? == some (if single then '\'' else '"') then return (read, c.skip 1)
      let gap := if joined then Gap.joined else Gap.none
      let (g, c) ← readGap 0 (c.rest.length + 1) gap c
      quotedTail single n (read ++ g.chars) c

def quoted (single : Bool) (c : Cursor) : Option (String × Cursor) :=
  (quotedTail single (c.rest.length + 1) [] (c.skip 1)).map fun r => (String.ofList r.1, r.2)

/-- What becomes of the line ends behind a block. -/
inductive Chomping where
  | strip
  | clip
  | keep
  deriving DecidableEq

/-- The marks behind the beginning of a block: what becomes of the last line ends, and by how much
the block is indented, zero if that is not said. -/
def blockMarks (c : Cursor) : Option (Chomping × Nat × Cursor) :=
  let chomping (x : Char) : Option Chomping :=
    if x == '+' then some .keep else if x == '-' then some .strip else none
  let increment (x : Char) : Option Nat :=
    if x.isDigit then some (x.toNat - 48) else none
  let checked (r : Chomping × Nat × Cursor) (given : Bool) : Option (Chomping × Nat × Cursor) :=
    if given && r.2.1 == 0 then none else some r
  match c.rest with
  | x :: rest =>
      match chomping x, increment x with
      | some k, _ =>
          match rest.head?.bind increment with
          | some n => checked (k, n, c.skip 2) true
          | none => some (k, 0, c.skip 1)
      | none, some n =>
          match rest.head?.bind chomping with
          | some k => checked (k, n, c.skip 2) true
          | none => checked (.clip, n, c.skip 1) true
      | none, none => some (.clip, 0, c)
  | [] => some (.clip, 0, c)

/-- The line ends before a line of a block, the last one first, and the greatest indentation seen.
An indentation of zero is not known yet. The first number bounds the lines. -/
def blockBreaks (indent : Nat) :
    Nat → (most : Nat) → List Char → Cursor → Option (List Char × Nat × Cursor)
  | 0, _, _, _ => none
  | n + 1, most, breaks, c =>
      let spaces := (c.rest.takeWhile (· == ' ')).length
      let spaces := if indent = 0 then spaces else min spaces (indent - c.column)
      let c := c.skip spaces
      let most := max most c.column
      match c.rest with
      | [] => some (breaks, most, c)
      | x :: _ =>
          if x == '\t' && (indent == 0 || decide (c.column < indent)) then none
          else if isBreak x then blockBreaks indent n most (c.breakChar :: breaks) c.skipBreak
          else some (breaks, most, c)

/-- The lines of a block: what is read so far, the line end behind it, further line ends with the
last one first, and whether the last line began with a blank. The first number bounds the lines. -/
def blockLines (literal : Bool) (indent : Nat) : Nat → List Char → (lead : List Char) →
    (breaks : List Char) → (blank : Bool) → Cursor →
    Option (List Char × List Char × List Char × Cursor)
  | 0, _, _, _, _, _ => none
  | n + 1, read, lead, breaks, blank, c => do
      if c.column ≠ indent ∨ c.rest.isEmpty then return (read, lead, breaks, c)
      let blankNow := c.rest.head?.any isBlank
      let between :=
        if !literal && lead == ['\n'] && !blank && !blankNow then
          (if breaks.isEmpty then [' '] else [])
        else lead
      let word := c.rest.takeWhile fun x => !isBreak x
      let c := c.skip word.length
      let (lead', c) := if c.rest.isEmpty then ([], c) else ([c.breakChar], c.skipBreak)
      let (breaks', _, c) ← blockBreaks indent (c.rest.length + 1) 0 [] c
      let read := read ++ between ++ breaks.reverse ++ word
      blockLines literal indent n read lead' breaks' blankNow c

/-- A block of lines, within lines that are indented by `outer`. -/
def block (literal : Bool) (outer : Int) (c : Cursor) : Option (String × Cursor) := do
  let (chomping, increment, c) ← blockMarks (c.skip 1)
  let c := c.skipWhile isBlank
  let c := if c.rest.head? == some '#' then c.skipLine else c
  if !(c.rest.isEmpty || c.rest.head?.any isBreak) then none
  let c := c.skipBreak
  let known := if increment = 0 then 0 else (max outer 0).toNat + increment
  let (breaks, most, c) ← blockBreaks known (c.rest.length + 1) 0 [] c
  let indent := if known = 0 then max (max most (outer + 1).toNat) 1 else known
  let (read, lead, breaks, c) ←
    blockLines literal indent (c.rest.length + 1) [] [] breaks false c
  let tail := match chomping with
    | .strip => []
    | .clip => lead
    | .keep => lead ++ breaks.reverse
  return (String.ofList (read ++ tail), c)

end SmsGateway.Yaml
