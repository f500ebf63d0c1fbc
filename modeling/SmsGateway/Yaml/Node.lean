import SmsGateway.Yaml.Token

namespace SmsGateway

/-- A node. -/
inductive Yaml where
  | scalar (text : String) (style : Yaml.ScalarStyle) (tag : Option String)
  | sequence (items : List Yaml)
  | mapping (pairs : List (Yaml × Yaml))
  /-- The node with a number, among the ones that have been given names. -/
  | alias (number : Nat)
  deriving Inhabited

namespace Yaml

def missing : Yaml := .scalar "" .plain none

/-- The names that a document has given to nodes. A name that is given again stands for the later
node; its number counts the names that there were. -/
structure Names where
  /-- The number of the node that each name stands for at present. -/
  current : List (String × Nat)
  /-- The nodes with numbers that are complete, the latest first. -/
  nodes : List (Nat × Yaml)

def Names.empty : Names := ⟨[], []⟩

/-- What precedes the content of a node. -/
structure Properties where
  anchor : Option String
  tag : Option (String × String)

def properties : List Token → Properties × List Token
  | .anchor a :: .tag h s :: rest => (⟨some a, some (h, s)⟩, rest)
  | .tag h s :: .anchor a :: rest => (⟨some a, some (h, s)⟩, rest)
  | .anchor a :: rest => (⟨some a, none⟩, rest)
  | .tag h s :: rest => (⟨none, some (h, s)⟩, rest)
  | tokens => (⟨none, none⟩, tokens)

/-- A tag in full, by the handles that a document declares. -/
def resolveTag (handles : List (String × String)) : Option (String × String) →
    Option (Option String)
  | none => some none
  | some ("", suffix) => some (some suffix)
  | some (handle, suffix) => (handles.lookup handle).map fun uri => some (uri ++ suffix)

def standardHandles : List (String × String) :=
  [("!", "!"), ("!!", "tag:yaml.org,2002:")]

/-- Gives a number to the node that a name stands for from now on. -/
def Names.begin (names : Names) (anchor : Option String) : Names × Option Nat :=
  match anchor with
  | some a =>
      let number := names.current.length
      (⟨(a, number) :: names.current.filter (·.1 != a), names.nodes⟩, some number)
  | none => (names, none)

def Names.complete (names : Names) (number : Option Nat) (node : Yaml) : Names :=
  match number with
  | some k => { names with nodes := (k, node) :: names.nodes }
  | none => names

/-- What a reader of nodes gives: the node it read, the names so far, and the tokens left. -/
abbrev Taken := Yaml × Names × List Token

mutual

/-- A node. `blocks` tells whether it may be a block, and `bare` whether it may be a list of items
that is not indented. The first number bounds the nodes. -/
def node (handles : List (String × String)) (blocks bare : Bool) :
    Nat → Names → List Token → Option Taken
  | 0, _, _ => none
  | n + 1, names, tokens =>
      match tokens with
      | .alias name :: rest => (names.current.lookup name).map fun k => (.alias k, names, rest)
      | _ => do
          let (props, tokens) := properties tokens
          let tag ← resolveTag handles props.tag
          let (names, number) := names.begin props.anchor
          let (content, names, tokens) ←
            match tokens with
            | .scalar text style :: rest => some (.scalar text style tag, names, rest)
            | .openBracket :: rest => flowItems handles true n names rest
            | .openBrace :: rest => flowPairs handles true n names rest
            | .item :: _ =>
                if bare then bareItems handles n names tokens else implied props tag names tokens
            | .sequenceStart :: rest =>
                if blocks then blockItems handles n names rest else implied props tag names tokens
            | .mappingStart :: rest =>
                if blocks then blockPairs handles n names rest else implied props tag names tokens
            | _ => implied props tag names tokens
          return (content, names.complete number content, tokens)

/-- The empty scalar that stands for the content of a node with an anchor or a tag. -/
def implied (props : Properties) (tag : Option String) (names : Names) (tokens : List Token) :
    Option Taken :=
  if props.anchor.isSome || props.tag.isSome then some (.scalar "" .plain tag, names, tokens)
  else none

/-- A node unless one of some tokens follows, before which it is left out. -/
def nodeUnless (stops : List Token) (handles : List (String × String)) (blocks bare : Bool) :
    Nat → Names → List Token → Option Taken
  | 0, _, _ => none
  | n + 1, names, tokens =>
      if tokens.head?.any (stops.contains ·) then some (missing, names, tokens)
      else node handles blocks bare n names tokens

def blockItems (handles : List (String × String)) : Nat → Names → List Token → Option Taken
  | 0, _, _ => none
  | n + 1, names, tokens =>
      match tokens with
      | .item :: rest => do
          let (first, names, rest) ←
            nodeUnless [.item, .blockEnd] handles true false n names rest
          let (others, names, rest) ← blockItems handles n names rest
          prepend first others names rest
      | .blockEnd :: rest => some (.sequence [], names, rest)
      | _ => none

def bareItems (handles : List (String × String)) : Nat → Names → List Token → Option Taken
  | 0, _, _ => none
  | n + 1, names, tokens =>
      match tokens with
      | .item :: rest => do
          let (first, names, rest) ←
            nodeUnless [.item, .key, .value, .blockEnd] handles true false n names rest
          let (others, names, rest) ← bareItems handles n names rest
          prepend first others names rest
      | _ => some (.sequence [], names, tokens)

def prepend (first others : Yaml) (names : Names) (tokens : List Token) : Option Taken :=
  match others with
  | .sequence items => some (.sequence (first :: items), names, tokens)
  | _ => none

def prependPair (pair : Yaml × Yaml) (others : Yaml) (names : Names) (tokens : List Token) :
    Option Taken :=
  match others with
  | .mapping pairs => some (.mapping (pair :: pairs), names, tokens)
  | _ => none

def blockValue (handles : List (String × String)) : Nat → Names → List Token → Option Taken
  | 0, _, _ => none
  | n + 1, names, tokens =>
      match tokens with
      | .value :: rest => nodeUnless [.key, .value, .blockEnd] handles true true n names rest
      | _ => some (missing, names, tokens)

def blockPairs (handles : List (String × String)) : Nat → Names → List Token → Option Taken
  | 0, _, _ => none
  | n + 1, names, tokens =>
      match tokens with
      | .key :: rest => do
          let (k, names, rest) ←
            nodeUnless [.key, .value, .blockEnd] handles true true n names rest
          let (v, names, rest) ← blockValue handles n names rest
          let (others, names, rest) ← blockPairs handles n names rest
          prependPair (k, v) others names rest
      | .blockEnd :: rest => some (.mapping [], names, rest)
      | _ => none

def flowItems (handles : List (String × String)) (first : Bool) :
    Nat → Names → List Token → Option Taken
  | 0, _, _ => none
  | n + 1, names, tokens =>
      match tokens with
      | .closeBracket :: rest => some (.sequence [], names, rest)
      | _ => do
          let tokens ← if first then some tokens else
            match tokens with
            | .comma :: rest => some rest
            | _ => none
          match tokens with
          | .closeBracket :: rest => return (.sequence [], names, rest)
          | .key :: rest =>
              let (item, names, rest) ← flowPair handles n names rest
              let (others, names, rest) ← flowItems handles false n names rest
              prepend item others names rest
          | _ =>
              let (item, names, rest) ← node handles false false n names tokens
              let (others, names, rest) ← flowItems handles false n names rest
              prepend item others names rest

def flowPair (handles : List (String × String)) : Nat → Names → List Token → Option Taken
  | 0, _, _ => none
  | n + 1, names, tokens => do
      let (k, names, rest) ←
        match tokens with
        | .value :: rest | .comma :: rest | .closeBracket :: rest => some (missing, names, rest)
        | _ => node handles false false n names tokens
      match rest with
      | .value :: rest =>
          let (v, names, rest) ←
            nodeUnless [.comma, .closeBracket] handles false false n names rest
          return (.mapping [(k, v)], names, rest)
      | _ => return (.mapping [(k, missing)], names, rest)

def flowPairs (handles : List (String × String)) (first : Bool) :
    Nat → Names → List Token → Option Taken
  | 0, _, _ => none
  | n + 1, names, tokens =>
      match tokens with
      | .closeBrace :: rest => some (.mapping [], names, rest)
      | _ => do
          let tokens ← if first then some tokens else
            match tokens with
            | .comma :: rest => some rest
            | _ => none
          match tokens with
          | .closeBrace :: rest => return (.mapping [], names, rest)
          | .key :: rest =>
              let (k, names, rest) ←
                nodeUnless [.value, .comma, .closeBrace] handles false false n names rest
              let (v, names, rest) ←
                match rest with
                | .value :: rest =>
                    nodeUnless [.comma, .closeBrace] handles false false n names rest
                | _ => some (missing, names, rest)
              let (others, names, rest) ← flowPairs handles false n names rest
              prependPair (k, v) others names rest
          | _ =>
              let (k, names, rest) ← node handles false false n names tokens
              let (others, names, rest) ← flowPairs handles false n names rest
              prependPair (k, missing) others names rest

end

def directives : (version : Bool) → List (String × String) → List Token →
    Option (List (String × String) × Bool × List Token)
  | seen, own, .version major minor :: rest =>
      if seen || major != 1 || !(minor == 1 || minor == 2) then none
      else directives true own rest
  | seen, own, .tagPrefix handle uri :: rest =>
      if (own.lookup handle).isSome then none
      else directives seen ((handle, uri) :: own) rest
  | seen, own, tokens => some (own ++ standardHandles, seen || !own.isEmpty, tokens)

def isDocumentEdge : Token → Bool
  | .version .. | .tagPrefix .. | .documentStart | .documentEnd | .streamEnd => true
  | _ => false

/-- The content of a document, which may be left out. -/
def content (handles : List (String × String)) (tokens : List Token) : Option Taken :=
  if tokens.head?.all isDocumentEdge then some (missing, .empty, tokens)
  else node handles true false (4 * tokens.length + 8) .empty tokens

/-- A document: a node, and the nodes in it that have numbers. -/
structure Document where
  root : Yaml
  named : List (Nat × Yaml)

/-- The only document of a text; a text without any holds an empty node. -/
def document? (s : List Char) : Option Document := do
  let tokens ← tokens? s
  let tokens := tokens.dropWhile (· == .documentEnd)
  if tokens == [.streamEnd] then return ⟨missing, []⟩
  let (handles, declared, tokens) ← directives false [] tokens
  let tokens ← match tokens with
    | .documentStart :: rest => some rest
    | _ => if declared then none else some tokens
  let (root, names, tokens) ← content handles tokens
  if tokens.dropWhile (· == .documentEnd) == [.streamEnd] then return ⟨root, names.nodes⟩
  else none

end Yaml

end SmsGateway
