/-
**Tokens of a YAML text.**

A text is cut into tokens from left to right. Collections without brackets are told by indentation:
the columns at which they begin are kept on a stack, and tokens that stand for their beginnings and
ends are put between the others. Whether a scalar or a collection in brackets is the key of a
mapping shows only at the colon behind it; until then it is kept as a possible key, and it stays one
on its line and for 1024 bytes.

Directives, anchors, aliases and tags are not read.

* `Token`.
* `Lexer`: what is known in the middle of a text.
* `Lexer.step`: reading one token.
* `tokens`: the tokens of a text, if it can be cut into tokens.
-/

import Georeference.Yaml.Block

namespace Georeference.Yaml

/-- The units that a text is built from. Only scalars carry text; a scalar is plain if it has no
quotes and no indicator before it. -/
inductive Token where
  | documentStart
  | documentEnd
  | blockSequenceStart
  | blockMappingStart
  | blockEnd
  | flowSequenceStart
  | flowSequenceEnd
  | flowMappingStart
  | flowMappingEnd
  | blockEntry
  | flowEntry
  | key
  | value
  | scalar (text : String) (isPlain : Bool)
deriving DecidableEq, Repr

/-- Something that may turn out to be a key: the number of tokens before it and its place. It is
required to be one where only keys can stand. -/
structure PossibleKey where
  position : Nat
  mark : Mark
  required : Bool
deriving DecidableEq, Repr

/-- The state between two tokens. For each collection in brackets that is open, the possible key
outside it is kept. -/
structure Lexer where
  rest : List Char
  mark : Mark
  tokens : Array Token
  indents : List Nat
  key : Option PossibleKey
  outerKeys : List (Option PossibleKey)
  keyAllowed : Bool
deriving DecidableEq, Repr

namespace Lexer

def start (text : List Char) : Lexer where
  rest := text
  mark := .ofLine 0
  tokens := #[]
  indents := []
  key := none
  outerKeys := []
  keyAllowed := true

def inFlow (lexer : Lexer) : Bool := !lexer.outerKeys.isEmpty

/-- The least column of what belongs to the innermost collection without brackets. -/
def leastColumn (lexer : Lexer) : Nat :=
  (lexer.indents.head?.map (· + 1)).getD 0

/-- Passes some characters of ASCII, none of them a line break. -/
def pass (lexer : Lexer) (count : Nat) : Lexer :=
  { lexer with
    rest := lexer.rest.drop count
    mark := ⟨lexer.mark.line, lexer.mark.column + count, lexer.mark.offset + count⟩ }

def emit (lexer : Lexer) (token : Token) : Lexer :=
  { lexer with tokens := lexer.tokens.push token }

/-- Puts a token behind a number of others. -/
def emitAt (lexer : Lexer) (position : Nat) (token : Token) : Lexer :=
  { lexer with
    tokens := (lexer.tokens.extract 0 position).push token ++
      lexer.tokens.extract position lexer.tokens.size }

def allowKey (lexer : Lexer) (allowed : Bool) : Lexer :=
  { lexer with keyAllowed := allowed }

/-! ### Between tokens -/

/-- Passes what stands between tokens: spaces, tabs where no key may follow, comments and line
breaks, behind which a key may follow, and a byte order mark at the beginning of a line. -/
def passGap (inFlow : Bool) : Bool → List Char → Mark → Bool → List Char × Mark × Bool
  | _, [], mark, keyAllowed => ([], mark, keyAllowed)
  | inComment, c :: rest, mark, keyAllowed =>
    if isBreak c then passGap inFlow false rest (mark.after c) (keyAllowed || !inFlow)
    else if inComment || c == ' ' || (c == '\t' && (inFlow || !keyAllowed)) ||
        (c == '\ufeff' && mark.column == 0) then
      passGap inFlow inComment rest (mark.after c) keyAllowed
    else if c == '#' then passGap inFlow true rest (mark.after c) keyAllowed
    else (c :: rest, mark, keyAllowed)

/-- The state before the next token. -/
def skipGap (lexer : Lexer) : Lexer :=
  let (rest, mark, keyAllowed) :=
    passGap lexer.inFlow false lexer.rest lexer.mark lexer.keyAllowed
  { lexer with rest, mark, keyAllowed }

/-! ### Indentation -/

/-- Ends the collections that began behind a column, or all of them. -/
def closeBlocks (column : Option Nat) : List Nat → Array Token → List Nat × Array Token
  | [], tokens => ([], tokens)
  | top :: outer, tokens =>
    if column.all fun column => column < top then
      closeBlocks column outer (tokens.push .blockEnd)
    else (top :: outer, tokens)

/-- Ends the collections that began behind a column, or all of them, outside brackets. -/
def unroll (lexer : Lexer) (column : Option Nat) : Lexer :=
  if lexer.inFlow then lexer
  else
    let (indents, tokens) := closeBlocks column lexer.indents lexer.tokens
    { lexer with indents, tokens }

/-- Begins a collection at a column behind that of the innermost one, outside brackets. Its token
is put behind a number of others. -/
def roll (lexer : Lexer) (column position : Nat) (token : Token) : Lexer :=
  if lexer.inFlow || column < lexer.leastColumn then lexer
  else { lexer.emitAt position token with indents := column :: lexer.indents }

/-! ### Possible keys -/

/-- Gives up the possible key, unless it is required to be one. -/
def dropKey (lexer : Lexer) : Option Lexer :=
  match lexer.key with
  | some key => if key.required then none else some { lexer with key := none }
  | none => some lexer

/-- Keeps the next token as a possible key, where a key may follow. -/
def keepKey (lexer : Lexer) : Option Lexer :=
  if lexer.keyAllowed then
    lexer.dropKey.map fun lexer =>
      { lexer with
        key := some
          { position := lexer.tokens.size
            mark := lexer.mark
            required := !lexer.inFlow && lexer.indents.head? == some lexer.mark.column } }
  else some lexer

/-- Whether a possible key can still be one: it is on the line, and not too far back. -/
def isFresh (lexer : Lexer) (key : PossibleKey) : Bool :=
  key.mark.line == lexer.mark.line && lexer.mark.offset ≤ key.mark.offset + 1024

/-! ### Reading tokens -/

def documentMark (lexer : Lexer) (token : Token) : Option Lexer :=
  (lexer.unroll none).dropKey.map fun lexer => ((lexer.allowKey false).pass 3).emit token

def openFlow (lexer : Lexer) (token : Token) : Option Lexer :=
  lexer.keepKey.map fun lexer =>
    (({ lexer with outerKeys := lexer.key :: lexer.outerKeys, key := none }.allowKey true).pass
      1).emit token

def closeFlow (lexer : Lexer) (token : Token) : Option Lexer :=
  lexer.dropKey.map fun lexer =>
    let outer := match lexer.outerKeys with
      | [] => lexer
      | key :: outerKeys => { lexer with key, outerKeys }
    ((outer.allowKey false).pass 1).emit token

/-- Reads the comma between entries in brackets. -/
def flowEntry (lexer : Lexer) : Option Lexer :=
  lexer.dropKey.map fun lexer => ((lexer.allowKey true).pass 1).emit .flowEntry

/-- Begins a collection at the next token, where one may begin. -/
def beginBlock (lexer : Lexer) (token : Token) : Option Lexer :=
  if lexer.inFlow then some lexer
  else if lexer.keyAllowed then some (lexer.roll lexer.mark.column lexer.tokens.size token)
  else none

/-- Reads the hyphen before an entry of a sequence. -/
def blockEntry (lexer : Lexer) : Option Lexer :=
  (lexer.beginBlock .blockSequenceStart).bind fun lexer =>
    lexer.dropKey.map fun lexer => ((lexer.allowKey true).pass 1).emit .blockEntry

/-- Reads the question mark before a key. -/
def explicitKey (lexer : Lexer) : Option Lexer :=
  (lexer.beginBlock .blockMappingStart).bind fun lexer =>
    lexer.dropKey.map fun lexer => ((lexer.allowKey !lexer.inFlow).pass 1).emit .key

/-- Reads a colon behind a key that was possible. -/
def valueOf (lexer : Lexer) (key : PossibleKey) : Lexer :=
  let marked := (lexer.emitAt key.position .key).roll key.mark.column key.position
    .blockMappingStart
  (({ marked with key := none }.allowKey false).pass 1).emit .value

/-- Reads a colon without such a key. -/
def bareValue (lexer : Lexer) : Option Lexer :=
  (lexer.beginBlock .blockMappingStart).map fun lexer =>
    ((lexer.allowKey !lexer.inFlow).pass 1).emit .value

/-- Reads the colon before a value. -/
def value (lexer : Lexer) : Option Lexer :=
  match lexer.key with
  | none => lexer.bareValue
  | some key =>
    if lexer.isFresh key then some (lexer.valueOf key)
    else lexer.dropKey.bind bareValue

def emitScalar (lexer : Lexer) (scanned : Scanned) (isPlain : Bool) : Lexer :=
  { lexer with rest := scanned.rest, mark := scanned.mark }.emit
    (.scalar (String.ofList scanned.text) isPlain)

def quotedScalar (lexer : Lexer) (read : List Char → Mark → Option Scanned) : Option Lexer :=
  lexer.keepKey.bind fun lexer =>
    let inside := (lexer.allowKey false).pass 1
    (read inside.rest inside.mark).map fun scanned => inside.emitScalar scanned false

def blockScalar (lexer : Lexer) (folded : Bool) : Option Lexer :=
  lexer.dropKey.bind fun lexer =>
    let inside := (lexer.allowKey true).pass 1
    (Yaml.blockScalar folded lexer.indents.head? inside.rest inside.mark).map fun scanned =>
      inside.emitScalar scanned false

def plainScalar (lexer : Lexer) : Option Lexer :=
  lexer.keepKey.bind fun lexer =>
    (plain lexer.inFlow lexer.leastColumn lexer.rest lexer.mark .closed []).map
      fun (scanned, crossedLine) => (lexer.allowKey crossedLine).emitScalar scanned true

/-- The characters with a meaning of their own, which begin no plain scalar. -/
def indicators : List Char :=
  ['-', '?', ':', ',', '[', ']', '\x7b', '\x7d', '#', '&', '*', '!', '|', '>', '\'', '"', '%',
    '@', '\u0060']

/-- Whether a plain scalar begins here: with a character that is no indicator, or with a hyphen, a
question mark or a colon that something follows. -/
def beginsPlain (inFlow : Bool) (c : Char) (rest : List Char) : Bool :=
  (!isSpace c && !isBreak c && !indicators.contains c) ||
    (c == '-' && !(rest.head?.any isSpace)) ||
    (!inFlow && (c == '?' || c == ':') && !isGapOrEnd rest)

/-- Reads the token that begins with a character. -/
def token (lexer : Lexer) (c : Char) (rest : List Char) : Option Lexer :=
  let atMark := lexer.mark.column == 0 && atDocumentMark (c :: rest)
  let standsAlone := lexer.inFlow || isGapOrEnd rest
  if lexer.mark.column == 0 && c == '%' then none
  else if atMark && c == '-' then lexer.documentMark .documentStart
  else if atMark then lexer.documentMark .documentEnd
  else if c == '[' then lexer.openFlow .flowSequenceStart
  else if c == '\x7b' then lexer.openFlow .flowMappingStart
  else if c == ']' then lexer.closeFlow .flowSequenceEnd
  else if c == '\x7d' then lexer.closeFlow .flowMappingEnd
  else if c == ',' then lexer.flowEntry
  else if c == '-' && isGapOrEnd rest then lexer.blockEntry
  else if c == '?' && standsAlone then lexer.explicitKey
  else if c == ':' && standsAlone then lexer.value
  else if c == '|' && !lexer.inFlow then lexer.blockScalar false
  else if c == '>' && !lexer.inFlow then lexer.blockScalar true
  else if c == '\'' then lexer.quotedScalar fun text mark => singleQuoted text mark .closed []
  else if c == '"' then
    lexer.quotedScalar fun text mark => doubleQuoted text .outside mark .closed []
  else if beginsPlain lexer.inFlow c rest then lexer.plainScalar
  else none

/-- Reads one token. At the end of the text there is none to read. -/
def step (lexer : Lexer) : Option Lexer :=
  let ready := lexer.skipGap
  match ready.rest with
  | [] => some ready
  | c :: rest => (ready.unroll (some ready.mark.column)).token c rest

/-- Ends the collections that are open at the end of the text. -/
def finish (lexer : Lexer) : Option (List Token) :=
  (lexer.unroll none).dropKey.map fun lexer => lexer.tokens.toList

/-- Reads tokens up to the end of the text. Each step passes a character at least, so that as many
steps as there are characters are enough. -/
def run : Nat → Lexer → Option (List Token)
  | 0, lexer => lexer.finish
  | steps + 1, lexer =>
    lexer.step.bind fun next =>
      match next.rest with
      | [] => next.finish
      | _ :: _ => run steps next

end Lexer

def tokens (text : List Char) : Option (List Token) :=
  if text.all isAllowed then
    let unified := unifyBreaks text
    Lexer.run unified.length (.start unified)
  else none

end Georeference.Yaml
