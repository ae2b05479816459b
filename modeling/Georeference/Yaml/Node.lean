/-
**Values in a YAML text.**

A text holds at most one document, whose value is a scalar, a sequence or a mapping. Where a value
is left out there is an empty plain scalar, and a text without a document stands for one too. The
entries of a mapping keep their order, and nothing is asked of its keys.

* `Node`.
* `Node.ofTokens`: the value that tokens describe.
* `Node.read`: the value of a text.
-/

import Georeference.Yaml.Token

namespace Georeference.Yaml

inductive Node where
  | scalar (text : String) (isPlain : Bool)
  | sequence (items : List Node)
  | mapping (entries : List (Node × Node))

namespace Node

/-- What stands for a value that is left out. -/
def blank : Node := .scalar "" true

/-- Whether the next token is one of some. -/
def nextIn (stops : List Token) (tokens : List Token) : Bool :=
  match tokens with
  | [] => false
  | token :: _ => stops.contains token

mutual

/-- Reads a value. Collections without brackets are read where they may stand, and a sequence that
is not indented where one may stand. -/
def ofTokens (block bareSequence : Bool) : Nat → List Token → Option (Node × List Token)
  | 0, _ => none
  | fuel + 1, tokens =>
    match tokens with
    | .scalar text isPlain :: rest => some (.scalar text isPlain, rest)
    | .flowSequenceStart :: rest =>
      (flowItems true fuel rest).map fun (items, rest) => (.sequence items, rest)
    | .flowMappingStart :: rest =>
      (flowEntries true fuel rest).map fun (entries, rest) => (.mapping entries, rest)
    | .blockEntry :: _ =>
      if bareSequence then (bareItems fuel tokens).map fun (items, rest) => (.sequence items, rest)
      else none
    | .blockSequenceStart :: rest =>
      if block then (blockItems fuel rest).map fun (items, rest) => (.sequence items, rest)
      else none
    | .blockMappingStart :: rest =>
      if block then (blockEntries fuel rest).map fun (entries, rest) => (.mapping entries, rest)
      else none
    | _ => none

/-- Reads a value, or takes one for left out before one of some tokens. -/
def orBlank (stops : List Token) (block bareSequence : Bool) :
    Nat → List Token → Option (Node × List Token)
  | 0, _ => none
  | fuel + 1, tokens =>
    if nextIn stops tokens then some (blank, tokens) else ofTokens block bareSequence fuel tokens

/-- Reads the items of an indented sequence. -/
def blockItems : Nat → List Token → Option (List Node × List Token)
  | 0, _ => none
  | fuel + 1, tokens =>
    match tokens with
    | .blockEntry :: rest =>
      (orBlank [.blockEntry, .blockEnd] true false fuel rest).bind fun (item, rest) =>
        (blockItems fuel rest).map fun (items, rest) => (item :: items, rest)
    | .blockEnd :: rest => some ([], rest)
    | _ => none

/-- Reads the items of a sequence that is not indented, up to a token that begins no item. -/
def bareItems : Nat → List Token → Option (List Node × List Token)
  | 0, _ => none
  | fuel + 1, tokens =>
    match tokens with
    | .blockEntry :: rest =>
      (orBlank [.blockEntry, .key, .value, .blockEnd] true false fuel rest).bind
        fun (item, rest) =>
          (bareItems fuel rest).map fun (items, rest) => (item :: items, rest)
    | _ => some ([], tokens)

/-- Reads the entries of an indented mapping. -/
def blockEntries : Nat → List Token → Option (List (Node × Node) × List Token)
  | 0, _ => none
  | fuel + 1, tokens =>
    match tokens with
    | .key :: rest =>
      (orBlank [.key, .value, .blockEnd] true true fuel rest).bind fun (key, rest) =>
        (afterKey [.key, .value, .blockEnd] true fuel rest).bind fun (value, rest) =>
          (blockEntries fuel rest).map fun (entries, rest) => ((key, value) :: entries, rest)
    | .blockEnd :: rest => some ([], rest)
    | _ => none

/-- Reads the value that belongs to a key, which may be left out with or without its colon. -/
def afterKey (stops : List Token) (block : Bool) : Nat → List Token → Option (Node × List Token)
  | 0, _ => none
  | fuel + 1, tokens =>
    match tokens with
    | .value :: rest => orBlank stops block block fuel rest
    | _ => some (blank, tokens)

/-- Reads the items of a sequence in brackets. A key among them begins a mapping of one entry; where
that key is left out, the token in its place is passed over. -/
def flowItems (isFirst : Bool) : Nat → List Token → Option (List Node × List Token)
  | 0, _ => none
  | fuel + 1, tokens =>
    match tokens with
    | .flowSequenceEnd :: rest => some ([], rest)
    | _ =>
      (if isFirst then some tokens
        else match tokens with
          | .flowEntry :: rest => some rest
          | _ => none).bind fun tokens =>
        match tokens with
        | .flowSequenceEnd :: rest => some ([], rest)
        | .key :: rest =>
          (if nextIn [.value, .flowEntry, .flowSequenceEnd] rest then some (blank, rest.drop 1)
            else ofTokens false false fuel rest).bind fun (key, rest) =>
            (afterKey [.flowEntry, .flowSequenceEnd] false fuel rest).bind fun (value, rest) =>
              (flowItems false fuel rest).map fun (items, rest) =>
                (.mapping [(key, value)] :: items, rest)
        | _ =>
          (ofTokens false false fuel tokens).bind fun (item, rest) =>
            (flowItems false fuel rest).map fun (items, rest) => (item :: items, rest)

/-- Reads the entries of a mapping in brackets, a value alone being a key without a value. -/
def flowEntries (isFirst : Bool) : Nat → List Token → Option (List (Node × Node) × List Token)
  | 0, _ => none
  | fuel + 1, tokens =>
    match tokens with
    | .flowMappingEnd :: rest => some ([], rest)
    | _ =>
      (if isFirst then some tokens
        else match tokens with
          | .flowEntry :: rest => some rest
          | _ => none).bind fun tokens =>
        match tokens with
        | .flowMappingEnd :: rest => some ([], rest)
        | .key :: rest =>
          (orBlank [.value, .flowEntry, .flowMappingEnd] false false fuel rest).bind
            fun (key, rest) =>
              (afterKey [.flowEntry, .flowMappingEnd] false fuel rest).bind fun (value, rest) =>
                (flowEntries false fuel rest).map fun (entries, rest) =>
                  ((key, value) :: entries, rest)
        | _ =>
          (ofTokens false false fuel tokens).bind fun (key, rest) =>
            (flowEntries false fuel rest).map fun (entries, rest) => ((key, blank) :: entries, rest)

end

/-- Reads the value of a document. Every value and every part of a collection uses up a token, and
no more than three steps lie between one token and the next. -/
def ofDocument (tokens : List Token) : Option (Node × List Token) :=
  ofTokens true false (3 * tokens.length + 3) tokens

def ofOnlyDocument (tokens : List Token) : Option Node :=
  let content := match tokens with
    | [] => some (blank, [])
    | .documentStart :: rest =>
      if rest.isEmpty || nextIn [.documentStart, .documentEnd] rest then some (blank, rest)
      else ofDocument rest
    | _ => ofDocument tokens
  content.bind fun (node, rest) =>
    if rest.all (· == .documentEnd) then some node else none

def read (text : String) : Option Node :=
  (tokens text.toList).bind ofOnlyDocument

/-! ### Typed access -/

def text? : Node → Option String
  | .scalar text _ => some text
  | _ => none

/-- The items of a sequence; a value that is left out has none. -/
def items? : Node → Option (List Node)
  | .sequence items => some items
  | .scalar "" true => some []
  | _ => none

/-- The entries of a mapping whose keys are scalars, by the texts of the keys; a value that is left
out has none. -/
def fields? : Node → Option (List (String × Node))
  | .mapping entries => entries.mapM fun (key, value) => key.text?.map fun name => (name, value)
  | .scalar "" true => some []
  | _ => none

end Node

end Georeference.Yaml
