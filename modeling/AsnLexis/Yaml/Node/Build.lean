import AsnLexis.Yaml.Node
import AsnLexis.Yaml.Token.Stream

/-! The first document of a token stream. -/

namespace AsnLexis.Yaml

/-- What is known while nodes are built: the tokens left, names and nodes of the anchors, how many
there are, and what the handles of tags stand for. -/
structure Building where
  stream : TokenStream
  names : List (Bytes × Nat) := []
  anchored : List (Nat × Node) := []
  anchors : Nat := 0
  handles : List (Bytes × Bytes) := []

abbrev Build := StateT Building (Except Problem)

namespace Build

def peek : Build Token := do
  let stream := (← get).stream
  match stream.tokens, stream.problem with
  | token :: _, _ => return token
  | [], some problem => throw problem
  | [], none => return ⟨⟨0, 0, 0⟩, .streamEnd⟩

def skip : Build Unit :=
  modify fun b => { b with stream := { b.stream with tokens := b.stream.tokens.tail } }

def fail {α : Type} (context place : Mark) (text : String) : Build α :=
  throw (.parsing context place text)

structure Properties where
  start : Mark
  anchor : Option Bytes := none
  tag : Option (Mark × Bytes × Bytes) := none

def properties : Build Properties := do
  let first ← peek
  match first.sign with
  | .anchor name =>
    skip
    let second ← peek
    match second.sign with
    | .tag handle suffix =>
      skip
      return ⟨first.mark, some name, some (second.mark, handle, suffix)⟩
    | _ => return ⟨first.mark, some name, none⟩
  | .tag handle suffix =>
    skip
    let second ← peek
    match second.sign with
    | .anchor name =>
      skip
      return ⟨first.mark, some name, some (first.mark, handle, suffix)⟩
    | _ => return ⟨first.mark, none, some (first.mark, handle, suffix)⟩
  | _ => return ⟨first.mark, none, none⟩

def givenTag (p : Properties) : Build (Option Tag) := do
  match p.tag with
  | none => return none
  | some (mark, handle, suffix) =>
    let text ←
      if handle.isEmpty then pure suffix
      else
        match (← get).handles.lookup handle with
        | some lead =>
          if (lead ++ suffix).isEmpty then fail p.start mark "found undefined tag handle"
          else pure (lead ++ suffix)
        | none => fail p.start mark "found undefined tag handle"
    return if text == utf8 "!" then none else some (.ofText text)

def openAnchor (name : Option Bytes) : Build (Option Nat) := do
  match name with
  | none => return none
  | some name =>
    let number := (← get).anchors
    modify fun b => { b with names := (name, number) :: b.names, anchors := number + 1 }
    return some number

def closeAnchor (number : Option Nat) (node : Node) : Build Node := do
  match number with
  | none => return node
  | some number =>
    modify fun b => { b with anchored := (number, node) :: b.anchored }
    return node

def reference (mark : Mark) (name : Bytes) : Build Node := do
  match (← get).names.lookup name with
  | some target =>
    skip
    return .reference (mark.line + 1) name target
  | none => throw (.plain (utf8 "unknown anchor '" ++ name ++ utf8 "' referenced"))

/-- Behind properties an empty scalar may stand, and nothing else that is no node. -/
def emptyNode (p : Properties) (tag : Option Tag) (token : Token) : Build Node := do
  if p.anchor.isSome || p.tag.isSome then
    let number ← openAnchor p.anchor
    let line := p.start.line + 1
    closeAnchor number (match tag with
      | some tag => .scalar line tag []
      | none => .ofScalar line true [])
  else fail p.start token.mark "did not find expected node content"

def endsEntry (sign : Sign) : Bool := [.key, .value, .blockEnd].contains sign

def endsFlowEntry (sign : Sign) : Bool := sign == .flowEntry || sign == .flowMappingEnd

mutual

/-- A node. Blocks may stand here or not, and a sequence with the indentation of its key. The
numbers that count down bound depth and length of what is built. -/
def node : Nat → (block indentless : Bool) → Build Node
  | 0, _, _ => return .nothing (← peek).mark
  | count + 1, block, indentless => do
    let first ← peek
    match first.sign with
    | .reference name => reference first.mark name
    | _ =>
      let p ← properties
      let tag ← givenTag p
      let token ← peek
      let line := p.start.line + 1
      match token.sign with
      | .blockEntry =>
        if indentless then
          let number ← openAnchor p.anchor
          let items ← indentlessItems count
          closeAnchor number (.sequence line (tag.getD .seq) items)
        else emptyNode p tag token
      | .scalar plain text =>
        let number ← openAnchor p.anchor
        skip
        closeAnchor number (match tag with
          | some tag => .scalar line tag text
          | none => .ofScalar line plain text)
      | .flowSequenceStart =>
        let number ← openAnchor p.anchor
        skip
        let items ← flowItems count token.mark true
        closeAnchor number (.sequence line (tag.getD .seq) items)
      | .flowMappingStart =>
        let number ← openAnchor p.anchor
        skip
        let entries ← flowEntries count token.mark true
        closeAnchor number (.mapping line (tag.getD .map) entries)
      | .blockSequenceStart =>
        if block then
          let number ← openAnchor p.anchor
          skip
          let items ← blockItems count token.mark
          closeAnchor number (.sequence line (tag.getD .seq) items)
        else emptyNode p tag token
      | .blockMappingStart =>
        if block then
          let number ← openAnchor p.anchor
          skip
          let entries ← blockEntries count token.mark
          closeAnchor number (.mapping line (tag.getD .map) entries)
        else emptyNode p tag token
      | _ => emptyNode p tag token

def blockItems : Nat → Mark → Build (List Node)
  | 0, _ => return []
  | count + 1, context => do
    let token ← peek
    match token.sign with
    | .blockEntry =>
      skip
      let next ← peek
      let item ←
        if next.sign == .blockEntry || next.sign == .blockEnd then pure (.nothing token.mark)
        else node count true false
      return item :: (← blockItems count context)
    | .blockEnd =>
      skip
      return []
    | _ => fail context token.mark "did not find expected '-' indicator"

def indentlessItems : Nat → Build (List Node)
  | 0 => return []
  | count + 1 => do
    let token ← peek
    match token.sign with
    | .blockEntry =>
      skip
      let next ← peek
      let item ←
        if next.sign == .blockEntry || endsEntry next.sign then pure (.nothing token.mark)
        else node count true false
      return item :: (← indentlessItems count)
    | _ => return []

def blockEntries : Nat → Mark → Build (List (Node × Node))
  | 0, _ => return []
  | count + 1, context => do
    let token ← peek
    match token.sign with
    | .key =>
      skip
      let next ← peek
      let key ← if endsEntry next.sign then pure (.nothing token.mark) else node count true true
      let value ← blockValue count
      return (key, value) :: (← blockEntries count context)
    | .blockEnd =>
      skip
      return []
    | _ => fail context token.mark "did not find expected key"

def blockValue : Nat → Build Node
  | 0 => return .nothing (← peek).mark
  | count + 1 => do
    let token ← peek
    if token.sign == .value then
      skip
      let next ← peek
      if endsEntry next.sign then return .nothing token.mark else node count true true
    else return .nothing token.mark

def flowItems : Nat → Mark → (first : Bool) → Build (List Node)
  | 0, _, _ => return []
  | count + 1, context, first => do
    let token ← peek
    if token.sign == .flowSequenceEnd then
      skip
      return []
    else
      let token ←
        if first then pure token
        else if token.sign == .flowEntry then do
          skip
          peek
        else fail context token.mark "did not find expected ',' or ']'"
      match token.sign with
      | .flowSequenceEnd =>
        skip
        return []
      | .key =>
        skip
        let entry ← flowPair count
        return .mapping (token.mark.line + 1) .map [entry] :: (← flowItems count context false)
      | _ =>
        let item ← node count false false
        return item :: (← flowItems count context false)

def flowPair : Nat → Build (Node × Node)
  | 0 => return (.nothing (← peek).mark, .nothing (← peek).mark)
  | count + 1 => do
    let ends (sign : Sign) : Bool := sign == .flowEntry || sign == .flowSequenceEnd
    let token ← peek
    let key ←
      if token.sign == .value || ends token.sign then do
        skip
        pure (.nothing token.mark)
      else node count false false
    let token ← peek
    if token.sign == .value then
      skip
      let next ← peek
      if ends next.sign then return (key, .nothing token.mark)
      else return (key, ← node count false false)
    else return (key, .nothing token.mark)

def flowEntries : Nat → Mark → (first : Bool) → Build (List (Node × Node))
  | 0, _, _ => return []
  | count + 1, context, first => do
    let token ← peek
    if token.sign == .flowMappingEnd then
      skip
      return []
    else
      let token ←
        if first then pure token
        else if token.sign == .flowEntry then do
          skip
          peek
        else fail context token.mark "did not find expected ',' or '\x7d'"
      match token.sign with
      | .flowMappingEnd =>
        skip
        return []
      | .key =>
        skip
        let next ← peek
        let key ← if endsFlowEntry next.sign || next.sign == .value then pure (.nothing next.mark)
          else node count false false
        let token ← peek
        let value ←
          if token.sign == .value then do
            skip
            let next ← peek
            if endsFlowEntry next.sign then pure (.nothing next.mark) else node count false false
          else pure (.nothing token.mark)
        return (key, value) :: (← flowEntries count context false)
      | _ =>
        let key ← node count false false
        let value := Node.nothing (← peek).mark
        return (key, value) :: (← flowEntries count context false)

end

def usualHandles : List (Bytes × Bytes) := [(utf8 "!", utf8 "!"), (utf8 "!!", Tag.long)]

def addHandle (handle lead : Bytes) : Build Unit :=
  modify fun b => { b with handles := b.handles ++ [(handle, lead)] }

/-- Reads directives, at most `count` of them. Only version 1.1 is known. -/
def directives : Nat → (versionGiven : Bool) → Build Unit
  | 0, _ => return
  | count + 1, versionGiven => do
    let token ← peek
    let none : Mark := ⟨0, 0, 0⟩
    match token.sign with
    | .versionDirective major minor =>
      if versionGiven then fail none token.mark "found duplicate %YAML directive"
      else if (major, minor) != (1, 1) then fail none token.mark "found incompatible YAML document"
      else
        skip
        directives count true
    | .tagDirective handle lead =>
      if ((← get).handles.lookup handle).isSome then
        fail none token.mark "found duplicate %TAG directive"
      else
        addHandle handle lead
        skip
        directives count versionGiven
    | _ => modify fun b => { b with handles := b.handles ++ usualHandles }

def document (count : Nat) : Build (Option Node) := do
  skip
  let token ← peek
  match token.sign with
  | .streamEnd => return none
  | .versionDirective _ _ | .tagDirective _ _ | .documentStart =>
    directives count false
    let token ← peek
    if token.sign != .documentStart then
      fail ⟨0, 0, 0⟩ token.mark "did not find expected <document start>"
    else
      skip
      let next ← peek
      let root ← match next.sign with
        | .versionDirective _ _ | .tagDirective _ _ | .documentStart | .documentEnd | .streamEnd =>
          pure (.nothing next.mark)
        | _ => node count true false
      let _ ← peek
      return some root
  | _ =>
    directives count false
    let root ← node count true false
    let _ ← peek
    return some root

end Build

def Document.read (bytes : Bytes) : Except Problem (Option Document) := do
  let stream := TokenStream.ofText (.ofBytes bytes)
  let start : Build (Option Node) := do
    let _ ← Build.peek
    Build.document (4 * stream.tokens.length + 16)
  let (root, b) ← start.run { stream := stream }
  return root.map fun root => ⟨root, b.anchored⟩

end AsnLexis.Yaml
