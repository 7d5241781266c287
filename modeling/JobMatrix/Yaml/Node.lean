import JobMatrix.Yaml.Lexer
import JobMatrix.Yaml.Tag

/-! The nodes of a YAML document, built from its tokens. They form a table, so that an alias leads
to the very node that its anchor names, be it one that is still being read. -/

namespace JobMatrix.Yaml

/-- What a node holds. The parts of a collection are given by their numbers. -/
inductive Content where
  | scalar (text : List Nat)
  | sequence (items : List Nat)
  | mapping (entries : List (Nat × Nat))
deriving Inhabited

structure Node where
  tag : Tag
  content : Content
deriving Inhabited

abbrev Nodes := Array Node

/-- What is left of the tokens and what stands in the way of more, the nodes so far, those with
names, and the tag handles in force. -/
structure Composer where
  tokens : List Token
  obstacle : Option LoadError := none
  nodes : Nodes := #[]
  anchors : Dict String Nat := []
  handles : Dict String String := [("!", "!"), ("!!", standardLead)]

abbrev Compose := StateT Composer (Except LoadError)

namespace Compose

def refuse {α : Type} (p : Problem) : Compose α := throw (.problem p)

def peek : Compose Token := do
  let s ← get
  match s.tokens, s.obstacle with
  | t :: _, _ => return t
  | [], some e => throw e
  | [], none => return .streamEnd

def drop : Compose Unit := modify fun s => { s with tokens := s.tokens.drop 1 }

def add (anchor : Option String) (tag : Tag) (content : Content) : Compose Nat := do
  let s ← get
  let n := s.nodes.size
  match anchor with
  | none => set { s with nodes := s.nodes.push ⟨tag, content⟩ }
  | some name =>
    if Dict.contains s.anchors name then refuse (.duplicateAnchor name)
    set { s with nodes := s.nodes.push ⟨tag, content⟩, anchors := Dict.put s.anchors name n }
  return n

def empty : Compose Nat := add none .null (.scalar [])

def collection (anchor : Option String) (tag : Tag) (parts : Compose Content) : Compose Nat := do
  let n ← add anchor tag (.sequence [])
  let content ← parts
  modify fun s => { s with nodes := s.nodes.set! n ⟨tag, content⟩ }
  return n

def properties : Compose (Option String × Option (Option String × String)) := do
  match ← peek with
  | .anchor name =>
    drop
    match ← peek with
    | .tag handle suffix => drop; return (some name, some (handle, suffix))
    | _ => return (some name, none)
  | .tag handle suffix =>
    drop
    match ← peek with
    | .anchor name => drop; return (some name, some (handle, suffix))
    | _ => return (none, some (handle, suffix))
  | _ => return (none, none)

/-- The full name of a tag; none for the tag that asks for the default. -/
def resolveTag : Option (Option String × String) → Compose (Option String)
  | none => return none
  | some (none, suffix) => return if suffix = "!" then none else some suffix
  | some (some handle, suffix) => do
    match Dict.get? (← get).handles handle with
    | some lead => return if lead ++ suffix = "!" then none else some (lead ++ suffix)
    | none => refuse (.undefinedHandle handle)

def nestingLimit : Nat := 488

mutual

/-- A node inside `depth` collections. In a `block`, block collections may stand; `indentless`
sequences may follow a key in its own column. A scalar with the tag that asks for the default takes
its tag from its text even in quotes. -/
def node : Nat → Nat → Bool → Bool → Compose Nat
  | 0, _, _, _ => refuse .missingContent
  | fuel + 1, depth, block, indentless => do
    if nestingLimit < depth then throw (.fault .tooDeep)
    match ← peek with
    | .alias name =>
      drop
      match Dict.get? (← get).anchors name with
      | some n => return n
      | none => refuse (.undefinedAlias name)
    | _ =>
      let (anchor, written) ← properties
      let tag ← resolveTag written
      let tagOr (default : Tag) : Tag := (tag.map Tag.ofName).getD default
      let absent : Compose Nat :=
        if anchor.isSome || written.isSome then add anchor (tagOr .null) (.scalar [])
        else refuse .missingContent
      let sequence (items : Compose (List Nat)) : Compose Nat :=
        collection anchor (tagOr .sequence) do return .sequence (← items)
      let mapping (entries : Compose (List (Nat × Nat))) : Compose Nat :=
        collection anchor (tagOr .mapping) do return .mapping (← entries)
      match ← peek with
      | .blockEntry => if indentless then sequence (indentlessItems fuel (depth + 1)) else absent
      | .scalar plain text =>
        drop
        let own := if plain || written.isSome then Tag.ofPlain (String.ofList (Text.mended text)) else .text
        add anchor (tagOr own) (.scalar text)
      | .flowSequence => drop; sequence (flowItems fuel (depth + 1) true)
      | .flowMapping => drop; mapping (flowEntries fuel (depth + 1) true)
      | .blockSequence =>
        if block then drop; sequence (blockItems fuel (depth + 1)) else absent
      | .blockMapping =>
        if block then drop; mapping (blockEntries fuel (depth + 1)) else absent
      | _ => absent

def blockItems : Nat → Nat → Compose (List Nat)
  | 0, _ => refuse .unclosedCollection
  | fuel + 1, depth => do
    match ← peek with
    | .blockEntry =>
      drop
      let t ← peek
      let item ← if t = .blockEntry || t = .blockEnd then empty else node fuel depth true false
      return item :: (← blockItems fuel depth)
    | .blockEnd => drop; return []
    | _ => refuse .unclosedCollection

def indentlessItems : Nat → Nat → Compose (List Nat)
  | 0, _ => refuse .unclosedCollection
  | fuel + 1, depth => do
    match ← peek with
    | .blockEntry =>
      drop
      let t ← peek
      let item ← if [Token.blockEntry, .key, .value, .blockEnd].contains t then empty
        else node fuel depth true false
      return item :: (← indentlessItems fuel depth)
    | _ => return []

def blockEntries : Nat → Nat → Compose (List (Nat × Nat))
  | 0, _ => refuse .unclosedCollection
  | fuel + 1, depth => do
    let part : Compose Nat := do
      if [Token.key, .value, .blockEnd].contains (← peek) then empty
      else node fuel depth true true
    match ← peek with
    | .key =>
      drop
      let k ← part
      let v ← if (← peek) = .value then do drop; part else empty
      return (k, v) :: (← blockEntries fuel depth)
    | .blockEnd => drop; return []
    | _ => refuse .unclosedCollection

def flowItems : Nat → Nat → Bool → Compose (List Nat)
  | 0, _, _ => refuse .unclosedCollection
  | fuel + 1, depth, first => do
    if (← peek) = .flowSequenceEnd then drop; return []
    if !first then
      if (← peek) = .flowEntry then drop else refuse .unclosedCollection
    match ← peek with
    | .flowSequenceEnd => drop; return []
    | .key =>
      drop
      let pair ← collection none .mapping do
        let t ← peek
        let k ← if [Token.value, .flowEntry, .flowSequenceEnd].contains t then empty
          else node fuel (depth + 1) false false
        return .mapping [(k, ← flowValue fuel (depth + 1) .flowSequenceEnd)]
      return pair :: (← flowItems fuel depth false)
    | _ =>
      let item ← node fuel depth false false
      return item :: (← flowItems fuel depth false)

/-- The value after a key between brackets, up to the bracket `closing`. -/
def flowValue : Nat → Nat → Token → Compose Nat
  | 0, _, _ => refuse .unclosedCollection
  | fuel + 1, depth, closing => do
    if (← peek) = .value then
      drop
      let t ← peek
      if t = .flowEntry || t = closing then empty else node fuel depth false false
    else empty

def flowEntries : Nat → Nat → Bool → Compose (List (Nat × Nat))
  | 0, _, _ => refuse .unclosedCollection
  | fuel + 1, depth, first => do
    if (← peek) = .flowMappingEnd then drop; return []
    if !first then
      if (← peek) = .flowEntry then drop else refuse .unclosedCollection
    match ← peek with
    | .flowMappingEnd => drop; return []
    | .key =>
      drop
      let t ← peek
      let k ← if [Token.value, .flowEntry, .flowMappingEnd].contains t then empty
        else node fuel depth false false
      let v ← flowValue fuel depth .flowMappingEnd
      return (k, v) :: (← flowEntries fuel depth false)
    | _ =>
      let k ← node fuel depth false false
      return (k, ← empty) :: (← flowEntries fuel depth false)

end

/-- The directives before a document; `version` says whether one on the version came already. -/
def directives : Nat → Bool → Dict String String → Compose (Dict String String)
  | 0, _, handles => return handles
  | fuel + 1, version, handles => do
    match ← peek with
    | .versionDirective major =>
      drop
      if version then refuse .duplicateDirective
      if major ≠ 1 then refuse .incompatibleVersion
      directives fuel true handles
    | .tagDirective handle lead =>
      drop
      if Dict.contains handles handle then refuse .duplicateDirective
      directives fuel version (Dict.put handles handle lead)
    | .otherDirective => drop; directives fuel version handles
    | _ => return handles

def finish : Nat → Compose Unit
  | 0 => refuse .severalDocuments
  | fuel + 1 => do
    match ← peek with
    | .documentEnd => drop; finish fuel
    | .streamEnd => return ()
    | _ => refuse .severalDocuments

def document (fuel : Nat) : Compose (Option Nat) := do
  let t ← peek
  if t = .streamEnd then return none
  let explicit := match t with
    | .versionDirective _ => true
    | .tagDirective _ _ => true
    | .otherDirective => true
    | .documentStart => true
    | _ => false
  if explicit then
    let handles ← directives fuel false []
    modify fun s => { s with handles := s.handles.foldl (fun h e => Dict.putNew h e.1 e.2) handles }
    if (← peek) ≠ .documentStart then refuse .missingDocumentStart
    drop
  let absent := match ← peek with
    | .versionDirective _ => true
    | .tagDirective _ _ => true
    | .otherDirective => true
    | .documentStart => true
    | .documentEnd => true
    | .streamEnd => true
    | _ => false
  let n ← if explicit && absent then empty else node fuel 0 true false
  finish fuel
  return some n

end Compose

/-- The nodes of a text and the number of the first, none for a text without content. -/
def Nodes.read (text : String) : Except LoadError (Option (Nodes × Nat)) := do
  let (ts, obstacle) := tokens text.toList
  let (root, s) ← (Compose.document (4 * ts.length + 8)).run { tokens := ts, obstacle }
  return root.map fun n => (s.nodes, n)

end JobMatrix.Yaml
