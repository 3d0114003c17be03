import ImagePreload.Yaml.Resolve
import ImagePreload.Yaml.Token.Scan

/-!
# The tree of a document

A node is a scalar, a sequence or a mapping, each with its tag. Aliases stand for copies of what
they refer to; one inside the very node that it refers to stands for an empty node of that shape.
-/

namespace ImagePreload.Yaml

inductive Node where
  | scalar (tag text : String)
  | sequence (tag : String) (items : List Node)
  | mapping (tag : String) (entries : List (Node × Node))

instance : Inhabited Node := ⟨.scalar "" ""⟩

def Node.tag : Node → String
  | .scalar tag _ | .sequence tag _ | .mapping tag _ => tag

/-- What is left to read, and what names stand for. -/
structure Composer where
  tokens : List Token
  anchors : List (String × Node)
  handles : List (String × String)
  version : Option (Nat × Nat)

abbrev Compose := StateT Composer Load

namespace Composer

def old (c : Composer) : Bool := c.version == some (1, 1)

end Composer

private def peek : Compose (Option Token) := return (← get).tokens.head?

private def drop : Compose Unit := modify fun c => { c with tokens := c.tokens.drop 1 }

private def fail {α : Type} (flaw : Flaw) : Compose α := fun _ => flawed flaw

/-- Takes the next token if it is the given one. -/
private def take? (t : Token) : Compose Bool := do
  if (← peek) == some t then
    drop
    return true
  else return false

private def expect (t : Token) : Compose Unit := do
  if !(← take? t) then fail .content

private def remember (anchor? : Option String) (node : Node) : Compose Unit :=
  match anchor? with
  | some name => modify fun c => { c with anchors := (name, node) :: c.anchors }
  | none => return ()

/-- The tag of a plain scalar without one of its own. -/
private def plainTag (s : String) : Compose String := fun c =>
  match c.version with
  | none | some (1, 1) | some (1, 2) => .ok ((resolvePlain c.old s).tag, c)
  | some (_, minor) => .error (.version minor)

/-- The full name of a written tag; a lone exclamation mark leaves the choice to the form. -/
private def fullTag (handle : Option String) (suffix : String) : Compose (Option String) := do
  match handle with
  | none => return if suffix == "!" then none else some suffix
  | some h =>
    match (← get).handles.find? (·.1 == h) with
    | some (_, start) => return some (start ++ suffix)
    | none => fail .tag

/-- What stands in front of a node: an anchor, a tag, or both in either order. -/
structure Properties where
  anchor : Option String
  /-- The tag, if there is one that decides. -/
  tag : Option String
  /-- Whether a lone exclamation mark stood there. -/
  bang : Bool

def Properties.isEmpty (p : Properties) : Bool := p.anchor.isNone && p.tag.isNone && !p.bang

private def takeAnchor : Compose (Option String) := do
  match ← peek with
  | some (.anchor name) =>
    drop
    return some name
  | _ => return none

private def takeTag : Compose (Option (Option String)) := do
  match ← peek with
  | some (.tag handle suffix) =>
    drop
    return some (← fullTag handle suffix)
  | _ => return none

private def takeProperties : Compose Properties := do
  let early ← takeAnchor
  let tag ← takeTag
  let anchor ← if early.isSome || tag.isNone then pure early else takeAnchor
  return ⟨anchor, tag.getD none, tag == some none⟩

private def emptyScalar : Compose Node := return .scalar (← plainTag "") ""

private def sequenceTag (p : Properties) : String := p.tag.getD (standardTag "seq")

private def mappingTag (p : Properties) : String := p.tag.getD (standardTag "map")

/-- Ends of a block's entry without content. -/
private def isEntryEnd (ends : List Token) : Compose Bool := do
  match ← peek with
  | some t => return ends.contains t
  | none => return false

mutual

/-- A node in a block, or inside brackets; `indentless` says that the entries of a sequence may
stand at the column of the mapping around it. -/
def composeNode (block indentless : Bool) : Nat → Compose Node
  | 0 => fail .content
  | fuel + 1 => do
    match ← peek with
    | some (.alias name) =>
      drop
      match (← get).anchors.find? (·.1 == name) with
      | some (_, node) => return node
      | none => fail .alias
    | _ =>
      let p ← takeProperties
      match ← peek with
      | some (.scalar text plain) =>
        drop
        let tag ←
          match p.tag with
          | some tag => pure tag
          | none => if plain || p.bang then plainTag text else pure (standardTag "str")
        let node := Node.scalar tag text
        remember p.anchor node
        return node
      | some .blockEntry =>
        if indentless then
          remember p.anchor (.sequence (sequenceTag p) [])
          let items ← composeIndentless fuel
          let node := Node.sequence (sequenceTag p) items
          remember p.anchor node
          return node
        else emptyNode p
      | some .sequenceStart =>
        drop
        remember p.anchor (.sequence (sequenceTag p) [])
        let items ← composeFlowItems true fuel
        let node := Node.sequence (sequenceTag p) items
        remember p.anchor node
        return node
      | some .mappingStart =>
        drop
        remember p.anchor (.mapping (mappingTag p) [])
        let entries ← composeFlowEntries true fuel
        let node := Node.mapping (mappingTag p) entries
        remember p.anchor node
        return node
      | some .blockSequenceStart =>
        if block then
          drop
          remember p.anchor (.sequence (sequenceTag p) [])
          let items ← composeItems fuel
          let node := Node.sequence (sequenceTag p) items
          remember p.anchor node
          return node
        else emptyNode p
      | some .blockMappingStart =>
        if block then
          drop
          remember p.anchor (.mapping (mappingTag p) [])
          let entries ← composeEntries fuel
          let node := Node.mapping (mappingTag p) entries
          remember p.anchor node
          return node
        else emptyNode p
      | _ => emptyNode p
where
  /-- A node without content needs something in front of it. -/
  emptyNode (p : Properties) : Compose Node := do
    if p.isEmpty then fail .content
    else
      let node := Node.scalar (← p.tag.elim (plainTag "") pure) ""
      remember p.anchor node
      return node

/-- The items of a block sequence. -/
def composeItems : Nat → Compose (List Node)
  | 0 => fail .content
  | fuel + 1 => do
    if ← take? .blockEntry then
      let item ←
        if ← isEntryEnd [.blockEntry, .blockEnd] then emptyScalar
        else composeNode true false fuel
      return item :: (← composeItems fuel)
    else
      expect .blockEnd
      return []

/-- The items of a sequence at the column of the mapping around it. -/
def composeIndentless : Nat → Compose (List Node)
  | 0 => fail .content
  | fuel + 1 => do
    if ← take? .blockEntry then
      let item ←
        if ← isEntryEnd [.blockEntry, .key, .value, .blockEnd] then emptyScalar
        else composeNode true false fuel
      return item :: (← composeIndentless fuel)
    else return []

/-- The content of a key or a value of a block mapping. -/
def composeContent : Nat → Compose Node
  | 0 => fail .content
  | fuel + 1 => do
    if ← isEntryEnd [.key, .value, .blockEnd] then emptyScalar else composeNode true true fuel

/-- The entries of a block mapping. -/
def composeEntries : Nat → Compose (List (Node × Node))
  | 0 => fail .content
  | fuel + 1 => do
    let key? ←
      if ← take? .key then pure (some (← composeContent fuel))
      else if !(← get).old && (← peek) == some .value then pure (some (← emptyScalar))
      else pure none
    match key? with
    | none =>
      expect .blockEnd
      return []
    | some key =>
      let value ← if ← take? .value then composeContent fuel else emptyScalar
      return (key, value) :: (← composeEntries fuel)

/-- The items between square brackets. A pair without brackets of its own is a mapping. -/
def composeFlowItems (first : Bool) : Nat → Compose (List Node)
  | 0 => fail .content
  | fuel + 1 => do
    if ← take? .sequenceEnd then return []
    else
      if !first then expect .flowEntry
      if ← take? .key then
        let key ←
          if ← isEntryEnd [.value, .flowEntry, .sequenceEnd] then emptyScalar
          else composeNode false false fuel
        let value ←
          if ← take? .value then
            if ← isEntryEnd [.flowEntry, .sequenceEnd] then emptyScalar
            else composeNode false false fuel
          else emptyScalar
        return .mapping (standardTag "map") [(key, value)] :: (← composeFlowItems false fuel)
      else if ← take? .sequenceEnd then return []
      else
        let item ← composeNode false false fuel
        return item :: (← composeFlowItems false fuel)

/-- The entries between curly brackets. -/
def composeFlowEntries (first : Bool) : Nat → Compose (List (Node × Node))
  | 0 => fail .content
  | fuel + 1 => do
    if ← take? .mappingEnd then return []
    else
      if !first then expect .flowEntry
      if ← take? .key then
        let key ←
          if ← isEntryEnd [.value, .flowEntry, .mappingEnd] then emptyScalar
          else composeNode false false fuel
        let value ← composeFlowValue fuel
        return (key, value) :: (← composeFlowEntries false fuel)
      else if !(← get).old && (← peek) == some .value then
        let key ← emptyScalar
        let value ← composeFlowValue fuel
        return (key, value) :: (← composeFlowEntries false fuel)
      else if ← take? .mappingEnd then return []
      else
        let key ← composeNode false false fuel
        return (key, ← emptyScalar) :: (← composeFlowEntries false fuel)

/-- The value of an entry between curly brackets. -/
def composeFlowValue : Nat → Compose Node
  | 0 => fail .content
  | fuel + 1 => do
    if ← take? .value then
      if ← isEntryEnd [.flowEntry, .mappingEnd] then emptyScalar
      else composeNode false false fuel
    else emptyScalar

end

/-! ## Documents -/

/-- Reads the directives in front of a document. -/
private def takeDirectives : Nat → Bool → Compose Unit
  | 0, _ => return ()
  | fuel + 1, versioned => do
    match ← peek with
    | some (.version major _) =>
      drop
      if versioned then fail .directive
      else if major != 1 then fail .directive
      else takeDirectives fuel true
    | some (.tagHandle handle start) =>
      drop
      if (← get).handles.any (·.1 == handle) then fail .directive
      else
        modify fun c => { c with handles := (handle, start) :: c.handles }
        takeDirectives fuel versioned
    | some .otherDirective =>
      drop
      takeDirectives fuel versioned
    | _ => return ()

private def defaultHandles : List (String × String) := [("!", "!"), ("!!", standardTag "")]

private def addDefaultHandles : Compose Unit :=
  modify fun c => { c with
    handles := c.handles ++ defaultHandles.filter fun (h, _) => !c.handles.any (·.1 == h) }

private def isDirective : Token → Bool
  | .version .. | .tagHandle .. | .otherDirective => true
  | _ => false

/-- The root of the only document, if there is one. -/
private def composeDocument (fuel : Nat) : Compose (Option Node) := do
  match ← peek with
  | none => return none
  | some t =>
    if isDirective t || t == .documentStart then
      takeDirectives fuel false
      addDefaultHandles
      expect .documentStart
      match ← peek with
      | none | some .documentStart | some .documentEnd => return some (← emptyScalar)
      | some t =>
        if isDirective t then return some (← emptyScalar)
        else return some (← composeNode true false fuel)
    else
      addDefaultHandles
      return some (← composeNode true false fuel)

/-- Nothing but the end of the document may follow it; the older version takes several. -/
private def expectEnd : Compose Unit := do
  discard (take? .documentEnd)
  if (← get).old then
    modify fun c => { c with tokens := c.tokens.dropWhile (· == .documentEnd) }
  if (← peek).isSome then fail .secondDocument

/-- The tree of a text, or none if the text holds no document. -/
def compose (text : String) : Load (Option Node × Bool) := do
  let (tokens, version) ← scan text
  let start : Composer := { tokens, anchors := [], handles := [], version }
  let (node?, c) ← ((do
    let node? ← composeDocument (4 * tokens.length + 4)
    expectEnd
    return node?) : Compose (Option Node)).run start
  return (node?, c.old)

end ImagePreload.Yaml
