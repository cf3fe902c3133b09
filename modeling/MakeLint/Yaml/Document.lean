import MakeLint.Yaml.Node
import MakeLint.Yaml.Tokens

/-!
# The document of a YAML text

`Document.ofText` builds the nodes of the first document of a text from its tokens. Every function
gives what it could build together with the state behind it, which is missing after a fault: then
nothing more can be read. Each anchor gets a number, the number of distinct names before it; an
anchor of a name that is used again keeps that count, so the next new name gets the same number.
-/

namespace MakeLint.Yaml

/-- The state between two nodes. -/
structure Composer where
  /-- The tokens that are left. -/
  tokens : List Token
  /-- The numbers of the anchors by name. -/
  anchors : List (List Char × Nat) := []
  /-- The meanings of the tag handles. -/
  handles : List (List Char × List UInt8) := []

/-- A part of a document, and the state behind it unless there is a fault. -/
abbrev Composed (β : Type) := β × Option Composer

/-- The anchor and the tag of a node. -/
structure Properties where
  anchor : Option (List Char) := none
  /-- The handle and the rest of the tag. -/
  tag : Option (List Char × List UInt8) := none

/-- The properties at the start of tokens, in either order, and the tokens behind them. -/
def Properties.take : List Token → Properties × List Token
  | .anchor name :: .tag handle suffix :: rest => (⟨some name, some (handle, suffix)⟩, rest)
  | .anchor name :: rest => (⟨some name, none⟩, rest)
  | .tag handle suffix :: .anchor name :: rest => (⟨some name, some (handle, suffix)⟩, rest)
  | .tag handle suffix :: rest => (⟨none, some (handle, suffix)⟩, rest)
  | rest => ({}, rest)

/-- The bytes of an ASCII text. -/
def asciiBytes (s : String) : List UInt8 := s.toList.map fun c => UInt8.ofNat c.toNat

/-- What the tags of the YAML core start with. -/
def coreTag : List UInt8 := asciiBytes "tag:yaml.org,2002:"

/-- What the bytes of a tag say. -/
def Tag.ofBytes (bytes : List UInt8) : Tag :=
  if bytes = coreTag ++ asciiBytes "bool" then .boolean
  else if bytes = coreTag ++ asciiBytes "int" then .integer
  else if bytes = coreTag ++ asciiBytes "float" then .float
  else if bytes = coreTag ++ asciiBytes "null" then .absent
  else match bytes with
    | 33 :: rest => .own (ByteArray.mk rest.toArray).validateUTF8
    | _ => .other

/-- Whether a tag is the exclamation mark that stands alone. -/
def isLoneMark (bytes : List UInt8) : Bool := bytes = [33]

namespace Composer

/-- The bytes of a tag; a handle without a meaning is a fault. -/
def tagBytes? (s : Composer) : List Char × List UInt8 → Option (List UInt8)
  | ([], suffix) => some suffix
  | (handle, suffix) => (s.handles.lookup handle).map (· ++ suffix)

/-- The number of a new anchor. -/
def addAnchor (s : Composer) (name : List Char) : Nat × Composer :=
  let number := s.anchors.length
  let others := s.anchors.filter (·.1 != name)
  (number, { s with anchors := (name, number) :: others })

/-- The number of the anchor of a node, if it has one. -/
def addAnchor? (s : Composer) : Option (List Char) → Option Nat × Composer
  | none => (none, s)
  | some name => let (number, s) := s.addAnchor name; (some number, s)

/-- The state at some tokens. -/
def goTo (s : Composer) (tokens : List Token) : Composer := { s with tokens }

end Composer

/-- Whether a node is missing in front of a token: where a sequence or mapping in a block goes on.
-/
def Token.endsBlockItem (inMapping : Bool) : Token → Bool
  | .blockEnd => true
  | .blockEntry => !inMapping
  | .key | .value => inMapping
  | _ => false

mutual

/-- The node at the start of the tokens: in a block or in a flow collection, and with or without a
sequence that is not indented. The fuel bounds the number of nodes and rows. -/
def node : Nat → (inBlock unindented : Bool) → Composer → Composed Node
  | 0, _, _, _ => (.broken, none)
  | fuel + 1, inBlock, unindented, s =>
    match s.tokens with
    | .alias name :: rest =>
      match s.anchors.lookup name with
      | some number => (.alias number, some (s.goTo rest))
      | none => (.broken, none)
    | tokens =>
      let (properties, tokens) := Properties.take tokens
      match tokens, properties.tag.mapM s.tagBytes? with
      | [], _ | _, none => (.broken, none)
      | token :: rest, some bytes =>
        let tag := bytes.map Tag.ofBytes
        let (anchor, named) := s.addAnchor? properties.anchor
        match token with
        | .scalar style text =>
          let tag := if bytes.any isLoneMark then none else tag
          (.scalar anchor tag style (String.ofList text), some (named.goTo rest))
        | .flowSequenceStart =>
          let ((items, closed), left) := flowItems fuel true (named.goTo rest)
          (.sequence anchor tag items closed, left)
        | .flowMappingStart =>
          let ((entries, closed), left) := flowEntries fuel true (named.goTo rest)
          (.mapping anchor tag entries closed, left)
        | _ =>
          if unindented ∧ token = .blockEntry then
            let ((items, closed), left) := blockItems fuel true (named.goTo (token :: rest))
            (.sequence anchor tag items closed, left)
          else if inBlock ∧ token = .blockSequenceStart then
            let ((items, closed), left) := blockItems fuel false (named.goTo rest)
            (.sequence anchor tag items closed, left)
          else if inBlock ∧ token = .blockMappingStart then
            let ((entries, closed), left) := blockEntries fuel (named.goTo rest)
            (.mapping anchor tag entries closed, left)
          else if properties.anchor.isSome ∨ tag.isSome then
            (.scalar anchor tag .plain "", some (named.goTo (token :: rest)))
          else (.broken, none)

/-- The items of a block sequence from one of them on, and whether it ends without a fault. One that
is not indented ends before the first token that is no entry. -/
def blockItems : Nat → (unindented : Bool) → Composer → Composed (List Node × Bool)
  | 0, _, _ => (([], false), none)
  | fuel + 1, unindented, s =>
    match s.tokens with
    | .blockEntry :: token :: rest =>
      if token.endsBlockItem false ∨ (unindented ∧ token.endsBlockItem true) then
        let ((items, closed), left) := blockItems fuel unindented (s.goTo (token :: rest))
        ((.empty :: items, closed), left)
      else
        match node fuel true false (s.goTo (token :: rest)) with
        | (item, none) => (([item], false), none)
        | (item, some s) =>
          let ((items, closed), left) := blockItems fuel unindented s
          ((item :: items, closed), left)
    | .blockEntry :: [] | [] => (([], false), none)
    | token :: rest =>
      if unindented then (([], true), some s)
      else if token = .blockEnd then (([], true), some (s.goTo rest))
      else (([], false), none)

/-- The entries of a block mapping from one of them on, and whether it ends without a fault. A key
or a value that is not written is empty. -/
def blockEntries : Nat → Composer → Composed (List (Node × Node) × Bool)
  | 0, _ => (([], false), none)
  | fuel + 1, s =>
    match s.tokens with
    | .blockEnd :: rest => (([], true), some (s.goTo rest))
    | .key :: rest =>
      match blockPart fuel (s.goTo rest) with
      | (key, none) => (([(key, .broken)], false), none)
      | (key, some s) =>
        match blockValue fuel s with
        | (value, none) => (([(key, value)], false), none)
        | (value, some s) =>
          let ((entries, closed), left) := blockEntries fuel s
          (((key, value) :: entries, closed), left)
    | _ => (([], false), none)

/-- The value behind a key of a block mapping. -/
def blockValue : Nat → Composer → Composed Node
  | 0, _ => (.broken, none)
  | fuel + 1, s =>
    match s.tokens with
    | .value :: rest => blockPart fuel (s.goTo rest)
    | [] => (.broken, none)
    | _ => (.empty, some s)

/-- A key or value of a block mapping behind its indicator. -/
def blockPart : Nat → Composer → Composed Node
  | 0, _ => (.broken, none)
  | fuel + 1, s =>
    match s.tokens with
    | [] => (.broken, none)
    | token :: _ =>
      if token.endsBlockItem true then (.empty, some s) else node fuel true true s

/-- The items of a flow sequence from one of them on, and whether it ends without a fault. An item
that starts with a key is a mapping with one entry. -/
def flowItems : Nat → (first : Bool) → Composer → Composed (List Node × Bool)
  | 0, _, _ => (([], false), none)
  | fuel + 1, first, s =>
    match s.tokens with
    | .flowSequenceEnd :: rest => (([], true), some (s.goTo rest))
    | tokens =>
      match (if first then some tokens else afterComma? tokens) with
      | none => (([], false), none)
      | some (.flowSequenceEnd :: rest) => (([], true), some (s.goTo rest))
      | some tokens =>
        let (item, left) := match tokens with
          | .key :: rest => pair fuel (s.goTo rest)
          | _ => node fuel false false (s.goTo tokens)
        match left with
        | none => (([item], false), none)
        | some s =>
          let ((items, closed), left) := flowItems fuel false s
          ((item :: items, closed), left)

/-- The mapping of one entry that an item of a flow sequence is, behind the indicator of its key. If
the key is not written, the token in its place does not count. -/
def pair : Nat → Composer → Composed Node
  | 0, _ => (.broken, none)
  | fuel + 1, s =>
    let (key, left) := match s.tokens with
      | [] => (Node.broken, none)
      | .value :: rest | .flowEntry :: rest | .flowSequenceEnd :: rest =>
        (Node.empty, some (s.goTo rest))
      | _ => node fuel false false s
    match left with
    | none => (.mapping none none [(key, .broken)] false, none)
    | some s =>
      let (value, left) := match s.tokens with
        | [] => (Node.broken, none)
        | .value :: rest => flowPart fuel false (s.goTo rest)
        | _ => (Node.empty, some s)
      -- The end of the mapping shows only with the token behind it.
      match left.filter (!·.tokens.isEmpty) with
      | none => (.mapping none none [(key, value)] false, none)
      | some s => (.mapping none none [(key, value)] true, some s)

/-- The entries of a flow mapping from one of them on, and whether it ends without a fault. An entry
without the indicator of a key has an empty value. -/
def flowEntries : Nat → (first : Bool) → Composer → Composed (List (Node × Node) × Bool)
  | 0, _, _ => (([], false), none)
  | fuel + 1, first, s =>
    match s.tokens with
    | .flowMappingEnd :: rest => (([], true), some (s.goTo rest))
    | tokens =>
      match (if first then some tokens else afterComma? tokens) with
      | none => (([], false), none)
      | some (.flowMappingEnd :: rest) => (([], true), some (s.goTo rest))
      | some tokens =>
        let ((key, value), left) := match tokens with
          | .key :: rest => flowEntry fuel (s.goTo rest)
          | _ =>
            match node fuel false false (s.goTo tokens) with
            | (key, some s) =>
              if s.tokens.isEmpty then ((key, .broken), none) else ((key, .empty), some s)
            | (key, none) => ((key, .broken), none)
        match left with
        | none => (([(key, value)], false), none)
        | some s =>
          let ((entries, closed), left) := flowEntries fuel false s
          (((key, value) :: entries, closed), left)

/-- An entry of a flow mapping behind the indicator of its key. -/
def flowEntry : Nat → Composer → Composed (Node × Node)
  | 0, _ => ((.broken, .broken), none)
  | fuel + 1, s =>
    let (key, left) := match s.tokens with
      | .value :: _ => (Node.empty, some s)
      | _ => flowPart fuel true s
    match left with
    | none => ((key, .broken), none)
    | some s =>
      let (value, left) := match s.tokens with
        | [] => (Node.broken, none)
        | .value :: rest => flowPart fuel true (s.goTo rest)
        | _ => (Node.empty, some s)
      ((key, value), left)

/-- A key or value in a flow collection behind its indicator; it is empty if the collection goes on
or ends there. -/
def flowPart : Nat → (inMapping : Bool) → Composer → Composed Node
  | 0, _, _ => (.broken, none)
  | fuel + 1, inMapping, s =>
    match s.tokens with
    | [] => (.broken, none)
    | token :: _ =>
      if token = .flowEntry ∨ token = (if inMapping then .flowMappingEnd else .flowSequenceEnd) then
        (.empty, some s)
      else node fuel false false s

/-- The tokens behind the comma of a flow collection, of which there must be one. -/
def afterComma? : List Token → Option (List Token)
  | .flowEntry :: token :: rest => some (token :: rest)
  | _ => none

end

/-- The directives of a document. -/
structure Directives where
  versionSeen : Bool := false
  handles : List (List Char × List UInt8) := []

/-- The directives at the start of tokens, and the tokens behind them. Neither the version nor the
meaning of a handle may be said twice, and the version must be 1.1 or 1.2. -/
def Directives.take? : Directives → List Token → Option (Directives × List Token)
  | d, .version major minor :: rest =>
    if d.versionSeen ∨ major ≠ 1 ∨ minor ∉ [1, 2] then none
    else take? { d with versionSeen := true } rest
  | d, .tagHandle handle meaning :: rest =>
    if (d.handles.lookup handle).isSome then none
    else take? { d with handles := (handle, meaning) :: d.handles } rest
  | d, rest => some (d, rest)

/-- The meanings of the handles that a document need not declare. -/
def standardHandles : List (List Char × List UInt8) := [(['!'], [33]), (['!', '!'], coreTag)]

/-- The document of a YAML text. -/
structure Document where
  /-- The node that it consists of. -/
  root : Node
  /-- Whether the text holds the whole document and nothing else. -/
  sound : Bool

namespace Document

/-- Whether nothing but the marks of the end of a document comes before the end of the tokens. -/
def isEnd (tokens : List Token) : Bool :=
  match tokens.dropWhile (· = .documentEnd) with
  | .streamEnd :: _ => true
  | _ => false

/-- The document whose node is at the start of some tokens. -/
def ofNode (handles : List (List Char × List UInt8)) (tokens : List Token) : Document :=
  let (root, left) := node (8 * tokens.length + 8) true false
    { tokens, handles := handles ++ standardHandles }
  ⟨root, left.any (isEnd ·.tokens)⟩

/-- The document behind the mark of its start: without any node it is an empty scalar. -/
def ofContent (handles : List (List Char × List UInt8)) (tokens : List Token) : Document :=
  match tokens with
  | .version _ _ :: _ | .tagHandle _ _ :: _ | .documentStart :: _ | .documentEnd :: _
  | .streamEnd :: _ => ⟨.empty, isEnd tokens⟩
  | _ => ofNode handles tokens

/-- The first document of some tokens. Without any node it is an empty scalar; after directives the
mark of its start must follow. -/
def ofTokens (tokens : List Token) : Document :=
  match tokens with
  | .streamEnd :: _ => ⟨.empty, true⟩
  | .version _ _ :: _ | .tagHandle _ _ :: _ | .documentStart :: _ =>
    match Directives.take? {} tokens with
    | some (d, .documentStart :: rest) => ofContent d.handles rest
    | _ => ⟨.broken, false⟩
  | _ => ofNode [] tokens

/-- The first document of a text. -/
def ofText (text : String) : Document := ofTokens (Tokens.ofText text.toList)

/-- The node that the aliases of an anchor number stand for: of several nodes with one number the
last to start. -/
def target? (d : Document) (number : Nat) : Option Node := d.root.anchored.reverse.lookup number

end Document

end MakeLint.Yaml
