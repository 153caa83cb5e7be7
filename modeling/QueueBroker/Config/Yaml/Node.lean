import QueueBroker.Config.Yaml.Token
import QueueBroker.Number.Whole

/-!
# YAML nodes

What the tokens of a text say: scalars, sequences and mappings. A node with an anchor stands also where an alias names it. A plain
scalar is a truth value, a number or nothing if it reads like one, unless its tag says otherwise.
-/

namespace QueueBroker.Yaml

/-- A scalar. A real number keeps its spelling. -/
inductive Scalar where
  | nothing
  | boolean (b : Bool)
  | integer (n : Int)
  | real (spelling : String)
  | text (s : String)
deriving DecidableEq, Repr

/-- A node of a document. -/
inductive Node where
  /-- A node that its tag does not fit, or an alias inside the node it names. -/
  | absent
  | scalar (s : Scalar)
  | sequence (items : List Node)
  | mapping (entries : List (Scalar × Node))
deriving Repr, Inhabited

/-! ## Scalars -/

namespace Scalar

/-- Words for numbers that are infinite or none. -/
def specialReals : List String :=
  [".inf", ".Inf", ".INF", "+.inf", "+.Inf", "+.INF", "-.inf", "-.Inf", "-.INF", ".nan", "NaN", ".NaN", ".NAN"]

/-- Whether a text spells a real number. -/
def isReal (s : String) : Bool :=
  specialReals.contains s || (Real.parse? s).isSome

/-- The integer that a text spells. A plus may stand before another sign. -/
def integer? (s : String) : Option Int :=
  match s.toList with
  | '0' :: 'x' :: ds => Whole.signedInBase? 16 ds
  | '0' :: 'o' :: ds => Whole.signedInBase? 8 ds
  | '+' :: ds => Whole.signedInBase? 10 ds
  | ds => Whole.signedInBase? 10 ds

/-- The scalar that a plain text stands for. -/
def ofPlain (s : String) : Scalar :=
  if s = "" ∨ s = "~" ∨ s = "null" then nothing
  else if s = "true" then boolean true
  else if s = "false" then boolean false
  else
    match integer? s with
    | some n => integer n
    | none => if isReal s then real s else text s

/-- What tags of the basic types begin with. -/
def basicTag : String := "tag:yaml.org,2002:"

/-- The scalar that a plain text stands for by its tag. -/
def ofTagged? (handle rest : String) (s : String) : Option Scalar :=
  if handle ≠ basicTag then some (text s)
  else if rest = "bool" then
    if s = "true" then some (boolean true) else if s = "false" then some (boolean false) else none
  else if rest = "int" then (Whole.signed? s).map integer
  else if rest = "float" then if isReal s then some (real s) else none
  else if rest = "null" then if s = "~" ∨ s = "null" then some nothing else none
  else some (text s)

end Scalar

/-! ## Reading nodes -/

/-- What is left of the tokens, and what is known so far. -/
structure Building where
  tokens : List Token
  /-- The number of the node that an anchor names, the newest first. -/
  anchors : List (String × Nat) := []
  /-- The nodes with anchors that are complete. -/
  nodes : List (Nat × Node) := []
  /-- How many anchors were read. -/
  count : Nat := 0
  /-- What tags with a handle begin with. -/
  handles : List (String × String) := []

/-- Something that reads a part of the tokens. -/
abbrev Builder := StateT Building Option

namespace Builder

variable {α : Type}

/-- Refuse the text. -/
def refuse : Builder α := fun _ => none

/-- The next token, not taken. -/
def peek : Builder (Option Token) := do
  pure (← get).tokens.head?

/-- Pass over a token. -/
def skip : Builder Unit :=
  modify fun b => { b with tokens := b.tokens.tail }

/-- Whether one of some tokens is next, or the end. -/
def isNext (ts : List Token) : Builder Bool := do
  match ← peek with
  | some t => pure (ts.contains t)
  | none => pure false

/-- Take a token if it is next, and say whether it was. -/
def takeIf (t : Token) : Builder Bool := do
  if ← isNext [t] then
    skip
    pure true
  else pure false

/-- Take a token that must be next. -/
def expect (t : Token) : Builder Unit := do
  if ← takeIf t then pure () else refuse

/-- Give an anchor the next number. -/
def addAnchor (name : String) : Builder Nat := do
  let b ← get
  set { b with anchors := (name, b.count) :: b.anchors, count := b.count + 1 }
  pure b.count

/-- What a tag begins with for its handle. A handle between two marks that has no beginning is refused. -/
def resolve (handle rest : String) : Builder (String × String) := do
  match (← get).handles.lookup handle with
  | some start => pure (start, rest)
  | none =>
    if handle = "!!" then pure (Scalar.basicTag, rest)
    else if 2 ≤ handle.length ∧ handle.endsWith "!" then refuse
    else pure (handle, rest)

/-- What stands before a node: the number of its anchor, and its tag. -/
structure Properties where
  anchor : Option Nat := none
  tag : Option (String × String) := none

/-- Read the anchor and the tag of a node, in either order. -/
def properties : Builder Properties := do
  let anchor : Builder (Option Nat) := do
    match ← peek with
    | some (.anchor name) =>
      skip
      some <$> addAnchor name
    | _ => pure none
  let tag : Builder (Option (String × String)) := do
    match ← peek with
    | some (.tag handle rest) =>
      skip
      some <$> resolve handle rest
    | _ => pure none
  match ← anchor with
  | some n => pure ⟨some n, ← tag⟩
  | none =>
    match ← tag with
    | some t => pure ⟨← anchor, some t⟩
    | none => pure {}

/-- Note that a node is complete. -/
def complete (p : Properties) (node : Node) : Builder Node := do
  match p.anchor with
  | some n => modify fun b => { b with nodes := (n, node) :: b.nodes }
  | none => pure ()
  pure node

/-- The node of a scalar. -/
def scalarNode (p : Properties) (plain : Bool) (s : String) : Node :=
  if !plain then .scalar (.text s)
  else
    match p.tag with
    | none => .scalar (.ofPlain s)
    | some (handle, rest) =>
      match Scalar.ofTagged? handle rest s with
      | some v => .scalar v
      | none => .absent

/-- A node that has an anchor or a tag and is left out otherwise. -/
def leftOut (p : Properties) : Builder Node :=
  if p.anchor.isSome || p.tag.isSome then complete p (scalarNode p true "") else refuse

/-- The node that an alias stands for. It is absent while it is not complete. -/
def aliased (name : String) : Builder Node := do
  let b ← get
  match b.anchors.lookup name with
  | some n => pure ((b.nodes.lookup n).getD .absent)
  | none => refuse

/-- Nothing, where a node may be left out. -/
def empty : Node := .scalar .nothing

/-- The mapping with some keys and values in turn. No two keys are the same, and only scalars are keys. An absent key does not
count, so that its value takes its place. -/
def mappingOf? (found : List (Scalar × Node)) (key : Node) : List Node → Option Node
  | [] => some (.mapping found.reverse)
  | node :: nodes =>
    match key with
    | .absent => mappingOf? found node nodes
    | .scalar k => if found.any (·.1 == k) then none else mappingOf? ((k, node) :: found) .absent nodes
    | _ => none

/-- The mapping with some keys and values in turn. -/
def mapping (nodes : List Node) : Builder Node :=
  match mappingOf? [] .absent nodes with
  | some node => pure node
  | none => refuse

mutual

/-- A node. Collections by indentation only count if `byIndent`, and items without indentation of their own only if `bareItems`.
The fuel of this and what follows is more than three times the number of tokens. -/
def node (byIndent bareItems : Bool) : (fuel : Nat) → Builder Node
  | 0 => refuse
  | fuel + 1 => do
    match ← peek with
    | some (.alias name) =>
      skip
      aliased name
    | _ =>
      let p ← properties
      match ← peek with
      | some .dash =>
        if bareItems then
          let items ← bareItemNodes fuel
          complete p (.sequence items)
        else leftOut p
      | some (.scalar plain s) =>
        skip
        complete p (scalarNode p plain s)
      | some .openSequence =>
        skip
        let items ← bracketItems true fuel
        complete p (.sequence items)
      | some .openMapping =>
        skip
        let nodes ← bracketEntries true fuel
        complete p (← mapping nodes)
      | some .sequence =>
        if byIndent then
          skip
          let items ← indentedItems fuel
          complete p (.sequence items)
        else leftOut p
      | some .mapping =>
        if byIndent then
          skip
          let nodes ← indentedEntries fuel
          complete p (← mapping nodes)
        else leftOut p
      | _ => leftOut p

/-- A node, or nothing before one of some tokens or the end. -/
def optionalNode (byIndent bareItems : Bool) (before : List Token) : (fuel : Nat) → Builder Node
  | 0 => refuse
  | fuel + 1 => do
    if ← isNext before then pure empty else node byIndent bareItems fuel

/-- The items of a sequence that is not indented further than the key it belongs to. -/
def bareItemNodes : (fuel : Nat) → Builder (List Node)
  | 0 => refuse
  | fuel + 1 => do
    if ← takeIf .dash then
      let item ← optionalNode true false [.dash, .key, .value, .dedent] fuel
      let items ← bareItemNodes fuel
      pure (item :: items)
    else pure []

/-- The items of a sequence by indentation, after its beginning. -/
def indentedItems : (fuel : Nat) → Builder (List Node)
  | 0 => refuse
  | fuel + 1 => do
    if ← takeIf .dedent then pure []
    else
      expect .dash
      let item ← optionalNode true false [.dash, .dedent] fuel
      let items ← indentedItems fuel
      pure (item :: items)

/-- The keys and values of a mapping by indentation in turn, after its beginning. -/
def indentedEntries : (fuel : Nat) → Builder (List Node)
  | 0 => refuse
  | fuel + 1 => do
    if ← takeIf .dedent then pure []
    else
      let key ←
        if ← takeIf .key then optionalNode true true [.key, .value, .dedent] fuel
        else if ← isNext [.value] then pure empty
        else refuse
      let value ← if ← takeIf .value then optionalNode true true [.key, .value, .dedent] fuel else pure empty
      let nodes ← indentedEntries fuel
      pure (key :: value :: nodes)

/-- The items of a sequence in brackets, after the opening one. A key among them makes a mapping of one entry. -/
def bracketItems (first : Bool) : (fuel : Nat) → Builder (List Node)
  | 0 => refuse
  | fuel + 1 => do
    if ← takeIf .closeSequence then pure []
    else
      if !first then expect .comma
      if ← takeIf .closeSequence then pure []
      else
        let item ←
          if ← takeIf .key then
            let key ← bracketKey fuel
            let value ← if ← takeIf .value then optionalNode false false [.comma, .closeSequence] fuel else pure empty
            mapping [key, value]
          else node false false fuel
        let items ← bracketItems false fuel
        pure (item :: items)

/-- The key of an entry among the items of a sequence. -/
def bracketKey : (fuel : Nat) → Builder Node
  | 0 => refuse
  | fuel + 1 => do
    if ← isNext [.value, .comma, .closeSequence] then
      skip
      pure empty
    else node false false fuel

/-- The keys and values of a mapping in brackets in turn, after the opening one. -/
def bracketEntries (first : Bool) : (fuel : Nat) → Builder (List Node)
  | 0 => refuse
  | fuel + 1 => do
    if ← takeIf .closeMapping then pure []
    else
      if !first then expect .comma
      if ← takeIf .closeMapping then pure []
      else
        let (key, value) ←
          if ← takeIf .key then do
            let key ← optionalNode false false [.value, .comma, .closeMapping] fuel
            pure (key, ← bracketValue fuel)
          else if ← isNext [.value] then do
            pure (empty, ← bracketValue fuel)
          else do
            let key ← node false false fuel
            pure (key, empty)
        let nodes ← bracketEntries false fuel
        pure (key :: value :: nodes)

/-- The value of an entry in brackets, if there is one. -/
def bracketValue : (fuel : Nat) → Builder Node
  | 0 => refuse
  | fuel + 1 => do
    if ← takeIf .value then optionalNode false false [.comma, .closeMapping] fuel else pure empty

end

/-! ## Documents -/

/-- Pass over the directives before a document: the handles that they give. There is one version at most, and each directive
makes the handles before it void. -/
def directives : (fuel : Nat) → (versioned : Bool) → Builder Unit
  | 0, _ => refuse
  | fuel + 1, versioned => do
    match ← peek with
    | some .version =>
      if versioned then refuse
      else
        modify fun b => { b with handles := [] }
        skip
        directives fuel true
    | some (.handle name start) =>
      modify fun b => { b with handles := [(name, start)] }
      skip
      directives fuel versioned
    | _ => pure ()

/-- The end of a document: whether it has a mark. Without one, no directive may follow. -/
def documentEnd : Builder Bool := do
  modify fun b => { b with handles := [] }
  if ← takeIf .documentEnd then pure true
  else
    match ← peek with
    | some t => if t.isDirective then refuse else pure false
    | none => pure false

/-- The documents that are left. The first, and one after the end of another, need no mark. The fuel is more than the number of
tokens. -/
def documents : (fuel : Nat) → (bare : Bool) → Builder (List Node)
  | 0, _ => refuse
  | fuel + 1, bare => do
    if ← takeIf .documentEnd then documents fuel bare
    else
      let length := (← get).tokens.length
      modify fun b => { b with anchors := [] }
      match ← peek with
      | none => pure []
      | some t =>
        let content ←
          if t.isDirective || t == .documentStart then do
            directives (length + 1) false
            expect .documentStart
            match ← peek with
            | none => pure empty
            | some t =>
              if t.isDirective || t == .documentStart || t == .documentEnd then pure empty
              else node true false (3 * length + 3)
          else if bare then node true false (3 * length + 3)
          else refuse
        let ended ← documentEnd
        let more ← documents fuel ended
        pure (content :: more)

end Builder

/-- The documents that some tokens make. -/
def documents? (ts : List Token) : Option (List Node) :=
  match Builder.documents (ts.length + 2) true { tokens := ts } with
  | some (nodes, _) => some nodes
  | none => none

end QueueBroker.Yaml
