import LifecycleOperator.Yaml.Token

/-!
# Nodes

A document is one node: a scalar, a sequence, a mapping, or an alias of a node
that carries an anchor.  Aliases stay references, because a node may contain an
alias of itself.  An alias refers to the place that its name has taken, which is
the number of names known before; the place of a name that is declared again may
thus be taken over by the next new name, and then both mean the later node.
Tags only matter in so far as their handles must be declared.

The grammar is read by descent over the tokens.  Every step either takes a token
or completes a node that is left empty, so that a bound on the number of steps
follows from the number of tokens.
-/

namespace LifecycleOperator
namespace Yaml

/-- A node of a document. -/
inductive Node
  | scalar (text : String) (plain : Bool)
  | sequence (items : List Node)
  | mapping (entries : List (Node × Node))
  | alias (place : Nat)
  deriving Repr, Inhabited

namespace Node

def empty : Node := .scalar "" true

end Node

/-- A document: its node, and the nodes that carry anchors. -/
structure Document where
  /-- The node; a text without any content has none. -/
  root : Option Node
  /-- The number of the anchor that has taken a place, latest first. -/
  holders : List (Nat × Nat)
  /-- The anchored nodes by the numbers of their anchors. -/
  anchored : List (Nat × Node)
  deriving Repr

/-- What is known while nodes are put together. -/
structure Composer where
  tokens : List Token
  names : List (String × Nat)
  /-- The number of the anchor that has taken a place, latest first. -/
  holders : List (Nat × Nat)
  anchored : List (Nat × Node)
  count : Nat
  handles : List String

namespace Composer

def advance (composer : Composer) : Composer :=
  { composer with tokens := composer.tokens.drop 1 }

def peek? (composer : Composer) : Option Token :=
  composer.tokens.head?

/--
Introduce an anchor, which takes a place; it may be referred to from inside its
own node.  The answer is the number of the anchor.
-/
def declare (composer : Composer) (name : String) : Nat × Composer :=
  let place := composer.names.length
  (composer.count,
    { composer with
      names := (name, place) :: composer.names.filter (·.1 != name)
      holders := (place, composer.count) :: composer.holders
      count := composer.count + 1 })

def complete (composer : Composer) (number : Option Nat) (node : Node) : Composer :=
  match number with
  | none => composer
  | some number =>
      { composer with anchored := (number, node) :: composer.anchored }

end Composer

/-- The properties in front of a node. -/
structure Properties where
  anchor : Option String
  tag : Option String

/-- Take an anchor and a tag, in either order. -/
def properties : List Token → Properties × List Token
  | .anchor name :: .tag handle :: rest => (⟨some name, some handle⟩, rest)
  | .tag handle :: .anchor name :: rest => (⟨some name, some handle⟩, rest)
  | .anchor name :: rest => (⟨some name, none⟩, rest)
  | .tag handle :: rest => (⟨none, some handle⟩, rest)
  | rest => (⟨none, none⟩, rest)

/-- Whether a block node is missing in front of this token. -/
def endsBlockEntry : Option Token → Bool
  | some .key | some .value | some .blockEnd => true
  | _ => false

/-- Whether an item of a sequence is missing in front of this token. -/
def endsSequenceEntry (isIndented : Bool) : Option Token → Bool
  | some .blockEntry | some .blockEnd => true
  | some .key | some .value => !isIndented
  | _ => false

/-- Whether a node of a flow collection is missing in front of this token. -/
def endsFlowEntry (closing : Token) (token : Option Token) : Bool :=
  token == some .flowEntry || token == some closing

mutual

/--
Read a node.  Block collections are only allowed in block style, and a sequence
without indentation of its own only as a part of a mapping.
-/
def node? :
    (steps : Nat) → (inBlock isEntry : Bool) → Composer → Option (Node × Composer)
  | 0, _, _, _ => none
  | steps + 1, inBlock, isEntry, composer =>
      match composer.tokens with
      | .alias name :: rest =>
          (composer.names.lookup name).map fun place =>
            (.alias place, { composer with tokens := rest })
      | tokens =>
          let (found, rest) := properties tokens
          let isDeclared :=
            match found.tag with
            | none => true
            | some handle => handle.isEmpty || composer.handles.contains handle
          let (number, composer) : Option Nat × Composer :=
            match found.anchor with
            | none => (none, { composer with tokens := rest })
            | some name =>
                let (number, composer) := composer.declare name
                (some number, { composer with tokens := rest })
          let hasProperties := found.anchor.isSome || found.tag.isSome
          let content : Option (Node × Composer) :=
            match composer.peek? with
            | some (.scalar text plain) => some (.scalar text plain, composer.advance)
            | some .flowSequenceStart =>
                (flowItems? steps true [] composer.advance).map fun (items, composer) =>
                  (.sequence items, composer)
            | some .flowMappingStart =>
                (flowEntries? steps true [] composer.advance).map fun (entries, composer) =>
                  (.mapping entries, composer)
            | some .blockEntry =>
                if isEntry then
                  (blockItems? steps false [] composer).map fun (items, composer) =>
                    (.sequence items, composer)
                else if hasProperties then some (.empty, composer)
                else none
            | some .blockSequenceStart =>
                if inBlock then
                  (blockItems? steps true [] composer.advance).map
                    fun (items, composer) => (.sequence items, composer)
                else if hasProperties then some (.empty, composer)
                else none
            | some .blockMappingStart =>
                if inBlock then
                  (blockEntries? steps [] composer.advance).map
                    fun (entries, composer) => (.mapping entries, composer)
                else if hasProperties then some (.empty, composer)
                else none
            | _ => if hasProperties then some (.empty, composer) else none
          if isDeclared then
            content.map fun (node, composer) => (node, composer.complete number node)
          else none

/-- Read the items of a block sequence. -/
def blockItems? :
    (steps : Nat) → (isIndented : Bool) → List Node → Composer →
      Option (List Node × Composer)
  | 0, _, _, _ => none
  | steps + 1, isIndented, items, composer =>
      match composer.peek? with
      | some .blockEntry =>
          let behind := composer.advance
          if endsSequenceEntry isIndented behind.peek? then
            blockItems? steps isIndented (.empty :: items) behind
          else
            (node? steps true false behind).bind fun (item, composer) =>
              blockItems? steps isIndented (item :: items) composer
      | some .blockEnd =>
          some (items.reverse, if isIndented then composer.advance else composer)
      | _ => if isIndented then none else some (items.reverse, composer)

/-- Read the entries of a block mapping. -/
def blockEntries? :
    (steps : Nat) → List (Node × Node) → Composer →
      Option (List (Node × Node) × Composer)
  | 0, _, _ => none
  | steps + 1, entries, composer =>
      match composer.peek? with
      | some .blockEnd => some (entries.reverse, composer.advance)
      | some .key =>
          let behind := composer.advance
          let key : Option (Node × Composer) :=
            if endsBlockEntry behind.peek? then some (.empty, behind)
            else node? steps true true behind
          key.bind fun (key, composer) =>
            let value : Option (Node × Composer) :=
              if composer.peek? == some .value then
                let behind := composer.advance
                if endsBlockEntry behind.peek? then some (.empty, behind)
                else node? steps true true behind
              else some (.empty, composer)
            value.bind fun (value, composer) =>
              blockEntries? steps ((key, value) :: entries) composer
      | _ => none

/-- Read the items of a flow sequence; an item may be a mapping of one entry. -/
def flowItems? :
    (steps : Nat) → (isFirst : Bool) → List Node → Composer →
      Option (List Node × Composer)
  | 0, _, _, _ => none
  | steps + 1, isFirst, items, composer =>
      if composer.peek? == some .flowSequenceEnd then
        some (items.reverse, composer.advance)
      else
        let separated :=
          if isFirst then some composer
          else if composer.peek? == some .flowEntry then some composer.advance
          else none
        separated.bind fun composer =>
          match composer.peek? with
          | some .flowSequenceEnd => some (items.reverse, composer.advance)
          | some .key =>
              let behind := composer.advance
              let isMissing := behind.peek? == some .value ||
                endsFlowEntry .flowSequenceEnd behind.peek?
              let key : Option (Node × Composer) :=
                if isMissing then some (.empty, behind.advance)
                else node? steps false false behind
              key.bind fun (key, composer) =>
                (flowValue? steps .flowSequenceEnd composer).bind
                  fun (value, composer) =>
                    flowItems? steps false (.mapping [(key, value)] :: items) composer
          | _ =>
              (node? steps false false composer).bind fun (item, composer) =>
                flowItems? steps false (item :: items) composer

/-- Read the value of an entry in flow style, which may be missing. -/
def flowValue? :
    (steps : Nat) → (closing : Token) → Composer → Option (Node × Composer)
  | 0, _, _ => none
  | steps + 1, closing, composer =>
      if composer.peek? == some .value then
        let behind := composer.advance
        if endsFlowEntry closing behind.peek? then some (.empty, behind)
        else node? steps false false behind
      else some (.empty, composer)

/-- Read the entries of a flow mapping; an entry may be a key alone. -/
def flowEntries? :
    (steps : Nat) → (isFirst : Bool) → List (Node × Node) → Composer →
      Option (List (Node × Node) × Composer)
  | 0, _, _, _ => none
  | steps + 1, isFirst, entries, composer =>
      if composer.peek? == some .flowMappingEnd then
        some (entries.reverse, composer.advance)
      else
        let separated :=
          if isFirst then some composer
          else if composer.peek? == some .flowEntry then some composer.advance
          else none
        separated.bind fun composer =>
          match composer.peek? with
          | some .flowMappingEnd => some (entries.reverse, composer.advance)
          | some .key =>
              let behind := composer.advance
              let isMissing := behind.peek? == some .value ||
                endsFlowEntry .flowMappingEnd behind.peek?
              let key : Option (Node × Composer) :=
                if isMissing then some (.empty, behind)
                else node? steps false false behind
              key.bind fun (key, composer) =>
                (flowValue? steps .flowMappingEnd composer).bind
                  fun (value, composer) =>
                    flowEntries? steps false ((key, value) :: entries) composer
          | _ =>
              (node? steps false false composer).bind fun (key, composer) =>
                flowEntries? steps false ((key, .empty) :: entries) composer

end

/-- Take the directives in front of a document: at most one version, no handle twice. -/
def directives? : (hasVersion : Bool) → List String → List Token →
    Option (List String × List Token)
  | hasVersion, handles, .version major minor :: rest =>
      if hasVersion || major != 1 || (minor != 1 && minor != 2) then none
      else directives? true handles rest
  | hasVersion, handles, .tagHandle handle :: rest =>
      if handles.contains handle then none
      else directives? hasVersion (handle :: handles) rest
  | _, handles, rest => some (handles, rest)

/-- The handles that need no declaration. -/
def defaultHandles : List String := ["!", "!!"]

/-- Whether nothing but ends of documents is left. -/
def isFinished (tokens : List Token) : Bool :=
  tokens.all (· == .documentEnd)

/-- Whether a document without content ends in front of this token. -/
def endsDocument : Option Token → Bool
  | none | some .documentStart | some .documentEnd | some (.version _ _)
  | some (.tagHandle _) => true
  | _ => false

/-- Put the tokens of a text together that holds at most one document. -/
def Document.ofTokens? (tokens : List Token) : Option Document :=
  match tokens with
  | [] => some ⟨none, [], []⟩
  | first :: _ =>
      let isExplicit :=
        match first with
        | .version _ _ | .tagHandle _ | .documentStart => true
        | _ => false
      let opened : Option (List String × List Token) :=
        if isExplicit then
          match directives? false [] tokens with
          | some (handles, .documentStart :: rest) => some (handles, rest)
          | _ => none
        else some ([], tokens)
      opened.bind fun (handles, rest) =>
        let composer : Composer := ⟨rest, [], [], [], 0, handles ++ defaultHandles⟩
        let root : Option (Node × Composer) :=
          if isExplicit && endsDocument composer.peek? then some (.empty, composer)
          else node? (4 * rest.length + 8) true false composer
        root.bind fun (node, composer) =>
          if isFinished composer.tokens then some ⟨some node, composer.holders, composer.anchored⟩
          else none

/-- Read a text that holds at most one document. -/
def Document.read? (text : String) : Option Document :=
  (scan? text).bind Document.ofTokens?

/-- The node behind an alias; anything else stands for itself. -/
def Document.resolve (document : Document) : Node → Node
  | .alias place =>
      let holder := document.holders.lookup place
      (holder.bind fun number => document.anchored.lookup number).getD .empty
  | node => node

end Yaml
end LifecycleOperator
