import CampaignCheck.Data.Yaml.Tag
import CampaignCheck.Data.Yaml.Token

namespace CampaignCheck.Yaml

/-- A node of a data file. -/
inductive Node where
  | scalar (tag : String) (text : String)
  | sequence (tag : String) (items : List Node)
  | mapping (tag : String) (pairs : List (Node × Node))
  /-- A node that holds this one. -/
  | enclosing (isMapping : Bool)
deriving Inhabited

namespace Node

def nothing : Node := scalar (standardTag "null") ""

def tag : Node → String
  | scalar t _ => t
  | sequence t _ => t
  | mapping t _ => t
  | enclosing isMapping => standardTag (if isMapping then "map" else "seq")

end Node

/-- The state of reading nodes: the tokens to come, the fault behind the last of them, what the
handles of tags stand for, and the nodes with an anchor. -/
structure NodeReader where
  tokens : List Token
  fault : Option Fault
  handles : List (String × String)
  anchors : List (String × Node) := []
deriving Inhabited

namespace NodeReader

def next (c : NodeReader) : Option Token := c.tokens.head?

def skip (c : NodeReader) : NodeReader := { c with tokens := c.tokens.drop 1 }

/-- The fault that is met here, where something else should stand. -/
def refuse (c : NodeReader) : Fault :=
  if c.tokens.isEmpty then c.fault.getD .malformed else .malformed

def isAt (c : NodeReader) (ts : List Token) : Bool := (c.next.map ts.contains).getD false

def readAnchor (c : NodeReader) : Option String × NodeReader :=
  match c.next with
  | some (.anchor name) => (some name, c.skip)
  | _ => (none, c)

def readTag (c : NodeReader) : Except Fault (Option String × NodeReader) :=
  match c.next with
  | some (.tag none suffix) => .ok (some suffix, c.skip)
  | some (.tag (some handle) suffix) =>
    match c.handles.lookup handle with
    | some expansion => .ok (some (expansion ++ suffix), c.skip)
    | none => .error .malformed
  | _ => .ok (none, c)

def readProperties (c : NodeReader) :
    Except Fault (Option String × Option String × NodeReader) := do
  let (name, c) := c.readAnchor
  let (tag, c) ← c.readTag
  let (name, c) := if name.isNone && tag.isSome then c.readAnchor else (name, c)
  return (name, tag, c)

/-- The node with an anchor is known from now on. -/
def remember (c : NodeReader) (name : Option String) (n : Node) : NodeReader :=
  match name with
  | some name => { c with anchors := (name, n) :: c.anchors }
  | none => c

/-- The tag that is left to be found, or says so. -/
def isOpenTag (tag : Option String) : Bool := tag.isNone || tag == some "!"

def scalarNode (tag : Option String) (text : String) (plain : Bool) : Node :=
  if (plain && tag.isNone) || tag == some "!" then .scalar (tagOf text) text
  else .scalar (tag.getD (standardTag "str")) text

mutual

/-- Read a node. Blocks may be forbidden, and dashes may stand without a block of their own. -/
def readNode (fuel : Nat) (blocks dashes : Bool) (c : NodeReader) :
    Except Fault (Node × NodeReader) :=
  match fuel with
  | 0 => .error .malformed
  | fuel + 1 =>
    match c.next with
    | some (.recall name) =>
      match c.anchors.lookup name with
      | some n => .ok (n, c.skip)
      | none => .error .malformed
    | _ => do
      let (name, tag, c) ← c.readProperties
      if (name.map fun s => (c.anchors.lookup s).isSome).getD false then .error .malformed
      else
        let sequence (read : NodeReader → Except Fault (List Node × NodeReader))
            (c : NodeReader) := do
          let (items, c) ← read (c.remember name (.enclosing false))
          let n := Node.sequence (if isOpenTag tag then standardTag "seq" else tag.getD "") items
          return (n, c.remember name n)
        let mapping (read : NodeReader → Except Fault (List (Node × Node) × NodeReader))
            (c : NodeReader) := do
          let (pairs, c) ← read (c.remember name (.enclosing true))
          let n := Node.mapping (if isOpenTag tag then standardTag "map" else tag.getD "") pairs
          return (n, c.remember name n)
        match c.next with
        | some (.scalar text plain) =>
          let n := scalarNode tag text plain
          return (n, c.skip.remember name n)
        | some .openBracket => sequence (readFlowItems fuel true) c.skip
        | some .openBrace => mapping (readFlowPairs fuel true) c.skip
        | some .blockSequence =>
          if blocks then sequence (readBlockItems fuel) c.skip else .error .malformed
        | some .blockMapping =>
          if blocks then mapping (readBlockPairs fuel) c.skip else .error .malformed
        | other =>
          if dashes && other == some .dash then sequence (readDashes fuel) c
          else if name.isSome || tag.isSome then
            let n := if isOpenTag tag then Node.nothing else .scalar (tag.getD "") ""
            return (n, c.remember name n)
          else .error c.refuse

def readBlockItems (fuel : Nat) (c : NodeReader) : Except Fault (List Node × NodeReader) :=
  match fuel with
  | 0 => .error .malformed
  | fuel + 1 =>
    match c.next with
    | some .dash => do
      let c := c.skip
      let (n, c) ← if c.isAt [.dash, .blockEnd] then pure (Node.nothing, c)
        else readNode fuel true false c
      let (more, c) ← readBlockItems fuel c
      return (n :: more, c)
    | some .blockEnd => .ok ([], c.skip)
    | _ => .error c.refuse

/-- Read items behind dashes that have no block of their own. -/
def readDashes (fuel : Nat) (c : NodeReader) : Except Fault (List Node × NodeReader) :=
  match fuel with
  | 0 => .error .malformed
  | fuel + 1 =>
    match c.next with
    | some .dash => do
      let c := c.skip
      let (n, c) ← if c.isAt [.dash, .key, .value, .blockEnd] then pure (Node.nothing, c)
        else readNode fuel true false c
      let (more, c) ← readDashes fuel c
      return (n :: more, c)
    | _ => .ok ([], c)

def readBlockPairs (fuel : Nat) (c : NodeReader) :
    Except Fault (List (Node × Node) × NodeReader) :=
  match fuel with
  | 0 => .error .malformed
  | fuel + 1 =>
    match c.next with
    | some .key => do
      let c := c.skip
      let (k, c) ← if c.isAt [.key, .value, .blockEnd] then pure (Node.nothing, c)
        else readNode fuel true true c
      let (v, c) ←
        if c.next == some .value then
          let c := c.skip
          if c.isAt [.key, .value, .blockEnd] then pure (Node.nothing, c)
          else readNode fuel true true c
        else pure (Node.nothing, c)
      let (more, c) ← readBlockPairs fuel c
      return ((k, v) :: more, c)
    | some .blockEnd => .ok ([], c.skip)
    | _ => .error c.refuse

def readFlowItems (fuel : Nat) (first : Bool) (c : NodeReader) :
    Except Fault (List Node × NodeReader) :=
  match fuel with
  | 0 => .error .malformed
  | fuel + 1 => do
    if c.next == some .closeBracket then return ([], c.skip)
    else if !first && c.next != some .comma then .error c.refuse
    else
      let c := if first then c else c.skip
      if c.next == some .closeBracket then return ([], c.skip)
      else if c.next == some .key then
        let c := c.skip
        let (k, c) ← if c.isAt [.value, .comma, .closeBracket] then pure (Node.nothing, c)
          else readNode fuel false false c
        let (v, c) ← readFlowValue fuel .closeBracket c
        let (more, c) ← readFlowItems fuel false c
        return (.mapping (standardTag "map") [(k, v)] :: more, c)
      else
        let (n, c) ← readNode fuel false false c
        let (more, c) ← readFlowItems fuel false c
        return (n :: more, c)

def readFlowPairs (fuel : Nat) (first : Bool) (c : NodeReader) :
    Except Fault (List (Node × Node) × NodeReader) :=
  match fuel with
  | 0 => .error .malformed
  | fuel + 1 => do
    if c.next == some .closeBrace then return ([], c.skip)
    else if !first && c.next != some .comma then .error c.refuse
    else
      let c := if first then c else c.skip
      if c.next == some .closeBrace then return ([], c.skip)
      else if c.next == some .key then
        let c := c.skip
        let (k, c) ← if c.isAt [.value, .comma, .closeBrace] then pure (Node.nothing, c)
          else readNode fuel false false c
        let (v, c) ← readFlowValue fuel .closeBrace c
        let (more, c) ← readFlowPairs fuel false c
        return ((k, v) :: more, c)
      else
        let (k, c) ← readNode fuel false false c
        let (more, c) ← readFlowPairs fuel false c
        return ((k, Node.nothing) :: more, c)

/-- Read the value of a key between brackets that close with the given token; it may be left out. -/
def readFlowValue (fuel : Nat) (close : Token) (c : NodeReader) :
    Except Fault (Node × NodeReader) :=
  match fuel with
  | 0 => .error .malformed
  | fuel + 1 =>
    if c.next == some .value then
      let c := c.skip
      if c.isAt [.comma, close] then .ok (Node.nothing, c) else readNode fuel false false c
    else .ok (Node.nothing, c)

end

def standardHandles : List (String × String) := [("!", "!"), ("!!", "tag:yaml.org,2002:")]

/-- Read the directives before a document: the handles, and what follows. -/
def readDirectives (version : Bool) (handles : List (String × String)) :
    List Token → Except Fault (List (String × String) × List Token)
  | .directive (.version major) :: rest =>
    if version || major != 1 then .error .malformed else readDirectives true handles rest
  | .directive (.handle name expansion) :: rest =>
    if (handles.lookup name).isSome then .error .malformed
    else readDirectives version ((name, expansion) :: handles) rest
  | .directive .other :: rest => readDirectives version handles rest
  | rest => .ok (handles ++ standardHandles, rest)

/-- Only marks that end documents may follow. -/
def finish (n : Node) (c : NodeReader) : Except Fault (Option Node) :=
  let c := { c with tokens := c.tokens.dropWhile (· == Token.documentEnd) }
  if c.tokens.isEmpty && c.fault.isNone then .ok (some n) else .error c.refuse

def readMarked (c : NodeReader) : Except Fault (Node × NodeReader) :=
  match c.next with
  | some (.directive _) | some .documentStart | some .documentEnd => .ok (Node.nothing, c)
  | none => if c.fault.isNone then .ok (Node.nothing, c) else .error c.refuse
  | _ => readNode (4 * c.tokens.length + 4) true false c

def readDocument (ts : List Token) (fault : Option Fault) : Except Fault (Option Node) := do
  let c : NodeReader := { tokens := ts, fault := fault, handles := standardHandles }
  match ts with
  | [] => if fault.isNone then return none else .error c.refuse
  | .directive _ :: _ | .documentStart :: _ =>
    let (handles, rest) ← readDirectives false [] ts
    let c := { c with tokens := rest, handles := handles }
    if c.next == some .documentStart then
      let (n, c) ← readMarked c.skip
      finish n c
    else .error c.refuse
  | _ =>
    let (n, c) ← readNode (4 * ts.length + 4) true false c
    finish n c

end NodeReader

end CampaignCheck.Yaml
