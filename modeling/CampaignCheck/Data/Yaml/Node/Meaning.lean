import CampaignCheck.Data.Yaml.Node.Reader
import CampaignCheck.Data.Yaml.Word

namespace CampaignCheck.Yaml

abbrev Met := Option (Nat × Fault)

/-- The fault that is met first, given those of two neighbours. -/
def firstFault (a b : Met) : Met :=
  match a, b with
  | some x, some y => if y.1 < x.1 then some y else some x
  | some x, none => some x
  | none, b => b

abbrev Entries := List (Value × Value)

def keyNumber? : Value → Option Int
  | .int n => some n
  | .bool b => some (if b then 1 else 0)
  | _ => none

def sameKey : Value → Value → Bool
  | .text s, .text t => s == t
  | .null, .null => true
  | .day s, .day t => s == t
  | .moment s, .moment t => s == t
  | .bytes s, .bytes t => s == t
  | .float x, .float y => x == y
  | v, w => (keyNumber? v).isSome && keyNumber? v == keyNumber? w

/-- Set an entry: a new key goes to the end, a present one keeps its place. -/
def putEntry : Entries → Value → Value → Entries
  | [], k, v => [(k, v)]
  | (k', v') :: rest, k, v =>
    if sameKey k' k then (k', v) :: rest else (k', v') :: putEntry rest k v

def putEntries (es more : Entries) : Entries := more.foldl (fun es e => putEntry es e.1 e.2) es

/-- The fields of entries whose keys are all texts. -/
def fieldsOf? : Entries → Option Fields
  | [] => some []
  | (.text k, v) :: rest => (fieldsOf? rest).map ((k, v) :: ·)
  | _ :: _ => none

def mappingValue (es : Entries) : Value :=
  match fieldsOf? es with
  | some fs => .object fs
  | none => .table es

def isKey : Value → Bool
  | .list _ | .object _ | .table _ | .set _ => false
  | _ => true

/-- A key that takes over the entries of other mappings. -/
def isMerge (k : Node) : Bool := k.tag == standardTag "merge"

def leveled (level : Nat) : Except Fault Value → Value × Met
  | .ok v => (v, none)
  | .error f => (.null, some (level, f))

mutual

def canMerge : Node → Bool
  | .mapping _ pairs => canMergeAll pairs
  | .sequence _ items => canMergeItems items
  | .enclosing isMapping => isMapping
  | .scalar _ _ => false

/-- What the pairs of a mapping take over can be taken over. -/
def canMergeAll : List (Node × Node) → Bool
  | [] => true
  | (k, v) :: rest => (!isMerge k || canMerge v) && canMergeAll rest

def canMergeItems : List Node → Bool
  | [] => true
  | .mapping _ pairs :: rest => canMergeAll pairs && canMergeItems rest
  | .enclosing true :: rest => canMergeItems rest
  | _ :: _ => false

end

/-- The text of a node that stands for a single value: a mapping may give it under a key of its
own. -/
def textOf? : Node → Option String
  | .scalar _ s => some s
  | .mapping _ pairs => textIn? pairs
  | _ => none
where
  /-- The text that the pairs of a mapping give. -/
  textIn? : List (Node × Node) → Option String
  | [] => none
  | (k, v) :: rest => if k.tag == standardTag "value" then textOf? v else textIn? rest

/-- The entries of a mapping: those taken over come first, unless they cannot be taken over. -/
def allEntries (level : Nat) (fits : Bool) (taken own : Entries × Met) : Entries × Met :=
  if fits then (putEntries taken.1 own.1, firstFault taken.2 own.2)
  else ([], some (level, .malformed))

/-- The tags for values that hold others. -/
def collectionTags : List String := ["seq", "map", "set", "omap", "pairs"].map standardTag

mutual

/-- The value of a node on a level, and the first fault met in it. -/
def build (level : Nat) : Node → Value × Met
  | .scalar tag text =>
    leveled (if collectionTags.contains tag then level + 1 else level) (scalarValue tag text)
  | .enclosing isMapping => (if isMapping then .object [("", .null)] else .list [.null], none)
  | .sequence tag items =>
    if tag == standardTag "seq" then
      let (vs, f) := buildItems (level + 1) items
      (.list vs, f)
    else if tag == standardTag "omap" || tag == standardTag "pairs" then
      let (vs, f) := buildPairItems (level + 1) items
      (.list vs, f)
    else (.null, some (if collectionTags.contains tag then level + 1 else level, .malformed))
  | .mapping tag pairs =>
    let entries := allEntries (level + 1) (canMergeAll pairs) (buildTaken (level + 1) pairs)
      (buildOwn (level + 1) pairs)
    if tag == standardTag "map" then (mappingValue entries.1, entries.2)
    else if tag == standardTag "set" then (.set (entries.1.map (·.1)), entries.2)
    else if scalarTags.contains tag then
      match textOf?.textIn? pairs with
      | some s => leveled level (scalarValue tag s)
      | none => (.null, some (level, .malformed))
    else (.null, some (if collectionTags.contains tag then level + 1 else level, .malformed))

def buildItems (level : Nat) : List Node → List Value × Met
  | [] => ([], none)
  | n :: rest =>
    let (v, f) := build level n
    let (vs, g) := buildItems level rest
    (v :: vs, firstFault f g)

/-- The values of items that are mappings of a single pair. -/
def buildPairItems (level : Nat) : List Node → List Value × Met
  | [] => ([], none)
  | .mapping _ [(k, v)] :: rest =>
    let (a, f) := build level k
    let (b, g) := build level v
    let (vs, h) := buildPairItems level rest
    (.pair a b :: vs, firstFault (firstFault f g) h)
  | _ :: _ => ([], some (level, .malformed))

/-- The entries that a mapping takes over. -/
def buildTaken (level : Nat) : List (Node × Node) → Entries × Met
  | [] => ([], none)
  | (k, v) :: rest =>
    if isMerge k then
      let (es, f) := buildMerge level v
      let (more, g) := buildTaken level rest
      (putEntries es more, firstFault f g)
    else buildTaken level rest

/-- The entries to be taken over from a mapping, or from several, the first of which counts most. -/
def buildMerge (level : Nat) : Node → Entries × Met
  | .mapping _ pairs => allEntries level true (buildTaken level pairs) (buildOwn level pairs)
  | .sequence _ items => buildMerges level items
  | _ => ([], none)

/-- The entries to be taken over from several mappings; later ones are set first. -/
def buildMerges (level : Nat) : List Node → Entries × Met
  | [] => ([], none)
  | n :: rest =>
    let (more, f) := buildMerges level rest
    let (es, g) := buildMerge level n
    (putEntries more es, firstFault f g)

/-- The entries that a mapping states itself. -/
def buildOwn (level : Nat) : List (Node × Node) → Entries × Met
  | [] => ([], none)
  | (k, v) :: rest =>
    if isMerge k then buildOwn level rest
    else
      let (key, f) :=
        if k.tag == standardTag "value" then leveled level (.ok (.text "=")) else build level k
      let fits := isKey key && !collectionTags.contains k.tag
      let f := firstFault f (if fits then none else some (level, .malformed))
      let (value, g) := build level v
      let (es, h) := buildOwn level rest
      (putEntries [(key, value)] es, firstFault (firstFault f g) h)

end

/-- The value of a node. Nodes become values level by level, so of several faults the one on the
level nearest to the root counts, and on a level the first. -/
def valueOf (n : Node) : Except Fault Value :=
  match build 0 n with
  | (v, none) => .ok v
  | (_, some (_, f)) => .error f

end CampaignCheck.Yaml
