import CampaignCheck.Html.Vocabulary
import CampaignCheck.Text.Lines

namespace CampaignCheck.Html

/-- A text of blanks with the same line ends. -/
def erased (cs : List Char) : List Char := cs.map fun c => if c = '\n' then c else ' '

def blanked (p : Pattern) (cs : List Char) : List Char :=
  p.replaceAll (fun m => erased (m.text cs)) cs

/-- The source without template script and comments. -/
def markup (code : List Char) : List Char := blanked comment (blanked templateScript code)

/-- The source without what is no markup. Template script, comments and elements whose content is
none are blanked, so that every offset stays that of the source. -/
def tagText (code : List Char) : List Char := blanked rawElement (markup code)

/-- An attribute: name in lower case, value as written, and the offset of the name. -/
structure Attribute where
  name : List Char
  value : Option (List Char)
  offset : Nat
deriving DecidableEq, Repr, Inhabited

/-- A start or end tag: name in lower case, and where it starts. -/
structure Tag where
  name : List Char
  closing : Bool
  selfClosing : Bool
  start : Nat
  attributes : List Attribute
deriving DecidableEq, Repr, Inhabited

def attributesIn (base : Nat) (cs : List Char) : List Attribute :=
  (attributeForm.findAll cs).map fun m =>
    ⟨Text.lower (m.group cs 1), m.group? cs 2, base + m.startOf 1⟩

def tagOf (cs : List Char) (m : Match) : Tag where
  name := Text.lower (m.group cs 2)
  closing := !(m.group cs 1).isEmpty
  selfClosing := !(m.group cs 4).isEmpty
  start := m.start
  attributes := attributesIn (m.startOf 3) (m.group cs 3)

def tagsIn (cs : List Char) : List Tag := (tagForm.findAll cs).map (tagOf cs)

namespace Tag

def isNamed (t : Tag) (name : String) : Bool := t.name == name.toList

/-- The tag's name is one of these. -/
def isOneOf (t : Tag) (names : List String) : Bool := names.contains (String.ofList t.name)

def has (t : Tag) (name : String) : Bool := t.attributes.any (·.name == name.toList)

/-- The value of the first attribute of this name, without quotes and blanks around it. -/
def value (t : Tag) (name : String) : List Char :=
  match t.attributes.find? (·.name == name.toList) with
  | some a => Text.trim (Text.trimChars ['"', '\''] (a.value.getD []))
  | none => []

def attributeMap (t : Tag) : List (List Char × Option (List Char)) :=
  (t.attributes.foldl (fun seen a => if seen.any (·.1 == a.name) then seen
    else seen ++ [(a.name, a.value)]) [])

end Tag

/-- The source is a whole document, not a fragment. -/
def isDocument (tags : List Tag) : Bool := tags.any fun t => t.isNamed "html" && !t.closing

def reportAt (cs : List Char) (offset : Nat) (rule message : String) (category : Category)
    (severity : Severity) (hint : String) : Finding :=
  let p := Text.positionAt cs offset
  .report p.line (some p.column) rule message category severity hint

end CampaignCheck.Html
