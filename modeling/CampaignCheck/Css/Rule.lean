import CampaignCheck.Css.Vocabulary

namespace CampaignCheck.Css

/-- A property, in lower case, with its value. -/
structure Declaration where
  property : List Char
  value : List Char
  offset : Nat
  valueOffset : Nat
deriving DecidableEq, Repr, Inhabited

/-- A selector with the declarations of its block, the offsets where a semicolon is missing, and
the segments that are no declarations. -/
structure Rule where
  selector : List Char
  offset : Nat
  declarations : List Declaration
  missingSemicolons : List Nat
  invalid : List (Nat × List Char)
deriving DecidableEq, Repr, Inhabited

/-- The rule is for the stylesheet itself, not for elements. -/
def Rule.isAtRule (r : Rule) : Bool := Text.startsWith r.selector ['@']

def Rule.get? (r : Rule) (property : String) : Option Declaration :=
  r.declarations.find? (·.property == property.toList)

/-- Pieces with one character between them, each with its offset. -/
def placed (offset : Nat) : List (List Char) → List (Nat × List Char)
  | [] => []
  | p :: ps => (offset, p) :: placed (offset + p.length + 1) ps

/-- What a piece of a block is. -/
inductive Piece where
  | blank
  | declaration (d : Declaration)
  | invalid (offset : Nat) (text : List Char)
deriving DecidableEq, Repr, Inhabited

def Piece.read (offset : Nat) (cs : List Char) : Piece :=
  if Text.allBlank cs then .blank
  else
    let wrong := Piece.invalid (offset + (Text.indentation cs).length) (Text.trim cs)
    match declarationForm.matchStart? cs with
    | none => wrong
    | some m =>
      let value := m.group cs 2
      if Text.allBlank value then wrong
      else .declaration ⟨Text.lower (m.group cs 1), Text.trim value, offset + m.startOf 1,
        offset + m.startOf 2 + (Text.indentation value).length⟩

/-- The pieces of a block: cut at semicolons, and where a line with a property follows. -/
def segments (base : Nat) (body : List Char) : List (List (Nat × List Char)) :=
  (placed base (Text.cut ';' body)).map fun (offset, cs) => placed offset (nextProperty.split cs)

/-- Where a semicolon is missing in a segment: behind each piece but the last. -/
def gapsIn (pieces : List (Nat × List Char)) : List Nat :=
  pieces.dropLast.filterMap fun (offset, cs) =>
    if Text.allBlank cs then none else some (offset + (Text.trimRight cs).length)

def ruleOf (cs : List Char) (m : Match) : Rule :=
  let head := m.group cs 1
  let selector := ((Text.cut ';' head).getLast?).getD []
  let segments := segments (m.startOf 2) (m.group cs 2)
  let pieces := segments.flatten.map fun (offset, p) => Piece.read offset p
  { selector := Text.trim selector
    offset := m.startOf 1 + (head.length - selector.length) + (Text.indentation selector).length
    declarations := pieces.filterMap fun
      | .declaration d => some d
      | _ => none
    missingSemicolons := segments.flatMap gapsIn
    invalid := pieces.filterMap fun
      | .invalid offset text => some (offset, text)
      | _ => none }

/-- The rules of a masked stylesheet. Only blocks without inner blocks are rules, so wrappers such
as media queries are looked through. -/
def rules (cs : List Char) : List Rule := (ruleBlock.findAll cs).map (ruleOf cs)

end CampaignCheck.Css
