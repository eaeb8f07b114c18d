import CampaignCheck.Pattern.Escape

namespace CampaignCheck.Pattern

/-- What an item was written as. -/
inductive ItemKind where
  /-- One given character. -/
  | literal
  /-- One character of a set. -/
  | set
  /-- One character outside a set, any character, or a text met before. -/
  | leaf
  /-- A place between characters. -/
  | place
  | repetition
  | group
deriving DecidableEq, Repr, Inhabited

/-- An item of a sequence. It remembers enough of how it was written to tell whether it can be
repeated, whether it is the same as another, and when alternatives amount to a set of characters. -/
structure Item where
  kind : ItemKind
  pattern : Pattern
deriving Inhabited

namespace Item

/-- The two items are the same; items that hold other items never are. -/
def same (a b : Item) : Bool :=
  a.kind == b.kind &&
    match a.pattern, b.pattern with
    | one s, one t => (a.kind != .group && a.kind != .repetition) && s == t
    | anchor x, anchor y => a.kind == .place && x == y
    | backreference m l, backreference n k => a.kind == .leaf && m == n && l == k
    | _, _ => false

def literal (f : Flags) (code : Nat) : Item := ⟨.literal, one (f.literal code)⟩

def ofMember (f : Flags) : Member → Item
  | .code n => literal f n
  | m => ⟨.set, one (m.set f)⟩

/-- The set of some members, or everything outside it. -/
def ofMembers (f : Flags) (negated : Bool) (members : List Member) : Item :=
  match members.eraseDups with
  | [.code n] => if negated then ⟨.leaf, one (.not (f.literal n))⟩ else literal f n
  | ms =>
    let set := CharSet.union (ms.map (·.set f))
    if negated then ⟨.leaf, one (.not set)⟩ else ⟨.set, one set⟩

def set? (i : Item) : Option CharSet :=
  match i.kind, i.pattern with
  | .literal, one s => some s
  | .set, one s => some s
  | _, _ => none

end Item

def ofItems (items : List Item) : Pattern := inOrder (items.map (·.pattern))

/-- A sequence that is being read: single items, and groups that only keep items together. -/
inductive Piece where
  | item (i : Item)
  | bare (items : List Item)
deriving Inhabited

def Piece.items : Piece → List Item
  | item i => [i]
  | bare items => items

/-- Split off the items that all alternatives start with. -/
def commonStart : List Item → List (List Item) → List Item × List (List Item)
  | [], others => ([], [] :: others)
  | i :: more, others =>
    if others.all fun o => (o.head?.map i.same).getD false then
      let (start, rest) := commonStart more (others.map List.tail)
      (i :: start, rest)
    else ([], (i :: more) :: others)

/-- The sets of alternatives that are single characters or sets. -/
def setsOf? : List (List Item) → Option (List CharSet)
  | [] => some []
  | [i] :: rest =>
    match i.set?, setsOf? rest with
    | some s, some ss => some (s.parts ++ ss)
    | _, _ => none
  | _ :: _ => none

/-- Keep a choice apart from the one that it is the last alternative of. -/
def shielded (p : Pattern) : Pattern := if p.isChoice then seq p empty else p

/-- The choice between alternatives. What they all start with comes first, and single characters
make a set. -/
def choice : List (List Item) → List Item
  | [] => []
  | [items] => items
  | first :: others =>
    let (start, rest) := commonStart first others
    match setsOf? rest with
    | some sets => start ++ [⟨.set, one (.union sets.eraseDups)⟩]
    | none => start ++ [⟨.group, oneOf (rest.map fun items => shielded (ofItems items))⟩]

/-- Least and greatest number of characters; without a greatest, any number. -/
abbrev Width := Nat × Option Nat

def Width.add (a b : Width) : Width :=
  (a.1 + b.1, match a.2, b.2 with
    | some x, some y => some (x + y)
    | _, _ => none)

def Width.either (a b : Width) : Width :=
  (min a.1 b.1, match a.2, b.2 with
    | some x, some y => some (max x y)
    | _, _ => none)

def Width.times (a : Width) (least : Nat) (limit : Option Nat) : Width :=
  (a.1 * least, match a.2, limit with
    | some 0, _ => some 0
    | some x, some m => some (x * m)
    | _, some 0 => some 0
    | _, _ => none)

/-- The width of what a pattern matches, given those of the groups. -/
def width (widths : List (Nat × Width)) : Pattern → Width
  | empty => (0, some 0)
  | one _ => (1, some 1)
  | anchor _ => (0, some 0)
  | seq p q => (p.width widths).add (q.width widths)
  | alt p q => (p.width widths).either (q.width widths)
  | repeated p least limit _ => (p.width widths).times least limit
  | capture _ p => p.width widths
  | backreference n _ => (widths.lookup n).getD (0, some 0)
  | ahead _ _ => (0, some 0)
  | behind _ _ _ => (0, some 0)
  | atomic p => p.width widths
  | ifCaptured _ p q => (p.width widths).either (q.width widths)

end CampaignCheck.Pattern
