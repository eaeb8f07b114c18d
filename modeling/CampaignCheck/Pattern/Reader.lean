import CampaignCheck.Pattern.Item
import CampaignCheck.Text.Identifier
import CampaignCheck.Text.Digit

namespace CampaignCheck.Pattern

/-- What the reader knows: the signs to come, the flags in force, the groups so far with their names
and widths, the number of groups before the stretch behind that is being read, the groups that
conditions ask for, and what only counts against a text that can be read to its end. -/
structure Reading where
  rest : List Sign
  flags : Flags
  groups : Nat := 0
  names : List (String × Nat) := []
  widths : List (Nat × Width) := []
  behindFloor : Option Nat := none
  conditions : List Nat := []
  late : Option PatternFault := none
deriving Inhabited

namespace Reading

/-- The next sign is this plain character. -/
def isAt (r : Reading) (c : Char) : Bool := r.rest.head? == some (.plain c)

def skip (r : Reading) : Reading := { r with rest := r.rest.drop 1 }

def closed (r : Reading) (n : Nat) : Bool := (r.widths.lookup n).isSome

/-- Note a fault that counts once the text has been read. -/
def noteIf (r : Reading) (bad : Bool) (fault : PatternFault) : Reading :=
  if bad && r.late.isNone then { r with late := some fault } else r

/-- A stretch behind may only refer to groups that were closed before it. -/
def checkBehind (r : Reading) (n : Nat) : Except PatternFault Unit :=
  match r.behindFloor with
  | some b => if !r.closed n || b < n then .error .openGroup else .ok ()
  | none => .ok ()

end Reading

def recallGroup (n : Nat) (r : Reading) : Except PatternFault Item := do
  if !r.closed n then .error .openGroup
  else
    r.checkBehind n
    .ok ⟨.leaf, backreference n r.flags.likeness⟩

/-- An escape outside sets that refers to a group or gives a code in base eight. -/
def readNumberEscape (d : Nat) (r : Reading) : Except PatternFault (Item × Reading) :=
  if d = 0 then
    let (value, _, rest) := digitsOf 8 2 0 0 r.rest
    .ok (.literal r.flags value, { r with rest := rest })
  else
    let (two, count, rest) := digitsOf 10 1 d 0 r.rest
    let (eight, octal, after) := digitsOf 8 2 d 0 r.rest
    if octal = 2 && d < 8 then
      if eight ≤ 255 then .ok (.literal r.flags eight, { r with rest := after })
      else .error .unknownEscape
    else
      let n := if count = 1 then two else d
      if r.groups < n then .error .unknownGroup
      else do
        let item ← recallGroup n r
        .ok (item, { r with rest := rest })

def readEscape (c : Char) (r : Reading) : Except PatternFault (Item × Reading) :=
  let place (a : Anchor) := Except.ok ((⟨.place, anchor a⟩ : Item), r)
  match c with
  | 'A' => place .textStart
  | 'Z' => place .textEnd
  | 'b' => place (if r.flags.plain then .plainWordEdge else .wordEdge)
  | 'B' => place (if r.flags.plain then .notPlainWordEdge else .notWordEdge)
  | _ =>
    if c.isDigit then readNumberEscape (c.toNat - '0'.toNat) r
    else do
      let (m, rest) ← commonEscape c r.rest
      .ok (.ofMember r.flags m, { r with rest := rest })

/-- Counts in braces after their opening: the digits of the least and of the limit, and the rest;
nothing if they are not counts. The limit is that of an open count if it is left out. -/
def readCounts? (rest : List Sign) : Option ((Nat × Nat) × (Nat × Nat) × List Sign) :=
  let (lo, loCount, rest') := digitsOf 10 rest.length 0 0 rest
  match rest' with
  | .plain ',' :: more =>
    let (hi, hiCount, more') := digitsOf 10 more.length 0 0 more
    match more' with
    | .plain '}' :: after => some ((lo, loCount), (hi, hiCount), after)
    | _ => none
  | .plain '}' :: after =>
    if loCount = 0 then none else some ((lo, loCount), (lo, loCount), after)
  | _ => none

def countBound : Nat := 4294967295

/-- Check a count that is given by its value and its number of digits. -/
def checkCount (count : Nat × Nat) : Except PatternFault Unit :=
  if Text.maxDigits < count.2 then .error .unreadableCount
  else if countBound ≤ count.1 then .error .oversizedCount
  else .ok ()

def checkCounts (least limit : Nat × Nat) (rest : List Sign) :
    Except PatternFault (Nat × Option Nat) := do
  if rest = [.dangling] then .error .endsInEscape
  else
    checkCount least
    checkCount limit
    if limit.2 = 0 then .ok (least.1, none)
    else if limit.1 < least.1 then .error .reversedCounts
    else .ok (least.1, some limit.1)

/-- Repeat the last piece of a sequence that is kept in reverse. -/
def repeatLast (pieces : List Piece) (least : Nat) (limit : Option Nat) (r : Reading) :
    Except PatternFault (List Piece × Reading) :=
  match pieces with
  | [] | .item ⟨.place, _⟩ :: _ => .error .nothingToRepeat
  | .item ⟨.repetition, _⟩ :: _ => .error .repeatedTwice
  | piece :: more =>
    let r := r.noteIf r.flags.template .repetitionInTemplate
    let body := ofItems piece.items
    let put (greed : Greed) (r : Reading) : List Piece × Reading :=
      (.item ⟨.repetition, repeated body least limit greed⟩ :: more, r)
    if r.isAt '?' then .ok (put .fewest r.skip)
    else if r.isAt '+' then .ok (put .possessive r.skip)
    else .ok (put .most r)

def closeGroup (r : Reading) : Except PatternFault Reading :=
  if r.isAt ')' then .ok r.skip else .error .unclosedGroup

/-- The items of a sequence that was read in reverse. -/
def itemsOf (pieces : List Piece) : List Item := pieces.reverse.flatMap (·.items)

/-- The group that a condition asks for, by name or by number; only numbers may come before their
group. -/
def conditionGroup (name : String) (r : Reading) : Except PatternFault (Nat × Reading) :=
  if Text.isIdentifier name.toList then
    match r.names.lookup name with
    | some n => .ok (n, r)
    | none => .error .unknownGroup
  else match Text.integer? name.toList with
    | some (.ofNat (n + 1)) => .ok (n + 1, { r with conditions := (n + 1) :: r.conditions })
    | _ => .error .badGroupName

def checkNewName (name : String) (r : Reading) : Except PatternFault Unit :=
  if !Text.isIdentifier name.toList then .error .badGroupName
  else if (r.names.lookup name).isSome then .error .repeatedGroupName
  else .ok ()

/-- A condition on a stretch behind, which must have one width. -/
def lookBehind (holds : Bool) (p : Pattern) (r : Reading) : Pattern × Reading :=
  let w := p.width r.widths
  let r := r.noteIf (decide (countBound < w.1)) .tooFarBehind
  (behind holds w.1 p, r.noteIf (w.2 != some w.1) .variableWidthBehind)

/-- A blank that does not count among spaced items. -/
def isSpacing (c : Char) : Bool := CharSet.plainBlank.mem c

mutual

/-- Read alternatives, those before them being kept in reverse. `top` tells that no group is
open. -/
def readChoice (fuel : Nat) (top : Bool) (before : List (List Item)) (r : Reading) :
    Except PatternFault (List Item × Reading) :=
  match fuel with
  | 0 => .error .unclosedGroup
  | fuel + 1 => do
    let (items, r) ← readItems fuel (top && before.isEmpty) [] r
    if r.isAt '|' then readChoice fuel top (items :: before) r.skip
    else .ok (choice (items :: before).reverse, r)

/-- Read items up to the end of their sequence. `start` tells that flags for the whole may come. -/
def readItems (fuel : Nat) (start : Bool) (pieces : List Piece) (r : Reading) :
    Except PatternFault (List Item × Reading) :=
  match fuel with
  | 0 => .error .unclosedGroup
  | fuel + 1 =>
    match r.rest with
    | [] => .ok (itemsOf pieces, r)
    | .dangling :: _ => .error .endsInEscape
    | .escaped c :: rest => do
      let (item, r) ← readEscape c { r with rest := rest }
      readItems fuel start (.item item :: pieces) r
    | .plain c :: rest =>
      let next := { r with rest := rest }
      let put (i : Item) (r : Reading) := readItems fuel start (.item i :: pieces) r
      let again (least : Nat) (limit : Option Nat) (r : Reading) := do
        let (pieces, r) ← repeatLast pieces least limit r
        readItems fuel start pieces r
      if r.flags.spaced && isSpacing c then readItems fuel start pieces next
      else if r.flags.spaced && c = '#' then
        let rest := (rest.dropWhile (· != .plain '\n')).drop 1
        if next.rest.contains .dangling && rest.isEmpty then .error .endsInEscape
        else readItems fuel start pieces { r with rest := rest }
      else match c with
        | '|' | ')' => .ok (itemsOf pieces, r)
        | '^' => put ⟨.place, anchor (if r.flags.eachLine then .lineStart else .textStart)⟩ next
        | '$' => put ⟨.place, anchor (if r.flags.eachLine then .lineEnd else .lastLineEnd)⟩ next
        | '.' => put ⟨.leaf, one (if r.flags.dotAll then .all else .inLine)⟩ next
        | '?' => again 0 (some 1) next
        | '*' => again 0 none next
        | '+' => again 1 none next
        | '{' =>
          match readCounts? rest with
          | some (least, limit, rest) => do
            let (least, limit) ← checkCounts least limit rest
            again least limit { r with rest := rest }
          | none => put (.literal r.flags (Text.codeOf c)) next
        | '[' => do
          let negated := next.isAt '^'
          let next := if negated then next.skip else next
          let (members, rest) ← readSet next.rest.length [] next.rest
          put (.ofMembers r.flags negated members) { r with rest := rest }
        | '(' => readGroup fuel start pieces next
        | _ => put (.literal r.flags (Text.codeOf c)) next

/-- Read a group after its opening parenthesis, then the items that follow. -/
def readGroup (fuel : Nat) (start : Bool) (pieces : List Piece) (r : Reading) :
    Except PatternFault (List Item × Reading) :=
  match fuel with
  | 0 => .error .unclosedGroup
  | fuel + 1 =>
    let go (p : Piece) (r : Reading) := readItems fuel start (p :: pieces) r
    let goGroup (p : Pattern) (r : Reading) := go (.item ⟨.group, p⟩) r
    let captured (names : List (String × Nat)) (r : Reading) := do
      let n := r.groups + 1
      let (items, r) ← readChoice fuel false [] { r with groups := n, names := names }
      let r ← closeGroup r
      let p := ofItems items
      goGroup (capture n p) { r with widths := (n, p.width r.widths) :: r.widths }
    let lookAhead (holds : Bool) (r : Reading) := do
      let (items, r) ← readChoice fuel false [] r
      goGroup (ahead holds (ofItems items)) (← closeGroup r)
    let lookBack (holds : Bool) (r : Reading) := do
      let outer := r.behindFloor
      let floor := if outer.isNone then some r.groups else outer
      let (items, r) ← readChoice fuel false [] { r with behindFloor := floor }
      let r ← closeGroup { r with behindFloor := outer }
      let (p, r) := lookBehind holds (ofItems items) r
      goGroup p r
    if !r.isAt '?' then captured r.names r
    else match r.rest.drop 1 with
      | .plain c :: rest =>
        let next := { r with rest := rest }
        match c with
        | ':' => do
          let (items, r) ← readChoice fuel false [] next
          go (.bare items) (← closeGroup r)
        | '>' => do
          let (items, r) ← readChoice fuel false [] next
          goGroup (atomic (ofItems items)) (← closeGroup r)
        | '=' => lookAhead true next
        | '!' => lookAhead false next
        | '<' =>
          if next.isAt '=' then lookBack true next.skip
          else if next.isAt '!' then lookBack false next.skip
          else .error .unknownGroupKind
        | '#' =>
          match rest.dropWhile (· != .plain ')') with
          | [] => .error .unclosedGroup
          | _ :: rest => readItems fuel start pieces { r with rest := rest }
        | 'P' =>
          if next.isAt '<' then do
            let (name, rest) ← readName '>' [] next.skip.rest
            checkNewName name r
            captured ((name, r.groups + 1) :: r.names) { r with rest := rest }
          else if next.isAt '=' then do
            let (name, rest) ← readName ')' [] next.skip.rest
            match r.names.lookup name with
            | none => .error .unknownGroup
            | some n => go (.item (← recallGroup n r)) { r with rest := rest }
          else .error .unknownGroupKind
        | '(' => do
          let (name, rest) ← readName ')' [] rest
          let (n, r) ← conditionGroup name r
          r.checkBehind n
          let (yes, r) ← readItems fuel false [] { r with rest := rest }
          if r.isAt '|' then
            let (no, r) ← readItems fuel false [] r.skip
            if r.isAt '|' then .error .tooManyBranches
            else goGroup (ifCaptured n (ofItems yes) (ofItems no)) (← closeGroup r)
          else goGroup (ifCaptured n (ofItems yes) empty) (← closeGroup r)
        | _ => do
          let (on, stop, rest) ← readFlags (r.rest.drop 1)
          match stop with
          | .whole =>
            if start && pieces.isEmpty then
              readItems fuel start pieces { r with rest := rest, flags := r.flags.join on }
            else .error .misplacedFlags
          | .scoped off => do
            let inner := { r with rest := rest, flags := r.flags.within on off }
            let (items, inner) ← readChoice fuel false [] inner
            goGroup (ofItems items) { (← closeGroup inner) with flags := r.flags }
      | _ => .error .unknownGroupKind

end

/-- The set that the first character of a match belongs to, if the pattern starts with one. -/
def firstSet? : Pattern → Option CharSet
  | one s => some s
  | seq p _ => p.firstSet?
  | capture _ p => p.firstSet?
  | _ => none

/-- The flags for the whole of a pattern also decide which characters a match may start with: a set
at the start has its classes read by them, too. -/
def guarded (flags : Flags) (p : Pattern) : Pattern :=
  match p.firstSet? with
  | some s =>
    let first := s.withClasses flags.plain
    if s.foldsCase || first == s then p else ahead true (one first) ++ p
  | none => p

/-- The pattern that a text stands for, or why it stands for none. The written form has literals,
the dot, sets in brackets, classes, anchors, groups (plain, named, atomic, with flags),
alternatives, repetitions (greedy, lazy, possessive, counted), recalls of a group and conditions on
the text ahead or on a fixed stretch behind. -/
def read (source : String) (flags : Flags) : Except PatternFault Pattern := do
  let signs := signs source.toList
  let (items, r) ← readChoice (4 * signs.length + 4) true [] { rest := signs, flags := flags }
  if r.flags.clash then .error .clashingFlags
  else if !r.rest.isEmpty then .error .strayParenthesis
  else if r.conditions.any fun n => decide (r.groups < n) then .error .unknownGroup
  else match r.late with
    | some fault => .error fault
    | none => .ok (guarded r.flags (ofItems items))

end CampaignCheck.Pattern
