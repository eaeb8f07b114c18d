import CampaignCheck.Pattern.Basic

/-!
Matching by backtracking. `Pattern.run` tries a pattern at a place and passes each way it matches,
in order of preference, to what comes after, until that succeeds. The recursion is on the pattern;
repetition counts down a bound.

Two things outlive a failed attempt. The marks of groups are put back as they were only inside a
repetition; elsewhere an attempt merely loses the marks that it added. And the offset that the
attempt reached is where a possessive repetition goes on once its last attempt has failed.
-/

namespace CampaignCheck

/-- Where matching stands: the offset, the offset that attempts reached last, and the marks. The
group of number `n` starts at mark `2 * n - 2` and stops at mark `2 * n - 1`. -/
structure Cursor where
  pos : Nat
  reached : Nat
  marks : Array (Option Nat)
deriving DecidableEq, Repr, Inhabited

/-- Where matching stands after a failure, or after a success. -/
abbrev MatchOutcome := Except Cursor Cursor

abbrev Goal := Cursor → MatchOutcome

abbrev Matcher := Cursor → Goal → MatchOutcome

namespace Cursor

/-- The bounds between the marks of a group, if both are set. -/
def boundsIn (marks : Array (Option Nat)) (n : Nat) : Option (Nat × Nat) :=
  match marks[2 * n - 2]?, marks[2 * n - 1]? with
  | some (some start), some (some stop) => some (start, stop)
  | _, _ => none

/-- What is remembered under a number. -/
def captured? (s : Cursor) (n : Nat) : Option (Nat × Nat) :=
  (boundsIn s.marks n).filter fun b => decide (b.1 ≤ b.2)

def mark (s : Cursor) (i : Nat) : Cursor :=
  let marks := s.marks ++ Array.replicate (i + 1 - s.marks.size) none
  { s with marks := marks.setIfInBounds i (some s.pos) }

/-- An attempt starts or ends here. -/
def here (s : Cursor) : Cursor := { s with reached := s.pos }

/-- After a failed attempt: inside a repetition all marks are as before it, elsewhere only those
that it added are gone. -/
def after (s : Cursor) (looped : Bool) (failed : Cursor) : Cursor :=
  { s with
    reached := failed.reached
    marks := if looped then s.marks else failed.marks.take s.marks.size }

end Cursor

/-- A failure ends with the given offset as the one reached. -/
def MatchOutcome.backTo (pos : Nat) : MatchOutcome → MatchOutcome
  | .ok r => .ok r
  | .error t => .error { t with reached := pos }

namespace Anchor

/-- The character at an offset belongs to a class of word characters. -/
def wordAt (isWord : Char → Bool) (text : Array Char) (pos : Nat) : Bool :=
  match text[pos]? with
  | some c => isWord c
  | none => false

/-- The character before an offset belongs to a class of word characters. -/
def wordBefore (isWord : Char → Bool) (text : Array Char) : Nat → Bool
  | 0 => false
  | pos + 1 => wordAt isWord text pos

/-- A word starts or ends at the offset. -/
def isEdge (isWord : Char → Bool) (text : Array Char) (pos : Nat) : Bool :=
  wordBefore isWord text pos != wordAt isWord text pos

def holds (text : Array Char) (pos : Nat) : Anchor → Bool
  | textStart => pos == 0
  | textEnd => pos == text.size
  | lineStart => pos == 0 || text[pos - 1]? == some '\n'
  | lineEnd => pos == text.size || text[pos]? == some '\n'
  | lastLineEnd => pos == text.size || (pos + 1 == text.size && text[pos]? == some '\n')
  | wordEdge => isEdge Text.isWord text pos
  | notWordEdge => text.size != 0 && !isEdge Text.isWord text pos
  | plainWordEdge => isEdge CharSet.plainWord.mem text pos
  | notPlainWordEdge => text.size != 0 && !isEdge CharSet.plainWord.mem text pos

end Anchor

/-- The two characters count as the same. -/
def Likeness.alike : Likeness → Char → Char → Bool
  | exact, a, b => a == b
  | anyCase, a, b => Text.lowerChar a == Text.lowerChar b
  | plainCase, a, b => Text.samePlainLetter a b

namespace Pattern

/-- The text from `pos` repeats the `n` characters from `start`. -/
def repeats (text : Array Char) (likeness : Likeness) (start pos : Nat) : Nat → Bool
  | 0 => true
  | n + 1 =>
    match text[start]?, text[pos]? with
    | some a, some b => likeness.alike a b && repeats text likeness (start + 1) (pos + 1) n
    | _, _ => false

/-- How a pattern opens: with nothing at all, with one character of a set, or otherwise. -/
inductive Opening where
  | nothing
  | set (s : CharSet)
  | other
deriving Inhabited

def opening : Pattern → Opening
  | empty => .nothing
  | one s => .set s
  | seq p q =>
    match p.opening with
    | .nothing => q.opening
    | o => o
  | _ => .other

/-- The single character that must come first in what follows. -/
def firstChar? : List Pattern → Option Char
  | [] => none
  | p :: ps =>
    match p.opening with
    | .nothing => firstChar? ps
    | .set (.char c) => some c
    | _ => none

/-- The alternative is worth an attempt at an offset: it is not if it opens with a set that is
looked up directly and does not hold the next character. -/
def isCandidate (text : Array Char) (pos : Nat) (p : Pattern) : Bool :=
  match p.opening with
  | .set s => !s.isDirect || (text[pos]?.map s.mem).getD false
  | _ => true

/-- Attempt one of several alternatives. -/
def branch (text : Array Char) (looped : Bool) (p : Pattern) (body : Matcher) : Matcher :=
  fun s k =>
    if isCandidate text s.pos p then
      match body s.here k with
      | .ok r => .ok r
      | .error t => .error (s.after looped t)
    else .error s

/-- The number of characters of a set from an offset on, at most as many as the bound says. -/
def countOf (text : Array Char) (set : CharSet) : Nat → Nat → Nat
  | 0, _ => 0
  | bound + 1, pos =>
    match text[pos]? with
    | some c => if set.mem c then countOf text set bound (pos + 1) + 1 else 0
    | none => 0

/-- What comes after at `extra` characters past `pos`, or else at fewer and fewer. Offsets without
the character that must come first are left out. -/
def giveBack (text : Array Char) (looped : Bool) (first : Option Char) (pos : Nat) :
    Nat → Matcher
  | extra, s, k =>
    let here := pos + extra
    let failed :=
      if first.isNone || text[here]? == first then
        match k { s with pos := here, reached := here } with
        | .ok r => Except.ok r
        | .error t => Except.error (s.after looped t)
      else .error s
    match extra, failed with
    | _, .ok r => .ok r
    | 0, .error t => .error t
    | extra + 1, .error t => giveBack text looped first pos extra t k

/-- What comes after here, or else after one more character of the set, up to `bound` of them. -/
def takeMore (text : Array Char) (looped : Bool) (set : CharSet) : Nat → Matcher
  | bound, s, k =>
    match k s.here with
    | .ok r => .ok r
    | .error t =>
      let more := countOf text set 1 s.pos
      let left := s.after looped t
      let stay := { left with reached := if set.isFolded then s.pos + more else s.pos }
      match bound with
      | 0 => .error stay
      | bound + 1 =>
        if more = 0 then .error stay
        else takeMore text looped set bound { stay with pos := s.pos + 1 } k

/-- Characters of a set, from `least` to `limit` of them. -/
def repeatedSet (text : Array Char) (looped : Bool) (first : Option Char) (set : CharSet)
    (least : Nat) (limit : Option Nat) (greed : Greed) : Matcher := fun s k =>
  let room := text.size - s.pos
  let most := min room (limit.getD room)
  if room < least then .error s
  else
    let n := countOf text set (if greed = .fewest then least else most) s.pos
    let s := { s with reached := if set.isFolded then s.pos + n else s.pos }
    if n < least then .error s
    else match greed with
      | .most => giveBack text looped first (s.pos + least) (n - least) s k
      | .fewest => takeMore text looped set (most - least) { s with pos := s.pos + n } k
      | .possessive => k { s with pos := s.pos + n }

/-- Exactly `n` times. -/
def times (body : Matcher) : Nat → Matcher
  | 0, s, k => k s
  | n + 1, s, k => MatchOutcome.backTo s.pos (body s.here fun t => times body n t k)

/-- Up to `n` times, as often as possible. An iteration that consumed nothing is the last. -/
def upToMost (body : Matcher) : Nat → Option Nat → Matcher
  | 0, _, s, k => MatchOutcome.backTo s.pos (k s.here)
  | n + 1, last, s, k =>
    let leave := fun (_ : Unit) => MatchOutcome.backTo s.pos (k s.here)
    if last = some s.pos then leave ()
    else match body s.here fun t => upToMost body n (some s.pos) t k with
      | .ok r => .ok r
      | .error _ => leave ()

/-- Up to `n` times, as seldom as possible. An iteration that consumed nothing is the last. -/
def upToFewest (looped : Bool) (body : Matcher) : Nat → Option Nat → Matcher
  | n, last, s, k =>
    match k s.here with
    | .ok r => .ok r
    | .error t =>
      let s := (s.after looped t).here
      match n with
      | 0 => .error s
      | n + 1 =>
        if last = some s.pos then .error s
        else MatchOutcome.backTo s.pos (body s fun t => upToFewest looped body n (some s.pos) t k)

/-- Match on its own, with nothing to come after. -/
def alone (body : Matcher) : Goal := fun s => body s fun t => .ok t.here

/-- Exactly `n` times, each with its first match. -/
def timesFirst (body : Matcher) : Nat → Goal
  | 0, s => .ok s
  | n + 1, s =>
    match alone body s with
    | .ok t => timesFirst body n t
    | .error t => .error t

/-- Up to `n` times, each with its first match. After a failed attempt matching goes on from the
offset that the attempt reached, not from where it began: so it is done where the service runs. -/
def upToFirst (body : Matcher) : Nat → Cursor → Cursor
  | 0, s => s
  | n + 1, s =>
    match alone body s with
    | .ok t => if t.pos = s.pos then t else upToFirst body n t
    | .error t => { s with pos := t.reached, reached := t.reached }

/-- A body from `least` to `limit` times, with at most `bound` iterations beyond the least. The
second form of the body is the one within a repetition. -/
def repeatedBody (looped : Bool) (body inLoop : Matcher) (least bound : Nat) (greed : Greed) :
    Matcher := fun s k =>
  match greed with
  | .most => times inLoop least s fun t => upToMost inLoop bound none t k
  | .fewest => times inLoop least s fun t => upToFewest looped inLoop bound none t k
  | .possessive =>
    match timesFirst body least s.here with
    | .ok t => k (upToFirst body bound t)
    | .error t => .error { t with reached := s.pos }

/-- A condition on the text from `start` on; what comes after goes on from here. -/
def condition (looped holds : Bool) (start : Nat) (body : Matcher) : Matcher := fun s k =>
  match alone body { s with pos := start, reached := start } with
  | .ok t => if holds then k { t with pos := s.pos } else .error t
  | .error t => if holds then .error t else k (s.after looped t)

/-- Match a pattern, then what comes after it. `looped` tells that it stands in the body of a
repetition; `rest` is what follows it there, nearest first. -/
def run (text : Array Char) : Pattern → Bool → List Pattern → Matcher
  | empty, _, _, s, k => k s
  | one set, _, _, s, k =>
    match text[s.pos]? with
    | some c => if set.mem c then k { s with pos := s.pos + 1 } else .error s
    | none => .error s
  | anchor a, _, _, s, k => if a.holds text s.pos then k s else .error s
  | seq p q, looped, rest, s, k =>
    p.run text looped (q :: rest) s fun t => q.run text looped rest t k
  | alt p q, looped, _, s, k =>
    match branch text looped p (p.run text looped []) s k with
    | .ok r => .ok r
    | .error s =>
      if q.isChoice then q.run text looped [] s k
      else branch text looped q (q.run text looped []) s k
  | repeated (one set) least limit greed, looped, rest, s, k =>
    repeatedSet text looped (firstChar? rest) set least limit greed s k
  | repeated p least limit greed, looped, _, s, k =>
    let bound := match limit with
      | some m => m - least
      | none => 2 * text.size + 2
    repeatedBody looped (p.run text looped []) (p.run text true []) least bound greed s k
  | capture n p, looped, _, s, k =>
    p.run text looped [] (s.mark (2 * n - 2)) fun t => k (t.mark (2 * n - 1))
  | backreference n likeness, _, _, s, k =>
    match s.captured? n with
    | some (start, stop) =>
      if repeats text likeness start s.pos (stop - start) then
        k { s with pos := s.pos + (stop - start) }
      else .error s
    | none => .error s
  | ahead holds p, looped, _, s, k => condition looped holds s.pos (p.run text looped []) s k
  | behind holds width p, looped, _, s, k =>
    if width ≤ s.pos then condition looped holds (s.pos - width) (p.run text looped []) s k
    else if holds then .error s
    else k s
  | atomic p, looped, _, s, k =>
    match alone (p.run text looped []) s.here with
    | .ok t => k t
    | .error t => .error { t with reached := s.pos }
  | ifCaptured n p q, looped, rest, s, k =>
    match s.captured? n with
    | some _ =>
      p.run text looped (match q with | empty => rest | _ => []) s k
    | none => q.run text looped rest s k

end Pattern

end CampaignCheck
