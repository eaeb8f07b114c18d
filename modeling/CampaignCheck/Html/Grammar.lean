import CampaignCheck.Html.Markup

namespace CampaignCheck.Html

/-- An element that has been opened. -/
structure OpenElement where
  name : List Char
  offset : Nat
deriving DecidableEq, Repr, Inhabited

/-- The open elements, innermost first, and what has been found. -/
structure Nesting where
  stack : List OpenElement
  found : List Finding
deriving DecidableEq, Repr, Inhabited

def named (names : List String) (name : List Char) : Bool := names.contains (String.ofList name)

/-- A tag in angle brackets. -/
def shown (name : List Char) : String := "<" ++ String.ofList name ++ ">"

/-- An end tag in angle brackets. -/
def shownEnd (name : List Char) : String := "</" ++ String.ofList name ++ ">"

/-- Close elements up to the innermost of a name: the findings on those that are closed by it, and
what stays open. -/
def closeUpTo (cs : List Char) (name : List Char) :
    List OpenElement → List Finding × List OpenElement
  | [] => ([], [])
  | e :: es =>
    if e.name = name then ([], es)
    else
      let (found, rest) := closeUpTo cs name es
      if named optionalClose e.name then (found, rest)
      else (reportAt cs e.offset "html-tag-mismatch"
        (shown e.name ++ " is closed by " ++ shownEnd name) .syntactic .error
        ("Close " ++ shown e.name ++ " before " ++ shownEnd name) :: found, rest)

def Nesting.enter (cs : List Char) (s : Nesting) (t : Tag) : Nesting :=
  let e : OpenElement := ⟨t.name, t.start⟩
  match s.stack with
  | top :: rest =>
    if top.name == ['p'] then
      if t.isNamed "p" then ⟨e :: rest, s.found⟩
      else if named blockElements t.name then
        ⟨e :: s.stack, s.found ++ [reportAt cs t.start "html-invalid-nesting"
          (shown t.name ++ " cannot be nested inside <p>") .syntactic .error
          "Close the paragraph first or use a <div>"]⟩
      else { s with stack := e :: s.stack }
    else { s with stack := e :: s.stack }
  | [] => { s with stack := [e] }

/-- An end tag of an element with content. -/
def Nesting.leave (cs : List Char) (s : Nesting) (t : Tag) : Nesting :=
  if s.stack.any (·.name == t.name) then
    let (found, rest) := closeUpTo cs t.name s.stack
    ⟨rest, s.found ++ found⟩
  else { s with found := s.found ++ [reportAt cs t.start "html-tag-mismatch"
    ("Closing tag " ++ shownEnd t.name ++ " has no matching opening tag") .syntactic .error
    ("Remove " ++ shownEnd t.name ++ " or add the opening tag")] }

def Nesting.step (cs : List Char) (s : Nesting) (t : Tag) : Nesting :=
  if named voidElements t.name then
    if t.closing then
      { s with found := s.found ++ [reportAt cs t.start "html-self-closing-tag"
        (shown t.name ++ " is a void element and takes no " ++ shownEnd t.name) .syntactic .warning
        ("Remove " ++ shownEnd t.name)] }
    else s
  else if t.selfClosing then s
  else if t.closing then s.leave cs t
  else s.enter cs t

/-- An element that is never closed, unless its end tag may be left out. -/
def neverClosed (cs : List Char) (e : OpenElement) : List Finding :=
  if named optionalClose e.name || named ["html", "body", "head"] e.name then []
  else [reportAt cs e.offset "html-tag-mismatch" (shown e.name ++ " is never closed") .syntactic
    .error ("Add " ++ shownEnd e.name)]

/-- Tags without a partner, and elements in the wrong place. -/
def structureFindings (cs : List Char) (tags : List Tag) : List Finding :=
  let s := tags.foldl (Nesting.step cs) ⟨[], []⟩
  s.found ++ s.stack.reverse.flatMap (neverClosed cs)

/-- Repeated attributes and values without quotes, given the names seen before in the tag. -/
def attributeFindings (cs : List Char) (t : Tag) : List (List Char) → List Attribute → List Finding
  | _, [] => []
  | seen, a :: as =>
    let name := String.ofList a.name
    (if seen.contains a.name then
      [reportAt cs a.offset "html-duplicate-attribute"
        ("Duplicate attribute " ++ name ++ " on " ++ shown t.name) .syntactic .error
        ("Remove the second " ++ name)]
    else []) ++
    (match a.value with
      | some (q :: _) =>
        if q == '"' || q == '\'' then []
        else [reportAt cs a.offset "html-quoted-attributes"
          ("Value of " ++ name ++ " is not quoted") .syntactic .warning
          "Wrap the attribute value in quotes"]
      | _ => []) ++
    attributeFindings cs t (a.name :: seen) as

/-- The number of the first line that is not blank, counted from `number`; else one. -/
def firstNonblank : Nat → List (List Char) → Nat
  | _, [] => 1
  | number, l :: ls => if Text.allBlank l then firstNonblank (number + 1) ls else number

def documentFindings (code : List Char) (tags : List Tag) : List Finding :=
  if !isDocument tags then []
  else
    let first := firstNonblank 1 (Text.cut '\n' code)
    (if Text.startsWith (Text.lower (Text.trimLeft code)) "<!doctype".toList then [] else
      [Finding.report first (some 0) "html-doctype"
        "Document does not start with a DOCTYPE declaration" .syntactic .warning
        "Add <!DOCTYPE html> as the first line"]) ++
    ["head", "body"].filterMap fun required =>
      if tags.any fun t => t.isNamed required && !t.closing then none
      else some (.report first (some 0) "html-required-structure"
        ("Document has no <" ++ required ++ "> element") .syntactic .warning
        ("Add a <" ++ required ++ "> element"))

def grammarFindings (code : List Char) : List Finding :=
  let cs := tagText code
  let tags := tagsIn cs
  structureFindings cs tags ++
    (tags.filter (!·.closing)).flatMap (fun t => attributeFindings cs t [] t.attributes) ++
    documentFindings code tags

end CampaignCheck.Html
