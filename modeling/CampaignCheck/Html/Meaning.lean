import CampaignCheck.Html.Markup

namespace CampaignCheck.Html

def imageFindings (cs : List Char) (t : Tag) : List Finding :=
  if t.isNamed "img" && !t.has "alt" then
    [reportAt cs t.start "html-img-alt" "Image without alt text" .style .warning
      "Add alt=\"\" (or a description) to the image"]
  else []

/-- An input without a label, given the ids that labels are for and the depth of open labels. -/
def inputFindings (cs : List Char) (targets : List (List Char)) (depth : Nat) (t : Tag) :
    List Finding :=
  let id := t.value "id"
  let labelled := decide (0 < depth) || ["aria-label", "aria-labelledby", "title"].any t.has ||
    (!id.isEmpty && targets.contains id)
  if t.isOneOf ["input", "select", "textarea"] &&
      !unlabelledTypes.contains (String.ofList (Text.lower (t.value "type"))) && !labelled then
    [reportAt cs t.start "html-accessibility-label"
      ("<" ++ String.ofList t.name ++ "> has no associated label") .style .warning
      "Add a <label for=...> or an aria-label attribute"]
  else []

/-- Images without a text and inputs without a label. -/
def accessibilityFindings (cs : List Char) (targets : List (List Char)) :
    Nat → List Tag → List Finding
  | _, [] => []
  | depth, t :: ts =>
    if t.isNamed "label" && !t.selfClosing then
      accessibilityFindings cs targets (if t.closing then depth - 1 else depth + 1) ts
    else if t.closing then accessibilityFindings cs targets depth ts
    else imageFindings cs t ++ inputFindings cs targets depth t ++
      accessibilityFindings cs targets depth ts

/-- The attribute that a start tag lacks. -/
def missingAttribute? (t : Tag) : Option String :=
  if t.isNamed "img" && !t.has "src" then some "src"
  else if t.isNamed "a" && !(["href", "name", "id"].any t.has) then some "href"
  else if t.isNamed "meta" && !t.has "content" &&
      ["name", "property", "http-equiv"].any t.has then some "content"
  else none

def requiredFindings (cs : List Char) (t : Tag) : List Finding :=
  (missingAttribute? t).toList.map fun missing =>
    let name := "<" ++ String.ofList t.name ++ ">"
    reportAt cs t.start "html-required-attributes"
      (name ++ " is missing the " ++ missing ++ " attribute") .semantic .warning
      ("Add " ++ missing ++ " to the " ++ name ++ " element")

/-- What search engines miss in a page with a head. -/
def headFindings (cs : List Char) (starts : List Tag) : List Finding :=
  match starts.find? (·.isNamed "head") with
  | none => []
  | some head =>
    (if starts.any (·.isNamed "title") then [] else
      [reportAt cs head.start "html-seo-title" "Page has no <title>" .semantic .warning
        "Add a <title> inside <head>"]) ++
    (if starts.any fun t => t.isNamed "meta" && Text.lower (t.value "name") == "description".toList
      then [] else
      [reportAt cs head.start "html-seo-meta-description" "Page has no meta description" .semantic
        .info "Add <meta name=\"description\" content=\"...\"> to <head>"])

def deprecatedFindings (cs : List Char) (t : Tag) : List Finding :=
  let name := String.ofList t.name
  (deprecatedElements.lookup name).toList.map fun severity =>
    reportAt cs t.start "html-deprecated-elements" ("<" ++ name ++ "> is deprecated") .semantic
      severity ("Replace <" ++ name ++ "> with CSS styling")

def handlerFindings (cs : List Char) (t : Tag) : List Finding :=
  t.attributes.filterMap fun a =>
    if handlerName.matchesAll a.name then
      some (reportAt cs a.offset "html-inline-handler"
        ("Inline event handler " ++ String.ofList a.name) .style .info
        "Most email clients strip inline script handlers")
    else none

def meaningFindings (code : List Char) : List Finding :=
  let cs := tagText code
  let tags := tagsIn cs
  let starts := tags.filter (!·.closing)
  let targets := (starts.filter (·.isNamed "label")).map (·.value "for")
  accessibilityFindings cs targets 0 tags ++ starts.flatMap (requiredFindings cs) ++
    headFindings cs starts ++ starts.flatMap (deprecatedFindings cs) ++
    starts.flatMap (handlerFindings cs)

end CampaignCheck.Html
