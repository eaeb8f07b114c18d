import CampaignCheck.Html.Markup

namespace CampaignCheck.Html

/-- The offset lies in the head of the page. -/
def inHead (cs : List Char) (offset : Nat) : Bool :=
  match headOpen.find? cs with
  | some o => decide (o.start < offset) &&
      ((headClose.find? cs).map fun c => decide (offset < c.start)).getD true
  | none => false

/-- A script that holds up the page, or that cannot be cached. -/
def scriptFindings (cs : List Char) (m : Match) : List Finding :=
  let attributes := Text.lower (m.group cs 1)
  let external := sourceAttribute.occursIn attributes
  if runsOnServer.occursIn attributes || Text.contains "ld+json".toList attributes then []
  else if external && inHead cs m.start && !deferral.occursIn attributes then
    [reportAt cs m.start "html-script-placement" "Script in <head> blocks rendering" .performance
      .warning "Add async or defer, or move the script to the end of <body>"]
  else if !external && !Text.allBlank (m.group cs 2) then
    [reportAt cs m.start "html-inline-scripts" "Inline client-side script" .performance .info
      "Move the script to an external file so it can be cached"]
  else []

def loadingFindings (cs : List Char) (t : Tag) : List Finding :=
  if t.isNamed "img" && !t.closing && !t.has "loading" then
    [reportAt cs t.start "html-lazy-loading" "Image has no loading attribute" .performance .info
      "Add loading=\"lazy\" to images below the fold"]
  else []

def costFindings (code : List Char) : List Finding :=
  let page := markup code
  let cs := tagText code
  (scriptElement.findAll page).flatMap (scriptFindings page) ++
    (tagsIn cs).flatMap (loadingFindings cs)

def words : List Char → List Char → List (List Char)
  | word, [] => if word.isEmpty then [] else [word.reverse]
  | word, c :: cs =>
    if Text.isBlank c then (if word.isEmpty then [] else [word.reverse]) ++ words [] cs
    else words (c :: word) cs

def tagAdvice (cs : List Char) (t : Tag) : List Suggestion :=
  let line := (Text.positionAt cs t.start).line
  if t.isNamed "div" then
    let names := words [] (Text.lower (t.value "id" ++ [' '] ++ t.value "class"))
    (landmarks.find? fun l => names.contains l.toList).toList.map fun l =>
      .on line s!"html-semantic-element:{line}" "Use semantic HTML elements"
        ("Use <" ++ l ++ "> instead of <div> for this landmark") .bestPractice .medium
  else if t.isNamed "img" && classicImage.occursIn (t.value "src") then
    [.on line s!"html-modern-image:{line}" "Consider modern image formats"
      ("On CloudPages, serve WebP or AVIF through <picture> and keep this image as the " ++
        "fallback")
      .performance .low]
  else []

def stylesheetAdvice (page : List Char) : List Suggestion :=
  (stylesheetLink.findAll page).map fun m =>
    let line := (Text.positionAt page m.start).line
    .on line s!"html-preload-css:{line}" "Preload critical CSS"
      "Preload the stylesheet with rel=\"preload\" as=\"style\" to speed up first render"
      .performance .medium

def advice (code : List Char) : List Suggestion :=
  let cs := tagText code
  ((tagsIn cs).filter (!·.closing)).flatMap (tagAdvice cs) ++ stylesheetAdvice (markup code)

end CampaignCheck.Html
