import CampaignCheck.Fix.Basic
import CampaignCheck.Html.Vocabulary

namespace CampaignCheck.Html

def fixImage : Fixer := fun line _ =>
  some (imageWithoutAlt.replaceAll (fun m =>
    m.group line 1 ++ " alt=\"\"".toList ++
      (if (m.group line 2).isEmpty then [] else " /".toList) ++ ['>']) line)

/-- Quote the value of an attribute that has one without quotes. -/
def quotedAttribute (cs : List Char) (m : Match) : List Char :=
  match m.bounds? 2 with
  | some (start, stop) =>
    let value := Text.slice cs start stop
    match value with
    | q :: _ =>
      if q == '"' || q == '\'' then m.text cs
      else Text.slice cs m.start start ++ ['"'] ++ value ++ ['"']
    | [] => m.text cs
  | none => m.text cs

def quotedTag (cs : List Char) : List Char := attributeForm.replaceAll (quotedAttribute cs) cs

/-- Quote the values in every start tag of the line. -/
def fixQuotes : Fixer := fun line _ =>
  some (lineTag.replaceAll (fun m => quotedTag (m.text line)) line)

/-- Remove end tags of void elements. -/
def fixVoidEnd : Fixer := fun line _ => some (voidEndTag.replaceAll (fun _ => []) line)

/-- Put the document type before the line. -/
def fixDoctype : Fixer := fun line _ => some ("<!DOCTYPE html>\n".toList ++ line)

def fixers : List (String × Fixer) := [
  ("html-img-alt", fixImage),
  ("html-quoted-attributes", fixQuotes),
  ("html-self-closing-tag", fixVoidEnd),
  ("html-doctype", fixDoctype)]

end CampaignCheck.Html
