import CampaignCheck.Data.Json
import CampaignCheck.Http.Route

namespace CampaignCheck.Http

/-- The bytes of a text whose escapes are resolved. -/
def unescapedBytes : List Char → List UInt8
  | [] => []
  | c :: rest =>
    match c, rest with
    | '%', a :: b :: tail =>
      match Json.hex? a, Json.hex? b with
      | some m, some n => UInt8.ofNat (16 * m + n) :: unescapedBytes tail
      | _, _ => String.utf8EncodeChar '%' ++ unescapedBytes (a :: b :: tail)
    | c, rest => String.utf8EncodeChar c ++ unescapedBytes rest

/-- A text whose escapes are resolved; one whose bytes are no text stays as it is. -/
def unescaped (s : String) : String :=
  (String.fromUTF8? ⟨(unescapedBytes s.toList).toArray⟩).getD s

/-- A part of a query: plus signs stand for blanks. -/
def queryText (cs : List Char) : String :=
  unescaped (String.ofList (cs.map fun c => if c = '+' then ' ' else c))

def queryField (cs : List Char) : String × String :=
  (queryText (cs.takeWhile (· != '=')), queryText ((cs.dropWhile (· != '=')).drop 1))

def queryFields (cs : List Char) : List (String × String) :=
  ((Text.cut '&' cs).filter (!·.isEmpty)).map queryField

def writeField (f : String × String) : String := f.1 ++ "=" ++ f.2

/-- The request for a target under a base, with more fields for its query. -/
def Request.ofTarget (base method target : String) (fields : List (String × String))
    (body : Option String) : Request :=
  let path := target.toList.takeWhile (· != '?')
  let query := (target.toList.dropWhile (· != '?')).drop 1
  { method := method
    path := unescaped (String.ofList path)
    query := queryFields query ++ fields
    body := body
    address := base ++ target ++
      (if fields.isEmpty then "" else "?" ++ "&".intercalate (fields.map writeField)) }

end CampaignCheck.Http
