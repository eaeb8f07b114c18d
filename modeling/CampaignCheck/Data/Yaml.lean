import CampaignCheck.Data.Yaml.Node.Meaning
import CampaignCheck.Data.Yaml.Token.Lexer

namespace CampaignCheck.Yaml

/-- Every line end as a line feed. -/
def normalizeEnds : List Char → List Char
  | [] => []
  | '\r' :: '\n' :: rest => '\n' :: normalizeEnds rest
  | '\r' :: rest => '\n' :: normalizeEnds rest
  | c :: rest => c :: normalizeEnds rest

/-- A character that may stand in a file. -/
def isPrintable (c : Char) : Bool :=
  let n := c.toNat
  c == '\t' || c == '\n' || (0x20 ≤ n && n ≤ 0x7E) || n == 0x85 ||
    (0xA0 ≤ n && n ≤ 0xFFFD) || 0x10000 ≤ n

/-- The value of a file; one without a document holds nothing. -/
def read (text : String) : Except Fault Value := do
  let cs := normalizeEnds text.toList
  if !cs.all isPrintable then .error .malformed
  else
    let (ts, fault) := tokens cs
    match ← NodeReader.readDocument ts fault with
    | some n => valueOf n
    | none => return .null

end CampaignCheck.Yaml
