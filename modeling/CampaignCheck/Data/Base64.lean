namespace CampaignCheck.Base64

def value? (c : Char) : Option Nat :=
  if 'A' ≤ c && c ≤ 'Z' then some (c.toNat - 'A'.toNat)
  else if 'a' ≤ c && c ≤ 'z' then some (c.toNat - 'a'.toNat + 26)
  else if c.isDigit then some (c.toNat - '0'.toNat + 52)
  else if c == '+' then some 62
  else if c == '/' then some 63
  else none

/-- Read the characters from a place in a group of four on: `held` are the bits that do not make a
byte yet, and `pads` is the number of padding signs just before. -/
def decodeFrom (place held pads : Nat) : List Char → Option (List UInt8)
  | [] => if place = 0 then some [] else none
  | c :: rest =>
    if c == '=' then
      if 2 ≤ place && 4 ≤ place + pads + 1 then some []
      else decodeFrom place held (if 2 ≤ place then pads + 1 else pads) rest
    else match value? c with
      | none => decodeFrom place held pads rest
      | some v =>
        match place with
        | 0 => decodeFrom 1 v 0 rest
        | 1 => (decodeFrom 2 (v % 16) 0 rest).map ((held * 4 + v / 16).toUInt8 :: ·)
        | 2 => (decodeFrom 3 (v % 4) 0 rest).map ((held * 16 + v / 4).toUInt8 :: ·)
        | _ => (decodeFrom 0 0 0 rest).map ((held * 64 + v).toUInt8 :: ·)

/-- The bytes that a text stands for. Characters of other kinds do not count, and what follows the
padding is ignored. -/
def decode? (cs : List Char) : Option (List UInt8) := decodeFrom 0 0 0 cs

end CampaignCheck.Base64
