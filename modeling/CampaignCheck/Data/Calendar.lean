namespace CampaignCheck.Calendar

def isLeapYear (year : Nat) : Bool :=
  year % 4 == 0 && (year % 100 != 0 || year % 400 == 0)

/-- The number of days of a month, counted from one; none if there is no such month. -/
def daysIn? (year month : Nat) : Option Nat :=
  if month = 2 then some (if isLeapYear year then 29 else 28)
  else if [4, 6, 9, 11].contains month then some 30
  else if 1 ≤ month ∧ month ≤ 12 then some 31
  else none

end CampaignCheck.Calendar
