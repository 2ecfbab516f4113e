namespace QuestAcademy.Limit

def byte : Nat := 255

def word : Nat := 4294967295

def long : Nat := 18446744073709551615

def signed : Nat := 9223372036854775807

/-- Whether an integer has 64 bits, its sign included. There is one more negative number than there
are positive ones. -/
def holdsSigned (i : Int) : Bool :=
  -(signed : Int) - 1 ≤ i && i ≤ signed

end QuestAcademy.Limit
