namespace QuestAcademy.Level

def lowest : Nat := 1

def highest : Nat := 20

def clamp (level : Nat) : Nat :=
  max lowest (min level highest)

def isValid (level : Nat) : Bool :=
  lowest ≤ level && level ≤ highest

/-- Experience that leads from a level to the next; nothing leads further than the highest. -/
def experienceToNext (level : Nat) : Nat :=
  if highest ≤ clamp level then 0 else 100 * clamp level

end QuestAcademy.Level
