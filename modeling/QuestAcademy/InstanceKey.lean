namespace QuestAcademy

def isKeyChar (c : Char) : Bool :=
  ('a' ≤ c && c ≤ 'z') || ('A' ≤ c && c ≤ 'Z') || ('0' ≤ c && c ≤ '9')

def lowerCase (c : Char) : Char :=
  if 'A' ≤ c ∧ c ≤ 'Z' then Char.ofNat (c.toNat + 32) else c

/-- Walks over a name. A dash is due once other characters have been passed, and is written only
between two characters of the key. -/
def keyChars (started dashDue : Bool) : List Char → List Char
  | [] => []
  | c :: rest =>
    if isKeyChar c then
      if dashDue && started then '-' :: lowerCase c :: keyChars true false rest
      else lowerCase c :: keyChars true false rest
    else keyChars started true rest

def instanceKey (name : String) : String :=
  String.ofList (keyChars false false name.toList)

def entityId (space key : String) : String :=
  space ++ ".agent." ++ key

end QuestAcademy
