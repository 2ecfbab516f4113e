namespace QuestAcademy.Yaml

inductive Token
  | listBlock
  | recordBlock
  | blockEnd
  | openList
  | closeList
  | openRecord
  | closeRecord
  | item
  | comma
  | key
  | value
  | reference (name : String)
  | anchor (name : String)
  | tag (handle suffix : String)
  | scalar (plain : Bool) (text : String)
  | documentStart
  | documentEnd
  | version (major minor : Nat)
  | tagHandle (handle start : String)
  deriving DecidableEq

end QuestAcademy.Yaml
