import QuestAcademy.Difficulty
import QuestAcademy.Payload

namespace QuestAcademy

structure Template where
  id : String
  title : String
  description : String
  difficulty : Difficulty
  skills : List String
  input : Payload
  /-- What an output is judged by, in this order. -/
  criteria : List String

namespace Template

def requires (template : Template) (skill : String) : Bool :=
  template.skills.contains skill

def read : Reading Template := fun form d => do
  let fields ← Reading.fields ["id", "title", "description", "difficulty", "skills", "input",
    "criteria"] form d
  return {
    id := ← fields.required "id" Reading.text
    title := ← fields.required "title" Reading.text
    description := ← fields.required "description" Reading.text
    difficulty := ← fields.required "difficulty" Difficulty.read
    skills := ← fields.withDefault "skills" [] Reading.names
    input := ← fields.withDefault "input" .null Payload.read
    criteria := ← fields.withDefault "criteria" [] (Reading.list Reading.text) }

def toDocument (template : Template) : Document :=
  .fields [("id", .text template.id), ("title", .text template.title),
    ("description", .text template.description), ("difficulty", template.difficulty.toDocument),
    ("skills", .texts template.skills), ("input", template.input.toDocument),
    ("criteria", .texts template.criteria)]

end Template

structure Collection where
  domain : String
  description : String
  templates : List Template

namespace Collection

def read : Reading Collection := fun form d => do
  let fields ← Reading.fields ["domain", "description", "quests"] form d
  return {
    domain := ← fields.required "domain" Reading.text
    description := ← fields.withDefault "description" "" Reading.text
    templates := ← fields.required "quests" (Reading.list Template.read) }

def toDocument (collection : Collection) : Document :=
  .fields [("domain", .text collection.domain), ("description", .text collection.description),
    ("quests", .list (collection.templates.map Template.toDocument))]

end Collection

end QuestAcademy
