import QuestAcademy.Template

namespace QuestAcademy

structure Curriculum where
  collection : Collection
  /-- For each difficulty that occurs, the places of its templates. -/
  buckets : List (Difficulty × List Nat)

namespace Curriculum

def note (difficulty : Difficulty) (place : Nat) :
    List (Difficulty × List Nat) → List (Difficulty × List Nat)
  | [] => [(difficulty, [place])]
  | (d, places) :: rest =>
    if d = difficulty then (d, places ++ [place]) :: rest
    else (d, places) :: note difficulty place rest

def ofCollection (collection : Collection) : Curriculum :=
  { collection
    buckets := collection.templates.zipIdx.foldl
      (fun buckets (template, place) => note template.difficulty place buckets) [] }

def ofTemplates (domain : String) (templates : List Template) : Curriculum :=
  ofCollection { domain, description := "", templates }

def domain (curriculum : Curriculum) : String := curriculum.collection.domain

def description (curriculum : Curriculum) : String := curriculum.collection.description

def all (curriculum : Curriculum) : List Template := curriculum.collection.templates

def size (curriculum : Curriculum) : Nat := curriculum.all.length

def get? (curriculum : Curriculum) (id : String) : Option Template :=
  curriculum.all.find? fun template => template.id = id

def ofDifficulty (curriculum : Curriculum) (difficulty : Difficulty) : List Template :=
  ((curriculum.buckets.lookup difficulty).getD []).filterMap fun place => curriculum.all[place]?

def requiring (curriculum : Curriculum) (skill : String) : List Template :=
  curriculum.all.filter fun template => template.requires skill

end Curriculum

end QuestAcademy
