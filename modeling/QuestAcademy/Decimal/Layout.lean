import QuestAcademy.Decimal.Shortest

namespace QuestAcademy.Decimal

/-- Digits around a decimal point that stands `point` digits from the left. -/
def positional (ds : List Char) (point : Int) (wholeMark : List Char) : List Char :=
  if point ≤ 0 then '0' :: '.' :: (List.replicate point.natAbs '0' ++ ds)
  else if (ds.length : Int) ≤ point then
    ds ++ List.replicate (point.natAbs - ds.length) '0' ++ wholeMark
  else ds.take point.natAbs ++ '.' :: ds.drop point.natAbs

structure DataNotation where
  exponentPlus : List Char
  notANumber : String
  infinite : String

/-- JSON text marks positive exponents; it has no words for the numbers that are not finite. -/
def jsonNumbers : DataNotation := ⟨['+'], "null", "null"⟩

def yamlNumbers : DataNotation := ⟨[], ".nan", ".inf"⟩

private def signed (negative : Bool) (body : List Char) : String :=
  String.ofList (if negative then '-' :: body else body)

/-- A number as data. From `0.00001` up to below `10 ^ 16` it is written out, with `.0` after a
whole number; otherwise with one digit before the point and an exponent. -/
def DataNotation.render (style : DataNotation) (x : Float) : String :=
  let negative := isNegative x
  if x.isNaN then style.notANumber
  else if x.isInf then signed (negative && style.infinite ≠ "null") style.infinite.toList
  else if x == 0 then signed negative ['0', '.', '0']
  else
    let (ds, point) := (shortest (magnitude x)).layout
    if -5 < point ∧ point ≤ 16 then signed negative (positional ds point ['.', '0'])
    else
      let exponent := point - 1
      let mark := if exponent < 0 then ['-'] else style.exponentPlus
      let fraction := if ds.length ≤ 1 then [] else '.' :: ds.drop 1
      signed negative (ds.take 1 ++ fraction ++ 'e' :: mark ++ digits exponent.natAbs)

/-- A number in a message: never an exponent, no point after a whole number. -/
def plain (x : Float) : String :=
  let negative := isNegative x
  if x.isNaN then "NaN"
  else if x.isInf then signed negative ['i', 'n', 'f']
  else if x == 0 then signed negative ['0']
  else
    let (ds, point) := (shortest (magnitude x)).layout
    signed negative (positional ds point [])

def twoPlaces (x : Float) : String :=
  let negative := isNegative x
  if x.isNaN then "NaN"
  else if x.isInf then signed negative ['i', 'n', 'f']
  else
    let exact := (magnitude x).toRatio
    let hundredths := roundedQuotient (exact.numerator * 100) exact.denominator
    let places := hundredths % 100
    signed negative
      (digits (hundredths / 100) ++ ['.', digitChar (places / 10), digitChar (places % 10)])

end QuestAcademy.Decimal
