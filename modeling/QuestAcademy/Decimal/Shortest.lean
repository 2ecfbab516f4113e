import QuestAcademy.Decimal.Digits
import QuestAcademy.Decimal.Binary

/-!
The fewest decimal digits that read back as a given double. A decimal reads back when it lies in
the interval of reals that round to the double; for each count of digits only the two neighbours of
the double on that decimal grid have to be tried.
-/

namespace QuestAcademy.Decimal

structure Scientific where
  digits : Nat
  exponent : Int

structure Ratio where
  numerator : Nat
  denominator : Nat

namespace Ratio

def scaleTwo (r : Ratio) (e : Int) : Ratio :=
  if 0 ≤ e then ⟨r.numerator * twoTo e.natAbs, r.denominator⟩
  else ⟨r.numerator, r.denominator * twoTo e.natAbs⟩

def scaleTen (r : Ratio) (e : Int) : Ratio :=
  if 0 ≤ e then ⟨r.numerator * tenTo e.natAbs, r.denominator⟩
  else ⟨r.numerator, r.denominator * tenTo e.natAbs⟩

def le (a b : Ratio) : Bool := a.numerator * b.denominator ≤ b.numerator * a.denominator

def lt (a b : Ratio) : Bool := a.numerator * b.denominator < b.numerator * a.denominator

def distance (r : Ratio) (n : Nat) : Ratio :=
  ⟨(r.numerator - n * r.denominator) + (n * r.denominator - r.numerator), r.denominator⟩

end Ratio

namespace Magnitude

def toRatio (m : Magnitude) : Ratio :=
  Ratio.scaleTwo ⟨m.significand, 1⟩ m.exponent

/-- The lower end of the reals that round to a positive double. Below a power of two the
neighbouring doubles lie half as far apart. -/
def lowerEnd (m : Magnitude) : Ratio :=
  if m.significand = twoTo 52 ∧ -1074 < m.exponent then
    Ratio.scaleTwo ⟨4 * m.significand - 1, 1⟩ (m.exponent - 2)
  else Ratio.scaleTwo ⟨2 * m.significand - 1, 1⟩ (m.exponent - 1)

def upperEnd (m : Magnitude) : Ratio :=
  Ratio.scaleTwo ⟨2 * m.significand + 1, 1⟩ (m.exponent - 1)

/-- Whether a decimal rounds to the double. The ends round to the even neighbour. -/
def admits (m : Magnitude) (r : Ratio) : Bool :=
  if m.significand % 2 = 0 then m.lowerEnd.le r && r.le m.upperEnd
  else m.lowerEnd.lt r && r.lt m.upperEnd

end Magnitude

def decimalPoint (r : Ratio) : Int :=
  let estimate : Int := ((r.numerator.log2 : Int) - r.denominator.log2) * 3 / 10 - 2
  let rec climb : Nat → Int → Int
    | 0, point => point
    | steps + 1, point =>
      if r.lt (Ratio.scaleTen ⟨1, 1⟩ point) then point else climb steps (point + 1)
  climb 200 estimate

/-- The admitted neighbour of the double on the grid of decimals with `count` digits; of two the
nearer, of two equally near the even one. -/
def onGrid? (m : Magnitude) (point : Int) (count : Nat) : Option Scientific :=
  let exponent := point - count
  let here := m.toRatio.scaleTen (-exponent)
  let low := here.numerator / here.denominator
  let high := low + 1
  let fits (n : Nat) : Bool := n ≠ 0 && m.admits (Ratio.scaleTen ⟨n, 1⟩ exponent)
  let preferLow := (here.distance low).lt (here.distance high)
    || ((here.distance low).le (here.distance high) && low % 2 = 0)
  match fits low, fits high with
  | true, true => some ⟨if preferLow then low else high, exponent⟩
  | true, false => some ⟨low, exponent⟩
  | false, true => some ⟨high, exponent⟩
  | false, false => none

/-- The shortest decimal that reads back as a positive double. Seventeen digits always suffice. -/
def shortest (m : Magnitude) : Scientific :=
  let point := decimalPoint m.toRatio
  ((List.range 17).findSome? fun i => onGrid? m point (i + 1)).getD ⟨m.significand, m.exponent⟩

def Scientific.layout (s : Scientific) : List Char × Int :=
  let all := Decimal.digits s.digits
  ((all.reverse.dropWhile (· = '0')).reverse, s.exponent + all.length)

end QuestAcademy.Decimal
