import QuestAcademy.Limit

namespace QuestAcademy.Random

structure Row where
  a : UInt32
  b : UInt32
  c : UInt32
  d : UInt32
  deriving DecidableEq

namespace Row

def zip (f : UInt32 → UInt32 → UInt32) (x y : Row) : Row :=
  ⟨f x.a y.a, f x.b y.b, f x.c y.c, f x.d y.d⟩

def map (f : UInt32 → UInt32) (x : Row) : Row :=
  ⟨f x.a, f x.b, f x.c, f x.d⟩

def turn (x : Row) : Row :=
  ⟨x.b, x.c, x.d, x.a⟩

def toList (x : Row) : List UInt32 :=
  [x.a, x.b, x.c, x.d]

end Row

def rotateLeft (x : UInt32) (n : UInt32) : UInt32 :=
  (x <<< n) ||| (x >>> (32 - n))

structure Block where
  a : Row
  b : Row
  c : Row
  d : Row
  deriving DecidableEq

namespace Block

/-- Adds the second of three rows to the first, and mixes the sum into the third. -/
def mix (x y z : Row) (n : UInt32) : Row × Row :=
  let sum := x.zip (· + ·) y
  (sum, (z.zip (· ^^^ ·) sum).map (rotateLeft · n))

def columns (m : Block) : Block :=
  let (a, d) := mix m.a m.b m.d 16
  let (c, b) := mix m.c d m.b 12
  let (a, d) := mix a b d 8
  let (c, b) := mix c d b 7
  ⟨a, b, c, d⟩

/-- One round on the four diagonals, which the turned rows have for columns. -/
def diagonals (m : Block) : Block :=
  let m := columns ⟨m.a, m.b.turn, m.c.turn.turn, m.d.turn.turn.turn⟩
  ⟨m.a, m.b.turn.turn.turn, m.c.turn.turn, m.d.turn⟩

def rounds : Nat → Block → Block
  | 0, m => m
  | pairs + 1, m => rounds pairs (diagonals (columns m))

def add (m n : Block) : Block :=
  ⟨m.a.zip (· + ·) n.a, m.b.zip (· + ·) n.b, m.c.zip (· + ·) n.c, m.d.zip (· + ·) n.d⟩

def toList (m : Block) : List UInt32 :=
  m.a.toList ++ m.b.toList ++ m.c.toList ++ m.d.toList

def numbered (low high : Row) (number : Nat) : Block :=
  let start : Block :=
    { a := ⟨0x61707865, 0x3320646e, 0x79622d32, 0x6b206574⟩
      b := low
      c := high
      d := ⟨number.toUInt32, (number / (Limit.word + 1)).toUInt32, 0, 0⟩ }
  start.add (rounds 6 start)

end Block

end QuestAcademy.Random
