import QuestAcademy.Decimal.Digits
import QuestAcademy.Random.Block

namespace QuestAcademy

/-- A stream of random words, with the number of words taken from it. -/
structure Random where
  low : Random.Row
  high : Random.Row
  taken : Nat
  deriving DecidableEq

namespace Random

def stepSeed (state : UInt64) : UInt64 :=
  state * 6364136223846793005 + 11634580027462260723

def keyWord (state : UInt64) : UInt32 :=
  let shifted := (((state >>> 18) ^^^ state) >>> 27).toUInt32
  let turn := (state >>> 59).toUInt32
  (shifted >>> turn) ||| (shifted <<< (32 - turn))

def keyRow (state : UInt64) : Row × UInt64 :=
  let a := stepSeed state
  let b := stepSeed a
  let c := stepSeed b
  let d := stepSeed c
  (⟨keyWord a, keyWord b, keyWord c, keyWord d⟩, d)

def ofSeed (seed : Nat) : Random :=
  let (low, state) := keyRow seed.toUInt64
  let (high, _) := keyRow state
  { low, high, taken := 0 }

def word (random : Random) (number : Nat) : UInt32 :=
  ((Block.numbered random.low random.high (number / 16)).toList[number % 16]?).getD 0

/-- The next number of 64 bits: two words, the lower one first. -/
def next (random : Random) : Nat × Random :=
  ((random.word random.taken).toNat + (Limit.word + 1) * (random.word (random.taken + 1)).toNat,
    { random with taken := random.taken + 2 })

/-- The largest fraction that is accepted in a draw below `limit`. It is one less than the limit
doubled until it fills 64 bits. -/
def zone (limit : Nat) : Nat :=
  limit * Decimal.twoTo (63 - limit.log2) - 1

/-- Draws until the fraction is accepted, at most that many times. Each draw is accepted with a
chance of at least one half; the bound is there for the recursion alone, and the 0 stands for draws
that would go on. -/
def drawWithin (limit : Nat) : Nat → Random → Nat × Random
  | 0, random => (0, random)
  | tries + 1, random =>
    let (number, rest) := random.next
    let product := number * limit
    if product % (Limit.long + 1) ≤ zone limit then (product / (Limit.long + 1), rest)
    else drawWithin limit tries rest

def draw (limit : Nat) (random : Random) : Nat × Random :=
  drawWithin limit 1024 random

theorem word_le (random : Random) (number : Nat) : (random.word number).toNat ≤ Limit.word :=
  Nat.le_of_lt_succ (random.word number).toNat_lt

theorem next_le (random : Random) : random.next.1 ≤ Limit.long := by
  have low := random.word_le random.taken
  have high := random.word_le (random.taken + 1)
  simp only [next, Limit.word, Limit.long] at *
  omega

theorem drawWithin_lt (limit tries : Nat) (random : Random) (h : 0 < limit) :
    (drawWithin limit tries random).1 < limit := by
  induction tries generalizing random with
  | zero => exact h
  | succ tries ih =>
    simp only [drawWithin]
    split
    · exact Nat.div_lt_of_lt_mul (Nat.mul_lt_mul_of_pos_right (Nat.lt_succ_of_le random.next_le) h)
    · exact ih _

theorem draw_lt (limit : Nat) (random : Random) (h : 0 < limit) :
    (draw limit random).1 < limit :=
  drawWithin_lt limit 1024 random h

end Random

end QuestAcademy
