/-! # The reduced ChaCha block function

Sixteen words in four rows of four are mixed by eight rounds: a column round works on the rows
lane by lane, a diagonal round does the same after the rows have been turned against each other.
The result is the mixed block added to the block it was mixed from.
-/

namespace University.Chance

/-- Four words that are worked on lane by lane. -/
structure Row where
  w₀ : UInt32
  w₁ : UInt32
  w₂ : UInt32
  w₃ : UInt32
  deriving DecidableEq, Repr, Inhabited

namespace Row

/-- Lane-wise sum, modulo `2 ^ 32`. -/
def add (a b : Row) : Row :=
  ⟨a.w₀ + b.w₀, a.w₁ + b.w₁, a.w₂ + b.w₂, a.w₃ + b.w₃⟩

/-- Lane-wise exclusive or. -/
def xor (a b : Row) : Row :=
  ⟨a.w₀ ^^^ b.w₀, a.w₁ ^^^ b.w₁, a.w₂ ^^^ b.w₂, a.w₃ ^^^ b.w₃⟩

/-- Rotates the bits of every lane to the left by `n`, for `0 < n < 32`. -/
def rotateBits (n : UInt32) (a : Row) : Row :=
  ⟨a.w₀ <<< n ||| a.w₀ >>> (32 - n), a.w₁ <<< n ||| a.w₁ >>> (32 - n),
   a.w₂ <<< n ||| a.w₂ >>> (32 - n), a.w₃ <<< n ||| a.w₃ >>> (32 - n)⟩

/-- Moves every lane one place to the left; the first becomes the last. -/
def turn (a : Row) : Row := ⟨a.w₁, a.w₂, a.w₃, a.w₀⟩

/-- The lanes in order. -/
def toList (a : Row) : List UInt32 := [a.w₀, a.w₁, a.w₂, a.w₃]

@[simp]
theorem length_toList (a : Row) : a.toList.length = 4 := rfl

end Row

/-- The sixteen words of the cipher state, row by row. -/
structure Block where
  a : Row
  b : Row
  c : Row
  d : Row
  deriving DecidableEq, Repr, Inhabited

namespace Block

/-- The four quarter rounds of one round, on the columns. -/
def columnRound (s : Block) : Block :=
  let a := s.a.add s.b
  let d := (s.d.xor a).rotateBits 16
  let c := s.c.add d
  let b := (s.b.xor c).rotateBits 12
  let a := a.add b
  let d := (d.xor a).rotateBits 8
  let c := c.add d
  let b := (b.xor c).rotateBits 7
  ⟨a, b, c, d⟩

/-- Brings the diagonals into the columns. -/
def diagonals (s : Block) : Block :=
  ⟨s.a, s.b.turn, s.c.turn.turn, s.d.turn.turn.turn⟩

/-- Brings the diagonals back where they were. -/
def undoDiagonals (s : Block) : Block :=
  ⟨s.a, s.b.turn.turn.turn, s.c.turn.turn, s.d.turn⟩

@[simp]
theorem undoDiagonals_diagonals (s : Block) : s.diagonals.undoDiagonals = s := rfl

/-- A column round and a diagonal round. -/
def doubleRound (s : Block) : Block :=
  s.columnRound.diagonals.columnRound.undoDiagonals

/-- Word-wise sum of two blocks. -/
def add (s t : Block) : Block :=
  ⟨s.a.add t.a, s.b.add t.b, s.c.add t.c, s.d.add t.d⟩

/-- The block after eight rounds, added to itself. -/
def mixed (s : Block) : Block :=
  s.doubleRound.doubleRound.doubleRound.doubleRound.add s

/-- The sixteen words in order. -/
def toList (s : Block) : List UInt32 :=
  s.a.toList ++ (s.b.toList ++ (s.c.toList ++ s.d.toList))

@[simp]
theorem length_toList (s : Block) : s.toList.length = 16 := rfl

/-- The row every block starts with. -/
def constants : Row := ⟨0x61707865, 0x3320646E, 0x79622D32, 0x6B206574⟩

end Block

/-- The two rows of a key. -/
structure Key where
  upper : Row
  lower : Row
  deriving DecidableEq, Repr, Inhabited

namespace Key

/-- The block with the given number in the key stream. The number takes the first two words of
the last row, low word first; the other two are zero. -/
def block (key : Key) (number : UInt64) : Block :=
  Block.mixed
    ⟨Block.constants, key.upper, key.lower, ⟨number.toUInt32, (number >>> 32).toUInt32, 0, 0⟩⟩

end Key

end University.Chance
