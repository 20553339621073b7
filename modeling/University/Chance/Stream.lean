import University.Chance.ChaCha

/-! # The stream of random words

A stream hands out the words of block 0, then of block 1, and so on. It is a value: taking a
word gives the word and the stream that is left. A seed determines the stream.
-/

namespace University.Chance

/-- What is left of a stream of random words: the words of the current block that are not taken
yet, then the blocks from `nextBlock` on. -/
structure Stream where
  key : Key
  nextBlock : UInt64
  unread : List UInt32
  deriving DecidableEq, Repr, Inhabited

namespace Stream

/-- The next word, and the stream after it. -/
def next (s : Stream) : UInt32 × Stream :=
  match s.unread with
  | w :: rest => (w, { s with unread := rest })
  | [] =>
    match (s.key.block s.nextBlock).toList with
    | w :: rest => (w, { s with nextBlock := s.nextBlock + 1, unread := rest })
    | [] => (0, s)

end Stream

/-- The linear congruential step that spreads a seed over a key. -/
def seedStep (state : UInt64) : UInt64 :=
  state * 6364136223846793005 + 11634580027462260723

/-- The word that a state of the seed sequence yields: its upper bits folded together and then
rotated to the right by its topmost five bits. -/
def seedWord (state : UInt64) : UInt32 :=
  let folded := (((state >>> 18) ^^^ state) >>> 27).toUInt32
  let amount := (state >>> 59).toUInt32
  folded >>> amount ||| folded <<< ((32 - amount) % 32)

/-- The first `n` words of the seed sequence. -/
def seedWords : Nat → UInt64 → List UInt32
  | 0, _ => []
  | n + 1, state =>
    let state := seedStep state
    seedWord state :: seedWords n state

/-- The key of a seed: the first eight words of the seed sequence. -/
def Key.ofSeed (seed : UInt64) : Key :=
  match seedWords 8 seed with
  | [a, b, c, d, e, f, g, h] => ⟨⟨a, b, c, d⟩, ⟨e, f, g, h⟩⟩
  | _ => default

/-- The stream of a seed, from its first word on. -/
def Stream.ofSeed (seed : UInt64) : Stream :=
  ⟨Key.ofSeed seed, 0, []⟩

end University.Chance
