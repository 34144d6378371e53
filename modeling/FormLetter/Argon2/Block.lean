import FormLetter.Blake2b

namespace FormLetter.Argon2

open Blake2b (Words)

/-- A block of memory: 128 words in eight rows. -/
structure Block where
  r0 : Words
  r1 : Words
  r2 : Words
  r3 : Words
  r4 : Words
  r5 : Words
  r6 : Words
  r7 : Words

namespace Block

def zero : Block :=
  ⟨.zero, .zero, .zero, .zero, .zero, .zero, .zero, .zero⟩

def rows (b : Block) : List Words :=
  [b.r0, b.r1, b.r2, b.r3, b.r4, b.r5, b.r6, b.r7]

def words (b : Block) : List UInt64 :=
  b.rows.flatMap Words.toList

def xor (b c : Block) : Block :=
  ⟨b.r0.xor c.r0, b.r1.xor c.r1, b.r2.xor c.r2, b.r3.xor c.r3, b.r4.xor c.r4, b.r5.xor c.r5,
    b.r6.xor c.r6, b.r7.xor c.r7⟩

@[inline]
def multiplyAdd (x y : UInt64) : UInt64 :=
  x + y + 2 * (x &&& 0xFFFFFFFF) * (y &&& 0xFFFFFFFF)

def permute (row : Words) : Words :=
  row.round multiplyAdd fun _ => 0

def permuteRows (b : Block) : Block :=
  ⟨permute b.r0, permute b.r1, permute b.r2, permute b.r3, permute b.r4, permute b.r5,
    permute b.r6, permute b.r7⟩

/-- Two neighbouring words of each row. -/
@[inline]
def column (b : Block) (left right : Words → UInt64) : Words :=
  ⟨left b.r0, right b.r0, left b.r1, right b.r1, left b.r2, right b.r2, left b.r3, right b.r3,
    left b.r4, right b.r4, left b.r5, right b.r5, left b.r6, right b.r6, left b.r7, right b.r7⟩

/-- The columns of the block, two words wide, as rows. -/
def transpose (b : Block) : Block :=
  ⟨b.column (·.w0) (·.w1), b.column (·.w2) (·.w3), b.column (·.w4) (·.w5),
    b.column (·.w6) (·.w7), b.column (·.w8) (·.w9), b.column (·.w10) (·.w11),
    b.column (·.w12) (·.w13), b.column (·.w14) (·.w15)⟩

/-- Two blocks made into one: their rows and then their columns are mixed. -/
def compress (b c : Block) : Block :=
  let sum := b.xor c
  sum.xor sum.permuteRows.transpose.permuteRows.transpose

def ofWords (words : List UInt64) : Block :=
  let row (i : Nat) : Words := Words.ofList ((words.drop (16 * i)).take 16)
  ⟨row 0, row 1, row 2, row 3, row 4, row 5, row 6, row 7⟩

def ofBytes (bytes : List UInt8) : Block :=
  ofWords ((List.range 128).map fun i =>
    UInt64.ofNat (littleEndianValue ((bytes.drop (8 * i)).take 8)))

def bytes (b : Block) : List UInt8 :=
  b.words.flatMap fun word => littleEndian 8 word.toNat

end Block

end FormLetter.Argon2
