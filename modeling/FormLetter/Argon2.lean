import FormLetter.Argon2.Block
import FormLetter.Argon2.Cost

/-!
# Argon2

A function that takes up memory. The memory is a table of blocks, with a row for each lane, and each
pass over it is made in four slices. Each block is made of the block before it in its lane and of an
earlier one.
-/

namespace FormLetter.Argon2

/-- A digest of any length. -/
def longDigest (length : Nat) (message : List UInt8) : List UInt8 :=
  let message := littleEndian 4 length ++ message
  if length ≤ 64 then Blake2b.digest length message
  else
    let parts := (length + 31) / 32 - 2
    let (digest, last) := Nat.repeat
      (fun (digest, last) => (digest ++ last.take 32, Blake2b.digest 64 last)) (parts - 1)
      (([] : List UInt8), Blake2b.digest 64 message)
    digest ++ last.take 32 ++ Blake2b.digest (length - 32 * parts) last

/-- Where a block stands, and when it is made. -/
structure Position where
  pass : Nat
  slice : Nat
  lane : Nat
  /-- The position in the segment, which is the part of a slice in a lane. -/
  index : Nat

namespace Cost

def slices : Nat :=
  4

def segmentLength (cost : Cost) : Nat :=
  cost.memory / (slices * cost.lanes)

def laneLength (cost : Cost) : Nat :=
  slices * cost.segmentLength

def blockCount (cost : Cost) : Nat :=
  cost.lanes * cost.laneLength

/-- The digest of all that goes into the function. -/
def seed (cost : Cost) (length : Nat) (password salt : List UInt8) : List UInt8 :=
  let sized (bytes : List UInt8) : List UInt8 := littleEndian 4 bytes.length ++ bytes
  let numbers :=
    [cost.lanes, length, cost.memory, cost.passes, cost.version, cost.variant.code]
  Blake2b.digest 64 <|
    numbers.flatMap (littleEndian 4) ++ sized password ++ sized salt ++ sized [] ++ sized cost.extra

/-- The memory with the first two blocks of each lane. -/
def start (cost : Cost) (seed : List UInt8) : Array Block :=
  (Array.replicate cost.blockCount Block.zero).mapIdx fun i block =>
    let column := i % cost.laneLength
    if column < 2 then
      .ofBytes (longDigest 1024
        (seed ++ littleEndian 4 column ++ littleEndian 4 (i / cost.laneLength)))
    else block

/-- Whether blocks are chosen by position alone. -/
def choosesByPosition (cost : Cost) (position : Position) : Bool :=
  match cost.variant with
  | .d => false
  | .i => true
  | .id => position.pass == 0 && position.slice < 2

/-- The words by which blocks are chosen in a segment, where position alone counts. -/
def addressWords (cost : Cost) (position : Position) : Array UInt64 :=
  let address (i : Nat) : Block :=
    let numbers :=
      [position.pass, position.lane, position.slice, cost.blockCount, cost.passes,
        cost.variant.code, i + 1]
    let input := Block.ofWords (numbers.map UInt64.ofNat ++ List.replicate 121 0)
    Block.zero.compress (Block.zero.compress input)
  (((List.range ((cost.segmentLength + 127) / 128)).map address).flatMap Block.words).toArray

/-- The lane and the column of the earlier block that a word chooses. -/
def chosen (cost : Cost) (position : Position) (word : UInt64) : Nat × Nat :=
  let lane :=
    if position.pass = 0 && position.slice = 0 then position.lane
    else (word >>> 32).toNat % cost.lanes
  let own := lane == position.lane
  let finished :=
    if position.pass = 0 then position.slice * cost.segmentLength
    else cost.laneLength - cost.segmentLength
  let count :=
    if own then finished + position.index - 1
    else if position.index = 0 then finished - 1
    else finished
  let first :=
    if position.pass = 0 then 0 else (position.slice + 1) % slices * cost.segmentLength
  let low := (word &&& 0xFFFFFFFF).toNat
  let back := count * (low * low / Nat.pow 2 32) / Nat.pow 2 32
  (lane, (first + (count - 1 - back)) % cost.laneLength)

/-- Makes the block at a position. From version 19 on, later passes keep what stands there in it. -/
def makeBlock (cost : Cost) (addresses : Array UInt64) (position : Position)
    (memory : Array Block) : Array Block :=
  let column := position.slice * cost.segmentLength + position.index
  let row := position.lane * cost.laneLength
  let previous :=
    memory.getD (row + (column + cost.laneLength - 1) % cost.laneLength) Block.zero
  let word :=
    if cost.choosesByPosition position then addresses.getD position.index 0 else previous.r0.w0
  let (lane, chosen) := cost.chosen position word
  let earlier := memory.getD (lane * cost.laneLength + chosen) Block.zero
  let block := previous.compress earlier
  let block :=
    if position.pass = 0 || cost.version = 16 then block
    else block.xor (memory.getD (row + column) Block.zero)
  memory.setIfInBounds (row + column) block

def fillSegment (cost : Cost) (pass slice lane : Nat) (memory : Array Block) : Array Block :=
  let position (index : Nat) : Position := { pass, slice, lane, index }
  let addresses :=
    if cost.choosesByPosition (position 0) then cost.addressWords (position 0) else #[]
  Nat.fold cost.segmentLength
    (fun index _ memory =>
      if pass = 0 && slice = 0 && index < 2 then memory
      else cost.makeBlock addresses (position index) memory)
    memory

def fill (cost : Cost) (memory : Array Block) : Array Block :=
  Nat.fold cost.passes
    (fun pass _ memory =>
      Nat.fold slices
        (fun slice _ memory =>
          Nat.fold cost.lanes (fun lane _ memory => cost.fillSegment pass slice lane memory) memory)
        memory)
    memory

/-- The last blocks of all lanes, put together. -/
def lastBlock (cost : Cost) (memory : Array Block) : Block :=
  Nat.fold cost.lanes
    (fun lane _ block =>
      block.xor (memory.getD ((lane + 1) * cost.laneLength - 1) Block.zero))
    Block.zero

end Cost

/-- The digest of a password under a salt. -/
def derive (cost : Cost) (length : Nat) (password salt : List UInt8) : List UInt8 :=
  let memory := cost.fill (cost.start (cost.seed length password salt))
  longDigest length (cost.lastBlock memory).bytes

end FormLetter.Argon2
