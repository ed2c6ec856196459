/-
# Deflate

The compressed format is a list of bits: blocks, each stored, or coded with
fixed or own Huffman codes. A Huffman code is a binary tree; decoding a symbol
walks the tree with one bit a step. A code has to use up all bit patterns; only
a code for data may also have a single word of one bit, or none. A copy may
reach back before the output, where every byte is zero.

Key definitions: `Bits`, `HuffTree`, `HuffTree.ofDataLengths?`, `block?`,
`inflate?`.
-/

namespace Halyard.Bytes.Deflate

/-- A bit sequence, the first bit to be read in front. -/
abbrev Bits := List Bool

/-- The bits of a byte, least significant first. -/
def bitsOfByte (b : UInt8) : Bits :=
  (List.range 8).map fun i => b.toNat.testBit i

/-- The bits of a byte sequence. -/
def bitsOfBytes (bytes : List UInt8) : Bits :=
  bytes.flatMap bitsOfByte

/-- The number that bits spell, least significant first. -/
def bitsValue : Bits → Nat
  | [] => 0
  | b :: bs => b.toNat + 2 * bitsValue bs

/-- A number of `n` bits and what follows it. -/
def takeNat? (n : Nat) (bits : Bits) : Option (Nat × Bits) :=
  let (head, rest) := bits.splitAt n
  if head.length = n then some (bitsValue head, rest) else none

/-- A prefix code: symbols at the leaves, `false` leads to the first branch. -/
inductive HuffTree where
  | empty
  | leaf (symbol : Nat)
  | node (zero one : HuffTree)
deriving Inhabited

namespace HuffTree

/-- Puts a symbol at the end of a path. -/
def insert (symbol : Nat) : Bits → HuffTree → HuffTree
  | [], _ => .leaf symbol
  | false :: path, .node z o => .node (insert symbol path z) o
  | true :: path, .node z o => .node z (insert symbol path o)
  | false :: path, _ => .node (insert symbol path .empty) .empty
  | true :: path, _ => .node .empty (insert symbol path .empty)

/-- The symbol whose code word comes next, and what follows it. -/
def decode? : HuffTree → Bits → Option (Nat × Bits)
  | .leaf s, bits => some (s, bits)
  | .node z _, false :: bits => z.decode? bits
  | .node _ o, true :: bits => o.decode? bits
  | _, _ => none

/-- The code word `code` of `length` bits, most significant first. -/
def codeWord (length code : Nat) : Bits :=
  (List.range length).map fun i => code.testBit (length - 1 - i)

/-- The symbols with their code lengths that have the given length, in order. -/
def ofLength (lengths : List Nat) (length : Nat) : List Nat :=
  (lengths.zipIdx.filter fun p => p.1 = length).map (·.2)

/-- The code words in canonical order: shorter first, and of one length by symbol. -/
def canonical (lengths : List Nat) : List (Nat × Bits) :=
  let step (acc : Nat × List (Nat × Bits)) (length : Nat) : Nat × List (Nat × Bits) :=
    let symbols := ofLength lengths length
    let words := symbols.zipIdx.map fun p => (p.1, codeWord length (acc.1 * 2 + p.2))
    (acc.1 * 2 + symbols.length, acc.2 ++ words)
  ((List.range 15).foldl (fun acc i => step acc (i + 1)) (0, [])).2

/-- The share of bit patterns that the lengths use up, in units of `2 ^ -15`. -/
def patternsUsed (lengths : List Nat) : Nat :=
  (lengths.filter (0 < ·)).foldl (fun n l => n + Nat.pow 2 (15 - l)) 0

/-- The tree of a code given by its lengths, zero for unused symbols. -/
def ofLengths (lengths : List Nat) : HuffTree :=
  (canonical lengths).foldl (fun t p => t.insert p.1 p.2) .empty

/-- Whether a code uses up all bit patterns. -/
def complete (lengths : List Nat) : Bool :=
  patternsUsed lengths == Nat.pow 2 15

/-- The tree of a code for code lengths. -/
def ofCompleteLengths? (lengths : List Nat) : Option HuffTree :=
  if complete lengths then some (ofLengths lengths) else none

/-- The tree of a code for data, which may have one word of one bit, or none. -/
def ofDataLengths? (lengths : List Nat) : Option HuffTree :=
  if complete lengths || [[], [1]].contains (lengths.filter (0 < ·)) then
    some (ofLengths lengths)
  else none

end HuffTree

/-- The codes of a block: literals and lengths, and distances. -/
structure Codes where
  literals : HuffTree
  distances : HuffTree

/-- Base value and number of extra bits for each length symbol from 257. -/
def lengthTable : List (Nat × Nat) :=
  [(3, 0), (4, 0), (5, 0), (6, 0), (7, 0), (8, 0), (9, 0), (10, 0), (11, 1), (13, 1), (15, 1),
    (17, 1), (19, 2), (23, 2), (27, 2), (31, 2), (35, 3), (43, 3), (51, 3), (59, 3), (67, 4),
    (83, 4), (99, 4), (115, 4), (131, 5), (163, 5), (195, 5), (227, 5), (258, 0)]

/-- Base value and number of extra bits for each distance symbol. -/
def distanceTable : List (Nat × Nat) :=
  [(1, 0), (2, 0), (3, 0), (4, 0), (5, 1), (7, 1), (9, 2), (13, 2), (17, 3), (25, 3), (33, 4),
    (49, 4), (65, 5), (97, 5), (129, 6), (193, 6), (257, 7), (385, 7), (513, 8), (769, 8),
    (1025, 9), (1537, 9), (2049, 10), (3073, 10), (4097, 11), (6145, 11), (8193, 12), (12289, 12),
    (16385, 13), (24577, 13)]

/-- A value from a table with its extra bits added, and what follows them. -/
def tableValue? (table : List (Nat × Nat)) (i : Nat) (bits : Bits) : Option (Nat × Bits) := do
  let (base, extra) ← table[i]?
  let (n, rest) ← takeNat? extra bits
  return (base + n, rest)

/-- The byte `distance` before the end. -/
def byteBack (distance : Nat) (out : Array UInt8) : UInt8 :=
  if distance ≤ out.size then out.getD (out.size - distance) 0 else 0

/-- Appends `length` bytes, each a copy of the one `distance` before it. -/
def copyBack (distance : Nat) : Nat → Array UInt8 → Array UInt8
  | 0, out => out
  | length + 1, out => copyBack distance length (out.push (byteBack distance out))

/-- The data of a coded block, given at least as many steps as there are bits. -/
def codedData? (codes : Codes) : Nat → Bits → Array UInt8 → Option (Array UInt8 × Bits)
  | 0, _, _ => none
  | steps + 1, bits, out => do
    let (symbol, bits) ← codes.literals.decode? bits
    if symbol < 256 then codedData? codes steps bits (out.push (UInt8.ofNat symbol))
    else if symbol = 256 then return (out, bits)
    else
      let (length, bits) ← tableValue? lengthTable (symbol - 257) bits
      let (symbol, bits) ← codes.distances.decode? bits
      let (distance, bits) ← tableValue? distanceTable symbol bits
      codedData? codes steps bits (copyBack distance length out)

/-- The codes of a block with fixed codes. -/
def fixedCodes : Codes :=
  let lengths := List.replicate 144 8 ++ List.replicate 112 9 ++ List.replicate 24 7 ++
    List.replicate 8 8
  ⟨.ofLengths lengths, .ofLengths (List.replicate 32 5)⟩

/-- The order in which the lengths of the code-length code are written. -/
def lengthOrder : List Nat :=
  [16, 17, 18, 0, 8, 7, 9, 6, 10, 5, 11, 4, 12, 3, 13, 2, 14, 1, 15]

/-- `count` code lengths of three bits each. -/
def takeLengths? : Nat → Bits → Option (List Nat × Bits)
  | 0, bits => some ([], bits)
  | count + 1, bits => do
    let (l, bits) ← takeNat? 3 bits
    let (ls, bits) ← takeLengths? count bits
    return (l :: ls, bits)

/-- Code lengths, in reverse behind `acc`, until there are `total`; a repetition must
have something to repeat and may not go past `total`. -/
def codedLengths? (tree : HuffTree) (total : Nat) :
    Nat → Bits → List Nat → Option (List Nat × Bits)
  | 0, _, _ => none
  | steps + 1, bits, acc =>
    if acc.length = total then some (acc.reverse, bits)
    else if total < acc.length then none
    else do
      let (symbol, bits) ← tree.decode? bits
      if symbol < 16 then codedLengths? tree total steps bits (symbol :: acc)
      else if symbol = 16 then
        let last ← acc.head?
        let (n, bits) ← takeNat? 2 bits
        codedLengths? tree total steps bits (List.replicate (n + 3) last ++ acc)
      else if symbol = 17 then
        let (n, bits) ← takeNat? 3 bits
        codedLengths? tree total steps bits (List.replicate (n + 3) 0 ++ acc)
      else
        let (n, bits) ← takeNat? 7 bits
        codedLengths? tree total steps bits (List.replicate (n + 11) 0 ++ acc)

/-- The codes that a block brings along, and what follows them. -/
def ownCodes? (bits : Bits) : Option (Codes × Bits) := do
  let (literals, bits) ← takeNat? 5 bits
  let (distances, bits) ← takeNat? 5 bits
  let (count, bits) ← takeNat? 4 bits
  let literals := literals + 257
  let distances := distances + 1
  if 286 < literals || 30 < distances then none
  let (written, bits) ← takeLengths? (count + 4) bits
  let lengths := (List.range 19).map fun s => ((lengthOrder.zip written).lookup s).getD 0
  let tree ← HuffTree.ofCompleteLengths? lengths
  let (all, bits) ← codedLengths? tree (literals + distances) (literals + distances + 1) bits []
  return (⟨← HuffTree.ofDataLengths? (all.take literals),
    ← HuffTree.ofDataLengths? (all.drop literals)⟩, bits)

/-- The next `n` bytes of bits that stand at a byte boundary, and what follows them. -/
def takeBytes? : Nat → Bits → Array UInt8 → Option (Array UInt8 × Bits)
  | 0, bits, out => some (out, bits)
  | n + 1, bits, out => do
    let (b, bits) ← takeNat? 8 bits
    takeBytes? n bits (out.push (UInt8.ofNat b))

/-- The bits from the next byte boundary on, if the whole is made of bytes. -/
def alignToByte (bits : Bits) : Bits :=
  bits.drop (bits.length % 8)

/-- The data of a stored block: its length, the complement of it, the bytes. -/
def storedData? (bits : Bits) (out : Array UInt8) : Option (Array UInt8 × Bits) := do
  let (length, bits) ← takeNat? 16 (alignToByte bits)
  let (complement, bits) ← takeNat? 16 bits
  if length + complement != 65535 then none
  takeBytes? length bits out

/-- The data of one block behind `out`, whether it is the last, and what follows. -/
def block? (bits : Bits) (out : Array UInt8) : Option (Bool × Array UInt8 × Bits) := do
  let (last, bits) ← takeNat? 1 bits
  let (kind, bits) ← takeNat? 2 bits
  let (out, bits) ← match kind with
    | 0 => storedData? bits out
    | 1 => codedData? fixedCodes bits.length bits out
    | 2 => do
      let (codes, bits) ← ownCodes? bits
      codedData? codes bits.length bits out
    | _ => none
  return (last = 1, out, bits)

/-- All blocks up to the last one, given at least as many steps as there are bits. -/
def blocks? : Nat → Bits → Array UInt8 → Option (Array UInt8 × Bits)
  | 0, _, _ => none
  | steps + 1, bits, out => do
    let (last, out, bits) ← block? bits out
    if last then return (out, bits) else blocks? steps bits out

/-- The bytes that bits at a byte boundary make up. -/
def bytesOfBits : Nat → Bits → List UInt8
  | 0, _ => []
  | n + 1, bits => UInt8.ofNat (bitsValue (bits.take 8)) :: bytesOfBits n (bits.drop 8)

/-- The decompressed data and the bytes that follow the compressed ones. -/
def inflate? (bytes : List UInt8) : Option (Array UInt8 × List UInt8) := do
  let bits := bitsOfBytes bytes
  let (out, rest) ← blocks? (bits.length + 1) bits #[]
  return (out, bytesOfBits (rest.length / 8) (alignToByte rest))

end Halyard.Bytes.Deflate
