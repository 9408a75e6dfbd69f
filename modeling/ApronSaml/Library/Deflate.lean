import ApronSaml.Library.Inflate
import Mathlib.Tactic.Ring

/-!
# Raw DEFLATE streams

The compressed format of RFC 1951 as a function on the bits of an input: blocks that are
stored, or coded with fixed or with transmitted Huffman codes, each a list of literal bytes
and of copies from the output before them. Codes that zlib refuses are refused here:
over-subscribed ones, incomplete ones other than a single code of one bit, and block headers
that leave out the end of the block or declare too many codes.
-/

namespace Deflate

/-- The bits of a byte, the least significant one first. -/
def byteBits (byte : UInt8) : List Bool := (List.range 8).map byte.toNat.testBit

/-- The bits of an input in the order they are read. -/
def bitsOf (input : List UInt8) : List Bool := input.flatMap byteBits

/-- Read a number of the given width, the least significant bit first. -/
def takeBits : ℕ → List Bool → Option (ℕ × List Bool)
  | 0, bits => some (0, bits)
  | _ + 1, [] => none
  | width + 1, bit :: bits => do
    let (high, rest) ← takeBits width bits
    some (bit.toNat + 2 * high, rest)

/-- Skip to the next byte boundary; an input is made of whole bytes. -/
def alignToByte (bits : List Bool) : List Bool := bits.drop (bits.length % 8)

/-- The symbols whose code has a given length, in the order of their codes. -/
def symbolsOfLength (lengths : List ℕ) (length : ℕ) : List ℕ :=
  (lengths.zipIdx.filter fun entry => entry.1 = length).map Prod.snd

/-- Read a code bit by bit: `first` is the first code of the present length. -/
def decodeFrom (lengths : List ℕ) : ℕ → ℕ → ℕ → ℕ → List Bool → Option (ℕ × List Bool)
  | 0, _, _, _, _ => none
  | _ + 1, _, _, _, [] => none
  | lengthsLeft + 1, length, code, first, bit :: bits =>
    let code := 2 * code + bit.toNat
    let symbols := symbolsOfLength lengths length
    match symbols[code - first]? with
    | some symbol => some (symbol, bits)
    | none => decodeFrom lengths lengthsLeft (length + 1) code (2 * (first + symbols.length)) bits

/-- The longest code. -/
def maxCodeLength : ℕ := 15

/-- Read one symbol of the canonical code with the given lengths; a length of zero marks an unused symbol. -/
def decodeSymbol (lengths : List ℕ) (bits : List Bool) : Option (ℕ × List Bool) :=
  decodeFrom lengths maxCodeLength 1 0 0 bits

/-- The number of codes of the longest length that the given lengths use up. -/
def codesUsed (lengths : List ℕ) : ℕ :=
  ((lengths.filter (0 < ·)).map fun length => 2 ^ (maxCodeLength - length)).sum

/-- A code must be complete, unless it is empty or, where that is admitted, a single code of one bit. -/
def codeAdmitted (singleAdmitted : Bool) (lengths : List ℕ) : Bool :=
  codesUsed lengths = 2 ^ maxCodeLength || lengths.all (· = 0) || (singleAdmitted && lengths.filter (0 < ·) = [1])

/-- The lengths of the fixed literal and length code. -/
def fixedLiteralLengths : List ℕ :=
  List.replicate 144 8 ++ List.replicate 112 9 ++ List.replicate 24 7 ++ List.replicate 8 8

/-- The lengths of the fixed distance code. -/
def fixedDistanceLengths : List ℕ := List.replicate 32 5

/-- The smallest copy length of each length symbol and the width of what is added to it. -/
def copyLengths : List (ℕ × ℕ) :=
  [(3, 0), (4, 0), (5, 0), (6, 0), (7, 0), (8, 0), (9, 0), (10, 0), (11, 1), (13, 1), (15, 1), (17, 1), (19, 2),
    (23, 2), (27, 2), (31, 2), (35, 3), (43, 3), (51, 3), (59, 3), (67, 4), (83, 4), (99, 4), (115, 4), (131, 5),
    (163, 5), (195, 5), (227, 5), (258, 0)]

/-- The smallest distance of each distance symbol and the width of what is added to it. -/
def copyDistances : List (ℕ × ℕ) :=
  [(1, 0), (2, 0), (3, 0), (4, 0), (5, 1), (7, 1), (9, 2), (13, 2), (17, 3), (25, 3), (33, 4), (49, 4), (65, 5),
    (97, 5), (129, 6), (193, 6), (257, 7), (385, 7), (513, 8), (769, 8), (1025, 9), (1537, 9), (2049, 10),
    (3073, 10), (4097, 11), (6145, 11), (8193, 12), (12289, 12), (16385, 13), (24577, 13)]

/-- The value of a symbol in such a table, with the bits added to it; a symbol beyond the table is refused. -/
def extendedValue (table : List (ℕ × ℕ)) (symbol : ℕ) (bits : List Bool) : Option (ℕ × List Bool) := do
  let (base, width) ← table[symbol]?
  let (extra, bits) ← takeBits width bits
  some (base + extra, bits)

/-- Copy bytes from the output; the output is held in reverse, and a copy may run into itself. -/
def copyBack (distance : ℕ) : ℕ → List UInt8 → Option (List UInt8)
  | 0, output => some output
  | length + 1, output => do
    let byte ← output[distance - 1]?
    copyBack distance length (byte :: output)

/-- The symbol that ends a block. -/
def endOfBlock : ℕ := 256

/-- The symbols of a coded block, each of which takes at least one bit. -/
def codedBlock (literalLengths distanceLengths : List ℕ) :
    ℕ → List UInt8 → List Bool → Option (List UInt8 × List Bool)
  | 0, _, _ => none
  | fuel + 1, output, bits => do
    let (symbol, bits) ← decodeSymbol literalLengths bits
    if symbol < endOfBlock then codedBlock literalLengths distanceLengths fuel (UInt8.ofNat symbol :: output) bits
    else if symbol = endOfBlock then some (output, bits)
    else
      let (length, bits) ← extendedValue copyLengths (symbol - (endOfBlock + 1)) bits
      let (code, bits) ← decodeSymbol distanceLengths bits
      let (distance, bits) ← extendedValue copyDistances code bits
      let output ← copyBack distance length output
      codedBlock literalLengths distanceLengths fuel output bits

/-- The order in which a dynamic block transmits the lengths of its code length code. -/
def lengthOrder : List ℕ := [16, 17, 18, 0, 8, 7, 9, 6, 10, 5, 11, 4, 12, 3, 13, 2, 14, 1, 15]

/-- Read three-bit lengths. -/
def takeLengths : ℕ → List Bool → Option (List ℕ × List Bool)
  | 0, bits => some ([], bits)
  | count + 1, bits => do
    let (length, bits) ← takeBits 3 bits
    let (lengths, bits) ← takeLengths count bits
    some (length :: lengths, bits)

/-- Arrange transmitted lengths by symbol. -/
def arrangeLengths (transmitted : List ℕ) : List ℕ :=
  (List.range lengthOrder.length).map fun symbol => transmitted.getD (lengthOrder.idxOf symbol) 0

/-- A repetition in a list of code lengths: what is repeated, how often at least, and the width of what is
added to that. -/
def repetition (previous : Option ℕ) (symbol : ℕ) : Option (ℕ × ℕ × ℕ) :=
  if symbol = 16 then previous.map fun length => (length, 3, 2)
  else if symbol = 17 then some (0, 3, 3)
  else some (0, 11, 7)

/-- Read code lengths that are themselves coded; they are held in reverse, and a repetition must not exceed
their count. -/
def codedLengths (lengthLengths : List ℕ) (count : ℕ) : ℕ → List ℕ → List Bool → Option (List ℕ × List Bool)
  | 0, lengths, bits => if lengths.length = count then some (lengths.reverse, bits) else none
  | fuel + 1, lengths, bits =>
    if count ≤ lengths.length then if lengths.length = count then some (lengths.reverse, bits) else none
    else do
      let (symbol, bits) ← decodeSymbol lengthLengths bits
      if symbol < 16 then codedLengths lengthLengths count fuel (symbol :: lengths) bits
      else
        let (length, least, width) ← repetition lengths.head? symbol
        let (more, bits) ← takeBits width bits
        codedLengths lengthLengths count fuel (List.replicate (least + more) length ++ lengths) bits

/-- The transmitted literal and distance code lengths of a dynamic block. -/
def dynamicLengths (bits : List Bool) : Option ((List ℕ × List ℕ) × List Bool) := do
  let (literals, bits) ← takeBits 5 bits
  let (distances, bits) ← takeBits 5 bits
  let (codes, bits) ← takeBits 4 bits
  let literals := literals + 257
  let distances := distances + 1
  if 286 < literals ∨ 30 < distances then none
  else
    let (transmitted, bits) ← takeLengths (codes + 4) bits
    let lengthLengths := arrangeLengths transmitted
    if codeAdmitted false lengthLengths = false then none
    else
      let (lengths, bits) ← codedLengths lengthLengths (literals + distances) (literals + distances) [] bits
      let literalLengths := lengths.take literals
      let distanceLengths := lengths.drop literals
      if literalLengths[endOfBlock]? = some 0 then none
      else if codeAdmitted true literalLengths && codeAdmitted true distanceLengths then
        some ((literalLengths, distanceLengths), bits)
      else none

/-- Read stored bytes onto the output. -/
def takeStored : ℕ → List UInt8 → List Bool → Option (List UInt8 × List Bool)
  | 0, output, bits => some (output, bits)
  | count + 1, output, bits => do
    let (byte, bits) ← takeBits 8 bits
    takeStored count (UInt8.ofNat byte :: output) bits

/-- A stored block: a byte count, its complement, and the bytes. -/
def storedBlock (output : List UInt8) (bits : List Bool) : Option (List UInt8 × List Bool) := do
  let (count, bits) ← takeBits 16 (alignToByte bits)
  let (complement, bits) ← takeBits 16 bits
  if count + complement = 0xffff then takeStored count output bits else none

/-- What follows a block header, by the kind of the block; the fourth kind is reserved. -/
def block (kind : ℕ) (output : List UInt8) (bits : List Bool) : Option (List UInt8 × List Bool) :=
  match kind with
  | 0 => storedBlock output bits
  | 1 => codedBlock fixedLiteralLengths fixedDistanceLengths (bits.length + 1) output bits
  | 2 => do
    let ((literalLengths, distanceLengths), bits) ← dynamicLengths bits
    codedBlock literalLengths distanceLengths (bits.length + 1) output bits
  | _ => none

/-- The blocks up to the one marked as final. -/
def blocks : ℕ → List UInt8 → List Bool → Option (List UInt8 × List Bool)
  | 0, _, _ => none
  | fuel + 1, output, bits => do
    let (final, bits) ← takeBits 1 bits
    let (kind, bits) ← takeBits 2 bits
    let (output, bits) ← block kind output bits
    if final = 1 then some (output, bits) else blocks fuel output bits

/-- The expansion of the raw DEFLATE stream an input starts with, and the bytes after the one it ends in. -/
def inflate : Inflate.Format := fun input => do
  let (output, bits) ← blocks (bitsOf input).length [] (bitsOf input)
  some (output.reverse, input.drop (input.length - bits.length / 8))

/-- Reading back a field of the given width. -/
theorem takeBits_testBits (width n : ℕ) (rest : List Bool) :
    takeBits width ((List.range width).map n.testBit ++ rest) = some (n % 2 ^ width, rest) := by
  induction width generalizing n with
  | zero => simp [takeBits, Nat.mod_one]
  | succ width ih =>
    have hvalue : (n.testBit 0).toNat + 2 * (n / 2 % 2 ^ width) = n % 2 ^ (width + 1) := by
      rw [Nat.toNat_testBit, pow_zero, Nat.div_one, pow_succ', Nat.mod_mul]
    have hbits : (List.range (width + 1)).map n.testBit = n.testBit 0 :: (List.range width).map (n / 2).testBit := by
      rw [List.range_succ_eq_map, List.map_cons, List.map_map]
      congr 1
      apply List.map_congr_left
      intro i _
      exact Nat.testBit_add_one n i
    rw [hbits, List.cons_append, takeBits, ih]
    exact congrArg (fun value => some (value, rest)) hvalue

/-- Reading back a byte. -/
theorem takeBits_byteBits (byte : UInt8) (rest : List Bool) :
    takeBits 8 (byteBits byte ++ rest) = some (byte.toNat, rest) := by
  rw [byteBits, takeBits_testBits, Nat.mod_eq_of_lt byte.toNat_lt]

/-- A field is read in two parts, the lower one first. -/
theorem takeBits_add (low high : ℕ) (bits : List Bool) :
    takeBits (low + high) bits = (do
      let (lowValue, bits) ← takeBits low bits
      let (highValue, bits) ← takeBits high bits
      some (lowValue + 2 ^ low * highValue, bits)) := by
  induction low generalizing bits with
  | zero =>
    rw [Nat.zero_add]
    cases htake : takeBits high bits <;> simp [takeBits, htake]
  | succ low ih =>
    rw [Nat.succ_add]
    cases bits with
    | nil => rfl
    | cons bit bits =>
      rw [takeBits, takeBits, ih]
      cases takeBits low bits with
      | none => rfl
      | some result =>
        cases htake : takeBits high result.2 with
        | none => simp [htake]
        | some highResult =>
          simp [htake]
          ring

/-- Bits of a concatenation. -/
theorem bitsOf_cons (byte : UInt8) (input : List UInt8) : bitsOf (byte :: input) = byteBits byte ++ bitsOf input := rfl

/-- Eight bits to a byte. -/
theorem length_bitsOf (input : List UInt8) : (bitsOf input).length = 8 * input.length := by
  induction input with
  | nil => rfl
  | cons byte input ih =>
    rw [bitsOf_cons, List.length_append, ih, byteBits, List.length_map, List.length_range, List.length_cons]
    omega

/-- Reading back two bytes, the lower one first. -/
theorem takeBits_twoBytes (low high : UInt8) (input : List UInt8) :
    takeBits 16 (bitsOf (low :: high :: input)) = some (low.toNat + 256 * high.toNat, bitsOf input) := by
  rw [takeBits_add 8 8, bitsOf_cons, bitsOf_cons, takeBits_byteBits]
  simp only [Option.bind_eq_bind, Option.bind_some, takeBits_byteBits, Nat.reducePow]

/-- Bits before a byte boundary are skipped. -/
theorem alignToByte_append {bits : List Bool} (hbits : bits.length < 8) (input : List UInt8) :
    alignToByte (bits ++ bitsOf input) = bitsOf input := by
  have hlength : (bits ++ bitsOf input).length % 8 = bits.length := by
    rw [List.length_append, length_bitsOf]
    omega
  rw [alignToByte, hlength, List.drop_left]

/-- Stored bytes are read as they are. -/
theorem takeStored_bitsOf (stored output rest : List UInt8) :
    takeStored stored.length output (bitsOf (stored ++ rest)) = some (stored.reverse ++ output, bitsOf rest) := by
  induction stored generalizing output with
  | nil => rfl
  | cons byte stored ih =>
    rw [List.cons_append, bitsOf_cons, List.length_cons, takeStored, takeBits_byteBits]
    simp only [Option.bind_eq_bind, Option.bind_some, UInt8.ofNat_toNat, ih]
    rw [List.reverse_cons, List.append_assoc, List.singleton_append]

/-- The end of a block leaves the output as it is. -/
theorem codedBlock_end {literalLengths : List ℕ} {bits rest : List Bool}
    (hend : decodeSymbol literalLengths bits = some (endOfBlock, rest)) (distanceLengths : List ℕ) (fuel : ℕ)
    (output : List UInt8) :
    codedBlock literalLengths distanceLengths (fuel + 1) output bits = some (output, rest) := by
  rw [codedBlock, hend]
  simp only [Option.bind_eq_bind, Option.bind_some, Nat.lt_irrefl, if_false, if_true]

/-- A last block in the fixed codes that holds nothing but its end leaves the output as it is. -/
theorem blocks_empty (fuel : ℕ) (output : List UInt8) :
    blocks (fuel + 1) output (bitsOf [3, 0]) = some (output, List.replicate 6 false) := by
  have hbits : bitsOf [3, 0] = true :: true :: false :: List.replicate 13 false := by decide
  have hend : decodeSymbol fixedLiteralLengths (List.replicate 13 false) = some (endOfBlock, List.replicate 6 false) := by
    decide +kernel
  have hfinal : takeBits 1 (bitsOf [3, 0]) = some (1, true :: false :: List.replicate 13 false) := by
    rw [hbits]
    rfl
  have hkind : takeBits 2 (true :: false :: List.replicate 13 false) = some (1, List.replicate 13 false) := rfl
  rw [blocks, hfinal]
  simp only [Option.bind_eq_bind, Option.bind_some, hkind, block, codedBlock_end hend, if_true]

section Stored

variable {header low high lowComplement highComplement : UInt8} {stored : List UInt8}
  (hheader : header.toNat % 8 = 0) (hlength : stored.length = low.toNat + 256 * high.toNat)
  (hlow : low.toNat + lowComplement.toNat = 255) (hhigh : high.toNat + highComplement.toNat = 255)
include hheader hlength hlow hhigh

/-- A stored block that is not the last one adds its bytes to the output, whatever pads its header. -/
theorem blocks_stored (fuel : ℕ) (output rest : List UInt8) :
    blocks (fuel + 1) output
        (bitsOf (header :: low :: high :: lowComplement :: highComplement :: (stored ++ rest))) =
      blocks fuel (stored.reverse ++ output) (bitsOf rest) := by
  have hbit (i : ℕ) (hi : i < 3) : header.toNat.testBit i = false := by
    rw [Nat.testBit_eq_decide_div_mod_eq, decide_eq_false_iff_not]
    obtain rfl | rfl | rfl : i = 0 ∨ i = 1 ∨ i = 2 := by omega
    all_goals omega
  have hbits : byteBits header = false :: false :: false :: (byteBits header).drop 3 := by
    change header.toNat.testBit 0 :: header.toNat.testBit 1 :: header.toNat.testBit 2 :: (byteBits header).drop 3 = _
    rw [hbit 0 (by decide), hbit 1 (by decide), hbit 2 (by decide)]
  have hpadding : ((byteBits header).drop 3).length < 8 := by simp [byteBits]
  have hcomplement : stored.length + (lowComplement.toNat + 256 * highComplement.toNat) = 0xffff := by omega
  rw [blocks, bitsOf_cons, hbits]
  simp only [List.cons_append, takeBits, Option.bind_eq_bind, Option.bind_some, Bool.toNat_false, Nat.mul_zero,
    Nat.add_zero, block, storedBlock, alignToByte_append hpadding, takeBits_twoBytes, ← hlength, hcomplement, if_true,
    takeStored_bitsOf, Nat.zero_ne_one, if_false]

/-- A stored block padded in any way and an empty last block expand to the stored bytes. -/
theorem inflate_stored :
    inflate (header :: low :: high :: lowComplement :: highComplement :: (stored ++ [3, 0])) = some (stored, []) := by
  have hfuel : ∃ fuel, (bitsOf (header :: low :: high :: lowComplement :: highComplement ::
      (stored ++ [3, 0]))).length = fuel + 2 := by
    rw [length_bitsOf, List.length_cons]
    exact ⟨8 * (low :: high :: lowComplement :: highComplement :: (stored ++ [3, 0])).length + 6, by omega⟩
  obtain ⟨fuel, hfuel⟩ := hfuel
  rw [inflate, hfuel, blocks_stored hheader hlength hlow hhigh, blocks_empty]
  simp

end Stored

end Deflate
