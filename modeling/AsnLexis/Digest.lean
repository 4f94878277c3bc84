import AsnLexis.Text.Numeral

/-! The content digest of a source unit: BLAKE2b with 32 bytes of output and no key, written in
hexadecimal. -/

namespace AsnLexis.Digest

def blockSize : Nat := 128

def outputSize : Nat := 32

def initial : List UInt64 := [
  0x6A09E667F3BCC908, 0xBB67AE8584CAA73B, 0x3C6EF372FE94F82B, 0xA54FF53A5F1D36F1,
  0x510E527FADE682D1, 0x9B05688C2B3E6C1F, 0x1F83D9ABFB41BD6B, 0x5BE0CD19137E2179]

def schedule : List (List Nat) := [
  [0, 1, 2, 3, 4, 5, 6, 7, 8, 9, 10, 11, 12, 13, 14, 15],
  [14, 10, 4, 8, 9, 15, 13, 6, 1, 12, 0, 2, 11, 7, 5, 3],
  [11, 8, 12, 0, 5, 2, 15, 13, 10, 14, 3, 6, 7, 1, 9, 4],
  [7, 9, 3, 1, 13, 12, 11, 14, 2, 6, 5, 10, 4, 0, 15, 8],
  [9, 0, 5, 7, 2, 4, 10, 15, 14, 1, 11, 12, 6, 8, 3, 13],
  [2, 12, 6, 10, 0, 11, 8, 3, 4, 13, 7, 5, 15, 14, 1, 9],
  [12, 5, 1, 15, 14, 13, 4, 10, 0, 7, 6, 3, 9, 2, 8, 11],
  [13, 11, 7, 14, 12, 1, 3, 9, 5, 0, 15, 4, 8, 6, 2, 10],
  [6, 15, 14, 9, 11, 3, 0, 8, 12, 2, 13, 7, 1, 4, 10, 5],
  [10, 2, 8, 4, 7, 6, 1, 5, 15, 11, 9, 14, 3, 12, 13, 0],
  [0, 1, 2, 3, 4, 5, 6, 7, 8, 9, 10, 11, 12, 13, 14, 15],
  [14, 10, 4, 8, 9, 15, 13, 6, 1, 12, 0, 2, 11, 7, 5, 3]]

def lanes : List (Nat × Nat × Nat × Nat) := [
  (0, 4, 8, 12), (1, 5, 9, 13), (2, 6, 10, 14), (3, 7, 11, 15),
  (0, 5, 10, 15), (1, 6, 11, 12), (2, 7, 8, 13), (3, 4, 9, 14)]

def rotateRight (x : UInt64) (n : UInt64) : UInt64 := (x >>> n) ||| (x <<< (64 - n))

def word (bytes : Bytes) : UInt64 :=
  bytes.foldr (fun b w => (w <<< 8) ||| b.toUInt64) 0

def wordBytes (w : UInt64) : Bytes := (List.range 8).map fun i => (w >>> (8 * i).toUInt64).toUInt8

def words (block : Bytes) : Array UInt64 :=
  ((List.range 16).map fun i => word ((block.drop (8 * i)).take 8)).toArray

def mix (v : Array UInt64) (lane : Nat × Nat × Nat × Nat) (x y : UInt64) : Array UInt64 :=
  let (i, j, k, l) := lane
  let a := v.getD i 0 + v.getD j 0 + x
  let d := rotateRight (v.getD l 0 ^^^ a) 32
  let c := v.getD k 0 + d
  let b := rotateRight (v.getD j 0 ^^^ c) 24
  let a := a + b + y
  let d := rotateRight (d ^^^ a) 16
  let c := c + d
  let b := rotateRight (b ^^^ c) 63
  (((v.setIfInBounds i a).setIfInBounds j b).setIfInBounds k c).setIfInBounds l d

def round (m v : Array UInt64) (order : List Nat) : Array UInt64 :=
  lanes.zipIdx.foldl
    (fun v (lane, i) =>
      mix v lane (m.getD (order.getD (2 * i) 0) 0) (m.getD (order.getD (2 * i + 1) 0) 0))
    v

def compress (h : List UInt64) (block : Bytes) (count : Nat) (last : Bool) : List UInt64 :=
  let tail := initial.zipIdx.map fun (w, i) =>
    if i = 4 then w ^^^ count.toUInt64
    else if i = 5 then w ^^^ (count / 0x10000000000000000).toUInt64
    else if i = 6 && last then ~~~w
    else w
  let v := schedule.foldl (round (words block)) (h ++ tail).toArray
  h.zipIdx.map fun (w, i) => w ^^^ v.getD i 0 ^^^ v.getD (i + 8) 0

def pad (block : Bytes) : Bytes := block ++ List.replicate (blockSize - block.length) 0

/-- Mixes in a text, `count` bytes of which have been read. The last block is never empty unless the
whole text is. -/
def absorb (h : List UInt64) (count : Nat) (text : Bytes) : List UInt64 :=
  if text.length ≤ blockSize then compress h (pad text) (count + text.length) true
  else
    absorb (compress h (text.take blockSize) (count + blockSize) false) (count + blockSize)
      (text.drop blockSize)
termination_by text.length
decreasing_by simp [blockSize] at *; omega

/-- The chain value before any input: the parameters are mixed into the first word. -/
def start : List UInt64 :=
  initial.zipIdx.map fun (w, i) => if i = 0 then w ^^^ (0x01010000 + outputSize.toUInt64) else w

def sum (text : Bytes) : Bytes := ((absorb start 0 text).flatMap wordBytes).take outputSize

def hex (text : Bytes) : Bytes := (sum text).flatMap fun b => Numeral.hex 2 b.toNat

end AsnLexis.Digest
