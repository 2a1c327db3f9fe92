import Dopl.Text.Hex

/-! # Decoding files

A file holds UTF-8. It is decoded in blocks of `blockSize` bytes: the bytes of a sequence that the
block leaves unfinished go in front of the next block, and only at the end of the file is an
unfinished sequence a fault. The place of a fault counts from the start of the block it is met in.
The first two bytes of a surrogate are refused only by what follows them, so that at the end of a
block they count as unfinished.

* **`Sequence`** — what a byte that can open a sequence asks of the bytes after it.
* **`Decoder.feed`** — reads one byte; **`Decoder.feedAll`** many, block by block.
* **`decode`** — the characters of a whole file, or the first fault. -/

namespace Dopl.Text

/-- Why bytes are not UTF-8. -/
inductive DecodeReason where
  /-- A byte that opens no sequence. -/
  | badStart
  /-- A sequence that goes on with a byte it cannot have there. -/
  | badContinuation
  /-- The file ends inside a sequence. -/
  | unfinished
deriving DecidableEq, Repr

/-- The wording of a reason. -/
def DecodeReason.text : DecodeReason → String
  | .badStart => "invalid start byte"
  | .badContinuation => "invalid continuation byte"
  | .unfinished => "unexpected end of data"

/-- Bytes that are not UTF-8: those of the sequence as far as it is right, and where they stand. -/
structure DecodeFault where
  /-- The offset of the first byte, from the start of the block being decoded. -/
  offset : Nat
  /-- The first byte. -/
  byte : UInt8
  /-- The number of bytes of the sequence that are right up to the fault, the first included. -/
  length : Nat
  /-- Why they are refused. -/
  reason : DecodeReason
deriving DecidableEq, Repr

/-- The wording of a fault: one byte is shown, several are given by their place. -/
def DecodeFault.text (fault : DecodeFault) : String :=
  let place :=
    if fault.length = 1 then
      "byte 0x" ++ String.ofList (hexDigits 2 fault.byte.toNat) ++ " in position " ++
        toString fault.offset
    else
      "bytes in position " ++ toString fault.offset ++ "-" ++
        toString (fault.offset + fault.length - 1)
  "'utf-8' codec can't decode " ++ place ++ ": " ++ fault.reason.text

/-- What an opening byte asks for: its own share of the code point, and the range of each byte that
has to follow. -/
structure Sequence where
  /-- The bits of the code point that the opening byte holds. -/
  lead : Nat
  /-- The lowest and highest value of each following byte. -/
  following : List (UInt8 × UInt8)
deriving DecidableEq, Repr

/-- The sequence a byte opens. The second byte is restricted after four opening bytes, to shut out
overlong forms, surrogates and code points that are too large. -/
def Sequence.ofStart? (byte : UInt8) : Option Sequence :=
  if byte < 0x80 then some ⟨byte.toNat, []⟩
  else if byte < 0xC2 then none
  else if byte < 0xE0 then some ⟨byte.toNat - 0xC0, [(0x80, 0xBF)]⟩
  else if byte = 0xE0 then some ⟨0, [(0xA0, 0xBF), (0x80, 0xBF)]⟩
  else if byte = 0xED then some ⟨0xD, [(0x80, 0x9F), (0x80, 0xBF)]⟩
  else if byte < 0xF0 then some ⟨byte.toNat - 0xE0, [(0x80, 0xBF), (0x80, 0xBF)]⟩
  else if byte = 0xF0 then some ⟨0, [(0x90, 0xBF), (0x80, 0xBF), (0x80, 0xBF)]⟩
  else if byte < 0xF4 then
    some ⟨byte.toNat - 0xF0, [(0x80, 0xBF), (0x80, 0xBF), (0x80, 0xBF)]⟩
  else if byte = 0xF4 then some ⟨4, [(0x80, 0x8F), (0x80, 0xBF), (0x80, 0xBF)]⟩
  else none

/-- A sequence that is being read. -/
structure OpenSequence where
  /-- Its bytes so far, the latest first. -/
  bytes : List UInt8
  /-- Its first byte. -/
  first : UInt8
  /-- The code point so far. -/
  value : Nat
  /-- The ranges of the bytes still to come. -/
  following : List (UInt8 × UInt8)
  /-- Whether a second byte is read that makes it a surrogate; it is none of the bytes above. -/
  isSurrogate : Bool := false
deriving DecidableEq, Repr

/-- Whether two bytes start a surrogate. -/
def startsSurrogate (first second : UInt8) : Bool :=
  first == 0xED && decide (0xA0 ≤ second) && decide (second ≤ 0xBF)

/-- A decoder inside a block. -/
structure Decoder where
  /-- The characters decoded so far, of all blocks, the latest first. -/
  decoded : List Char := []
  /-- The sequence being read, if any. -/
  opened : Option OpenSequence := none
  /-- The number of bytes of this block before the sequence being read, or before the next byte. -/
  offset : Nat := 0
deriving DecidableEq, Repr

namespace Decoder

/-- The fault of the sequence being read. -/
def faultOf (decoder : Decoder) (sequence : OpenSequence) (reason : DecodeReason) : DecodeFault :=
  ⟨decoder.offset, sequence.first, sequence.bytes.length, reason⟩

/-- Closes a sequence whose bytes are all there, or keeps it open. -/
def settle (decoder : Decoder) (sequence : OpenSequence) : Decoder :=
  if sequence.following.isEmpty then
    { decoded := Char.ofNat sequence.value :: decoder.decoded
      opened := none
      offset := decoder.offset + sequence.bytes.length }
  else { decoder with opened := some sequence }

/-- Reads one byte. -/
def feed (decoder : Decoder) (byte : UInt8) : Except DecodeFault Decoder :=
  match decoder.opened with
  | none =>
    match Sequence.ofStart? byte with
    | none => .error ⟨decoder.offset, byte, 1, .badStart⟩
    | some start => .ok (decoder.settle ⟨[byte], byte, start.lead, start.following, false⟩)
  | some sequence =>
    match sequence.following with
    | [] => .ok decoder
    | (low, high) :: following =>
      if sequence.isSurrogate then .error (decoder.faultOf sequence .badContinuation)
      else if low ≤ byte ∧ byte ≤ high then
        .ok (decoder.settle
          ⟨byte :: sequence.bytes, sequence.first, sequence.value * 64 + (byte.toNat - 0x80),
            following, false⟩)
      else if sequence.bytes.length = 1 ∧ startsSurrogate sequence.first byte then
        .ok { decoder with opened := some { sequence with isSurrogate := true } }
      else .error (decoder.faultOf sequence .badContinuation)

/-- Starts the next block: places count afresh, the bytes of an open sequence being its first. -/
def nextBlock (decoder : Decoder) : Decoder :=
  { decoder with offset := 0 }

/-- Reads bytes of which `room` are left in the current block before the next one starts. -/
def feedAll (blockSize : Nat) : Nat → Decoder → List UInt8 → Except DecodeFault Decoder
  | _, decoder, [] => .ok decoder
  | 0, decoder, byte :: bytes => do
    let decoder ← decoder.nextBlock.feed byte
    feedAll blockSize (blockSize - 1) decoder bytes
  | room + 1, decoder, byte :: bytes => do
    let decoder ← decoder.feed byte
    feedAll blockSize room decoder bytes

/-- Ends the file: a sequence still open stands alone in a last block, where it is a fault. -/
def finish (decoder : Decoder) : Except DecodeFault (List Char) :=
  match decoder.opened with
  | none => .ok decoder.decoded.reverse
  | some sequence =>
    let reason := if sequence.isSurrogate then .badContinuation else .unfinished
    .error (decoder.nextBlock.faultOf sequence reason)

end Decoder

/-- The number of bytes that a file is decoded in at a time. -/
def blockSize : Nat := 8192

/-- The text of a file, or the first fault in it. -/
def decode (bytes : List UInt8) : Except DecodeFault String := do
  let decoder ← Decoder.feedAll blockSize blockSize {} bytes
  let chars ← decoder.finish
  return String.ofList chars

end Dopl.Text
