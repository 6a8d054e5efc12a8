import DriveBench.Image

/-!
# Image files

The PNG form of an image: a signature and three chunks, each with its length and
a checksum. The pixels are stored without compression. An image without pixels
has no such form.
-/

namespace DriveBench.Png

inductive Defect
  | zeroWidth
  | zeroHeight
  deriving DecidableEq, Repr

def signature : ByteArray := ⟨#[0x89, 0x50, 0x4E, 0x47, 0x0D, 0x0A, 0x1A, 0x0A]⟩

def word (n : UInt32) : ByteArray :=
  ⟨#[(n >>> 24).toUInt8, (n >>> 16).toUInt8, (n >>> 8).toUInt8, n.toUInt8]⟩

def crcBit (c : UInt32) : UInt32 :=
  if c &&& 1 = 1 then (0xEDB88320 : UInt32) ^^^ (c >>> 1) else c >>> 1

def crcByte (c : UInt32) (b : UInt8) : UInt32 :=
  let c := c ^^^ b.toUInt32
  crcBit (crcBit (crcBit (crcBit (crcBit (crcBit (crcBit (crcBit c)))))))

def crc (bytes : ByteArray) : UInt32 := ~~~(bytes.foldl crcByte 0xFFFFFFFF)

def chunk (letters : String) (data : ByteArray) : ByteArray :=
  let body := letters.toUTF8 ++ data
  word data.size.toUInt32 ++ body ++ word (crc body)

def adlerByte (sums : UInt32 × UInt32) (b : UInt8) : UInt32 × UInt32 :=
  let low := (sums.1 + b.toUInt32) % 65521
  (low, (sums.2 + low) % 65521)

def adler (bytes : ByteArray) : UInt32 :=
  let (low, high) := bytes.foldl adlerByte (1, 0)
  high <<< 16 ||| low

def blockLimit : Nat := 65535

def blockLength (n : Nat) : ByteArray :=
  let low := n.toUInt8
  let high := (n / 256).toUInt8
  ⟨#[low, high, ~~~low, ~~~high]⟩

def block (data : ByteArray) (count i : Nat) : ByteArray :=
  let part := data.extract (i * blockLimit) ((i + 1) * blockLimit)
  ByteArray.mk #[if i + 1 = count then 1 else 0] ++ blockLength part.size ++ part

/-- Data in a compressed stream that compresses nothing. -/
def stored (data : ByteArray) : ByteArray :=
  let count := max 1 ((data.size + blockLimit - 1) / blockLimit)
  (List.range count).foldl (fun stream i => stream ++ block data count i) ⟨#[0x78, 0x01]⟩ ++
    word (adler data)

def rows (image : Image) : ByteArray :=
  (List.range image.height).foldl (fun data row =>
    data.push 0 ++ image.pixels.extract (row * image.width * 3) ((row + 1) * image.width * 3))
    ByteArray.empty

def header (image : Image) : ByteArray :=
  word image.width.toUInt32 ++ word image.height.toUInt32 ++ ⟨#[8, 2, 0, 0, 0]⟩

def ending : ByteArray := chunk "IEND" ByteArray.empty

/-- The file form of an image. A missing width is noticed first. -/
def encode (image : Image) : Except Defect ByteArray :=
  if image.width = 0 then .error .zeroWidth
  else if image.height = 0 then .error .zeroHeight
  else .ok (signature ++ chunk "IHDR" (header image) ++ chunk "IDAT" (stored (rows image)) ++
    ending)

def wordAt (bytes : ByteArray) (i : Nat) : Nat :=
  (bytes.extract i (i + 4)).foldl (fun n b => n * 256 + b.toNat) 0

def opening : ByteArray := signature ++ word 13 ++ "IHDR".toUTF8

def size? (bytes : ByteArray) : Option (Nat × Nat) :=
  if (bytes.extract 0 opening.size).data.toList = opening.data.toList ∧ 24 ≤ bytes.size then
    some (wordAt bytes 16, wordAt bytes 20)
  else none

end DriveBench.Png
