/-!
# Text as bytes

UTF-8 in both directions. Decoding splits a byte string into its longest
well-formed beginning, as characters, and the bytes that are left; a byte string
is text exactly when nothing is left.
-/

namespace DriveBench.Utf8

def encode (text : String) : List UInt8 := text.toList.flatMap String.utf8EncodeChar

def within (lo hi b : UInt8) : Bool := lo ≤ b && b ≤ hi

def isTail (b : UInt8) : Bool := within 0x80 0xBF b

def isPair (a b : UInt8) : Bool := within 0xC2 0xDF a && isTail b

/-- The second byte of three is narrower after E0, which would be overlong,
and after ED, which would be a surrogate. -/
def isTriple (a b c : UInt8) : Bool :=
  (a == 0xE0 && within 0xA0 0xBF b || within 0xE1 0xEC a && isTail b ||
    a == 0xED && within 0x80 0x9F b || within 0xEE 0xEF a && isTail b) && isTail c

/-- The second byte of four is narrower after F0, which would be overlong,
and after F4, which would pass the last code point. -/
def isQuad (a b c d : UInt8) : Bool :=
  (a == 0xF0 && within 0x90 0xBF b || within 0xF1 0xF3 a && isTail b ||
    a == 0xF4 && within 0x80 0x8F b) && isTail c && isTail d

def tailBits (b : UInt8) : Nat := b.toNat % 0x40

def pairChar (a b : UInt8) : Char := .ofNat (a.toNat % 0x20 * 0x40 + tailBits b)

def tripleChar (a b c : UInt8) : Char :=
  .ofNat ((a.toNat % 0x10 * 0x40 + tailBits b) * 0x40 + tailBits c)

def quadChar (a b c d : UInt8) : Char :=
  .ofNat (((a.toNat % 8 * 0x40 + tailBits b) * 0x40 + tailBits c) * 0x40 + tailBits d)

/-- The characters of the longest well-formed beginning, and what follows it. -/
def split : List UInt8 → List Char × List UInt8
  | [] => ([], [])
  | a :: rest =>
    if a < 0x80 then (split rest).map (.ofNat a.toNat :: ·) id
    else match rest with
      | [] => ([], [a])
      | b :: rest =>
        if isPair a b then (split rest).map (pairChar a b :: ·) id
        else match rest with
          | [] => ([], [a, b])
          | c :: rest =>
            if isTriple a b c then (split rest).map (tripleChar a b c :: ·) id
            else match rest with
              | [] => ([], [a, b, c])
              | d :: rest =>
                if isQuad a b c d then (split rest).map (quadChar a b c d :: ·) id
                else ([], a :: b :: c :: d :: rest)

def validLength (bytes : List UInt8) : Nat := bytes.length - (split bytes).2.length

def decode? (bytes : List UInt8) : Option String :=
  match split bytes with
  | (chars, []) => some (String.ofList chars)
  | _ => none

end DriveBench.Utf8
