import CloudAuth.Codec.Bytes

/-!
# Unicode encodings

The forms UTF-8, UTF-16 and UTF-32 of text, and the rule by which the form of a body is recognised:
a byte order mark, or else the places of the zero bytes among the first four.
-/

namespace CloudAuth.Unicode

/-- The UTF-8 form of a character. -/
def utf8Char (c : Char) : Bytes :=
  let n := c.toNat
  if n < 0x80 then [UInt8.ofNat n]
  else if n < 0x800 then [UInt8.ofNat (0xC0 + n / 64), UInt8.ofNat (0x80 + n % 64)]
  else if n < 0x10000 then
    [UInt8.ofNat (0xE0 + n / 4096), UInt8.ofNat (0x80 + n / 64 % 64), UInt8.ofNat (0x80 + n % 64)]
  else
    [UInt8.ofNat (0xF0 + n / 262144), UInt8.ofNat (0x80 + n / 4096 % 64),
      UInt8.ofNat (0x80 + n / 64 % 64), UInt8.ofNat (0x80 + n % 64)]

/-- The UTF-8 form of a string. -/
def utf8 (s : String) : Bytes := s.toList.flatMap utf8Char

/-- The UTF-16 form of a character, most significant byte first. -/
def utf16Char (c : Char) : Bytes :=
  let n := c.toNat
  if n < 0x10000 then Bytes.ofNat 2 n
  else Bytes.ofNat 2 (0xD800 + (n - 0x10000) / 0x400) ++
    Bytes.ofNat 2 (0xDC00 + (n - 0x10000) % 0x400)

/-- The UTF-16 form of a string, most significant byte first. -/
def utf16 (s : String) : Bytes := s.toList.flatMap utf16Char

/-- The character of a code point that is no surrogate and not too large. -/
def charOf? (n : Nat) : Option Char :=
  if n < 0xD800 ∨ (0xE000 ≤ n ∧ n < 0x110000) then some (Char.ofNat n) else none

/-- The six bits of a continuation byte. -/
def continuation? (b : UInt8) : Option Nat :=
  if 0x80 ≤ b ∧ b < 0xC0 then some (b.toNat - 0x80) else none

/-- Puts a character in front of text that was decoded, if both are there. -/
def pushFront (c : Option Char) (rest : Option (List Char)) : Option (List Char) :=
  c.bind fun c => rest.map (c :: ·)

/-- The character of a two-byte form. -/
def two? (a b : UInt8) : Option Char := do
  charOf? ((a.toNat - 0xC0) * 64 + (← continuation? b))

/-- The character of a three-byte form, which no shorter form may have. -/
def three? (a b c : UInt8) : Option Char := do
  let n := ((a.toNat - 0xE0) * 64 + (← continuation? b)) * 64 + (← continuation? c)
  if 0x800 ≤ n then charOf? n else none

/-- The character of a four-byte form, which no shorter form may have. -/
def four? (a b c d : UInt8) : Option Char := do
  let n := (((a.toNat - 0xF0) * 64 + (← continuation? b)) * 64 + (← continuation? c)) * 64 +
    (← continuation? d)
  if 0x10000 ≤ n then charOf? n else none

/-- Decodes UTF-8. -/
def decodeUtf8 : Bytes → Option (List Char)
  | [] => some []
  | a :: rest =>
    if a < 0x80 then pushFront (some (Char.ofNat a.toNat)) (decodeUtf8 rest)
    else if a < 0xC2 then none
    else if a < 0xE0 then
      match rest with
      | b :: rest => pushFront (two? a b) (decodeUtf8 rest)
      | _ => none
    else if a < 0xF0 then
      match rest with
      | b :: c :: rest => pushFront (three? a b c) (decodeUtf8 rest)
      | _ => none
    else if a < 0xF5 then
      match rest with
      | b :: c :: d :: rest => pushFront (four? a b c d) (decodeUtf8 rest)
      | _ => none
    else none

/-- Which byte of a unit comes first. -/
inductive ByteOrder where
  /-- The most significant one. -/
  | big
  /-- The least significant one. -/
  | little
  deriving DecidableEq, Repr

/-- The 16-bit unit of two bytes. -/
def unit16 : ByteOrder → UInt8 → UInt8 → Nat
  | .big, a, b => a.toNat * 256 + b.toNat
  | .little, a, b => b.toNat * 256 + a.toNat

/-- The 16-bit units of some bytes. -/
def units16 (order : ByteOrder) : Bytes → Option (List Nat)
  | [] => some []
  | a :: b :: rest => (units16 order rest).map (unit16 order a b :: ·)
  | _ => none

/-- The characters of 16-bit units, among which surrogates must stand in pairs. -/
def charsOfUnits : List Nat → Option (List Char)
  | [] => some []
  | [a] => pushFront (charOf? a) (some [])
  | a :: b :: rest =>
    if 0xD800 ≤ a ∧ a < 0xDC00 then
      if 0xDC00 ≤ b ∧ b < 0xE000 then
        pushFront (charOf? (0x10000 + (a - 0xD800) * 0x400 + (b - 0xDC00))) (charsOfUnits rest)
      else none
    else pushFront (charOf? a) (charsOfUnits (b :: rest))

/-- Decodes UTF-16. -/
def decodeUtf16 (order : ByteOrder) (bytes : Bytes) : Option (List Char) :=
  (units16 order bytes).bind charsOfUnits

/-- Decodes UTF-32. -/
def decodeUtf32 (order : ByteOrder) : Bytes → Option (List Char)
  | [] => some []
  | a :: b :: c :: d :: rest =>
    let n := match order with
      | .big => unit16 .big a b * 65536 + unit16 .big c d
      | .little => unit16 .little c d * 65536 + unit16 .little a b
    pushFront (charOf? n) (decodeUtf32 order rest)
  | _ => none

/-- The text of a body. Fewer than four bytes are UTF-8; of more, a byte order mark gives the form
and is dropped, and without one the zero bytes among the first four give it. -/
def decodeBody : Bytes → Option (List Char)
  | 0xFF :: 0xFE :: 0 :: 0 :: rest => decodeUtf32 .little rest
  | 0 :: 0 :: 0xFE :: 0xFF :: rest => decodeUtf32 .big rest
  | 0xEF :: 0xBB :: 0xBF :: a :: rest => decodeUtf8 (a :: rest)
  | 0xFF :: 0xFE :: a :: b :: rest => decodeUtf16 .little (a :: b :: rest)
  | 0xFE :: 0xFF :: a :: b :: rest => decodeUtf16 .big (a :: b :: rest)
  | a :: b :: c :: d :: rest =>
    match a == 0, b == 0, c == 0, d == 0 with
    | false, false, false, false => decodeUtf8 (a :: b :: c :: d :: rest)
    | true, false, true, false => decodeUtf16 .big (a :: b :: c :: d :: rest)
    | false, true, false, true => decodeUtf16 .little (a :: b :: c :: d :: rest)
    | true, true, true, false => decodeUtf32 .big (a :: b :: c :: d :: rest)
    | false, true, true, true => decodeUtf32 .little (a :: b :: c :: d :: rest)
    | _, _, _, _ => none
  | short => decodeUtf8 short

end CloudAuth.Unicode
