import CloudAuth.Codec.Bytes

/-!
# Base64

The encoding of bytes by characters of six bits each, in its standard alphabet and in the one that is
safe in addresses, with the padding that fills the last group of four and without it. The decoder is
strict: it takes only texts that the encoder writes.
-/

namespace CloudAuth.Base64

/-- The two alphabets, which differ in their last two characters. -/
inductive Alphabet where
  /-- The alphabet that ends in `+` and `/`. -/
  | standard
  /-- The alphabet that ends in `-` and `_`. -/
  | urlSafe
  deriving DecidableEq, Repr

namespace Alphabet

/-- The character of 62. -/
def symbol62 : Alphabet → Char
  | standard => '+'
  | urlSafe => '-'

/-- The character of 63. -/
def symbol63 : Alphabet → Char
  | standard => '/'
  | urlSafe => '_'

/-- The character of a number below 64. -/
def symbol (alphabet : Alphabet) (n : Nat) : Char :=
  if n < 26 then Char.ofNat (65 + n)
  else if n < 52 then Char.ofNat (71 + n)
  else if n < 62 then Char.ofNat (n - 4)
  else if n = 62 then alphabet.symbol62
  else alphabet.symbol63

/-- The number of a character of the alphabet. -/
def value? (alphabet : Alphabet) (c : Char) : Option Nat :=
  if 'A' ≤ c ∧ c ≤ 'Z' then some (c.toNat - 65)
  else if 'a' ≤ c ∧ c ≤ 'z' then some (c.toNat - 71)
  else if '0' ≤ c ∧ c ≤ '9' then some (c.toNat + 4)
  else if c = alphabet.symbol62 then some 62
  else if c = alphabet.symbol63 then some 63
  else none

end Alphabet

/-- The padded text of some bytes: three bytes make four characters. -/
def encode (alphabet : Alphabet) : Bytes → List Char
  | [] => []
  | [a] =>
    let n := a.toNat * 16
    [alphabet.symbol (n / 64), alphabet.symbol (n % 64), '=', '=']
  | [a, b] =>
    let n := (a.toNat * 256 + b.toNat) * 4
    [alphabet.symbol (n / 4096), alphabet.symbol (n / 64 % 64), alphabet.symbol (n % 64), '=']
  | a :: b :: c :: rest =>
    let n := (a.toNat * 256 + b.toNat) * 256 + c.toNat
    alphabet.symbol (n / 262144) :: alphabet.symbol (n / 4096 % 64) ::
      alphabet.symbol (n / 64 % 64) :: alphabet.symbol (n % 64) :: encode alphabet rest

/-- The bytes of a last group of two characters, whose four spare bits must be zero. -/
def decodeTwo (alphabet : Alphabet) (a b : Char) : Option Bytes := do
  let n := (← alphabet.value? a) * 64 + (← alphabet.value? b)
  if n % 16 = 0 then some [UInt8.ofNat (n / 16)] else none

/-- The bytes of a last group of three characters, whose two spare bits must be zero. -/
def decodeThree (alphabet : Alphabet) (a b c : Char) : Option Bytes := do
  let n := ((← alphabet.value? a) * 64 + (← alphabet.value? b)) * 64 + (← alphabet.value? c)
  if n % 4 = 0 then some [UInt8.ofNat (n / 1024), UInt8.ofNat (n / 4)] else none

/-- The bytes of a group of four characters. -/
def decodeFour (alphabet : Alphabet) (a b c d : Char) : Option Bytes := do
  let high := (← alphabet.value? a) * 64 + (← alphabet.value? b)
  let n := (high * 64 + (← alphabet.value? c)) * 64 + (← alphabet.value? d)
  some [UInt8.ofNat (n / 65536), UInt8.ofNat (n / 256), UInt8.ofNat n]

/-- The bytes that a padded text stands for. -/
def decode? (alphabet : Alphabet) : List Char → Option Bytes
  | [] => some []
  | [a, b, '=', '='] => decodeTwo alphabet a b
  | [a, b, c, '='] => decodeThree alphabet a b c
  | a :: b :: c :: d :: rest => do
    return (← decodeFour alphabet a b c d) ++ (← decode? alphabet rest)
  | _ => none

/-- A text without the padding at its end. -/
def trimPadding (cs : List Char) : List Char := (cs.reverse.dropWhile (· == '=')).reverse

/-- A text padded to a multiple of four characters. -/
def addPadding (cs : List Char) : List Char :=
  cs ++ List.replicate ((4 - cs.length % 4) % 4) '='

/-- The text of some bytes without padding. -/
def encodeBare (alphabet : Alphabet) (bytes : Bytes) : List Char :=
  trimPadding (encode alphabet bytes)

/-- The bytes that a text without padding stands for. -/
def decodeBare? (alphabet : Alphabet) (cs : List Char) : Option Bytes :=
  if cs.contains '=' then none else decode? alphabet (addPadding cs)

end CloudAuth.Base64
