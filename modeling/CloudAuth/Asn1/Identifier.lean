import CloudAuth.Codec.Bytes

/-!
# Object identifiers

Names in the tree of registered objects, as the contents of their elements, and the names that keys,
certificates and bundles use.
-/

namespace CloudAuth.Asn1

/-- The digits of `n` in base 128, all but the last one marked, put in front of `done`. -/
def arcDigits : (fuel n : Nat) → (done : Bytes) → Bytes
  | 0, _, done => done
  | fuel + 1, n, done =>
    let digit := UInt8.ofNat (n % 128 + if done.isEmpty then 0 else 128)
    if n < 128 then digit :: done else arcDigits fuel (n / 128) (digit :: done)

/-- The content of the identifier with these numbers. -/
def identifierContent : List Nat → Bytes
  | first :: second :: rest => ((40 * first + second) :: rest).flatMap fun n => arcDigits 20 n []
  | _ => []

namespace Identifier

/-- RSA keys. -/
def rsa : Bytes := identifierContent [1, 2, 840, 113549, 1, 1, 1]

/-- Keys on an elliptic curve. -/
def ellipticKey : Bytes := identifierContent [1, 2, 840, 10045, 2, 1]

/-- DSA keys. -/
def dsa : Bytes := identifierContent [1, 2, 840, 10040, 4, 1]

/-- Keys on the twisted curve over the field of `2 ^ 255 - 19`. -/
def ed25519 : Bytes := identifierContent [1, 3, 101, 112]

/-- Keys on the twisted curve over the field of `2 ^ 448 - 2 ^ 224 - 1`. -/
def ed448 : Bytes := identifierContent [1, 3, 101, 113]

/-- Plain data. -/
def data : Bytes := identifierContent [1, 2, 840, 113549, 1, 7, 1]

/-- Encrypted data. -/
def encryptedData : Bytes := identifierContent [1, 2, 840, 113549, 1, 7, 6]

/-- A bag with a key. -/
def keyBag : Bytes := identifierContent [1, 2, 840, 113549, 1, 12, 10, 1, 1]

/-- A bag with an encrypted key. -/
def shroudedKeyBag : Bytes := identifierContent [1, 2, 840, 113549, 1, 12, 10, 1, 2]

/-- A bag with a certificate. -/
def certificateBag : Bytes := identifierContent [1, 2, 840, 113549, 1, 12, 10, 1, 3]

/-- A bag with more bags. -/
def nestedBag : Bytes := identifierContent [1, 2, 840, 113549, 1, 12, 10, 1, 6]

/-- The usual kind of certificate. -/
def x509Certificate : Bytes := identifierContent [1, 2, 840, 113549, 1, 9, 22, 1]

/-- Encryption under a derived key, with both schemes named. -/
def pbes2 : Bytes := identifierContent [1, 2, 840, 113549, 1, 5, 13]

/-- Key derivation by chained message codes. -/
def pbkdf2 : Bytes := identifierContent [1, 2, 840, 113549, 1, 5, 12]

/-- Triple DES under a key derived with SHA-1. -/
def sha1TripleDes : Bytes := identifierContent [1, 2, 840, 113549, 1, 12, 1, 3]

/-- Message codes with SHA-1. -/
def hmacSha1 : Bytes := identifierContent [1, 2, 840, 113549, 2, 7]

/-- Message codes with SHA-256. -/
def hmacSha256 : Bytes := identifierContent [1, 2, 840, 113549, 2, 9]

/-- Message codes with SHA-384. -/
def hmacSha384 : Bytes := identifierContent [1, 2, 840, 113549, 2, 10]

/-- Message codes with SHA-512. -/
def hmacSha512 : Bytes := identifierContent [1, 2, 840, 113549, 2, 11]

/-- AES in chained blocks with a key of 128 bits. -/
def aes128Cbc : Bytes := identifierContent [2, 16, 840, 1, 101, 3, 4, 1, 2]

/-- AES in chained blocks with a key of 192 bits. -/
def aes192Cbc : Bytes := identifierContent [2, 16, 840, 1, 101, 3, 4, 1, 22]

/-- AES in chained blocks with a key of 256 bits. -/
def aes256Cbc : Bytes := identifierContent [2, 16, 840, 1, 101, 3, 4, 1, 42]

/-- Triple DES in chained blocks. -/
def tripleDesCbc : Bytes := identifierContent [1, 2, 840, 113549, 3, 7]

/-- SHA-1. -/
def sha1 : Bytes := identifierContent [1, 3, 14, 3, 2, 26]

/-- SHA-256. -/
def sha256 : Bytes := identifierContent [2, 16, 840, 1, 101, 3, 4, 2, 1]

/-- SHA-384. -/
def sha384 : Bytes := identifierContent [2, 16, 840, 1, 101, 3, 4, 2, 2]

/-- SHA-512. -/
def sha512 : Bytes := identifierContent [2, 16, 840, 1, 101, 3, 4, 2, 3]

/-- The curve of 224 bits over a prime field. -/
def secp224r1 : Bytes := identifierContent [1, 3, 132, 0, 33]

/-- The curve of 256 bits over a prime field. -/
def secp256r1 : Bytes := identifierContent [1, 2, 840, 10045, 3, 1, 7]

/-- The curve of 256 bits over a prime field with a fast endomorphism. -/
def secp256k1 : Bytes := identifierContent [1, 3, 132, 0, 10]

/-- The curve of 384 bits over a prime field. -/
def secp384r1 : Bytes := identifierContent [1, 3, 132, 0, 34]

/-- The curve of 521 bits over a prime field. -/
def secp521r1 : Bytes := identifierContent [1, 3, 132, 0, 35]

end Identifier

end CloudAuth.Asn1
