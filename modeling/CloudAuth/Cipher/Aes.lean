import CloudAuth.Codec.Bytes

/-!
# AES

Decryption of one block of sixteen bytes under a key of sixteen, twenty-four or thirty-two bytes. A
block is a list of bytes, four columns of four. The substitution table is computed from its
definition: inversion in the field of 256 elements followed by an affine map.
-/

namespace CloudAuth.Aes

/-- The product with `x` in the field. -/
def double (a : UInt8) : UInt8 := (a <<< 1) ^^^ (if a ≥ 0x80 then 0x1B else 0)

/-- The product in the field, with the factor `b` read bit by bit. -/
def times : (bits : Nat) → (a b : UInt8) → UInt8
  | 0, _, _ => 0
  | bits + 1, a, b => (if b &&& 1 = 1 then a else 0) ^^^ times bits (double a) (b >>> 1)

/-- The product in the field. -/
def product (a b : UInt8) : UInt8 := times 8 a b

/-- The power of an element of the field. -/
def power (a : UInt8) : (n : Nat) → UInt8
  | 0 => 1
  | n + 1 => product a (power a n)

/-- The byte rotated to the left. -/
def rotate (a n : UInt8) : UInt8 := (a <<< n) ||| (a >>> (8 - n))

/-- The substitution of a byte, from its inverse (which is its power 254). -/
def substituted (a : UInt8) : UInt8 :=
  let b := power a 254
  b ^^^ rotate b 1 ^^^ rotate b 2 ^^^ rotate b 3 ^^^ rotate b 4 ^^^ 0x63

/-- The substitution table. -/
def table : Array UInt8 := ((List.range 256).map fun n => substituted (UInt8.ofNat n)).toArray

/-- The substitution table read backwards. -/
def inverseTable : Array UInt8 :=
  ((List.range 256).zip table.toList).foldl
    (fun t entry => t.setIfInBounds entry.2.toNat (UInt8.ofNat entry.1)) (Array.replicate 256 0)

/-- The substitution of a byte, by table. -/
def substitute (a : UInt8) : UInt8 := table.getD a.toNat 0

/-- The byte whose substitution is `a`. -/
def unsubstitute (a : UInt8) : UInt8 := inverseTable.getD a.toNat 0

/-- The next column of the expanded key: the columns done so far, last one first, `size` of which the
key itself gave. -/
def nextColumn (size index : Nat) (constant : UInt8) (columns : List Bytes) : Bytes :=
  let last := columns.headD []
  let mixed :=
    if index % size = 0 then
      match last with
      | [a, b, c, d] => [substitute b ^^^ constant, substitute c, substitute d, substitute a]
      | other => other
    else if 6 < size ∧ index % size = 4 then last.map substitute
    else last
  Bytes.xor (columns.getD (size - 1) []) mixed

/-- The columns of the expanded key, last one first, extended by `count` columns. -/
def extend (size : Nat) : (count index : Nat) → (constant : UInt8) → List Bytes → List Bytes
  | 0, _, _, columns => columns
  | count + 1, index, constant, columns =>
    extend size count (index + 1) (if index % size = 0 then double constant else constant)
      (nextColumn size index constant columns :: columns)

/-- Some bytes in groups of `size`, `count` of them. -/
def groups (size : Nat) : (count : Nat) → Bytes → List Bytes
  | 0, _ => []
  | count + 1, bytes => bytes.take size :: groups size count (bytes.drop size)

/-- The round keys in the order of decryption. -/
def roundKeys (key : Bytes) : List Bytes :=
  let size := key.length / 4
  let columns := (groups 4 size key).reverse
  let all := extend size (4 * (size + 7) - size) size 1 columns
  (groups 16 (size + 7) all.reverse.flatten).reverse

/-- Moves the rows of a block back. -/
def unshiftRows (block : Bytes) : Bytes :=
  let a := block.toArray
  (List.range 16).map fun i => a.getD ((i + 16 - 4 * (i % 4)) % 16) 0

/-- Unmixes the columns of a block. -/
def unmixColumns : Bytes → Bytes
  | a :: b :: c :: d :: rest =>
    (product a 14 ^^^ product b 11 ^^^ product c 13 ^^^ product d 9) ::
      (product a 9 ^^^ product b 14 ^^^ product c 11 ^^^ product d 13) ::
      (product a 13 ^^^ product b 9 ^^^ product c 14 ^^^ product d 11) ::
      (product a 11 ^^^ product b 13 ^^^ product c 9 ^^^ product d 14) :: unmixColumns rest
  | _ => []

/-- The rounds of decryption after the first key. -/
def rounds : List Bytes → Bytes → Bytes
  | [], block => block
  | [key], block => Bytes.xor ((unshiftRows block).map unsubstitute) key
  | key :: keys, block =>
    rounds keys (unmixColumns (Bytes.xor ((unshiftRows block).map unsubstitute) key))

/-- Decrypts one block, given the round keys in the order of decryption. -/
def decryptBlock (keys : List Bytes) (block : Bytes) : Bytes :=
  match keys with
  | [] => block
  | key :: keys => rounds keys (Bytes.xor block key)

end CloudAuth.Aes
