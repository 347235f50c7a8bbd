import CloudAuth.Asn1.Element

/-!
# Values of elements

The types that elements carry: integers, object identifiers, byte and bit strings, sequences, and
elements under a tag of their context. Each reader gives nothing for an element of another type or
with a content that the type does not allow.
-/

namespace CloudAuth.Asn1

/-- The tag of an integer. -/
def integerTag : UInt8 := 0x02

/-- The tag of a bit string. -/
def bitStringTag : UInt8 := 0x03

/-- The tag of a byte string. -/
def octetStringTag : UInt8 := 0x04

/-- The tag of the null value. -/
def nullTag : UInt8 := 0x05

/-- The tag of an object identifier. -/
def identifierTag : UInt8 := 0x06

/-- The tag of a sequence. -/
def sequenceTag : UInt8 := 0x30

/-- The tag of a set. -/
def setTag : UInt8 := 0x31

/-- The tag of a byte string that is put together from parts. -/
def partedStringTag : UInt8 := 0x24

/-- The tag of a constructed element of the context. -/
def contextTag (number : Nat) : UInt8 := UInt8.ofNat (0xA0 + number)

/-- The tag of an element of the context that is not constructed. -/
def plainContextTag (number : Nat) : UInt8 := UInt8.ofNat (0x80 + number)

/-- The content of a natural number: its bytes, with a zero in front if the first bit is set. -/
def naturalContent (n : Nat) : Bytes :=
  if n = 0 then [0]
  else
    let bytes := Bytes.ofNat (Bytes.width n) n
    if 0x80 ≤ bytes.headD 0 then 0 :: bytes else bytes

/-- The element of a natural number. -/
def ofNatural (n : Nat) : Element := ⟨integerTag, naturalContent n⟩

/-- Whether the content of an integer is as short as it can be. -/
def isShortest : Bytes → Bool
  | [] => false
  | [_] => true
  | a :: b :: _ => !(a == 0 && b < 0x80) && !(a == 0xFF && 0x80 ≤ b)

/-- A sequence of elements as one element. -/
def ofSequence (parts : List Element) : Element := ⟨sequenceTag, parts.flatMap Element.bytes⟩

namespace Element

/-- The content of an element with this tag. -/
def contentOf? (tag : UInt8) (e : Element) : Option Bytes :=
  if e.tag = tag then some e.content else none

/-- The natural number that an integer is. -/
def natural? (e : Element) : Option Nat :=
  match e.contentOf? integerTag with
  | some content =>
    if isShortest content && content.headD 0 < 0x80 then some (Bytes.toNat content) else none
  | none => none

/-- Whether the element is an integer, of either sign. -/
def isInteger (e : Element) : Bool := e.tag == integerTag && isShortest e.content

/-- Whether every number of an identifier ends, and none starts with a zero digit. At the start of a
number `fresh` is true. -/
def isIdentifierFrom : (fresh : Bool) → Bytes → Bool
  | fresh, [] => fresh
  | fresh, b :: rest => !(fresh && b == 0x80) && isIdentifierFrom (b < 0x80) rest

/-- The content of an object identifier. -/
def identifier? (e : Element) : Option Bytes :=
  (e.contentOf? identifierTag).filter fun content => !content.isEmpty && isIdentifierFrom true content

/-- Joins the parts of a parted string, through at most `depth` levels. -/
def joinParts? (rules : Rules) : (depth : Nat) → Element → Option Bytes
  | 0, _ => none
  | depth + 1, e =>
    if e.tag = octetStringTag then some e.content
    else if e.tag = partedStringTag then do
      let parts ← readAll? rules e.content
      let contents ← parts.mapM (joinParts? rules depth)
      return contents.flatten
    else none

/-- How deep the parts of a string may be nested. -/
def maxPartDepth : Nat := 5

/-- The bytes of a byte string, which by the basic rules may be put together from parts. -/
def octets? (rules : Rules) (e : Element) : Option Bytes :=
  match rules with
  | .distinguished => e.contentOf? octetStringTag
  | .basic => joinParts? rules maxPartDepth e

/-- The bytes of a bit string of whole bytes. -/
def bits? (e : Element) : Option Bytes :=
  match e.contentOf? bitStringTag with
  | some (0 :: bytes) => some bytes
  | _ => none

/-- Whether the element is a bit string: the count of unused bits, and bytes whose unused bits are
zero. -/
def isBitString (e : Element) : Bool :=
  e.tag == bitStringTag &&
    match e.content with
    | [] => false
    | unused :: bytes =>
      match bytes.getLast? with
      | none => unused == 0
      | some last => unused < 8 && last.toNat % Nat.pow 2 unused.toNat == 0

/-- The parts of a constructed element with this tag. -/
def parts? (rules : Rules) (tag : UInt8) (e : Element) : Option (List Element) :=
  (e.contentOf? tag).bind (readAll? rules)

/-- The parts of a sequence. -/
def sequence? (rules : Rules) (e : Element) : Option (List Element) := e.parts? rules sequenceTag

/-- The element inside a tag of the context. -/
def inside? (rules : Rules) (number : Nat) (e : Element) : Option Element :=
  (e.contentOf? (contextTag number)).bind (ofBytes? rules)

end Element

end CloudAuth.Asn1
