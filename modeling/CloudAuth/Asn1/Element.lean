import CloudAuth.Codec.Bytes

/-!
# Encoded elements

The encoding in which keys, certificates and bundles are written: an element is a tag, a length and a
content, and the content of a constructed element is again a sequence of elements. The distinguished
rules allow one spelling of each length; the basic rules allow any, and also contents that run up to
an end mark. Tags of more than one byte are not used by anything read here and are refused.
-/

namespace CloudAuth.Asn1

/-- How strictly lengths are read. -/
inductive Rules where
  /-- Each length in its shortest form. -/
  | distinguished
  /-- Lengths in any form, and contents closed by an end mark. -/
  | basic
  deriving DecidableEq, Repr

/-- A tag with its content. -/
structure Element where
  /-- The tag: class, the mark of constructed elements, and number. -/
  tag : UInt8
  /-- The content. -/
  content : Bytes
  deriving DecidableEq, Repr

/-- What the length bytes say. -/
inductive Extent where
  /-- The content has this many bytes. -/
  | definite (length : Nat)
  /-- The content runs up to an end mark. -/
  | untilEnd
  deriving DecidableEq, Repr

/-- The bytes that write a length, in the shortest form. -/
def lengthBytes (n : Nat) : Bytes :=
  if n < 0x80 then [UInt8.ofNat n]
  else UInt8.ofNat (0x80 + Bytes.width n) :: Bytes.ofNat (Bytes.width n) n

/-- How many bytes a length may have, apart from zeros at its start. A content that is longer is refused
however its length is told. -/
def maxLengthWidth : Nat := 8

/-- Reads a length of which `bytes` is the long form. -/
def longExtent? (rules : Rules) (bytes : Bytes) : Option Extent :=
  let n := Bytes.toNat bytes
  if maxLengthWidth < Bytes.width n then none
  else
    match rules with
    | .basic => some (.definite n)
    | .distinguished => if 0x80 ≤ n ∧ Bytes.width n = bytes.length then some (.definite n) else none

/-- Reads the length bytes of an element. -/
def readExtent? (rules : Rules) : Bytes → Option (Extent × Bytes)
  | [] => none
  | first :: rest =>
    if first < 0x80 then some (.definite first.toNat, rest)
    else if first = 0x80 then
      match rules with
      | .basic => some (.untilEnd, rest)
      | .distinguished => none
    else
      let count := first.toNat - 0x80
      if count ≤ rest.length then
        (longExtent? rules (rest.take count)).map (·, rest.drop count)
      else none

namespace Element

/-- Whether a tag marks a constructed element. -/
def isConstructedTag (tag : UInt8) : Bool := tag &&& 0x20 != 0

/-- Whether the content is again a sequence of elements. -/
def isConstructed (e : Element) : Bool := isConstructedTag e.tag

/-- The bytes of an element, by the distinguished rules. -/
def bytes (e : Element) : Bytes := e.tag :: lengthBytes e.content.length ++ e.content

mutual

/-- Reads the element at the start of some bytes, through at most `fuel` elements. -/
def readWithin? (rules : Rules) : (fuel : Nat) → Bytes → Option (Element × Bytes)
  | 0, _ => none
  | _ + 1, [] => none
  | fuel + 1, tag :: afterTag =>
    if tag &&& 0x1F = 0x1F then none
    else
      match readExtent? rules afterTag with
      | none => none
      | some (.definite length, rest) =>
        if length ≤ rest.length then some (⟨tag, rest.take length⟩, rest.drop length) else none
      | some (.untilEnd, rest) =>
        if isConstructedTag tag then
          match readUntilEnd? rules fuel rest with
          | none => none
          | some (content, rest) =>
            if maxLengthWidth < Bytes.width content.length then none else some (⟨tag, content⟩, rest)
        else none

/-- Reads the content in front of an end mark. -/
def readUntilEnd? (rules : Rules) : (fuel : Nat) → Bytes → Option (Bytes × Bytes)
  | 0, _ => none
  | fuel + 1, bytes =>
    match bytes with
    | 0 :: 0 :: rest => some ([], rest)
    | _ =>
      match readWithin? rules fuel bytes with
      | none => none
      | some (_, rest) =>
        (readUntilEnd? rules fuel rest).map fun (content, after) =>
          (bytes.take (bytes.length - rest.length) ++ content, after)

end

/-- Reads the element at the start of some bytes. -/
def read? (rules : Rules) (bytes : Bytes) : Option (Element × Bytes) :=
  readWithin? rules (bytes.length + 1) bytes

/-- The one element that some bytes are. -/
def ofBytes? (rules : Rules) (bytes : Bytes) : Option Element :=
  match read? rules bytes with
  | some (e, []) => some e
  | _ => none

/-- The element at the start of some bytes, whatever follows it. -/
def leading? (rules : Rules) (bytes : Bytes) : Option Element := (read? rules bytes).map (·.1)

/-- Reads at most `fuel` elements that some bytes consist of. -/
def readAllWithin? (rules : Rules) : (fuel : Nat) → Bytes → Option (List Element)
  | _, [] => some []
  | 0, _ :: _ => none
  | fuel + 1, bytes =>
    match read? rules bytes with
    | none => none
    | some (e, rest) => (readAllWithin? rules fuel rest).map (e :: ·)

/-- The elements that some bytes consist of. -/
def readAll? (rules : Rules) (bytes : Bytes) : Option (List Element) :=
  readAllWithin? rules bytes.length bytes

/-- Whether an element is well formed down to its innermost parts. -/
def isWellFormed : (depth : Nat) → Element → Bool
  | 0, _ => false
  | depth + 1, e =>
    !e.isConstructed ||
      match readAll? .distinguished e.content with
      | none => false
      | some parts => parts.all (isWellFormed depth)

end Element

end CloudAuth.Asn1
