import CloudAuth.Codec.Unicode
import CloudAuth.Number.Decimal
import CloudAuth.Text.Quoted

/-!
# Encoding text

Text is written to bytes in UTF-8, which has no form for a surrogate that stands alone. So a text with
one cannot be encoded. The names of files are an exception: bytes that were no UTF-8 were read as
surrogates of a certain range, and these are written as the bytes again.
-/

namespace CloudAuth

/-- A text that cannot be encoded: which code points were met that have no encoded form. -/
structure EncodeError where
  /-- The number of the first of them. -/
  unit : Nat
  /-- The place of the first of them. -/
  start : Nat
  /-- The place of the last of those that follow on it. -/
  finish : Nat
  deriving DecidableEq, Repr

namespace EncodeError

/-- The message of the error. -/
def message (e : EncodeError) : String :=
  "'utf-8' codec can't encode " ++
    (if e.start = e.finish then
      "character '" ++ String.ofList (Text.numericEscape e.unit) ++ "' in position " ++
        Decimal.intText e.start
    else
      "characters in position " ++ Decimal.intText e.start ++ "-" ++ Decimal.intText e.finish) ++
    ": surrogates not allowed"

end EncodeError

namespace Text

/-- The encoded form of a text that starts at a place, where some surrogates may have a form. -/
def encodeFrom (escape? : Nat → Option UInt8) : (place : Nat) → Text → Except EncodeError Bytes
  | _, [] => .ok []
  | place, .scalar c :: rest =>
    (encodeFrom escape? (place + 1) rest).map (Unicode.utf8Char c ++ ·)
  | place, .surrogate unit :: rest =>
    match escape? unit with
    | some byte => (encodeFrom escape? (place + 1) rest).map (byte :: ·)
    | none => .error ⟨unit, place, place + (rest.takeWhile CodePoint.isSurrogate).length⟩

/-- The encoded form of a text. -/
def encode (t : Text) : Except EncodeError Bytes := encodeFrom (fun _ => none) 0 t

/-- The byte that was read as a surrogate. -/
def escapedByte? (unit : Nat) : Option UInt8 :=
  if 0xDC80 ≤ unit ∧ unit ≤ 0xDCFF then some (UInt8.ofNat (unit - 0xDC00)) else none

/-- The encoded form of a text as the name of a file. -/
def encodeName (t : Text) : Except EncodeError Bytes := encodeFrom escapedByte? 0 t

end Text

end CloudAuth
