/-
# Texts of requests

The rules for header fields, secret references, JSON pointers and host names.
The loader and the host each have their own copy of these rules; the copies
differ in no more than their limits, which are arguments here.
-/

import PixelStatus.Core.Basic
import PixelStatus.Logic.SplitFirst

namespace PixelStatus

def lowerByte (character : UInt8) : UInt8 :=
  if 0x41 ≤ character ∧ character ≤ 0x5A then character + 0x20 else character

def asciiLower (value : Bytes) : Bytes := value.map lowerByte

def isAlphaNumeric (character : UInt8) : Bool :=
  (0x41 ≤ character && character ≤ 0x5A) || (0x61 ≤ character && character ≤ 0x7A)
    || (0x30 ≤ character && character ≤ 0x39)

/-- A character of a header name. -/
def isTokenByte (character : UInt8) : Bool :=
  isAlphaNumeric character
    || character ∈ [0x21, 0x23, 0x24, 0x25, 0x26, 0x27, 0x2A, 0x2B, 0x2D, 0x2E, 0x5E, 0x5F,
      0x60, 0x7C, 0x7E]

def isHeaderName (maximumBytes : Nat) (name : Bytes) : Bool :=
  !(name.isEmpty || name.length > maximumBytes) && name.all isTokenByte

def isHeaderValue (maximumBytes : Nat) (value : Bytes) : Bool :=
  !(value.length > maximumBytes)
    && value.all fun character => 0x20 ≤ character && character ≠ 0x7F

def transportOwnsHeader (loweredName : Bytes) : Bool :=
  loweredName = bytes "host" || loweredName = bytes "content-length"
    || loweredName = bytes "transfer-encoding" || loweredName = bytes "connection"

def isSecretName (maximumBytes : Nat) (name : Bytes) : Bool :=
  !name.isEmpty && name.length ≤ maximumBytes
    && name.all fun character =>
      isAlphaNumeric character || character = 0x2E || character = 0x5F || character = 0x2D

/-- What begins a reference to a secret. -/
def secretMark : Bytes := bytes "$\x7bsecret:"

/-- The next reference in a template: the text before it, its name, and the
text behind it. A reference without an end has no name. -/
def nextSecret (value : Bytes) : Option (Bytes × Option (Bytes × Bytes)) :=
  (splitFirst secretMark value).map fun parts => (parts.1, splitFirst [0x7D] parts.2)

/-- Every tilde is followed by a zero or a one. -/
def escapesComplete : Bytes → Bool
  | [] => true
  | 0x7E :: 0x30 :: rest => escapesComplete rest
  | 0x7E :: 0x31 :: rest => escapesComplete rest
  | 0x7E :: _ => false
  | _ :: rest => escapesComplete rest

def isJsonPointer (maximumBytes : Nat) (pointer : Bytes) : Bool :=
  !(pointer.length > maximumBytes || (pointer ≠ [] && pointer.head? ≠ some 0x2F))
    && escapesComplete pointer

def isNetworkHost (maximumBytes : Nat) (host : Bytes) : Bool :=
  !(host.isEmpty || host.length > maximumBytes)
    && host.all fun character =>
      !(character ≤ 0x20 || character = 0x7F
        || character ∈ [0x2F, 0x3F, 0x23, 0x5B, 0x5D])

/-- A text without the mark has no reference. -/
theorem nextSecret_of_absent {value : Bytes} (absent : ¬ secretMark <:+: value) :
    nextSecret value = none := by
  rw [nextSecret, splitFirst_of_not_infix absent, Option.map_none]

end PixelStatus
