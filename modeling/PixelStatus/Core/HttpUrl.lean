/-
# HTTP URLs

A URL is accepted when its scheme, its authority and its characters are; it is
split into the part up to the authority and the target of the request.
-/

import PixelStatus.Core.Basic

namespace PixelStatus

inductive HttpScheme
  | http
  | https
  deriving DecidableEq

structure ParsedHttpUrl where
  scheme : HttpScheme := .http
  base : Bytes := []
  target : Bytes := []
  deriving DecidableEq

/-- The value of a nonempty run of decimal digits. -/
def digitsValue (digits : Bytes) : Option Nat :=
  if digits ≠ [] ∧ digits.all (fun byte => 0x30 ≤ byte && byte ≤ 0x39) then
    some (digits.foldl (fun value byte => 10 * value + (byte.toNat - 0x30)) 0)
  else none

/-- `std::from_chars` to an unsigned 32-bit integer, when it takes the whole
text. -/
def fromCharsUnsigned (text : Bytes) : Option Nat :=
  (digitsValue text).filter fun number => number < 2 ^ 32

def validPort (value : Bytes) : Bool :=
  match fromCharsUnsigned value with
  | none => false
  | some port => port > 0 && port ≤ 65535

/-- The last place of a character. -/
def lastIndexOf (character : UInt8) (text : Bytes) : Option Nat :=
  (text.reverse.idxOf? character).map fun behind => text.length - 1 - behind

def validAuthority (authority : Bytes) : Bool :=
  if authority = [] ∨ 0x40 ∈ authority then false
  else if authority.head? = some 0x5B then
    match authority.idxOf? 0x5D with
    | none => false
    | some bracket =>
        bracket > 1
          && (bracket + 1 = authority.length
            || (authority[bracket + 1]? = some 0x3A && validPort (authority.drop (bracket + 2))))
  else match lastIndexOf 0x3A authority with
    | none => true
    | some colon =>
        colon > 0 && authority.idxOf? 0x3A = some colon && validPort (authority.drop (colon + 1))

/-- The scheme of a URL and the length of its mark. -/
def schemeOf (url : Bytes) : Option (HttpScheme × Nat) :=
  if bytes "http://" <+: url then some (.http, 7)
  else if bytes "https://" <+: url then some (.https, 8)
  else none

def parseHttpUrl (url : Bytes) : Option ParsedHttpUrl :=
  match schemeOf url with
  | none => none
  | some (scheme, authorityStart) =>
      if 0x23 ∈ url ∨ url.any (fun character => character ≤ 0x20 || character = 0x7F) then none
      else
        let remainder := url.drop authorityStart
        let authority := remainder.takeWhile fun character =>
          character ≠ 0x2F && character ≠ 0x3F
        let target := remainder.drop authority.length
        if !validAuthority authority then none
        else some
          { scheme
            base := url.take (authorityStart + authority.length)
            target :=
              match target with
              | [] => bytes "/"
              | 0x3F :: _ => bytes "/" ++ target
              | _ => target }

end PixelStatus
