import GeoTrack.Geozones
import Mathlib.Data.List.DropRight

/-!
# Reading the expected version from a request header

A conditional write names the version it was made against in `If-Match`.  The
header is decoded as Latin-1, whose only decimal digits are the ASCII ones, so
reading it is a matter of stripping, an optional weak prefix, quotes and the
integer syntax of the language.
-/

namespace GeoTrack

/-- An error answer of the API. -/
structure ProblemError where
  status : ℕ
  title : String
  code : String
  detail : String
  headers : List (String × String)
  extra : List (String × ℤ)
deriving DecidableEq

/-- `str.isspace`, for the characters a header can carry. -/
def isSpace (character : Char) : Bool :=
  let code := character.toNat
  (9 ≤ code && code ≤ 13) || (28 ≤ code && code ≤ 32) || code = 133 || code = 160

/-- `str.strip` with a set of characters. -/
def strip (drop : Char → Bool) (text : List Char) : List Char :=
  (text.dropWhile drop).rdropWhile drop

/-- Longer literals are refused by the interpreter. -/
def maxIntDigits : ℕ := 4300

/-- A decimal literal without its sign: digits, with single underscores
between them. -/
def readDigits (text : List Char) : Option ℕ :=
  let groups := text.splitOn '_'
  if groups.all (fun group => !group.isEmpty && group.all Char.isDigit) &&
      groups.flatten.length ≤ maxIntDigits then
    some (groups.flatten.foldl (fun value digit => 10 * value + (digit.toNat - '0'.toNat)) 0)
  else
    none

/-- A decimal literal with its sign. -/
def readSigned : List Char → Option ℤ
  | '-' :: rest => (readDigits rest).map fun value => -(value : ℤ)
  | '+' :: rest => (readDigits rest).map fun value => (value : ℤ)
  | digits => (readDigits digits).map fun value => (value : ℤ)

/-- `int(text)`, with `none` for a `ValueError`. -/
def readInt (text : List Char) : Option ℤ := readSigned (strip isSpace text)

/-- The values of the 32-bit version column. -/
def InVersionRange (version : ℤ) : Prop := -2 ^ 31 ≤ version ∧ version < 2 ^ 31

instance (version : ℤ) : Decidable (InVersionRange version) :=
  inferInstanceAs (Decidable (_ ∧ _))

def noSuchVersion : ℤ := 0

def badIfMatch : ProblemError where
  status := 400
  title := "Bad request"
  code := "bad_request"
  detail := "If-Match must carry a quoted zone version, for example If-Match: \"3\"."
  headers := []
  extra := []

def dropWeakPrefix : List Char → List Char
  | 'W' :: '/' :: rest => rest
  | candidate => candidate

/-- Read the zone version out of an `If-Match` header; `none` is "any". -/
def parseIfMatch (raw : Option String) : Except ProblemError (Option ℤ) :=
  match raw with
  | none => .ok none
  | some header =>
      let candidate := strip isSpace header.toList
      if candidate = ['*'] then
        .ok none
      else
        match readInt (strip (· = '"') (dropWeakPrefix candidate)) with
        | none => .error badIfMatch
        | some version =>
            .ok (some (if InVersionRange version then version else noSuchVersion))

/-- What is read from a header can be bound as a version, whatever number the
header carries. -/
theorem parseIfMatch_inVersionRange {raw : Option String} {version : ℤ}
    (parsed : parseIfMatch raw = .ok (some version)) : InVersionRange version := by
  unfold parseIfMatch at parsed
  split at parsed
  case h_1 => cases parsed
  case h_2 header =>
      dsimp only at parsed
      split at parsed
      case isTrue => cases parsed
      case isFalse =>
          split at parsed
          case h_1 => cases parsed
          case h_2 number _ =>
              have read := Option.some.inj (Except.ok.inj parsed)
              by_cases fits : InVersionRange number
              · rw [if_pos fits] at read
                exact read ▸ fits
              · rw [if_neg fits] at read
                rw [← read]
                decide

example : parseIfMatch (some " W/\"17\"") = .ok (some 17) := by decide +kernel

example : parseIfMatch (some "\"99999999999\"") = .ok (some 0) := by decide +kernel

end GeoTrack
