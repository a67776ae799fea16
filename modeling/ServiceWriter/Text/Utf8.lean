import ServiceWriter.Text.CodePoints

/-!
# Reading UTF-8

Bytes are read one at a time. A byte that cannot continue the character in progress ends it as one
replacement character (U+FFFD) and is then read afresh, so each maximal part of an ill-formed
sequence that could start a character becomes one replacement character. A byte order mark is a
character like any other.
-/

set_option autoImplicit false

namespace ServiceWriter.Text

/-- A character in progress: how many bytes are still owed, the least and the greatest byte that may
come next, and the code point so far. -/
structure PartialChar where
  owed : Nat
  least : Nat
  greatest : Nat
  codePoint : Nat

/-- Reads the first byte of a character: either a whole character (or a replacement) or the start of
a longer one. The bounds of the second byte rule out overlong forms, surrogates and code points past
U+10FFFF. -/
def firstByte (b : Nat) : Char ⊕ PartialChar :=
  if b ≤ 0x7F then .inl (Char.ofNat b)
  else if 0xC2 ≤ b && b ≤ 0xDF then .inr ⟨1, 0x80, 0xBF, b - 0xC0⟩
  else if b == 0xE0 then .inr ⟨2, 0xA0, 0xBF, 0⟩
  else if b == 0xED then .inr ⟨2, 0x80, 0x9F, 0xD⟩
  else if 0xE1 ≤ b && b ≤ 0xEF then .inr ⟨2, 0x80, 0xBF, b - 0xE0⟩
  else if b == 0xF0 then .inr ⟨3, 0x90, 0xBF, 0⟩
  else if 0xF1 ≤ b && b ≤ 0xF3 then .inr ⟨3, 0x80, 0xBF, b - 0xF0⟩
  else if b == 0xF4 then .inr ⟨3, 0x80, 0x8F, 4⟩
  else .inl replacement

/-- Reads the rest of the bytes, with `pending` the character in progress. -/
def utf8Chars (pending : Option PartialChar) : List UInt8 → List Char
  | [] => match pending with
    | none => []
    | some _ => [replacement]
  | byte :: rest =>
    let b := byte.toNat
    let fresh (before : List Char) : List Char :=
      match firstByte b with
      | .inl c => before ++ c :: utf8Chars none rest
      | .inr p => before ++ utf8Chars (some p) rest
    match pending with
    | none => fresh []
    | some p =>
      if p.least ≤ b && b ≤ p.greatest then
        let codePoint := p.codePoint * 64 + (b - 0x80)
        if p.owed ≤ 1 then
          Char.ofNat codePoint :: utf8Chars none rest
        else
          utf8Chars (some ⟨p.owed - 1, 0x80, 0xBF, codePoint⟩) rest
      else
        fresh [replacement]

/-- The text that the bytes spell. Ill-formed parts are replaced, never refused. -/
def ofUtf8 (bytes : ByteArray) : String :=
  String.ofList (utf8Chars none bytes.toList)

end ServiceWriter.Text
