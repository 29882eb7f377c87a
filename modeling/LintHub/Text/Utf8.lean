/-!
# UTF-8

`decodeUnits` reads bytes as UTF-8 and reports, in order, each character and each
malformed part. A malformed part is the longest run of bytes that could still
begin a character, or else a single byte, so what follows it is read afresh.
`decodeLossy` shows a malformed part as U+FFFD; `decode?` refuses it.
-/

namespace LintHub

/-- Raw contents of a file or of a stream. -/
abbrev Bytes := List UInt8

namespace Text

/-- A character begun and not yet complete. -/
structure Pending where
  /-- Continuation bytes still missing, at least one. -/
  missing : Nat
  /-- The bits read so far. -/
  bits : Nat
  /-- The least byte that may come next. -/
  low : UInt8
  /-- The greatest byte that may come next. -/
  high : UInt8

/-- What a byte says at the start of a character. -/
inductive Lead where
  /-- A whole character. -/
  | single (c : Char)
  /-- The first of several bytes. -/
  | more (p : Pending)
  /-- No character begins with this byte. -/
  | malformed

/-- Classifies a first byte. The range of the second byte excludes overlong forms,
surrogates and numbers above U+10FFFF. -/
def lead (b : UInt8) : Lead :=
  let n := b.toNat
  if n < 0x80 then .single (Char.ofNat n)
  else if n < 0xC2 then .malformed
  else if n < 0xE0 then .more ⟨1, n - 0xC0, 0x80, 0xBF⟩
  else if n == 0xE0 then .more ⟨2, 0, 0xA0, 0xBF⟩
  else if n == 0xED then .more ⟨2, 0xD, 0x80, 0x9F⟩
  else if n < 0xF0 then .more ⟨2, n - 0xE0, 0x80, 0xBF⟩
  else if n == 0xF0 then .more ⟨3, 0, 0x90, 0xBF⟩
  else if n < 0xF4 then .more ⟨3, n - 0xF0, 0x80, 0xBF⟩
  else if n == 0xF4 then .more ⟨3, 4, 0x80, 0x8F⟩
  else .malformed

/-- Reads on with a character begun or not; `none` in the answer is a malformed part. -/
def decodeFrom : Option Pending → Bytes → List (Option Char)
  | none, [] => []
  | some _, [] => [none]
  | none, b :: bs =>
    match lead b with
    | .single c => some c :: decodeFrom none bs
    | .more p => decodeFrom (some p) bs
    | .malformed => none :: decodeFrom none bs
  | some p, b :: bs =>
    if p.low ≤ b ∧ b ≤ p.high then
      let bits := 64 * p.bits + (b.toNat - 0x80)
      if p.missing ≤ 1 then some (Char.ofNat bits) :: decodeFrom none bs
      else decodeFrom (some ⟨p.missing - 1, bits, 0x80, 0xBF⟩) bs
    else
      none :: match lead b with
        | .single c => some c :: decodeFrom none bs
        | .more q => decodeFrom (some q) bs
        | .malformed => none :: decodeFrom none bs

/-- The characters and malformed parts of a byte sequence. -/
def decodeUnits (bs : Bytes) : List (Option Char) := decodeFrom none bs

/-- Text of a byte sequence, each malformed part shown as U+FFFD. -/
def decodeLossy (bs : Bytes) : List Char := (decodeUnits bs).map (·.getD (Char.ofNat 0xFFFD))

/-- Text of a byte sequence that is valid UTF-8 throughout. -/
def decode? (bs : Bytes) : Option (List Char) := (decodeUnits bs).mapM id

/-- The UTF-8 bytes of a text. -/
def encode (cs : List Char) : Bytes := cs.flatMap String.utf8EncodeChar

end Text
end LintHub
