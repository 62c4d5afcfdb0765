import LanguageClient.Json.Parser
import LanguageClient.Text.Utf8

/-!
# Percent-encoded bytes

A byte is written as a percent sign and two hexadecimal digits where a character of its own may
not stand.
-/

namespace LanguageClient.Uri

/-- Bytes of a percent-encoded text. A percent sign without two digits stands for itself. -/
def percentDecode : List Char → List UInt8
  | [] => []
  | '%' :: high :: low :: rest =>
    match Json.hexDigit? high, Json.hexDigit? low with
    | some first, some second => UInt8.ofNat (first * 16 + second) :: percentDecode rest
    | _, _ => Utf8.encodeChar '%' ++ percentDecode (high :: low :: rest)
  | character :: rest => Utf8.encodeChar character ++ percentDecode rest

/-- One upper-case hexadecimal digit. -/
def upperHexDigit (value : Nat) : Char :=
  if value < 10 then Char.ofNat (48 + value) else Char.ofNat (55 + value)

/-- A byte as a percent sign and two upper-case hexadecimal digits. -/
def percentEncodeByte (byte : UInt8) : List Char :=
  ['%', upperHexDigit (byte.toNat / 16), upperHexDigit (byte.toNat % 16)]

end LanguageClient.Uri
