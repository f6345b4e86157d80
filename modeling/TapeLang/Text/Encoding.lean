import TapeLang.Text.Utf8

/-!
# Reading files as text

A text file is decoded by its encoding, and then each of the three customary line ends becomes a
newline.
-/

namespace TapeLang.Text

/-- Turns carriage returns, alone or before a newline, into newlines. -/
def unifyNewlines : List Char → List Char
  | [] => []
  | '\r' :: '\n' :: rest => '\n' :: unifyNewlines rest
  | '\r' :: rest => '\n' :: unifyNewlines rest
  | c :: rest => c :: unifyNewlines rest

/-- The encodings of text files. -/
inductive Encoding where
  | utf8
  /-- UTF-8 behind an optional signature, the byte order mark. -/
  | utf8Signed
  /-- One byte for each of the first 256 code points. -/
  | latin1
deriving DecidableEq, Repr

/-- The byte order mark in UTF-8. -/
def signature : List UInt8 := [0xef, 0xbb, 0xbf]

/-- The bytes behind a signature.  Data that ends before the signature is complete holds nothing
else yet; positions are counted from behind the signature. -/
def dropSignature (bytes : List UInt8) : List UInt8 :=
  if bytes.isPrefixOf signature then []
  else if signature.isPrefixOf bytes then bytes.drop signature.length
  else bytes

/-- Decodes bytes. -/
def Encoding.decode : Encoding → List UInt8 → Except DecodeError (List Char)
  | .utf8, bytes => utf8Decode bytes
  | .utf8Signed, bytes => utf8Decode (dropSignature bytes)
  | .latin1, bytes => .ok (bytes.map fun byte => Char.ofNat byte.toNat)

/-- Reads the contents of a file as text. -/
def readText (encoding : Encoding) (bytes : List UInt8) : Except DecodeError String :=
  match encoding.decode bytes with
  | .error e => .error e
  | .ok text => .ok (String.ofList (unifyNewlines text))

end TapeLang.Text
