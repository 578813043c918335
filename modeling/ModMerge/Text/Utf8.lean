import ModMerge.Text.Numeral

/-!
# UTF-8 and other encodings of text

`utf8Bytes` encodes a text and `utf8Text` decodes bytes. Bytes that are no UTF-8 text are
reported by the first place where decoding fails. Codes of characters may also come with
surrogates among them, for which there is no encoding; `utf8Encoded` reports the first of these.
`latinText` gives every byte a
character of its own, so it never fails. Texts that are read from files have their line
ends made uniform.
-/

namespace ModMerge.Text

/-- Why bytes cannot be decoded. -/
inductive DecodingFault where
  /-- No character starts with this byte. -/
  | startByte
  /-- A character begins but does not go on. -/
  | continuation
  /-- The bytes end within a character. -/
  | truncated
deriving DecidableEq, Repr

/-- Where and why bytes cannot be decoded. -/
structure DecodingError where
  fault : DecodingFault
  /-- The bytes of the character that failed. -/
  bytes : List UInt8
  /-- How many bytes come before them. -/
  position : Nat
deriving DecidableEq, Repr

/-- The wording of a fault. -/
def DecodingFault.text : DecodingFault → String
  | startByte => "invalid start byte"
  | continuation => "invalid continuation byte"
  | truncated => "unexpected end of data"

/-- The wording for bytes that cannot be decoded. A character that is cut off by the end of
a file is kept back and tried again on its own, so it is then the first one. -/
def DecodingError.message (error : DecodingError) : String :=
  let position := if error.fault = .truncated then 0 else error.position
  let place :=
    match error.bytes with
    | [byte] =>
        "byte 0x" ++ String.ofList (hexadecimal 2 byte.toNat) ++ " in position " ++
          decimalString position
    | bytes =>
        "bytes in position " ++ decimalString position ++ "-" ++
          decimalString (position + bytes.length - 1 : Nat)
  "'utf-8' codec can't decode " ++ place ++ ": " ++ error.fault.text

/-- What the first byte of a character says about it. -/
structure Utf8Lead where
  /-- How many bytes follow. -/
  following : Nat
  /-- What the first byte adds to the code of the character. -/
  bits : Nat
  /-- The smallest and the largest second byte; later ones have the full range. -/
  low : Nat := 0x80
  high : Nat := 0xbf
deriving DecidableEq, Repr

/-- The meaning of a first byte. The bounds on the second byte leave out codes that have a
shorter form, surrogates and codes beyond the last character. -/
def utf8Lead? (byte : UInt8) : Option Utf8Lead :=
  let value := byte.toNat
  if value < 0x80 then some { following := 0, bits := value }
  else if value < 0xc2 then none
  else if value < 0xe0 then some { following := 1, bits := value - 0xc0 }
  else if value = 0xe0 then some { following := 2, bits := 0, low := 0xa0 }
  else if value = 0xed then some { following := 2, bits := 0xd, high := 0x9f }
  else if value < 0xf0 then some { following := 2, bits := value - 0xe0 }
  else if value = 0xf0 then some { following := 3, bits := 0, low := 0x90 }
  else if value < 0xf4 then some { following := 3, bits := value - 0xf0 }
  else if value = 0xf4 then some { following := 3, bits := 4, high := 0x8f }
  else none

/-- Whether a byte lies between two bounds. -/
def isBetween (low high : Nat) (byte : UInt8) : Bool :=
  low ≤ byte.toNat && byte.toNat ≤ high

/-- The bytes that go on with a character, as far as they are good. -/
def continuation (lead : Utf8Lead) : List UInt8 → List UInt8
  | [] => []
  | second :: rest =>
      if lead.following = 0 then []
      else if isBetween lead.low lead.high second then
        second :: (rest.take (lead.following - 1)).takeWhile (isBetween 0x80 0xbf)
      else []

/-- The code of a character with the given bytes. -/
def utf8Code (bits : Nat) (following : List UInt8) : Nat :=
  following.foldl (fun code byte => 64 * code + byte.toNat % 64) bits

/-- The text that bytes encode, after the characters of `decoded`, read backwards, which
took `position` bytes. -/
def utf8TextAfter (decoded : List Char) (position : Nat) :
    List UInt8 → Except DecodingError (List Char)
  | [] => .ok decoded.reverse
  | first :: rest =>
      match utf8Lead? first with
      | none => .error ⟨.startByte, [first], position⟩
      | some lead =>
        let following := continuation lead rest
        let size := following.length
        if size = lead.following then
          utf8TextAfter (Char.ofNat (utf8Code lead.bits following) :: decoded)
            (position + size + 1) (rest.drop size)
        else
          .error ⟨if size < rest.length then .continuation else .truncated,
            first :: following, position⟩
termination_by bytes => bytes.length
decreasing_by
  simp only [List.length_cons, List.length_drop]
  omega

/-- The text that bytes encode. -/
def utf8Text (bytes : List UInt8) : Except DecodingError (List Char) :=
  utf8TextAfter [] 0 bytes

/-- The bytes of a text. -/
def utf8Bytes (characters : List Char) : List UInt8 :=
  characters.flatMap String.utf8EncodeChar

/-- A code of a character, or a surrogate. -/
abbrev CodePoint := Fin 0x110000

/-- Whether a code point is a surrogate, for which there is no character. -/
def isSurrogate (code : CodePoint) : Bool :=
  0xd800 ≤ code.val && code.val ≤ 0xdfff

/-- Where code points cannot be encoded. -/
structure EncodingError where
  /-- The surrogates that stand there one after another. -/
  surrogates : List CodePoint
  /-- How many code points come before them. -/
  position : Nat
deriving DecidableEq, Repr

/-- The wording for code points that cannot be encoded. -/
def EncodingError.message (error : EncodingError) : String :=
  let place :=
    match error.surrogates with
    | [code] =>
        "character '\\u" ++ String.ofList (hexadecimal 4 code.val) ++ "' in position " ++
          decimalString error.position
    | surrogates =>
        "characters in position " ++ decimalString error.position ++ "-" ++
          decimalString (error.position + surrogates.length - 1 : Nat)
  "'utf-8' codec can't encode " ++ place ++ ": surrogates not allowed"

/-- The bytes of a text that is given by code points, none of which may be a surrogate. -/
def utf8Encoded (text : List CodePoint) : Except EncodingError (List UInt8) :=
  if text.any isSurrogate then
    let before := text.takeWhile fun code => !isSurrogate code
    .error ⟨(text.drop before.length).takeWhile isSurrogate, before.length⟩
  else .ok (utf8Bytes (text.map fun code => Char.ofNat code.val))

/-- The text that has a character for each byte. -/
def latinText (bytes : List UInt8) : List Char :=
  bytes.map fun byte => Char.ofNat byte.toNat

/-- The mark that may stand before a UTF-8 text. -/
def byteOrderMark : List UInt8 := [0xef, 0xbb, 0xbf]

/-- The text of bytes that may begin with a byte order mark, which is left out. Bytes that
are cut off within the mark are an empty text. -/
def markedUtf8Text (bytes : List UInt8) : Except DecodingError (List Char) :=
  if bytes.length < byteOrderMark.length && bytes.isPrefixOf byteOrderMark then .ok []
  else if byteOrderMark.isPrefixOf bytes then
    utf8Text (bytes.drop byteOrderMark.length)
  else utf8Text bytes

/-- The text of `done`, read backwards, and then the given text with uniform line ends. -/
def uniformLineEndsAfter (done : List Char) : List Char → List Char
  | [] => done.reverse
  | '\r' :: '\n' :: rest => uniformLineEndsAfter ('\n' :: done) rest
  | '\r' :: rest => uniformLineEndsAfter ('\n' :: done) rest
  | character :: rest => uniformLineEndsAfter (character :: done) rest

/-- A text with each carriage return, and each pair of carriage return and line feed, made
a line feed. -/
def uniformLineEnds (characters : List Char) : List Char :=
  uniformLineEndsAfter [] characters

/-- The text of a file in an unknown encoding: UTF-8 or, if it is not that, one character
for each byte. -/
def fileText (bytes : List UInt8) : List Char :=
  uniformLineEnds <|
    match markedUtf8Text bytes with
    | .ok characters => characters
    | .error _ => latinText bytes

end ModMerge.Text
