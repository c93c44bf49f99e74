import StreamTemplate.Text.Quoted

/-!
# Text encodings

Four encodings of text as bytes, and how each of them fails. A decoder reports the bytes it cannot
read and an encoder the run of characters it cannot write, both by position.
-/

namespace StreamTemplate.Text

/-- An encoding of text as bytes. -/
inductive Encoding where
  | utf8
  | latin1
  | ascii
  | utf16le
  deriving DecidableEq, Repr

/-- Why text could not be coded. -/
inductive CodecError where
  /-- No encoding has that name. -/
  | unknownEncoding (name : String)
  /-- The bytes from `start` up to `stop`, the first of them `byte`, are no text. -/
  | undecodable (encoding : Encoding) (byte : UInt8) (start stop : Nat) (reason : String)
  /-- The characters from `start` up to `stop`, the first of them `char`, have no bytes. -/
  | unencodable (encoding : Encoding) (char : Char) (start stop : Nat) (reason : String)
  deriving Repr

namespace Encoding

/-- The name under which an encoding reports its errors. -/
def name : Encoding → String
  | utf8 => "utf-8"
  | latin1 => "latin-1"
  | ascii => "ascii"
  | utf16le => "utf-16-le"

/-- The encoding of a given name; case does not matter, nor which of space, hyphen and underscore
is written. -/
def ofName? (name : String) : Option Encoding :=
  let key := String.ofList (name.toList.map fun c =>
    if c == '_' || c == ' ' then '-' else c.toLower)
  if key ∈ ["utf-8", "utf8", "u8", "utf"] then some utf8
  else if key ∈
      ["latin-1", "latin1", "latin", "iso-8859-1", "iso8859-1", "8859", "cp819", "l1"] then
    some latin1
  else if key ∈ ["ascii", "us-ascii", "646"] then some ascii
  else if key ∈ ["utf-16-le", "utf-16le", "utf16-le", "utf16le"] then some utf16le
  else none

end Encoding

/-- The bytes from position `start` up to `stop` are no text. -/
def undecodable (encoding : Encoding) (byte : UInt8) (start stop : Nat) (reason : String) :
    Except CodecError (List Char) :=
  .error (.undecodable encoding byte start stop reason)

/-! ### UTF-8 -/

/-- The bytes of a character in UTF-8. -/
def utf8Char (c : Char) : List UInt8 :=
  let n := c.toNat
  if n < 0x80 then [n.toUInt8]
  else if n < 0x800 then [(0xC0 + n / 0x40).toUInt8, (0x80 + n % 0x40).toUInt8]
  else if n < 0x10000 then
    [(0xE0 + n / 0x1000).toUInt8, (0x80 + n / 0x40 % 0x40).toUInt8, (0x80 + n % 0x40).toUInt8]
  else
    [(0xF0 + n / 0x40000).toUInt8, (0x80 + n / 0x1000 % 0x40).toUInt8,
      (0x80 + n / 0x40 % 0x40).toUInt8, (0x80 + n % 0x40).toUInt8]

/-- What the first byte of a character in UTF-8 says: the number of bytes that follow it, the
range of the first of these, and the bits of the code point that it holds. -/
def utf8Head? (b : Nat) : Option (Nat × Nat × Nat × Nat) :=
  if b < 0x80 then some (0, 0, 0, b)
  else if b < 0xC2 then none
  else if b < 0xE0 then some (1, 0x80, 0xBF, b - 0xC0)
  else if b < 0xF0 then
    some (2, if b = 0xE0 then 0xA0 else 0x80, if b = 0xED then 0x9F else 0xBF, b - 0xE0)
  else if b < 0xF5 then
    some (3, if b = 0xF0 then 0x90 else 0x80, if b = 0xF4 then 0x8F else 0xBF, b - 0xF0)
  else none

/-- Reads `count` continuation bytes, the first of them between `lo` and `hi`, into the code point
begun by `acc`. A failure tells how many bytes were good and whether one was bad. -/
def utf8Tail (count lo hi acc : Nat) (good : Nat) : List UInt8 → Except (Nat × Bool) Nat
  | [] => if count = 0 then .ok acc else .error (good, false)
  | b :: rest =>
    match count with
    | 0 => .ok acc
    | count + 1 =>
      if lo ≤ b.toNat && b.toNat ≤ hi then
        utf8Tail count 0x80 0xBF (acc * 0x40 + (b.toNat - 0x80)) (good + 1) rest
      else .error (good, true)

/-- The text written in UTF-8 from position `pos` on, after `skip` bytes that belong to a character
already read. -/
def decodeUtf8 (pos skip : Nat) : List UInt8 → Except CodecError (List Char)
  | [] => .ok []
  | b :: rest =>
    match skip with
    | skip + 1 => decodeUtf8 (pos + 1) skip rest
    | 0 =>
      match utf8Head? b.toNat with
      | none => undecodable .utf8 b pos (pos + 1) "invalid start byte"
      | some (count, lo, hi, bits) =>
        match utf8Tail count lo hi bits 1 rest with
        | .error (good, true) => undecodable .utf8 b pos (pos + good) "invalid continuation byte"
        | .error (_, false) =>
          undecodable .utf8 b pos (pos + 1 + rest.length) "unexpected end of data"
        | .ok n => (Char.ofNat n :: ·) <$> decodeUtf8 (pos + 1) count rest

/-! ### UTF-16, low byte first -/

/-- The two bytes of a code unit. -/
def utf16Unit (n : Nat) : List UInt8 :=
  [(n % 0x100).toUInt8, (n / 0x100).toUInt8]

/-- The bytes of a character in UTF-16. -/
def utf16Char (c : Char) : List UInt8 :=
  let n := c.toNat
  if n < 0x10000 then utf16Unit n
  else utf16Unit (0xD800 + (n - 0x10000) / 0x400) ++ utf16Unit (0xDC00 + (n - 0x10000) % 0x400)

/-- The text written in UTF-16 from position `pos` on. -/
def decodeUtf16 (pos : Nat) : List UInt8 → Except CodecError (List Char)
  | [] => .ok []
  | [b] => undecodable .utf16le b pos (pos + 1) "truncated data"
  | b₀ :: b₁ :: rest =>
    let unit := b₀.toNat + b₁.toNat * 0x100
    if unit < 0xD800 || 0xE000 ≤ unit then
      (Char.ofNat unit :: ·) <$> decodeUtf16 (pos + 2) rest
    else if 0xDC00 ≤ unit then undecodable .utf16le b₀ pos (pos + 2) "illegal encoding"
    else
      match rest with
      | b₂ :: b₃ :: rest' =>
        let low := b₂.toNat + b₃.toNat * 0x100
        if 0xDC00 ≤ low && low < 0xE000 then
          (Char.ofNat (0x10000 + (unit - 0xD800) * 0x400 + (low - 0xDC00)) :: ·) <$>
            decodeUtf16 (pos + 4) rest'
        else undecodable .utf16le b₀ pos (pos + 2) "illegal UTF-16 surrogate"
      | few => undecodable .utf16le b₀ pos (pos + 2 + few.length) "unexpected end of data"

/-! ### One byte a character -/

/-- The text whose characters are the bytes, as far as they stay below `limit`. -/
def decodeBytewise (encoding : Encoding) (limit pos : Nat) :
    List UInt8 → Except CodecError (List Char)
  | [] => .ok []
  | b :: rest =>
    if b.toNat < limit then
      (Char.ofNat b.toNat :: ·) <$> decodeBytewise encoding limit (pos + 1) rest
    else undecodable encoding b pos (pos + 1) s!"ordinal not in range({limit})"

/-- The characters as one byte each, as far as they stay below `limit`. -/
def encodeBytewise (encoding : Encoding) (limit pos : Nat) :
    List Char → Except CodecError (List UInt8)
  | [] => .ok []
  | c :: rest =>
    if c.toNat < limit then (c.toNat.toUInt8 :: ·) <$> encodeBytewise encoding limit (pos + 1) rest
    else
      let run := 1 + (rest.takeWhile fun d => limit ≤ d.toNat).length
      .error (.unencodable encoding c pos (pos + run) s!"ordinal not in range({limit})")

namespace Encoding

/-- The text that the bytes stand for. -/
def decode (encoding : Encoding) (bytes : List UInt8) : Except CodecError String :=
  String.ofList <$> match encoding with
    | utf8 => decodeUtf8 0 0 bytes
    | utf16le => decodeUtf16 0 bytes
    | latin1 => decodeBytewise latin1 256 0 bytes
    | ascii => decodeBytewise ascii 128 0 bytes

/-- The bytes that stand for the text. -/
def encode (encoding : Encoding) (s : String) : Except CodecError (List UInt8) :=
  match encoding with
  | utf8 => .ok (s.toList.flatMap utf8Char)
  | utf16le => .ok (s.toList.flatMap utf16Char)
  | latin1 => encodeBytewise latin1 256 0 s.toList
  | ascii => encodeBytewise ascii 128 0 s.toList

end Encoding

/-- Decodes with the encoding of that name; no bytes are no text in any encoding, so the name is
looked up only when there are some. -/
def decodeNamed (name : String) (bytes : List UInt8) : Except CodecError String :=
  if bytes.isEmpty then .ok ""
  else match Encoding.ofName? name with
    | some encoding => encoding.decode bytes
    | none => .error (.unknownEncoding name)

/-- Encodes with the encoding of that name. -/
def encodeNamed (name : String) (s : String) : Except CodecError (List UInt8) :=
  match Encoding.ofName? name with
  | some encoding => encoding.encode s
  | none => .error (.unknownEncoding name)

/-- The wording of a coding error. One byte or character is named, several are counted. -/
def CodecError.message : CodecError → String
  | unknownEncoding name => s!"unknown encoding: {name}"
  | undecodable encoding byte start stop reason =>
    if stop = start + 1 then
      let digits := String.ofList (hexDigits 2 byte.toNat)
      s!"'{encoding.name}' codec can't decode byte 0x{digits} in position {start}: {reason}"
    else
      let last := stop - 1
      s!"'{encoding.name}' codec can't decode bytes in position {start}-{last}: {reason}"
  | unencodable encoding char start stop reason =>
    if stop = start + 1 then
      let shown := String.ofList (codeEscape char.toNat)
      s!"'{encoding.name}' codec can't encode character '{shown}' in position {start}: {reason}"
    else
      let last := stop - 1
      s!"'{encoding.name}' codec can't encode characters in position {start}-{last}: {reason}"

end StreamTemplate.Text
