/-!
# Bytes as text

Content is bytes, and a reader of text asks for the characters that the bytes encode. `decode?`
insists on valid UTF-8; `decodeLossy` puts a replacement character for each longest piece of the
bytes that begins a character and cannot be continued.
-/

namespace DownloadSite.Text

def decode? (bytes : ByteArray) : Option String := String.fromUTF8? bytes

def encode (s : String) : ByteArray := s.toUTF8

/-! ### Reading past errors -/

def replacement : Char := '\ufffd'

/-- The bytes that may follow a first byte, as one range for each further byte of the character. A
byte that begins no character of several bytes has none. -/
def continuationRanges (lead : UInt8) : List (UInt8 × UInt8) :=
  if 0xc2 ≤ lead ∧ lead ≤ 0xdf then [(0x80, 0xbf)]
  else if lead = 0xe0 then [(0xa0, 0xbf), (0x80, 0xbf)]
  else if lead = 0xed then [(0x80, 0x9f), (0x80, 0xbf)]
  else if 0xe1 ≤ lead ∧ lead ≤ 0xef then [(0x80, 0xbf), (0x80, 0xbf)]
  else if lead = 0xf0 then [(0x90, 0xbf), (0x80, 0xbf), (0x80, 0xbf)]
  else if 0xf1 ≤ lead ∧ lead ≤ 0xf3 then [(0x80, 0xbf), (0x80, 0xbf), (0x80, 0xbf)]
  else if lead = 0xf4 then [(0x80, 0x8f), (0x80, 0xbf), (0x80, 0xbf)]
  else []

/-- The bits that a first byte adds to the code point. -/
def leadBits (lead : UInt8) : Nat :=
  if lead < 0xe0 then lead.toNat % 32 else if lead < 0xf0 then lead.toNat % 16 else lead.toNat % 8

/-- Where the reading of bytes stands: at the beginning of a character, or inside one whose further
bytes are still to come. -/
inductive Utf8State where
  | start
  | inside (codePoint : Nat) (expected : List (UInt8 × UInt8))

def Utf8State.begin (byte : UInt8) : List Char × Utf8State :=
  if byte < 0x80 then ([Char.ofNat byte.toNat], .start)
  else
    match continuationRanges byte with
    | [] => ([replacement], .start)
    | ranges => ([], .inside (leadBits byte) ranges)

/-- Reads one byte: the characters that are now certain, and where the reading stands. -/
def Utf8State.step (state : Utf8State) (byte : UInt8) : List Char × Utf8State :=
  match state with
  | .start => Utf8State.begin byte
  | .inside _ [] => Utf8State.begin byte
  | .inside codePoint ((low, high) :: rest) =>
    if low ≤ byte ∧ byte ≤ high then
      let codePoint := codePoint * 64 + byte.toNat % 64
      match rest with
      | [] => ([Char.ofNat codePoint], .start)
      | _ => ([], .inside codePoint rest)
    else
      let next := Utf8State.begin byte
      (replacement :: next.1, next.2)

def decodeLossyFrom (state : Utf8State) : List UInt8 → List Char
  | [] =>
    match state with
    | .start => []
    | .inside .. => [replacement]
  | byte :: rest =>
    let next := state.step byte
    next.1 ++ decodeLossyFrom next.2 rest

/-- The characters that the bytes encode, with replacements where they encode none. -/
def decodeLossy (bytes : ByteArray) : String := String.ofList (decodeLossyFrom .start bytes.toList)

end DownloadSite.Text
