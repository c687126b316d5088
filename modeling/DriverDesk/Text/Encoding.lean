import DriverDesk.Text.Utf8

/-!
# Text encodings

How the octets of a panel file become text. A leading byte order mark is
dropped whatever the encoding.
-/

namespace DriverDesk.Text

/-- How the octets of a file are read as text. -/
inductive Encoding where
  /-- UTF-8 when the octets are well formed, Latin-1 otherwise. -/
  | auto
  /-- UTF-8, with a replacement character for each ill-formed sequence. -/
  | utf8
  /-- One character for each octet. -/
  | latin1
  deriving DecidableEq, Repr, Inhabited

namespace Encoding

/-- The name an encoding goes by in options. -/
def name : Encoding → String
  | auto => "auto"
  | utf8 => "utf8"
  | latin1 => "latin1"

def ofName? (s : String) : Option Encoding :=
  [auto, utf8, latin1].find? fun e => e.name == s

end Encoding

/-- The octets after a leading UTF-8 byte order mark. -/
def dropMark : List UInt8 → List UInt8
  | 0xEF :: 0xBB :: 0xBF :: r => r
  | bs => bs

def readLatin1 (bs : List UInt8) : List Char := bs.map fun b => Char.ofNat b.toNat

/-- The text of a file's octets. -/
def Encoding.decode (e : Encoding) (octets : List UInt8) : String :=
  let bs := dropMark octets
  String.ofList <| match e with
    | .auto => (Utf8.read? bs).getD (readLatin1 bs)
    | .utf8 => Utf8.readLossy bs
    | .latin1 => readLatin1 bs

end DriverDesk.Text
