import DriverDesk.Arith
import DriverDesk.Color
import DriverDesk.Decimal.Numeral
import DriverDesk.Diagnostic
import DriverDesk.PanelFile.Argument
import DriverDesk.PanelFile.Section
import DriverDesk.Texture

/-!
# Fields

What the records of a section say about the instrument it describes. A kind of
section is a table of fields; a field has keys and turns a record into an update
of the section's settings, together with the diagnostics of its value. A record
whose key is in no field is passed over.
-/

namespace DriverDesk

/-- What reading the sections of one file needs to know. -/
structure ReadEnv where
  /-- The name diagnostics give to the file. -/
  fileName : String
  /-- The folder image references are relative to. -/
  trainFolder : Path
  files : FileView

/-- A record where it stands. -/
structure RecordAt where
  env : ReadEnv
  sectionName : String
  record : Record

/-- One field of a kind of section with settings `α`. -/
structure Field (α : Type) where
  /-- The lowercase keys it goes by. -/
  keys : List String
  read : RecordAt → Noted (α → α)

namespace ReadEnv

/-- The header of a section. -/
def headerOf (env : ReadEnv) (s : Section) : Location :=
  ⟨env.fileName, some s.name, none, some s.line⟩

end ReadEnv

namespace RecordAt

variable {K : Type} [Arith K]

def value (c : RecordAt) : String := c.record.value

def location (c : RecordAt) : Location :=
  ⟨c.env.fileName, some c.sectionName, some c.record.key, some c.record.line⟩

/-- The diagnostic of a value. -/
def complaint (c : RecordAt) (message : String) : Diagnostic := .ofKind .field message c.location

/-- Refuse a value. -/
def refuse {α : Type} (c : RecordAt) (message : String) : Noted (Option α) :=
  Noted.refuse (c.complaint message)

/-- Read a text that may be empty: nothing is said about an empty one, and one
that cannot be read is invalid. -/
def readOr {α : Type} (c : RecordAt) (what : String) (read? : String → Option α)
    (text : String) : Noted (Option α) :=
  if text.isEmpty then pure none
  else match read? text with
    | some a => pure (some a)
    | none => c.refuse (what ++ " is invalid")

/-- A number. -/
def number (c : RecordAt) (what text : String) : Noted (Option K) :=
  c.readOr what (fun t => (Numeral.lenient? t).map Arith.ofDecimal) text

/-- A whole number. -/
def integer (c : RecordAt) (what text : String) : Noted (Option Int) :=
  c.readOr what Numeral.lenientInt? text

/-- An angle in degrees, as radians. -/
def angle (c : RecordAt) : Noted (Option K) := do
  let d ← c.number "ValueInDegrees" c.value
  pure (d.map Arith.radians)

/-- Two texts around a comma, each read by `read`. -/
def pairOf {α : Type} (c : RecordAt) (first second : String)
    (read : String → String → Noted (Option α)) : Noted (Option (Option α × Option α)) :=
  match Argument.pair? c.value with
  | none => c.refuse "Two arguments are expected"
  | some (a, b) => do
    let x ← read first a
    let y ← read second b
    pure (some (x, y))

/-- Two numbers around a comma. -/
def numberPair (c : RecordAt) (first second : String) : Noted (Option (Option K × Option K)) :=
  c.pairOf first second c.number

/-- Two whole numbers around a comma. -/
def integerPair (c : RecordAt) (first second : String) :
    Noted (Option (Option Int × Option Int)) :=
  c.pairOf first second c.integer

/-- A key colour. -/
def rgb (c : RecordAt) : Noted (Option Rgb) := c.readOr "HexColor" Rgb.ofHex? c.value

/-- A tint. -/
def rgba (c : RecordAt) : Noted (Option Rgba) := c.readOr "HexColor" Rgba.ofHex? c.value

/-- Whether a value turns something on. -/
def flag (c : RecordAt) : Bool := Argument.isOn c.value

/-- Characters no image reference may hold. -/
def forbidden : List Char := ['<', '>', '|', '"', '*', '?', '\x00']

/-- An image that exists. A reference without extension means a bitmap; a missing
image is a critical diagnostic. -/
def image (c : RecordAt) : Noted (Option Path) :=
  if c.value.isEmpty then pure none
  else if c.value.toList.any forbidden.contains then
    c.refuse "FileName contains illegal characters"
  else
    let reference := Path.defaultExtension "bmp" ⟨c.value⟩
    let path := c.env.files.resolve c.env.trainFolder reference
    if c.env.files.isFile path then pure (some path)
    else Noted.refuse
      (.ofKind .resource ("FileName " ++ path.text ++ " could not be found") c.location)

end RecordAt

namespace Field

variable {α β : Type}

/-- A field that every record sets, to nothing if need be. -/
def always (keys : List String) (read : RecordAt → Noted β) (put : β → α → α) : Field α :=
  ⟨keys, fun c => do
    let b ← read c
    pure (put b)⟩

/-- A field that keeps what it has when a record has no usable value. -/
def keeping (keys : List String) (read : RecordAt → Noted (Option β)) (put : β → α → α) :
    Field α :=
  ⟨keys, fun c => do
    match ← read c with
    | some b => pure (put b)
    | none => pure id⟩

end Field

/-- The update a record makes, by the first field that has its key. -/
def updateOf {α : Type} (fields : List (Field α)) (c : RecordAt) : Noted (α → α) :=
  match fields.find? fun f => f.keys.contains c.record.lowerKey with
  | some f => f.read c
  | none => pure id

/-- The settings after some records, one after the other. -/
def readRecords {α : Type} (fields : List (Field α)) (env : ReadEnv) (sectionName : String) :
    List Record → α → Noted α
  | [], a => pure a
  | r :: rs, a => do
    let update ← updateOf fields ⟨env, sectionName, r⟩
    readRecords fields env sectionName rs (update a)

/-- A kind of section. -/
class Readable (α : Type) where
  fields : List (Field α)
  /-- The settings of a section without records. -/
  initial : α

/-- The settings a section gives. -/
def Section.read {α : Type} [Readable α] (env : ReadEnv) (s : Section) : Noted α :=
  readRecords Readable.fields env s.name s.records Readable.initial

end DriverDesk
