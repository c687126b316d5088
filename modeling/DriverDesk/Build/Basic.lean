import DriverDesk.Element.Cars
import DriverDesk.Expr.Subject
import DriverDesk.Options
import DriverDesk.PanelFile.Field
import DriverDesk.Sheet

/-!
# Building elements

The common ground of all instruments. A builder works on a bench: it registers
textures with a store, and leaves diagnostics and the list of its registrations
behind. What it builds are steps for the car.
-/

namespace DriverDesk

/-- What the builders of one compile know. -/
structure BuildEnv (K σ : Type) where
  read : ReadEnv
  store : TextureStore σ
  options : Options K

/-- One request to the texture store, and its answer. -/
structure Registration where
  path : Path
  params : TextureParams
  id? : Option TextureId
  deriving DecidableEq, Repr

/-- What the builders of one compile change. -/
structure Bench (σ : Type) where
  textures : σ
  registrations : List Registration
  diagnostics : List Diagnostic

/-- Work on a bench. -/
abbrev Build (K σ : Type) := ReaderT (BuildEnv K σ) (StateM (Bench σ))

namespace Build

variable {K σ : Type} [Arith K]

/-- Report what a reader noted, and take its value. -/
def take {α : Type} (x : Noted α) : Build K σ α := fun _ b =>
  (x.value, { b with diagnostics := b.diagnostics ++ x.notes })

def report (d : Diagnostic) : Build K σ Unit := take (Noted.report d)

/-- Read the settings of a section. -/
def settings (α : Type) [Readable α] (s : Section) : Build K σ α := do
  take (s.read (← read).read)

/-- Report an error at the header of a section. -/
def complain (s : Section) (message : String) : Build K σ Unit := do
  report (.ofKind .element message ((← read).read.headerOf s))

/-- Report a warning at the header of a section. -/
def warn (s : Section) (message : String) : Build K σ Unit := do
  report (Diagnostic.ofKind .element message ((← read).read.headerOf s)).asWarning

/-- Report an error at the header of a section, and build nothing. -/
def giveUp {α : Type} (s : Section) (message : String) : Build K σ (List α) := do
  complain s message
  pure []

/-- The expression of a subject. An unknown one is reported at the record that
gave it, or at the header if none did. -/
def subject (s : Section) (name : String) (line? : Option Nat) : Build K σ (Expr K) := do
  let env ← read
  let location : Location :=
    { env.read.headerOf s with key? := some "Subject", line? := some (line?.getD s.line) }
  take (Subject.expression env.options.cars name location)

/-- A pixel size as lengths. -/
def lengths (size : PixelSize) : Point K := ⟨Arith.ofInt size.width, Arith.ofInt size.height⟩

/-- Ask the store for a texture. -/
def register (path : Path) (params : TextureParams) : Build K σ (Option TextureId) := fun env b =>
  let (id?, textures) := env.store.register b.textures path params
  (id?, { b with textures, registrations := b.registrations ++ [⟨path, params, id?⟩] })

/-- Register a texture, and its size. A texture that cannot be had, or has no
size, is an error of the section. -/
def texture (s : Section) (path : Path) (params : TextureParams) :
    Build K σ (Option (TextureId × Point K)) := do
  let found ← do
    match ← register path params with
    | none => pure none
    | some id =>
      let size? := (← read).store.size? (← get).textures id
      pure (size?.map fun size => (id, lengths size))
  if found.isNone then complain s ("Texture " ++ path.text ++ " could not be loaded")
  pure found

/-- Register a texture that need not be there. -/
def optionalTexture (s : Section) (path? : Option Path) (params : TextureParams) :
    Build K σ (Option TextureId) := do
  match path? with
  | none => pure none
  | some path => pure ((← texture s path params).map (·.1))

/-- The size of an image that is not registered yet. -/
def imageSize (s : Section) (path : Path) : Build K σ (Option (Point K)) := do
  let size? := (← read).store.imageSize? (← get).textures path
  if size?.isNone then complain s ("Image " ++ path.text ++ " could not be read")
  pure (size?.map lengths)

/-- A stock image. A missing one is a critical error of the section. -/
def stockImage (s : Section) (image : String) : Build K σ (Option Path) := do
  let env := (← read).read
  let path := env.files.stockImage image
  if env.files.isFile path then pure (some path)
  else
    report (.ofKind .resource ("Compatibility file " ++ path.text ++ " could not be found")
      (env.headerOf s))
    pure none

/-- A rectangle of the panel as a state. One without area is built, with a warning. -/
def quadState (s : Section) (space : Space K) (rect : Rect K) (pivot : Point K) (depth : K)
    (m : Material) : Build K σ (ElementState K) := do
  if rect.isDegenerate then warn s "The element has zero width or height"
  let quad := space.quad rect pivot depth
  pure ⟨quad.offset, .ofQuad quad m⟩

/-- The depth of a layer. -/
def depthOf (layer : Int) : K := Arith.ofInt layer * layerStep

/-- Build the frames of a strip from `index` on, until one cannot be built. The
first frame opens an element and the others are its further states. -/
def strip (frame : Nat → Build K σ (Option (ElementState K))) (first : ElementState K → Element K) :
    Nat → Nat → Build K σ (List (Step K))
  | 0, _ => pure []
  | left + 1, index => do
    match ← frame index with
    | none => pure []
    | some state =>
      let step := if index = 0 then Step.element (first state) else Step.state state
      let steps ← strip frame first left (index + 1)
      pure (step :: steps)

end Build

end DriverDesk
