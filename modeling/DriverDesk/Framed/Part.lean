import DriverDesk.Build.Basic
import DriverDesk.Expr.AngleMap

/-!
# Parts of dials

What the dials of framed panels are made of: images around a centre, hands from
the stock of images, and discs of lamps.
-/

namespace DriverDesk.Framed

variable {K σ : Type} [Arith K]

/-- How every image of a panel is registered, the stock images apart. -/
def keyedImage : TextureParams := TextureParams.keyed Rgb.blue

/-- The material of an image of a panel. -/
def keyedMaterial (texture : TextureId) : Material :=
  (Material.plain (some texture) none Rgba.white).keyed Rgb.blue

/-- An image in its own size around a centre. -/
def centeredImage (s : Section) (space : Space K) (kind : ElementKind) (path : Path)
    (center : Point K) (depth : K) : Build K σ (Option (Step K)) := do
  let some (texture, size) ← Build.texture s path keyedImage | pure none
  let rect : Rect K :=
    ⟨center.x - 0.5 * size.x, center.y - 0.5 * size.y, size.x, size.y⟩
  let state ← Build.quadState s space rect (.both 0.5) depth (keyedMaterial texture)
  pure (some (.element (.single kind state)))

/-- An image that need not be asked for. -/
def optionalImage (s : Section) (space : Space K) (kind : ElementKind) (path? : Option Path)
    (center : Point K) (depth : K) : Build K σ (List (Step K)) := do
  match path? with
  | none => pure []
  | some path => pure (← centeredImage s space kind path center depth).toList

/-- The rectangle of a hand: as high as its dial and as wide as its image asks. -/
def handRect (center : Point K) (radius : K) (size : Point K) : Rect K :=
  let aspect := if size.y == 0.0 then 1.0 else size.x / size.y
  ⟨center.x - radius * aspect, center.y - radius, 2.0 * radius * aspect, 2.0 * radius⟩

/-- A hand with a stock image. -/
def hand (s : Section) (space : Space K) (kind : ElementKind) (image : String)
    (center : Point K) (radius depth : K) (tint : Rgba) (function : Expr K) :
    Build K σ (List (Step K)) := do
  let some path ← Build.stockImage s image | pure []
  let some (texture, size) ← Build.texture s path TextureParams.plain | pure []
  let state ← Build.quadState s space (handRect center radius size) (.both 0.5) depth
    (.plain (some texture) none tint)
  pure [.element ((Element.single kind state).moving (.turning (.free function)))]

/-- A disc of lamps. -/
def lamps (space : Space K) (kind : ElementKind) (center : Point K) (radius depth : K)
    (tint : Rgba) (initial last : K) (function : Expr K) : Step K :=
  let quad := space.quad (.around center radius) (.both 0.5) depth
  let state : ElementState K := ⟨quad.offset, .sweepFan (.plain none none tint)⟩
  .element ((Element.single kind state).moving (.sweeping (.over quad initial last function)))

/-- The first and the last angle of a dial that leaves out `gap` on each side of
its lowest point, for a needle or for lamps. -/
def dialAngles (usesLamps : Bool) (gap : K) : K × K :=
  if usesLamps then (gap, 2.0 * Arith.pi - gap) else (gap - Arith.pi, Arith.pi - gap)

end DriverDesk.Framed
