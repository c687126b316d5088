import DriverDesk.Build.Basic
import DriverDesk.Expr.AngleMap
import DriverDesk.PanelFile.Setting

/-!
# Digital gauges

`[DigitalGauge]`: a disc that is filled by a sweep as its subject grows, in steps
if the section asks for them.
-/

namespace DriverDesk.Calibrated

structure DigitalGauge (K : Type) where
  subject : SubjectSetting
  location : Point K
  radius : K
  tint : Rgba
  initialAngle : K
  lastAngle : K
  minimum : K
  maximum : K
  step : K
  layer : Int

namespace DigitalGauge

variable {K σ : Type} [Arith K]

def fields : List (Field (DigitalGauge K)) :=
  [.subject fun x g => { g with subject := x },
   .pair ["location"] fun p g => { g with location := g.location.overlay p },
   .number ["radius"] fun x g => { g with radius := x },
   .tint fun c g => { g with tint := c },
   .angle ["initialangle"] fun a g => { g with initialAngle := a },
   .angle ["lastangle"] fun a g => { g with lastAngle := a },
   .number ["minimum"] fun x g => { g with minimum := x },
   .number ["maximum"] fun x g => { g with maximum := x },
   .number ["step"] fun x g => { g with step := x },
   .layer fun i g => { g with layer := i }]

instance : Readable (DigitalGauge K) where
  fields := fields
  initial :=
    { subject := .standard
      location := .zero
      radius := 0.0
      tint := Rgba.black
      initialAngle := Arith.radians (-120.0)
      lastAngle := Arith.radians 120.0
      minimum := 0.0
      maximum := 1000.0
      step := 0.0
      layer := 0 }

/-- The angles of the value range; a sweep counts them from below. -/
def angles (g : DigitalGauge K) : AngleMap K :=
  ⟨g.initialAngle + Arith.pi, g.lastAngle + Arith.pi, g.minimum, g.maximum⟩

def build (g : DigitalGauge K) (s : Section) (space : Space K) : Build K σ (List (Step K)) := do
  if g.radius == 0.0 then
    Build.giveUp s "Radius is required to be non-zero"
  else if g.minimum == g.maximum then
    Build.giveUp s "Minimum and Maximum must not be equal"
  else
    if 2.0 * Arith.pi < Arith.abs (g.lastAngle - g.initialAngle) then
      Build.warn s "The angle range is larger than a full turn"
    let quad := space.quad (.around g.location g.radius) (.both 0.5) (Build.depthOf g.layer)
    let state : ElementState K := ⟨quad.offset, .sweepFan (.plain none none g.tint)⟩
    let subject ← Build.subject s g.subject.name g.subject.line?
    let function := g.angles.expression (subject ++ quantize g.step)
    let motion := Motion.sweeping (.over quad g.angles.initial g.angles.last function)
    pure [.element ((Element.single .digitalGauge state).moving motion)]

end DigitalGauge

end DriverDesk.Calibrated
