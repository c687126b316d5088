import DriverDesk.Framed.Part
import DriverDesk.Framed.Setting

/-!
# Pressure gauges

A dial with up to two needles, or two colours of lamps, that follow pressures.
-/

namespace DriverDesk.Framed

/-- A pressure of the train. -/
inductive Pressure where
  | brakeCylinder
  | straightAirPipe
  | brakePipe
  | equalizingReservoir
  | mainReservoir
  deriving DecidableEq, Repr

namespace Pressure

def ofName? (s : String) : Option Pressure :=
  match Text.asciiLower (String.ofList (Text.trim s.toList)) with
  | "bc" | "ブレーキシリンダ" => some brakeCylinder
  | "sap" | "直通管" => some straightAirPipe
  | "bp" | "ブレーキ管" | "制動管" => some brakePipe
  | "er" | "釣り合い空気溜め" | "つりあい空気溜め" => some equalizingReservoir
  | "mr" | "元空気溜め" => some mainReservoir
  | _ => none

/-- The variable that holds it, in pascal. -/
def name : Pressure → String
  | brakeCylinder => "brakecylinder"
  | straightAirPipe => "straightairpipe"
  | brakePipe => "brakepipe"
  | equalizingReservoir => "equalizingreservoir"
  | mainReservoir => "mainreservoir"

end Pressure

structure PressureNeedle where
  pressure : Pressure
  tint : Rgba
  deriving DecidableEq, Repr

/-- A pressure, and a tint unless that stays white. -/
def PressureNeedle.read (c : RecordAt) : Noted (Option PressureNeedle) :=
  match Argument.fields c.value with
  | [] => pure none
  | subject :: rest =>
    match Pressure.ofName? subject with
    | none => c.refuse ("Subject " ++ subject ++ " is not supported")
    | some pressure =>
      if rest.isEmpty then pure (some ⟨pressure, Rgba.white⟩)
      else do
        let tint ← tintOf c rest
        pure (tint.map fun t => ⟨pressure, t⟩)

structure PressureGauge (K : Type) where
  usesLamps : Bool
  lower? : Option PressureNeedle
  upper? : Option PressureNeedle
  center : Point K
  radius : K
  background? : Option Path
  cover? : Option Path
  /-- Pascals in the unit of the dial. -/
  unit : K
  minimum : K
  maximum : K
  /-- The angle left out on each side of the lowest point. -/
  gap : K

namespace PressureGauge

variable {K σ : Type} [Arith K]

/-- The units of pressure, in pascal. -/
def units : List (List String × K) :=
  [(["kpa"], 1000.0), (["kgf/cm2", "kgf/cm^2", "kgf/cm²"], 98066.5)]

def fields : List (Field (PressureGauge K)) :=
  [.keeping ["type", "形態"] Framed.usesLamps fun b g => { g with usesLamps := b },
   .keeping ["lowerneedle", "lowerhand", "下針"] PressureNeedle.read
      fun n g => { g with lower? := some n },
   .keeping ["upperneedle", "upperhand", "上針"] PressureNeedle.read
      fun n g => { g with upper? := some n },
   pointField ["center", "中心"] fun p g => { g with center := g.center.overlay p },
   positiveField ["radius", "半径"] fun r g => { g with radius := r },
   .image ["background", "背景"] fun p g => { g with background? := p },
   .image ["cover", "ふた"] fun p g => { g with cover? := p },
   .keeping ["unit", "単位"] (unitOf units) fun u g => { g with unit := u },
   .number ["minimum", "最小"] fun x g => { g with minimum := x },
   .number ["maximum", "最大"] fun x g => { g with maximum := x },
   .angle ["angle", "角度"] fun a g => { g with gap := a }]

instance : Readable (PressureGauge K) where
  fields := fields
  initial :=
    { usesLamps := false
      lower? := none
      upper? := none
      center := .zero
      radius := 16.0
      background? := none
      cover? := none
      unit := 1000.0
      minimum := 0.0
      maximum := 1000.0
      gap := Arith.radians 45.0 }

/-- The angles of the pressures on the dial. -/
def angles (g : PressureGauge K) : AngleMap K :=
  let (initial, last) := dialAngles g.usesLamps g.gap
  ⟨initial, last, g.minimum * g.unit, g.maximum * g.unit⟩

/-- One needle or disc, on the layer of the given number. -/
def pointer (g : PressureGauge K) (s : Section) (space : Space K) (needle? : Option PressureNeedle)
    (image : String) (layer : Int) : Build K σ (List (Step K)) := do
  let some needle := needle? | pure []
  let depth := Build.depthOf layer
  let function := g.angles.expression [.name needle.pressure.name]
  if g.usesLamps then
    pure [lamps space .pressureGauge g.center g.radius depth needle.tint g.angles.initial
      g.angles.last function]
  else
    hand s space .pressureGauge image g.center g.radius depth needle.tint function

def build (g : PressureGauge K) (s : Section) (space : Space K) : Build K σ (List (Step K)) := do
  if g.minimum == g.maximum then
    Build.giveUp s "Minimum and Maximum must not be equal"
  else
    let background ← optionalImage s space .pressureGauge g.background? g.center
      (Build.depthOf 3)
    let lower ← g.pointer s space g.lower? "needle_pressuregauge_lower.png" 4
    let upper ← g.pointer s space g.upper? "needle_pressuregauge_upper.png" 5
    let cover ← optionalImage s space .pressureGauge g.cover? g.center (Build.depthOf 6)
    pure (background ++ lower ++ upper ++ cover)

end PressureGauge

end DriverDesk.Framed
