import DriverDesk.Calibrated.DigitalGauge
import DriverDesk.Calibrated.DigitalNumber
import DriverDesk.Calibrated.Header
import DriverDesk.Calibrated.LinearGauge
import DriverDesk.Calibrated.Needle
import DriverDesk.Calibrated.PilotLamp
import DriverDesk.Calibrated.Timetable
import DriverDesk.Framed.BrakeIndicator
import DriverDesk.Framed.DigitalIndicator
import DriverDesk.Framed.Header
import DriverDesk.Framed.PilotLamp
import DriverDesk.Framed.PressureGauge
import DriverDesk.Framed.Speedometer
import DriverDesk.Framed.Watch
import DriverDesk.Geometry.Camera
import DriverDesk.PanelFile.Format

/-!
# Plans

The headers of a panel are read before anything is built. They give the camera
and say how each section is to be built; this is the plan of the panel.
-/

namespace DriverDesk

/-- The camera of a panel, and the builder of each section. -/
structure Plan (K σ : Type) where
  camera : Camera K
  parts : List (Section × Build K σ (List (Step K)))

/-- Read the settings of a section and build it. -/
def buildWith {K σ : Type} (α : Type) [Readable α]
    (build : α → Section → Build K σ (List (Step K))) (s : Section) :
    Build K σ (List (Step K)) := do
  let settings ← Build.settings α s
  build settings s

namespace Calibrated

variable {K σ : Type} [Arith K]

/-- Read the `[This]` sections, each beside its section. -/
def readHeaders : List Section → Build K σ (List (Section × Option (Header K)))
  | [] => pure []
  | s :: rest => do
    let header? ←
      if s.lowerName = "this" then some <$> Build.settings (Header K) s else pure none
    let others ← readHeaders rest
    pure ((s, header?) :: others)

/-- The calibration after all headers. -/
def calibrate (headers : List (Header K)) : Calibration K :=
  headers.foldl (fun c h => h.apply c) .standard

/-- Build an instrument, by the name of its section. -/
def instrument (space : Space K) (s : Section) : Build K σ (List (Step K)) :=
  match s.lowerName with
  | "pilotlamp" => buildWith (PilotLamp K) (fun x s => x.build s space) s
  | "needle" => buildWith (Needle K) (fun x s => x.build s space) s
  | "lineargauge" => buildWith (LinearGauge K) (fun x s => x.build s space) s
  | "digitalnumber" => buildWith (DigitalNumber K) (fun x s => x.build s space) s
  | "digitalgauge" => buildWith (DigitalGauge K) (fun x s => x.build s space) s
  | "timetable" => buildWith (Timetable K) (fun x s => x.build s space) s
  | _ => pure []

/-- Build a section: the background for a header, an instrument for any other. -/
def part (space : Space K) (key : Rgb) (s : Section) : Option (Header K) →
    Build K σ (List (Step K))
  | some h => h.build s space key
  | none => instrument space s

/-- The plan of a calibrated panel. -/
def plan (sections : List Section) : Build K σ (Plan K σ) := do
  let options := (← read).options
  let headed ← readHeaders sections
  let calibration := calibrate (headed.filterMap (·.2))
  let space := calibration.space options.viewport options.driver
  pure ⟨.ofCalibration calibration options.viewport,
    headed.map fun p => (p.1, part space calibration.key p.1 p.2)⟩

end Calibrated

namespace Framed

variable {K σ : Type} [Arith K]

/-- What a section is to the frame. -/
inductive Heading (K : Type) where
  | background (b : Background)
  | view (v : View K)
  | instrument

def isPanel (name : String) : Bool := name == "panel" || name == "パネル"

def isView (name : String) : Bool := name == "view" || name == "視点"

/-- Read the `[Panel]` and `[View]` sections, each beside its section. -/
def readHeadings : List Section → Build K σ (List (Section × Heading K))
  | [] => pure []
  | s :: rest => do
    let heading ←
      if isPanel s.lowerName then .background <$> Build.settings Background s
      else if isView s.lowerName then .view <$> Build.settings (View K) s
      else pure .instrument
    let others ← readHeadings rest
    pure ((s, heading) :: others)

/-- The tangents of the direction after all views. -/
def direction (headings : List (Heading K)) : Point K :=
  headings.foldl (fun d h => match h with
    | .view v => d.overlay (v.yaw?, v.pitch?)
    | _ => d) .zero

/-- The last background of the headings. -/
def lastBackground? (headings : List (Heading K)) : Option Background :=
  headings.foldl (fun b? h => match h with
    | .background b => some b
    | _ => b?) none

/-- The frame over the background of the last `[Panel]`, if that has a size. -/
def fitted (headings : List (Heading K)) : Build K σ (Frame K) := do
  let env ← read
  let frame := Frame.centered env.options.viewport env.options.driver
  match (lastBackground? headings).bind (·.path? env.read) with
  | none => pure frame
  | some path =>
    match env.store.imageSize? (← get).textures path with
    | none => pure frame
    | some size => pure (frame.withBackground (Arith.ofInt size.height))

/-- Build an instrument, by the name of its section. -/
def instrument (space : Space K) (s : Section) : Build K σ (List (Step K)) :=
  match s.lowerName with
  | "pressuregauge" | "pressuremeter" | "pressureindicator" | "圧力計" =>
    buildWith (PressureGauge K) (fun x s => x.build s space) s
  | "speedometer" | "speedindicator" | "速度計" =>
    buildWith (Speedometer K) (fun x s => x.build s space) s
  | "digitalindicator" | "デジタル速度計" =>
    buildWith (DigitalIndicator K) (fun x s => x.build s space) s
  | "pilotlamp" | "知らせ灯" => buildWith (PilotLamp K) (fun x s => x.build s space) s
  | "watch" | "時計" => buildWith (Watch K) (fun x s => x.build s space) s
  | "brakeindicator" | "ブレーキ表示灯" =>
    buildWith (BrakeIndicator K) (fun x s => x.build s space) s
  | _ => pure []

/-- Build a section: a background, nothing for a view, or an instrument. -/
def part (space : Space K) (frame : Frame K) (s : Section) : Heading K →
    Build K σ (List (Step K))
  | .background b => b.build s space frame
  | .view _ => pure []
  | .instrument => instrument space s

/-- The plan of a framed panel. -/
def plan (sections : List Section) : Build K σ (Plan K σ) := do
  let options := (← read).options
  let headed ← readHeadings sections
  let headings := headed.map (·.2)
  let frame ← fitted headings
  let space := frame.space options.driver
  let d := direction headings
  pure ⟨.ofFrame frame d.x d.y, headed.map fun p => (p.1, part space frame p.1 p.2)⟩

end Framed

/-- The plan of a panel in a format. -/
def Plan.make {K σ : Type} [Arith K] : PanelFormat → List Section → Build K σ (Plan K σ)
  | .calibrated => Calibrated.plan
  | .framed => Framed.plan

end DriverDesk
