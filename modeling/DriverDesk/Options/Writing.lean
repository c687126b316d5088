import DriverDesk.Json.Writer
import DriverDesk.Options

/-!
# Writing options

Options as JSON, in the form they are read in.
-/

namespace DriverDesk.Options

def viewportJson (v : Viewport Float) : Json :=
  .obj [("aspect_ratio", .real v.aspect), ("horizontal_half_fov", .real v.horizontalHalf),
    ("vertical_half_fov", .real v.verticalHalf)]

def brakeJson : BrakeHandle → Json
  | .automaticAir => .obj [("type", .str "automatic_air")]
  | .notched n hold =>
    .obj [("type", .str "notched"), ("max_notch", .ofNat n), ("hold_brake", .bool hold)]

/-- The JSON value of options. -/
def toJson (o : Options Float) : Json :=
  .obj [("viewport", viewportJson o.viewport),
    ("driver", .arr [.real o.driver.x, .real o.driver.y, .real o.driver.z]),
    ("car", .ofNat o.car),
    ("train", .obj [("cars", .ofNat o.cars), ("brake", brakeJson o.brake)]),
    ("compatibility_folder", .str o.stockFolder.text),
    ("encoding", .str o.encoding.name)]

/-- The text that options are saved as. -/
def text (o : Options Float) : String := o.toJson.pretty

end DriverDesk.Options
