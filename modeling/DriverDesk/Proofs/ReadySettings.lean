import DriverDesk.Proofs.DefinedSettings
import DriverDesk.Proofs.Findings
import DriverDesk.Proofs.FiniteOperations
import DriverDesk.Proofs.Yields

/-!
# Ready settings

Whatever the records of a section say, its settings are what the builders rely on: their
numbers are finite, those that stand for lengths or springs have the sign they need, and the
images that they name are there.
-/

namespace DriverDesk

open Argument

variable {α β : Type} {env : ReadEnv} {name : String} {rs : List Record} {P : α → Prop}

/-- A field keeps a property if whatever it finds does. -/
theorem Field.keepsIn_of_finds {f : Field α} {find? : ReadEnv → String → Nat → Option β}
    {put : β → α → α} [hf : f.Finds find? put]
    (h : ∀ text line b, find? env text line = some b → ∀ a, P a → P (put b a)) :
    f.KeepsIn env name rs P := by
  intro r _ _ a ha
  rw [hf.value]
  cases hfind : find? env r.value r.line with
  | none => simpa [RecordAt.value, hfind] using ha
  | some b => simpa [RecordAt.value, hfind] using h r.value r.line b hfind a ha

/-- A record of which a field finds the value puts it into the settings. -/
theorem updateOf_of_finds {fields : List (Field α)} {f : Field α}
    {find? : ReadEnv → String → Nat → Option β} {put : β → α → α} [hf : f.Finds find? put]
    {r : Record} {b : β} (hfield : fields.find? (·.keys.contains r.lowerKey) = some f)
    (hfind : find? env r.value r.line = some b) (a : α) :
    (updateOf fields ⟨env, name, r⟩).value a = put b a := by
  unfold updateOf
  rw [hfield]
  dsimp only
  rw [hf.value]
  simp [RecordAt.value, hfind]

/-! ## Numbers and images in records -/

theorem finite_number? {text : String} {x : Float} (h : number? text = some x) : IsFinite x := by
  unfold number? usable? at h
  split at h
  · cases h
  · obtain ⟨d, hd, rfl⟩ := Option.map_eq_some_iff.mp h
    exact Numeral.isFinite_of_lenient? hd

theorem finite_angle {text : String} {a : Float}
    (h : (number? text).map Arith.radians = some a) : IsFinite a := by
  obtain ⟨d, hd, rfl⟩ := Option.map_eq_some_iff.mp h
  exact isFinite_radians (finite_number? hd)

/-- A number that has passed a test. -/
theorem finite_tested {text : String} {test : Float → Bool} {x : Float}
    (h : (number? text).filter test = some x) : IsFinite x ∧ test x = true := by
  obtain ⟨hx, htest⟩ := Option.filter_eq_some_iff.mp h
  exact ⟨finite_number? hx, htest⟩

/-- A number, or what replaces it because it has failed a test. -/
theorem finite_mended {text : String} {test : Float → Bool} {mend : Float → Float} {x : Float}
    (hmend : ∀ y, IsFinite y → IsFinite (mend y))
    (h : (number? text).map (fun y => if test y then y else mend y) = some x) : IsFinite x := by
  obtain ⟨y, hy, rfl⟩ := Option.map_eq_some_iff.mp h
  have hfinite : IsFinite y := finite_number? hy
  split
  · exact hfinite
  · exact hmend y hfinite

/-- A number of which the sign is left out. -/
theorem nonneg_mended {text : String} {x : Float}
    (h : (number? text).map (fun y => if !decide (y < 0.0) then y else Arith.abs y) = some x) :
    IsFinite x ∧ 0.0 ≤ x := by
  refine ⟨finite_mended (fun _ => isFinite_abs) h, ?_⟩
  obtain ⟨y, hy, rfl⟩ := Option.map_eq_some_iff.mp h
  have hfinite : IsFinite y := finite_number? hy
  split
  next htest => exact nonneg_of_not_lt hfinite (by simpa using htest)
  next => exact nonneg_abs hfinite

/-- The coordinates that a pair has are finite. -/
structure FinitePair (p : Option Float × Option Float) : Prop where
  x : ∀ x ∈ p.1, IsFinite x
  y : ∀ y ∈ p.2, IsFinite y

theorem finite_numberPair? {text : String} {p : Option Float × Option Float}
    (h : numberPair? text = some p) : FinitePair p := by
  obtain ⟨q, -, rfl⟩ := Option.map_eq_some_iff.mp h
  exact ⟨fun _ => finite_number?, fun _ => finite_number?⟩

theorem finite_point? {text : String} {p : Option Float × Option Float}
    (h : Framed.point? text = some p) : FinitePair p := by
  unfold Framed.point? at h
  split at h
  · obtain rfl := Option.some.inj h
    exact ⟨fun _ => finite_number?, fun _ => finite_number?⟩
  · cases h

theorem FinitePair.overlayPair {p q : Option Float × Option Float} (hp : FinitePair p)
    (hq : FinitePair q) : FinitePair (overlayPair p q) where
  x x hx := (overlayPair_fst hx).elim (hq.x x) (hp.x x)
  y y hy := (overlayPair_snd hy).elim (hq.y y) (hp.y y)

structure Point.Finite (p : Point Float) : Prop where
  x : IsFinite p.x
  y : IsFinite p.y

theorem Point.finite_zero : Point.zero.Finite := by
  constructor <;> decide

theorem Point.Finite.overlay {p : Point Float} (hp : p.Finite) {new : Option Float × Option Float}
    (hnew : FinitePair new) : (p.overlay new).Finite := by
  obtain ⟨x?, y?⟩ := new
  constructor
  · cases x? with
    | none => exact hp.x
    | some x => exact hnew.x x rfl
  · cases y? with
    | none => exact hp.y
    | some y => exact hnew.y y rfl

/-- The image is there, if one is named. -/
def Found (env : ReadEnv) (image? : Option Path) : Prop :=
  ∀ p ∈ image?, env.files.isFile p = true

theorem found_image? {text : String} {image? : Option Path}
    (h : some (RecordAt.image? env text) = some image?) : Found env image? := by
  obtain rfl := Option.some.inj h
  intro p hp
  unfold RecordAt.image? at hp
  split at hp
  · cases hp
  split at hp
  · cases hp
  dsimp only at hp
  split at hp
  next hfile => exact Option.some.inj hp ▸ hfile
  next => cases hp

/-! ## Calibrated panels -/

namespace Calibrated

structure Header.Ready (env : ReadEnv) (h : Header Float) : Prop where
  resolution : ∀ r ∈ h.resolution?, IsFinite r ∧ 100.0 < r
  left : ∀ x ∈ h.left?, IsFinite x
  right : ∀ x ∈ h.right?, IsFinite x
  top : ∀ x ∈ h.top?, IsFinite x
  bottom : ∀ x ∈ h.bottom?, IsFinite x
  center : FinitePair h.center
  origin : FinitePair h.origin
  daytime : Found env h.daytime?
  nighttime : Found env h.nighttime?

theorem Header.read_ready (env : ReadEnv) (s : Section) :
    ((s.read env).value : Header Float).Ready env := by
  refine readRecords_keepsIn (P := Ready env) ?_
    ⟨nofun, nofun, nofun, nofun, nofun, ⟨nofun, nofun⟩, ⟨nofun, nofun⟩, nofun, nofun⟩
  simp only [Readable.fields, fields, List.forall_mem_cons]
  refine ⟨?resolution, ?left, ?right, ?top, ?bottom, ?daytime, ?nighttime, ?key, ?center, ?origin,
    List.forall_mem_nil _⟩
  all_goals refine Field.keepsIn_of_finds fun _ _ x hx _ h => ?_
  case resolution =>
    obtain ⟨hfinite, htest⟩ := finite_tested hx
    exact { h with
      resolution := fun _ h' => Option.some.inj h' ▸ ⟨hfinite, of_decide_eq_true htest⟩ }
  case left => exact { h with left := fun _ h' => Option.some.inj h' ▸ finite_number? hx }
  case right => exact { h with right := fun _ h' => Option.some.inj h' ▸ finite_number? hx }
  case top => exact { h with top := fun _ h' => Option.some.inj h' ▸ finite_number? hx }
  case bottom => exact { h with bottom := fun _ h' => Option.some.inj h' ▸ finite_number? hx }
  case daytime => exact { h with daytime := found_image? hx }
  case nighttime => exact { h with nighttime := found_image? hx }
  case key => exact { h with }
  case center => exact { h with center := h.center.overlayPair (finite_numberPair? hx) }
  case origin => exact { h with origin := h.origin.overlayPair (finite_numberPair? hx) }

structure PilotLamp.Ready (env : ReadEnv) (l : PilotLamp Float) : Prop where
  location : l.location.Finite
  daytime : Found env l.daytime?
  nighttime : Found env l.nighttime?

theorem PilotLamp.read_ready (env : ReadEnv) (s : Section) :
    ((s.read env).value : PilotLamp Float).Ready env := by
  refine readRecords_keepsIn (P := Ready env) ?_ ⟨Point.finite_zero, nofun, nofun⟩
  simp only [Readable.fields, fields, List.forall_mem_cons]
  refine ⟨?subject, ?location, ?daytime, ?nighttime, ?key, ?layer, List.forall_mem_nil _⟩
  all_goals refine Field.keepsIn_of_finds fun _ _ x hx _ h => ?_
  case subject | key | layer => exact { h with }
  case location => exact { h with location := h.location.overlay (finite_numberPair? hx) }
  case daytime => exact { h with daytime := found_image? hx }
  case nighttime => exact { h with nighttime := found_image? hx }

structure Needle.Ready (env : ReadEnv) (n : Needle Float) : Prop where
  location : n.location.Finite
  radius : IsFinite n.radius
  daytime : Found env n.daytime?
  nighttime : Found env n.nighttime?
  origin : FinitePair n.origin
  initialAngle : IsFinite n.initialAngle
  lastAngle : IsFinite n.lastAngle
  minimum : IsFinite n.minimum
  maximum : IsFinite n.maximum
  naturalFrequency : ∀ f ∈ n.naturalFrequency?, IsFinite f ∧ 0.0 ≤ f
  dampingRatio : ∀ d ∈ n.dampingRatio?, IsFinite d ∧ 0.0 ≤ d

theorem Needle.read_ready (env : ReadEnv) (s : Section) :
    ((s.read env).value : Needle Float).Ready env := by
  refine readRecords_keepsIn (P := Ready env) ?_ ?initial
  case initial =>
    refine ⟨Point.finite_zero, ?_, nofun, nofun, ⟨nofun, nofun⟩, ?_, ?_, ?_, ?_, nofun, nofun⟩ <;>
      decide
  simp only [Readable.fields, fields, List.forall_mem_cons]
  refine ⟨?subject, ?location, ?radius, ?daytime, ?nighttime, ?tint, ?key, ?origin, ?initialAngle,
    ?lastAngle, ?minimum, ?maximum, ?naturalFrequency, ?dampingRatio, ?layer, ?backstop, ?smoothed,
    List.forall_mem_nil _⟩
  all_goals refine Field.keepsIn_of_finds fun _ _ x hx _ h => ?_
  case subject | tint | key | layer | backstop | smoothed => exact { h with }
  case location => exact { h with location := h.location.overlay (finite_numberPair? hx) }
  case radius =>
    have hfallback : IsFinite (fallbackRadius : Float) := by decide
    exact { h with radius := finite_mended (fun _ _ => hfallback) hx }
  case daytime => exact { h with daytime := found_image? hx }
  case nighttime => exact { h with nighttime := found_image? hx }
  case origin => exact { h with origin := h.origin.overlayPair (finite_numberPair? hx) }
  case initialAngle => exact { h with initialAngle := finite_angle hx }
  case lastAngle => exact { h with lastAngle := finite_angle hx }
  case minimum => exact { h with minimum := finite_number? hx }
  case maximum => exact { h with maximum := finite_number? hx }
  case naturalFrequency =>
    exact { h with naturalFrequency := fun _ h' => Option.some.inj h' ▸ nonneg_mended hx }
  case dampingRatio =>
    exact { h with dampingRatio := fun _ h' => Option.some.inj h' ▸ nonneg_mended hx }

/-- The radius that a number gives. -/
theorem Needle.mended_ne_zero (x : Float) :
    ((if !(x == 0.0) then x else fallbackRadius) == 0.0) = false := by
  split
  next h => simpa using h
  next => decide

/-- The radius is zero only if no record gives one that can be read. -/
theorem Needle.radius_given (env : ReadEnv) (s : Section)
    (hzero : (((s.read env).value : Needle Float).radius == 0.0) = true) :
    ∀ r ∈ s.records, r.lowerKey = "radius" → (number? r.value : Option Float) = none := by
  intro r hr hkey
  by_contra hgiven
  obtain ⟨x, hx⟩ := Option.ne_none_iff_exists'.mp hgiven
  have hfield : (Readable.fields : List (Field (Needle Float))).find?
      (·.keys.contains r.lowerKey) =
      some (.mendedNumber ["radius"] (fun r => !(r == 0.0)) "Value is expected to be non-zero"
        (fun _ => fallbackRadius) fun r n => { n with radius := r }) := by
    rw [hkey]
    rfl
  refine absurd hzero (Bool.eq_false_iff.mp (readRecords_establishes
    (P := fun n : Needle Float => (n.radius == 0.0) = false) ?keeps hr (fun n => ?sets) _))
  case sets =>
    rw [updateOf_of_finds hfield (congrArg (Option.map _) hx)]
    exact mended_ne_zero x
  case keeps =>
    simp only [Readable.fields, fields, List.forall_mem_cons]
    refine ⟨?subject, ?location, ?radius, ?daytime, ?nighttime, ?tint, ?key, ?origin, ?initialAngle,
      ?lastAngle, ?minimum, ?maximum, ?naturalFrequency, ?dampingRatio, ?layer, ?backstop,
      ?smoothed, List.forall_mem_nil _⟩
    all_goals refine Field.keepsIn_of_finds fun _ _ x hx _ h => ?_
    case radius =>
      obtain ⟨y, -, rfl⟩ := Option.map_eq_some_iff.mp hx
      exact mended_ne_zero y
    all_goals exact h

structure LinearGauge.Ready (env : ReadEnv) (g : LinearGauge Float) : Prop where
  location : g.location.Finite
  minimum : IsFinite g.minimum
  maximum : IsFinite g.maximum
  width : IsFinite g.width
  daytime : Found env g.daytime?
  nighttime : Found env g.nighttime?

theorem LinearGauge.read_ready (env : ReadEnv) (s : Section) :
    ((s.read env).value : LinearGauge Float).Ready env := by
  refine readRecords_keepsIn (P := Ready env) ?_ ?initial
  case initial =>
    refine ⟨Point.finite_zero, ?_, ?_, ?_, nofun, nofun⟩ <;> decide
  simp only [Readable.fields, fields, List.forall_mem_cons]
  refine ⟨?subject, ?location, ?minimum, ?maximum, ?width, ?direction, ?daytime, ?nighttime, ?key,
    ?layer, List.forall_mem_nil _⟩
  all_goals refine Field.keepsIn_of_finds fun _ _ x hx _ h => ?_
  case subject | direction | key | layer => exact { h with }
  case location => exact { h with location := h.location.overlay (finite_numberPair? hx) }
  case minimum => exact { h with minimum := finite_number? hx }
  case maximum => exact { h with maximum := finite_number? hx }
  case width => exact { h with width := finite_number? hx }
  case daytime => exact { h with daytime := found_image? hx }
  case nighttime => exact { h with nighttime := found_image? hx }

structure DigitalNumber.Ready (env : ReadEnv) (d : DigitalNumber Float) : Prop where
  location : d.location.Finite
  daytime : Found env d.daytime?
  nighttime : Found env d.nighttime?
  interval : IsFinite d.interval
  interval_whole : d.interval = 0.0 ∨
    ∃ i : Int, 1 ≤ i ∧ i ≤ 2 ^ 31 - 1 ∧ d.interval = Arith.ofInt i

theorem DigitalNumber.read_ready (env : ReadEnv) (s : Section) :
    ((s.read env).value : DigitalNumber Float).Ready env := by
  refine readRecords_keepsIn (P := Ready env) ?_ ?initial
  case initial => exact ⟨Point.finite_zero, nofun, nofun, by decide, .inl rfl⟩
  simp only [Readable.fields, fields, List.forall_mem_cons]
  refine ⟨?subject, ?location, ?daytime, ?nighttime, ?key, ?interval, ?layer,
    List.forall_mem_nil _⟩
  all_goals refine Field.keepsIn_of_finds fun _ _ x hx _ h => ?_
  case subject | key | layer => exact { h with }
  case location => exact { h with location := h.location.overlay (finite_numberPair? hx) }
  case daytime => exact { h with daytime := found_image? hx }
  case nighttime => exact { h with nighttime := found_image? hx }
  case interval =>
    obtain ⟨hwhole, hpos⟩ := Option.filter_eq_some_iff.mp hx
    have hpos : 0 < x := of_decide_eq_true hpos
    have hbound : x ≤ 2147483647 := le_of_whole? hwhole
    obtain ⟨n, rfl⟩ := Int.eq_ofNat_of_zero_le hpos.le
    have hmeasures : Measures (Arith.ofInt n) n := measures_ofInt (by omega)
    exact { h with
      interval := hmeasures.isFinite
      interval_whole := .inr ⟨n, hpos, hbound, rfl⟩ }

structure DigitalGauge.Ready (g : DigitalGauge Float) : Prop where
  location : g.location.Finite
  radius : IsFinite g.radius
  initialAngle : IsFinite g.initialAngle
  lastAngle : IsFinite g.lastAngle
  minimum : IsFinite g.minimum
  maximum : IsFinite g.maximum
  step : IsFinite g.step

theorem DigitalGauge.read_ready (env : ReadEnv) (s : Section) :
    ((s.read env).value : DigitalGauge Float).Ready := by
  refine readRecords_keepsIn (P := Ready) ?_ ?initial
  case initial =>
    refine ⟨Point.finite_zero, ?_, ?_, ?_, ?_, ?_, ?_⟩ <;> decide
  simp only [Readable.fields, fields, List.forall_mem_cons]
  refine ⟨?subject, ?location, ?radius, ?tint, ?initialAngle, ?lastAngle, ?minimum, ?maximum,
    ?step, ?layer, List.forall_mem_nil _⟩
  all_goals refine Field.keepsIn_of_finds fun _ _ x hx _ h => ?_
  case subject | tint | layer => exact { h with }
  case location => exact { h with location := h.location.overlay (finite_numberPair? hx) }
  case radius => exact { h with radius := finite_number? hx }
  case initialAngle => exact { h with initialAngle := finite_angle hx }
  case lastAngle => exact { h with lastAngle := finite_angle hx }
  case minimum => exact { h with minimum := finite_number? hx }
  case maximum => exact { h with maximum := finite_number? hx }
  case step => exact { h with step := finite_number? hx }

structure Timetable.Ready (t : Timetable Float) : Prop where
  location : t.location.Finite
  width : IsFinite t.width
  height : IsFinite t.height

theorem Timetable.read_ready (env : ReadEnv) (s : Section) :
    ((s.read env).value : Timetable Float).Ready := by
  refine readRecords_keepsIn (P := Ready) ?_ ?initial
  case initial => refine ⟨Point.finite_zero, ?_, ?_⟩ <;> decide
  simp only [Readable.fields, fields, List.forall_mem_cons]
  refine ⟨?location, ?width, ?height, ?key, ?layer, List.forall_mem_nil _⟩
  all_goals refine Field.keepsIn_of_finds fun _ _ x hx _ h => ?_
  case location => exact { h with location := h.location.overlay (finite_numberPair? hx) }
  case width => exact { h with width := finite_number? hx }
  case height => exact { h with height := finite_number? hx }
  case key | layer => exact { h with }

end Calibrated

/-! ## Framed panels -/

namespace Framed

theorem mem_of_unit? {K : Type} {table : List (List String × K)} {text : String} {u : K}
    (h : unit? table text = some u) : u ∈ table.map (·.2) := by
  obtain ⟨row, hrow, rfl⟩ := Option.map_eq_some_iff.mp h
  exact List.mem_map_of_mem (List.mem_of_find?_eq_some hrow)

/-- A number above zero. -/
structure Positive (x : Float) : Prop where
  finite : IsFinite x
  pos : 0.0 < x

theorem positive_tested {text : String} {x : Float}
    (h : (number? text).filter (fun x => decide (0.0 < x)) = some x) : Positive x := by
  obtain ⟨hfinite, htest⟩ := finite_tested h
  exact ⟨hfinite, of_decide_eq_true htest⟩

theorem Background.read_found (env : ReadEnv) (s : Section) :
    Found env ((s.read env).value : Background).image? := by
  refine readRecords_keepsIn (P := fun b : Background => Found env b.image?) ?_ nofun
  simp only [Readable.fields, List.forall_mem_singleton]
  exact Field.keepsIn_of_finds fun _ _ x hx _ _ => found_image? hx

structure View.Ready (v : View Float) : Prop where
  yaw : ∀ x ∈ v.yaw?, IsFinite x
  pitch : ∀ x ∈ v.pitch?, IsFinite x

theorem View.read_ready (env : ReadEnv) (s : Section) :
    ((s.read env).value : View Float).Ready := by
  refine readRecords_keepsIn (P := Ready) ?_ ⟨nofun, nofun⟩
  simp only [Readable.fields, List.forall_mem_cons]
  refine ⟨?yaw, ?pitch, List.forall_mem_nil _⟩
  all_goals refine Field.keepsIn_of_finds fun _ _ x hx _ h => ?_
  case yaw => exact { h with yaw := fun _ h' => Option.some.inj h' ▸ finite_number? hx }
  case pitch => exact { h with pitch := fun _ h' => Option.some.inj h' ▸ finite_number? hx }

structure PressureGauge.Ready (env : ReadEnv) (g : PressureGauge Float) : Prop where
  center : g.center.Finite
  radius : Positive g.radius
  background : Found env g.background?
  cover : Found env g.cover?
  unit : IsFinite g.unit
  minimum : IsFinite g.minimum
  maximum : IsFinite g.maximum
  gap : IsFinite g.gap

theorem PressureGauge.read_ready (env : ReadEnv) (s : Section) :
    ((s.read env).value : PressureGauge Float).Ready env := by
  have hunits : ∀ u ∈ (units : List (List String × Float)).map (·.2), IsFinite u := by
    decide
  refine readRecords_keepsIn (P := Ready env) ?_ ?initial
  case initial =>
    refine ⟨Point.finite_zero, ⟨?_, ?_⟩, nofun, nofun, ?_, ?_, ?_, ?_⟩ <;> decide
  simp only [Readable.fields, fields, List.forall_mem_cons]
  refine ⟨?type, ?lower, ?upper, ?center, ?radius, ?background, ?cover, ?unit, ?minimum, ?maximum,
    ?angle, List.forall_mem_nil _⟩
  all_goals refine Field.keepsIn_of_finds fun _ _ x hx _ h => ?_
  case type | lower | upper => exact { h with }
  case center => exact { h with center := h.center.overlay (finite_point? hx) }
  case radius => exact { h with radius := positive_tested hx }
  case background => exact { h with background := found_image? hx }
  case cover => exact { h with cover := found_image? hx }
  case unit => exact { h with unit := hunits x (mem_of_unit? hx) }
  case minimum => exact { h with minimum := finite_number? hx }
  case maximum => exact { h with maximum := finite_number? hx }
  case angle => exact { h with gap := finite_angle hx }

structure Speedometer.Ready (env : ReadEnv) (m : Speedometer Float) : Prop where
  background : Found env m.background?
  cover : Found env m.cover?
  signals : Found env m.signals?
  signalRadius : ∀ r ∈ m.signalRadius?, IsFinite r
  center : m.center.Finite
  radius : Positive m.radius
  gap : IsFinite m.gap
  maximum : IsFinite m.maximum

theorem Speedometer.read_ready (env : ReadEnv) (s : Section) :
    ((s.read env).value : Speedometer Float).Ready env := by
  refine readRecords_keepsIn (P := Ready env) ?_ ?initial
  case initial =>
    refine ⟨nofun, nofun, nofun, nofun, Point.finite_zero, ⟨?_, ?_⟩, ?_, ?_⟩ <;> decide
  simp only [Readable.fields, fields, List.forall_mem_cons]
  refine ⟨?type, ?background, ?cover, ?signals, ?signalRadius, ?tint, ?center, ?radius, ?angle,
    ?maximum, List.forall_mem_nil _⟩
  all_goals refine Field.keepsIn_of_finds fun _ _ x hx _ h => ?_
  case type | tint => exact { h with }
  case background => exact { h with background := found_image? hx }
  case cover => exact { h with cover := found_image? hx }
  case signals => exact { h with signals := found_image? hx }
  case signalRadius =>
    exact { h with signalRadius := fun _ h' => Option.some.inj h' ▸ finite_number? hx }
  case center => exact { h with center := h.center.overlay (finite_point? hx) }
  case radius => exact { h with radius := positive_tested hx }
  case angle => exact { h with gap := finite_angle hx }
  case maximum =>
    obtain ⟨hfinite, hpos⟩ := positive_tested hx
    exact { h with maximum := isFinite_div_speed hfinite hpos }

structure DigitalIndicator.Ready (env : ReadEnv) (d : DigitalIndicator Float) : Prop where
  number : Found env d.number?
  corner : d.corner.Finite
  size : d.size.Finite
  unit : IsFinite d.unit

theorem DigitalIndicator.read_ready (env : ReadEnv) (s : Section) :
    ((s.read env).value : DigitalIndicator Float).Ready env := by
  have hunits : ∀ u ∈ (units : List (List String × Float)).map (·.2), IsFinite u := by
    decide
  refine readRecords_keepsIn (P := Ready env) ?_ ?initial
  case initial => exact ⟨nofun, Point.finite_zero, Point.finite_zero, by decide⟩
  simp only [Readable.fields, fields, List.forall_mem_cons]
  refine ⟨?number, ?corner, ?size, ?unit, List.forall_mem_nil _⟩
  all_goals refine Field.keepsIn_of_finds fun _ _ x hx _ h => ?_
  case number => exact { h with number := found_image? hx }
  case corner => exact { h with corner := h.corner.overlay (finite_point? hx) }
  case size => exact { h with size := h.size.overlay (finite_point? hx) }
  case unit => exact { h with unit := hunits x (mem_of_unit? hx) }

structure PilotLamp.Ready (env : ReadEnv) (l : PilotLamp Float) : Prop where
  turnOn : Found env l.turnOn?
  turnOff : Found env l.turnOff?
  corner : l.corner.Finite

theorem PilotLamp.read_ready (env : ReadEnv) (s : Section) :
    ((s.read env).value : PilotLamp Float).Ready env := by
  refine readRecords_keepsIn (P := Ready env) ?_ ⟨nofun, nofun, Point.finite_zero⟩
  simp only [Readable.fields, fields, List.forall_mem_cons]
  refine ⟨?turnOn, ?turnOff, ?corner, List.forall_mem_nil _⟩
  all_goals refine Field.keepsIn_of_finds fun _ _ x hx _ h => ?_
  case turnOn => exact { h with turnOn := found_image? hx }
  case turnOff => exact { h with turnOff := found_image? hx }
  case corner => exact { h with corner := h.corner.overlay (finite_point? hx) }

structure Watch.Ready (env : ReadEnv) (w : Watch Float) : Prop where
  background : Found env w.background?
  center : w.center.Finite
  radius : Positive w.radius

theorem Watch.read_ready (env : ReadEnv) (s : Section) :
    ((s.read env).value : Watch Float).Ready env := by
  refine readRecords_keepsIn (P := Ready env) ?_ ?initial
  case initial => refine ⟨nofun, Point.finite_zero, ⟨?_, ?_⟩⟩ <;> decide
  simp only [Readable.fields, fields, List.forall_mem_cons]
  refine ⟨?background, ?tint, ?center, ?radius, List.forall_mem_nil _⟩
  all_goals refine Field.keepsIn_of_finds fun _ _ x hx _ h => ?_
  case background => exact { h with background := found_image? hx }
  case tint => exact { h with }
  case center => exact { h with center := h.center.overlay (finite_point? hx) }
  case radius => exact { h with radius := positive_tested hx }

structure BrakeIndicator.Ready (env : ReadEnv) (b : BrakeIndicator Float) : Prop where
  image : Found env b.image?
  corner : b.corner.Finite
  width : IsFinite b.width ∧ 0.0 ≤ b.width

theorem BrakeIndicator.read_ready (env : ReadEnv) (s : Section) :
    ((s.read env).value : BrakeIndicator Float).Ready env := by
  refine readRecords_keepsIn (P := Ready env) ?_ ?initial
  case initial => refine ⟨nofun, Point.finite_zero, ?_, ?_⟩ <;> decide
  simp only [Readable.fields, fields, List.forall_mem_cons]
  refine ⟨?image, ?corner, ?width, List.forall_mem_nil _⟩
  all_goals refine Field.keepsIn_of_finds fun _ _ x hx _ h => ?_
  case image => exact { h with image := found_image? hx }
  case corner => exact { h with corner := h.corner.overlay (finite_point? hx) }
  case width =>
    obtain ⟨hfinite, hpos⟩ := positive_tested hx
    exact { h with width := ⟨hfinite, float_le_of_lt hpos⟩ }

/-- The width is zero only if no record gives one above zero. -/
theorem BrakeIndicator.width_given (env : ReadEnv) (s : Section)
    (hzero : (((s.read env).value : BrakeIndicator Float).width == 0.0) = true) :
    ∀ r ∈ s.records, r.lowerKey ∈ ["width", "幅"] →
      ∀ x : Float, number? r.value = some x → ¬ 0.0 < x := by
  intro r hr hkey x hx hpos
  have hfield : (Readable.fields : List (Field (BrakeIndicator Float))).find?
      (·.keys.contains r.lowerKey) =
      some (positiveField ["width", "幅"] fun w b => { b with width := w }) := by
    simp only [List.mem_cons, List.not_mem_nil, or_false] at hkey
    rcases hkey with hkey | hkey
    · rw [hkey]
      rfl
    · rw [hkey]
      rfl
  have hfind : (number? r.value).filter (fun x : Float => decide (0.0 < x)) = some x :=
    Option.filter_eq_some_iff.mpr ⟨hx, decide_eq_true hpos⟩
  have hwidth : 0.0 < ((s.read env).value : BrakeIndicator Float).width := by
    refine readRecords_establishes (P := fun b : BrakeIndicator Float => 0.0 < b.width) ?keeps hr
      (fun b => ?sets) _
    case sets =>
      rw [updateOf_of_finds hfield hfind]
      exact hpos
    case keeps =>
      simp only [Readable.fields, fields, List.forall_mem_cons]
      refine ⟨?image, ?corner, ?width, List.forall_mem_nil _⟩
      all_goals refine Field.keepsIn_of_finds fun _ _ x hx _ h => ?_
      case width => exact (positive_tested hx).pos
      all_goals exact h
  exact ne_zero_of_pos hwidth hzero

end Framed

/-! ## Springs -/

namespace Calibrated

/-- Springs on the elements of a needle are not negative. -/
def Needle.Sprung (steps : List (Step Float)) : Prop :=
  ∀ e, .element e ∈ steps → ∀ r, e.motion = .turning r → ∀ d ∈ r.damping?,
    0.0 ≤ d.naturalFrequency ∧ 0.0 ≤ d.dampingRatio

theorem Needle.sprung_nil : Needle.Sprung [] := fun _ h => absurd h List.not_mem_nil

theorem Needle.Ready.rotation_sprung {n : Needle Float} (h : n.Ready env) (value : Expr Float) :
    ∀ d ∈ (n.rotation value).damping?, 0.0 ≤ d.naturalFrequency ∧ 0.0 ≤ d.dampingRatio := by
  intro d (hd : n.damping? = some d)
  simp only [damping?, Option.bind_eq_bind, Option.bind_eq_some_iff, Option.some.injEq] at hd
  obtain ⟨f, hf, ratio, hratio, rfl⟩ := hd
  exact ⟨(h.naturalFrequency f hf).2, (h.dampingRatio ratio hratio).2⟩

theorem Needle.Ready.build_sprung {σ : Type} {benv : BuildEnv Float σ} {t : σ} {n : Needle Float}
    (h : n.Ready env) (s : Section) (space : Space Float) :
    Build.Yields benv t (n.build s space) Needle.Sprung := by
  unfold build
  rcases n.daytime? with _ | day
  · exact (Build.giveUp_gives s _ Needle.sprung_nil).yields
  refine .ite (fun _ => (Build.giveUp_gives s _ Needle.sprung_nil).yields) fun _ => ?_
  refine (Build.texture_yields s _ _).bindOption (fun _ => .pure Needle.sprung_nil) fun _ _ _ => ?_
  refine (Build.optionalTexture_gives s _ _).yields.bind fun night _ _ => ?_
  refine (Build.quadState_gives s _ _ _ _ _).yields.bind fun state _ _ => ?_
  refine (Build.subject_yields s _ _).bind fun subject _ _ => .pure fun e he => ?_
  obtain rfl := Step.element.inj (List.mem_singleton.mp he)
  rintro _ ⟨⟩
  exact h.rotation_sprung subject

/-- The elements of a section are sprung, if it is that of a needle. -/
def Sprung (s : Section) (steps : List (Step Float)) : Prop :=
  s.lowerName = "needle" → Needle.Sprung steps

end Calibrated

/-! ## All kinds of sections -/

/-- What the records of a section are read to, as a section of each kind. -/
structure Section.Ready (env : ReadEnv) (s : Section) : Prop where
  header : ((s.read env).value : Calibrated.Header Float).Ready env
  lamp : ((s.read env).value : Calibrated.PilotLamp Float).Ready env
  needle : ((s.read env).value : Calibrated.Needle Float).Ready env
  needle_radius : (((s.read env).value : Calibrated.Needle Float).radius == 0.0) = true →
    ∀ r ∈ s.records, r.lowerKey = "radius" → (number? r.value : Option Float) = none
  linearGauge : ((s.read env).value : Calibrated.LinearGauge Float).Ready env
  digitalNumber : ((s.read env).value : Calibrated.DigitalNumber Float).Ready env
  digitalGauge : ((s.read env).value : Calibrated.DigitalGauge Float).Ready
  timetable : ((s.read env).value : Calibrated.Timetable Float).Ready
  background : Found env ((s.read env).value : Framed.Background).image?
  view : ((s.read env).value : Framed.View Float).Ready
  pressureGauge : ((s.read env).value : Framed.PressureGauge Float).Ready env
  speedometer : ((s.read env).value : Framed.Speedometer Float).Ready env
  digitalIndicator : ((s.read env).value : Framed.DigitalIndicator Float).Ready env
  doorLamp : ((s.read env).value : Framed.PilotLamp Float).Ready env
  watch : ((s.read env).value : Framed.Watch Float).Ready env
  brakeIndicator : ((s.read env).value : Framed.BrakeIndicator Float).Ready env
  brakeIndicator_width :
    (((s.read env).value : Framed.BrakeIndicator Float).width == 0.0) = true →
      ∀ r ∈ s.records, r.lowerKey ∈ ["width", "幅"] →
        ∀ x : Float, number? r.value = some x → ¬ 0.0 < x

/-- Whatever its records say, a section of any kind is read to settings that its builder can
rely on, and the springs that needles turn against are not negative. -/
theorem readings_ready :
    (∀ (env : ReadEnv) (s : Section), s.Ready env) ∧
      ∀ {σ : Type} (env : BuildEnv Float σ) (b : Bench σ) (space : Space Float) (s : Section),
        Calibrated.Sprung s (Calibrated.instrument space s env b).1 := by
  constructor
  · intro env s
    exact {
      header := Calibrated.Header.read_ready env s
      lamp := Calibrated.PilotLamp.read_ready env s
      needle := Calibrated.Needle.read_ready env s
      needle_radius := Calibrated.Needle.radius_given env s
      linearGauge := Calibrated.LinearGauge.read_ready env s
      digitalNumber := Calibrated.DigitalNumber.read_ready env s
      digitalGauge := Calibrated.DigitalGauge.read_ready env s
      timetable := Calibrated.Timetable.read_ready env s
      background := Framed.Background.read_found env s
      view := Framed.View.read_ready env s
      pressureGauge := Framed.PressureGauge.read_ready env s
      speedometer := Framed.Speedometer.read_ready env s
      digitalIndicator := Framed.DigitalIndicator.read_ready env s
      doorLamp := Framed.PilotLamp.read_ready env s
      watch := Framed.Watch.read_ready env s
      brakeIndicator := Framed.BrakeIndicator.read_ready env s
      brakeIndicator_width := Framed.BrakeIndicator.width_given env s }
  · intro σ env b space s hname
    rw [Calibrated.instrument_needle hname]
    have hready := Calibrated.Needle.read_ready env.read s
    exact Build.buildWith_yields (hready.build_sprung s space) b rfl

end DriverDesk
