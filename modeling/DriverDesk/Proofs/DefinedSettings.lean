import DriverDesk.Compile.Plan
import DriverDesk.Proofs.Defined
import DriverDesk.Proofs.Readings

/-!
# Defined settings

The numbers that sections are read to have values, and those that are divided by without being
looked at again are not zero: the resolution of a calibration, the unit of a pressure and the
highest speed of a dial.
-/

namespace DriverDesk

open Checked

variable {α : Type} {P : α → Prop} {rs : List Record}

/-! ## Numbers in records -/

namespace Argument

theorem defined_number? {text : String} {x : Checked} (h : number? text = some x) :
    x.Defined := by
  unfold number? usable? at h
  split at h
  · cases h
  · obtain ⟨d, -, rfl⟩ := Option.map_eq_some_iff.mp h
    exact defined_ofDecimal d

theorem defined_numberPair? {text : String} {p : Option Checked × Option Checked}
    (h : numberPair? text = some p) :
    (∀ x, p.1 = some x → x.Defined) ∧ ∀ y, p.2 = some y → y.Defined := by
  obtain ⟨q, -, rfl⟩ := Option.map_eq_some_iff.mp h
  exact ⟨fun _ => defined_number?, fun _ => defined_number?⟩

end Argument

open Argument

theorem RecordAt.defined_number {c : RecordAt} {what text : String} {x : Checked}
    (h : (c.number what text).value = some x) : x.Defined :=
  defined_number? ((c.value_number what text).symm.trans h)

namespace Field

theorem number_keeps {keys : List String} {put : Checked → α → α}
    (h : ∀ x, x.Defined → ∀ a, P a → P (put x a)) : (number keys put).Keeps rs P :=
  keeping_keeps fun _ x hx => h x (RecordAt.defined_number hx)

theorem angle_keeps {keys : List String} {put : Checked → α → α}
    (h : ∀ x, x.Defined → ∀ a, P a → P (put x a)) : (angle keys put).Keeps rs P := by
  refine keeping_keeps fun c x hx => h x ?_
  obtain ⟨d, hd, rfl⟩ := Option.map_eq_some_iff.mp hx
  simp [Arith.radians, RecordAt.defined_number hd]

theorem pair_keeps {keys : List String} {put : Option Checked × Option Checked → α → α}
    (h : ∀ p : Option Checked × Option Checked, (∀ x, p.1 = some x → x.Defined) →
      (∀ y, p.2 = some y → y.Defined) → ∀ a, P a → P (put p a)) :
    (pair keys put).Keeps rs P := by
  refine keeping_keeps fun c p hp => ?_
  rw [c.value_numberPair] at hp
  exact h p (defined_numberPair? hp).1 (defined_numberPair? hp).2

theorem mendedNumber_keeps {keys : List String} {test : Checked → Bool} {message : String}
    {mend : Checked → Checked} {put : Checked → α → α}
    (hmend : ∀ x, x.Defined → (mend x).Defined) (h : ∀ x, x.Defined → ∀ a, P a → P (put x a)) :
    (mendedNumber keys test message mend put).Keeps rs P := by
  refine keeping_keeps fun c x hx => h x ?_
  rw [Noted.value_bind] at hx
  cases hread : (c.number "Value" c.value : Noted (Option Checked)).value with
  | none => rw [hread] at hx; cases hx
  | some y =>
    have hy := RecordAt.defined_number hread
    rw [hread] at hx
    dsimp only at hx
    split at hx
    · exact Option.some.inj hx ▸ hy
    · exact Option.some.inj hx ▸ hmend y hy

end Field

theorem Framed.pointField_keeps {keys : List String}
    {put : Option Checked × Option Checked → α → α}
    (h : ∀ p : Option Checked × Option Checked, (∀ x, p.1 = some x → x.Defined) →
      (∀ y, p.2 = some y → y.Defined) → ∀ a, P a → P (put p a)) :
    (pointField keys put).Keeps rs P := by
  refine Field.keeping_keeps fun c p hp => ?_
  unfold point at hp
  split at hp
  · simp only [Noted.value_bind, Noted.value_pure, Option.some.injEq] at hp
    subst hp
    exact h _ (fun _ => RecordAt.defined_number) fun _ => RecordAt.defined_number
  · cases hp

theorem Framed.positiveField_keeps {keys : List String} {put : Checked → α → α}
    (h : ∀ x, x.Divisor → ∀ a, P a → P (put x a)) : (positiveField keys put).Keeps rs P :=
  Field.testedNumber_keeps fun x hx => h x (divisor_of_lt (of_decide_eq_true hx))

theorem overlayPair_fst {β : Type} {old new : Option β × Option β} {b : β}
    (h : (overlayPair old new).1 = some b) : new.1 = some b ∨ old.1 = some b := by
  obtain ⟨_ | b', _⟩ := new
  · exact .inr h
  · exact .inl h

theorem overlayPair_snd {β : Type} {old new : Option β × Option β} {b : β}
    (h : (overlayPair old new).2 = some b) : new.2 = some b ∨ old.2 = some b := by
  obtain ⟨_, _ | b'⟩ := new
  · exact .inr h
  · exact .inl h

/-! ## Calibrated panels -/

namespace Calibrated

structure PilotLamp.Sound (l : PilotLamp Checked) : Prop where
  location : l.location.Defined

theorem PilotLamp.read_sound (env : ReadEnv) (s : Section) :
    ((s.read env).value : PilotLamp Checked).Sound := by
  refine readRecords_keeps (P := Sound) ?_ _ _ ⟨Point.defined_zero⟩
  simp only [Readable.fields, fields, List.forall_mem_cons]
  exact ⟨Field.always_keeps fun _ _ h => ⟨h.location⟩,
    Field.pair_keeps fun p hx hy l h => ⟨h.location.overlay hx hy⟩,
    Field.always_keeps fun _ _ h => ⟨h.location⟩,
    Field.always_keeps fun _ _ h => ⟨h.location⟩,
    Field.keeping_keeps fun _ _ _ _ h => ⟨h.location⟩,
    Field.keeping_keeps fun _ _ _ _ h => ⟨h.location⟩, nofun⟩

structure Needle.Sound (n : Needle Checked) : Prop where
  location : n.location.Defined
  radius : n.radius.Defined
  originX : ∀ x, n.origin.1 = some x → x.Defined
  originY : ∀ y, n.origin.2 = some y → y.Defined
  initialAngle : n.initialAngle.Defined
  lastAngle : n.lastAngle.Defined
  minimum : n.minimum.Defined
  maximum : n.maximum.Defined
  naturalFrequency : ∀ f, n.naturalFrequency? = some f → f.Defined
  dampingRatio : ∀ d, n.dampingRatio? = some d → d.Defined

theorem Needle.read_sound (env : ReadEnv) (s : Section) :
    ((s.read env).value : Needle Checked).Sound := by
  have habs (x : Checked) (h : x.Defined) : (Arith.abs x).Defined := by
    unfold Arith.abs
    split <;> simp [h]
  refine readRecords_keeps (P := Sound) ?_ _ _ ?initial
  case initial =>
    refine ⟨Point.defined_zero, ?_, nofun, nofun, ?_, ?_, ?_, ?_, nofun, nofun⟩ <;>
      simp [Readable.initial, Arith.radians]
  simp only [Readable.fields, fields, List.forall_mem_cons]
  refine ⟨?subject, ?location, ?radius, ?daytime, ?nighttime, ?tint, ?key, ?origin, ?initialAngle,
    ?lastAngle, ?minimum, ?maximum, ?naturalFrequency, ?dampingRatio, ?layer, ?backstop, ?smoothed,
    List.forall_mem_nil _⟩
  case subject | daytime | nighttime | backstop | smoothed =>
    exact Field.always_keeps fun _ _ h => { h with }
  case tint | key | layer => exact Field.keeping_keeps fun _ _ _ _ h => { h with }
  case location =>
    exact Field.pair_keeps fun p hx hy n h => { h with location := h.location.overlay hx hy }
  case radius =>
    exact Field.mendedNumber_keeps (fun _ _ => defined_ofScientific ..)
      fun x hx n h => { h with radius := hx }
  case origin =>
    exact Field.pair_keeps fun p hx hy n h => { h with
      originX := fun x hsome => (overlayPair_fst hsome).elim (hx x) (h.originX x)
      originY := fun y hsome => (overlayPair_snd hsome).elim (hy y) (h.originY y) }
  case initialAngle => exact Field.angle_keeps fun x hx n h => { h with initialAngle := hx }
  case lastAngle => exact Field.angle_keeps fun x hx n h => { h with lastAngle := hx }
  case minimum => exact Field.number_keeps fun x hx n h => { h with minimum := hx }
  case maximum => exact Field.number_keeps fun x hx n h => { h with maximum := hx }
  case naturalFrequency =>
    exact Field.mendedNumber_keeps habs fun x hx n h =>
      { h with naturalFrequency := fun _ hf => Option.some.inj hf ▸ hx }
  case dampingRatio =>
    exact Field.mendedNumber_keeps habs fun x hx n h =>
      { h with dampingRatio := fun _ hf => Option.some.inj hf ▸ hx }

structure LinearGauge.Sound (g : LinearGauge Checked) : Prop where
  location : g.location.Defined
  minimum : g.minimum.Defined
  maximum : g.maximum.Defined
  width : g.width.Defined

theorem LinearGauge.read_sound (env : ReadEnv) (s : Section) :
    ((s.read env).value : LinearGauge Checked).Sound := by
  refine readRecords_keeps (P := Sound) ?_ _ _ ?initial
  case initial => exact ⟨Point.defined_zero, ⟨_, rfl⟩, ⟨_, rfl⟩, ⟨_, rfl⟩⟩
  simp only [Readable.fields, fields, List.forall_mem_cons]
  refine ⟨?subject, ?location, ?minimum, ?maximum, ?width, ?direction, ?daytime, ?nighttime, ?key,
    ?layer, List.forall_mem_nil _⟩
  case subject | daytime | nighttime => exact Field.always_keeps fun _ _ h => { h with }
  case direction | key | layer => exact Field.keeping_keeps fun _ _ _ _ h => { h with }
  case location =>
    exact Field.pair_keeps fun p hx hy g h => { h with location := h.location.overlay hx hy }
  case minimum => exact Field.number_keeps fun x hx g h => { h with minimum := hx }
  case maximum => exact Field.number_keeps fun x hx g h => { h with maximum := hx }
  case width => exact Field.number_keeps fun x hx g h => { h with width := hx }

structure DigitalNumber.Sound (d : DigitalNumber Checked) : Prop where
  location : d.location.Defined
  interval : d.interval.Defined

theorem DigitalNumber.read_sound (env : ReadEnv) (s : Section) :
    ((s.read env).value : DigitalNumber Checked).Sound := by
  refine readRecords_keeps (P := Sound) ?_ _ _ ⟨Point.defined_zero, ⟨_, rfl⟩⟩
  simp only [Readable.fields, fields, List.forall_mem_cons]
  refine ⟨?subject, ?location, ?daytime, ?nighttime, ?key, ?interval, ?layer,
    List.forall_mem_nil _⟩
  case subject | daytime | nighttime => exact Field.always_keeps fun _ _ h => { h with }
  case key | layer => exact Field.keeping_keeps fun _ _ _ _ h => { h with }
  case location =>
    exact Field.pair_keeps fun p hx hy d h => { h with location := h.location.overlay hx hy }
  case interval =>
    exact Field.keeping_keeps fun _ i _ d h => { h with interval := defined_ofInt i }

structure DigitalGauge.Sound (g : DigitalGauge Checked) : Prop where
  location : g.location.Defined
  radius : g.radius.Defined
  initialAngle : g.initialAngle.Defined
  lastAngle : g.lastAngle.Defined
  minimum : g.minimum.Defined
  maximum : g.maximum.Defined
  step : g.step.Defined

theorem DigitalGauge.read_sound (env : ReadEnv) (s : Section) :
    ((s.read env).value : DigitalGauge Checked).Sound := by
  refine readRecords_keeps (P := Sound) ?_ _ _ ?initial
  case initial =>
    refine ⟨Point.defined_zero, ?_, ?_, ?_, ?_, ?_, ?_⟩ <;> simp [Readable.initial, Arith.radians]
  simp only [Readable.fields, fields, List.forall_mem_cons]
  refine ⟨?subject, ?location, ?radius, ?tint, ?initialAngle, ?lastAngle, ?minimum, ?maximum,
    ?step, ?layer, List.forall_mem_nil _⟩
  case subject => exact Field.always_keeps fun _ _ h => { h with }
  case tint | layer => exact Field.keeping_keeps fun _ _ _ _ h => { h with }
  case location =>
    exact Field.pair_keeps fun p hx hy g h => { h with location := h.location.overlay hx hy }
  case radius => exact Field.number_keeps fun x hx g h => { h with radius := hx }
  case initialAngle => exact Field.angle_keeps fun x hx g h => { h with initialAngle := hx }
  case lastAngle => exact Field.angle_keeps fun x hx g h => { h with lastAngle := hx }
  case minimum => exact Field.number_keeps fun x hx g h => { h with minimum := hx }
  case maximum => exact Field.number_keeps fun x hx g h => { h with maximum := hx }
  case step => exact Field.number_keeps fun x hx g h => { h with step := hx }

structure Timetable.Sound (t : Timetable Checked) : Prop where
  location : t.location.Defined
  width : t.width.Defined
  height : t.height.Defined

theorem Timetable.read_sound (env : ReadEnv) (s : Section) :
    ((s.read env).value : Timetable Checked).Sound := by
  refine readRecords_keeps (P := Sound) ?_ _ _ ⟨Point.defined_zero, ⟨_, rfl⟩, ⟨_, rfl⟩⟩
  simp only [Readable.fields, fields, List.forall_mem_cons]
  refine ⟨?location, ?width, ?height, ?key, ?layer, List.forall_mem_nil _⟩
  case location =>
    exact Field.pair_keeps fun p hx hy t h => { h with location := h.location.overlay hx hy }
  case width => exact Field.number_keeps fun x hx t h => { h with width := hx }
  case height => exact Field.number_keeps fun x hx t h => { h with height := hx }
  case key | layer => exact Field.keeping_keeps fun _ _ _ _ h => { h with }

end Calibrated

/-! ## Framed panels -/

namespace Framed

structure PressureGauge.Sound (g : PressureGauge Checked) : Prop where
  center : g.center.Defined
  radius : g.radius.Defined
  unit : g.unit.Divisor
  minimum : g.minimum.Defined
  maximum : g.maximum.Defined
  gap : g.gap.Defined

theorem PressureGauge.read_sound (env : ReadEnv) (s : Section) :
    ((s.read env).value : PressureGauge Checked).Sound := by
  have hunits : ∀ u ∈ (units (K := Checked)).map (·.2), u.Divisor := by simp [units]
  refine readRecords_keeps (P := Sound) ?_ _ _ ?initial
  case initial =>
    refine ⟨Point.defined_zero, ?_, ?_, ?_, ?_, ?_⟩ <;> simp [Readable.initial, Arith.radians]
  simp only [Readable.fields, fields, List.forall_mem_cons]
  refine ⟨?type, ?lower, ?upper, ?center, ?radius, ?background, ?cover, ?unit, ?minimum, ?maximum,
    ?angle, List.forall_mem_nil _⟩
  case type | lower | upper => exact Field.keeping_keeps fun _ _ _ _ h => { h with }
  case background | cover => exact Field.always_keeps fun _ _ h => { h with }
  case center =>
    exact pointField_keeps fun p hx hy g h => { h with center := h.center.overlay hx hy }
  case radius => exact positiveField_keeps fun x hx g h => { h with radius := hx.defined }
  case unit =>
    exact Field.keeping_keeps fun _ u hu g h => { h with unit := hunits u (mem_of_unitOf hu) }
  case minimum => exact Field.number_keeps fun x hx g h => { h with minimum := hx }
  case maximum => exact Field.number_keeps fun x hx g h => { h with maximum := hx }
  case angle => exact Field.angle_keeps fun x hx g h => { h with gap := hx }

structure Speedometer.Sound (m : Speedometer Checked) : Prop where
  signalRadius : ∀ r, m.signalRadius? = some r → r.Defined
  center : m.center.Defined
  radius : m.radius.Defined
  gap : m.gap.Defined
  maximum : m.maximum.Divisor

theorem Speedometer.read_sound (env : ReadEnv) (s : Section) :
    ((s.read env).value : Speedometer Checked).Sound := by
  have hunit : (3.6 : Checked).Divisor := by simp
  refine readRecords_keeps (P := Sound) ?_ _ _ ?initial
  case initial =>
    refine ⟨nofun, Point.defined_zero, ?_, ?_, ?_⟩ <;> simp [Readable.initial, Arith.radians]
  simp only [Readable.fields, fields, List.forall_mem_cons]
  refine ⟨?type, ?background, ?cover, ?signals, ?signalRadius, ?tint, ?center, ?radius, ?angle,
    ?maximum, List.forall_mem_nil _⟩
  case type | tint => exact Field.keeping_keeps fun _ _ _ _ h => { h with }
  case background | cover | signals => exact Field.always_keeps fun _ _ h => { h with }
  case signalRadius =>
    exact Field.number_keeps fun x hx m h =>
      { h with signalRadius := fun _ hr => Option.some.inj hr ▸ hx }
  case center =>
    exact pointField_keeps fun p hx hy m h => { h with center := h.center.overlay hx hy }
  case radius => exact positiveField_keeps fun x hx m h => { h with radius := hx.defined }
  case angle => exact Field.angle_keeps fun x hx m h => { h with gap := hx }
  case maximum =>
    exact positiveField_keeps fun x hx m h => { h with maximum := divisor_div.mpr ⟨hx, hunit⟩ }

structure DigitalIndicator.Sound (d : DigitalIndicator Checked) : Prop where
  corner : d.corner.Defined
  size : d.size.Defined
  unit : d.unit.Defined

theorem DigitalIndicator.read_sound (env : ReadEnv) (s : Section) :
    ((s.read env).value : DigitalIndicator Checked).Sound := by
  have hunits : ∀ u ∈ (units (K := Checked)).map (·.2), u.Defined := by simp [units]
  refine readRecords_keeps (P := Sound) ?_ _ _ ⟨Point.defined_zero, Point.defined_zero, ⟨_, rfl⟩⟩
  simp only [Readable.fields, fields, List.forall_mem_cons]
  refine ⟨?number, ?corner, ?size, ?unit, List.forall_mem_nil _⟩
  case number => exact Field.always_keeps fun _ _ h => { h with }
  case corner =>
    exact pointField_keeps fun p hx hy d h => { h with corner := h.corner.overlay hx hy }
  case size => exact pointField_keeps fun p hx hy d h => { h with size := h.size.overlay hx hy }
  case unit =>
    exact Field.keeping_keeps fun _ u hu d h => { h with unit := hunits u (mem_of_unitOf hu) }

structure PilotLamp.Sound (l : PilotLamp Checked) : Prop where
  corner : l.corner.Defined

theorem PilotLamp.read_sound (env : ReadEnv) (s : Section) :
    ((s.read env).value : PilotLamp Checked).Sound := by
  refine readRecords_keeps (P := Sound) ?_ _ _ ⟨Point.defined_zero⟩
  simp only [Readable.fields, fields, List.forall_mem_cons]
  refine ⟨?turnOn, ?turnOff, ?corner, List.forall_mem_nil _⟩
  case turnOn | turnOff => exact Field.always_keeps fun _ _ h => { h with }
  case corner => exact pointField_keeps fun p hx hy l h => ⟨h.corner.overlay hx hy⟩

structure Watch.Sound (w : Watch Checked) : Prop where
  center : w.center.Defined
  radius : w.radius.Defined

theorem Watch.read_sound (env : ReadEnv) (s : Section) :
    ((s.read env).value : Watch Checked).Sound := by
  refine readRecords_keeps (P := Sound) ?_ _ _ ⟨Point.defined_zero, ⟨_, rfl⟩⟩
  simp only [Readable.fields, fields, List.forall_mem_cons]
  refine ⟨?background, ?tint, ?center, ?radius, List.forall_mem_nil _⟩
  case background => exact Field.always_keeps fun _ _ h => { h with }
  case tint => exact Field.keeping_keeps fun _ _ _ _ h => { h with }
  case center =>
    exact pointField_keeps fun p hx hy w h => { h with center := h.center.overlay hx hy }
  case radius => exact positiveField_keeps fun x hx w h => { h with radius := hx.defined }

structure BrakeIndicator.Sound (b : BrakeIndicator Checked) : Prop where
  corner : b.corner.Defined
  width : b.width.Defined

theorem BrakeIndicator.read_sound (env : ReadEnv) (s : Section) :
    ((s.read env).value : BrakeIndicator Checked).Sound := by
  refine readRecords_keeps (P := Sound) ?_ _ _ ⟨Point.defined_zero, ⟨_, rfl⟩⟩
  simp only [Readable.fields, fields, List.forall_mem_cons]
  refine ⟨?image, ?corner, ?width, List.forall_mem_nil _⟩
  case image => exact Field.always_keeps fun _ _ h => { h with }
  case corner =>
    exact pointField_keeps fun p hx hy b h => { h with corner := h.corner.overlay hx hy }
  case width => exact positiveField_keeps fun x hx b h => { h with width := hx.defined }

end Framed

/-! ## Headers -/

theorem latest_has {β γ : Type} {P : γ → Prop} {value? : β → Option γ} {l : List β} {c : γ}
    (hc : P c) (h : ∀ b ∈ l, ∀ c', value? b = some c' → P c') : P (latest value? l c) := by
  induction l generalizing c with
  | nil => exact hc
  | cons b l ih =>
    rw [latest_cons]
    refine ih ?_ fun b' hb' => h b' (List.mem_cons_of_mem b hb')
    cases hb : value? b with
    | none => exact hc
    | some c' => exact h b List.mem_cons_self c' hb

/-- What every use of a value has, the last value that records with a key give has. -/
theorem latest_given {γ : Type} {P : γ → Prop} {key : String} {read? : String → Option γ}
    {c : γ} (hc : P c) (h : ∀ text c', read? text = some c' → P c') :
    P (latest (Record.given? key read?) rs c) := by
  refine latest_has hc fun r _ c' hr => ?_
  unfold Record.given? at hr
  split at hr
  · exact h r.value c' hr
  · cases hr

theorem Argument.defined_abscissa? {text : String} {x : Checked} (h : abscissa? text = some x) :
    x.Defined := by
  obtain ⟨p, hp, hx⟩ := Option.bind_eq_some_iff.mp h
  exact (defined_numberPair? hp).1 x hx

theorem Argument.defined_ordinate? {text : String} {y : Checked} (h : ordinate? text = some y) :
    y.Defined := by
  obtain ⟨p, hp, hy⟩ := Option.bind_eq_some_iff.mp h
  exact (defined_numberPair? hp).2 y hy

theorem Calibration.Sound.heeding {c : Calibration Checked} (h : c.Sound) (rs : List Record) :
    (c.heeding rs).Sound where
  resolution := latest_given h.resolution fun _ _ hx =>
    divisor_of_lt (of_decide_eq_true (Option.filter_eq_some_iff.mp hx).2)
  left := latest_given h.left fun _ _ => defined_number?
  right := latest_given h.right fun _ _ => defined_number?
  top := latest_given h.top fun _ _ => defined_number?
  bottom := latest_given h.bottom fun _ _ => defined_number?
  center := ⟨latest_given h.center.x fun _ _ => defined_abscissa?,
    latest_given h.center.y fun _ _ => defined_ordinate?⟩
  origin := ⟨latest_given h.origin.x fun _ _ => defined_abscissa?,
    latest_given h.origin.y fun _ _ => defined_ordinate?⟩

theorem Calibrated.sound_calibration (sections : List Section) :
    (calibration sections : Calibration Checked).Sound := by
  refine Calibration.Sound.heeding ⟨?_, ?_, ?_, ?_, ?_, ⟨?_, ?_⟩, ⟨?_, ?_⟩⟩ _ <;>
    simp [Calibration.standard]

theorem Framed.defined_directionOf (sections : List Section) :
    (directionOf sections : Point Checked).Defined :=
  ⟨latest_given Point.defined_zero.x fun _ _ => defined_number?,
    latest_given Point.defined_zero.y fun _ _ => defined_number?⟩

end DriverDesk
