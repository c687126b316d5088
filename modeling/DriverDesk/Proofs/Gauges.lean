import Mathlib
import DriverDesk.Proofs.Dials
import DriverDesk.Proofs.Yields
import DriverDesk.Proofs.Framed
import DriverDesk.Proofs.Readings

/-!
# Gauges

Every gauge of both formats follows its subject as its dial says: its expression carries the
range of the section onto the two angles, whatever the subject is worth. The range is counted
in the unit of the variable that is followed, and it is never empty where a gauge is built.
-/

namespace DriverDesk

open Build DriverDesk.Expr

/-! ## Motions -/

namespace Motion

variable {m : AngleMap ℝ} {subject value : Expr ℝ} {step : ℝ}

/-- A hand points to the angle that the dial has for the subject. -/
def PointsTo (motion : Motion ℝ) (m : AngleMap ℝ) (subject : Expr ℝ) : Prop :=
  ∃ r f, motion = .turning r ∧ m.Carries f ∧ r.function.Follows subject f

/-- A sweep between the angles of the dial ends at the one it has for the subject, which is
lowered to steps, and it runs clockwise if the angles grow. -/
def SweepsTo (motion : Motion ℝ) (m : AngleMap ℝ) (step : ℝ) (subject : Expr ℝ) : Prop :=
  ∃ w f, motion = .sweeping w ∧ m.Carries f ∧ w.function.Follows subject (f ∘ lowered step) ∧
    w.initialAngle = m.initial ∧ w.lastAngle = m.last ∧
    (w.clockwise = true ↔ f m.minimum ≤ f m.maximum)

/-- A texture is shifted in proportion to the subject: not at all at its minimum, and by the
given part of its width at its maximum. -/
def ShiftsTo (motion : Motion ℝ) (minimum maximum shift : ℝ) (subject : Expr ℝ) : Prop :=
  ∃ h f, motion = .scrolling h ∧ (∃ a b, ∀ v, f v = a * v + b) ∧ f minimum = 0 ∧
    f maximum = shift ∧ h.function.Follows subject f

theorem pointsTo_turning (hrange : m.minimum ≠ m.maximum) (hsubject : subject.Computes)
    {r : Rotation ℝ} (hr : r.function = m.expression subject) :
    (turning r).PointsTo m subject :=
  ⟨r, m.angle, rfl, AngleMap.carries_angle hrange, hr ▸ m.follows_expression (.refl hsubject)⟩

theorem sweepsTo_over (hrange : m.minimum ≠ m.maximum)
    (hvalue : value.Follows subject (lowered step)) (q : Quad ℝ) :
    (sweeping (.over q m.initial m.last (m.expression value))).SweepsTo m step subject := by
  have hm := AngleMap.carries_angle hrange
  refine ⟨_, m.angle, rfl, hm, m.follows_expression hvalue, rfl, rfl, ?_⟩
  rw [hm.minimum, hm.maximum]
  exact decide_eq_true_iff

end Motion

/-- All elements among the steps move in a way with `P`. -/
def Step.Moving (P : Motion ℝ → Prop) (steps : List (Step ℝ)) : Prop :=
  ∀ e, .element e ∈ steps → P e.motion

theorem Step.moving_nil {P : Motion ℝ → Prop} : Moving P [] := fun _ h => nomatch h

theorem Step.moving_single {P : Motion ℝ → Prop} {e : Element ℝ} (h : P e.motion) :
    Moving P [.element e] := by
  intro e' he'
  cases List.mem_singleton.mp he'
  exact h

theorem Step.moving_append {P : Motion ℝ → Prop} {l₁ l₂ : List (Step ℝ)} (h₁ : Moving P l₁)
    (h₂ : Moving P l₂) : Moving P (l₁ ++ l₂) := by
  intro e he
  rcases List.mem_append.mp he with he | he
  · exact h₁ e he
  · exact h₂ e he

variable {σ : Type} {env : BuildEnv ℝ σ} {t : σ}

open Step

/-! ## Calibrated gauges -/

namespace Calibrated

/-- The needle follows its subject from one angle to the other. -/
def Needle.Shown (n : Needle ℝ) (cars : Nat) : List (Step ℝ) → Prop :=
  Moving (·.PointsTo ⟨n.initialAngle, n.lastAngle, n.minimum, n.maximum⟩
    (Subject.meaning cars n.subject.name))

theorem Needle.build_shows (n : Needle ℝ) (s : Section) (space : Space ℝ) :
    Yields env t (n.build s space) (n.Shown env.options.cars) := by
  unfold build
  rcases n.daytime? with _ | day
  · exact (giveUp_gives s _ moving_nil).yields
  refine .ite (fun _ => (giveUp_gives s _ moving_nil).yields) fun hrange => ?_
  refine (texture_yields s _ _).bindOption (fun _ => .pure moving_nil) fun ⟨texture, size⟩ _ _ => ?_
  refine (optionalTexture_gives s _ _).yields.bind fun night _ _ => ?_
  refine (quadState_gives s _ _ _ _ _).yields.bind fun state _ _ => ?_
  refine (subject_yields s _ _).bind fun subject _ hsubject => .pure (moving_single ?_)
  rw [hsubject]
  exact Motion.pointsTo_turning (m := n.angles) (mt Arith.beq_iff_eq.mpr hrange)
    (Subject.computes_meaning _ _) rfl

/-- The sweep follows its subject, in steps if there are any. Its angles are counted from
below, half a turn ahead of those of the section. -/
def DigitalGauge.Shown (g : DigitalGauge ℝ) (cars : Nat) : List (Step ℝ) → Prop :=
  Moving (·.SweepsTo ⟨g.initialAngle + Real.pi, g.lastAngle + Real.pi, g.minimum, g.maximum⟩ g.step
    (Subject.meaning cars g.subject.name))

theorem DigitalGauge.build_shows (g : DigitalGauge ℝ) (s : Section) (space : Space ℝ) :
    Yields env t (g.build s space) (g.Shown env.options.cars) := by
  unfold build
  refine .ite (fun _ => (giveUp_gives s _ moving_nil).yields) fun _ => ?_
  refine .ite (fun _ => (giveUp_gives s _ moving_nil).yields) fun hrange => ?_
  have hswept (t' : σ) : Yields env t' (do
      let quad := space.quad (.around g.location g.radius) (.both 0.5) (depthOf g.layer)
      let state : ElementState ℝ := ⟨quad.offset, .sweepFan (.plain none none g.tint)⟩
      let subject ← Build.subject s g.subject.name g.subject.line?
      let function := g.angles.expression (subject ++ quantize g.step)
      let motion := Motion.sweeping (.over quad g.angles.initial g.angles.last function)
      pure [.element ((Element.single .digitalGauge state).moving motion)])
      (g.Shown env.options.cars) := by
    refine (subject_yields s _ _).bind fun subject _ hsubject => .pure (moving_single ?_)
    rw [hsubject]
    exact Motion.sweepsTo_over (m := g.angles) (mt Arith.beq_iff_eq.mpr hrange)
      (follows_quantize g.step (.refl (Subject.computes_meaning _ _))) _
  exact .ite (fun _ => (warn_gives s _).yields.bind fun _ t' _ => hswept t') fun _ => hswept t

/-- The texture, which is the one the store loads, is shifted by `width` pixels of it. -/
def LinearGauge.Shown (g : LinearGauge ℝ) (env : BuildEnv ℝ σ) (t : σ) (steps : List (Step ℝ)) :
    Prop :=
  ∀ e, .element e ∈ steps → ∃ day id size, g.daytime? = some day ∧
    env.store.load? t day g.params = some (id, size) ∧
    e.states.map (·.mesh.material.daytime?) = [some id] ∧
    (0 < size.width → e.motion.ShiftsTo g.minimum g.maximum (g.width / size.width)
      (Subject.meaning env.options.cars g.subject.name))

theorem LinearGauge.shiftsTo_scrolling (g : LinearGauge ℝ) {textureWidth : ℝ}
    {subject : Expr ℝ} (hrange : g.minimum < g.maximum) (hsubject : subject.Computes) :
    (Motion.scrolling ⟨g.direction, g.shift textureWidth subject⟩).ShiftsTo g.minimum g.maximum
      (g.width / textureWidth) subject := by
  refine ⟨_, g.shiftOf textureWidth, rfl, ?_, ?_, ?_, g.follows_shift _ (.refl hsubject)⟩
  · refine ⟨g.width / textureWidth / (g.maximum - g.minimum),
      -g.minimum * (g.width / textureWidth / (g.maximum - g.minimum)), fun v => ?_⟩
    rw [shiftOf]
    ring
  · rw [shiftOf, sub_self, zero_mul]
  · rw [shiftOf, mul_div_cancel₀ _ (sub_pos.mpr hrange).ne']

theorem LinearGauge.build_shows (g : LinearGauge ℝ) (s : Section) (space : Space ℝ) :
    Yields env t (g.build s space) (g.Shown env t) := by
  unfold build
  cases hday : g.daytime? with
  | none => exact (giveUp_gives s _ fun _ h => nomatch h).yields
  | some day =>
  refine .ite (fun _ => (giveUp_gives s _ fun _ h => nomatch h).yields) fun hrange => ?_
  refine .ite (fun _ => (giveUp_gives s _ fun _ h => nomatch h).yields) fun _ => ?_
  refine (texture_yields s _ _).bindOption (fun _ => .pure fun _ h => nomatch h)
    fun ⟨texture, length⟩ _ hfound => ?_
  obtain ⟨⟨id, size⟩, hload, hsize⟩ := Option.map_eq_some_iff.mp hfound.symm
  cases hsize
  refine (optionalTexture_gives s _ _).yields.bind fun night _ _ => ?_
  refine (quadState_asks s _ _ _ _ _).yields.bind fun state _ hstate => ?_
  obtain ⟨_, _, rfl⟩ := hstate
  refine (subject_yields s _ _).bind fun subject _ hsubject => .pure fun e he => ?_
  cases List.mem_singleton.mp he
  refine ⟨day, id, size, hday, hload, rfl, fun _ => ?_⟩
  have hwidth : (lengths size : Point ℝ).x = size.width := Int.cast_natCast _
  rw [hsubject, ← hwidth]
  exact g.shiftsTo_scrolling (not_le.mp hrange) (Subject.computes_meaning _ _)

/-- What the section of a gauge shows, by its name. -/
def Shown (env : BuildEnv ℝ σ) (t : σ) (s : Section) (steps : List (Step ℝ)) : Prop :=
  match s.lowerName with
  | "needle" => ((s.read env.read).value : Needle ℝ).Shown env.options.cars steps
  | "lineargauge" => ((s.read env.read).value : LinearGauge ℝ).Shown env t steps
  | "digitalgauge" => ((s.read env.read).value : DigitalGauge ℝ).Shown env.options.cars steps
  | _ => True

theorem instrument_shows (space : Space ℝ) (s : Section) :
    Yields env t (instrument space s) (Shown env t s) := by
  unfold instrument Shown
  split
  next h => simp only [h]; exact fun _ _ => trivial
  next h => simp only [h]; exact buildWith_yields (Needle.build_shows _ s space)
  next h => simp only [h]; exact buildWith_yields (LinearGauge.build_shows _ s space)
  next h => simp only [h]; exact fun _ _ => trivial
  next h => simp only [h]; exact buildWith_yields (DigitalGauge.build_shows _ s space)
  next h => simp only [h]; exact fun _ _ => trivial
  next _ hneedle hlinear _ hdigital _ =>
    intro b _
    split
    next h => exact absurd h hneedle
    next h => exact absurd h hlinear
    next h => exact absurd h hdigital
    next => trivial

end Calibrated

/-! ## Framed gauges -/

namespace Framed

/-- Lamps or a hand show the subject on a dial. -/
def Dialled (usesLamps : Bool) (m : AngleMap ℝ) (subject : Expr ℝ) (motion : Motion ℝ) : Prop :=
  if usesLamps then motion.SweepsTo m 0 subject else motion.PointsTo m subject

theorem hand_moves_free (s : Section) (space : Space ℝ) (kind : ElementKind) (image : String)
    (center : Point ℝ) (radius depth : ℝ) (tint : Rgba) (function : Expr ℝ) :
    Gives (hand s space kind image center radius depth tint function : Build ℝ σ _)
      (Moving (· = .turning (.free function))) := by
  unfold hand
  refine (stockImage_gives s image).bindOption (.pure moving_nil) fun path => ?_
  refine (texture_gives s _ _).bindOption (.pure moving_nil) fun ⟨texture, size⟩ => ?_
  refine (quadState_gives s _ _ _ _ _).bind fun state _ => ?_
  exact .pure (moving_single rfl)

theorem optionalImage_still (s : Section) (space : Space ℝ) (kind : ElementKind)
    (path? : Option Path) (center : Point ℝ) (depth : ℝ) :
    Gives (optionalImage s space kind path? center depth : Build ℝ σ _) (Moving (· = .still)) := by
  have image (path : Path) : Gives (centeredImage s space kind path center depth : Build ℝ σ _)
      fun step? => Moving (· = .still) step?.toList := by
    unfold centeredImage
    refine (texture_gives s _ _).bindOption (.pure moving_nil) fun ⟨texture, size⟩ => ?_
    refine (quadState_gives s _ _ _ _ _).bind fun state _ => ?_
    exact .pure (moving_single rfl)
  unfold optionalImage
  cases path? with
  | none => exact .pure moving_nil
  | some path => exact (image path).bind fun _ h => .pure h

/-- Lamps and hands on one dial show the same. -/
theorem pointer_shows {usesLamps : Bool} {m : AngleMap ℝ} (hrange : m.minimum ≠ m.maximum)
    {subject : Expr ℝ} (hsubject : subject.Computes) (s : Section) (space : Space ℝ)
    (kind : ElementKind) (image : String) (center : Point ℝ) (radius depth : ℝ)
    (lampTint tint : Rgba) :
    Yields env t
      (if usesLamps then
        pure [lamps space kind center radius depth lampTint m.initial m.last
          (m.expression subject)]
      else hand s space kind image center radius depth tint (m.expression subject))
      (Moving (Dialled usesLamps m subject)) := by
  cases usesLamps with
  | true =>
    refine .pure (moving_single (Motion.sweepsTo_over hrange ?_ _))
    rw [lowered_zero]
    exact .refl hsubject
  | false =>
    refine (hand_moves_free s space kind image _ _ _ _ _).yields.mono fun steps h e he => ?_
    rw [h e he]
    exact Motion.pointsTo_turning hrange hsubject rfl

/-! ### Pressure gauges -/

/-- The pointer follows the pressure of its needle, in pascals. -/
def PressureGauge.Follows (g : PressureGauge ℝ) (needle? : Option PressureNeedle)
    (motion : Motion ℝ) : Prop :=
  ∃ needle, needle? = some needle ∧
    Dialled g.usesLamps
      ⟨(dialAngles g.usesLamps g.gap).1, (dialAngles g.usesLamps g.gap).2,
        g.minimum * g.unit, g.maximum * g.unit⟩
      [.name needle.pressure.name] motion

/-- Between images that stand still, the lower needle and then the upper one. -/
def PressureGauge.Shown (g : PressureGauge ℝ) (steps : List (Step ℝ)) : Prop :=
  ∃ background lower upper cover, steps = background ++ lower ++ upper ++ cover ∧
    Moving (· = .still) (background ++ cover) ∧ Moving (g.Follows g.lower?) lower ∧
    Moving (g.Follows g.upper?) upper

theorem PressureGauge.read_unit (env : ReadEnv) (s : Section) :
    ((s.read env).value : PressureGauge ℝ).unit ≠ 0 := by
  have hunit : (1000.0 : ℝ) ≠ 0 := by norm_num
  refine readRecords_keeps (P := fun g : PressureGauge ℝ => g.unit ≠ 0) ?_ _ _ hunit
  simp only [Readable.fields, fields, List.forall_mem_cons]
  refine ⟨Field.keeping_keeps fun _ _ _ _ h => h, Field.keeping_keeps fun _ _ _ _ h => h,
    Field.keeping_keeps fun _ _ _ _ h => h, Field.keeping_keeps fun _ _ _ _ h => h,
    Field.keeping_keeps fun _ _ _ _ h => h, Field.always_keeps fun _ _ h => h,
    Field.always_keeps fun _ _ h => h, Field.keeping_keeps fun c u hu g _ => ?_,
    Field.keeping_keeps fun _ _ _ _ h => h, Field.keeping_keeps fun _ _ _ _ h => h,
    Field.keeping_keeps fun _ _ _ _ h => h, nofun⟩
  have hmem := mem_of_unitOf hu
  simp only [units, List.map_cons, List.map_nil, List.mem_cons, List.not_mem_nil, or_false] at hmem
  rcases hmem with rfl | rfl <;> norm_num

theorem PressureGauge.pointer_shows (g : PressureGauge ℝ) (hunit : g.unit ≠ 0)
    (hrange : g.minimum ≠ g.maximum) (s : Section) (space : Space ℝ)
    (needle? : Option PressureNeedle) (image : String) (layer : Int) :
    Yields env t (g.pointer s space needle? image layer) (Moving (g.Follows needle?)) := by
  unfold pointer
  cases needle? with
  | none => exact .pure moving_nil
  | some needle =>
    have hscaled : g.angles.minimum ≠ g.angles.maximum := mt (mul_left_injective₀ hunit ·) hrange
    have hpressure := computes_pressure (K := ℝ) needle.pressure
    refine (Framed.pointer_shows hscaled hpressure s space .pressureGauge image g.center g.radius
      (depthOf layer) needle.tint needle.tint).mono fun steps h e he => ?_
    exact ⟨needle, rfl, h e he⟩

theorem PressureGauge.build_shows (g : PressureGauge ℝ) (hunit : g.unit ≠ 0) (s : Section)
    (space : Space ℝ) : Yields env t (g.build s space) g.Shown := by
  unfold build
  refine .ite (fun _ => (giveUp_gives s _ ?_).yields) fun hrange => ?_
  · exact ⟨[], [], [], [], rfl, moving_nil, moving_nil, moving_nil⟩
  have hne : g.minimum ≠ g.maximum := mt Arith.beq_iff_eq.mpr hrange
  refine (optionalImage_still s space _ _ _ _).yields.bind fun background _ hbackground => ?_
  refine (g.pointer_shows hunit hne s space _ _ _).bind fun lower _ hlower => ?_
  refine (g.pointer_shows hunit hne s space _ _ _).bind fun upper _ hupper => ?_
  refine (optionalImage_still s space _ _ _ _).yields.bind fun cover _ hcover => .pure ?_
  exact ⟨background, lower, upper, cover, rfl, moving_append hbackground hcover, hlower, hupper⟩

/-! ### Speedometers -/

/-- Between images that stand still, the pointer that follows the size of the speed, in
metres per second. -/
def Speedometer.Shown (m : Speedometer ℝ) (steps : List (Step ℝ)) : Prop :=
  ∃ background signals pointer cover, steps = background ++ signals ++ pointer ++ cover ∧
    Moving (· = .still) (background ++ signals ++ cover) ∧
    Moving (Dialled m.usesLamps
      ⟨(dialAngles m.usesLamps m.gap).1, (dialAngles m.usesLamps m.gap).2, 0, m.maximum⟩
      [.name "speedometer", .operator .abs]) pointer

theorem Speedometer.read_maximum (env : ReadEnv) (s : Section) :
    0 < ((s.read env).value : Speedometer ℝ).maximum := by
  have hmaximum : (0 : ℝ) < 120.0 / 3.6 := by norm_num
  refine readRecords_keeps (P := fun m : Speedometer ℝ => 0 < m.maximum) ?_ _ _ hmaximum
  simp only [Readable.fields, fields, List.forall_mem_cons]
  refine ⟨Field.keeping_keeps fun _ _ _ _ h => h, Field.always_keeps fun _ _ h => h,
    Field.always_keeps fun _ _ h => h, Field.always_keeps fun _ _ h => h,
    Field.keeping_keeps fun _ _ _ _ h => h, Field.keeping_keeps fun _ _ _ _ h => h,
    Field.keeping_keeps fun _ _ _ _ h => h, Field.keeping_keeps fun _ _ _ _ h => h,
    Field.keeping_keeps fun _ _ _ _ h => h, Field.testedNumber_keeps fun x hx m _ => ?_, nofun⟩
  have hpositive : (0.0 : ℝ) < x := of_decide_eq_true hx
  norm_num at hpositive
  exact div_pos hpositive (by norm_num)

theorem Speedometer.signals_still (m : Speedometer ℝ) (s : Section) (space : Space ℝ) :
    Gives (m.signals s space : Build ℝ σ _) (Moving (· = .still)) := by
  unfold signals
  rcases m.signals? with _ | path
  · exact .pure moving_nil
  refine (imageSize_gives s _).bindOption (.pure moving_nil) fun sheet => ?_
  have hlamp (state : ElementState ℝ) : ((Element.single .speedometer state).selectedBy
      [.integer 271, .operator .pluginState]).motion = .still := rfl
  intro env b
  obtain ⟨h, hb⟩ := strip_gives (P := (·.motion = .still))
    (m.signalFrame_gives s space path sheet.y) hlamp
    (min (Sheet.frameCount sheet.x sheet.y) (signalSpeeds (K := ℝ)).length) env b
  exact ⟨h.elements, hb⟩

theorem Speedometer.pointer_shows (m : Speedometer ℝ) (hmaximum : 0 < m.maximum) (s : Section)
    (space : Space ℝ) :
    Yields env t (m.pointer s space) (Moving (Dialled m.usesLamps
      ⟨(dialAngles m.usesLamps m.gap).1, (dialAngles m.usesLamps m.gap).2, 0, m.maximum⟩
      [.name "speedometer", .operator .abs])) := by
  have hangles : m.angles m.usesLamps =
      ⟨(dialAngles m.usesLamps m.gap).1, (dialAngles m.usesLamps m.gap).2, 0, m.maximum⟩ :=
    congrArg (AngleMap.mk _ _ · _) (by norm_num : (0.0 : ℝ) = 0)
  have hcomputes : Expr.Computes (K := ℝ) [.name "speedometer", .operator .abs] :=
    ⟨by simp [trainVariables], rfl⟩
  unfold pointer
  rw [hangles]
  exact Framed.pointer_shows hmaximum.ne hcomputes s space _ _ _ _ _ _ _

theorem Speedometer.build_shows (m : Speedometer ℝ) (hmaximum : 0 < m.maximum) (s : Section)
    (space : Space ℝ) : Yields env t (m.build s space) m.Shown := by
  unfold build
  refine (optionalImage_still s space _ _ _ _).yields.bind fun background _ hbackground => ?_
  refine (m.signals_still s space).yields.bind fun signals _ hsignals => ?_
  refine (m.pointer_shows hmaximum s space).bind fun pointer _ hpointer => ?_
  refine (optionalImage_still s space _ _ _ _).yields.bind fun cover _ hcover => .pure ?_
  exact ⟨background, signals, pointer, cover, rfl,
    moving_append (moving_append hbackground hsignals) hcover, hpointer⟩

/-- What the section of a gauge shows, by its name. -/
def Shown (env : ReadEnv) (s : Section) (steps : List (Step ℝ)) : Prop :=
  match s.lowerName with
  | "pressuregauge" | "pressuremeter" | "pressureindicator" | "圧力計" =>
    ((s.read env).value : PressureGauge ℝ).Shown steps
  | "speedometer" | "speedindicator" | "速度計" => ((s.read env).value : Speedometer ℝ).Shown steps
  | _ => True

theorem instrument_shows (space : Space ℝ) (s : Section) :
    Yields env t (instrument space s) (Shown env.read s) := by
  have hpressure : Yields env t (buildWith (PressureGauge ℝ) (fun x s => x.build s space) s)
      ((s.read env.read).value : PressureGauge ℝ).Shown :=
    buildWith_yields (PressureGauge.build_shows _ (PressureGauge.read_unit _ s) s space)
  have hspeed : Yields env t (buildWith (Speedometer ℝ) (fun x s => x.build s space) s)
      ((s.read env.read).value : Speedometer ℝ).Shown :=
    buildWith_yields (Speedometer.build_shows _ (Speedometer.read_maximum _ s) s space)
  unfold instrument Shown
  split
  case h_1 h | h_2 h | h_3 h | h_4 h => simp only [h]; exact hpressure
  case h_5 h | h_6 h | h_7 h => simp only [h]; exact hspeed
  case h_8 h | h_9 h | h_10 h | h_11 h | h_12 h | h_13 h | h_14 h | h_15 h =>
    simp only [h]; exact fun _ _ => trivial
  case h_16 _ n₁ n₂ n₃ n₄ n₅ n₆ n₇ _ _ _ _ _ _ _ _ =>
    intro b _
    split
    next h => exact absurd h n₁
    next h => exact absurd h n₂
    next h => exact absurd h n₃
    next h => exact absurd h n₄
    next h => exact absurd h n₅
    next h => exact absurd h n₆
    next h => exact absurd h n₇
    next => trivial

end Framed

/-- Gauges show their subjects. -/
theorem gauges_show_subjects (env : BuildEnv ℝ σ) (b : Bench σ) (space : Space ℝ) (s : Section) :
    Calibrated.Shown env b.textures s (Calibrated.instrument space s env b).1 ∧
      Framed.Shown env.read s (Framed.instrument space s env b).1 :=
  ⟨Calibrated.instrument_shows space s b rfl, Framed.instrument_shows space s b rfl⟩

end DriverDesk
