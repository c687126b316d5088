import DriverDesk.Proofs.Accounted
import DriverDesk.Proofs.Doubles

/-!
# The numbers of expressions

The numbers that stand in expressions are constants, numbers of the panel file, and numbers that
are worked out from these: the powers of ten of a digit, the coefficients of an angle map, the
reciprocal of a step and the factor of a shift. Nothing but a number that is worked out can leave
the doubles, and all others are written as decimals.
-/

namespace DriverDesk

open Build Step

variable {σ : Type}

/-! ## Expressions -/

namespace Expr

/-- The numbers of the expression are finite, or among those that `D` tells. -/
def Numbers (D : Float → Prop) (x : Expr Float) : Prop := ∀ k, .number k ∈ x → IsFinite k ∨ D k

/-- No number of the expression has left the doubles. -/
def allFinite (x : Expr Float) : Bool :=
  x.all fun
    | .number k => decide (IsFinite k)
    | _ => true

variable {D : Float → Prop} {x y : Expr Float}

theorem Numbers.append (hx : x.Numbers D) (hy : y.Numbers D) : (x ++ y).Numbers D := by
  intro k hk
  rcases List.mem_append.mp hk with hk | hk
  · exact hx k hk
  · exact hy k hk

theorem Numbers.mono {D' : Float → Prop} (hx : x.Numbers D) (h : ∀ k, D k → D' k) :
    x.Numbers D' :=
  fun k hk => (hx k hk).imp_right (h k)

theorem numbers_of_allFinite (h : x.allFinite = true) : x.Numbers D := fun k hk =>
  .inl (of_decide_eq_true (List.all_eq_true.mp h (.number k) hk))

end Expr

/-! ## Subjects -/

/-- A whole number without a sign is not negative. -/
theorem Numeral.intWithin?_nonneg {bound : Nat} {text : String} {n : Int}
    (h : intWithin? bound text = some n) (hdigits : ∀ c ∈ text.toList, c.isDigit = true) :
    0 ≤ n := by
  have hsign : (takeSign text.toList).1 = false := by
    unfold takeSign
    split
    next heq => exact absurd (hdigits '-' (by rw [heq]; exact List.mem_cons_self)) (by decide)
    next => rfl
    next => rfl
  unfold intWithin? at h
  cases hread : takeSign text.toList with
  | mk negative ds =>
  rw [hread] at h hsign
  dsimp only at h hsign
  split at h
  · cases h
  rw [hsign, if_neg Bool.false_ne_true] at h
  split at h
  · exact Option.some.inj h ▸ Int.natCast_nonneg _
  · cases h

namespace Subject

open DriverDesk.Expr

/-- The digit of its value that a subject asks for. -/
def digit? (subject : String) : Option Int :=
  (splitDigit (String.ofList (Text.trim subject.toList))).2

/-- A power of ten for a digit beyond those of the doubles. -/
def Derives (subject : String) (k : Float) : Prop :=
  ∃ n : Nat, digit? subject = some (n : Int) ∧ 308 < n ∧
    (k = Arith.power 10.0 n ∨ k = Arith.power 10.0 (-(n : Int)))

theorem numbers_of_fixed {D : Float → Prop} {subject : String} {e : Expr Float}
    (h : fixed? subject = some e) : e.Numbers D := by
  refine numbers_of_allFinite ?_
  unfold fixed? at h
  split at h
  case h_20 =>
    split at h
    · exact Option.some.inj h ▸ rfl
    · cases h
  all_goals exact Option.some.inj h ▸ by decide +kernel

theorem numbers_of_indexed {D : Float → Prop} {cars : Nat} {subject : String} {e : Expr Float}
    (h : indexed? cars subject = some e) : e.Numbers D := by
  have doors_numbers (car : Int) (side : Operator) : (doors cars car side).Numbers D := by
    unfold doors
    split <;> exact numbers_of_allFinite rfl
  unfold indexed? at h
  split at h
  · simp only [Option.bind_eq_bind, Option.bind_eq_some_iff] at h
    obtain ⟨n, -, h⟩ := h
    split at h
    · exact Option.some.inj h ▸ numbers_of_allFinite rfl
    · cases h
  · split at h
    · obtain ⟨n, -, rfl⟩ := Option.map_eq_some_iff.mp h
      exact doors_numbers n _
    · split at h
      · obtain ⟨n, -, rfl⟩ := Option.map_eq_some_iff.mp h
        exact doors_numbers n _
      · cases h

/-- A digit is not negative, as there is no sign among the characters behind the `d`. -/
theorem digit?_nonneg {subject : String} {n : Int} (h : digit? subject = some n) : 0 ≤ n := by
  unfold digit? splitDigit at h
  dsimp only at h
  split at h
  · cases h
  split at h
  · cases h
  split at h
  next hdigits =>
    split at h
    next m hm =>
      obtain rfl := Option.some.inj h
      refine Numeral.intWithin?_nonneg hm fun c hc => List.all_eq_true.mp hdigits c ?_
      rw [String.toList_ofList] at hc
      exact List.mem_reverse.mp hc
    next => cases h
  next => cases h

theorem mem_digitSelector {n : Int} {k : Float} (h : .number k ∈ digitSelector n) :
    k = Arith.power 10.0 n ∨ k = Arith.power 10.0 (-n) := by
  unfold digitSelector at h
  split at h
  · simp at h
  · simpa using h

theorem numbers_meaning (cars : Nat) (subject : String) :
    (meaning cars subject).Numbers (Derives subject) := by
  rw [meaning, value_expression]
  refine Numbers.append ?_ ?_
  · cases hbase : resolve? (K := Float) cars
        (splitDigit (String.ofList (Text.trim subject.toList))).1 with
    | none => exact numbers_of_allFinite rfl
    | some e =>
      unfold resolve? at hbase
      dsimp only at hbase
      split at hbase
      next he => exact Option.some.inj hbase ▸ numbers_of_fixed he
      next => exact numbers_of_indexed hbase
  · cases hdigit : (splitDigit (String.ofList (Text.trim subject.toList))).2 with
    | none => exact numbers_of_allFinite rfl
    | some n =>
      obtain ⟨n, rfl⟩ := Int.eq_ofNat_of_zero_le (digit?_nonneg hdigit)
      intro k hk
      have hpower : k = Arith.power 10.0 n ∨ k = Arith.power 10.0 (-(n : Int)) :=
        mem_digitSelector hk
      rcases Nat.lt_or_ge 308 n with hn | hn
      · exact .inr ⟨n, hdigit, hn, hpower⟩
      · refine .inl ?_
        rcases hpower with rfl | rfl
        · exact (isFinite_power hn).1
        · exact (isFinite_power hn).2

end Subject

/-! ## Angle maps and steps -/

/-- One of the coefficients of the map. -/
def AngleMap.Derives (m : AngleMap Float) (k : Float) : Prop :=
  k = m.coefficients.1 ∨ k = m.coefficients.2

theorem AngleMap.numbers_expression {D : Float → Prop} (m : AngleMap Float) {value : Expr Float}
    (h : value.Numbers D) : (m.expression value).Numbers fun k => D k ∨ m.Derives k := by
  refine (h.mono fun k hk => .inl hk).append fun k hk => .inr (.inr ?_)
  simpa [Derives] using hk

/-- What moves in steps is multiplied by the step and by its reciprocal. -/
theorem numbers_quantize {step : Float} (h : IsFinite step) :
    (quantize step).Numbers (· = 1.0 / step) := by
  intro k hk
  unfold quantize at hk
  split at hk
  · simp at hk
  · split at hk
    · cases hk
    · have hk : k = 1.0 / step ∨ k = step := by simpa using hk
      exact hk.elim .inr fun hk => .inl (hk ▸ h)

/-! ## Instruments of calibrated panels -/

namespace Calibrated

/-- A number that a needle works out. -/
def Needle.Derives (n : Needle Float) (k : Float) : Prop :=
  Subject.Derives n.subject.name k ∨ n.angles.Derives k

theorem Needle.numbers_of_writes {n : Needle Float} {x : Expr Float} (h : n.Writes x) :
    x.Numbers n.Derives := by
  obtain ⟨cars, hx⟩ := h
  rw [hx]
  exact n.angles.numbers_expression (Subject.numbers_meaning cars _)

theorem PilotLamp.numbers_of_writes {l : PilotLamp Float} {x : Expr Float} (h : l.Writes x) :
    x.Numbers (Subject.Derives l.subject.name) := by
  obtain ⟨cars, hx⟩ := h
  rw [hx]
  exact (Subject.numbers_meaning cars _).append (Expr.numbers_of_allFinite rfl)

/-- A number that a gauge works out: the pixels that its texture moves for a unit of the
subject, in widths of the texture. -/
def LinearGauge.Derives (g : LinearGauge Float) (k : Float) : Prop :=
  Subject.Derives g.subject.name k ∨
    ∃ pixels : Nat, k = g.width / Arith.ofInt pixels / (g.maximum - g.minimum)

theorem LinearGauge.numbers_of_writes {g : LinearGauge Float} (hminimum : IsFinite g.minimum)
    {x : Expr Float} (h : g.Writes x) : x.Numbers g.Derives := by
  obtain ⟨cars, pixels, hx⟩ := h
  rw [hx]
  refine ((Subject.numbers_meaning cars _).mono fun k hk => .inl hk).append fun k hk => ?_
  have hk : k = g.minimum ∨ k = g.width / Arith.ofInt pixels / (g.maximum - g.minimum) := by
    simpa using hk
  rcases hk with rfl | hk
  · exact .inl hminimum
  · exact .inr (.inr ⟨pixels, hk⟩)

theorem DigitalNumber.numbers_of_writes {d : DigitalNumber Float} {x : Expr Float}
    (h : d.Writes x) : x.Numbers (Subject.Derives d.subject.name) := by
  obtain ⟨cars, hx⟩ := h
  rw [hx]
  exact Subject.numbers_meaning cars _

/-- A number that a gauge works out. -/
def DigitalGauge.Derives (g : DigitalGauge Float) (k : Float) : Prop :=
  (Subject.Derives g.subject.name k ∨ k = 1.0 / g.step) ∨ g.angles.Derives k

theorem DigitalGauge.numbers_of_writes {g : DigitalGauge Float} (hstep : IsFinite g.step)
    {x : Expr Float} (h : g.Writes x) : x.Numbers g.Derives := by
  obtain ⟨cars, hx⟩ := h
  rw [hx]
  refine g.angles.numbers_expression (.append ?_ ?_)
  · exact (Subject.numbers_meaning cars _).mono fun k hk => .inl hk
  · exact (numbers_quantize hstep).mono fun k hk => .inr hk

theorem LinearGauge.read_minimum (env : ReadEnv) (s : Section) :
    IsFinite ((s.read env).value : LinearGauge Float).minimum := by
  have hzero : IsFinite 0.0 := rfl
  refine readRecords_keeps (P := fun g : LinearGauge Float => IsFinite g.minimum) ?_ _ _ hzero
  simp only [Readable.fields, fields, List.forall_mem_cons]
  exact ⟨Field.always_keeps fun _ _ h => h, Field.keeping_keeps fun _ _ _ _ h => h,
    Field.keeping_keeps fun c x hx _ _ => c.isFinite_of_number hx,
    Field.keeping_keeps fun _ _ _ _ h => h, Field.keeping_keeps fun _ _ _ _ h => h,
    Field.keeping_keeps fun _ _ _ _ h => h, Field.always_keeps fun _ _ h => h,
    Field.always_keeps fun _ _ h => h, Field.keeping_keeps fun _ _ _ _ h => h,
    Field.keeping_keeps fun _ _ _ _ h => h, fun _ h => absurd h List.not_mem_nil⟩

theorem DigitalGauge.read_step (env : ReadEnv) (s : Section) :
    IsFinite ((s.read env).value : DigitalGauge Float).step := by
  have hzero : IsFinite 0.0 := rfl
  refine readRecords_keeps (P := fun g : DigitalGauge Float => IsFinite g.step) ?_ _ _ hzero
  simp only [Readable.fields, fields, List.forall_mem_cons]
  exact ⟨Field.always_keeps fun _ _ h => h, Field.keeping_keeps fun _ _ _ _ h => h,
    Field.keeping_keeps fun _ _ _ _ h => h, Field.keeping_keeps fun _ _ _ _ h => h,
    Field.keeping_keeps fun _ _ _ _ h => h, Field.keeping_keeps fun _ _ _ _ h => h,
    Field.keeping_keeps fun _ _ _ _ h => h, Field.keeping_keeps fun _ _ _ _ h => h,
    Field.keeping_keeps fun c x hx _ _ => c.isFinite_of_number hx,
    Field.keeping_keeps fun _ _ _ _ h => h, fun _ h => absurd h List.not_mem_nil⟩

/-- The numbers that a section of a calibrated panel works out, by the kind of the section. -/
def Derives (env : ReadEnv) (s : Section) : Float → Prop :=
  match s.lowerName with
  | "pilotlamp" => Subject.Derives (s.read env : Noted (PilotLamp Float)).value.subject.name
  | "needle" => (s.read env : Noted (Needle Float)).value.Derives
  | "lineargauge" => (s.read env : Noted (LinearGauge Float)).value.Derives
  | "digitalnumber" =>
    Subject.Derives (s.read env : Noted (DigitalNumber Float)).value.subject.name
  | "digitalgauge" => (s.read env : Noted (DigitalGauge Float)).value.Derives
  | _ => fun _ => False

end Calibrated

/-! ## Instruments of framed panels -/

namespace Framed

theorem PressureGauge.numbers_of_writes {g : PressureGauge Float} {x : Expr Float}
    (h : g.Writes x) : x.Numbers g.angles.Derives := by
  obtain ⟨p, hx⟩ := h
  rw [hx]
  refine (g.angles.numbers_expression (D := fun _ => False) ?_).mono fun k hk => hk.resolve_left id
  exact Expr.numbers_of_allFinite rfl

theorem Speedometer.numbers_of_writes {m : Speedometer Float} {x : Expr Float}
    (h : m.Writes x) : x.Numbers (m.angles m.usesLamps).Derives := by
  rcases h with hx | hx <;> rw [hx]
  · exact Expr.numbers_of_allFinite rfl
  · refine (AngleMap.numbers_expression (D := fun _ => False) _ ?_).mono
      fun k hk => hk.resolve_left id
    exact Expr.numbers_of_allFinite rfl

theorem DigitalIndicator.numbers_of_mem {d : DigitalIndicator Float} (hunit : IsFinite d.unit)
    {D : Float → Prop} : ∀ x ∈ d.digitFunctions, x.Numbers D := by
  have hspeed : (Subject.speedIn d.unit).Numbers D := fun k hk => by
    have hk : k = d.unit := by simpa [Subject.speedIn] using hk
    exact .inl (hk ▸ hunit)
  simp only [digitFunctions, List.forall_mem_cons]
  exact ⟨hspeed.append (Expr.numbers_of_allFinite rfl),
    hspeed.append (Expr.numbers_of_allFinite rfl), hspeed.append (Expr.numbers_of_allFinite rfl),
    fun _ h => absurd h List.not_mem_nil⟩

theorem Watch.numbers_of_writes {D : Float → Prop} {x : Expr Float} (h : Watch.Writes x) :
    x.Numbers D := by
  rcases h with hx | hx | hx <;> rw [hx] <;> exact Expr.numbers_of_allFinite (by decide +kernel)

theorem numbers_brakeFunction {D : Float → Prop} (handle : BrakeHandle) :
    (brakeFunction handle : Expr Float).Numbers D := by
  unfold brakeFunction
  split <;> exact Expr.numbers_of_allFinite rfl

theorem DigitalIndicator.read_unit (env : ReadEnv) (s : Section) :
    IsFinite ((s.read env).value : DigitalIndicator Float).unit := by
  have hunits : ∀ u ∈ (units (K := Float)).map (·.2), IsFinite u := by decide +kernel
  refine readRecords_keeps (P := fun d : DigitalIndicator Float => IsFinite d.unit) ?_ _ _
    (hunits _ List.mem_cons_self)
  simp only [Readable.fields, fields, List.forall_mem_cons]
  exact ⟨Field.always_keeps fun _ _ h => h, Field.keeping_keeps fun _ _ _ _ h => h,
    Field.keeping_keeps fun _ _ _ _ h => h,
    Field.keeping_keeps fun c u hu _ _ => hunits u (mem_of_unitOf hu),
    fun _ h => absurd h List.not_mem_nil⟩

/-- The numbers that a section of a framed panel works out, by the kind of the section. -/
def Derives (env : ReadEnv) (s : Section) : Float → Prop :=
  match s.lowerName with
  | "pressuregauge" | "pressuremeter" | "pressureindicator" | "圧力計" =>
    (s.read env : Noted (PressureGauge Float)).value.angles.Derives
  | "speedometer" | "speedindicator" | "速度計" =>
    let m := (s.read env : Noted (Speedometer Float)).value
    (m.angles m.usesLamps).Derives
  | _ => fun _ => False

end Framed

/-- The numbers that a section of a panel works out. -/
def PanelFormat.Derives (env : ReadEnv) (s : Section) : PanelFormat → Float → Prop
  | .calibrated => Calibrated.Derives env s
  | .framed => Framed.Derives env s

/-! ## Sections -/

/-- Steps whose elements write no numbers but finite ones and those that `D` tells. -/
def Step.Numbers (D : Float → Prop) : List (Step Float) → Prop :=
  Assembled (Element.Writes (Expr.Numbers D))

theorem Step.Assembled.numbers {P : Expr Float → Prop} {D : Float → Prop}
    {steps : List (Step Float)} (h : Assembled (Element.Writes P) steps)
    (hP : ∀ x, P x → x.Numbers D) : Numbers D steps :=
  h.mono fun _ he x hx => hP x (he x hx)

section

variable {env : BuildEnv Float σ} {s : Section} {fault : Prop}

/-- What an instrument writes for the settings that its section is read to. -/
theorem buildWith_numbers {α : Type} [Readable α] (hread : Readable.Blames α)
    {build : α → Section → Build Float σ (List (Step Float))} {P : α → Expr Float → Prop}
    (hbuild : ∀ a, Gives (build a s) (Assembled (Element.Writes (P a)))) {D : Float → Prop}
    (hP : ∀ x, P (s.read env.read).value x → x.Numbers D) :
    Leaves env s fault (buildWith α build s) (Step.Numbers D) :=
  (Framed.buildWith_leaves hread fun a => (hbuild a).leaves).mono fun _ h => h.1.numbers hP

namespace Calibrated

theorem instrument_numbers (space : Space Float) :
    Leaves env s fault (instrument space s) (Step.Numbers (Derives env.read s)) := by
  unfold instrument
  split
  next hname =>
    rw [Derives, hname]
    exact buildWith_numbers PilotLamp.blames (fun l => l.build_writes s space)
      fun _ hx => PilotLamp.numbers_of_writes hx
  next hname =>
    rw [Derives, hname]
    exact buildWith_numbers Needle.blames (fun n => n.build_writes s space)
      fun _ hx => Needle.numbers_of_writes hx
  next hname =>
    rw [Derives, hname]
    exact buildWith_numbers LinearGauge.blames (fun g => g.build_writes s space)
      fun _ hx => LinearGauge.numbers_of_writes (LinearGauge.read_minimum env.read s) hx
  next hname =>
    rw [Derives, hname]
    exact buildWith_numbers DigitalNumber.blames (fun d => d.build_writes s space)
      fun _ hx => DigitalNumber.numbers_of_writes hx
  next hname =>
    rw [Derives, hname]
    exact buildWith_numbers DigitalGauge.blames (fun g => g.build_writes s space)
      fun _ hx => DigitalGauge.numbers_of_writes (DigitalGauge.read_step env.read s) hx
  next =>
    refine buildWith_numbers Timetable.blames (fun t => t.build_writes s space) fun _ hx => ?_
    exact hx ▸ Expr.numbers_of_allFinite rfl
  next => exact .pure .nil

theorem part_numbers (space : Space Float) (key : Rgb) (header? : Option (Header Float)) :
    Leaves env s fault (part space key s header?) (Step.Numbers (Derives env.read s)) := by
  cases header? with
  | none => exact instrument_numbers space
  | some h => exact (h.build_writes s space key).leaves

end Calibrated

namespace Framed

theorem instrument_numbers (space : Space Float) :
    Leaves env s fault (instrument space s) (Step.Numbers (Derives env.read s)) := by
  unfold instrument
  split
  case h_1 hname | h_2 hname | h_3 hname | h_4 hname =>
    rw [Derives, hname]
    exact buildWith_numbers PressureGauge.blames (fun g => g.build_writes s space)
      fun _ hx => PressureGauge.numbers_of_writes hx
  case h_5 hname | h_6 hname | h_7 hname =>
    rw [Derives, hname]
    exact buildWith_numbers Speedometer.blames (fun m => m.build_writes s space)
      fun _ hx => Speedometer.numbers_of_writes hx
  case h_8 | h_9 =>
    exact buildWith_numbers DigitalIndicator.blames (fun d => d.build_writes s space)
      (DigitalIndicator.numbers_of_mem (DigitalIndicator.read_unit env.read s))
  case h_10 | h_11 =>
    refine buildWith_numbers PilotLamp.blames (fun l => l.build_writes s space) fun _ hx => ?_
    exact hx ▸ Expr.numbers_of_allFinite rfl
  case h_12 | h_13 =>
    exact buildWith_numbers Watch.blames (fun w => w.build_writes s space)
      fun _ hx => Watch.numbers_of_writes hx
  case h_14 | h_15 =>
    refine buildWith_numbers BrakeIndicator.blames (fun b => b.build_writes s space)
      fun _ ⟨handle, hx⟩ => ?_
    exact hx ▸ numbers_brakeFunction handle
  case h_16 => exact .pure .nil

theorem part_numbers (space : Space Float) (frame : Frame Float) (h : Heading Float) :
    Leaves env s fault (part space frame s h) (Step.Numbers (Derives env.read s)) := by
  cases h with
  | background b => exact (b.build_writes s space frame).leaves
  | view v => exact .pure .nil
  | instrument => exact instrument_numbers space

end Framed

end

/-! ## Compiles -/

namespace Expr

/-- A word that is a decimal number, a variable of the train or an operator. -/
def IsPlain (w : String) : Prop :=
  Text.IsDecimal w ∨ w ∈ trainVariables ∨ ∃ op : Operator, w = op.symbol

/-- None of the plain words says that a number is not finite. -/
theorem IsPlain.not_mem {w : String} (h : IsPlain w) : w ∉ nonFinite := by
  rcases h with h | h | ⟨op, rfl⟩
  · obtain ⟨c, hc, hdigit⟩ := h.digit
    intro hw
    have hlast : w.toList.getLast? = some 'N' ∨ w.toList.getLast? = some 'f' := by
      simp only [nonFinite, List.mem_cons, List.not_mem_nil, or_false] at hw
      obtain rfl | rfl | rfl := hw
      · exact .inl rfl
      · exact .inr rfl
      · exact .inr rfl
    rw [hc, Option.some.injEq, Option.some.injEq] at hlast
    obtain rfl | rfl := hlast
    · cases hdigit
    · cases hdigit
  · revert w
    decide
  · cases op <;> decide

theorem isPlain_text {w : Word Float} (hname : ∀ s, w = .name s → s ∈ trainVariables)
    (hnumber : ∀ k, w = .number k → IsFinite k) : IsPlain w.text := by
  cases w with
  | number k => exact .inl (isDecimal_floatText (hnumber k rfl))
  | integer n => exact .inl (isDecimal_toString n)
  | name s => exact .inr (.inl (hname s rfl))
  | operator op => exact .inr (.inr ⟨op, rfl⟩)

end Expr

namespace Compilation

/-- The words of every expression that a compile adds are decimal numbers, variables and
operators, and so neither `NaN` nor `inf`. The one exception is a number that the section of the
element works out, and that is not finite. -/
theorem added_numbers (format : PanelFormat) (source : PanelSource) (options : Options Float)
    (files : FileView) (store : TextureStore σ) (signal : Signal) (textures : σ)
    (cars : Cars Float) :
    let c := compileAs format source options files store signal textures
    let env := environment source options files store
    ∀ e ∈ ((c.commit cars options.car).2.elements options.car).drop
        (cars.elements options.car).length,
      ∃ s ∈ (Sections.ofLines source.lines).sections,
        ∀ x ∈ e.expressions, ∀ w ∈ Text.words x.text,
          (Expr.IsPlain w ∧ w ∉ nonFinite) ∨
            ∃ k, format.Derives env.read s k ∧ ¬ IsFinite k ∧ w = Decimal.floatText k := by
  intro c env e he
  have hassembled := batches_assembled format source options files store signal textures
  have hadded : e ∈ c.added := by
    rw [elements_commit hassembled cars options.car, List.drop_left] at he
    exact he
  have hbound : e.Bound := forall_mem_added (fun _ s he => he.addState s) hassembled e hadded
  have hplan := prepared_asks format source options files store textures
    (Plan.make_leaves (P := fun format s _ => Step.Numbers (format.Derives env.read s))
      (fun _ _ _ _ => Calibrated.part_numbers _ _ _) (fun _ _ _ _ => Framed.part_numbers _ _ _)
      format _)
  obtain ⟨built, hprefix, -, hbuilt⟩ :=
    sections_leave format source options files store signal textures hplan
  obtain ⟨steps, hsteps, hmade⟩ := List.mem_flatMap.mp hadded
  obtain ⟨s, hs, hnumbers⟩ : ∃ s ∈ built, Step.Numbers (format.Derives env.read s) steps := by
    obtain ⟨i, hi, rfl⟩ := List.mem_iff_getElem.mp hsteps
    have hi' : i < built.length := hbuilt.length_eq ▸ hi
    exact ⟨built[i], List.getElem_mem hi', hbuilt.get hi' hi⟩
  refine ⟨s, hprefix.subset hs, fun x hx w hw => ?_⟩
  have hwrites : Element.Writes (Expr.Numbers (format.Derives env.read s)) e :=
    forall_mem_placeAll (fun _ _ h => h) (fun _ h => absurd h List.not_mem_nil)
      hnumbers.elements e hmade
  have hreads := (hbound x hx).reads
  rw [Expr.words_text hreads] at hw
  obtain ⟨v, hv, rfl⟩ := List.mem_map.mp hw
  by_cases hfinite : ∀ k, v = .number k → IsFinite k
  · have hplain := Expr.isPlain_text (fun s h => hreads s (h ▸ hv)) hfinite
    exact .inl ⟨hplain, hplain.not_mem⟩
  · obtain ⟨k, hfinite⟩ := not_forall.mp hfinite
    obtain ⟨rfl, hinfinite⟩ := Classical.not_imp.mp hfinite
    exact .inr ⟨k, (hwrites x hx k hv).resolve_left hinfinite, hinfinite, rfl⟩

/-- Numbers that are worked out do leave the doubles. The range of a needle from `-1e308` to
`1e308` is infinite, and its coefficients are not defined; the 400th digit of a value asks for a
power of ten that is infinite. -/
theorem nan_and_inf_written :
    let files : List MemoryFile := [⟨⟨"Train/image.png"⟩, some ⟨16, 64⟩, none⟩]
    let written := fun text =>
      let c := compileAs .calibrated (.ofText ⟨"Train/panel2.cfg"⟩ ⟨"Train"⟩ text)
        (Options.standard (K := Float)) (Memory.view files ⟨"Stock"⟩) (Memory.store files) .never []
      c.added.flatMap fun e => e.expressions.flatMap fun x => Text.words x.text
    written "[Needle]\nDaytimeImage = image.png\nMinimum = -1e308\nMaximum = 1e308\n" =
        ["1", "0", "NaN", "fma"] ∧
      written "[PilotLamp]\nDaytimeImage = image.png\nSubject = kmphD400\n" =
        ["speedometer", "abs", "3.6", "*", "~", "inf", ">=", "<>", "0", "*", "floor", "10", "mod",
          "10", "?", "1", "==", "--"] := by
  decide +kernel

end Compilation

end DriverDesk
