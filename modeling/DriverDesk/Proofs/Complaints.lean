import DriverDesk.Compile.Plan
import DriverDesk.Proofs.Readings

/-!
# Complaints of readings

Whatever is noted while a section is read is an error of one of its records: of its value, or
of the image it names. There is one lemma for each way to read a value and to make a field of
it, and every kind of section is a table of such fields.
-/

namespace DriverDesk

/-- An error of the record: of what it says, or of the image it names. -/
structure RecordAt.Blamed (c : RecordAt) (d : Diagnostic) : Prop where
  location : d.location = c.location
  severity : d.severity = .error
  kind : d.kind = .field ∨ d.kind = .resource
  critical : d.critical = (d.kind == .resource)

/-! ## Notes -/

namespace Noted

variable {α β : Type} {D : Diagnostic → Prop}

/-- All that is noted has `D`. -/
def Reports (D : Diagnostic → Prop) (x : Noted α) : Prop := ∀ d ∈ x.notes, D d

@[simp] theorem reports_pure (a : α) : (pure a : Noted α).Reports D := fun _ hd => nomatch hd

theorem Reports.bind {x : Noted α} {f : α → Noted β} (hx : x.Reports D)
    (hf : ∀ a, (f a).Reports D) : (x >>= f).Reports D := by
  intro d hd
  rcases List.mem_append.mp hd with hd | hd
  · exact hx d hd
  · exact hf x.value d hd

theorem Reports.ite {c : Prop} [Decidable c] {x y : Noted α} (hx : x.Reports D)
    (hy : y.Reports D) : (if c then x else y).Reports D := by
  split
  · exact hx
  · exact hy

theorem reports_report {d : Diagnostic} (h : D d) : (Noted.report d).Reports D := by
  intro d' hd'
  cases List.mem_singleton.mp hd'
  exact h

end Noted

open Noted

/-! ## Values -/

namespace RecordAt

variable {K α : Type} (c : RecordAt)

theorem blamed_complaint (message : String) : c.Blamed (c.complaint message) :=
  ⟨rfl, rfl, .inl rfl, rfl⟩

theorem refuse_blames (message : String) :
    (c.refuse message : Noted (Option α)).Reports c.Blamed := by
  intro d hd
  cases List.mem_singleton.mp hd
  exact c.blamed_complaint message

theorem readOr_blames (what : String) (read? : String → Option α) (text : String) :
    (c.readOr what read? text).Reports c.Blamed := by
  unfold readOr
  refine .ite (reports_pure _) ?_
  cases read? text with
  | some a => exact reports_pure _
  | none => exact c.refuse_blames _

theorem integer_blames (what text : String) : (c.integer what text).Reports c.Blamed :=
  c.readOr_blames what _ text

theorem pairOf_blames (first second : String) {read : String → String → Noted (Option α)}
    (h : ∀ what text, (read what text).Reports c.Blamed) :
    (c.pairOf first second read).Reports c.Blamed := by
  unfold pairOf
  split
  · exact c.refuse_blames _
  · exact (h first _).bind fun _ => (h second _).bind fun _ => reports_pure _

theorem integerPair_blames (first second : String) :
    (c.integerPair first second).Reports c.Blamed :=
  c.pairOf_blames first second c.integer_blames

theorem rgb_blames : c.rgb.Reports c.Blamed := c.readOr_blames _ _ _

theorem rgba_blames : c.rgba.Reports c.Blamed := c.readOr_blames _ _ _

theorem image_blames : c.image.Reports c.Blamed := by
  unfold image
  refine .ite (reports_pure _) (.ite (c.refuse_blames _) ?_)
  refine .ite (reports_pure _) fun d hd => ?_
  cases List.mem_singleton.mp hd
  exact ⟨rfl, rfl, .inr rfl, rfl⟩

variable [Arith K]

theorem number_blames (what text : String) :
    (c.number what text : Noted (Option K)).Reports c.Blamed :=
  c.readOr_blames what _ text

theorem angle_blames : (c.angle : Noted (Option K)).Reports c.Blamed :=
  (c.number_blames _ _).bind fun _ => reports_pure _

theorem numberPair_blames (first second : String) :
    (c.numberPair first second : Noted (Option (Option K × Option K))).Reports c.Blamed :=
  c.pairOf_blames first second c.number_blames

end RecordAt

namespace Framed

variable {K : Type} (c : RecordAt)

theorem channel_blames (what text : String) : (channel c what text).Reports c.Blamed := by
  refine (c.integer_blames what text).bind fun v? => ?_
  cases v? with
  | none => exact reports_pure _
  | some v =>
    refine .ite ?_ (reports_pure _)
    exact (reports_report (c.blamed_complaint _)).bind fun _ => reports_pure _

theorem tintOf_blames (arguments : List String) : (tintOf c arguments).Reports c.Blamed := by
  unfold tintOf
  split
  · refine (channel_blames c _ _).bind fun r? => ?_
    rcases r? with _ | r
    · exact reports_pure _
    refine (channel_blames c _ _).bind fun g? => ?_
    rcases g? with _ | g
    · exact reports_pure _
    refine (channel_blames c _ _).bind fun b? => ?_
    rcases b? with _ | b
    · exact reports_pure _
    · exact reports_pure _
  · exact c.refuse_blames _

theorem usesLamps_blames : (usesLamps c).Reports c.Blamed := by
  refine (c.integer_blames _ _).bind fun n? => ?_
  cases n? with
  | none => exact reports_pure _
  | some n => exact .ite (reports_pure _) (.ite (reports_pure _) (c.refuse_blames _))

theorem unitOf_blames (table : List (List String × K)) : (unitOf table c).Reports c.Blamed := by
  unfold unitOf
  split
  · exact reports_pure _
  · exact c.refuse_blames _

theorem PressureNeedle.read_blames : (PressureNeedle.read c).Reports c.Blamed := by
  unfold read
  split
  · exact reports_pure _
  split
  · exact c.refuse_blames _
  · exact .ite (reports_pure _) ((tintOf_blames c _).bind fun _ => reports_pure _)

theorem point_blames [Arith K] :
    (point c : Noted (Option (Option K × Option K))).Reports c.Blamed := by
  unfold point
  split
  · exact (c.number_blames _ _).bind fun _ => (c.number_blames _ _).bind fun _ => reports_pure _
  · exact c.refuse_blames _

end Framed

/-! ## Fields -/

/-- All that is noted when the field is read is an error of its record. -/
def Field.Blames {α : Type} (f : Field α) : Prop := ∀ c, (f.read c).Reports c.Blamed

namespace Field

variable {K α β : Type} {keys : List String}

theorem always_blames {read : RecordAt → Noted β} {put : β → α → α}
    (h : ∀ c, (read c).Reports c.Blamed) : (always keys read put).Blames :=
  fun c => (h c).bind fun _ => reports_pure _

theorem keeping_blames {read : RecordAt → Noted (Option β)} {put : β → α → α}
    (h : ∀ c, (read c).Reports c.Blamed) : (keeping keys read put).Blames := fun c =>
  (h c).bind fun b? => by
    cases b? with
    | none => exact reports_pure _
    | some b => exact reports_pure _

@[simp] theorem subject_blames (put : SubjectSetting → α → α) : (subject put).Blames :=
  always_blames fun _ => reports_pure _

@[simp] theorem flag_blames (put : Bool → α → α) :
    (always keys (fun c => pure c.flag) put).Blames :=
  always_blames fun _ => reports_pure _

@[simp] theorem image_blames (put : Option Path → α → α) : (image keys put).Blames :=
  always_blames RecordAt.image_blames

@[simp] theorem key_blames (put : Rgb → α → α) : (key put).Blames :=
  keeping_blames RecordAt.rgb_blames

@[simp] theorem tint_blames (put : Rgba → α → α) : (tint put).Blames :=
  keeping_blames RecordAt.rgba_blames

@[simp] theorem layer_blames (put : Int → α → α) : (layer put).Blames :=
  keeping_blames fun c => c.integer_blames _ _

@[simp] theorem integerPair_blames (first second : String)
    (put : Option Int × Option Int → α → α) :
    (keeping keys (fun c => c.integerPair first second) put).Blames :=
  keeping_blames fun c => c.integerPair_blames _ _

@[simp] theorem usesLamps_blames (put : Bool → α → α) :
    (keeping keys Framed.usesLamps put).Blames :=
  keeping_blames Framed.usesLamps_blames

@[simp] theorem unit_blames (table : List (List String × K)) (put : K → α → α) :
    (keeping keys (Framed.unitOf table) put).Blames :=
  keeping_blames fun c => Framed.unitOf_blames c table

@[simp] theorem needle_blames (put : Framed.PressureNeedle → α → α) :
    (keeping keys Framed.PressureNeedle.read put).Blames :=
  keeping_blames Framed.PressureNeedle.read_blames

@[simp] theorem tintField_blames (put : Rgba → α → α) : (Framed.tintField keys put).Blames :=
  keeping_blames fun c => Framed.tintOf_blames c _

section

variable [Arith K]

@[simp] theorem numberOf_blames (what : String) (put : K → α → α) :
    (numberOf keys what put).Blames :=
  keeping_blames fun c => c.number_blames _ _

@[simp] theorem number_blames (put : K → α → α) : (number keys put).Blames :=
  numberOf_blames _ put

@[simp] theorem angle_blames (put : K → α → α) : (angle keys put).Blames :=
  keeping_blames fun c => c.angle_blames

@[simp] theorem pair_blames (put : Option K × Option K → α → α) : (pair keys put).Blames :=
  keeping_blames fun c => c.numberPair_blames _ _

@[simp] theorem pointField_blames (put : Option K × Option K → α → α) :
    (Framed.pointField keys put).Blames :=
  keeping_blames fun c => Framed.point_blames c

@[simp] theorem testedNumber_blames (test : K → Bool) (message : String) (put : K → α → α) :
    (testedNumber keys test message put).Blames := by
  refine keeping_blames fun c => (c.number_blames _ _).bind fun x? => ?_
  cases x? with
  | none => exact reports_pure _
  | some x => exact .ite (reports_pure _) (c.refuse_blames _)

@[simp] theorem positiveField_blames (put : K → α → α) : (Framed.positiveField keys put).Blames :=
  testedNumber_blames _ _ put

@[simp] theorem mendedNumber_blames (test : K → Bool) (message : String) (mend : K → K)
    (put : K → α → α) : (mendedNumber keys test message mend put).Blames := by
  refine keeping_blames fun c => (c.number_blames _ _).bind fun x? => ?_
  cases x? with
  | none => exact reports_pure _
  | some x =>
    refine .ite (reports_pure _) ?_
    exact (reports_report (c.blamed_complaint _)).bind fun _ => reports_pure _

end

end Field

/-! ## Sections -/

/-- Every field of the kind of section blames its record. -/
def Readable.Blames (α : Type) [Readable α] : Prop :=
  ∀ f ∈ (Readable.fields : List (Field α)), f.Blames

theorem readRecords_blames {α : Type} {fields : List (Field α)} (h : ∀ f ∈ fields, f.Blames)
    (env : ReadEnv) (name : String) (rs : List Record) (a : α) :
    (readRecords fields env name rs a).Reports fun d =>
      ∃ r ∈ rs, RecordAt.Blamed ⟨env, name, r⟩ d := by
  induction rs generalizing a with
  | nil => exact reports_pure _
  | cons r rs ih =>
    have hupdate : (updateOf fields ⟨env, name, r⟩).Reports (RecordAt.Blamed ⟨env, name, r⟩) :=
      updateOf_cases (P := fun update => update.Reports (RecordAt.Blamed ⟨env, name, r⟩))
        (fun f hf _ => h f hf _) fun _ => reports_pure _
    refine Reports.bind (fun d hd => ⟨r, by simp, hupdate d hd⟩) fun update d hd => ?_
    obtain ⟨r', hr', hd⟩ := ih (update a) d hd
    exact ⟨r', by simp [hr'], hd⟩

/-- What is noted of a section is an error of one of its records. -/
theorem Section.read_blames {α : Type} [Readable α] (h : Readable.Blames α) (env : ReadEnv)
    (s : Section) :
    (s.read env : Noted α).Reports fun d => ∃ r ∈ s.records, RecordAt.Blamed ⟨env, s.name, r⟩ d :=
  readRecords_blames h env s.name s.records _

section

variable {K : Type} [Arith K]

namespace Calibrated

theorem Header.blames : Readable.Blames (Header K) := by
  simp [Readable.Blames, Readable.fields, Header.fields]

theorem PilotLamp.blames : Readable.Blames (PilotLamp K) := by
  simp [Readable.Blames, Readable.fields, PilotLamp.fields]

theorem Needle.blames : Readable.Blames (Needle K) := by
  simp [Readable.Blames, Readable.fields, Needle.fields]

theorem LinearGauge.blames : Readable.Blames (LinearGauge K) := by
  simp [Readable.Blames, Readable.fields, LinearGauge.fields]

theorem DigitalNumber.blames : Readable.Blames (DigitalNumber K) := by
  simp only [Readable.Blames, Readable.fields, DigitalNumber.fields, List.forall_mem_cons]
  refine ⟨Field.subject_blames _, Field.pair_blames _, Field.image_blames _,
    Field.image_blames _, Field.key_blames _, Field.keeping_blames fun c => ?_,
    Field.layer_blames _, nofun⟩
  refine (c.integer_blames _ _).bind fun i? => ?_
  cases i? with
  | none => exact reports_pure _
  | some i => exact .ite (reports_pure _) (c.refuse_blames _)

theorem DigitalGauge.blames : Readable.Blames (DigitalGauge K) := by
  simp [Readable.Blames, Readable.fields, DigitalGauge.fields]

theorem Timetable.blames : Readable.Blames (Timetable K) := by
  simp [Readable.Blames, Readable.fields, Timetable.fields]

end Calibrated

namespace Framed

omit [Arith K] in
theorem Background.blames : Readable.Blames Background := by
  simp [Readable.Blames, Readable.fields]

theorem View.blames : Readable.Blames (View K) := by
  simp [Readable.Blames, Readable.fields]

theorem PressureGauge.blames : Readable.Blames (PressureGauge K) := by
  simp [Readable.Blames, Readable.fields, PressureGauge.fields]

theorem Speedometer.blames : Readable.Blames (Speedometer K) := by
  simp [Readable.Blames, Readable.fields, Speedometer.fields]

theorem DigitalIndicator.blames : Readable.Blames (DigitalIndicator K) := by
  simp [Readable.Blames, Readable.fields, DigitalIndicator.fields]

theorem PilotLamp.blames : Readable.Blames (PilotLamp K) := by
  simp [Readable.Blames, Readable.fields, PilotLamp.fields]

theorem Watch.blames : Readable.Blames (Watch K) := by
  simp [Readable.Blames, Readable.fields, Watch.fields]

theorem BrakeIndicator.blames : Readable.Blames (BrakeIndicator K) := by
  simp [Readable.Blames, Readable.fields, BrakeIndicator.fields]

end Framed

end

end DriverDesk
