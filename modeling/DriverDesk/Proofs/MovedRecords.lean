import DriverDesk.Compile.Plan
import DriverDesk.Proofs.Moving

/-!
# Moved records

Every kind of section reads moved records as it reads them in place. Only a subject keeps
the line it was given on; all other settings do not show where their records stood.
-/

namespace DriverDesk

variable {K : Type} {shift : Nat → Nat}

/-! ## Values -/

namespace RecordAt

variable (c : RecordAt)

theorem refuse_moves {α : Type} (message : String) :
    Noted.Moves shift Eq (c.refuse message : Noted (Option α)) ((c.move shift).refuse message) :=
  ⟨rfl, rfl⟩

theorem readOr_moves {α : Type} (what : String) (read? : String → Option α) (text : String) :
    Noted.Moves shift Eq (c.readOr what read? text) ((c.move shift).readOr what read? text) := by
  unfold readOr
  split
  · exact .pure rfl
  · cases read? text with
    | some a => exact .pure rfl
    | none => exact c.refuse_moves _

theorem integer_moves (what text : String) :
    Noted.Moves shift Eq (c.integer what text) ((c.move shift).integer what text) :=
  c.readOr_moves what _ text

theorem pairOf_moves {α : Type} (first second : String)
    {read read' : String → String → Noted (Option α)}
    (h : ∀ what text, Noted.Moves shift Eq (read what text) (read' what text)) :
    Noted.Moves shift Eq (c.pairOf first second read)
      ((c.move shift).pairOf first second read') := by
  unfold pairOf
  rw [show (c.move shift).value = c.value from rfl]
  rcases Argument.pair? c.value with _ | ⟨a, b⟩
  · exact c.refuse_moves _
  · exact (h first a).bindEq fun x => (h second b).bindEq fun y => .pure rfl

theorem integerPair_moves (first second : String) :
    Noted.Moves shift Eq (c.integerPair first second) ((c.move shift).integerPair first second) :=
  c.pairOf_moves first second c.integer_moves

theorem image_moves : Noted.Moves shift Eq c.image (c.move shift).image := by
  unfold image
  rw [show (c.move shift).value = c.value from rfl, show (c.move shift).env = c.env from rfl]
  split
  · exact .pure rfl
  split
  · exact c.refuse_moves _
  dsimp only
  split
  · exact .pure rfl
  · exact .refuse _

section

variable [Arith K]

theorem number_moves (what text : String) :
    Noted.Moves shift Eq (c.number what text : Noted (Option K))
      ((c.move shift).number what text) :=
  c.readOr_moves what _ text

theorem angle_moves : Noted.Moves shift Eq (c.angle : Noted (Option K)) (c.move shift).angle :=
  (c.number_moves _ _).bindEq fun _ => .pure rfl

theorem numberPair_moves (first second : String) :
    Noted.Moves shift Eq (c.numberPair first second : Noted (Option (Option K × Option K)))
      ((c.move shift).numberPair first second) :=
  c.pairOf_moves first second c.number_moves

end

end RecordAt

/-! ## Fields -/

/-- Moving settings and then reading a moved record into them is reading the record and then
moving. -/
def Field.Moves {α : Type} (shift : Nat → Nat) (move : α → α) (f : Field α) : Prop :=
  ∀ c : RecordAt, Noted.Moves shift (fun u u' => ∀ a, move (u a) = u' (move a)) (f.read c)
    (f.read (c.move shift))

namespace Field

variable {α β : Type} {move : α → α}

theorem always_moves {keys : List String} {read : RecordAt → Noted β} {put : β → α → α}
    (hread : ∀ c : RecordAt, Noted.Moves shift Eq (read c) (read (c.move shift)))
    (hput : ∀ b a, move (put b a) = put b (move a)) :
    (always keys read put).Moves shift move := fun c =>
  (hread c).bind fun b b' h => by subst h; exact .pure (hput b)

theorem keeping_moves {keys : List String} {read : RecordAt → Noted (Option β)}
    {put : β → α → α}
    (hread : ∀ c : RecordAt, Noted.Moves shift Eq (read c) (read (c.move shift)))
    (hput : ∀ b a, move (put b a) = put b (move a)) :
    (keeping keys read put).Moves shift move := fun c =>
  (hread c).bind fun b b' h => by
    subst h
    cases b with
    | some b => exact .pure (hput b)
    | none => exact .pure fun _ => rfl

theorem subject_moves {put : SubjectSetting → α → α}
    (hput : ∀ x a, move (put x a) = put (x.move shift) (move a)) :
    (subject put).Moves shift move := fun c =>
  (show Noted.Moves shift (fun x x' : SubjectSetting => x' = x.move shift) (pure _) (pure _) from
    .pure rfl).bind fun x x' h => by subst h; exact .pure (hput x)

theorem image_moves {keys : List String} {put : Option Path → α → α}
    (hput : ∀ b a, move (put b a) = put b (move a)) :
    (image keys put).Moves shift move :=
  always_moves RecordAt.image_moves hput

theorem key_moves {put : Rgb → α → α}
    (hput : ∀ b a, move (put b a) = put b (move a)) :
    (key put).Moves shift move :=
  keeping_moves (fun c => c.readOr_moves _ _ _) hput

theorem tint_moves {put : Rgba → α → α}
    (hput : ∀ b a, move (put b a) = put b (move a)) :
    (tint put).Moves shift move :=
  keeping_moves (fun c => c.readOr_moves _ _ _) hput

theorem layer_moves {put : Int → α → α}
    (hput : ∀ b a, move (put b a) = put b (move a)) :
    (layer put).Moves shift move :=
  keeping_moves (fun c => c.integer_moves _ _) hput

variable [Arith K]

theorem numberOf_moves {keys : List String} {what : String} {put : K → α → α}
    (hput : ∀ b a, move (put b a) = put b (move a)) :
    (numberOf keys what put).Moves shift move :=
  keeping_moves (fun c => c.number_moves _ _) hput

theorem number_moves {keys : List String} {put : K → α → α}
    (hput : ∀ b a, move (put b a) = put b (move a)) :
    (number keys put).Moves shift move :=
  numberOf_moves hput

theorem angle_moves {keys : List String} {put : K → α → α}
    (hput : ∀ b a, move (put b a) = put b (move a)) :
    (angle keys put).Moves shift move :=
  keeping_moves (fun c => c.angle_moves) hput

theorem pair_moves {keys : List String} {put : Option K × Option K → α → α}
    (hput : ∀ b a, move (put b a) = put b (move a)) :
    (pair keys put).Moves shift move :=
  keeping_moves (fun c => c.numberPair_moves _ _) hput

theorem testedNumber_moves {keys : List String} {test : K → Bool} {message : String}
    {put : K → α → α}
    (hput : ∀ b a, move (put b a) = put b (move a)) :
    (testedNumber keys test message put).Moves shift move := by
  refine keeping_moves (fun c => (c.number_moves _ _).bindEq fun x? => ?_) hput
  cases x? with
  | none => exact .pure rfl
  | some x =>
    dsimp only
    split
    · exact .pure rfl
    · exact c.refuse_moves _

theorem mendedNumber_moves {keys : List String} {test : K → Bool} {message : String}
    {mend : K → K} {put : K → α → α}
    (hput : ∀ b a, move (put b a) = put b (move a)) :
    (mendedNumber keys test message mend put).Moves shift move := by
  refine keeping_moves (fun c => (c.number_moves _ _).bindEq fun x? => ?_) hput
  cases x? with
  | none => exact .pure rfl
  | some x =>
    dsimp only
    split
    · exact .pure rfl
    · exact (Noted.Moves.report _).bindEq fun _ => .pure rfl

end Field

/-- A kind of section reads moved records to moved settings. -/
structure Readable.Moves (shift : Nat → Nat) (α : Type) [Readable α] (move : α → α) : Prop where
  initial : move Readable.initial = Readable.initial
  fields : ∀ f ∈ (Readable.fields : List (Field α)), f.Moves shift move

/-- The keys of a kind of section. -/
def keysOf (α : Type) [Readable α] : List String :=
  (Readable.fields : List (Field α)).flatMap (·.keys)

section

variable {α : Type} {move : α → α} {fields : List (Field α)} {env : ReadEnv} {name : String}

/-- A record whose key is in no field is passed over. -/
theorem updateOf_of_not_mem {c : RecordAt}
    (h : c.record.lowerKey ∉ fields.flatMap (·.keys)) : updateOf fields c = pure id := by
  have hfind : fields.find? (fun f => f.keys.contains c.record.lowerKey) = none := by
    refine List.find?_eq_none.mpr fun f hf hkey => ?_
    exact h (List.mem_flatMap.mpr ⟨f, hf, List.contains_iff_mem.mp hkey⟩)
  rw [updateOf, hfind]

theorem updateOf_moves (hfields : ∀ f ∈ fields, f.Moves shift move) (c : RecordAt) :
    Noted.Moves shift (fun u u' => ∀ a, move (u a) = u' (move a)) (updateOf fields c)
      (updateOf fields (c.move shift)) := by
  unfold updateOf
  rw [show (c.move shift).record.lowerKey = c.record.lowerKey from rfl]
  cases hfind : fields.find? (fun f => f.keys.contains c.record.lowerKey) with
  | none => exact .pure fun _ => rfl
  | some f => exact hfields f (List.mem_of_find?_eq_some hfind) c

end

/-! ## Kinds of sections -/

/-- A kind of section: the settings it is read to, and what they are when the lines of the
file are renumbered. -/
structure Kind where
  Settings : Type
  [readable : Readable Settings]
  move : (Nat → Nat) → Settings → Settings
  moves : ∀ shift, Readable.Moves shift Settings (move shift)

attribute [instance] Kind.readable

namespace Kind

def keys (kind : Kind) : List String := keysOf kind.Settings

/-- What records are read to, one after the other. -/
def readAll (kind : Kind) (env : ReadEnv) (name : String) (rs : List Record)
    (a : kind.Settings) : Noted kind.Settings :=
  readRecords Readable.fields env name rs a

/-- The second records are read to the settings that the first ones are read to, moved, and
what is said of them answers to what is said of the first ones. -/
def Echoes (kind : Kind) (T : Echo shift) (rs rs' : List Record) : Prop :=
  ∀ env name a, Noted.Echoes T (fun a a' => kind.move shift a = a')
    (kind.readAll env name rs a) (kind.readAll env name rs' (kind.move shift a))

namespace Echoes

variable {kind : Kind} {T : Echo shift} {rs rs' : List Record}

theorem nil : kind.Echoes T [] [] := fun _ _ _ => ⟨rfl, T.moved []⟩

/-- One more record, which moves. -/
theorem cons (r : Record) (h : kind.Echoes T rs rs') :
    kind.Echoes T (r :: rs) (r.move shift :: rs') := by
  intro env name a
  have hupdate := updateOf_moves (kind.moves shift).fields ⟨env, name, r⟩
  refine (hupdate.echoes T).bind fun u u' hu => ?_
  rw [← hu a]
  exact h env name (u a)

/-- One more record, which the kind of section does not heed. -/
theorem skip {r : Record} (hkey : r.lowerKey ∉ kind.keys) (h : kind.Echoes T rs rs') :
    kind.Echoes T rs (r :: rs') := by
  intro env name a
  have hupdate : updateOf (Readable.fields : List (Field kind.Settings)) ⟨env, name, r⟩ =
      pure id := updateOf_of_not_mem hkey
  rw [readAll, readAll, readRecords, hupdate]
  exact h env name a

/-- The same records, moved. -/
theorem moved (T : Echo shift) (rs : List Record) :
    kind.Echoes T rs (rs.map (·.move shift)) := by
  induction rs with
  | nil => exact nil
  | cons r rs ih => exact ih.cons r

end Echoes

end Kind

/-! ## Calibrated panels -/

namespace Calibrated

variable [Arith K]

theorem Header.moves : Readable.Moves shift (Header K) id where
  initial := rfl
  fields := by
    simp only [Readable.fields, Header.fields, List.forall_mem_cons]
    exact ⟨Field.testedNumber_moves fun _ _ => rfl, Field.numberOf_moves fun _ _ => rfl,
      Field.numberOf_moves fun _ _ => rfl, Field.numberOf_moves fun _ _ => rfl,
      Field.numberOf_moves fun _ _ => rfl, Field.image_moves fun _ _ => rfl,
      Field.image_moves fun _ _ => rfl, Field.key_moves fun _ _ => rfl,
      Field.pair_moves fun _ _ => rfl, Field.pair_moves fun _ _ => rfl, nofun⟩

def PilotLamp.move (shift : Nat → Nat) (l : PilotLamp K) : PilotLamp K :=
  { l with subject := l.subject.move shift }

theorem PilotLamp.moves : Readable.Moves shift (PilotLamp K) (PilotLamp.move shift) where
  initial := rfl
  fields := by
    simp only [Readable.fields, PilotLamp.fields, List.forall_mem_cons]
    exact ⟨Field.subject_moves fun _ _ => rfl, Field.pair_moves fun _ _ => rfl,
      Field.image_moves fun _ _ => rfl, Field.image_moves fun _ _ => rfl,
      Field.key_moves fun _ _ => rfl, Field.layer_moves fun _ _ => rfl, nofun⟩

def Needle.move (shift : Nat → Nat) (n : Needle K) : Needle K :=
  { n with subject := n.subject.move shift }

theorem Needle.moves : Readable.Moves shift (Needle K) (Needle.move shift) where
  initial := rfl
  fields := by
    simp only [Readable.fields, Needle.fields, List.forall_mem_cons]
    exact ⟨Field.subject_moves fun _ _ => rfl, Field.pair_moves fun _ _ => rfl,
      Field.mendedNumber_moves fun _ _ => rfl, Field.image_moves fun _ _ => rfl,
      Field.image_moves fun _ _ => rfl, Field.tint_moves fun _ _ => rfl,
      Field.key_moves fun _ _ => rfl, Field.pair_moves fun _ _ => rfl,
      Field.angle_moves fun _ _ => rfl, Field.angle_moves fun _ _ => rfl,
      Field.number_moves fun _ _ => rfl, Field.number_moves fun _ _ => rfl,
      Field.mendedNumber_moves fun _ _ => rfl, Field.mendedNumber_moves fun _ _ => rfl,
      Field.layer_moves fun _ _ => rfl, Field.always_moves (fun _ => .pure rfl) fun _ _ => rfl,
      Field.always_moves (fun _ => .pure rfl) fun _ _ => rfl, nofun⟩

def LinearGauge.move (shift : Nat → Nat) (g : LinearGauge K) : LinearGauge K :=
  { g with subject := g.subject.move shift }

theorem LinearGauge.moves :
    Readable.Moves shift (LinearGauge K) (LinearGauge.move shift) where
  initial := rfl
  fields := by
    simp only [Readable.fields, LinearGauge.fields, List.forall_mem_cons]
    exact ⟨Field.subject_moves fun _ _ => rfl, Field.pair_moves fun _ _ => rfl,
      Field.number_moves fun _ _ => rfl, Field.number_moves fun _ _ => rfl,
      Field.number_moves fun _ _ => rfl,
      Field.keeping_moves (fun c => c.integerPair_moves _ _) fun _ _ => rfl,
      Field.image_moves fun _ _ => rfl, Field.image_moves fun _ _ => rfl,
      Field.key_moves fun _ _ => rfl, Field.layer_moves fun _ _ => rfl, nofun⟩

def DigitalNumber.move (shift : Nat → Nat) (d : DigitalNumber K) : DigitalNumber K :=
  { d with subject := d.subject.move shift }

theorem DigitalNumber.moves :
    Readable.Moves shift (DigitalNumber K) (DigitalNumber.move shift) where
  initial := rfl
  fields := by
    simp only [Readable.fields, DigitalNumber.fields, List.forall_mem_cons]
    refine ⟨Field.subject_moves fun _ _ => rfl, Field.pair_moves fun _ _ => rfl,
      Field.image_moves fun _ _ => rfl, Field.image_moves fun _ _ => rfl,
      Field.key_moves fun _ _ => rfl, Field.keeping_moves (fun c => ?_) fun _ _ => rfl,
      Field.layer_moves fun _ _ => rfl, nofun⟩
    refine (c.integer_moves _ _).bindEq fun i? => ?_
    cases i? with
    | none => exact .pure rfl
    | some i =>
      dsimp only
      split
      · exact .pure rfl
      · exact c.refuse_moves _

def DigitalGauge.move (shift : Nat → Nat) (g : DigitalGauge K) : DigitalGauge K :=
  { g with subject := g.subject.move shift }

theorem DigitalGauge.moves :
    Readable.Moves shift (DigitalGauge K) (DigitalGauge.move shift) where
  initial := rfl
  fields := by
    simp only [Readable.fields, DigitalGauge.fields, List.forall_mem_cons]
    exact ⟨Field.subject_moves fun _ _ => rfl, Field.pair_moves fun _ _ => rfl,
      Field.number_moves fun _ _ => rfl, Field.tint_moves fun _ _ => rfl,
      Field.angle_moves fun _ _ => rfl, Field.angle_moves fun _ _ => rfl,
      Field.number_moves fun _ _ => rfl, Field.number_moves fun _ _ => rfl,
      Field.number_moves fun _ _ => rfl, Field.layer_moves fun _ _ => rfl, nofun⟩

theorem Timetable.moves : Readable.Moves shift (Timetable K) id where
  initial := rfl
  fields := by
    simp only [Readable.fields, Timetable.fields, List.forall_mem_cons]
    exact ⟨Field.pair_moves fun _ _ => rfl, Field.number_moves fun _ _ => rfl,
      Field.number_moves fun _ _ => rfl, Field.key_moves fun _ _ => rfl,
      Field.layer_moves fun _ _ => rfl, nofun⟩

end Calibrated

/-! ## Framed panels -/

namespace Framed

theorem channel_moves (c : RecordAt) (what text : String) :
    Noted.Moves shift Eq (channel c what text) (channel (c.move shift) what text) := by
  refine (c.integer_moves what text).bindEq fun v? => ?_
  cases v? with
  | none => exact .pure rfl
  | some v =>
    dsimp only
    split
    · exact (Noted.Moves.report _).bindEq fun _ => .pure rfl
    · exact .pure rfl

theorem tintOf_moves (c : RecordAt) (arguments : List String) :
    Noted.Moves shift Eq (tintOf c arguments) (tintOf (c.move shift) arguments) := by
  unfold tintOf
  split
  · refine (channel_moves c _ _).bindEq fun r? => ?_
    rcases r? with _ | r
    · exact .pure rfl
    refine (channel_moves c _ _).bindEq fun g? => ?_
    rcases g? with _ | g
    · exact .pure rfl
    refine (channel_moves c _ _).bindEq fun b? => ?_
    rcases b? with _ | b
    · exact .pure rfl
    · exact .pure rfl
  · exact c.refuse_moves _

theorem usesLamps_moves (c : RecordAt) :
    Noted.Moves shift Eq (usesLamps c) (usesLamps (c.move shift)) := by
  refine (c.integer_moves _ _).bindEq fun n? => ?_
  cases n? with
  | none => exact .pure rfl
  | some n =>
    dsimp only
    split
    · exact .pure rfl
    split
    · exact .pure rfl
    · exact c.refuse_moves _

theorem PressureNeedle.read_moves (c : RecordAt) :
    Noted.Moves shift Eq (read c) (read (c.move shift)) := by
  unfold read
  rw [show (c.move shift).value = c.value from rfl]
  split
  · exact .pure rfl
  · split
    · exact c.refuse_moves _
    · split
      · exact .pure rfl
      · exact (tintOf_moves c _).bindEq fun _ => .pure rfl

theorem tintField_moves {α : Type} {move : α → α} {keys : List String} {put : Rgba → α → α}
    (hput : ∀ b a, move (put b a) = put b (move a)) :
    (tintField keys put).Moves shift move :=
  Field.keeping_moves (fun c => tintOf_moves c _) hput

theorem unitOf_moves (table : List (List String × K)) (c : RecordAt) :
    Noted.Moves shift Eq (unitOf table c) (unitOf table (c.move shift)) := by
  unfold unitOf
  rw [show (c.move shift).value = c.value from rfl]
  split
  · exact .pure rfl
  · exact c.refuse_moves _

theorem unitField_moves {α : Type} {move : α → α} {keys : List String}
    {table : List (List String × K)} {put : K → α → α}
    (hput : ∀ b a, move (put b a) = put b (move a)) :
    (Field.keeping keys (unitOf table) put).Moves shift move :=
  Field.keeping_moves (unitOf_moves table) hput

theorem typeField_moves {α : Type} {move : α → α} {keys : List String} {put : Bool → α → α}
    (hput : ∀ b a, move (put b a) = put b (move a)) :
    (Field.keeping keys usesLamps put).Moves shift move :=
  Field.keeping_moves usesLamps_moves hput

theorem Background.moves : Readable.Moves shift Background id where
  initial := rfl
  fields := by
    simp only [Readable.fields, List.forall_mem_cons]
    exact ⟨Field.image_moves fun _ _ => rfl, nofun⟩

variable [Arith K]

theorem point_moves (c : RecordAt) :
    Noted.Moves shift Eq (point c : Noted (Option (Option K × Option K)))
      (point (c.move shift)) := by
  unfold point
  rw [show (c.move shift).value = c.value from rfl]
  split
  · exact (c.number_moves _ _).bindEq fun x => (c.number_moves _ _).bindEq fun y => .pure rfl
  · exact c.refuse_moves _

section

variable {α : Type} {move : α → α}

theorem pointField_moves {keys : List String} {put : Option K × Option K → α → α}
    (hput : ∀ b a, move (put b a) = put b (move a)) :
    (pointField keys put).Moves shift move :=
  Field.keeping_moves point_moves hput

theorem positiveField_moves {keys : List String} {put : K → α → α}
    (hput : ∀ b a, move (put b a) = put b (move a)) :
    (positiveField keys put).Moves shift move :=
  Field.testedNumber_moves hput

end

theorem View.moves : Readable.Moves shift (View K) id where
  initial := rfl
  fields := by
    simp only [Readable.fields, List.forall_mem_cons]
    exact ⟨Field.numberOf_moves fun _ _ => rfl, Field.numberOf_moves fun _ _ => rfl, nofun⟩

theorem PressureGauge.moves : Readable.Moves shift (PressureGauge K) id where
  initial := rfl
  fields := by
    simp only [Readable.fields, PressureGauge.fields, List.forall_mem_cons]
    exact ⟨typeField_moves fun _ _ => rfl,
      Field.keeping_moves PressureNeedle.read_moves fun _ _ => rfl,
      Field.keeping_moves PressureNeedle.read_moves fun _ _ => rfl,
      pointField_moves fun _ _ => rfl, positiveField_moves fun _ _ => rfl,
      Field.image_moves fun _ _ => rfl, Field.image_moves fun _ _ => rfl,
      unitField_moves fun _ _ => rfl, Field.number_moves fun _ _ => rfl,
      Field.number_moves fun _ _ => rfl, Field.angle_moves fun _ _ => rfl, nofun⟩

theorem Speedometer.moves : Readable.Moves shift (Speedometer K) id where
  initial := rfl
  fields := by
    simp only [Readable.fields, Speedometer.fields, List.forall_mem_cons]
    exact ⟨typeField_moves fun _ _ => rfl, Field.image_moves fun _ _ => rfl,
      Field.image_moves fun _ _ => rfl, Field.image_moves fun _ _ => rfl,
      Field.number_moves fun _ _ => rfl, tintField_moves fun _ _ => rfl,
      pointField_moves fun _ _ => rfl, positiveField_moves fun _ _ => rfl,
      Field.angle_moves fun _ _ => rfl, positiveField_moves fun _ _ => rfl, nofun⟩

theorem DigitalIndicator.moves : Readable.Moves shift (DigitalIndicator K) id where
  initial := rfl
  fields := by
    simp only [Readable.fields, DigitalIndicator.fields, List.forall_mem_cons]
    exact ⟨Field.image_moves fun _ _ => rfl, pointField_moves fun _ _ => rfl,
      pointField_moves fun _ _ => rfl, unitField_moves fun _ _ => rfl, nofun⟩

theorem PilotLamp.moves : Readable.Moves shift (PilotLamp K) id where
  initial := rfl
  fields := by
    simp only [Readable.fields, PilotLamp.fields, List.forall_mem_cons]
    exact ⟨Field.image_moves fun _ _ => rfl, Field.image_moves fun _ _ => rfl,
      pointField_moves fun _ _ => rfl, nofun⟩

theorem Watch.moves : Readable.Moves shift (Watch K) id where
  initial := rfl
  fields := by
    simp only [Readable.fields, Watch.fields, List.forall_mem_cons]
    exact ⟨Field.image_moves fun _ _ => rfl, tintField_moves fun _ _ => rfl,
      pointField_moves fun _ _ => rfl, positiveField_moves fun _ _ => rfl, nofun⟩

theorem BrakeIndicator.moves : Readable.Moves shift (BrakeIndicator K) id where
  initial := rfl
  fields := by
    simp only [Readable.fields, BrakeIndicator.fields, List.forall_mem_cons]
    exact ⟨Field.image_moves fun _ _ => rfl, pointField_moves fun _ _ => rfl,
      positiveField_moves fun _ _ => rfl, nofun⟩

end Framed

end DriverDesk
