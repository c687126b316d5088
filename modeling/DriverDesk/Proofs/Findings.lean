import DriverDesk.Proofs.Headers

/-!
# What fields find

Of a record a field looks at the value and the line only. What it finds there it puts into the
settings of the section, and where it finds nothing the settings stay as they are. What is said
of the value is left out here.
-/

namespace DriverDesk

variable {K α β : Type}

/-! ## What is found in a text -/

namespace Argument

def whole? : String → Option Int := usable? Numeral.lenientInt?

/-- The whole numbers around the first comma. -/
def wholePair? (text : String) : Option (Option Int × Option Int) :=
  (pair? text).map fun p => (whole? p.1, whole? p.2)

/-- The text is empty, or cannot be read. -/
def Unreadable (read? : String → Option α) (text : String) : Prop := text = "" ∨ read? text = none

theorem usable?_eq_none {read? : String → Option α} {text : String} (h : Unreadable read? text) :
    usable? read? text = none := by
  rcases h with rfl | h
  · rfl
  · unfold usable?
    split
    · rfl
    · exact h

theorem number?_eq_none [Arith K] {text : String} (h : Unreadable Numeral.lenient? text) :
    (number? text : Option K) = none := by
  refine usable?_eq_none (h.imp_right fun hread => ?_)
  show (Numeral.lenient? text).map Arith.ofDecimal = none
  rw [hread]
  rfl

/-- Whole numbers have 32 bits. -/
theorem le_of_whole? {text : String} {n : Int} (h : whole? text = some n) : n ≤ 2147483647 := by
  unfold whole? usable? at h
  split at h
  · cases h
  · unfold Numeral.lenientInt? at h
    simp only [Option.bind_eq_bind, Option.bind_eq_some_iff] at h
    obtain ⟨d, -, b, -, h⟩ := h
    split at h
    next hrange => exact Option.some.inj h ▸ hrange.2
    next => cases h

theorem whole?_eq_none {text : String} (h : Unreadable Numeral.lenientInt? text) :
    whole? text = none := usable?_eq_none h

end Argument

open Argument

namespace Framed

/-- The numbers of the first two arguments. -/
def point? [Arith K] (text : String) : Option (Option K × Option K) :=
  match fields text with
  | x :: y :: _ => some (number? x, number? y)
  | _ => none

def channel? (text : String) : Option UInt8 :=
  (whole? text).map fun v => UInt8.ofNat (min v.toNat 255)

/-- The tint of the first three arguments, if each of them is a channel. -/
def tint? (arguments : List String) : Option Rgba :=
  match arguments with
  | red :: green :: blue :: _ =>
    (channel? red).bind fun r => (channel? green).bind fun g => (channel? blue).map fun b =>
      ⟨r, g, b, 255⟩
  | _ => none

def usesLamps? (text : String) : Option Bool :=
  (whole? text).bind fun n => if n = 0 then some false else if n = 1 then some true else none

def unit? (table : List (List String × K)) (text : String) : Option K :=
  (table.find? fun row => row.1.contains (Text.asciiLower text)).map (·.2)

def PressureNeedle.find? (text : String) : Option PressureNeedle :=
  match fields text with
  | [] => none
  | subject :: rest => (Pressure.ofName? subject).bind fun pressure =>
    if rest.isEmpty then some ⟨pressure, Rgba.white⟩
    else (tint? rest).map fun tint => ⟨pressure, tint⟩

end Framed

/-! ## What is read of a record -/

namespace RecordAt

variable (c : RecordAt)

/-- The image that a text names, if it is there. -/
def image? (env : ReadEnv) (text : String) : Option Path :=
  if text.isEmpty then none
  else if text.toList.any forbidden.contains then none
  else
    let path := env.files.resolve env.trainFolder (Path.defaultExtension "bmp" ⟨text⟩)
    if env.files.isFile path then some path else none

theorem value_image : c.image.value = image? c.env c.value := by
  unfold image image?
  by_cases hempty : c.value.isEmpty = true
  · rw [if_pos hempty, if_pos hempty]
    rfl
  rw [if_neg hempty, if_neg hempty]
  by_cases hforbidden : c.value.toList.any forbidden.contains = true
  · rw [if_pos hforbidden, if_pos hforbidden]
    rfl
  rw [if_neg hforbidden, if_neg hforbidden]
  dsimp only
  split
  · rfl
  · rfl

theorem value_integer (what text : String) : (c.integer what text).value = whole? text :=
  c.value_readOr what _ text

theorem value_integerPair (first second : String) :
    (c.integerPair first second).value = wholePair? c.value := by
  unfold integerPair pairOf wholePair?
  rcases pair? c.value with _ | ⟨a, b⟩
  · rfl
  · simp [value_integer]

/-- A whole number that fails its test cannot be used. -/
theorem value_testedInteger (what : String) (bound : Int) (message : String) :
    (do
      match ← c.integer what c.value with
      | none => pure none
      | some n => if bound < n then pure (some n) else c.refuse message :
      Noted (Option Int)).value = (whole? c.value).filter fun n => decide (bound < n) := by
  rw [Noted.value_bind, c.value_integer]
  rcases whole? c.value with _ | n
  · rfl
  · dsimp only [Option.filter]
    by_cases hbound : bound < n
    · rw [if_pos hbound, if_pos (decide_eq_true hbound)]
      rfl
    · rw [if_neg hbound, if_neg (by simpa using hbound)]
      rfl

variable [Arith K]

theorem value_angle : (c.angle : Noted (Option K)).value = (number? c.value).map Arith.radians := by
  unfold angle
  rw [Noted.value_bind, c.value_number]
  rfl

end RecordAt

namespace Framed

variable (c : RecordAt)

theorem value_channel (what text : String) : (channel c what text).value = channel? text := by
  unfold channel channel?
  rw [Noted.value_bind, c.value_integer]
  rcases whole? text with _ | v
  · rfl
  · dsimp only
    split
    · rfl
    · rfl

theorem value_tintOf (arguments : List String) : (tintOf c arguments).value = tint? arguments := by
  rcases arguments with _ | ⟨red, _ | ⟨green, _ | ⟨blue, rest⟩⟩⟩
  · rfl
  · rfl
  · rfl
  unfold tintOf tint?
  dsimp only
  rw [Noted.value_bind, value_channel]
  rcases channel? red with _ | r
  · rfl
  dsimp only [Option.bind_some]
  rw [Noted.value_bind, value_channel]
  rcases channel? green with _ | g
  · rfl
  dsimp only [Option.bind_some]
  rw [Noted.value_bind, value_channel]
  rcases channel? blue with _ | b
  · rfl
  · rfl

theorem value_usesLamps : (usesLamps c).value = usesLamps? c.value := by
  unfold usesLamps usesLamps?
  rw [Noted.value_bind, c.value_integer]
  rcases whole? c.value with _ | n
  · rfl
  dsimp only [Option.bind_some]
  by_cases hzero : n = 0
  · rw [if_pos hzero, if_pos hzero]
    rfl
  rw [if_neg hzero, if_neg hzero]
  by_cases hone : n = 1
  · rw [if_pos hone, if_pos hone]
    rfl
  · rw [if_neg hone, if_neg hone]
    rfl

theorem value_unitOf (table : List (List String × K)) :
    (unitOf table c).value = unit? table c.value := by
  unfold unitOf unit?
  cases table.find? fun row => row.1.contains (Text.asciiLower c.value) with
  | some row => rfl
  | none => rfl

theorem PressureNeedle.value_read : (PressureNeedle.read c).value = find? c.value := by
  unfold read find?
  rcases fields c.value with _ | ⟨subject, rest⟩
  · rfl
  dsimp only
  rcases Pressure.ofName? subject with _ | pressure
  · rfl
  dsimp only [Option.bind_some]
  by_cases hrest : rest.isEmpty = true
  · rw [if_pos hrest, if_pos hrest]
    rfl
  · rw [if_neg hrest, if_neg hrest, Noted.value_bind, value_tintOf]
    rfl

theorem value_point [Arith K] :
    (point c : Noted (Option (Option K × Option K))).value = point? c.value := by
  unfold point point?
  rcases fields c.value with _ | ⟨x, _ | ⟨y, rest⟩⟩
  · rfl
  · rfl
  dsimp only
  rw [Noted.value_bind, c.value_number, Noted.value_bind, c.value_number]
  rfl

end Framed

/-! ## What fields do with it -/

/-- What the field finds in the value and the line of a record it puts into the settings, and
where it finds nothing it leaves them as they are. -/
class Field.Finds {β : outParam Type} (f : Field α)
    (find? : outParam (ReadEnv → String → Nat → Option β)) (put : outParam (β → α → α)) : Prop where
  value : ∀ c a, (f.read c).value a = ((find? c.env c.value c.record.line).map (put · a)).getD a

namespace Field

variable {keys : List String}

theorem keeping_finds {read : RecordAt → Noted (Option β)} {put : β → α → α}
    {find? : ReadEnv → String → Nat → Option β}
    (h : ∀ c, (read c).value = find? c.env c.value c.record.line) :
    (keeping keys read put).Finds find? put where
  value c a := by rw [value_keeping, h]

instance (put : SubjectSetting → α → α) :
    (subject put).Finds (fun _ text line => some ⟨text, some line⟩) put where
  value _ _ := rfl

instance (put : Bool → α → α) :
    (always keys (fun c => pure c.flag) put).Finds (fun _ text _ => some (isOn text)) put where
  value _ _ := rfl

instance (put : Option Path → α → α) :
    (image keys put).Finds (fun env text _ => some (RecordAt.image? env text)) put where
  value c a := congrArg (put · a) c.value_image

instance (put : Rgb → α → α) : (key put).Finds (fun _ text _ => usable? Rgb.ofHex? text) put :=
  keeping_finds fun c => c.value_readOr _ _ _

instance (put : Rgba → α → α) : (tint put).Finds (fun _ text _ => usable? Rgba.ofHex? text) put :=
  keeping_finds fun c => c.value_readOr _ _ _

instance (put : Int → α → α) : (layer put).Finds (fun _ text _ => whole? text) put :=
  keeping_finds fun c => c.value_integer _ _

instance (first second : String) (put : Option Int × Option Int → α → α) :
    (keeping keys (fun c => c.integerPair first second) put).Finds
      (fun _ text _ => wholePair? text) put :=
  keeping_finds fun c => c.value_integerPair _ _

instance (what : String) (bound : Int) (message : String) (put : Int → α → α) :
    (keeping keys (fun c => do
      match ← c.integer what c.value with
      | none => pure none
      | some n => if bound < n then pure (some n) else c.refuse message) put).Finds
      (fun _ text _ => (whole? text).filter fun n => decide (bound < n)) put :=
  keeping_finds fun c => c.value_testedInteger what bound message

instance (put : Bool → α → α) :
    (keeping keys Framed.usesLamps put).Finds (fun _ text _ => Framed.usesLamps? text) put :=
  keeping_finds Framed.value_usesLamps

instance (table : List (List String × K)) (put : K → α → α) :
    (keeping keys (Framed.unitOf table) put).Finds (fun _ text _ => Framed.unit? table text) put :=
  keeping_finds fun c => Framed.value_unitOf c table

instance (put : Framed.PressureNeedle → α → α) :
    (keeping keys Framed.PressureNeedle.read put).Finds
      (fun _ text _ => Framed.PressureNeedle.find? text) put :=
  keeping_finds Framed.PressureNeedle.value_read

instance (put : Rgba → α → α) :
    (Framed.tintField keys put).Finds (fun _ text _ => Framed.tint? (fields text)) put :=
  keeping_finds fun c => Framed.value_tintOf c _

variable [Arith K]

instance (what : String) (put : K → α → α) :
    (numberOf keys what put).Finds (fun _ text _ => number? text) put :=
  keeping_finds fun c => c.value_number _ _

instance (put : K → α → α) : (number keys put).Finds (fun _ text _ => number? text) put :=
  inferInstanceAs ((numberOf keys "Value" put).Finds _ put)

instance (put : K → α → α) :
    (angle keys put).Finds (fun _ text _ => (number? text).map Arith.radians) put :=
  keeping_finds fun c => c.value_angle

instance (put : Option K × Option K → α → α) :
    (pair keys put).Finds (fun _ text _ => numberPair? text) put :=
  keeping_finds fun c => c.value_numberPair _ _

instance (put : Option K × Option K → α → α) :
    (Framed.pointField keys put).Finds (fun _ text _ => Framed.point? text) put :=
  keeping_finds fun c => Framed.value_point c

instance (test : K → Bool) (message : String) (put : K → α → α) :
    (testedNumber keys test message put).Finds (fun _ text _ => (number? text).filter test) put :=
  keeping_finds fun c => c.value_tested test message

instance (put : K → α → α) :
    (Framed.positiveField keys put).Finds
      (fun _ text _ => (number? text).filter fun x => decide (0.0 < x)) put :=
  inferInstanceAs ((testedNumber keys _ _ put).Finds _ put)

instance (test : K → Bool) (message : String) (mend : K → K) (put : K → α → α) :
    (mendedNumber keys test message mend put).Finds
      (fun _ text _ => (number? text).map fun x => if test x then x else mend x) put := by
  refine keeping_finds fun c => ?_
  rw [Noted.value_bind, c.value_number]
  rcases number? c.value with _ | x
  · rfl
  dsimp only [Option.map_some]
  split
  · rfl
  · rfl

end Field

end DriverDesk
