import Mathlib.Data.List.Forall2
import DriverDesk.Proofs.Diagnosed
import DriverDesk.Proofs.Findings
import DriverDesk.Proofs.Insertion

/-!
# Rejected records

Every key asks for a value of some form. A record whose value does not have it is as good as
absent: without its line the panel compiles to the same, and only what was said of that line is
not said.
-/

namespace DriverDesk

variable {K : Type}

/-! ## What keys ask for -/

/-- The form of value that a key asks for. -/
inductive Ask (K : Type) where
  /-- Any text; an empty one counts as well. -/
  | anything
  | number
  /-- A number above a bound. -/
  | numberAbove (bound : K)
  | whole
  /-- A whole number above a bound. -/
  | wholeAbove (bound : Int)
  /-- `0` or `1`. -/
  | choice
  /-- Two numbers around a comma, of which one may be missing. -/
  | pair
  /-- Two whole numbers around a comma, of which one may be missing. -/
  | wholePair
  /-- Two numbers as arguments, of which one may be missing. -/
  | point
  /-- Red, green and blue in hexadecimal digits. -/
  | rgb
  /-- Red, green and blue in hexadecimal digits, and the opacity if there is one. -/
  | rgba
  /-- Red, green and blue as arguments. -/
  | channels
  /-- The name of a pressure, and red, green and blue if more arguments follow it. -/
  | needle
  /-- One of some names. -/
  | name (names : List String)

namespace Ask

open Argument

/-- One of the first three arguments is missing, empty or not a whole number. -/
def LacksChannel (arguments : List String) : Prop :=
  arguments.length < 3 ∨ ∃ text ∈ arguments.take 3, Unreadable Numeral.lenientInt? text

variable [Arith K]

/-- The text does not have the form that is asked for. -/
def Rejects : Ask K → String → Prop
  | anything, _ => False
  | number, text => Unreadable Numeral.lenient? text
  | numberAbove bound, text =>
    Unreadable Numeral.lenient? text ∨
      ∃ d, Numeral.lenient? text = some d ∧ ¬ bound < Arith.ofDecimal d
  | whole, text => Unreadable Numeral.lenientInt? text
  | wholeAbove bound, text =>
    Unreadable Numeral.lenientInt? text ∨ ∃ n, Numeral.lenientInt? text = some n ∧ n ≤ bound
  | choice, text =>
    Unreadable Numeral.lenientInt? text ∨ ∃ n, Numeral.lenientInt? text = some n ∧ n ≠ 0 ∧ n ≠ 1
  | pair, text =>
    ∀ p, pair? text = some p → Unreadable Numeral.lenient? p.1 ∧ Unreadable Numeral.lenient? p.2
  | wholePair, text =>
    ∀ p, pair? text = some p →
      Unreadable Numeral.lenientInt? p.1 ∧ Unreadable Numeral.lenientInt? p.2
  | point, text =>
    ∀ x y rest, fields text = x :: y :: rest →
      Unreadable Numeral.lenient? x ∧ Unreadable Numeral.lenient? y
  | rgb, text => Unreadable Rgb.ofHex? text
  | rgba, text => Unreadable Rgba.ofHex? text
  | channels, text => LacksChannel (fields text)
  | needle, text =>
    ∀ subject rest, fields text = subject :: rest →
      Framed.Pressure.ofName? subject = none ∨ rest ≠ [] ∧ LacksChannel rest
  | name names, text => Text.asciiLower text ∉ names

end Ask

namespace Calibrated

variable [Arith K]

def Header.asks : List (List String × Ask K) :=
  [(["resolution"], .numberAbove 100.0), (["left"], .number), (["right"], .number),
   (["top"], .number), (["bottom"], .number), (["daytimeimage"], .anything),
   (["nighttimeimage"], .anything), (["transparentcolor"], .rgb), (["center"], .pair),
   (["origin"], .pair)]

def PilotLamp.asks : List (List String × Ask K) :=
  [(["subject"], .anything), (["location"], .pair), (["daytimeimage"], .anything),
   (["nighttimeimage"], .anything), (["transparentcolor"], .rgb), (["layer"], .whole)]

def Needle.asks : List (List String × Ask K) :=
  [(["subject"], .anything), (["location"], .pair), (["radius"], .number),
   (["daytimeimage"], .anything), (["nighttimeimage"], .anything), (["color"], .rgba),
   (["transparentcolor"], .rgb), (["origin"], .pair), (["initialangle"], .number),
   (["lastangle"], .number), (["minimum"], .number), (["maximum"], .number),
   (["naturalfreq"], .number), (["dampingratio"], .number), (["layer"], .whole),
   (["backstop"], .anything), (["smoothed"], .anything)]

def LinearGauge.asks : List (List String × Ask K) :=
  [(["subject"], .anything), (["location"], .pair), (["minimum"], .number),
   (["maximum"], .number), (["width"], .number), (["direction"], .wholePair),
   (["daytimeimage"], .anything), (["nighttimeimage"], .anything),
   (["transparentcolor"], .rgb), (["layer"], .whole)]

def DigitalNumber.asks : List (List String × Ask K) :=
  [(["subject"], .anything), (["location"], .pair), (["daytimeimage"], .anything),
   (["nighttimeimage"], .anything), (["transparentcolor"], .rgb), (["interval"], .wholeAbove 0),
   (["layer"], .whole)]

def DigitalGauge.asks : List (List String × Ask K) :=
  [(["subject"], .anything), (["location"], .pair), (["radius"], .number), (["color"], .rgba),
   (["initialangle"], .number), (["lastangle"], .number), (["minimum"], .number),
   (["maximum"], .number), (["step"], .number), (["layer"], .whole)]

def Timetable.asks : List (List String × Ask K) :=
  [(["location"], .pair), (["width"], .number), (["height"], .number),
   (["transparentcolor"], .rgb), (["layer"], .whole)]

/-- What the keys of a section ask for, by the lowercase name of the section. -/
def asks (K : Type) [Arith K] (name : String) : List (List String × Ask K) :=
  match name with
  | "this" => Header.asks
  | "pilotlamp" => PilotLamp.asks
  | "needle" => Needle.asks
  | "lineargauge" => LinearGauge.asks
  | "digitalnumber" => DigitalNumber.asks
  | "digitalgauge" => DigitalGauge.asks
  | "timetable" => Timetable.asks
  | _ => []

end Calibrated

namespace Framed

def Background.asks : List (List String × Ask K) := [(["background", "背景"], .anything)]

def View.asks : List (List String × Ask K) := [(["yaw"], .number), (["pitch"], .number)]

def DigitalIndicator.asks : List (List String × Ask K) :=
  [(["number", "数字"], .anything), (["corner", "左上"], .point), (["size", "サイズ"], .point),
   (["unit", "単位"], .name ["km/h", "kmph", "mph", "m/s", "ms"])]

def PilotLamp.asks : List (List String × Ask K) :=
  [(["turnon", "点灯"], .anything), (["turnoff", "消灯"], .anything), (["corner", "左上"], .point)]

variable [Arith K]

def PressureGauge.asks : List (List String × Ask K) :=
  [(["type", "形態"], .choice), (["lowerneedle", "lowerhand", "下針"], .needle),
   (["upperneedle", "upperhand", "上針"], .needle), (["center", "中心"], .point),
   (["radius", "半径"], .numberAbove 0.0), (["background", "背景"], .anything),
   (["cover", "ふた"], .anything),
   (["unit", "単位"], .name ["kpa", "kgf/cm2", "kgf/cm^2", "kgf/cm²"]),
   (["minimum", "最小"], .number), (["maximum", "最大"], .number), (["angle", "角度"], .number)]

def Speedometer.asks : List (List String × Ask K) :=
  [(["type", "形態"], .choice), (["background", "背景"], .anything), (["cover", "ふた"], .anything),
   (["atc"], .anything), (["atcradius", "atc半径"], .number), (["needle", "針"], .channels),
   (["center", "中心"], .point), (["radius", "半径"], .numberAbove 0.0),
   (["angle", "角度"], .number), (["maximum", "最大"], .numberAbove 0.0)]

def Watch.asks : List (List String × Ask K) :=
  [(["background", "背景"], .anything), (["needle", "針"], .channels), (["center", "中心"], .point),
   (["radius", "半径"], .numberAbove 0.0)]

def BrakeIndicator.asks : List (List String × Ask K) :=
  [(["image", "画像"], .anything), (["corner", "左上"], .point), (["width", "幅"], .numberAbove 0.0)]

/-- What the keys of a section ask for, by the lowercase name of the section. -/
def asks (K : Type) [Arith K] (name : String) : List (List String × Ask K) :=
  match name with
  | "panel" | "パネル" => Background.asks
  | "view" | "視点" => View.asks
  | "pressuregauge" | "pressuremeter" | "pressureindicator" | "圧力計" => PressureGauge.asks
  | "speedometer" | "speedindicator" | "速度計" => Speedometer.asks
  | "digitalindicator" | "デジタル速度計" => DigitalIndicator.asks
  | "pilotlamp" | "知らせ灯" => PilotLamp.asks
  | "watch" | "時計" => Watch.asks
  | "brakeindicator" | "ブレーキ表示灯" => BrakeIndicator.asks
  | _ => []

end Framed

namespace PanelFormat

variable (K) [Arith K]

/-- What the keys of a section ask for in a format, by the lowercase name of the section. -/
def asks : PanelFormat → String → List (List String × Ask K)
  | .calibrated => Calibrated.asks K
  | .framed => Framed.asks K

/-- What a key asks for in a section of a format, by their lowercase names. -/
def ask? (format : PanelFormat) (name key : String) : Option (Ask K) :=
  ((format.asks K name).find? (·.1.contains key)).map (·.2)

end PanelFormat

/-! ## What a rejected value is read to -/

open Argument

theorem Framed.tint?_eq_none {arguments : List String} (h : Ask.LacksChannel arguments) :
    tint? arguments = none := by
  have hchannel {text : String} (h : Unreadable Numeral.lenientInt? text) :
      channel? text = none := by
    rw [channel?, whole?_eq_none h]
    rfl
  rcases arguments with _ | ⟨red, _ | ⟨green, _ | ⟨blue, rest⟩⟩⟩
  · rfl
  · rfl
  · rfl
  rcases h with hlength | ⟨text, htext, hunreadable⟩
  · rw [List.length_cons, List.length_cons, List.length_cons] at hlength
    omega
  have hnone := hchannel hunreadable
  simp only [List.take_succ_cons, List.take_zero, List.mem_cons, List.not_mem_nil,
    or_false] at htext
  unfold tint?
  dsimp only
  rcases htext with rfl | rfl | rfl
  · rw [hnone]
    rfl
  · rw [hnone]
    cases channel? red <;> rfl
  · rw [hnone]
    cases channel? red <;> cases channel? green <;> rfl

theorem Framed.PressureNeedle.find?_eq_none {text : String}
    (h : ∀ subject rest, fields text = subject :: rest →
      Pressure.ofName? subject = none ∨ rest ≠ [] ∧ Ask.LacksChannel rest) :
    find? text = none := by
  unfold find?
  rcases hfields : fields text with _ | ⟨subject, rest⟩
  · rfl
  dsimp only
  rcases h subject rest hfields with hpressure | ⟨hrest, hlacks⟩
  · rw [hpressure]
    rfl
  · have hmore : ¬ rest.isEmpty = true := mt List.isEmpty_iff.mp hrest
    rcases Pressure.ofName? subject with _ | pressure
    · rfl
    · rw [Option.bind_some, if_neg hmore, tint?_eq_none hlacks]
      rfl

/-- The field has the keys of the row, and what the row rejects changes nothing. -/
structure Field.Asks {α : Type} [Arith K] (f : Field α) (row : List String × Ask K) : Prop where
  keys : f.keys = row.1
  rejects : ∀ c, row.2.Rejects c.value → ∀ a, (f.read c).value a = a

namespace Field

variable {α β : Type} {keys : List String} [Arith K]

/-- What is rejected is not found. -/
theorem asks_of_finds {f : Field α} {find? : ReadEnv → String → Nat → Option β}
    {put : β → α → α} [h : f.Finds find? put] {ask : Ask K}
    (hnone : ∀ env text line, ask.Rejects text → find? env text line = none) :
    f.Asks (f.keys, ask) := by
  refine ⟨rfl, fun c hrejects a => ?_⟩
  rw [h.value, hnone _ _ _ hrejects]
  rfl

/-- Of a pair that is rejected, neither half is found. -/
theorem asks_of_finds_pair {f : Field α}
    {find? : ReadEnv → String → Nat → Option (Option β × Option β)}
    {put : Option β × Option β → α → α} [h : f.Finds find? put] {ask : Ask K}
    (hput : ∀ a, put (none, none) a = a)
    (hnone : ∀ env text line, ask.Rejects text →
      find? env text line = none ∨ find? env text line = some (none, none)) :
    f.Asks (f.keys, ask) := by
  refine ⟨rfl, fun c hrejects a => ?_⟩
  rw [h.value]
  rcases hnone c.env c.value c.record.line hrejects with hfound | hfound
  · rw [hfound]
    rfl
  · rw [hfound]
    exact hput a

theorem asks_anything (f : Field α) : f.Asks (f.keys, (.anything : Ask K)) :=
  ⟨rfl, fun _ hrejects => hrejects.elim⟩

theorem key_asks (put : Rgb → α → α) :
    (key put).Asks (["transparentcolor"], (.rgb : Ask K)) :=
  asks_of_finds fun _ _ _ h => usable?_eq_none h

theorem tint_asks (put : Rgba → α → α) : (tint put).Asks (["color"], (.rgba : Ask K)) :=
  asks_of_finds fun _ _ _ h => usable?_eq_none h

theorem layer_asks (put : Int → α → α) : (layer put).Asks (["layer"], (.whole : Ask K)) :=
  asks_of_finds fun _ _ _ h => whole?_eq_none h

theorem integerPair_asks (first second : String) {put : Option Int × Option Int → α → α}
    (hput : ∀ a, put (none, none) a = a) :
    (keeping keys (fun c => c.integerPair first second) put).Asks
      (keys, (.wholePair : Ask K)) := by
  refine asks_of_finds_pair hput fun _ text _ h => ?_
  unfold wholePair?
  rcases hpair : pair? text with _ | p
  · exact .inl rfl
  · obtain ⟨hfirst, hsecond⟩ := h p hpair
    rw [Option.map_some, whole?_eq_none hfirst, whole?_eq_none hsecond]
    exact .inr rfl

theorem testedInteger_asks (what : String) (bound : Int) (message : String)
    (put : Int → α → α) :
    (keeping keys (fun c => do
      match ← c.integer what c.value with
      | none => pure none
      | some n => if bound < n then pure (some n) else c.refuse message) put).Asks
      (keys, (.wholeAbove bound : Ask K)) := by
  refine asks_of_finds fun _ text _ h => ?_
  rcases h with h | ⟨n, hread, hbound⟩
  · rw [whole?_eq_none h]
    rfl
  · unfold whole? usable?
    split
    · rfl
    · rw [hread]
      exact Option.filter_some_neg (by simpa using hbound)

theorem usesLamps_asks (put : Bool → α → α) :
    (keeping keys Framed.usesLamps put).Asks (keys, (.choice : Ask K)) := by
  refine asks_of_finds fun _ text _ h => ?_
  rcases h with h | ⟨n, hread, hzero, hone⟩
  · rw [Framed.usesLamps?, whole?_eq_none h]
    rfl
  · unfold Framed.usesLamps? whole? usable?
    split
    · rfl
    · rw [hread, Option.bind_some, if_neg hzero, if_neg hone]

theorem unit_asks (table : List (List String × K)) (put : K → α → α) :
    (keeping keys (Framed.unitOf table) put).Asks
      (keys, (.name (table.flatMap (·.1)) : Ask K)) := by
  refine asks_of_finds fun _ text _ h => ?_
  have hnone : table.find? (fun row => row.1.contains (Text.asciiLower text)) = none := by
    refine List.find?_eq_none.mpr fun row hrow hname => h ?_
    exact List.mem_flatMap.mpr ⟨row, hrow, List.contains_iff_mem.mp hname⟩
  rw [Framed.unit?, hnone]
  rfl

theorem needle_asks (put : Framed.PressureNeedle → α → α) :
    (keeping keys Framed.PressureNeedle.read put).Asks (keys, (.needle : Ask K)) :=
  asks_of_finds fun _ _ _ h => Framed.PressureNeedle.find?_eq_none h

theorem tintField_asks (put : Rgba → α → α) :
    (Framed.tintField keys put).Asks (keys, (.channels : Ask K)) :=
  asks_of_finds fun _ _ _ h => Framed.tint?_eq_none h

theorem numberOf_asks (what : String) (put : K → α → α) :
    (numberOf keys what put).Asks (keys, (.number : Ask K)) :=
  asks_of_finds fun _ _ _ h => number?_eq_none h

theorem number_asks (put : K → α → α) : (number keys put).Asks (keys, (.number : Ask K)) :=
  numberOf_asks "Value" put

theorem angle_asks (put : K → α → α) : (angle keys put).Asks (keys, (.number : Ask K)) := by
  refine asks_of_finds fun _ _ _ h => ?_
  rw [number?_eq_none h]
  rfl

theorem mendedNumber_asks (test : K → Bool) (message : String) (mend : K → K)
    (put : K → α → α) :
    (mendedNumber keys test message mend put).Asks (keys, (.number : Ask K)) := by
  refine asks_of_finds fun _ _ _ h => ?_
  rw [number?_eq_none h]
  rfl

theorem testedNumber_asks (bound : K) (message : String) (put : K → α → α) :
    (testedNumber keys (fun x => decide (bound < x)) message put).Asks
      (keys, .numberAbove bound) := by
  refine asks_of_finds fun _ text _ h => ?_
  rcases h with h | ⟨d, hread, hbound⟩
  · rw [number?_eq_none h]
    rfl
  · unfold number? usable?
    split
    · rfl
    · dsimp only
      rw [hread, Option.map_some]
      exact Option.filter_some_neg (by simpa using hbound)

theorem positiveField_asks (put : K → α → α) :
    (Framed.positiveField keys put).Asks (keys, .numberAbove (0.0 : K)) :=
  testedNumber_asks 0.0 _ put

theorem pair_asks {put : Option K × Option K → α → α} (hput : ∀ a, put (none, none) a = a) :
    (pair keys put).Asks (keys, (.pair : Ask K)) := by
  refine asks_of_finds_pair hput fun _ text _ h => ?_
  unfold numberPair?
  rcases hpair : pair? text with _ | p
  · exact .inl rfl
  · obtain ⟨hfirst, hsecond⟩ := h p hpair
    rw [Option.map_some, number?_eq_none hfirst, number?_eq_none hsecond]
    exact .inr rfl

theorem pointField_asks {put : Option K × Option K → α → α}
    (hput : ∀ a, put (none, none) a = a) :
    (Framed.pointField keys put).Asks (keys, (.point : Ask K)) := by
  refine asks_of_finds_pair hput fun _ text _ h => ?_
  unfold Framed.point?
  rcases hfields : fields text with _ | ⟨x, _ | ⟨y, rest⟩⟩
  · exact .inl rfl
  · exact .inl rfl
  · obtain ⟨hx, hy⟩ := h x y rest hfields
    dsimp only
    rw [number?_eq_none hx, number?_eq_none hy]
    exact .inr rfl

end Field

/-- Each field of a kind of section has the keys of its row, and what the row rejects changes
nothing. -/
def Readable.Asks (α : Type) [Readable α] [Arith K] (rows : List (List String × Ask K)) : Prop :=
  List.Forall₂ Field.Asks (Readable.fields : List (Field α)) rows

theorem Readable.Asks.keys {α : Type} [Readable α] [Arith K] {rows : List (List String × Ask K)}
    (h : Readable.Asks α rows) :
    (Readable.fields : List (Field α)).map (·.keys) = rows.map (·.1) := by
  rw [← List.forall₂_eq_eq_eq, List.forall₂_map_left_iff, List.forall₂_map_right_iff]
  exact h.imp fun _ _ hf => hf.keys

open DriverDesk.Field

/-! ## The fields of each kind -/

section

variable [Arith K]

namespace Calibrated

theorem Header.asks_fields : Readable.Asks (Header K) (asks (K := K)) := by
  simp only [Readable.Asks, Readable.fields, fields, asks, List.forall₂_cons]
  exact ⟨testedNumber_asks 100.0 _ _, numberOf_asks _ _, numberOf_asks _ _, numberOf_asks _ _,
    numberOf_asks _ _, asks_anything _, asks_anything _, key_asks _, pair_asks fun _ => rfl,
    pair_asks fun _ => rfl, .nil⟩

theorem PilotLamp.asks_fields : Readable.Asks (PilotLamp K) (asks (K := K)) := by
  simp only [Readable.Asks, Readable.fields, fields, asks, List.forall₂_cons]
  exact ⟨asks_anything _, pair_asks fun _ => rfl, asks_anything _, asks_anything _, key_asks _,
    layer_asks _, .nil⟩

theorem Needle.asks_fields : Readable.Asks (Needle K) (asks (K := K)) := by
  simp only [Readable.Asks, Readable.fields, fields, asks, List.forall₂_cons]
  exact ⟨asks_anything _, pair_asks fun _ => rfl, mendedNumber_asks _ _ _ _, asks_anything _,
    asks_anything _, tint_asks _, key_asks _, pair_asks fun _ => rfl, angle_asks _, angle_asks _,
    number_asks _, number_asks _, mendedNumber_asks _ _ _ _, mendedNumber_asks _ _ _ _,
    layer_asks _, asks_anything _, asks_anything _, .nil⟩

theorem LinearGauge.asks_fields : Readable.Asks (LinearGauge K) (asks (K := K)) := by
  simp only [Readable.Asks, Readable.fields, fields, asks, List.forall₂_cons]
  exact ⟨asks_anything _, pair_asks fun _ => rfl, number_asks _, number_asks _, number_asks _,
    integerPair_asks _ _ fun _ => rfl, asks_anything _, asks_anything _, key_asks _,
    layer_asks _, .nil⟩

theorem DigitalNumber.asks_fields : Readable.Asks (DigitalNumber K) (asks (K := K)) := by
  simp only [Readable.Asks, Readable.fields, fields, asks, List.forall₂_cons]
  exact ⟨asks_anything _, pair_asks fun _ => rfl, asks_anything _, asks_anything _, key_asks _,
    testedInteger_asks _ _ _ _, layer_asks _, .nil⟩

theorem DigitalGauge.asks_fields : Readable.Asks (DigitalGauge K) (asks (K := K)) := by
  simp only [Readable.Asks, Readable.fields, fields, asks, List.forall₂_cons]
  exact ⟨asks_anything _, pair_asks fun _ => rfl, number_asks _, tint_asks _, angle_asks _,
    angle_asks _, number_asks _, number_asks _, number_asks _, layer_asks _, .nil⟩

theorem Timetable.asks_fields : Readable.Asks (Timetable K) (asks (K := K)) := by
  simp only [Readable.Asks, Readable.fields, fields, asks, List.forall₂_cons]
  exact ⟨pair_asks fun _ => rfl, number_asks _, number_asks _, key_asks _, layer_asks _, .nil⟩

end Calibrated

namespace Framed

theorem Background.asks_fields : Readable.Asks Background (Background.asks (K := K)) := by
  simp only [Readable.Asks, Readable.fields, Background.asks, List.forall₂_cons]
  exact ⟨asks_anything _, .nil⟩

theorem View.asks_fields : Readable.Asks (View K) (View.asks (K := K)) := by
  simp only [Readable.Asks, Readable.fields, View.asks, List.forall₂_cons]
  exact ⟨numberOf_asks _ _, numberOf_asks _ _, .nil⟩

theorem PressureGauge.asks_fields : Readable.Asks (PressureGauge K) (asks (K := K)) := by
  simp only [Readable.Asks, Readable.fields, fields, asks, List.forall₂_cons]
  exact ⟨usesLamps_asks _, needle_asks _, needle_asks _, pointField_asks fun _ => rfl,
    positiveField_asks _, asks_anything _, asks_anything _, unit_asks units _, number_asks _,
    number_asks _, angle_asks _, .nil⟩

theorem Speedometer.asks_fields : Readable.Asks (Speedometer K) (asks (K := K)) := by
  simp only [Readable.Asks, Readable.fields, fields, asks, List.forall₂_cons]
  exact ⟨usesLamps_asks _, asks_anything _, asks_anything _, asks_anything _, number_asks _,
    tintField_asks _, pointField_asks fun _ => rfl, positiveField_asks _, angle_asks _,
    positiveField_asks _, .nil⟩

theorem DigitalIndicator.asks_fields : Readable.Asks (DigitalIndicator K) (asks (K := K)) := by
  simp only [Readable.Asks, Readable.fields, fields, asks, List.forall₂_cons]
  exact ⟨asks_anything _, pointField_asks fun _ => rfl, pointField_asks fun _ => rfl,
    unit_asks units _, .nil⟩

theorem PilotLamp.asks_fields : Readable.Asks (PilotLamp K) (asks (K := K)) := by
  simp only [Readable.Asks, Readable.fields, fields, asks, List.forall₂_cons]
  exact ⟨asks_anything _, asks_anything _, pointField_asks fun _ => rfl, .nil⟩

theorem Watch.asks_fields : Readable.Asks (Watch K) (asks (K := K)) := by
  simp only [Readable.Asks, Readable.fields, fields, asks, List.forall₂_cons]
  exact ⟨asks_anything _, tintField_asks _, pointField_asks fun _ => rfl, positiveField_asks _,
    .nil⟩

theorem BrakeIndicator.asks_fields : Readable.Asks (BrakeIndicator K) (asks (K := K)) := by
  simp only [Readable.Asks, Readable.fields, fields, asks, List.forall₂_cons]
  exact ⟨asks_anything _, pointField_asks fun _ => rfl, positiveField_asks _, .nil⟩

end Framed

theorem Calibrated.kind_asks {name : String} {kind : Kind} (h : kind? K name = some kind) :
    Readable.Asks kind.Settings (asks K name) ∧ Readable.Blames kind.Settings := by
  unfold kind? at h
  split at h
  case h_1 => cases h; exact ⟨Header.asks_fields, Header.blames⟩
  case h_2 => cases h; exact ⟨PilotLamp.asks_fields, PilotLamp.blames⟩
  case h_3 => cases h; exact ⟨Needle.asks_fields, Needle.blames⟩
  case h_4 => cases h; exact ⟨LinearGauge.asks_fields, LinearGauge.blames⟩
  case h_5 => cases h; exact ⟨DigitalNumber.asks_fields, DigitalNumber.blames⟩
  case h_6 => cases h; exact ⟨DigitalGauge.asks_fields, DigitalGauge.blames⟩
  case h_7 => cases h; exact ⟨Timetable.asks_fields, Timetable.blames⟩
  case h_8 => cases h

theorem Framed.kind_asks {name : String} {kind : Kind} (h : kind? K name = some kind) :
    Readable.Asks kind.Settings (asks K name) ∧ Readable.Blames kind.Settings := by
  unfold kind? at h
  split at h
  case h_1 | h_2 => cases h; exact ⟨Background.asks_fields, Background.blames⟩
  case h_3 | h_4 => cases h; exact ⟨View.asks_fields, View.blames⟩
  case h_5 | h_6 | h_7 | h_8 => cases h; exact ⟨PressureGauge.asks_fields, PressureGauge.blames⟩
  case h_9 | h_10 | h_11 => cases h; exact ⟨Speedometer.asks_fields, Speedometer.blames⟩
  case h_12 | h_13 => cases h; exact ⟨DigitalIndicator.asks_fields, DigitalIndicator.blames⟩
  case h_14 | h_15 => cases h; exact ⟨PilotLamp.asks_fields, PilotLamp.blames⟩
  case h_16 | h_17 => cases h; exact ⟨Watch.asks_fields, Watch.blames⟩
  case h_18 | h_19 => cases h; exact ⟨BrakeIndicator.asks_fields, BrakeIndicator.blames⟩
  case h_20 => cases h

theorem PanelFormat.kind_asks (format : PanelFormat) {name : String} {kind : Kind}
    (h : format.kind? K name = some kind) :
    Readable.Asks kind.Settings (format.asks K name) ∧ Readable.Blames kind.Settings := by
  cases format with
  | calibrated => exact Calibrated.kind_asks h
  | framed => exact Framed.kind_asks h

theorem Calibrated.asks_unknown {name : String} (h : kind? K name = none) : asks K name = [] := by
  unfold kind? at h
  split at h
  case h_8 =>
    unfold asks
    split
    case h_8 => rfl
    all_goals contradiction
  all_goals cases h

theorem Framed.asks_unknown {name : String} (h : kind? K name = none) : asks K name = [] := by
  unfold kind? at h
  split at h
  case h_20 =>
    unfold asks
    split
    case h_20 => rfl
    all_goals contradiction
  all_goals cases h

/-- The rows of a name have the keys of the fields that its sections are read with, in the same
order. A name that stands for nothing has no rows. -/
theorem PanelFormat.asks_keys (format : PanelFormat) (name : String) :
    (format.asks K name).map (·.1) = match format.kind? K name with
      | some kind => (Readable.fields : List (Field kind.Settings)).map (·.keys)
      | none => [] := by
  cases hkind : format.kind? K name with
  | some kind => exact (format.kind_asks hkind).1.keys.symm
  | none =>
    have hrows : format.asks K name = [] := by
      cases format with
      | calibrated => exact Calibrated.asks_unknown hkind
      | framed => exact Framed.asks_unknown hkind
    rw [hrows, List.map_nil]

/-! ## Records that are left out -/

/-- A record with a value that is rejected changes nothing. -/
theorem updateOf_rejected {α : Type} {fields : List (Field α)} {rows : List (List String × Ask K)}
    (h : List.Forall₂ Field.Asks fields rows) {c : RecordAt} {row : List String × Ask K}
    (hrow : rows.find? (·.1.contains c.record.lowerKey) = some row)
    (hrejects : row.2.Rejects c.value) (a : α) : (updateOf fields c).value a = a := by
  unfold updateOf
  induction h with
  | nil => cases hrow
  | @cons f row' fields rows hf _ ih =>
    rw [List.find?_cons] at hrow ⊢
    rw [hf.keys]
    cases hkey : row'.1.contains c.record.lowerKey with
    | true =>
      rw [hkey] at hrow
      cases hrow
      exact hf.rejects c hrejects a
    | false =>
      rw [hkey] at hrow
      exact ih hrow

end

/-- The diagnostics that point to other lines. -/
def elsewhere (line : Nat) (notes : List Diagnostic) : List Diagnostic :=
  notes.filter fun d => d.location.line? ≠ some line

theorem elsewhere_append (line : Nat) (notes more : List Diagnostic) :
    elsewhere line (notes ++ more) = elsewhere line notes ++ elsewhere line more :=
  List.filter_append ..

theorem Diagnostic.map_move_id (notes : List Diagnostic) : notes.map (·.move id) = notes := by
  refine List.map_id'' (fun d => ?_) notes
  rw [move, Location.move, Option.map_id]
  rfl

/-- The same is said of all lines but one. -/
def Echo.apartFrom (line : Nat) : Echo id where
  Answers notes notes' := elsewhere line notes' = elsewhere line notes
  moved notes := by rw [Diagnostic.map_move_id]
  append h h' := by rw [elsewhere_append, elsewhere_append, h, h']

/-- Records are read to the same without one that is rejected. -/
theorem Kind.Echoes.without [Arith K] {kind : Kind} {rows : List (List String × Ask K)}
    (hasks : Readable.Asks kind.Settings rows) (hblames : Readable.Blames kind.Settings)
    {r : Record} {row : List String × Ask K}
    (hrow : rows.find? (·.1.contains r.lowerKey) = some row) (hrejects : row.2.Rejects r.value)
    (rs : List Record) : kind.Echoes (.apartFrom r.line) (r :: rs) rs := by
  intro env name a
  have hsame : rs.map (·.move id) = rs := List.map_id'' (fun _ => rfl) rs
  have hmoved : kind.Echoes (.apartFrom r.line) rs (rs.map (·.move id)) := moved _ rs
  rw [hsame] at hmoved
  have hrest := hmoved env name a
  have hupdate := updateOf_rejected hasks (c := ⟨env, name, r⟩) hrow hrejects
  have hblamed : (updateOf (Readable.fields : List (Field kind.Settings)) ⟨env, name, r⟩).Reports
      (RecordAt.Blamed ⟨env, name, r⟩) :=
    updateOf_cases (P := fun update => update.Reports (RecordAt.Blamed ⟨env, name, r⟩))
      (fun f hf _ => hblames f hf _) fun _ => Noted.reports_pure _
  have hquiet : elsewhere r.line
      (updateOf (Readable.fields : List (Field kind.Settings)) ⟨env, name, r⟩).notes = [] := by
    refine List.filter_eq_nil_iff.mpr fun d hd => ?_
    rw [(hblamed d hd).location]
    simp [RecordAt.location]
  have hvalue : (kind.readAll env name (r :: rs) a).value = (kind.readAll env name rs a).value := by
    rw [readAll, readRecords, Noted.value_bind, hupdate]
    rfl
  have hnotes : elsewhere r.line (kind.readAll env name (r :: rs) a).notes =
      elsewhere r.line (kind.readAll env name rs a).notes := by
    rw [readAll, readRecords, Noted.notes_bind, hupdate, elsewhere_append, hquiet]
    rfl
  exact ⟨hvalue ▸ hrest.value, hrest.notes.trans hnotes.symm⟩

namespace Sections

/-- A file is cut to the same without the line of a record that is rejected. -/
theorem cutFrom_without [Arith K] {format : PanelFormat} {open? : Option String} {i : Nat}
    {front : List String} {line name key value : String} {ask : Ask K} (back : List String)
    (hopen : openBehind open? front = some name) (hrecord : classify line = .record key value)
    (hask : format.ask? K (Text.lower name) (Text.lower key) = some ask)
    (hrejects : ask.Rejects value) :
    (cutFrom i (front ++ line :: back)).Echoes (.apartFrom (i + front.length + 1))
      (format.kind? K) open? (cutFrom i (front ++ "" :: back)) := by
  refine cutFrom_append_echoes (fun _ _ => rfl) ?_
  have hempty : classify "" = .empty := by decide
  have hback := cutFrom_add_echoes (i := i + front.length + 1) (n := 0)
    (.apartFrom (i + front.length + 1)) (format.kind? K) (fun _ _ => rfl) open? back
  rw [cutFrom, hrecord, cutFrom, hempty, hopen]
  refine ⟨fun name' hname kind hkind => ?_, hback.sections⟩
  cases hname
  obtain ⟨row, hrow, rfl⟩ := Option.map_eq_some_iff.mp hask
  obtain ⟨hasks, hblames⟩ := format.kind_asks hkind
  exact Kind.Echoes.without hasks hblames (r := ⟨key, value, i + front.length + 1⟩) hrow hrejects _

end Sections

namespace Compilation

/-- A record whose value is rejected is as good as absent: with an empty line in its place the
panel has the same camera, gives a car the same elements and registers the same textures, and
what is not said any more is what was said of that line. -/
theorem rejected_record_absent {σ : Type} [Arith K] (format : PanelFormat)
    (source source' : PanelSource) (options : Options K) (files : FileView)
    (store : TextureStore σ) (signal : Signal) (textures : σ) (front back : List String)
    (line name key value : String) (ask : Ask K)
    (hpath : source'.path = source.path) (hfolder : source'.trainFolder = source.trainFolder)
    (hlines : source.lines = front ++ line :: back)
    (hlines' : source'.lines = front ++ "" :: back)
    (hopen : Sections.openBehind none front = some name)
    (hrecord : Sections.classify line = .record key value)
    (hask : format.ask? K (Text.lower name) (Text.lower key) = some ask)
    (hrejects : ask.Rejects value) (hsignal : ∀ line, signal.stopsAt line = false) :
    let c := compileAs format source options files store signal textures
    let c' := compileAs format source' options files store signal textures
    c'.camera = c.camera ∧ c'.added = c.added ∧
      (∀ (cars : Cars K) (car : Nat), c'.commit cars car = c.commit cars car) ∧
      c'.bench.registrations = c.bench.registrations ∧ c'.bench.textures = c.bench.textures ∧
      c'.bench.diagnostics = elsewhere (front.length + 1) c.bench.diagnostics := by
  intro c c'
  have hfile : source'.fileName = source.fileName := congrArg Path.displayName hpath
  have hpreamble : (Sections.ofLines source'.lines).preamble =
      (Sections.ofLines source.lines).preamble.map (Prod.map id id) := by
    rw [hlines, hlines']
    exact Sections.preambleOf_append_of_open (fun _ _ => rfl) hopen
  have hcut := Sections.cutFrom_without (i := 0) back hopen hrecord hask hrejects
  rw [← hlines, ← hlines', Nat.zero_add] at hcut
  have hprepare := prepare_echoes (K := K) (σ := σ) (.apartFrom (front.length + 1)) format hfile
    hpreamble hcut.sections
  obtain ⟨hagrees, hanswers⟩ :=
    compileAs_answers options files store textures hfile hfolder hprepare hsignal
  -- the emptied line is none that anything is said of
  have hsilent : ∀ d ∈ c'.bench.diagnostics, d.location.line? ≠ some (front.length + 1) := by
    intro d hd hline
    obtain ⟨n, hn, k, l, hk, hl, hfilled⟩ :=
      filled_of_mem_diagnostics format source' options files store signal textures d hd
    obtain rfl : k = front.length := by
      have := Option.some.inj (hn.symm.trans hline)
      omega
    rw [hlines', List.getElem?_append_right (Nat.le_refl _), Nat.sub_self] at hl
    cases hl
    exact hfilled (by decide)
  have helsewhere : elsewhere (front.length + 1) c'.bench.diagnostics = c'.bench.diagnostics :=
    List.filter_eq_self.mpr fun d hd => decide_eq_true (hsilent d hd)
  exact ⟨hagrees.camera, hagrees.added, hagrees.commit, hagrees.registrations,
    hagrees.textures, helsewhere ▸ hanswers⟩

/-- A lamp with a layer that is no number, behind one that is. -/
theorem rejected_record_absent_lamp :
    let files : List MemoryFile := [⟨⟨"Train/lamp.bmp"⟩, some ⟨8, 8⟩, none⟩]
    let front := ["[PilotLamp]", "DaytimeImage = lamp.bmp", "Layer = 3"]
    let source := PanelSource.ofText ⟨"Train/panel2.cfg"⟩ ⟨"Train"⟩
      "[PilotLamp]\nDaytimeImage = lamp.bmp\nLayer = 3\nLayer = high\n"
    let source' := PanelSource.ofText ⟨"Train/panel2.cfg"⟩ ⟨"Train"⟩
      "[PilotLamp]\nDaytimeImage = lamp.bmp\nLayer = 3\n\n"
    let compiled (source : PanelSource) :=
      compileAs .calibrated source (Options.standard (K := Float))
        (Memory.view files ⟨"Compatibility"⟩) (Memory.store files) .never []
    source.lines = front ++ "Layer = high" :: [] ∧ source'.lines = front ++ "" :: [] ∧
      (Ask.whole : Ask Float).Rejects "high" ∧
      (compiled source).added.length = 1 ∧ (compiled source).bench.diagnostics.length = 1 ∧
      (compiled source').added = (compiled source).added ∧
      (compiled source').bench.diagnostics = elsewhere 4 (compiled source).bench.diagnostics := by
  intro files front source source' compiled
  have hlines : source.lines = front ++ "Layer = high" :: [] := by decide
  have hlines' : source'.lines = front ++ "" :: [] := by decide
  have hopen : Sections.openBehind none front = some "PilotLamp" := by decide
  have hrecord : Sections.classify "Layer = high" = .record "Layer" "high" := by decide
  have hname : Text.lower "PilotLamp" = "pilotlamp" := by decide
  have hkey : Text.lower "Layer" = "layer" := by decide
  have hask : PanelFormat.calibrated.ask? Float (Text.lower "PilotLamp") (Text.lower "Layer") =
      some .whole := by
    rw [hname, hkey]
    rfl
  have hrejects : (Ask.whole : Ask Float).Rejects "high" := .inr (by decide)
  have hpath : source'.path = source.path := by simp [source, source']
  have hfolder : source'.trainFolder = source.trainFolder := by simp [source, source']
  have hadded : (compiled source).added.length = 1 := by decide +kernel
  have hcount : (compiled source).bench.diagnostics.length = 1 := by decide +kernel
  have h := rejected_record_absent .calibrated source source' (Options.standard (K := Float))
    (Memory.view files ⟨"Compatibility"⟩) (Memory.store files) .never [] _ [] _ _ _ _ _
    hpath hfolder hlines hlines' hopen hrecord hask hrejects Signal.stopsAt_never
  clear_value source source'
  exact ⟨hlines, hlines', hrejects, hadded, hcount, h.2.1, h.2.2.2.2.2⟩

end Compilation

end DriverDesk
