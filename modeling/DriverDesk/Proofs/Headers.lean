import Mathlib.Data.List.Induction
import DriverDesk.Proofs.Plan
import DriverDesk.Proofs.Readings
import DriverDesk.Proofs.Requests

/-!
# Headers

A header keeps what it does not set, from one record to the next and from one section to the
next. So the records of all headers count as those of one: each setting is the last that can
be used, in whatever section it stands.
-/

namespace DriverDesk

open Build

variable {K σ : Type}

/-- The last value that some members of a list have, or else the given one. -/
def latest {α β : Type} (value? : α → Option β) (l : List α) (b : β) : β :=
  (l.filterMap value?).getLastD b

section

variable {α β : Type} {value? : α → Option β}

theorem latest_cons (a : α) (l : List α) (b : β) :
    latest value? (a :: l) b = latest value? l ((value? a).getD b) := by
  unfold latest
  cases h : value? a with
  | none => rw [List.filterMap_cons_none h]; rfl
  | some b' => rw [List.filterMap_cons_some h, List.getLastD_cons]; rfl

theorem latest_append (l l' : List α) (b : β) :
    latest value? (l ++ l') b = latest value? l' (latest value? l b) := by
  induction l generalizing b with
  | nil => rfl
  | cons a l ih => rw [List.cons_append, latest_cons, latest_cons, ih]

end

/-! ## What a value can be used as -/

namespace Argument

/-- A text that may be empty, if it is not and can be read. -/
def usable? {α : Type} (read? : String → Option α) (text : String) : Option α :=
  if text.isEmpty then none else read? text

variable [Arith K]

def number? : String → Option K := usable? fun t => (Numeral.lenient? t).map Arith.ofDecimal

/-- The numbers around the first comma. -/
def numberPair? (text : String) : Option (Option K × Option K) :=
  (pair? text).map fun p => (number? p.1, number? p.2)

def abscissa? (text : String) : Option K := (numberPair? text).bind (·.1)

def ordinate? (text : String) : Option K := (numberPair? text).bind (·.2)

end Argument

open Argument

/-- What a record gives to a setting with the given key. -/
def Record.given? {α : Type} (key : String) (read? : String → Option α) (r : Record) :
    Option α :=
  if r.lowerKey = key then read? r.value else none

open Record

theorem RecordAt.value_readOr {α : Type} (c : RecordAt) (what : String)
    (read? : String → Option α) (text : String) :
    (c.readOr what read? text).value = usable? read? text := by
  unfold readOr usable?
  split
  · rfl
  · cases read? text with
    | some a => rfl
    | none => rfl

theorem RecordAt.value_number [Arith K] (c : RecordAt) (what text : String) :
    (c.number what text : Noted (Option K)).value = number? text :=
  c.value_readOr what _ text

theorem RecordAt.value_numberPair [Arith K] (c : RecordAt) (first second : String) :
    (c.numberPair first second : Noted (Option (Option K × Option K))).value =
      numberPair? c.value := by
  unfold numberPair pairOf numberPair?
  rcases pair? c.value with _ | ⟨a, b⟩
  · rfl
  · simp [value_number]

/-- A number that fails its test cannot be used. -/
theorem RecordAt.value_tested [Arith K] (c : RecordAt) (test : K → Bool) (message : String) :
    (do
      match ← c.number "Value" c.value with
      | none => pure none
      | some x => if test x then pure (some x) else c.refuse message :
      Noted (Option K)).value = (number? c.value).filter test := by
  rw [Noted.value_bind, c.value_number]
  rcases number? c.value with _ | x
  · rfl
  · dsimp only [Option.filter]
    split
    · rfl
    · rfl

namespace Field

variable {α β : Type}

/-- A record without a usable value changes nothing. -/
theorem value_keeping (keys : List String) (read : RecordAt → Noted (Option β))
    (put : β → α → α) (c : RecordAt) (a : α) :
    ((keeping keys read put).read c).value a = ((read c).value.map (put · a)).getD a := by
  unfold keeping
  cases h : (read c).value with
  | none => simp [h]
  | some b => simp [h]

/-- Using what a record with a key of the field is read to is heeding the record. -/
def Heeds (use : α → β → β) (heed : β → List Record → β) (f : Field α) : Prop :=
  ∀ c : RecordAt, c.record.lowerKey ∈ f.keys → ∀ a b,
    use ((f.read c).value a) b = heed (use a b) [c.record]

variable {use : α → β → β} {heed : β → List Record → β} {key : String}

theorem keeping_heeds {γ : Type} {read : RecordAt → Noted (Option γ)} {put : γ → α → α}
    (value? : String → Option γ) (hread : ∀ c : RecordAt, (read c).value = value? c.value)
    (hput : ∀ r : Record, r.lowerKey = key → ∀ a b,
      use (((value? r.value).map (put · a)).getD a) b = heed (use a b) [r]) :
    (keeping [key] read put).Heeds use heed := by
  intro c hkey a b
  rw [value_keeping, hread]
  exact hput c.record (List.mem_singleton.mp hkey) a b

theorem image_heeds {put : Option Path → α → α}
    (hput : ∀ r : Record, r.lowerKey = key → ∀ path? a b,
      use (put path? a) b = heed (use a b) [r]) :
    (image [key] put).Heeds use heed :=
  fun c hkey a b => hput c.record (List.mem_singleton.mp hkey) _ a b

end Field

/-- Using what records are read to is heeding them, if they are heeded one by one. -/
theorem use_readRecords {α β : Type} {use : α → β → β} {heed : β → List Record → β}
    {fields : List (Field α)} (hfields : ∀ f ∈ fields, f.Heeds use heed)
    (hother : ∀ r : Record, (∀ f ∈ fields, r.lowerKey ∉ f.keys) → ∀ b, heed b [r] = b)
    (hnil : ∀ b, heed b [] = b)
    (happend : ∀ b rs rs', heed b (rs ++ rs') = heed (heed b rs) rs')
    (env : ReadEnv) (name : String) (rs : List Record) (a : α) (b : β) :
    use (readRecords fields env name rs a).value b = heed (use a b) rs := by
  induction rs generalizing a with
  | nil => exact (hnil _).symm
  | cons r rs ih =>
    have hr : use ((updateOf fields ⟨env, name, r⟩).value a) b = heed (use a b) [r] :=
      updateOf_cases (P := fun update => use (update.value a) b = heed (use a b) [r])
        (fun f hf hkey => hfields f hf _ hkey a b) fun hkeys => (hother r hkeys _).symm
    rw [← List.singleton_append, happend, ← hr]
    exact ih _

/-! ## Calibrations -/

/-- The calibration with what some records give. -/
def Calibration.heeding [Arith K] (c : Calibration K) (rs : List Record) : Calibration K where
  resolution :=
    latest (given? "resolution" fun v => (number? v).filter fun r => 100.0 < r) rs c.resolution
  left := latest (given? "left" number?) rs c.left
  right := latest (given? "right" number?) rs c.right
  top := latest (given? "top" number?) rs c.top
  bottom := latest (given? "bottom" number?) rs c.bottom
  center :=
    ⟨latest (given? "center" abscissa?) rs c.center.x,
      latest (given? "center" ordinate?) rs c.center.y⟩
  origin :=
    ⟨latest (given? "origin" abscissa?) rs c.origin.x,
      latest (given? "origin" ordinate?) rs c.origin.y⟩
  key := latest (given? "transparentcolor" (usable? Rgb.ofHex?)) rs c.key

theorem Calibration.heeding_append [Arith K] (c : Calibration K) (rs rs' : List Record) :
    c.heeding (rs ++ rs') = (c.heeding rs).heeding rs' := by
  simp only [heeding, latest_append]

def Section.isThis (s : Section) : Bool := s.lowerName == "this"

namespace Calibrated

open Calibration

variable [Arith K]

/-- What a header is read to. -/
def header? (env : ReadEnv) (s : Section) : Option (Header K) :=
  if s.isThis then some (s.read env).value else none

theorem Header.heeds_fields :
    ∀ f ∈ fields (K := K), f.Heeds apply heeding := by
  simp only [fields, List.forall_mem_cons]
  refine ⟨?resolution, ?left, ?right, ?top, ?bottom, ?daytime, ?nighttime, ?key, ?center, ?origin,
    List.forall_mem_nil _⟩
  case resolution =>
    refine Field.keeping_heeds (fun v => (number? v).filter fun r => 100.0 < r)
      (fun c => c.value_tested _ _) fun r hkey h c => ?_
    cases hx : (number? r.value : Option K).filter fun r => 100.0 < r <;>
      simp [apply, heeding, latest, given?, hkey, hx]
  case left | right | top | bottom =>
    refine Field.keeping_heeds number? (fun c => c.value_number _ _) fun r hkey h c => ?_
    cases hx : (number? r.value : Option K) <;> simp [apply, heeding, latest, given?, hkey, hx]
  case daytime | nighttime =>
    exact Field.image_heeds fun r hkey path? h c => by simp [apply, heeding, latest, given?, hkey]
  case key =>
    refine Field.keeping_heeds (usable? Rgb.ofHex?) (fun c => c.value_readOr _ _ _)
      fun r hkey h c => ?_
    cases hx : usable? Rgb.ofHex? r.value <;> simp [apply, heeding, latest, given?, hkey, hx]
  case center | origin =>
    refine Field.keeping_heeds numberPair? (fun c => c.value_numberPair _ _) fun r hkey h c => ?_
    rcases hp : (numberPair? r.value : Option (Option K × Option K)) with _ | ⟨_ | x, _ | y⟩ <;>
      simp [apply, heeding, latest, given?, hkey, hp, overlayPair, Point.overlay, abscissa?,
        ordinate?]

/-- A header applies what its records give. -/
theorem Header.apply_read (env : ReadEnv) (s : Section) (c : Calibration K) :
    ((s.read env).value : Header K).apply c = c.heeding s.records := by
  refine use_readRecords heeds_fields (fun r hkeys c => ?_) (fun _ => rfl) heeding_append env s.name
    s.records _ c
  simp [fields, Field.numberOf, Field.testedNumber, Field.keeping, Field.image, Field.always,
    Field.key, Field.pair] at hkeys
  simp [heeding, latest, given?, hkeys]

/-- However its records are cut into headers, a panel has one calibration. -/
theorem foldl_header? (env : ReadEnv) (sections : List Section) (c : Calibration K) :
    (sections.filterMap (header? env)).foldl (fun c h => h.apply c) c =
      c.heeding ((sections.filter (·.isThis)).flatMap (·.records)) := by
  induction sections generalizing c with
  | nil => rfl
  | cons s sections ih =>
    by_cases h : s.isThis
    · have hs : header? env s = some ((s.read env).value : Header K) := if_pos h
      rw [List.filterMap_cons_some hs, List.foldl_cons, ih, Header.apply_read,
        List.filter_cons_of_pos h, List.flatMap_cons, heeding_append]
    · have hs : header? (K := K) env s = none := if_neg h
      rw [List.filterMap_cons_none hs, ih, List.filter_cons_of_neg h]

variable {env : BuildEnv K σ} {t : σ}

theorem readHeaders_asks (sections : List Section) :
    Asks env t (readHeaders sections : Build K σ (List (Section × Option (Header K))))
      (Quietly (· = sections.map fun s => (s, header? env.read s))) := by
  induction sections with
  | nil => exact .pure ⟨rfl, rfl⟩
  | cons s rest ih =>
    have hrest (h? : Option (Header K)) (hs : header? env.read s = h?) :
        Asks env t (do
          let others ← readHeaders rest
          pure ((s, h?) :: others) : Build K σ _)
          (Quietly (· = (s :: rest).map fun s => (s, header? env.read s))) :=
      ih.bindQuiet fun others h => .pure ⟨rfl, by rw [h, List.map_cons, hs]⟩
    refine .ite (fun hname => ?_) fun hname => hrest none (if_neg (mt beq_iff_eq.mp hname))
    have hread : Asks env t (some <$> settings (Header K) s : Build K σ _)
        (Quietly (· = header? env.read s)) :=
      (settings_asks (Header K) s).map fun h _ ⟨hrs, hh⟩ =>
        ⟨hrs, by rw [header?, Section.isThis, hname, hh]; rfl⟩
    exact hread.bindQuiet fun h? h => hrest h? h.symm

/-- The calibration of a panel with some sections. -/
def calibration (sections : List Section) : Calibration K :=
  Calibration.standard.heeding ((sections.filter (·.isThis)).flatMap (·.records))

/-- The plan of a panel with some sections. -/
def planOf (env : BuildEnv K σ) (sections : List Section) : Plan K σ :=
  let space := (calibration sections).space env.options.viewport env.options.driver
  ⟨.ofCalibration (calibration sections) env.options.viewport,
    sections.map fun s =>
      (s, part space (calibration (K := K) sections).key s (header? env.read s))⟩

theorem plan_asks_eq (sections : List Section) :
    Asks env t (plan sections) (Quietly (· = planOf env sections)) := by
  refine Asks.read.bindQuiet fun env' henv => ?_
  subst henv
  refine (readHeaders_asks sections).bindQuiet fun headed h => .pure ⟨rfl, ?_⟩
  have hcalibration : calibrate (headed.filterMap (·.2)) =
      (calibration sections : Calibration K) := by
    rw [h, List.filterMap_map]
    exact foldl_header? env'.read sections .standard
  rw [hcalibration, h, List.map_map]
  rfl

end Calibrated

/-! ## Directions -/

def Section.isView (s : Section) : Bool := Framed.isView s.lowerName

def Section.isPanel (s : Section) : Bool := Framed.isPanel s.lowerName

namespace Framed

variable [Arith K]

/-- The tangents of a direction with what some records give. -/
def heeding (d : Point K) (rs : List Record) : Point K :=
  ⟨latest (given? "yaw" number?) rs d.x, latest (given? "pitch" number?) rs d.y⟩

theorem heeding_append (d : Point K) (rs rs' : List Record) :
    heeding d (rs ++ rs') = heeding (heeding d rs) rs' := by
  simp only [heeding, latest_append]

def View.turn (v : View K) (d : Point K) : Point K := d.overlay (v.yaw?, v.pitch?)

theorem View.heeds_fields :
    ∀ f ∈ (Readable.fields : List (Field (View K))), f.Heeds turn heeding := by
  simp only [Readable.fields, List.forall_mem_cons]
  refine ⟨?yaw, ?pitch, List.forall_mem_nil _⟩
  all_goals
    refine Field.keeping_heeds number? (fun c => c.value_number _ _) fun r hkey v d => ?_
    cases hx : (number? r.value : Option K) <;>
      simp [turn, heeding, latest, given?, hkey, hx, Point.overlay]

/-- A view turns to where its records say. -/
theorem View.turn_read (env : ReadEnv) (s : Section) (d : Point K) :
    ((s.read env).value : View K).turn d = heeding d s.records := by
  refine use_readRecords heeds_fields (fun r hkeys d => ?_) (fun _ => rfl) heeding_append env s.name
    s.records _ d
  simp [Readable.fields, Field.numberOf, Field.keeping] at hkeys
  simp [heeding, latest, given?, hkeys]

/-- What a section is read to. -/
def heading (env : ReadEnv) (s : Section) : Heading K :=
  if isPanel s.lowerName then .background (s.read env).value
  else if isView s.lowerName then .view (s.read env).value
  else .instrument

theorem isPanel_of_isView {name : String} (h : isView name = true) : isPanel name = false := by
  rw [isView, Bool.or_eq_true, beq_iff_eq, beq_iff_eq] at h
  rcases h with rfl | rfl
  · decide
  · decide

theorem heading_of_isView {env : ReadEnv} {s : Section} (h : isView s.lowerName = true) :
    heading (K := K) env s = .view (s.read env).value := by
  rw [heading, isPanel_of_isView h, if_neg Bool.false_ne_true, if_pos h]

theorem heading_of_isPanel {env : ReadEnv} {s : Section} (h : s.isPanel = true) :
    heading (K := K) env s = .background (s.read env).value := if_pos h

theorem heading_of_not_isPanel {env : ReadEnv} {s : Section} (h : ¬ s.isPanel = true) :
    heading (K := K) env s =
      if isView s.lowerName then .view (s.read env).value else .instrument := if_neg h

/-- However its records are cut into views, a panel has one direction. -/
theorem direction_heading (env : ReadEnv) (sections : List Section) :
    direction (sections.map (heading (K := K) env)) =
      heeding .zero ((sections.filter (·.isView)).flatMap (·.records)) := by
  unfold direction
  generalize (Point.zero : Point K) = d
  induction sections generalizing d with
  | nil => rfl
  | cons s sections ih =>
    rw [List.map_cons, List.foldl_cons, ih]
    by_cases hview : s.isView
    · rw [heading_of_isView hview, List.filter_cons_of_pos hview, List.flatMap_cons, heeding_append]
      exact congrArg (heeding · _) (View.turn_read env s d)
    · rw [List.filter_cons_of_neg hview, heading]
      cases isPanel s.lowerName with
      | true => rfl
      | false => rw [if_neg Bool.false_ne_true, if_neg (show ¬ isView s.lowerName from hview)]

variable {env : BuildEnv K σ} {t : σ}

theorem readHeadings_asks (sections : List Section) :
    Asks env t (readHeadings sections : Build K σ (List (Section × Heading K)))
      (Quietly (· = sections.map fun s => (s, heading env.read s))) := by
  induction sections with
  | nil => exact .pure ⟨rfl, rfl⟩
  | cons s rest ih =>
    have hrest (h : Heading K) (hs : heading env.read s = h) :
        Asks env t (do
          let others ← readHeadings rest
          pure ((s, h) :: others) : Build K σ _)
          (Quietly (· = (s :: rest).map fun s => (s, heading env.read s))) :=
      ih.bindQuiet fun others hothers => .pure ⟨rfl, by rw [hothers, List.map_cons, hs]⟩
    refine .ite (fun h => ?_) fun h => .ite (fun h' => ?_) fun h' =>
      hrest _ (by rw [heading, if_neg h, if_neg h'])
    · have hread : Asks env t (.background <$> settings Background s : Build K σ (Heading K))
          (Quietly (· = heading env.read s)) :=
        (settings_asks Background s).map fun b _ ⟨hrs, hb⟩ => ⟨hrs, by rw [hb, heading, if_pos h]⟩
      exact hread.bindQuiet fun _ hs => hrest _ hs.symm
    · have hread : Asks env t (.view <$> settings (View K) s : Build K σ (Heading K))
          (Quietly (· = heading env.read s)) :=
        (settings_asks (View K) s).map fun v _ ⟨hrs, hv⟩ => ⟨hrs, by rw [hv, heading_of_isView h']⟩
      exact hread.bindQuiet fun _ hs => hrest _ hs.symm

/-- The tangents of the direction of a panel with some sections. -/
def directionOf (sections : List Section) : Point K :=
  heeding .zero ((sections.filter (·.isView)).flatMap (·.records))

/-- The last `[Panel]`, to whose background the frame is fitted. -/
def lastPanel? (sections : List Section) : Option Section :=
  (sections.filter (·.isPanel)).getLast?

/-- The image that a `[Panel]` asks for, or the usual one if it is there. -/
def backgroundPath? (env : ReadEnv) (s : Section) : Option Path :=
  ((s.read env).value : Background).path? env

/-- Of several backgrounds the last one counts, also if it has no image. -/
theorem lastBackground?_heading (env : ReadEnv) (sections : List Section) :
    lastBackground? (sections.map (heading (K := K) env)) =
      (lastPanel? sections).map fun s => (s.read env).value := by
  unfold lastBackground? lastPanel?
  induction sections using List.reverseRecOn with
  | nil => rfl
  | append_singleton sections s ih =>
    rw [List.map_append, List.foldl_append, ih, List.filter_append, List.map_singleton,
      List.foldl_cons, List.foldl_nil]
    by_cases hpanel : s.isPanel = true
    · rw [List.filter_cons_of_pos hpanel, List.filter_nil, List.getLast?_concat,
        heading_of_isPanel hpanel]
      rfl
    · rw [List.filter_cons_of_neg hpanel, List.filter_nil, List.append_nil,
        heading_of_not_isPanel hpanel]
      cases isView s.lowerName <;> rfl

/-- The row from which backgrounds stand in a frame that is fitted to one of the size, or to
none. -/
def topRow (fitted? : Option PixelSize) : K :=
  fitted?.elim 240.0 fun size => Frame.pixelHeight - Arith.ofInt size.height

/-- The frame of a panel with some sections. -/
def fittedFrame (env : BuildEnv K σ) (t : σ) (sections : List Section) : Frame K :=
  let fitted? := (lastPanel? sections).bind fun s =>
    (backgroundPath? env.read s).bind (env.store.imageSize? t)
  { Frame.centered env.options.viewport env.options.driver with semiHeight := topRow fitted? }

theorem fitted_asks_eq (sections : List Section) :
    Asks env t (fitted (sections.map (heading (K := K) env.read)))
      (Quietly (· = fittedFrame env t sections)) := by
  refine Asks.read.bindQuiet fun env' henv => ?_
  subst henv
  have hpath : (lastBackground? (sections.map (heading (K := K) env'.read))).bind
      (·.path? env'.read) = (lastPanel? sections).bind (backgroundPath? env'.read) := by
    rw [lastBackground?_heading, Option.bind_map]
    rfl
  rw [hpath, fittedFrame, ← Option.bind_assoc]
  rcases (lastPanel? sections).bind (backgroundPath? env'.read) with _ | path
  · exact .pure ⟨rfl, rfl⟩
  refine Asks.get.bindQuiet fun b hb => ?_
  subst hb
  dsimp only [Option.bind_some]
  rcases env'.store.imageSize? b.textures path with _ | size
  · exact .pure ⟨rfl, rfl⟩
  · exact .pure ⟨rfl, rfl⟩

/-- The plan of a panel with some sections, all of which are built in one frame. -/
def planOf (env : BuildEnv K σ) (t : σ) (sections : List Section) : Plan K σ :=
  let frame := fittedFrame env t sections
  ⟨.ofFrame frame (directionOf sections).x (directionOf sections).y,
    sections.map fun s =>
      (s, part (frame.space env.options.driver) frame s (heading env.read s))⟩

theorem plan_asks_eq (sections : List Section) :
    Asks env t (plan sections) (Quietly (· = planOf env t sections)) := by
  refine Asks.read.bindQuiet fun env' henv => ?_
  subst henv
  refine (readHeadings_asks sections).bindQuiet fun headed hheaded => ?_
  subst hheaded
  have hheadings : (sections.map fun s => (s, heading (K := K) env'.read s)).map (·.2) =
      sections.map (heading env'.read) := List.map_map
  have hdirection : direction (sections.map (heading (K := K) env'.read)) =
      directionOf sections := direction_heading env'.read sections
  rw [hheadings]
  refine (fitted_asks_eq sections).bindQuiet fun frame hframe => .pure ⟨rfl, ?_⟩
  rw [hframe, hdirection, List.map_map]
  rfl

/-- A background only moves the frame, which the camera does not show. -/
theorem plan_asks_camera (sections : List Section) :
    Asks env t (plan sections : Build K σ (Plan K σ)) (Quietly fun p => p.camera =
      .ofFrame (.centered env.options.viewport env.options.driver) (directionOf sections).x
        (directionOf sections).y) :=
  (plan_asks_eq sections).mono fun p _ ⟨hrs, hp⟩ => ⟨hrs, by rw [hp]; rfl⟩

end Framed

end DriverDesk
