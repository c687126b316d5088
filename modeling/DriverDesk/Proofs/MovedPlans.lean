import DriverDesk.Proofs.MovedInstruments
import DriverDesk.Proofs.Run

/-!
# Moved plans

A file with further sections that mean nothing to its format, and further records that
mean nothing to their sections, has the plan of the file without them, apart from parts
that build nothing.
-/

namespace DriverDesk

open Build Step

variable {K σ : Type} {shift : Nat → Nat} {T : Echo shift}

/-- The second list goes through the first one and has some extra members. -/
inductive Interleaved {α : Type} (Kept : α → α → Prop) (Extra : α → Prop) :
    List α → List α → Prop
  | nil : Interleaved Kept Extra [] []
  | keep {a a' : α} {l l' : List α} (ha : Kept a a') (h : Interleaved Kept Extra l l') :
      Interleaved Kept Extra (a :: l) (a' :: l')
  | extra {a' : α} {l l' : List α} (ha : Extra a') (h : Interleaved Kept Extra l l') :
      Interleaved Kept Extra l (a' :: l')

namespace Interleaved

variable {α β : Type} {Kept : α → α → Prop} {Extra : α → Prop} {Kept' : β → β → Prop}
  {Extra' : β → Prop} {l l' : List α}

theorem map {f f' : α → β} (hkept : ∀ a a', Kept a a' → Kept' (f a) (f' a'))
    (hextra : ∀ a, Extra a → Extra' (f' a)) (h : Interleaved Kept Extra l l') :
    Interleaved Kept' Extra' (l.map f) (l'.map f') := by
  induction h with
  | nil => exact .nil
  | keep ha _ ih => exact .keep (hkept _ _ ha) ih
  | extra ha _ ih => exact .extra (hextra _ ha) ih

/-- What extra members add nothing to is the same for both lists. -/
theorem flatMap_eq {f : α → List β} (hkept : ∀ a a', Kept a a' → f a' = f a)
    (hextra : ∀ a, Extra a → f a = []) (h : Interleaved Kept Extra l l') :
    l'.flatMap f = l.flatMap f := by
  induction h with
  | nil => rfl
  | keep ha _ ih => rw [List.flatMap_cons, List.flatMap_cons, hkept _ _ ha, ih]
  | extra ha _ ih => rw [List.flatMap_cons, hextra _ ha, ih, List.nil_append]

theorem filterMap_eq {f : α → Option β} (hkept : ∀ a a', Kept a a' → f a' = f a)
    (hextra : ∀ a, Extra a → f a = none) (h : Interleaved Kept Extra l l') :
    l'.filterMap f = l.filterMap f := by
  induction h with
  | nil => rfl
  | keep ha _ ih => rw [List.filterMap_cons, List.filterMap_cons, hkept _ _ ha, ih]
  | extra ha _ ih => rw [List.filterMap_cons, hextra _ ha, ih]

theorem foldl_eq {f : β → α → β} (hkept : ∀ a a' b, Kept a a' → f b a' = f b a)
    (hextra : ∀ a b, Extra a → f b a = b) (h : Interleaved Kept Extra l l') (b : β) :
    l'.foldl f b = l.foldl f b := by
  induction h generalizing b with
  | nil => rfl
  | keep ha _ ih => rw [List.foldl_cons, List.foldl_cons, hkept _ _ _ ha, ih]
  | extra ha _ ih => rw [List.foldl_cons, hextra _ _ ha, ih]

end Interleaved

/-! ## Sections that say the same -/

/-- The second section is the first, moved, and is read to the same by the kind that its name
stands for. -/
structure Section.Echoes (T : Echo shift) (kind? : String → Option Kind) (s s' : Section) :
    Prop extends s.Moved shift s' where
  records : ∀ kind, kind? s.lowerName = some kind → kind.Echoes T s.records s'.records

/-- A section whose name stands for nothing. -/
def Section.Unknown (kind? : String → Option Kind) (s : Section) : Prop :=
  kind? s.lowerName = none

/-- The parts of two plans build the same, but for some that build nothing. -/
def Plan.Echoes (T : Echo shift) (p p' : Plan K σ) : Prop :=
  p'.camera = p.camera ∧
    Interleaved (fun part part' => Build.Echoes T Eq part.2 part'.2)
      (fun part => part.2 = pure []) p.parts p'.parts

theorem Section.Moved.lowerName {s s' : Section} (h : s.Moved shift s') :
    s'.lowerName = s.lowerName := congrArg Text.lower h.name

namespace Section.Echoes

variable {kind? : String → Option Kind} {s s' : Section}

/-- Sections that say the same are read to the same settings, moved. -/
theorem settings_echoes (h : s.Echoes T kind? s') (kind : Kind)
    (hkind : kind? s.lowerName = some kind) :
    Build.Echoes (K := K) (σ := σ) T (fun a a' => kind.move shift a = a')
      (settings kind.Settings s) (settings kind.Settings s') := by
  refine Build.Echoes.read.bindEq fun env => take_echoes ?_
  have hread := h.records kind hkind env.read s.name Readable.initial
  rw [(kind.moves shift).initial] at hread
  rw [Section.read, Section.read, h.toMoved.name]
  exact hread

/-- Sections that say the same are built the same. -/
theorem buildWith_echoes (h : s.Echoes T kind? s') (kind : Kind)
    (hkind : kind? s.lowerName = some kind)
    {build : kind.Settings → Section → Build K σ (List (Step K))}
    (hbuild : ∀ a, Build.Echoes T Eq (build a s) (build (kind.move shift a) s')) :
    Build.Echoes T Eq (buildWith kind.Settings build s) (buildWith kind.Settings build s') :=
  (h.settings_echoes kind hkind).bind fun a _ ha => ha ▸ hbuild a

end Section.Echoes

/-- Sections of a name are read to the settings of a kind and built from them, and where such a
section is moved the same is built. -/
def Kind.Builds (kind : Kind) (T : Echo shift)
    (instrument : Space K → Section → Build K σ (List (Step K))) (name : String) : Prop :=
  ∃ build : Space K → kind.Settings → Section → Build K σ (List (Step K)),
    (∀ space s, s.lowerName = name →
      instrument space s = buildWith kind.Settings (build space) s) ∧
    ∀ space a s s', s.Moved shift s' →
      Build.Echoes T Eq (build space a s) (build space (kind.move shift a) s')

variable {s s' : Section}

theorem Kind.Builds.echoes {kind : Kind} {kind? : String → Option Kind}
    {instrument : Space K → Section → Build K σ (List (Step K))}
    (hbuilds : kind.Builds T instrument s.lowerName) (h : s.Echoes T kind? s')
    (hkind : kind? s.lowerName = some kind) (space : Space K) :
    Build.Echoes T Eq (instrument space s) (instrument space s') := by
  obtain ⟨build, hinstrument, hbuild⟩ := hbuilds
  rw [hinstrument space s rfl, hinstrument space s' h.toMoved.lowerName]
  exact h.buildWith_echoes kind hkind fun a => hbuild space a s s' h.toMoved

/-! ## Calibrated panels -/

namespace Calibrated

section

variable (K) [Arith K]

def Header.kind : Kind := ⟨Header K, fun _ => id, fun _ => Header.moves⟩

def PilotLamp.kind : Kind := ⟨PilotLamp K, PilotLamp.move, fun _ => PilotLamp.moves⟩

def Needle.kind : Kind := ⟨Needle K, Needle.move, fun _ => Needle.moves⟩

def LinearGauge.kind : Kind := ⟨LinearGauge K, LinearGauge.move, fun _ => LinearGauge.moves⟩

def DigitalNumber.kind : Kind :=
  ⟨DigitalNumber K, DigitalNumber.move, fun _ => DigitalNumber.moves⟩

def DigitalGauge.kind : Kind := ⟨DigitalGauge K, DigitalGauge.move, fun _ => DigitalGauge.moves⟩

def Timetable.kind : Kind := ⟨Timetable K, fun _ => id, fun _ => Timetable.moves⟩

end

/-- The kind of a section, by its lowercase name; `kind_builds` ties it to the plan. -/
def kind? (K : Type) [Arith K] (name : String) : Option Kind :=
  match name with
  | "this" => some (Header.kind K)
  | "pilotlamp" => some (PilotLamp.kind K)
  | "needle" => some (Needle.kind K)
  | "lineargauge" => some (LinearGauge.kind K)
  | "digitalnumber" => some (DigitalNumber.kind K)
  | "digitalgauge" => some (DigitalGauge.kind K)
  | "timetable" => some (Timetable.kind K)
  | _ => none

variable [Arith K]

/-- A section that stands for a kind is an instrument of that kind, unless it is a header. -/
theorem kind_builds {name : String} {kind : Kind} (h : kind? K name = some kind)
    (hname : name ≠ "this") (T : Echo shift) :
    kind.Builds T (instrument (K := K) (σ := σ)) name := by
  unfold kind? at h
  split at h
  case h_1 => exact absurd rfl hname
  case h_2 =>
    cases h
    exact ⟨fun space l s => l.build s space, fun _ _ hs => by simp only [instrument, hs]; rfl,
      fun space l _ _ hmoved => PilotLamp.build_echoes hmoved l space⟩
  case h_3 =>
    cases h
    exact ⟨fun space n s => n.build s space, fun _ _ hs => by simp only [instrument, hs]; rfl,
      fun space n _ _ hmoved => Needle.build_echoes hmoved n space⟩
  case h_4 =>
    cases h
    exact ⟨fun space g s => g.build s space, fun _ _ hs => by simp only [instrument, hs]; rfl,
      fun space g _ _ hmoved => LinearGauge.build_echoes hmoved g space⟩
  case h_5 =>
    cases h
    exact ⟨fun space d s => d.build s space, fun _ _ hs => by simp only [instrument, hs]; rfl,
      fun space d _ _ hmoved => DigitalNumber.build_echoes hmoved d space⟩
  case h_6 =>
    cases h
    exact ⟨fun space g s => g.build s space, fun _ _ hs => by simp only [instrument, hs]; rfl,
      fun space g _ _ hmoved => DigitalGauge.build_echoes hmoved g space⟩
  case h_7 =>
    cases h
    exact ⟨fun space t s => t.build s space, fun _ _ hs => by simp only [instrument, hs]; rfl,
      fun space t _ _ hmoved => Timetable.build_echoes hmoved t space⟩
  case h_8 => cases h

theorem ne_this_of_unknown (h : s.Unknown (kind? K)) : s.lowerName ≠ "this" := by
  intro hname
  rw [Section.Unknown, hname] at h
  cases h

/-- A section whose name stands for nothing builds nothing. -/
theorem instrument_unknown (h : s.Unknown (kind? K)) (space : Space K) :
    instrument space s = (pure [] : Build K σ _) := by
  unfold instrument
  split
  case h_7 => rfl
  all_goals
    rename_i heq
    rw [Section.Unknown, heq] at h
    cases h

theorem instrument_echoes (h : s.Echoes T (kind? K) s') (space : Space K) :
    Build.Echoes (σ := σ) T Eq (instrument space s) (instrument space s') := by
  have hname := h.toMoved.lowerName
  by_cases hthis : s.lowerName = "this"
  · simp only [instrument, hname, hthis]
    exact .pure rfl
  · cases hkind : kind? K s.lowerName with
    | none =>
      have hkind' : kind? K s'.lowerName = none := by rw [hname, hkind]
      rw [instrument_unknown hkind, instrument_unknown hkind']
      exact .pure rfl
    | some kind => exact (kind_builds hkind hthis T).echoes h hkind space

/-- The headers of sections that say the same. -/
abbrev Headed (T : Echo shift) :
    List (Section × Option (Header K)) → List (Section × Option (Header K)) → Prop :=
  Interleaved (fun p p' => p.1.Echoes T (kind? K) p'.1 ∧ p'.2 = p.2)
    fun p => p.1.Unknown (kind? K) ∧ p.2 = none

theorem readHeaders_echoes {l l' : List Section}
    (h : Interleaved (Section.Echoes T (kind? K)) (Section.Unknown (kind? K)) l l') :
    Build.Echoes (K := K) (σ := σ) T (Headed T) (readHeaders l) (readHeaders l') := by
  induction h with
  | nil => exact .pure .nil
  | @keep s s' l l' hs h ih =>
    have hrest (header? : Option (Header K)) :
        Build.Echoes (K := K) (σ := σ) T (Headed T)
          (do
            let others ← readHeaders l
            pure ((s, header?) :: others))
          (do
            let others ← readHeaders l'
            pure ((s', header?) :: others)) :=
      ih.bind fun others others' hothers => .pure (.keep ⟨hs, rfl⟩ hothers)
    unfold readHeaders
    rw [hs.toMoved.lowerName]
    split
    next hname =>
      have hheader : Build.Echoes (K := K) (σ := σ) T Eq (settings (Header K) s)
          (settings (Header K) s') :=
        hs.settings_echoes (Header.kind K) (by rw [hname]; rfl)
      exact (Build.Echoes.map hheader).bindEq fun header? => hrest header?
    next => exact hrest none
  | @extra s' l l' hs h ih =>
    rw [readHeaders, if_neg (ne_this_of_unknown hs)]
    exact ih.bindRight fun others others' hothers => .extra ⟨hs, rfl⟩ hothers

theorem plan_echoes {l l' : List Section}
    (h : Interleaved (Section.Echoes T (kind? K)) (Section.Unknown (kind? K)) l l') :
    Build.Echoes (K := K) (σ := σ) T (Plan.Echoes T) (plan l) (plan l') := by
  refine Build.Echoes.read.bindEq fun env => ?_
  refine (readHeaders_echoes h).bind fun headed headed' hheaded => .pure ?_
  have hheaders : headed'.filterMap (·.2) = headed.filterMap (·.2) :=
    hheaded.filterMap_eq (fun _ _ ha => ha.2) fun _ ha => ha.2
  rw [Plan.Echoes, hheaders]
  refine ⟨rfl, hheaded.map (fun p p' hp => ?_) fun p hp => ?_⟩
  · rw [hp.2]
    cases p.2 with
    | some header => exact header.build_echoes hp.1.toMoved _ _
    | none => exact instrument_echoes hp.1 _
  · rw [hp.2]
    exact instrument_unknown hp.1 _

end Calibrated

/-! ## Framed panels -/

namespace Framed

section

variable (K) [Arith K]

omit [Arith K] in
def Background.kind : Kind := ⟨Background, fun _ => id, fun _ => Background.moves⟩

def View.kind : Kind := ⟨View K, fun _ => id, fun _ => View.moves⟩

def PressureGauge.kind : Kind := ⟨PressureGauge K, fun _ => id, fun _ => PressureGauge.moves⟩

def Speedometer.kind : Kind := ⟨Speedometer K, fun _ => id, fun _ => Speedometer.moves⟩

def DigitalIndicator.kind : Kind :=
  ⟨DigitalIndicator K, fun _ => id, fun _ => DigitalIndicator.moves⟩

def PilotLamp.kind : Kind := ⟨PilotLamp K, fun _ => id, fun _ => PilotLamp.moves⟩

def Watch.kind : Kind := ⟨Watch K, fun _ => id, fun _ => Watch.moves⟩

def BrakeIndicator.kind : Kind := ⟨BrakeIndicator K, fun _ => id, fun _ => BrakeIndicator.moves⟩

end

/-- The kind of a section, by its lowercase name; `kind_builds` ties it to the plan. -/
def kind? (K : Type) [Arith K] (name : String) : Option Kind :=
  match name with
  | "panel" | "パネル" => some Background.kind
  | "view" | "視点" => some (View.kind K)
  | "pressuregauge" | "pressuremeter" | "pressureindicator" | "圧力計" =>
    some (PressureGauge.kind K)
  | "speedometer" | "speedindicator" | "速度計" => some (Speedometer.kind K)
  | "digitalindicator" | "デジタル速度計" => some (DigitalIndicator.kind K)
  | "pilotlamp" | "知らせ灯" => some (PilotLamp.kind K)
  | "watch" | "時計" => some (Watch.kind K)
  | "brakeindicator" | "ブレーキ表示灯" => some (BrakeIndicator.kind K)
  | _ => none

variable [Arith K]

theorem kind?_of_isPanel {name : String} (h : isPanel name = true) :
    kind? K name = some Background.kind := by
  rw [isPanel, Bool.or_eq_true, beq_iff_eq, beq_iff_eq] at h
  rcases h with rfl | rfl
  · rfl
  · rfl

theorem kind?_of_isView {name : String} (h : isView name = true) :
    kind? K name = some (View.kind K) := by
  rw [isView, Bool.or_eq_true, beq_iff_eq, beq_iff_eq] at h
  rcases h with rfl | rfl
  · rfl
  · rfl

/-- A section that stands for a kind is an instrument of that kind, unless it is a panel or a
view. -/
theorem kind_builds {name : String} {kind : Kind} (h : kind? K name = some kind)
    (hpanel : isPanel name = false) (hview : isView name = false) (T : Echo shift) :
    kind.Builds T (instrument (K := K) (σ := σ)) name := by
  unfold kind? at h
  split at h
  case h_1 | h_2 => cases hpanel
  case h_3 | h_4 => cases hview
  case h_5 | h_6 | h_7 | h_8 =>
    cases h
    exact ⟨fun space g s => g.build s space, fun _ _ hs => by simp only [instrument, hs]; rfl,
      fun space g _ _ hmoved => PressureGauge.build_echoes hmoved g space⟩
  case h_9 | h_10 | h_11 =>
    cases h
    exact ⟨fun space m s => m.build s space, fun _ _ hs => by simp only [instrument, hs]; rfl,
      fun space m _ _ hmoved => Speedometer.build_echoes hmoved m space⟩
  case h_12 | h_13 =>
    cases h
    exact ⟨fun space d s => d.build s space, fun _ _ hs => by simp only [instrument, hs]; rfl,
      fun space d _ _ hmoved => DigitalIndicator.build_echoes hmoved d space⟩
  case h_14 | h_15 =>
    cases h
    exact ⟨fun space l s => l.build s space, fun _ _ hs => by simp only [instrument, hs]; rfl,
      fun space l _ _ hmoved => PilotLamp.build_echoes hmoved l space⟩
  case h_16 | h_17 =>
    cases h
    exact ⟨fun space w s => w.build s space, fun _ _ hs => by simp only [instrument, hs]; rfl,
      fun space w _ _ hmoved => Watch.build_echoes hmoved w space⟩
  case h_18 | h_19 =>
    cases h
    exact ⟨fun space b s => b.build s space, fun _ _ hs => by simp only [instrument, hs]; rfl,
      fun space b _ _ hmoved => BrakeIndicator.build_echoes hmoved b space⟩
  case h_20 => cases h

/-- A section whose name stands for nothing is neither a panel nor a view. -/
theorem not_heading_of_unknown (h : s.Unknown (kind? K)) :
    isPanel s.lowerName = false ∧ isView s.lowerName = false := by
  refine ⟨Bool.eq_false_iff.mpr fun hname => ?_, Bool.eq_false_iff.mpr fun hname => ?_⟩
  · rw [Section.Unknown, kind?_of_isPanel hname] at h
    cases h
  · rw [Section.Unknown, kind?_of_isView hname] at h
    cases h

/-- A section whose name stands for nothing builds nothing. -/
theorem instrument_unknown (h : s.Unknown (kind? K)) (space : Space K) :
    instrument space s = (pure [] : Build K σ _) := by
  unfold instrument
  split
  case h_16 => rfl
  all_goals
    rename_i heq
    rw [Section.Unknown, heq] at h
    cases h

/-- Panels and views are no instruments. -/
theorem instrument_heading (h : isPanel s.lowerName = true ∨ isView s.lowerName = true)
    (space : Space K) : instrument space s = (pure [] : Build K σ _) := by
  simp only [isPanel, isView, Bool.or_eq_true, beq_iff_eq] at h
  rcases h with (h | h) | h | h
  all_goals
    simp only [instrument, h]
    rfl

theorem instrument_echoes (h : s.Echoes T (kind? K) s') (space : Space K) :
    Build.Echoes (σ := σ) T Eq (instrument space s) (instrument space s') := by
  have hname := h.toMoved.lowerName
  by_cases hheading : isPanel s.lowerName = true ∨ isView s.lowerName = true
  · rw [instrument_heading hheading, instrument_heading (hname ▸ hheading)]
    exact .pure rfl
  · obtain ⟨hpanel, hview⟩ := not_or.mp hheading
    rw [Bool.not_eq_true] at hpanel hview
    cases hkind : kind? K s.lowerName with
    | none =>
      have hkind' : kind? K s'.lowerName = none := by rw [hname, hkind]
      rw [instrument_unknown hkind, instrument_unknown hkind']
      exact .pure rfl
    | some kind => exact (kind_builds hkind hpanel hview T).echoes h hkind space

/-- The headings of sections that say the same. -/
abbrev Headed (T : Echo shift) :
    List (Section × Heading K) → List (Section × Heading K) → Prop :=
  Interleaved (fun p p' => p.1.Echoes T (kind? K) p'.1 ∧ p'.2 = p.2)
    fun p => p.1.Unknown (kind? K) ∧ p.2 = .instrument

theorem readHeadings_echoes {l l' : List Section}
    (h : Interleaved (Section.Echoes T (kind? K)) (Section.Unknown (kind? K)) l l') :
    Build.Echoes (K := K) (σ := σ) T (Headed T) (readHeadings l) (readHeadings l') := by
  induction h with
  | nil => exact .pure .nil
  | @keep s s' l l' hs h ih =>
    have hrest (heading : Heading K) :
        Build.Echoes (K := K) (σ := σ) T (Headed T)
          (do
            let others ← readHeadings l
            pure ((s, heading) :: others))
          (do
            let others ← readHeadings l'
            pure ((s', heading) :: others)) :=
      ih.bind fun others others' hothers => .pure (.keep ⟨hs, rfl⟩ hothers)
    unfold readHeadings
    rw [hs.toMoved.lowerName]
    split
    next hname =>
      have hpanel : Build.Echoes (K := K) (σ := σ) T Eq (settings Background s)
          (settings Background s') :=
        hs.settings_echoes Background.kind (kind?_of_isPanel hname)
      exact (Build.Echoes.map hpanel).bindEq fun heading => hrest heading
    next =>
      split
      next hname =>
        have hview : Build.Echoes (K := K) (σ := σ) T Eq (settings (View K) s)
            (settings (View K) s') :=
          hs.settings_echoes (View.kind K) (kind?_of_isView hname)
        exact (Build.Echoes.map hview).bindEq fun heading => hrest heading
      next => exact hrest .instrument
  | @extra s' l l' hs h ih =>
    obtain ⟨hpanel, hview⟩ := not_heading_of_unknown hs
    rw [readHeadings, hpanel, hview]
    exact ih.bindRight fun others others' hothers => .extra ⟨hs, rfl⟩ hothers

theorem fitted_echoes (headings : List (Heading K)) :
    Build.Echoes (K := K) (σ := σ) T Eq (fitted headings) (fitted headings) := by
  refine Build.Echoes.read.bindEq fun env => ?_
  rcases (lastBackground? headings).bind (·.path? env.read) with _ | path
  · exact .pure rfl
  refine Build.Echoes.get fun b b' hb => ?_
  rw [hb]
  rcases env.store.imageSize? b.textures path with _ | size
  · exact .pure rfl
  · exact .pure rfl

theorem plan_echoes {l l' : List Section}
    (h : Interleaved (Section.Echoes T (kind? K)) (Section.Unknown (kind? K)) l l') :
    Build.Echoes (K := K) (σ := σ) T (Plan.Echoes T) (plan l) (plan l') := by
  refine Build.Echoes.read.bindEq fun env => ?_
  refine (readHeadings_echoes h).bind fun headed headed' hheaded => ?_
  have hheadings : Interleaved Eq (· = .instrument) (headed.map (·.2)) (headed'.map (·.2)) :=
    hheaded.map (fun _ _ hp => hp.2.symm) fun _ hp => hp.2
  have hbackground : lastBackground? (headed'.map (·.2)) = lastBackground? (headed.map (·.2)) :=
    hheadings.foldl_eq (by rintro _ _ _ rfl; rfl) (by rintro _ _ rfl; rfl) none
  have hdirection : direction (headed'.map (·.2)) = direction (headed.map (·.2)) := by
    unfold direction
    exact hheadings.foldl_eq (by rintro _ _ _ rfl; rfl) (by rintro _ _ rfl; rfl) _
  have hfitted : (fitted (headed'.map (·.2)) : Build K σ _) = fitted (headed.map (·.2)) := by
    unfold fitted
    rw [hbackground]
  dsimp only
  rw [hfitted, hdirection]
  refine (fitted_echoes _).bindEq fun frame => .pure ⟨rfl, ?_⟩
  refine hheaded.map (fun p p' hp => ?_) fun p hp => ?_
  · rw [hp.2]
    cases p.2 with
    | background b => exact b.build_echoes hp.1.toMoved _ _
    | view v => exact .pure rfl
    | instrument => exact instrument_echoes hp.1 _
  · rw [hp.2]
    exact instrument_unknown hp.1 _

end Framed

/-- The kind of a section in a format, by its lowercase name. -/
def PanelFormat.kind? (K : Type) [Arith K] : PanelFormat → String → Option Kind
  | .calibrated => Calibrated.kind? K
  | .framed => Framed.kind? K

/-- The keys that a section may use in a format, by its lowercase name. -/
def PanelFormat.keys? (K : Type) [Arith K] (format : PanelFormat) (name : String) :
    Option (List String) :=
  (format.kind? K name).map (·.keys)

variable [Arith K]

theorem Plan.make_echoes (format : PanelFormat) {l l' : List Section}
    (h : Interleaved (Section.Echoes T (format.kind? K)) (Section.Unknown (format.kind? K))
      l l') :
    Build.Echoes (K := K) (σ := σ) T (Plan.Echoes T) (Plan.make format l)
      (Plan.make format l') := by
  cases format with
  | calibrated => exact Calibrated.plan_echoes h
  | framed => exact Framed.plan_echoes h

end DriverDesk
