import DriverDesk.Compile.Plan
import DriverDesk.Proofs.Postfix

/-!
# Framed instruments

What the expressions are that each instrument of a framed panel writes. It gives assembled
steps, and every expression of its elements computes a value.
-/

namespace DriverDesk.Framed

open Build Step DriverDesk.Expr

variable {K σ : Type} [Arith K]

/-! ## Parts of dials -/

section

variable {P : Expr K → Prop}

theorem centeredImage_writes (s : Section) (space : Space K) (kind : ElementKind) (path : Path)
    (center : Point K) (depth : K) :
    Gives (centeredImage s space kind path center depth : Build K σ _)
      fun step? => Assembled (Element.Writes P) step?.toList := by
  unfold centeredImage
  refine (texture_gives s _ _).bindOption (.pure .nil) fun ⟨texture, size⟩ => ?_
  refine (quadState_gives s _ _ _ _ _).bind fun state _ => ?_
  exact .pure (.single (Element.writes_single kind state) [])

variable (P) in
theorem optionalImage_writes (s : Section) (space : Space K) (kind : ElementKind)
    (path? : Option Path) (center : Point K) (depth : K) :
    Gives (optionalImage s space kind path? center depth : Build K σ _)
      (Assembled (Element.Writes P)) := by
  unfold optionalImage
  cases path? with
  | none => exact .pure .nil
  | some path =>
    exact (centeredImage_writes s space kind path center depth).bind fun _ h => .pure h

theorem hand_writes (s : Section) (space : Space K) (kind : ElementKind) (image : String)
    (center : Point K) (radius depth : K) (tint : Rgba) {function : Expr K} (h : P function) :
    Gives (hand s space kind image center radius depth tint function : Build K σ _)
      (Assembled (Element.Writes P)) := by
  unfold hand
  refine (stockImage_gives s image).bindOption (.pure .nil) fun path => ?_
  refine (texture_gives s _ _).bindOption (.pure .nil) fun ⟨texture, size⟩ => ?_
  refine (quadState_gives s _ _ _ _ _).bind fun state _ => ?_
  exact .pure (.single (Element.writes_moving kind state rfl h) [])

theorem assembled_lamps (space : Space K) (kind : ElementKind) (center : Point K)
    (radius depth : K) (tint : Rgba) (initial last : K) {function : Expr K} (h : P function) :
    Assembled (Element.Writes P)
      [lamps space kind center radius depth tint initial last function] := by
  exact .single (Element.writes_moving kind _ rfl h) []

end

/-! ## Instruments -/

namespace Background

theorem build_writes (b : Background) (s : Section) (space : Space K) (frame : Frame K)
    {P : Expr K → Prop} :
    Gives (b.build s space frame : Build K σ _) (Assembled (Element.Writes P)) := by
  refine Gives.read.bind fun env _ => ?_
  rcases b.path? env.read with _ | path
  · exact .pure .nil
  refine (texture_gives s _ _).bindOption (.pure .nil) fun ⟨texture, size⟩ => ?_
  refine (quadState_gives s _ _ _ _ _).bind fun state _ => ?_
  exact .pure (.single (Element.writes_single .background state) [])

theorem build_gives (b : Background) (s : Section) (space : Space K) (frame : Frame K) :
    Gives (b.build s space frame : Build K σ _) (Assembled Element.Bound) :=
  b.build_writes s space frame

end Background

namespace PressureGauge

/-- The angle that a gauge writes for a pressure. -/
def Writes (g : PressureGauge K) (x : Expr K) : Prop :=
  ∃ p : Pressure, x = g.angles.expression [.name p.name]

omit [Arith K] in
theorem computes_pressure (p : Pressure) : Computes (K := K) [.name p.name] :=
  computes_name (by cases p <;> simp [Pressure.name, trainVariables])

theorem pointer_writes (g : PressureGauge K) (s : Section) (space : Space K)
    (needle? : Option PressureNeedle) (image : String) (layer : Int) :
    Gives (g.pointer s space needle? image layer : Build K σ _)
      (Assembled (Element.Writes g.Writes)) := by
  unfold pointer
  rcases needle? with _ | needle
  · exact .pure .nil
  have h : g.Writes (g.angles.expression [.name needle.pressure.name]) := ⟨needle.pressure, rfl⟩
  refine .ite ?_ ?_
  · exact .pure (assembled_lamps space _ _ _ _ _ _ _ h)
  · exact hand_writes s space _ _ _ _ _ _ h

theorem build_writes (g : PressureGauge K) (s : Section) (space : Space K) :
    Gives (g.build s space : Build K σ _) (Assembled (Element.Writes g.Writes)) := by
  refine .ite (giveUp_gives s _ .nil) ?_
  refine (optionalImage_writes g.Writes s space _ _ _ _).bind fun background hbackground => ?_
  refine (g.pointer_writes s space _ _ _).bind fun lower hlower => ?_
  refine (g.pointer_writes s space _ _ _).bind fun upper hupper => ?_
  refine (optionalImage_writes g.Writes s space _ _ _ _).bind fun cover hcover => ?_
  exact .pure (((hbackground.append hlower).append hupper).append hcover)

theorem build_gives (g : PressureGauge K) (s : Section) (space : Space K) :
    Gives (g.build s space : Build K σ _) (Assembled Element.Bound) := by
  refine (g.build_writes s space).mono fun _ h => h.bound fun x ⟨p, hx⟩ => ?_
  rw [hx]
  exact g.angles.computes_expression (computes_pressure p)

end PressureGauge

namespace Speedometer

/-- The index of the signal, which selects a lamp, and the angle of the speed. -/
def Writes (m : Speedometer K) (x : Expr K) : Prop :=
  x = [.integer 271, .operator .pluginState] ∨
    x = (m.angles m.usesLamps).expression [.name "speedometer", .operator .abs]

theorem signalFrame_gives (m : Speedometer K) (s : Section) (space : Space K) (path : Path)
    (side : K) (index : Nat) :
    Gives (m.signalFrame s space path side index : Build K σ _) fun _ => True := by
  unfold signalFrame
  rcases (signalSpeeds (K := K))[index]? with _ | speed
  · exact .pure trivial
  refine (texture_gives s _ _).bindOption (.pure trivial) fun ⟨texture, size⟩ => ?_
  exact (quadState_gives s _ _ _ _ _).map fun _ _ => trivial

theorem signals_writes (m : Speedometer K) (s : Section) (space : Space K) :
    Gives (m.signals s space : Build K σ _) (Assembled (Element.Writes m.Writes)) := by
  unfold signals
  rcases m.signals? with _ | path
  · exact .pure .nil
  refine (imageSize_gives s _).bindOption (.pure .nil) fun sheet => ?_
  exact strip_gives (m.signalFrame_gives s space path sheet.y)
    (fun state => Element.writes_selectedBy .speedometer state (.inl rfl)) _

theorem pointer_writes (m : Speedometer K) (s : Section) (space : Space K) :
    Gives (m.pointer s space : Build K σ _) (Assembled (Element.Writes m.Writes)) := by
  have h : m.Writes ((m.angles m.usesLamps).expression [.name "speedometer", .operator .abs]) :=
    .inr rfl
  refine .ite ?_ ?_
  · exact .pure (assembled_lamps space _ _ _ _ _ _ _ h)
  · exact hand_writes s space _ _ _ _ _ _ h

theorem build_writes (m : Speedometer K) (s : Section) (space : Space K) :
    Gives (m.build s space : Build K σ _) (Assembled (Element.Writes m.Writes)) := by
  refine (optionalImage_writes m.Writes s space _ _ _ _).bind fun background hbackground => ?_
  refine (m.signals_writes s space).bind fun signals hsignals => ?_
  refine (m.pointer_writes s space).bind fun pointer hpointer => ?_
  refine (optionalImage_writes m.Writes s space _ _ _ _).bind fun cover hcover => ?_
  exact .pure (((hbackground.append hsignals).append hpointer).append hcover)

theorem build_gives (m : Speedometer K) (s : Section) (space : Space K) :
    Gives (m.build s space : Build K σ _) (Assembled Element.Bound) := by
  refine (m.build_writes s space).mono fun _ h => h.bound fun x hx => ?_
  rcases hx with hx | hx <;> rw [hx]
  · exact ⟨by simp, rfl⟩
  · exact AngleMap.computes_expression _ ⟨by simp [trainVariables], rfl⟩

end Speedometer

namespace DigitalIndicator

omit [Arith K] in
theorem computes_digitFunctions (d : DigitalIndicator K) :
    ∀ f ∈ d.digitFunctions, Computes f := by
  have hspeed : Computes (Subject.speedIn d.unit) :=
    ⟨by simp [Subject.speedIn, trainVariables], rfl⟩
  have hleading (unit : Int) : Turns (K := K) (leadingDigit unit) 1 1 :=
    ⟨by simp [leadingDigit], rfl⟩
  simp only [digitFunctions, List.forall_mem_cons]
  exact ⟨hspeed.append (hleading 100), hspeed.append (hleading 10),
    hspeed.append ⟨by simp, rfl⟩, fun _ h => (List.not_mem_nil h).elim⟩

theorem frame_gives (d : DigitalIndicator K) (s : Section) (space : Space K) (path : Path)
    (sheetWidth : K) (digit index : Nat) :
    Gives (d.frame s space path sheetWidth digit index : Build K σ _) fun _ => True := by
  unfold frame
  refine (texture_gives s _ _).bindOption (.pure trivial) fun ⟨texture, size⟩ => ?_
  exact (quadState_gives s _ _ _ _ _).map fun _ _ => trivial

theorem strips_writes (d : DigitalIndicator K) (s : Section) (space : Space K) (path : Path)
    (sheetWidth : K) (frames digit : Nat) {functions : List (Expr K)} {P : Expr K → Prop}
    (h : ∀ f ∈ functions, P f) :
    Gives (d.strips s space path sheetWidth frames digit functions : Build K σ _)
      (Assembled (Element.Writes P)) := by
  induction functions generalizing digit with
  | nil => exact .pure .nil
  | cons f functions ih =>
    rw [List.forall_mem_cons] at h
    refine (strip_gives (d.frame_gives s space path sheetWidth digit)
      (fun state => Element.writes_selectedBy .digitalIndicator state h.1) frames).bind
      fun strip hstrip => ?_
    exact (ih (digit + 1) h.2).bind fun rest hrest => .pure (hstrip.append hrest)

theorem build_writes (d : DigitalIndicator K) (s : Section) (space : Space K) :
    Gives (d.build s space : Build K σ _)
      (Assembled (Element.Writes (· ∈ d.digitFunctions))) := by
  unfold build
  rcases d.number? with _ | path
  · exact giveUp_gives s _ .nil
  refine .ite (giveUp_gives s _ .nil) ?_
  refine (imageSize_gives s _).bindOption (.pure .nil) fun sheet => ?_
  refine .ite (giveUp_gives s _ .nil) ?_
  exact d.strips_writes s space path sheet.x _ 0 fun _ h => h

theorem build_gives (d : DigitalIndicator K) (s : Section) (space : Space K) :
    Gives (d.build s space : Build K σ _) (Assembled Element.Bound) :=
  (d.build_writes s space).mono fun _ h => h.bound d.computes_digitFunctions

end DigitalIndicator

namespace PilotLamp

theorem state_gives (l : PilotLamp K) (s : Section) (space : Space K) (path : Path) :
    Gives (l.state s space path : Build K σ _) fun _ => True := by
  unfold state
  refine (texture_gives s _ _).bindOption (.pure trivial) fun ⟨texture, size⟩ => ?_
  exact (quadState_gives s _ _ _ _ _).map fun _ _ => trivial

theorem build_writes (l : PilotLamp K) (s : Section) (space : Space K) :
    Gives (l.build s space : Build K σ _)
      (Assembled (Element.Writes (· = [.name "doors", .integer 0, .operator .notEqual]))) := by
  have hlamp (on : ElementState K) : Element.Writes (· = _)
      ((Element.single .pilotLamp on).selectedBy
        [.name "doors", .integer 0, .operator .notEqual]) :=
    Element.writes_selectedBy _ on rfl
  unfold build
  rcases l.turnOn? with _ | turnOn
  · exact giveUp_gives s _ .nil
  refine (l.state_gives s space turnOn).bindOption (.pure .nil) fun on => ?_
  rcases l.turnOff? with _ | turnOff
  · exact .pure (.single (hlamp on) [])
  refine (l.state_gives s space turnOff).bind fun off? _ => ?_
  rcases off? with _ | off
  · exact .pure (.single (hlamp on) [])
  · exact .pure (.single (hlamp on) [off])

theorem build_gives (l : PilotLamp K) (s : Section) (space : Space K) :
    Gives (l.build s space : Build K σ _) (Assembled Element.Bound) := by
  refine (l.build_writes s space).mono fun _ h => h.bound fun x hx => ?_
  rw [hx]
  exact ⟨by simp [trainVariables], rfl⟩

end PilotLamp

namespace Watch

/-- The angle of one of the hands. -/
def Writes (x : Expr K) : Prop := x = hourFunction ∨ x = minuteFunction ∨ x = secondFunction

theorem build_writes (w : Watch K) (s : Section) (space : Space K) :
    Gives (w.build s space : Build K σ _) (Assembled (Element.Writes Writes)) := by
  have hhour : Writes (hourFunction (K := K)) := .inl rfl
  have hminute : Writes (minuteFunction (K := K)) := .inr (.inl rfl)
  have hsecond : Writes (secondFunction (K := K)) := .inr (.inr rfl)
  refine (optionalImage_writes Writes s space _ _ _ _).bind fun background hbackground => ?_
  refine (hand_writes s space _ _ _ _ _ _ hhour).bind fun hour h₁ => ?_
  refine (hand_writes s space _ _ _ _ _ _ hminute).bind fun minute h₂ => ?_
  refine (hand_writes s space _ _ _ _ _ _ hsecond).bind fun second h₃ => ?_
  exact .pure (((hbackground.append h₁).append h₂).append h₃)

theorem build_gives (w : Watch K) (s : Section) (space : Space K) :
    Gives (w.build s space : Build K σ _) (Assembled Element.Bound) := by
  refine (w.build_writes s space).mono fun _ h => h.bound fun x hx => ?_
  rcases hx with hx | hx | hx <;> rw [hx]
  · exact ⟨by simp [hourFunction, trainVariables], rfl⟩
  · exact ⟨by simp [minuteFunction, trainVariables], rfl⟩
  · exact ⟨by simp [secondFunction, trainVariables], rfl⟩

end Watch

namespace BrakeIndicator

omit [Arith K] in
theorem computes_brakeFunction (handle : BrakeHandle) :
    Computes (K := K) (brakeFunction handle) := by
  unfold brakeFunction
  split <;> exact ⟨by simp [trainVariables], rfl⟩

theorem frame_gives (b : BrakeIndicator K) (s : Section) (space : Space K) (path : Path)
    (sheetHeight : K) (index : Nat) :
    Gives (b.frame s space path sheetHeight index : Build K σ _) fun _ => True := by
  unfold frame
  refine (texture_gives s _ _).bindOption (.pure trivial) fun ⟨texture, size⟩ => ?_
  exact (quadState_gives s _ _ _ _ _).map fun _ _ => trivial

theorem build_writes (b : BrakeIndicator K) (s : Section) (space : Space K) :
    Gives (b.build s space : Build K σ _)
      (Assembled (Element.Writes fun x => ∃ handle, x = brakeFunction handle)) := by
  unfold build
  rcases b.image? with _ | path
  · exact giveUp_gives s _ .nil
  refine .ite (giveUp_gives s _ .nil) ?_
  refine (imageSize_gives s _).bindOption (.pure .nil) fun sheet => ?_
  refine .ite (giveUp_gives s _ .nil) ?_
  refine Gives.read.bind fun env _ => ?_
  exact strip_gives (b.frame_gives s space path sheet.y)
    (fun state => Element.writes_selectedBy .brakeIndicator state ⟨env.options.brake, rfl⟩) _

theorem build_gives (b : BrakeIndicator K) (s : Section) (space : Space K) :
    Gives (b.build s space : Build K σ _) (Assembled Element.Bound) := by
  refine (b.build_writes s space).mono fun _ h => h.bound fun x ⟨handle, hx⟩ => ?_
  rw [hx]
  exact computes_brakeFunction handle

end BrakeIndicator

end DriverDesk.Framed
