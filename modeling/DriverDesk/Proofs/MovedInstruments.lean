import DriverDesk.Proofs.MovedRecords

/-!
# Moved instruments

Every instrument of both formats builds the same where its section is moved, and what it says
of the section answers to what it said where the section was.
-/

namespace DriverDesk

open Build

variable {K σ : Type} [Arith K] {shift : Nat → Nat} {T : Echo shift} {s s' : Section}

/-! ## Calibrated instruments -/

namespace Calibrated

variable (h : s.Moved shift s')
include h

theorem Header.build_echoes (header : Header K) (space : Space K) (key : Rgb) :
    Echoes (K := K) (σ := σ) T Eq (header.build s space key) (header.build s' space key) := by
  unfold build
  rcases header.daytime? with _ | day
  · exact .pure rfl
  refine (texture_echoes h _ _).bindOption (.pure rfl) fun ⟨texture, size⟩ => ?_
  refine (optionalTexture_echoes h _ _).bindEq fun night => ?_
  exact (quadState_echoes h _ _ _ _ _).bindEq fun state => .pure rfl

theorem PilotLamp.build_echoes (l : PilotLamp K) (space : Space K) :
    Echoes (K := K) (σ := σ) T Eq (l.build s space) ((l.move shift).build s' space) := by
  unfold build move
  dsimp only
  rcases l.daytime? with _ | day
  · exact giveUp_echoes h _
  refine (texture_echoes h _ _).bindOption (.pure rfl) fun ⟨texture, size⟩ => ?_
  refine (optionalTexture_echoes h _ _).bindEq fun night => ?_
  refine (subject_echoes h _ _).bindEq fun subject => ?_
  exact (quadState_echoes h _ _ _ _ _).bindEq fun state => .pure rfl

theorem Needle.build_echoes (n : Needle K) (space : Space K) :
    Echoes (K := K) (σ := σ) T Eq (n.build s space) ((n.move shift).build s' space) := by
  unfold build
  rw [show (n.move shift).daytime? = n.daytime? from rfl]
  rcases n.daytime? with _ | day
  · exact giveUp_echoes h _
  refine .ite (giveUp_echoes h _) ?_
  refine (texture_echoes h _ _).bindOption (.pure rfl) fun ⟨texture, size⟩ => ?_
  refine (optionalTexture_echoes h _ _).bindEq fun night => ?_
  refine (quadState_echoes h _ _ _ _ _).bindEq fun state => ?_
  exact (subject_echoes h _ _).bindEq fun subject => .pure rfl

theorem LinearGauge.build_echoes (g : LinearGauge K) (space : Space K) :
    Echoes (K := K) (σ := σ) T Eq (g.build s space) ((g.move shift).build s' space) := by
  unfold build
  rw [show (g.move shift).daytime? = g.daytime? from rfl]
  rcases g.daytime? with _ | day
  · exact giveUp_echoes h _
  refine .ite (giveUp_echoes h _) (.ite (giveUp_echoes h _) ?_)
  refine (texture_echoes h _ _).bindOption (.pure rfl) fun ⟨texture, size⟩ => ?_
  refine (optionalTexture_echoes h _ _).bindEq fun night => ?_
  refine (quadState_echoes h _ _ _ _ _).bindEq fun state => ?_
  exact (subject_echoes h _ _).bindEq fun subject => .pure rfl

theorem DigitalNumber.build_echoes (d : DigitalNumber K) (space : Space K) :
    Echoes (K := K) (σ := σ) T Eq (d.build s space) ((d.move shift).build s' space) := by
  have hnight : Echoes (K := K) (σ := σ) T Eq (d.nightFrames s)
      ((d.move shift).nightFrames s') := by
    unfold nightFrames
    rw [show (d.move shift).nighttime? = d.nighttime? from rfl]
    rcases d.nighttime? with _ | night
    · exact .pure rfl
    exact (imageSize_echoes h _).bindOption (.pure rfl) fun size => .pure rfl
  have hframe (day : Path) (sheet : Point K) (nightFrames index : Nat) :
      Echoes (K := K) (σ := σ) T Eq (d.frame s space day sheet nightFrames index)
        ((d.move shift).frame s' space day sheet nightFrames index) := by
    refine (texture_echoes h _ _).bindOption (.pure rfl) fun ⟨texture, size⟩ => ?_
    refine .ite ((optionalTexture_echoes h _ _).bindEq fun night => ?_) ?_
    · exact .map (quadState_echoes h _ _ _ _ _)
    · exact .map (quadState_echoes h _ _ _ _ _)
  unfold build
  rw [show (d.move shift).daytime? = d.daytime? from rfl]
  rcases d.daytime? with _ | day
  · exact giveUp_echoes h _
  refine .ite (giveUp_echoes h _) ?_
  refine (imageSize_echoes h _).bindOption (.pure rfl) fun sheet => ?_
  refine .ite (giveUp_echoes h _) (hnight.bindEq fun nightFrames => ?_)
  refine (subject_echoes h _ _).bindEq fun subject => ?_
  exact strip_echoes (hframe day sheet nightFrames) _ _

theorem DigitalGauge.build_echoes (g : DigitalGauge K) (space : Space K) :
    Echoes (K := K) (σ := σ) T Eq (g.build s space) ((g.move shift).build s' space) := by
  unfold build
  refine .ite (giveUp_echoes h _) (.ite (giveUp_echoes h _) ?_)
  refine .when (warn_echoes h _) ?_
  exact (subject_echoes h _ _).bindEq fun subject => .pure rfl

theorem Timetable.build_echoes (t : Timetable K) (space : Space K) :
    Echoes (K := K) (σ := σ) T Eq (t.build s space) (t.build s' space) := by
  unfold build
  refine .when (complain_echoes h _) (.when (complain_echoes h _) ?_)
  exact .ite (.pure rfl) ((quadState_echoes h _ _ _ _ _).bindEq fun state => .pure rfl)

end Calibrated

/-! ## Framed instruments -/

namespace Framed

variable (h : s.Moved shift s')
include h

theorem Background.build_echoes (b : Background) (space : Space K) (frame : Frame K) :
    Echoes (K := K) (σ := σ) T Eq (b.build s space frame) (b.build s' space frame) := by
  refine Echoes.read.bindEq fun env => ?_
  rcases b.path? env.read with _ | path
  · exact .pure rfl
  refine (texture_echoes h _ _).bindOption (.pure rfl) fun ⟨texture, size⟩ => ?_
  exact (quadState_echoes h _ _ _ _ _).bindEq fun state => .pure rfl

theorem optionalImage_echoes (space : Space K) (kind : ElementKind) (path? : Option Path)
    (center : Point K) (depth : K) :
    Echoes (K := K) (σ := σ) T Eq (optionalImage s space kind path? center depth)
      (optionalImage s' space kind path? center depth) := by
  unfold optionalImage
  cases path? with
  | none => exact .pure rfl
  | some path =>
    have hcentered : Echoes (K := K) (σ := σ) T Eq
        (centeredImage s space kind path center depth)
        (centeredImage s' space kind path center depth) := by
      unfold centeredImage
      refine (texture_echoes h _ _).bindOption (.pure rfl) fun ⟨texture, size⟩ => ?_
      exact (quadState_echoes h _ _ _ _ _).bindEq fun state => .pure rfl
    exact hcentered.bindEq fun step? => .pure rfl

theorem hand_echoes (space : Space K) (kind : ElementKind) (image : String) (center : Point K)
    (radius depth : K) (tint : Rgba) (function : Expr K) :
    Echoes (K := K) (σ := σ) T Eq
      (hand s space kind image center radius depth tint function)
      (hand s' space kind image center radius depth tint function) := by
  unfold hand
  refine (stockImage_echoes h image).bindOption (.pure rfl) fun path => ?_
  refine (texture_echoes h _ _).bindOption (.pure rfl) fun ⟨texture, size⟩ => ?_
  exact (quadState_echoes h _ _ _ _ _).bindEq fun state => .pure rfl

theorem PressureGauge.build_echoes (g : PressureGauge K) (space : Space K) :
    Echoes (K := K) (σ := σ) T Eq (g.build s space) (g.build s' space) := by
  have hpointer (needle? : Option PressureNeedle) (image : String) (layer : Int) :
      Echoes (K := K) (σ := σ) T Eq (g.pointer s space needle? image layer)
        (g.pointer s' space needle? image layer) := by
    unfold pointer
    rcases needle? with _ | needle
    · exact .pure rfl
    · exact .ite (.pure rfl) (hand_echoes h _ _ _ _ _ _ _ _)
  refine .ite (giveUp_echoes h _) ?_
  refine (optionalImage_echoes h _ _ _ _ _).bindEq fun background => ?_
  refine (hpointer _ _ _).bindEq fun lower => (hpointer _ _ _).bindEq fun upper => ?_
  exact (optionalImage_echoes h _ _ _ _ _).bindEq fun cover => .pure rfl

theorem Speedometer.build_echoes (m : Speedometer K) (space : Space K) :
    Echoes (K := K) (σ := σ) T Eq (m.build s space) (m.build s' space) := by
  have hsignals : Echoes (K := K) (σ := σ) T Eq (m.signals s space) (m.signals s' space) := by
    unfold signals
    rcases m.signals? with _ | path
    · exact .pure rfl
    refine (imageSize_echoes h _).bindOption (.pure rfl) fun sheet => strip_echoes (fun i => ?_) _ _
    unfold signalFrame
    rcases (signalSpeeds (K := K))[i]? with _ | speed
    · exact .pure rfl
    refine (texture_echoes h _ _).bindOption (.pure rfl) fun ⟨texture, size⟩ => ?_
    exact .map (quadState_echoes h _ _ _ _ _)
  have hpointer : Echoes (K := K) (σ := σ) T Eq (m.pointer s space) (m.pointer s' space) :=
    .ite (.pure rfl) (hand_echoes h _ _ _ _ _ _ _ _)
  refine (optionalImage_echoes h _ _ _ _ _).bindEq fun background => ?_
  refine hsignals.bindEq fun signals => hpointer.bindEq fun pointer => ?_
  exact (optionalImage_echoes h _ _ _ _ _).bindEq fun cover => .pure rfl

theorem DigitalIndicator.strips_echoes (d : DigitalIndicator K) (space : Space K) (path : Path)
    (sheetWidth : K) (frames digit : Nat) (functions : List (Expr K)) :
    Echoes (K := K) (σ := σ) T Eq (d.strips s space path sheetWidth frames digit functions)
      (d.strips s' space path sheetWidth frames digit functions) := by
  induction functions generalizing digit with
  | nil => exact .pure rfl
  | cons function functions ih =>
    refine (strip_echoes (fun i => ?_) frames 0).bindEq fun strip => ?_
    · refine (texture_echoes h _ _).bindOption (.pure rfl) fun ⟨texture, size⟩ => ?_
      exact .map (quadState_echoes h _ _ _ _ _)
    · exact (ih (digit + 1)).bindEq fun rest => .pure rfl

theorem DigitalIndicator.build_echoes (d : DigitalIndicator K) (space : Space K) :
    Echoes (K := K) (σ := σ) T Eq (d.build s space) (d.build s' space) := by
  unfold build
  rcases d.number? with _ | path
  · exact giveUp_echoes h _
  refine .ite (giveUp_echoes h _) ?_
  refine (imageSize_echoes h _).bindOption (.pure rfl) fun sheet => ?_
  exact .ite (giveUp_echoes h _) (d.strips_echoes h space path sheet.x _ 0 d.digitFunctions)

theorem PilotLamp.build_echoes (l : PilotLamp K) (space : Space K) :
    Echoes (K := K) (σ := σ) T Eq (l.build s space) (l.build s' space) := by
  have hstate (path : Path) :
      Echoes (K := K) (σ := σ) T Eq (l.state s space path) (l.state s' space path) := by
    unfold state
    refine (texture_echoes h _ _).bindOption (.pure rfl) fun ⟨texture, size⟩ => ?_
    exact .map (quadState_echoes h _ _ _ _ _)
  unfold build
  rcases l.turnOn? with _ | turnOn
  · exact giveUp_echoes h _
  refine (hstate turnOn).bindOption (.pure rfl) fun on => ?_
  rcases l.turnOff? with _ | turnOff
  · exact .pure rfl
  · exact (hstate turnOff).bindOption (.pure rfl) fun off => .pure rfl

theorem Watch.build_echoes (w : Watch K) (space : Space K) :
    Echoes (K := K) (σ := σ) T Eq (w.build s space) (w.build s' space) := by
  refine (optionalImage_echoes h _ _ _ _ _).bindEq fun background => ?_
  refine (hand_echoes h _ _ _ _ _ _ _ _).bindEq fun hour => ?_
  refine (hand_echoes h _ _ _ _ _ _ _ _).bindEq fun minute => ?_
  exact (hand_echoes h _ _ _ _ _ _ _ _).bindEq fun second => .pure rfl

theorem BrakeIndicator.build_echoes (b : BrakeIndicator K) (space : Space K) :
    Echoes (K := K) (σ := σ) T Eq (b.build s space) (b.build s' space) := by
  unfold build
  rcases b.image? with _ | path
  · exact giveUp_echoes h _
  refine .ite (giveUp_echoes h _) ?_
  refine (imageSize_echoes h _).bindOption (.pure rfl) fun sheet => ?_
  refine .ite (giveUp_echoes h _) (Echoes.read.bindEq fun env => ?_)
  refine strip_echoes (fun i => ?_) _ _
  refine (texture_echoes h _ _).bindOption (.pure rfl) fun ⟨texture, size⟩ => ?_
  exact .map (quadState_echoes h _ _ _ _ _)

end Framed

end DriverDesk
