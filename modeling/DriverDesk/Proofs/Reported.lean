import DriverDesk.Proofs.Places

/-!
# Places of the diagnostics of instruments

Every kind of section of both formats reports within the section while it is read and built.
What it keeps of its subject is a record of the section, if there is one.
-/

namespace DriverDesk

open Build

variable {K σ : Type} [Arith K] {env : BuildEnv K σ} {s : Section}

omit [Arith K] in
/-- Reading a section and building it report within it. -/
theorem buildWith_reports {α : Type} [Readable α] (hread : Readable.Blames α)
    {build : α → Section → Build K σ (List (Step K))}
    (h : ReportsWithin env s (build (s.read env.read).value s)) :
    ReportsWithin env s (buildWith α build s) :=
  (settings_reports hread).bindValue fun _ => h

/-! ## Calibrated instruments -/

namespace Calibrated

theorem Header.build_reports (h : Header K) (space : Space K) (key : Rgb) :
    ReportsWithin env s (h.build s space key) := by
  unfold build
  rcases h.daytime? with _ | day
  · exact .pure _
  refine (texture_reports _ _).bindOption (.pure _) fun ⟨texture, size⟩ => ?_
  refine (optionalTexture_reports _ _).bind fun night => ?_
  exact (quadState_reports _ _ _ _ _).bind fun state => .pure _

theorem PilotLamp.read_subject (env : ReadEnv) (s : Section) :
    ((s.read env).value : PilotLamp K).subject.GivenIn s := by
  refine readRecords_keeps (P := fun l : PilotLamp K => l.subject.GivenIn s) ?_ _ _ (.inl rfl)
  simp only [Readable.fields, fields, List.forall_mem_cons]
  exact ⟨Field.subject_keeps fun r hr hkey _ _ _ => .inr ⟨r, hr, hkey, rfl⟩,
    Field.keeping_keeps fun _ _ _ _ h => h, Field.always_keeps fun _ _ h => h,
    Field.always_keeps fun _ _ h => h, Field.keeping_keeps fun _ _ _ _ h => h,
    Field.keeping_keeps fun _ _ _ _ h => h, List.forall_mem_nil _⟩

theorem PilotLamp.build_reports {l : PilotLamp K} (h : l.subject.GivenIn s) (space : Space K) :
    ReportsWithin env s (l.build s space) := by
  unfold build
  rcases l.daytime? with _ | day
  · exact giveUp_reports _
  refine (texture_reports _ _).bindOption (.pure _) fun ⟨texture, size⟩ => ?_
  refine (optionalTexture_reports _ _).bind fun night => ?_
  refine (subject_reports h).bind fun subject => ?_
  exact (quadState_reports _ _ _ _ _).bind fun state => .pure _

theorem Needle.read_subject (env : ReadEnv) (s : Section) :
    ((s.read env).value : Needle K).subject.GivenIn s := by
  refine readRecords_keeps (P := fun n : Needle K => n.subject.GivenIn s) ?_ _ _ (.inl rfl)
  simp only [Readable.fields, fields, List.forall_mem_cons]
  exact ⟨Field.subject_keeps fun r hr hkey _ _ _ => .inr ⟨r, hr, hkey, rfl⟩,
    Field.keeping_keeps fun _ _ _ _ h => h, Field.keeping_keeps fun _ _ _ _ h => h,
    Field.always_keeps fun _ _ h => h, Field.always_keeps fun _ _ h => h,
    Field.keeping_keeps fun _ _ _ _ h => h, Field.keeping_keeps fun _ _ _ _ h => h,
    Field.keeping_keeps fun _ _ _ _ h => h, Field.keeping_keeps fun _ _ _ _ h => h,
    Field.keeping_keeps fun _ _ _ _ h => h, Field.keeping_keeps fun _ _ _ _ h => h,
    Field.keeping_keeps fun _ _ _ _ h => h, Field.keeping_keeps fun _ _ _ _ h => h,
    Field.keeping_keeps fun _ _ _ _ h => h, Field.keeping_keeps fun _ _ _ _ h => h,
    Field.always_keeps fun _ _ h => h, Field.always_keeps fun _ _ h => h, List.forall_mem_nil _⟩

theorem Needle.build_reports {n : Needle K} (h : n.subject.GivenIn s) (space : Space K) :
    ReportsWithin env s (n.build s space) := by
  unfold build
  rcases n.daytime? with _ | day
  · exact giveUp_reports _
  refine .ite (giveUp_reports _) ?_
  refine (texture_reports _ _).bindOption (.pure _) fun ⟨texture, size⟩ => ?_
  refine (optionalTexture_reports _ _).bind fun night => ?_
  refine (quadState_reports _ _ _ _ _).bind fun state => ?_
  exact (subject_reports h).bind fun subject => .pure _

theorem LinearGauge.read_subject (env : ReadEnv) (s : Section) :
    ((s.read env).value : LinearGauge K).subject.GivenIn s := by
  refine readRecords_keeps (P := fun g : LinearGauge K => g.subject.GivenIn s) ?_ _ _ (.inl rfl)
  simp only [Readable.fields, fields, List.forall_mem_cons]
  exact ⟨Field.subject_keeps fun r hr hkey _ _ _ => .inr ⟨r, hr, hkey, rfl⟩,
    Field.keeping_keeps fun _ _ _ _ h => h, Field.keeping_keeps fun _ _ _ _ h => h,
    Field.keeping_keeps fun _ _ _ _ h => h, Field.keeping_keeps fun _ _ _ _ h => h,
    Field.keeping_keeps fun _ _ _ _ h => h, Field.always_keeps fun _ _ h => h,
    Field.always_keeps fun _ _ h => h, Field.keeping_keeps fun _ _ _ _ h => h,
    Field.keeping_keeps fun _ _ _ _ h => h, List.forall_mem_nil _⟩

theorem LinearGauge.build_reports {g : LinearGauge K} (h : g.subject.GivenIn s)
    (space : Space K) : ReportsWithin env s (g.build s space) := by
  unfold build
  rcases g.daytime? with _ | day
  · exact giveUp_reports _
  refine .ite (giveUp_reports _) (.ite (giveUp_reports _) ?_)
  refine (texture_reports _ _).bindOption (.pure _) fun ⟨texture, size⟩ => ?_
  refine (optionalTexture_reports _ _).bind fun night => ?_
  refine (quadState_reports _ _ _ _ _).bind fun state => ?_
  exact (subject_reports h).bind fun subject => .pure _

theorem DigitalNumber.read_subject (env : ReadEnv) (s : Section) :
    ((s.read env).value : DigitalNumber K).subject.GivenIn s := by
  refine readRecords_keeps (P := fun d : DigitalNumber K => d.subject.GivenIn s) ?_ _ _ (.inl rfl)
  simp only [Readable.fields, fields, List.forall_mem_cons]
  exact ⟨Field.subject_keeps fun r hr hkey _ _ _ => .inr ⟨r, hr, hkey, rfl⟩,
    Field.keeping_keeps fun _ _ _ _ h => h, Field.always_keeps fun _ _ h => h,
    Field.always_keeps fun _ _ h => h, Field.keeping_keeps fun _ _ _ _ h => h,
    Field.keeping_keeps fun _ _ _ _ h => h, Field.keeping_keeps fun _ _ _ _ h => h,
    List.forall_mem_nil _⟩

theorem DigitalNumber.nightFrames_reports (d : DigitalNumber K) :
    ReportsWithin env s (d.nightFrames s) := by
  unfold nightFrames
  split
  · exact .pure _
  · refine (imageSize_reports _).bind fun size? => ?_
    split
    · exact .pure _
    · exact .pure _

theorem DigitalNumber.frame_reports (d : DigitalNumber K) (space : Space K) (day : Path)
    (sheet : Point K) (nightFrames index : Nat) :
    ReportsWithin env s (d.frame s space day sheet nightFrames index) := by
  unfold frame
  refine (texture_reports _ _).bindOption (.pure _) fun ⟨texture, size⟩ => ?_
  refine .ite ((optionalTexture_reports _ _).bind fun night => ?_) ?_
  · exact (quadState_reports _ _ _ _ _).map
  · exact (quadState_reports _ _ _ _ _).map

theorem DigitalNumber.build_reports {d : DigitalNumber K} (h : d.subject.GivenIn s)
    (space : Space K) : ReportsWithin env s (d.build s space) := by
  unfold build
  rcases d.daytime? with _ | day
  · exact giveUp_reports _
  refine .ite (giveUp_reports _) ?_
  refine (imageSize_reports _).bindOption (.pure _) fun sheet => ?_
  refine .ite (giveUp_reports _) ?_
  refine d.nightFrames_reports.bind fun nightFrames => ?_
  refine (subject_reports h).bind fun subject => ?_
  exact strip_reports (d.frame_reports space day sheet nightFrames) _ _

theorem DigitalGauge.read_subject (env : ReadEnv) (s : Section) :
    ((s.read env).value : DigitalGauge K).subject.GivenIn s := by
  refine readRecords_keeps (P := fun g : DigitalGauge K => g.subject.GivenIn s) ?_ _ _ (.inl rfl)
  simp only [Readable.fields, fields, List.forall_mem_cons]
  exact ⟨Field.subject_keeps fun r hr hkey _ _ _ => .inr ⟨r, hr, hkey, rfl⟩,
    Field.keeping_keeps fun _ _ _ _ h => h, Field.keeping_keeps fun _ _ _ _ h => h,
    Field.keeping_keeps fun _ _ _ _ h => h, Field.keeping_keeps fun _ _ _ _ h => h,
    Field.keeping_keeps fun _ _ _ _ h => h, Field.keeping_keeps fun _ _ _ _ h => h,
    Field.keeping_keeps fun _ _ _ _ h => h, Field.keeping_keeps fun _ _ _ _ h => h,
    Field.keeping_keeps fun _ _ _ _ h => h, List.forall_mem_nil _⟩

theorem DigitalGauge.build_reports {g : DigitalGauge K} (h : g.subject.GivenIn s)
    (space : Space K) : ReportsWithin env s (g.build s space) := by
  unfold build
  refine .ite (giveUp_reports _) (.ite (giveUp_reports _) ?_)
  exact .when (warn_reports _) ((subject_reports h).bind fun subject => .pure _)

theorem Timetable.build_reports (t : Timetable K) (space : Space K) :
    ReportsWithin env s (t.build s space) := by
  unfold build
  refine .when (complain_reports _) (.when (complain_reports _) ?_)
  exact .ite (.pure _) ((quadState_reports _ _ _ _ _).bind fun state => .pure _)

theorem instrument_reports (space : Space K) : ReportsWithin env s (instrument space s) := by
  unfold instrument
  split
  · exact buildWith_reports PilotLamp.blames
      (PilotLamp.build_reports (PilotLamp.read_subject _ s) space)
  · exact buildWith_reports Needle.blames (Needle.build_reports (Needle.read_subject _ s) space)
  · exact buildWith_reports LinearGauge.blames
      (LinearGauge.build_reports (LinearGauge.read_subject _ s) space)
  · exact buildWith_reports DigitalNumber.blames
      (DigitalNumber.build_reports (DigitalNumber.read_subject _ s) space)
  · exact buildWith_reports DigitalGauge.blames
      (DigitalGauge.build_reports (DigitalGauge.read_subject _ s) space)
  · exact buildWith_reports Timetable.blames (Timetable.build_reports _ space)
  · exact .pure _

theorem part_reports (space : Space K) (key : Rgb) (header? : Option (Header K)) :
    ReportsWithin env s (part space key s header?) := by
  cases header? with
  | none => exact instrument_reports space
  | some h => exact h.build_reports space key

end Calibrated

/-! ## Framed instruments -/

namespace Framed

theorem centeredImage_reports (space : Space K) (kind : ElementKind) (path : Path)
    (center : Point K) (depth : K) :
    ReportsWithin env s (centeredImage s space kind path center depth) := by
  unfold centeredImage
  refine (texture_reports _ _).bindOption (.pure _) fun ⟨texture, size⟩ => ?_
  exact (quadState_reports _ _ _ _ _).bind fun state => .pure _

theorem optionalImage_reports (space : Space K) (kind : ElementKind) (path? : Option Path)
    (center : Point K) (depth : K) :
    ReportsWithin env s (optionalImage s space kind path? center depth) := by
  unfold optionalImage
  cases path? with
  | none => exact .pure _
  | some path => exact (centeredImage_reports space kind path center depth).bind fun _ => .pure _

theorem hand_reports (space : Space K) (kind : ElementKind) (image : String) (center : Point K)
    (radius depth : K) (tint : Rgba) (function : Expr K) :
    ReportsWithin env s (hand s space kind image center radius depth tint function) := by
  unfold hand
  refine (stockImage_reports image).bindOption (.pure _) fun path => ?_
  refine (texture_reports _ _).bindOption (.pure _) fun ⟨texture, size⟩ => ?_
  exact (quadState_reports _ _ _ _ _).bind fun state => .pure _

theorem Background.build_reports (b : Background) (space : Space K) (frame : Frame K) :
    ReportsWithin env s (b.build s space frame) := by
  refine .read ?_
  rcases b.path? env.read with _ | path
  · exact .pure _
  refine (texture_reports _ _).bindOption (.pure _) fun ⟨texture, size⟩ => ?_
  exact (quadState_reports _ _ _ _ _).bind fun state => .pure _

theorem PressureGauge.pointer_reports (g : PressureGauge K) (space : Space K)
    (needle? : Option PressureNeedle) (image : String) (layer : Int) :
    ReportsWithin env s (g.pointer s space needle? image layer) := by
  unfold pointer
  rcases needle? with _ | needle
  · exact .pure _
  · exact .ite (.pure _) (hand_reports space _ _ _ _ _ _ _)

theorem PressureGauge.build_reports (g : PressureGauge K) (space : Space K) :
    ReportsWithin env s (g.build s space) := by
  refine .ite (giveUp_reports _) ?_
  refine (optionalImage_reports space _ _ _ _).bind fun background => ?_
  refine (g.pointer_reports space _ _ _).bind fun lower => ?_
  refine (g.pointer_reports space _ _ _).bind fun upper => ?_
  exact (optionalImage_reports space _ _ _ _).bind fun cover => .pure _

theorem Speedometer.signalFrame_reports (m : Speedometer K) (space : Space K) (path : Path)
    (side : K) (index : Nat) : ReportsWithin env s (m.signalFrame s space path side index) := by
  unfold signalFrame
  rcases signalSpeeds[index]? with _ | speed
  · exact .pure _
  refine (texture_reports _ _).bindOption (.pure _) fun ⟨texture, size⟩ => ?_
  exact (quadState_reports _ _ _ _ _).map

theorem Speedometer.signals_reports (m : Speedometer K) (space : Space K) :
    ReportsWithin env s (m.signals s space) := by
  unfold signals
  rcases m.signals? with _ | path
  · exact .pure _
  refine (imageSize_reports _).bindOption (.pure _) fun sheet => ?_
  exact strip_reports (m.signalFrame_reports space path sheet.y) _ _

theorem Speedometer.build_reports (m : Speedometer K) (space : Space K) :
    ReportsWithin env s (m.build s space) := by
  refine (optionalImage_reports space _ _ _ _).bind fun background => ?_
  refine (m.signals_reports space).bind fun signals => ?_
  refine Reports.bind ?_ fun pointer => ?_
  · exact .ite (.pure _) (hand_reports space _ _ _ _ _ _ _)
  · exact (optionalImage_reports space _ _ _ _).bind fun cover => .pure _

theorem DigitalIndicator.strips_reports (d : DigitalIndicator K) (space : Space K) (path : Path)
    (sheetWidth : K) (frames digit : Nat) (functions : List (Expr K)) :
    ReportsWithin env s (d.strips s space path sheetWidth frames digit functions) := by
  induction functions generalizing digit with
  | nil => exact .pure _
  | cons f functions ih =>
    refine (strip_reports (fun index => ?_) _ _).bind fun strip => ?_
    · refine (texture_reports _ _).bindOption (.pure _) fun ⟨texture, size⟩ => ?_
      exact (quadState_reports _ _ _ _ _).map
    · exact (ih (digit + 1)).bind fun rest => .pure _

theorem DigitalIndicator.build_reports (d : DigitalIndicator K) (space : Space K) :
    ReportsWithin env s (d.build s space) := by
  unfold build
  rcases d.number? with _ | path
  · exact giveUp_reports _
  refine .ite (giveUp_reports _) ?_
  refine (imageSize_reports _).bindOption (.pure _) fun sheet => ?_
  exact .ite (giveUp_reports _) (d.strips_reports space path sheet.x _ 0 _)

theorem PilotLamp.state_reports (l : PilotLamp K) (space : Space K) (path : Path) :
    ReportsWithin env s (l.state s space path) := by
  unfold state
  refine (texture_reports _ _).bindOption (.pure _) fun ⟨texture, size⟩ => ?_
  exact (quadState_reports _ _ _ _ _).map

theorem PilotLamp.build_reports (l : PilotLamp K) (space : Space K) :
    ReportsWithin env s (l.build s space) := by
  unfold build
  rcases l.turnOn? with _ | turnOn
  · exact giveUp_reports _
  refine (l.state_reports space turnOn).bindOption (.pure _) fun on => ?_
  rcases l.turnOff? with _ | turnOff
  · exact .pure _
  refine (l.state_reports space turnOff).bind fun off? => ?_
  rcases off? with _ | off
  · exact .pure _
  · exact .pure _

theorem Watch.build_reports (w : Watch K) (space : Space K) :
    ReportsWithin env s (w.build s space) := by
  refine (optionalImage_reports space _ _ _ _).bind fun background => ?_
  refine (hand_reports space _ _ _ _ _ _ _).bind fun hour => ?_
  refine (hand_reports space _ _ _ _ _ _ _).bind fun minute => ?_
  exact (hand_reports space _ _ _ _ _ _ _).bind fun second => .pure _

theorem BrakeIndicator.frame_reports (b : BrakeIndicator K) (space : Space K) (path : Path)
    (sheetHeight : K) (index : Nat) :
    ReportsWithin env s (b.frame s space path sheetHeight index) := by
  unfold frame
  refine (texture_reports _ _).bindOption (.pure _) fun ⟨texture, size⟩ => ?_
  exact (quadState_reports _ _ _ _ _).map

theorem BrakeIndicator.build_reports (b : BrakeIndicator K) (space : Space K) :
    ReportsWithin env s (b.build s space) := by
  unfold build
  rcases b.image? with _ | path
  · exact giveUp_reports _
  refine .ite (giveUp_reports _) ?_
  refine (imageSize_reports _).bindOption (.pure _) fun sheet => ?_
  refine .ite (giveUp_reports _) (.read ?_)
  exact strip_reports (b.frame_reports space path sheet.y) _ _

theorem instrument_reports (space : Space K) : ReportsWithin env s (instrument space s) := by
  unfold instrument
  split
  case h_1 | h_2 | h_3 | h_4 =>
    exact buildWith_reports PressureGauge.blames (PressureGauge.build_reports _ space)
  case h_5 | h_6 | h_7 =>
    exact buildWith_reports Speedometer.blames (Speedometer.build_reports _ space)
  case h_8 | h_9 =>
    exact buildWith_reports DigitalIndicator.blames (DigitalIndicator.build_reports _ space)
  case h_10 | h_11 => exact buildWith_reports PilotLamp.blames (PilotLamp.build_reports _ space)
  case h_12 | h_13 => exact buildWith_reports Watch.blames (Watch.build_reports _ space)
  case h_14 | h_15 =>
    exact buildWith_reports BrakeIndicator.blames (BrakeIndicator.build_reports _ space)
  case h_16 => exact .pure _

theorem part_reports (space : Space K) (frame : Frame K) (h : Heading K) :
    ReportsWithin env s (part space frame s h) := by
  cases h with
  | background b => exact b.build_reports space frame
  | view v => exact .pure _
  | instrument => exact instrument_reports space

end Framed

end DriverDesk
