import DriverDesk.Compile.Plan
import DriverDesk.Proofs.Postfix

/-!
# Calibrated instruments

What the expressions are that each instrument of a calibrated panel writes. It gives
assembled steps, and every expression of its elements computes a value.
-/

namespace DriverDesk.Calibrated

open Build Step DriverDesk.Expr

variable {K σ : Type} [Arith K]

namespace Header

/-- A background has no expressions. -/
theorem build_writes (h : Header K) (s : Section) (space : Space K) (key : Rgb)
    {P : Expr K → Prop} :
    Gives (h.build s space key : Build K σ _) (Assembled (Element.Writes P)) := by
  unfold build
  rcases h.daytime? with _ | day
  · exact .pure .nil
  refine (texture_gives s _ _).bindOption (.pure .nil) fun ⟨texture, size⟩ => ?_
  refine (optionalTexture_gives s _ _).bind fun night _ => ?_
  refine (quadState_gives s _ _ _ _ _).bind fun state _ => ?_
  exact .pure (.single (Element.writes_single .background state) [])

theorem build_gives (h : Header K) (s : Section) (space : Space K) (key : Rgb) :
    Gives (h.build s space key : Build K σ _) (Assembled Element.Bound) :=
  h.build_writes s space key

end Header

namespace PilotLamp

/-- The expression of a lamp that shows a subject. -/
def Writes (l : PilotLamp K) (x : Expr K) : Prop :=
  ∃ cars, x = stateFunction (Subject.meaning cars l.subject.name)

omit [Arith K] in
theorem computes_stateFunction {subject : Expr K} (h : subject.Computes) :
    (stateFunction subject).Computes := h.append ⟨by simp, rfl⟩

theorem build_writes (l : PilotLamp K) (s : Section) (space : Space K) :
    Gives (l.build s space : Build K σ _) (Assembled (Element.Writes l.Writes)) := by
  unfold build
  rcases l.daytime? with _ | day
  · exact giveUp_gives s _ .nil
  refine (texture_gives s _ _).bindOption (.pure .nil) fun ⟨texture, size⟩ => ?_
  refine (optionalTexture_gives s _ _).bind fun night _ => ?_
  refine (subject_gives s _ _).bind fun subject ⟨cars, hsubject⟩ => ?_
  refine (quadState_gives s _ _ _ _ _).bind fun state _ => ?_
  have hwrites : l.Writes (stateFunction subject) := ⟨cars, by rw [hsubject]⟩
  exact .pure (.single (Element.writes_selectedBy .pilotLamp state hwrites) [])

theorem build_gives (l : PilotLamp K) (s : Section) (space : Space K) :
    Gives (l.build s space : Build K σ _) (Assembled Element.Bound) := by
  refine (l.build_writes s space).mono fun _ h => h.bound fun x ⟨cars, hx⟩ => ?_
  rw [hx]
  exact computes_stateFunction (Subject.computes_meaning cars _)

end PilotLamp

namespace Needle

/-- The angle that a needle writes for its subject. -/
def Writes (n : Needle K) (x : Expr K) : Prop :=
  ∃ cars, x = n.angles.expression (Subject.meaning cars n.subject.name)

theorem build_writes (n : Needle K) (s : Section) (space : Space K) :
    Gives (n.build s space : Build K σ _) (Assembled (Element.Writes n.Writes)) := by
  unfold build
  rcases n.daytime? with _ | day
  · exact giveUp_gives s _ .nil
  refine .ite (giveUp_gives s _ .nil) ?_
  refine (texture_gives s _ _).bindOption (.pure .nil) fun ⟨texture, size⟩ => ?_
  refine (optionalTexture_gives s _ _).bind fun night _ => ?_
  refine (quadState_gives s _ _ _ _ _).bind fun state _ => ?_
  refine (subject_gives s _ _).bind fun subject ⟨cars, hsubject⟩ => ?_
  have hwrites : n.Writes (n.angles.expression subject) := ⟨cars, by rw [hsubject]⟩
  exact .pure (.single (Element.writes_moving .needle state rfl hwrites) [])

theorem build_gives (n : Needle K) (s : Section) (space : Space K) :
    Gives (n.build s space : Build K σ _) (Assembled Element.Bound) := by
  refine (n.build_writes s space).mono fun _ h => h.bound fun x ⟨cars, hx⟩ => ?_
  rw [hx]
  exact n.angles.computes_expression (Subject.computes_meaning cars _)

end Needle

namespace LinearGauge

/-- The shift that a gauge writes for its subject, with a texture of some width in pixels. -/
def Writes (g : LinearGauge K) (x : Expr K) : Prop :=
  ∃ cars, ∃ pixels : Nat,
    x = g.shift (Arith.ofInt pixels) (Subject.meaning cars g.subject.name)

theorem computes_shift (g : LinearGauge K) (width : K) {value : Expr K} (h : value.Computes) :
    (g.shift width value).Computes := h.append ⟨by simp, rfl⟩

theorem build_writes (g : LinearGauge K) (s : Section) (space : Space K) :
    Gives (g.build s space : Build K σ _) (Assembled (Element.Writes g.Writes)) := by
  unfold build
  rcases g.daytime? with _ | day
  · exact giveUp_gives s _ .nil
  refine .ite (giveUp_gives s _ .nil) (.ite (giveUp_gives s _ .nil) ?_)
  refine (texture_gives_lengths s _ _).bind fun found? hfound => ?_
  cases found? with
  | none => exact .pure .nil
  | some found =>
    obtain ⟨size, hsize⟩ := hfound found rfl
    refine (optionalTexture_gives s _ _).bind fun night _ => ?_
    refine (quadState_gives s _ _ _ _ _).bind fun state _ => ?_
    refine (subject_gives s _ _).bind fun subject ⟨cars, hsubject⟩ => ?_
    have hwrites : g.Writes (g.shift found.2.x subject) :=
      ⟨cars, size.width, by rw [hsubject, hsize, lengths]⟩
    exact .pure (.single (Element.writes_moving .linearGauge state rfl hwrites) [])

theorem build_gives (g : LinearGauge K) (s : Section) (space : Space K) :
    Gives (g.build s space : Build K σ _) (Assembled Element.Bound) := by
  refine (g.build_writes s space).mono fun _ h => h.bound fun x ⟨cars, pixels, hx⟩ => ?_
  rw [hx]
  exact g.computes_shift _ (Subject.computes_meaning cars _)

end LinearGauge

namespace DigitalNumber

/-- The subject, which selects a frame. -/
def Writes (d : DigitalNumber K) (x : Expr K) : Prop :=
  ∃ cars, x = Subject.meaning cars d.subject.name

theorem nightFrames_gives (d : DigitalNumber K) (s : Section) :
    Gives (d.nightFrames s : Build K σ Nat) fun _ => True := by
  unfold nightFrames
  split
  · exact .pure trivial
  · refine (imageSize_gives s _).bind fun size? _ => ?_
    split <;> exact .pure trivial

theorem frame_gives (d : DigitalNumber K) (s : Section) (space : Space K) (day : Path)
    (sheet : Point K) (nightFrames index : Nat) :
    Gives (d.frame s space day sheet nightFrames index : Build K σ _) fun _ => True := by
  have posed (m : Material) (rect : Rect K) :
      Gives (some <$> quadState s space rect (.both 0.5) (depthOf d.layer) m : Build K σ _)
        fun _ => True :=
    (quadState_gives s _ _ _ _ _).map fun _ _ => trivial
  unfold frame
  refine (texture_gives s _ _).bindOption (.pure trivial) fun ⟨texture, size⟩ => ?_
  exact .ite ((optionalTexture_gives s _ _).bind fun night _ => posed _ _) (posed _ _)

theorem build_writes (d : DigitalNumber K) (s : Section) (space : Space K) :
    Gives (d.build s space : Build K σ _) (Assembled (Element.Writes d.Writes)) := by
  unfold build
  rcases d.daytime? with _ | day
  · exact giveUp_gives s _ .nil
  refine .ite (giveUp_gives s _ .nil) ?_
  refine (imageSize_gives s _).bindOption (.pure .nil) fun sheet => ?_
  refine .ite (giveUp_gives s _ .nil) ?_
  refine (d.nightFrames_gives s).bind fun nightFrames _ => ?_
  refine (subject_gives s _ _).bind fun subject hsubject => ?_
  exact strip_gives (d.frame_gives s space day sheet nightFrames)
    (fun state => Element.writes_selectedBy .digitalNumber state hsubject) _

theorem build_gives (d : DigitalNumber K) (s : Section) (space : Space K) :
    Gives (d.build s space : Build K σ _) (Assembled Element.Bound) := by
  refine (d.build_writes s space).mono fun _ h => h.bound fun x ⟨cars, hx⟩ => ?_
  rw [hx]
  exact Subject.computes_meaning cars _

end DigitalNumber

namespace DigitalGauge

/-- The angle that a gauge writes for its subject, which may move in steps. -/
def Writes (g : DigitalGauge K) (x : Expr K) : Prop :=
  ∃ cars, x = g.angles.expression (Subject.meaning cars g.subject.name ++ quantize g.step)

theorem build_writes (g : DigitalGauge K) (s : Section) (space : Space K) :
    Gives (g.build s space : Build K σ _) (Assembled (Element.Writes g.Writes)) := by
  unfold build
  refine .ite (giveUp_gives s _ .nil) (.ite (giveUp_gives s _ .nil) ?_)
  refine .when (warn_gives s _) ?_
  refine (subject_gives s _ _).bind fun subject ⟨cars, hsubject⟩ => ?_
  have hwrites : g.Writes (g.angles.expression (subject ++ quantize g.step)) :=
    ⟨cars, by rw [hsubject]⟩
  exact .pure (.single (Element.writes_moving .digitalGauge _ rfl hwrites) [])

theorem build_gives (g : DigitalGauge K) (s : Section) (space : Space K) :
    Gives (g.build s space : Build K σ _) (Assembled Element.Bound) := by
  refine (g.build_writes s space).mono fun _ h => h.bound fun x ⟨cars, hx⟩ => ?_
  rw [hx]
  exact g.angles.computes_expression
    ((Subject.computes_meaning cars _).append (turns_quantize g.step))

end DigitalGauge

namespace Timetable

theorem build_writes (t : Timetable K) (s : Section) (space : Space K) :
    Gives (t.build s space : Build K σ _)
      (Assembled (Element.Writes (· = [.name "panel2timetable"]))) := by
  unfold build
  refine .when (complain_gives s _) (.when (complain_gives s _) ?_)
  refine .ite (.pure .nil) ?_
  refine (quadState_gives s _ _ _ _ _).bind fun state _ => ?_
  refine .pure (.single ?_ [])
  exact Element.writes_selectedBy .timetable state rfl

theorem build_gives (t : Timetable K) (s : Section) (space : Space K) :
    Gives (t.build s space : Build K σ _) (Assembled Element.Bound) := by
  refine (t.build_writes s space).mono fun _ h => h.bound fun x hx => ?_
  rw [hx]
  exact computes_name (by simp [trainVariables])

end Timetable

end DriverDesk.Calibrated
