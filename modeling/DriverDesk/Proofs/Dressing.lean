import DriverDesk.Compile.Plan
import DriverDesk.Proofs.Materials

/-!
# Dressing the instruments

Every instrument of both formats gives states that wear what it was granted.
-/

namespace DriverDesk

open Build Step

variable {K σ : Type} {env : BuildEnv K σ} {t : σ}

/-! ## Strips and dials -/

/-- The states of a strip wear what was granted for its frames. -/
theorem strip_dresses {frame : Nat → Build K σ (Option (ElementState K))}
    {first : ElementState K → Element K} (hfirst : ∀ state, (first state).states = [state])
    (hframe : ∀ i t', Asks env t' (frame i) (Dresses Option.toList)) (count index : Nat) :
    Asks env t (strip frame first count index) (Dresses statesOf) := by
  induction count generalizing t index with
  | zero => exact .pure .nil
  | succ count ih =>
    refine (hframe index t).bind fun state? rs h => ?_
    cases state? with
    | none => exact .pure ((List.append_nil rs).symm ▸ h)
    | some state =>
      refine (ih (index + 1)).bind fun steps rs' h' => .pure ?_
      rw [List.append_nil]
      have hstep : Step.states (if index = 0 then .element (first state) else .state state) =
          [state] := by
        split
        · exact hfirst state
        · rfl
      rw [Dresses, statesOf_cons, hstep]
      exact h.append h'

/-- A dial of four parts, one asked for after the other. -/
theorem dial_dresses {a b c d : Build K σ (List (Step K))}
    (ha : ∀ t', Asks env t' a (Dresses statesOf)) (hb : ∀ t', Asks env t' b (Dresses statesOf))
    (hc : ∀ t', Asks env t' c (Dresses statesOf)) (hd : ∀ t', Asks env t' d (Dresses statesOf)) :
    Asks env t (do
      let a ← a
      let b ← b
      let c ← c
      let d ← d
      pure (a ++ b ++ c ++ d)) (Dresses statesOf) := by
  refine (ha t).bind fun a rs₁ h₁ => ?_
  refine (hb _).bind fun b rs₂ h₂ => ?_
  refine (hc _).bind fun c rs₃ h₃ => ?_
  refine (hd _).bind fun d rs₄ h₄ => .pure ?_
  rw [Dresses, statesOf_append, statesOf_append, statesOf_append, List.append_nil]
  simp only [List.append_assoc]
  exact h₁.append (h₂.append (h₃.append h₄))

variable [Arith K] (hsized : env.store.Sized)
include hsized

/-! ## Calibrated instruments -/

namespace Calibrated

theorem Header.build_dresses (h : Header K) (s : Section) (space : Space K) (key : Rgb) :
    Asks env t (h.build s space key) (Dresses statesOf) := by
  unfold build
  rcases h.daytime? with _ | day
  · exact .pure .nil
  refine .bindDay hsized (fun _ => .pure .nil) fun d id size t' hparams hid => ?_
  refine .bindNight hsized hparams hid fun night? t' => ?_
  refine (quadState_asks s _ _ _ _ _).bindQuiet fun state hstate => ?_
  subst hstate
  exact .pure ⟨rfl, _, rfl, rfl, rfl, rfl⟩

theorem PilotLamp.build_dresses (l : PilotLamp K) (s : Section) (space : Space K) :
    Asks env t (l.build s space) (Dresses statesOf) := by
  unfold build
  rcases l.daytime? with _ | day
  · exact giveUp_asks s _ .nil
  refine .bindDay hsized (fun _ => .pure .nil) fun d id size t' hparams hid => ?_
  refine .bindNight hsized hparams hid fun night? t' => ?_
  refine (subject_asks s _ _).bindQuiet fun subject _ => ?_
  refine (quadState_asks s _ _ _ _ _).bindQuiet fun state hstate => ?_
  subst hstate
  exact .pure ⟨rfl, _, rfl, rfl, rfl, rfl⟩

theorem Needle.build_dresses (n : Needle K) (s : Section) (space : Space K) :
    Asks env t (n.build s space) (Dresses statesOf) := by
  unfold build
  rcases n.daytime? with _ | day
  · exact giveUp_asks s _ .nil
  refine .ite (fun _ => giveUp_asks s _ .nil) fun _ => ?_
  refine .bindDay hsized (fun _ => .pure .nil) fun d id size t' hparams hid => ?_
  refine .bindNight hsized hparams hid fun night? t' => ?_
  refine (quadState_asks s _ _ _ _ _).bindQuiet fun state hstate => ?_
  subst hstate
  refine (subject_asks s _ _).bindQuiet fun subject _ => ?_
  exact .pure ⟨rfl, _, rfl, rfl, rfl, rfl⟩

theorem LinearGauge.build_dresses (g : LinearGauge K) (s : Section) (space : Space K) :
    Asks env t (g.build s space) (Dresses statesOf) := by
  unfold build
  rcases g.daytime? with _ | day
  · exact giveUp_asks s _ .nil
  refine .ite (fun _ => giveUp_asks s _ .nil) fun _ => ?_
  refine .ite (fun _ => giveUp_asks s _ .nil) fun _ => ?_
  refine .bindDay hsized (fun _ => .pure .nil) fun d id size t' hparams hid => ?_
  refine .bindNight hsized hparams hid fun night? t' => ?_
  refine (quadState_asks s _ _ _ _ _).bindQuiet fun state hstate => ?_
  subst hstate
  refine (subject_asks s _ _).bindQuiet fun subject _ => ?_
  exact .pure ⟨rfl, _, rfl, rfl, rfl, rfl⟩

theorem DigitalNumber.frame_dresses (d : DigitalNumber K) (s : Section) (space : Space K)
    (day : Path) (sheet : Point K) (nightFrames index : Nat) :
    Asks env t (d.frame s space day sheet nightFrames index) (Dresses Option.toList) := by
  unfold frame
  refine .bindDay hsized (fun _ => .pure .nil) fun r id size t' hparams hid => ?_
  refine .ite (fun _ => .bindNight hsized hparams hid fun night? t' => ?_) fun _ => ?_
  · refine (quadState_asks s _ _ _ _ _).map fun state rs h => ⟨h.1, state, rfl, ?_⟩
    rw [h.2]
    exact ⟨rfl, rfl, rfl⟩
  · refine (quadState_asks s _ _ _ _ _).map fun state rs h => ?_
    obtain ⟨rfl, rfl⟩ := h
    exact .cons (.day hid rfl rfl (hparams ▸ rfl)) .nil

theorem DigitalNumber.build_dresses (d : DigitalNumber K) (s : Section) (space : Space K) :
    Asks env t (d.build s space) (Dresses statesOf) := by
  unfold build
  rcases d.daytime? with _ | day
  · exact giveUp_asks s _ .nil
  refine .ite (fun _ => giveUp_asks s _ .nil) fun _ => ?_
  refine (imageSize_asks s day).bindQuiet fun sheet? _ => ?_
  rcases sheet? with _ | sheet
  · exact .pure .nil
  refine .ite (fun _ => giveUp_asks s _ .nil) fun _ => ?_
  have hnight : Asks env t (d.nightFrames s : Build K σ Nat) (Quietly fun _ => True) := by
    unfold nightFrames
    rcases d.nighttime? with _ | night
    · exact .pure ⟨rfl, trivial⟩
    refine (imageSize_asks s night).bindQuiet fun size? _ => ?_
    rcases size? with _ | size
    · exact .pure ⟨rfl, trivial⟩
    · exact .pure ⟨rfl, trivial⟩
  refine hnight.bindQuiet fun nightFrames _ => ?_
  refine (subject_asks s _ _).bindQuiet fun subject _ => ?_
  exact strip_dresses (fun _ => rfl)
    (fun i _ => d.frame_dresses hsized s space day sheet nightFrames i) _ _

omit hsized in
theorem DigitalGauge.build_dresses (g : DigitalGauge K) (s : Section) (space : Space K) :
    Asks env t (g.build s space) (Dresses statesOf) := by
  unfold build
  refine .ite (fun _ => giveUp_asks s _ .nil) fun _ => ?_
  refine .ite (fun _ => giveUp_asks s _ .nil) fun _ => ?_
  refine .whenQuiet (warn_asks s _) ?_
  refine (subject_asks s _ _).bindQuiet fun subject _ => .pure ?_
  exact .cons (.nothing rfl rfl rfl) .nil

omit hsized in
theorem Timetable.build_dresses (b : Timetable K) (s : Section) (space : Space K) :
    Asks env t (b.build s space) (Dresses statesOf) := by
  unfold build
  refine .whenQuiet (complain_asks s _) (.whenQuiet (complain_asks s _) ?_)
  refine .ite (fun _ => .pure .nil) fun _ => ?_
  refine (quadState_asks s _ _ _ _ _).bindQuiet fun state hstate => ?_
  subst hstate
  exact .pure (.cons (.nothing rfl rfl rfl) .nil)

end Calibrated

/-! ## Framed instruments -/

namespace Framed

/-- A state with one texture, keyed as the images of framed panels are. -/
theorem keyedState_dresses (s : Section) (space : Space K) (path : Path) (params : TextureParams)
    (rect : Point K → Rect K) (depth : K) (hkey : params.key? = some Rgb.blue) :
    Asks env t (do
      let some (texture, size) ← texture s path params | pure none
      some <$> quadState s space (rect size) (.both 0.5) depth (keyedMaterial texture))
      (Dresses Option.toList) := by
  refine .bindDay hsized (fun _ => .pure .nil) fun d id size t' hparams hid => ?_
  refine (quadState_asks s _ _ _ _ _).map fun state rs h => ?_
  obtain ⟨rfl, rfl⟩ := h
  exact .cons (.day hid rfl rfl (by rw [hparams, hkey]; rfl)) .nil

theorem centeredImage_dresses (s : Section) (space : Space K) (kind : ElementKind) (path : Path)
    (center : Point K) (depth : K) :
    Asks env t (centeredImage s space kind path center depth)
      (Dresses fun step? => statesOf step?.toList) := by
  unfold centeredImage
  refine .bindDay hsized (fun _ => .pure .nil) fun d id size t' hparams hid => ?_
  refine (quadState_asks s _ _ _ _ _).bindQuiet fun state hstate => .pure ?_
  subst hstate
  exact .cons (.day hid rfl rfl (hparams ▸ rfl)) .nil

theorem optionalImage_dresses (s : Section) (space : Space K) (kind : ElementKind)
    (path? : Option Path) (center : Point K) (depth : K) :
    Asks env t (optionalImage s space kind path? center depth) (Dresses statesOf) := by
  unfold optionalImage
  cases path? with
  | none => exact .pure .nil
  | some path =>
    refine (centeredImage_dresses hsized s space kind path center depth).bind fun step? rs h => ?_
    exact .pure ((List.append_nil rs).symm ▸ h)

theorem hand_dresses (s : Section) (space : Space K) (kind : ElementKind) (image : String)
    (center : Point K) (radius depth : K) (tint : Rgba) (function : Expr K) :
    Asks env t (hand s space kind image center radius depth tint function)
      (Dresses statesOf) := by
  unfold hand
  refine (stockImage_asks s image).bindQuiet fun path? _ => ?_
  rcases path? with _ | path
  · exact .pure .nil
  refine .bindDay hsized (fun _ => .pure .nil) fun d id size t' hparams hid => ?_
  refine (quadState_asks s _ _ _ _ _).bindQuiet fun state hstate => .pure ?_
  subst hstate
  exact .cons (.day hid rfl rfl (hparams ▸ rfl)) .nil

omit hsized in
theorem lamps_dressed (space : Space K) (kind : ElementKind) (center : Point K) (radius depth : K)
    (tint : Rgba) (initial last : K) (function : Expr K) :
    Dressed (statesOf [lamps space kind center radius depth tint initial last function]) [] :=
  .cons (.nothing rfl rfl rfl) .nil

theorem Background.build_dresses (b : Background) (s : Section) (space : Space K)
    (frame : Frame K) : Asks env t (b.build s space frame) (Dresses statesOf) := by
  refine Asks.read.bindQuiet fun env' _ => ?_
  rcases b.path? env'.read with _ | path
  · exact .pure .nil
  refine .bindDay hsized (fun _ => .pure .nil) fun d id size t' hparams hid => ?_
  refine (quadState_asks s _ _ _ _ _).bindQuiet fun state hstate => .pure ?_
  subst hstate
  exact .cons (.day hid rfl rfl (hparams ▸ rfl)) .nil

theorem PressureGauge.pointer_dresses (g : PressureGauge K) (s : Section) (space : Space K)
    (needle? : Option PressureNeedle) (image : String) (layer : Int) :
    Asks env t (g.pointer s space needle? image layer) (Dresses statesOf) := by
  unfold pointer
  rcases needle? with _ | needle
  · exact .pure .nil
  refine .ite (fun _ => ?_) fun _ => ?_
  · exact .pure (lamps_dressed space _ _ _ _ _ _ _ _)
  · exact hand_dresses hsized s space _ _ _ _ _ _ _

theorem PressureGauge.build_dresses (g : PressureGauge K) (s : Section) (space : Space K) :
    Asks env t (g.build s space) (Dresses statesOf) := by
  refine .ite (fun _ => giveUp_asks s _ .nil) fun _ => ?_
  exact dial_dresses (fun _ => optionalImage_dresses hsized s space _ _ _ _)
    (fun _ => g.pointer_dresses hsized s space _ _ _)
    (fun _ => g.pointer_dresses hsized s space _ _ _)
    fun _ => optionalImage_dresses hsized s space _ _ _ _

theorem Speedometer.signalFrame_dresses (m : Speedometer K) (s : Section) (space : Space K)
    (path : Path) (side : K) (index : Nat) :
    Asks env t (m.signalFrame s space path side index) (Dresses Option.toList) := by
  unfold signalFrame
  rcases (signalSpeeds (K := K))[index]? with _ | speed
  · exact .pure .nil
  exact keyedState_dresses hsized s space path _ (fun _ => _) _ rfl

theorem Speedometer.signals_dresses (m : Speedometer K) (s : Section) (space : Space K) :
    Asks env t (m.signals s space) (Dresses statesOf) := by
  unfold signals
  rcases m.signals? with _ | path
  · exact .pure .nil
  refine (imageSize_asks s path).bindQuiet fun sheet? _ => ?_
  rcases sheet? with _ | sheet
  · exact .pure .nil
  exact strip_dresses (fun _ => rfl)
    (fun i _ => m.signalFrame_dresses hsized s space path sheet.y i) _ _

theorem Speedometer.pointer_dresses (m : Speedometer K) (s : Section) (space : Space K) :
    Asks env t (m.pointer s space) (Dresses statesOf) := by
  refine .ite (fun _ => ?_) fun _ => ?_
  · exact .pure (lamps_dressed space _ _ _ _ _ _ _ _)
  · exact hand_dresses hsized s space _ _ _ _ _ _ _

theorem Speedometer.build_dresses (m : Speedometer K) (s : Section) (space : Space K) :
    Asks env t (m.build s space) (Dresses statesOf) :=
  dial_dresses (fun _ => optionalImage_dresses hsized s space _ _ _ _)
    (fun _ => m.signals_dresses hsized s space) (fun _ => m.pointer_dresses hsized s space)
    fun _ => optionalImage_dresses hsized s space _ _ _ _

theorem DigitalIndicator.strips_dresses (d : DigitalIndicator K) (s : Section) (space : Space K)
    (path : Path) (sheetWidth : K) (frames digit : Nat) (functions : List (Expr K)) :
    Asks env t (d.strips s space path sheetWidth frames digit functions) (Dresses statesOf) := by
  induction functions generalizing t digit with
  | nil => exact .pure .nil
  | cons function functions ih =>
    refine (strip_dresses (fun _ => rfl)
      (fun i _ => keyedState_dresses hsized s space path _ (fun _ => _) _ rfl) frames 0).bind
      fun first rs h => ?_
    refine (ih (digit + 1)).bind fun rest rs' h' => .pure ?_
    rw [Dresses, statesOf_append, List.append_nil]
    exact h.append h'

theorem DigitalIndicator.build_dresses (d : DigitalIndicator K) (s : Section) (space : Space K) :
    Asks env t (d.build s space) (Dresses statesOf) := by
  unfold build
  rcases d.number? with _ | path
  · exact giveUp_asks s _ .nil
  refine .ite (fun _ => giveUp_asks s _ .nil) fun _ => ?_
  refine (imageSize_asks s path).bindQuiet fun sheet? _ => ?_
  rcases sheet? with _ | sheet
  · exact .pure .nil
  refine .ite (fun _ => giveUp_asks s _ .nil) fun _ => ?_
  exact d.strips_dresses hsized s space path sheet.x _ 0 d.digitFunctions

theorem PilotLamp.build_dresses (l : PilotLamp K) (s : Section) (space : Space K) :
    Asks env t (l.build s space) (Dresses statesOf) := by
  have hstate (path : Path) (t' : σ) :
      Asks env t' (l.state s space path) (Dresses Option.toList) :=
    keyedState_dresses hsized s space path keyedImage
      (fun size => ⟨l.corner.x, l.corner.y, size.x, size.y⟩) (depthOf 2) rfl
  unfold build
  rcases l.turnOn? with _ | turnOn
  · exact giveUp_asks s _ .nil
  refine (hstate turnOn t).bind fun on? rs h => ?_
  rcases on? with _ | on
  · exact .pure ((List.append_nil rs).symm ▸ h)
  rcases l.turnOff? with _ | turnOff
  · exact .pure ((List.append_nil rs).symm ▸ h)
  refine (hstate turnOff _).bind fun off? rs' h' => ?_
  rcases off? with _ | off
  · exact .pure ((List.append_nil rs').symm ▸ h.append h')
  · exact .pure ((List.append_nil rs').symm ▸ h.append h')

theorem Watch.build_dresses (w : Watch K) (s : Section) (space : Space K) :
    Asks env t (w.build s space) (Dresses statesOf) :=
  dial_dresses (fun _ => optionalImage_dresses hsized s space _ _ _ _)
    (fun _ => hand_dresses hsized s space _ _ _ _ _ _ _)
    (fun _ => hand_dresses hsized s space _ _ _ _ _ _ _)
    fun _ => hand_dresses hsized s space _ _ _ _ _ _ _

theorem BrakeIndicator.build_dresses (b : BrakeIndicator K) (s : Section) (space : Space K) :
    Asks env t (b.build s space) (Dresses statesOf) := by
  unfold build
  rcases b.image? with _ | path
  · exact giveUp_asks s _ .nil
  refine .ite (fun _ => giveUp_asks s _ .nil) fun _ => ?_
  refine (imageSize_asks s path).bindQuiet fun sheet? _ => ?_
  rcases sheet? with _ | sheet
  · exact .pure .nil
  refine .ite (fun _ => giveUp_asks s _ .nil) fun _ => ?_
  refine Asks.read.bindQuiet fun env' _ => ?_
  exact strip_dresses (fun _ => rfl)
    (fun i _ => keyedState_dresses hsized s space path _ (fun _ => _) _ rfl) _ _

end Framed

end DriverDesk
