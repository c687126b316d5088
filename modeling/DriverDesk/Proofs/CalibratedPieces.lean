import DriverDesk.Compile.Plan
import DriverDesk.Proofs.Headers
import DriverDesk.Proofs.Pieces
import DriverDesk.Proofs.Postfix

/-!
# Pieces of calibrated panels

Each instrument of a calibrated panel is one piece, and so is the background of a header.
-/

namespace DriverDesk.Calibrated

open Build Step

variable {K σ : Type} [Arith K] {env : BuildEnv K σ} {s : Section} {fault : Prop}

/-- The background of a header, which is asked for by its daytime image. -/
def Header.piece (h : Header K) : Piece K := ⟨h.daytime?.isSome = true, (·.kind = .background)⟩

theorem Header.build_leaves (h : Header K) (space : Space K) (key : Rgb) :
    Leaves env s fault (h.build s space key) (Makes fault [h.piece]) := by
  unfold build piece
  rcases h.daytime? with _ | day
  · exact .pure (.nothing (List.forall_mem_singleton.mpr nofun))
  refine (texture_leaves _ _).bindOption (.pure .faulty) fun ⟨texture, size⟩ => ?_
  refine .bindGives (optionalTexture_gives s _ _) fun night _ => ?_
  refine .bindGives (quadState_gives_quad _ _ _ _ _) fun state hstate => ?_
  subst hstate
  exact .pure fun _ => .one (Element.sound_single (by decide) (Mesh.isQuad_ofQuad ..)) rfl

theorem PilotLamp.build_leaves (l : PilotLamp K) (space : Space K) :
    Leaves env s fault (l.build s space) (Makes fault [.ofKind .pilotLamp]) := by
  unfold build
  rcases l.daytime? with _ | day
  · exact giveUp_leaves _ .faulty
  refine (texture_leaves _ _).bindOption (.pure .faulty) fun ⟨texture, size⟩ => ?_
  refine .bindGives (optionalTexture_gives s _ _) fun night _ => ?_
  refine .bindGives (subject_gives s _ _) fun subject _ => ?_
  refine .bindGives (quadState_gives_quad _ _ _ _ _) fun state hstate => ?_
  subst hstate
  exact .pure fun _ => .one (Element.sound_selectedBy _ (by decide) (Mesh.isQuad_ofQuad ..)) rfl

theorem Needle.build_leaves (n : Needle K) (space : Space K) :
    Leaves env s fault (n.build s space) (Makes fault [.ofKind .needle]) := by
  unfold build
  rcases n.daytime? with _ | day
  · exact giveUp_leaves _ .faulty
  refine .ite (fun _ => giveUp_leaves _ .faulty) fun _ => ?_
  refine (texture_leaves _ _).bindOption (.pure .faulty) fun ⟨texture, size⟩ => ?_
  refine .bindGives (optionalTexture_gives s _ _) fun night _ => ?_
  refine .bindGives (quadState_gives_quad _ _ _ _ _) fun state hstate => ?_
  refine .bindGives (subject_gives s _ _) fun subject _ => ?_
  subst hstate
  exact .pure fun _ => .one (Element.sound_turning _ (by decide) (Mesh.isQuad_ofQuad ..)) rfl

theorem LinearGauge.build_leaves (g : LinearGauge K) (space : Space K) :
    Leaves env s fault (g.build s space) (Makes fault [.ofKind .linearGauge]) := by
  unfold build
  rcases g.daytime? with _ | day
  · exact giveUp_leaves _ .faulty
  refine .ite (fun _ => giveUp_leaves _ .faulty) fun _ => ?_
  refine .ite (fun _ => giveUp_leaves _ .faulty) fun _ => ?_
  refine (texture_leaves _ _).bindOption (.pure .faulty) fun ⟨texture, size⟩ => ?_
  refine .bindGives (optionalTexture_gives s _ _) fun night _ => ?_
  refine .bindGives (quadState_gives_quad _ _ _ _ _) fun state hstate => ?_
  refine .bindGives (subject_gives s _ _) fun subject _ => ?_
  subst hstate
  exact .pure fun _ => .one (Element.sound_scrolling _ (Mesh.isQuad_ofQuad ..)) rfl

theorem DigitalNumber.frame_leaves (d : DigitalNumber K) (space : Space K) (day : Path)
    (sheet : Point K) (nightFrames index : Nat) :
    Leaves env s fault (d.frame s space day sheet nightFrames index)
      (OrFault fault (·.mesh.IsQuad)) := by
  unfold frame
  refine (texture_leaves _ _).bindFound (.pure fun hfault => hfault) fun ⟨texture, size⟩ => ?_
  refine .ite (fun _ => ?_) fun _ => Build.frame_leaves _ _ _ _ _
  exact .bindGives (optionalTexture_gives s _ _) fun night _ => Build.frame_leaves _ _ _ _ _

theorem DigitalNumber.build_leaves (d : DigitalNumber K) (space : Space K) :
    Leaves env s fault (d.build s space) (Makes fault [.ofKind .digitalNumber]) := by
  unfold build
  rcases d.daytime? with _ | day
  · exact giveUp_leaves _ .faulty
  refine .ite (fun _ => giveUp_leaves _ .faulty) fun _ => ?_
  refine (imageSize_leaves _).bindFound (.pure .faulty) fun sheet => ?_
  refine .ite (fun _ => giveUp_leaves _ .faulty) fun hframes => ?_
  refine .bindGives (d.nightFrames_gives s) fun nightFrames _ => ?_
  refine .bindGives (subject_gives s _ _) fun subject _ => ?_
  exact strip_makesPiece (by decide) (fun k _ => d.frame_leaves space day sheet nightFrames k)
    (fun _ => hframes) fun e hkind _ => hkind

theorem DigitalGauge.build_leaves (g : DigitalGauge K) (space : Space K) :
    Leaves env s fault (g.build s space) (Makes fault [.ofKind .digitalGauge]) := by
  unfold build
  refine .ite (fun _ => giveUp_leaves _ .faulty) fun _ => ?_
  refine .ite (fun _ => giveUp_leaves _ .faulty) fun _ => ?_
  refine .when (warn_gives s _) ?_
  refine .bindGives (subject_gives s _ _) fun subject _ => ?_
  exact .pure (.one (Element.sound_sweeping _ _ _ (by decide)) rfl)

theorem Timetable.build_leaves (t : Timetable K) (space : Space K) :
    Leaves env s fault (t.build s space) (Makes fault [.ofKind .timetable]) := by
  have required (message : String) (rest : Unit → Build K σ (List (Step K)))
      (h : Leaves env s fault (rest ()) fun steps =>
        fault → Makes fault [.ofKind .timetable] steps) :
      Leaves env s fault (complain s message >>= rest) (Makes fault [.ofKind .timetable]) :=
    (complain_leaves message).bind fun _ => h
  unfold build
  refine .ite (fun hwidth => required _ _ ?_) fun hwidth => ?_
  · refine .when (complain_gives s _) ?_
    rw [if_pos (by simp [hwidth])]
    exact .pure .faulty
  refine .ite (fun hheight => required _ _ ?_) fun hheight => ?_
  · rw [if_pos (by simp [hheight])]
    exact .pure .faulty
  rw [if_neg (by simp [hwidth, hheight])]
  refine .bindGives (quadState_gives_quad _ _ _ _ _) fun state hstate => ?_
  subst hstate
  exact .pure (.one (Element.sound_timetable _ (Mesh.isQuad_ofQuad ..)) rfl)

/-! ## Sections -/

/-- The kind of the instrument that a section of the name asks for. -/
def kindOf? : String → Option ElementKind
  | "pilotlamp" => some .pilotLamp
  | "needle" => some .needle
  | "lineargauge" => some .linearGauge
  | "digitalnumber" => some .digitalNumber
  | "digitalgauge" => some .digitalGauge
  | "timetable" => some .timetable
  | _ => none

omit [Arith K] in
theorem buildWith_leaves {α : Type} [Readable α] {build : α → Section → Build K σ (List (Step K))}
    {P : List (Step K) → Prop} (h : ∀ a, Leaves env s fault (build a s) P) :
    Leaves env s fault (buildWith α build s) P :=
  .bindGives (settings_gives α s) fun a _ => h a

theorem instrument_leaves (space : Space K) :
    Leaves env s fault (instrument space s)
      (Makes fault ((kindOf? s.lowerName).toList.map .ofKind)) := by
  unfold instrument
  split
  next hname => rw [hname]; exact buildWith_leaves fun l => l.build_leaves space
  next hname => rw [hname]; exact buildWith_leaves fun n => n.build_leaves space
  next hname => rw [hname]; exact buildWith_leaves fun g => g.build_leaves space
  next hname => rw [hname]; exact buildWith_leaves fun d => d.build_leaves space
  next hname => rw [hname]; exact buildWith_leaves fun g => g.build_leaves space
  next hname => rw [hname]; exact buildWith_leaves fun t => t.build_leaves space
  next =>
    have hkind : kindOf? s.lowerName = none := by simp_all [kindOf?]
    rw [hkind]
    exact .pure .empty

/-- The pieces of a section of a calibrated panel. -/
def piecesOf (env : ReadEnv) (s : Section) : List (Piece K) :=
  match header? env s with
  | some h => [h.piece]
  | none => (kindOf? s.lowerName).toList.map .ofKind

theorem part_leaves (space : Space K) (key : Rgb) :
    Leaves env s fault (part space key s (header? env.read s))
      (Makes fault (piecesOf env.read s)) := by
  unfold piecesOf
  rcases header? env.read s with _ | h
  · exact instrument_leaves space
  · exact h.build_leaves space key

end DriverDesk.Calibrated
