import DriverDesk.Proofs.Calibrated
import DriverDesk.Proofs.Framed

/-!
# Plans

Making a plan only adds to the bench. The plan has one part for each section, in the
order of the sections, and each part gives assembled steps whose expressions compute
values.
-/

namespace DriverDesk

open Build Step

variable {K σ : Type}

/-- The parts of the plan are the given sections with sound builders. -/
structure Plan.Covers (sections : List Section) (p : Plan K σ) : Prop where
  sections : p.parts.map (·.1) = sections
  parts : ∀ part ∈ p.parts, Gives part.2 (Assembled Element.Bound)

theorem buildWith_gives (α : Type) [Readable α] {build : α → Section → Build K σ (List (Step K))}
    {s : Section} {P : List (Step K) → Prop} (h : ∀ a, Gives (build a s) P) :
    Gives (buildWith α build s) P :=
  (settings_gives α s).bind fun a _ => h a

variable [Arith K]

namespace Calibrated

theorem instrument_gives (space : Space K) (s : Section) :
    Gives (instrument space s : Build K σ _) (Assembled Element.Bound) := by
  unfold instrument
  split
  · exact buildWith_gives _ fun l => l.build_gives s space
  · exact buildWith_gives _ fun n => n.build_gives s space
  · exact buildWith_gives _ fun g => g.build_gives s space
  · exact buildWith_gives _ fun d => d.build_gives s space
  · exact buildWith_gives _ fun g => g.build_gives s space
  · exact buildWith_gives _ fun t => t.build_gives s space
  · exact .pure .nil

theorem part_gives (space : Space K) (key : Rgb) (s : Section) (header? : Option (Header K)) :
    Gives (part space key s header? : Build K σ _) (Assembled Element.Bound) := by
  cases header? with
  | none => exact instrument_gives space s
  | some h => exact h.build_gives s space key

theorem readHeaders_gives (sections : List Section) :
    Gives (readHeaders sections : Build K σ (List (Section × Option (Header K))))
      fun headed => headed.map (·.1) = sections := by
  induction sections with
  | nil => exact .pure rfl
  | cons s rest ih =>
    have hrest (header? : Option (Header K)) :
        Gives (do
          let others ← readHeaders rest
          pure ((s, header?) :: others) : Build K σ _)
          fun headed => headed.map (·.1) = s :: rest :=
      ih.bind fun others h => .pure (by rw [List.map_cons, h])
    refine .ite ?_ (hrest none)
    exact ((settings_gives (Header K) s).map fun _ _ => trivial).bind (P := fun _ => True)
      fun header? _ => hrest header?

theorem plan_gives (sections : List Section) :
    Gives (plan sections : Build K σ (Plan K σ)) (Plan.Covers sections) := by
  refine Gives.read.bind fun env _ => ?_
  refine (readHeaders_gives sections).bind fun headed h => .pure ⟨?_, fun p hp => ?_⟩
  · rw [List.map_map]; exact h
  · obtain ⟨q, -, rfl⟩ := List.mem_map.mp hp
    exact part_gives _ _ _ _

end Calibrated

namespace Framed

theorem instrument_gives (space : Space K) (s : Section) :
    Gives (instrument space s : Build K σ _) (Assembled Element.Bound) := by
  unfold instrument
  split
  case h_1 | h_2 | h_3 | h_4 => exact buildWith_gives _ fun g => g.build_gives s space
  case h_5 | h_6 | h_7 => exact buildWith_gives _ fun m => m.build_gives s space
  case h_8 | h_9 => exact buildWith_gives _ fun d => d.build_gives s space
  case h_10 | h_11 => exact buildWith_gives _ fun l => l.build_gives s space
  case h_12 | h_13 => exact buildWith_gives _ fun w => w.build_gives s space
  case h_14 | h_15 => exact buildWith_gives _ fun b => b.build_gives s space
  case h_16 => exact .pure .nil

theorem part_gives (space : Space K) (frame : Frame K) (s : Section) (h : Heading K) :
    Gives (part space frame s h : Build K σ _) (Assembled Element.Bound) := by
  cases h with
  | background b => exact b.build_gives s space frame
  | view v => exact .pure .nil
  | instrument => exact instrument_gives space s

theorem readHeadings_gives (sections : List Section) :
    Gives (readHeadings sections : Build K σ (List (Section × Heading K)))
      fun headed => headed.map (·.1) = sections := by
  induction sections with
  | nil => exact .pure rfl
  | cons s rest ih =>
    have hrest (h : Heading K) :
        Gives (do
          let others ← readHeadings rest
          pure ((s, h) :: others) : Build K σ _)
          fun headed => headed.map (·.1) = s :: rest :=
      ih.bind fun others h => .pure (by rw [List.map_cons, h])
    refine .ite ?_ (.ite ?_ (hrest .instrument))
    · exact ((settings_gives Background s).map fun _ _ => trivial).bind (P := fun _ => True)
        fun h _ => hrest h
    · exact ((settings_gives (View K) s).map fun _ _ => trivial).bind (P := fun _ => True)
        fun h _ => hrest h

theorem fitted_gives (headings : List (Heading K)) :
    Gives (fitted headings : Build K σ (Frame K)) fun _ => True := by
  refine Gives.read.bind fun env _ => ?_
  rcases (lastBackground? headings).bind (·.path? env.read) with _ | path
  · exact .pure trivial
  refine Gives.get.bind fun b _ => ?_
  rcases env.store.imageSize? b.textures path with _ | size
  · exact .pure trivial
  · exact .pure trivial

theorem plan_gives (sections : List Section) :
    Gives (plan sections : Build K σ (Plan K σ)) (Plan.Covers sections) := by
  refine Gives.read.bind fun env _ => ?_
  refine (readHeadings_gives sections).bind fun headed h => ?_
  refine (fitted_gives _).bind fun frame _ => .pure ⟨?_, fun p hp => ?_⟩
  · rw [List.map_map]; exact h
  · obtain ⟨q, -, rfl⟩ := List.mem_map.mp hp
    exact part_gives _ _ _ _

end Framed

theorem Plan.make_gives (format : PanelFormat) (sections : List Section) :
    Gives (Plan.make format sections : Build K σ (Plan K σ)) (Plan.Covers sections) := by
  cases format with
  | calibrated => exact Calibrated.plan_gives sections
  | framed => exact Framed.plan_gives sections

end DriverDesk
