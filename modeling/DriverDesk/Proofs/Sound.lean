import Mathlib.Logic.ExistsUnique
import DriverDesk.Element.Basic

/-!
# Sound elements

What the parts of an element owe to each other: its meshes are quads or the fan of a sweep, a
fan goes with a sweep, and several states go with an expression that selects one of them.
There is one lemma for each way in which builders put an element together.
-/

namespace DriverDesk

variable {K : Type}

/-! ## Meshes -/

namespace Mesh

variable [Arith K]

/-- One face with the four corners of a texture. -/
structure IsQuad (m : Mesh K) : Prop where
  vertices : m.vertices.length = 4
  faces : m.faces = [[0, 1, 2, 3]]
  texcoords : ∀ v ∈ m.vertices,
    (v.texcoord.x = 0.0 ∨ v.texcoord.x = 1.0) ∧ (v.texcoord.y = 0.0 ∨ v.texcoord.y = 1.0)

omit [Arith K] in
/-- Five triangles around the first of eleven vertices. -/
structure IsFan (m : Mesh K) : Prop where
  vertices : m.vertices.length = 11
  faces : m.faces = [[0, 1, 2], [0, 3, 4], [0, 5, 6], [0, 7, 8], [0, 9, 10]]

/-- Every face is one of vertices that are there. -/
def Closed (m : Mesh K) : Prop := ∀ face ∈ m.faces, ∀ i ∈ face, i < m.vertices.length

variable {m : Mesh K}

theorem IsQuad.closed (h : m.IsQuad) : m.Closed := by
  rw [Closed, h.faces, h.vertices]
  decide

omit [Arith K] in
theorem IsFan.closed (h : m.IsFan) : m.Closed := by
  rw [Closed, h.faces, h.vertices]
  decide

theorem IsQuad.not_isFan (h : m.IsQuad) : ¬ m.IsFan := fun hfan => by
  have := h.vertices.symm.trans hfan.vertices
  omega

theorem isFan_sweepFan (m : Material) : (sweepFan m : Mesh K).IsFan :=
  ⟨List.length_replicate, rfl⟩

theorem isQuad_ofQuad (space : Space K) (rect : Rect K) (pivot : Point K) (depth : K)
    (m : Material) : (ofQuad (space.quad rect pivot depth) m).IsQuad := by
  refine ⟨rfl, rfl, ?_⟩
  simp [ofQuad, Quad.vertices, Space.quad]

end Mesh

/-! ## Motions -/

namespace Motion

variable {rotation? : Option (Rotation K)} {sweep? : Option (Sweep K)} {shift? : Option (Shift K)}

theorem count_views_le (m : Motion K) :
    [m.rotation?.isSome, m.sweep?.isSome, m.shift?.isSome].count true ≤ 1 := by
  cases m <;> simp [Motion.rotation?, Motion.sweep?, Motion.shift?]

theorem eq_of_views {m n : Motion K} (hrotation : m.rotation? = n.rotation?)
    (hsweep : m.sweep? = n.sweep?) (hshift : m.shift? = n.shift?) : m = n := by
  cases m <;> cases n <;>
    simp_all [Motion.rotation?, Motion.sweep?, Motion.shift?]

/-- Three optional movements are the views of a motion if and only if one at most is given, and
then of that motion only. -/
theorem existsUnique_views_iff :
    (∃! m : Motion K, m.rotation? = rotation? ∧ m.sweep? = sweep? ∧ m.shift? = shift?) ↔
      [rotation?.isSome, sweep?.isSome, shift?.isSome].count true ≤ 1 := by
  constructor
  · rintro ⟨m, ⟨rfl, rfl, rfl⟩, -⟩
    exact m.count_views_le
  · intro hcount
    have hviews : ∃ m : Motion K,
        m.rotation? = rotation? ∧ m.sweep? = sweep? ∧ m.shift? = shift? := by
      rcases rotation? with _ | r <;> rcases sweep? with _ | s <;> rcases shift? with _ | t
      case none.none.none => exact ⟨still, rfl, rfl, rfl⟩
      case none.none.some => exact ⟨scrolling t, rfl, rfl, rfl⟩
      case none.some.none => exact ⟨sweeping s, rfl, rfl, rfl⟩
      case some.none.none => exact ⟨turning r, rfl, rfl, rfl⟩
      all_goals simp at hcount
    obtain ⟨m, hrotation, hsweep, hshift⟩ := hviews
    refine ⟨m, ⟨hrotation, hsweep, hshift⟩, fun n hn => eq_of_views ?_ ?_ ?_⟩
    · exact hn.1.trans hrotation.symm
    · exact hn.2.1.trans hsweep.symm
    · exact hn.2.2.trans hshift.symm

end Motion

/-! ## Elements -/

/-- Neither a gauge that scrolls nor a timetable. -/
def ElementKind.Plain (kind : ElementKind) : Prop := kind ≠ .linearGauge ∧ kind ≠ .timetable

instance (kind : ElementKind) : Decidable kind.Plain :=
  inferInstanceAs (Decidable (kind ≠ .linearGauge ∧ kind ≠ .timetable))

namespace Element

variable [Arith K]

/-- The only state of the element is the fan of a sweep, which shows no texture. -/
def ShowsFan (e : Element K) : Prop :=
  ∃ state, e.states = [state] ∧ state.mesh.IsFan ∧ state.mesh.material.daytime? = none ∧
    state.mesh.material.nighttime? = none

/-- An element whose parts go together. -/
structure Sound (e : Element K) : Prop where
  states : e.states ≠ []
  current : e.current = 0
  meshes : ∀ state ∈ e.states, state.mesh.IsQuad ∨ state.mesh.IsFan
  closed : ∀ state ∈ e.states, state.mesh.Closed
  motions : [e.motion.rotation?.isSome, e.motion.sweep?.isSome, e.motion.shift?.isSome].count true
    ≤ 1
  sweep : e.motion.sweep?.isSome = true ↔ e.ShowsFan
  shift : e.motion.shift?.isSome = true ↔ e.kind = .linearGauge
  timetable : e.timetable = true ↔ e.kind = .timetable
  selected : 1 < e.states.length → e.stateFunction?.isSome = true

/-- An element of quads goes with any motion but a sweep. -/
theorem Sound.ofQuads {e : Element K} (hstates : e.states ≠ []) (hcurrent : e.current = 0)
    (hquads : ∀ state ∈ e.states, state.mesh.IsQuad) (hsweep : e.motion.sweep? = none)
    (hshift : e.motion.shift?.isSome = true ↔ e.kind = .linearGauge)
    (htimetable : e.timetable = true ↔ e.kind = .timetable)
    (hselected : 1 < e.states.length → e.stateFunction?.isSome = true) : e.Sound where
  states := hstates
  current := hcurrent
  meshes state hstate := .inl (hquads state hstate)
  closed state hstate := (hquads state hstate).closed
  motions := e.motion.count_views_le
  sweep := by
    rw [hsweep]
    refine iff_of_false Bool.false_ne_true fun ⟨state, hstate, hfan, _⟩ => ?_
    exact (hquads state (by rw [hstate]; exact List.mem_singleton_self state)).not_isFan hfan
  shift := hshift
  timetable := htimetable
  selected := hselected

variable {kind : ElementKind} {state : ElementState K}

/-- A quad that does not move. -/
theorem sound_single (hkind : kind.Plain) (hquad : state.mesh.IsQuad) :
    (single kind state).Sound :=
  .ofQuads (List.cons_ne_nil _ _) rfl (List.forall_mem_singleton.mpr hquad) rfl
    (iff_of_false Bool.false_ne_true hkind.1) (iff_of_false Bool.false_ne_true hkind.2)
    fun h => absurd h (Nat.lt_irrefl 1)

/-- Quads of which an expression selects one. -/
theorem sound_frames {states : List (ElementState K)} (function : Expr K) (hkind : kind.Plain)
    (hstates : states ≠ []) (hquads : ∀ state ∈ states, state.mesh.IsQuad) :
    Sound ⟨kind, states, 0, some function, .still, false⟩ :=
  .ofQuads hstates rfl hquads rfl (iff_of_false Bool.false_ne_true hkind.1)
    (iff_of_false Bool.false_ne_true hkind.2) fun _ => rfl

/-- A quad that an expression shows or hides. -/
theorem sound_selectedBy (function : Expr K) (hkind : kind.Plain) (hquad : state.mesh.IsQuad) :
    ((single kind state).selectedBy function).Sound :=
  sound_frames function hkind (List.cons_ne_nil _ _) (List.forall_mem_singleton.mpr hquad)

theorem sound_turning (r : Rotation K) (hkind : kind.Plain) (hquad : state.mesh.IsQuad) :
    ((single kind state).moving (.turning r)).Sound :=
  .ofQuads (List.cons_ne_nil _ _) rfl (List.forall_mem_singleton.mpr hquad) rfl
    (iff_of_false Bool.false_ne_true hkind.1) (iff_of_false Bool.false_ne_true hkind.2)
    fun h => absurd h (Nat.lt_irrefl 1)

theorem sound_scrolling (s : Shift K) (hquad : state.mesh.IsQuad) :
    ((single .linearGauge state).moving (.scrolling s)).Sound :=
  .ofQuads (List.cons_ne_nil _ _) rfl (List.forall_mem_singleton.mpr hquad) rfl
    (iff_of_true rfl rfl) (iff_of_false Bool.false_ne_true nofun)
    fun h => absurd h (Nat.lt_irrefl 1)

theorem sound_timetable (function : Expr K) (hquad : state.mesh.IsQuad) :
    Sound { (single .timetable state).selectedBy function with timetable := true } :=
  .ofQuads (List.cons_ne_nil _ _) rfl (List.forall_mem_singleton.mpr hquad) rfl
    (iff_of_false Bool.false_ne_true nofun) (iff_of_true rfl rfl) fun _ => rfl

/-- A fan without textures that a sweep fills. -/
theorem sound_sweeping (offset : Vec K) (tint : Rgba) (s : Sweep K) (hkind : kind.Plain) :
    ((single kind ⟨offset, .sweepFan (.plain none none tint)⟩).moving (.sweeping s)).Sound where
  states := List.cons_ne_nil _ _
  current := rfl
  meshes := List.forall_mem_singleton.mpr (.inr (Mesh.isFan_sweepFan _))
  closed := List.forall_mem_singleton.mpr (Mesh.isFan_sweepFan _).closed
  motions := Motion.count_views_le _
  sweep := iff_of_true rfl ⟨_, rfl, Mesh.isFan_sweepFan _, rfl, rfl⟩
  shift := iff_of_false Bool.false_ne_true hkind.1
  timetable := iff_of_false Bool.false_ne_true hkind.2
  selected h := absurd h (Nat.lt_irrefl 1)

end Element

end DriverDesk
