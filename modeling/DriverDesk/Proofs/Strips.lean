import DriverDesk.Proofs.Placement
import DriverDesk.Proofs.Requests

/-!
# Strips of frames

An instrument whose frames stand in a sheet asks the store for one frame after the
other, and stops at the first that cannot be loaded. `Reel` ties what it asked for to
the states it has: the state of a number shows the frame of that number.
-/

namespace DriverDesk

open Build

variable {K σ : Type}

/-- The requests for one frame: its daytime texture, and possibly a nighttime one. -/
structure FrameRequest where
  day : Registration
  night? : Option Registration

namespace FrameRequest

def requests (r : FrameRequest) : List Registration := r.day :: r.night?.toList

/-- A state has the textures that were registered for the frame. -/
structure ShownBy (r : FrameRequest) (state : ElementState K) : Prop where
  day : state.mesh.material.daytime? = r.day.id?
  night : ∀ id, state.mesh.material.nighttime? = some id → ∃ n, r.night? = some n ∧ n.id? = some id

end FrameRequest

/-- What is asked for the frames of a strip, from the state `t` of the store on, and the
states that are had of them. -/
structure Reel (store : TextureStore σ) (t : σ) (frames : Nat)
    (Asked : Nat → FrameRequest → Prop) (log : List FrameRequest)
    (states : List (ElementState K)) : Prop where
  asked : ∀ (k : Nat) (r : FrameRequest), log[k]? = some r → Asked k r
  /-- There are as many states as frames in front of the first that is not loaded. -/
  loads : ∀ (k : Nat) (r : FrameRequest), log[k]? = some r →
    (store.Loads (store.after t ((log.take k).flatMap (·.requests))) r.day ↔ k < states.length)
  /-- That frame is the last that is asked for. -/
  length : log.length = min frames (states.length + 1)
  within : states.length ≤ frames
  unlit : ∀ (k : Nat) (r : FrameRequest), log[k]? = some r → states.length ≤ k → r.night? = none
  shown : ∀ (k : Nat) (r : FrameRequest) (state : ElementState K), log[k]? = some r →
    states[k]? = some state → r.ShownBy state

namespace Reel

variable {store : TextureStore σ} {t : σ} {frames : Nat} {Asked : Nat → FrameRequest → Prop}
  {log : List FrameRequest} {states : List (ElementState K)} {r : FrameRequest}

theorem nil : Reel (K := K) store t 0 Asked [] [] where
  asked _ _ h := by cases h
  loads _ _ h := by cases h
  length := rfl
  within := Nat.le_refl 0
  unlit _ _ h := by cases h
  shown _ _ _ h := by cases h

theorem imp {Asked' : Nat → FrameRequest → Prop} (h : Reel store t frames Asked log states)
    (hasked : ∀ k, k < frames → ∀ r, Asked k r → Asked' k r) :
    Reel store t frames Asked' log states where
  asked k r hr := by
    have hk : k < log.length := (List.getElem?_eq_some_iff.mp hr).1
    have := h.length
    exact hasked k (by omega) r (h.asked k r hr)
  loads := h.loads
  length := h.length
  within := h.within
  unlit := h.unlit
  shown := h.shown

/-- A strip whose first frame is not loaded. -/
theorem stop (hasked : Asked 0 r) (hnight : r.night? = none) (hloads : ¬ store.Loads t r.day) :
    Reel (K := K) store t (frames + 1) Asked [r] [] := by
  have only {k : Nat} {q : FrameRequest} (h : [r][k]? = some q) : k = 0 ∧ q = r := by
    cases k with
    | zero => cases h; exact ⟨rfl, rfl⟩
    | succ k => cases h
  constructor
  case asked => intro k q h; obtain ⟨rfl, rfl⟩ := only h; exact hasked
  case loads =>
    intro k q h
    obtain ⟨rfl, rfl⟩ := only h
    exact iff_of_false hloads (Nat.not_lt_zero 0)
  case length => simp
  case within => exact Nat.zero_le _
  case unlit => intro k q h _; obtain ⟨rfl, rfl⟩ := only h; exact hnight
  case shown => intro k q state _ h; cases h

/-- A frame in front of a strip. -/
theorem cons {state : ElementState K} (hasked : Asked 0 r) (hloads : store.Loads t r.day)
    (hshown : r.ShownBy state)
    (h : Reel store (store.after t r.requests) frames (fun k => Asked (k + 1)) log states) :
    Reel store t (frames + 1) Asked (r :: log) (state :: states) := by
  constructor
  case asked =>
    intro k q hq
    cases k with
    | zero => cases hq; exact hasked
    | succ k => exact h.asked k q hq
  case loads =>
    intro k q hq
    cases k with
    | zero => cases hq; exact iff_of_true hloads (Nat.zero_lt_succ _)
    | succ k =>
      rw [List.take_succ_cons, List.flatMap_cons, store.after_append, h.loads k q hq,
        List.length_cons, Nat.add_lt_add_iff_right]
  case length => have := h.length; simp only [List.length_cons]; omega
  case within => have := h.within; simp only [List.length_cons]; omega
  case unlit =>
    intro k q hq hk
    cases k with
    | zero => cases hk
    | succ k => exact h.unlit k q hq (Nat.le_of_succ_le_succ hk)
  case shown =>
    intro k q st hq hst
    cases k with
    | zero => cases hq; cases hst; exact hshown
    | succ k => exact h.shown k q st hq hst

end Reel

/-! ## One frame after the other -/

/-- What may come of a frame: a state that shows it, or a request in vain. -/
def FrameRequest.Gives (store : TextureStore σ) (t : σ) (Asked : FrameRequest → Prop)
    (Posed : ElementState K → Prop) : Option (ElementState K) → List Registration → Prop
  | some state, rs => ∃ r : FrameRequest, rs = r.requests ∧ Asked r ∧ store.Loads t r.day ∧
      r.ShownBy state ∧ Posed state
  | none, rs => ∃ r : FrameRequest, rs = r.requests ∧ Asked r ∧ ¬ store.Loads t r.day ∧
      r.night? = none

theorem FrameRequest.Gives.imp {store : TextureStore σ} {t : σ} {Asked Asked' : FrameRequest → Prop}
    {Posed Posed' : ElementState K → Prop} (hasked : ∀ r, Asked r → Asked' r)
    (hposed : ∀ state, Posed state → Posed' state) :
    ∀ state? rs, Gives store t Asked Posed state? rs → Gives store t Asked' Posed' state? rs
  | some state, _, ⟨r, hrs, hr, hloads, hshown, hstate⟩ =>
    ⟨r, hrs, hasked r hr, hloads, hshown, hposed state hstate⟩
  | none, _, ⟨r, hrs, hr, hrest⟩ => ⟨r, hrs, hasked r hr, hrest⟩

theorem FrameRequest.Gives.anywhere {store : TextureStore σ} {t : σ} {Asked : FrameRequest → Prop}
    {Posed : ElementState K → Prop} (state? : Option (ElementState K)) (rs : List Registration)
    (h : Gives store t Asked Posed state? rs) :
    Gives store t (fun r => Asked r ∧ True) Posed state? rs :=
  h.imp (fun _ hr => ⟨hr, trivial⟩) (fun _ => id) state? rs

/-- The steps of a strip whose first state has an index. -/
def stripSteps (first : ElementState K → Element K) (index : Nat)
    (states : List (ElementState K)) : List (Step K) :=
  (states.zipIdx index).map fun p => if p.2 = 0 then .element (first p.1) else .state p.1

/-- Each request of a strip has `At`, with the state of the store that it is made in. -/
def FrameRequest.Along (store : TextureStore σ) (At : Nat → σ → FrameRequest → Prop) (t : σ)
    (log : List FrameRequest) : Prop :=
  ∀ (k : Nat) (r : FrameRequest), log[k]? = some r →
    At k (store.after t ((log.take k).flatMap (·.requests))) r

theorem FrameRequest.Along.nil {store : TextureStore σ} {At : Nat → σ → FrameRequest → Prop}
    {t : σ} : Along store At t [] := fun _ _ h => by cases h

theorem FrameRequest.Along.cons {store : TextureStore σ} {At : Nat → σ → FrameRequest → Prop}
    {t : σ} {r : FrameRequest} {log : List FrameRequest} (h : At 0 t r)
    (hrest : Along store (fun k => At (k + 1)) (store.after t r.requests) log) :
    Along store At t (r :: log) := by
  intro k q hq
  cases k with
  | zero => cases hq; exact h
  | succ k =>
    rw [List.take_succ_cons, List.flatMap_cons, store.after_append]
    exact hrest k q hq

theorem strip_asks_along {env : BuildEnv K σ} {t : σ}
    {frame : Nat → Build K σ (Option (ElementState K))} {first : ElementState K → Element K}
    {Asked : Nat → FrameRequest → Prop} {At : Nat → σ → FrameRequest → Prop}
    {Posed : ElementState K → Prop} {count index : Nat}
    (hframe : ∀ k, k < count → ∀ t', Asks env t' (frame (index + k))
      (FrameRequest.Gives env.store t' (fun r => Asked k r ∧ At k t' r) Posed)) :
    Asks env t (strip frame first count index) fun steps rs =>
      ∃ (log : List FrameRequest) (states : List (ElementState K)),
        rs = log.flatMap (·.requests) ∧ Reel env.store t count Asked log states ∧
        FrameRequest.Along env.store At t log ∧
        (∀ state ∈ states, Posed state) ∧ steps = stripSteps first index states := by
  induction count generalizing t index Asked At with
  | zero => exact .pure ⟨[], [], rfl, .nil, .nil, nofun, rfl⟩
  | succ count ih =>
    refine (hframe 0 (Nat.zero_lt_succ _) t).bind fun state? rs h => ?_
    cases state? with
    | none =>
      obtain ⟨r, rfl, ⟨hasked, hat⟩, hloads, hnight⟩ := h
      refine .pure ⟨[r], [], ?_, .stop hasked hnight hloads, .cons hat .nil, nofun, rfl⟩
      rw [List.flatMap_singleton, List.append_nil]
    | some state =>
      obtain ⟨r, rfl, ⟨hasked, hat⟩, hloads, hshown, hposed⟩ := h
      have hrest : ∀ k, k < count → ∀ t', Asks env t' (frame (index + 1 + k))
          (FrameRequest.Gives env.store t' (fun r => Asked (k + 1) r ∧ At (k + 1) t' r) Posed) := by
        intro k hk t'
        rw [show index + 1 + k = index + (k + 1) by omega]
        exact hframe (k + 1) (by omega) t'
      refine (ih hrest).bind fun steps rs h => .pure ?_
      obtain ⟨log, states, rfl, hreel, halong, hall, rfl⟩ := h
      refine ⟨r :: log, state :: states, by simp, .cons hasked hloads hshown hreel,
        .cons hat halong, ?_, rfl⟩
      exact List.forall_mem_cons.mpr ⟨hposed, hall⟩

theorem strip_asks {env : BuildEnv K σ} {t : σ} {frame : Nat → Build K σ (Option (ElementState K))}
    {first : ElementState K → Element K} {Asked : Nat → FrameRequest → Prop}
    {Posed : ElementState K → Prop} {count index : Nat}
    (hframe : ∀ k, k < count → ∀ t',
      Asks env t' (frame (index + k)) (FrameRequest.Gives env.store t' (Asked k) Posed)) :
    Asks env t (strip frame first count index) fun steps rs =>
      ∃ (log : List FrameRequest) (states : List (ElementState K)),
        rs = log.flatMap (·.requests) ∧ Reel env.store t count Asked log states ∧
        (∀ state ∈ states, Posed state) ∧ steps = stripSteps first index states := by
  refine (strip_asks_along fun k hk t' => (hframe k hk t').mono .anywhere).mono fun steps rs h => ?_
  obtain ⟨log, states, hrs, hreel, -, hposed, hsteps⟩ := h
  exact ⟨log, states, hrs, hreel, hposed, hsteps⟩

/-! ## The element of a strip -/

/-- The element that shows the frames of a strip, if there are any. -/
def Element.ofFrames (kind : ElementKind) (function : Expr K) :
    List (ElementState K) → List (Element K)
  | [] => []
  | states@(_ :: _) => [⟨kind, states, 0, some function, .still, false⟩]

theorem Step.placeAll_states (e : Element K) (states : List (ElementState K)) :
    Step.placeAll [e] (states.map .state) = [{ e with states := e.states ++ states }] := by
  induction states generalizing e with
  | nil => simp
  | cons state states ih => simp [Step.place, Element.addState, ih]

theorem stripSteps_cons (first : ElementState K → Element K) (state : ElementState K)
    (states : List (ElementState K)) :
    stripSteps first 0 (state :: states) = .element (first state) :: states.map .state := by
  have hrest : (states.zipIdx 1).map (fun p => if p.2 = 0 then .element (first p.1)
      else .state p.1) = states.map Step.state := by
    rw [← List.zipIdx_map_fst 1 states, List.map_map, List.zipIdx_map_fst]
    refine List.map_congr_left fun p hp => if_neg ?_
    have := List.le_snd_of_mem_zipIdx hp
    omega
  rw [stripSteps, List.zipIdx_cons, List.map_cons, if_pos rfl, hrest]

theorem assembled_stripSteps (first : ElementState K → Element K) (states : List (ElementState K)) :
    Step.Assembled (fun _ => True) (stripSteps first 0 states) := by
  cases states with
  | nil => exact .nil
  | cons state states =>
    rw [stripSteps_cons]
    exact .single trivial states

theorem made_stripSteps (kind : ElementKind) (function : Expr K) (states : List (ElementState K)) :
    Step.made (stripSteps (fun state => (Element.single kind state).selectedBy function) 0 states) =
      Element.ofFrames kind function states := by
  cases states with
  | nil => rfl
  | cons state states =>
    rw [stripSteps_cons]
    exact Step.placeAll_states _ states

/-- A state has the place and the vertices of a quad. -/
structure ElementState.Stands (quad : Quad K) (state : ElementState K) : Prop where
  offset : state.offset = quad.offset
  vertices : state.mesh.vertices = quad.vertices

/-- All states have one place and the same vertices. -/
def ElementState.StandAlike (states : List (ElementState K)) : Prop :=
  ∀ s₁ ∈ states, ∀ s₂ ∈ states,
    s₁.offset = s₂.offset ∧ s₁.mesh.vertices = s₂.mesh.vertices

theorem ElementState.standAlike_of_stands (quad : Quad K)
    (states : List (ElementState K)) (h : ∀ state ∈ states, state.Stands quad) :
    StandAlike states := fun s₁ h₁ s₂ h₂ =>
  ⟨(h s₁ h₁).offset.trans (h s₂ h₂).offset.symm, (h s₁ h₁).vertices.trans (h s₂ h₂).vertices.symm⟩

/-- Steps that make the element of one strip, and the requests for it. -/
def MakesStrip (store : TextureStore σ) (t : σ) (kind : ElementKind) (frames : Nat)
    (Asked : Nat → FrameRequest → Prop) (Placed : List (ElementState K) → Prop)
    (steps : List (Step K)) (rs : List Registration) : Prop :=
  ∃ (log : List FrameRequest) (states : List (ElementState K)) (function : Expr K),
    rs = log.flatMap (·.requests) ∧ Reel store t frames Asked log states ∧ Placed states ∧
    Step.Assembled (fun _ => True) steps ∧
    Step.made steps = Element.ofFrames kind function states

theorem MakesStrip.none {store : TextureStore σ} {t : σ} {kind : ElementKind} {frames : Nat}
    {Asked : Nat → FrameRequest → Prop} {Placed : List (ElementState K) → Prop}
    (hframes : frames = 0) (hplaced : Placed []) :
    MakesStrip store t kind frames Asked Placed [] [] := by
  subst hframes
  exact ⟨[], [], [], rfl, .nil, hplaced, .nil, rfl⟩

/-- Steps that make the element of one strip, and the requests for it, each of which has `At`. -/
def MakesStripAlong (store : TextureStore σ) (t : σ) (kind : ElementKind) (frames : Nat)
    (Asked : Nat → FrameRequest → Prop) (At : Nat → σ → FrameRequest → Prop)
    (Placed : List (ElementState K) → Prop) (steps : List (Step K)) (rs : List Registration) :
    Prop :=
  ∃ (log : List FrameRequest) (states : List (ElementState K)) (function : Expr K),
    rs = log.flatMap (·.requests) ∧ Reel store t frames Asked log states ∧
    FrameRequest.Along store At t log ∧ Placed states ∧ Step.Assembled (fun _ => True) steps ∧
    Step.made steps = Element.ofFrames kind function states

theorem MakesStripAlong.none {store : TextureStore σ} {t : σ} {kind : ElementKind} {frames : Nat}
    {Asked : Nat → FrameRequest → Prop} {At : Nat → σ → FrameRequest → Prop}
    {Placed : List (ElementState K) → Prop} (hframes : frames = 0) (hplaced : Placed []) :
    MakesStripAlong store t kind frames Asked At Placed [] [] := by
  subst hframes
  exact ⟨[], [], [], rfl, .nil, .nil, hplaced, .nil, rfl⟩

theorem MakesStripAlong.makesStrip {store : TextureStore σ} {t : σ} {kind : ElementKind}
    {frames : Nat} {Asked : Nat → FrameRequest → Prop} {At : Nat → σ → FrameRequest → Prop}
    {Placed : List (ElementState K) → Prop} {steps : List (Step K)} {rs : List Registration}
    (h : MakesStripAlong store t kind frames Asked At Placed steps rs) :
    MakesStrip store t kind frames Asked Placed steps rs := by
  obtain ⟨log, states, function, hrs, hreel, -, hrest⟩ := h
  exact ⟨log, states, function, hrs, hreel, hrest⟩

/-- A strip makes the element of its states. -/
theorem strip_makes_along {env : BuildEnv K σ} {t : σ}
    {frame : Nat → Build K σ (Option (ElementState K))} {kind : ElementKind} {function : Expr K}
    {Asked : Nat → FrameRequest → Prop} {At : Nat → σ → FrameRequest → Prop} {frames : Nat}
    {Placed : List (ElementState K) → Prop} (Posed : ElementState K → Prop)
    (hframe : ∀ k, k < frames → ∀ t', Asks env t' (frame k)
      (FrameRequest.Gives env.store t' (fun r => Asked k r ∧ At k t' r) Posed))
    (hplaced : ∀ states, (∀ state ∈ states, Posed state) → Placed states) :
    Asks env t
      (strip frame (fun state => (Element.single kind state).selectedBy function) frames 0)
      (MakesStripAlong env.store t kind frames Asked At Placed) := by
  have hframe₀ : ∀ k, k < frames → ∀ t', Asks env t' (frame (0 + k))
      (FrameRequest.Gives env.store t' (fun r => Asked k r ∧ At k t' r) Posed) :=
    fun k hk t' => (Nat.zero_add k).symm ▸ hframe k hk t'
  refine (strip_asks_along hframe₀).mono fun steps rs h => ?_
  obtain ⟨log, states, hrs, hreel, halong, hposed, rfl⟩ := h
  exact ⟨log, states, function, hrs, hreel, halong, hplaced states hposed,
    assembled_stripSteps .., made_stripSteps ..⟩

theorem strip_makes {env : BuildEnv K σ} {t : σ} {frame : Nat → Build K σ (Option (ElementState K))}
    {kind : ElementKind} {function : Expr K} {Asked : Nat → FrameRequest → Prop} {frames : Nat}
    {Placed : List (ElementState K) → Prop} (Posed : ElementState K → Prop)
    (hframe : ∀ k, k < frames → ∀ t',
      Asks env t' (frame k) (FrameRequest.Gives env.store t' (Asked k) Posed))
    (hplaced : ∀ states, (∀ state ∈ states, Posed state) → Placed states) :
    Asks env t
      (strip frame (fun state => (Element.single kind state).selectedBy function) frames 0)
      (MakesStrip env.store t kind frames Asked Placed) :=
  (strip_makes_along Posed (fun k hk t' => (hframe k hk t').mono .anywhere) hplaced).mono
    fun _ _ => MakesStripAlong.makesStrip

/-- Strips of one sheet, each asked for when the one before it is done. -/
inductive Reels (store : TextureStore σ) (frames : Nat) (Asked : Nat → FrameRequest → Prop) :
    σ → List (List FrameRequest) → List (List (ElementState K)) → Prop
  | nil {t : σ} : Reels store frames Asked t [] []
  | cons {t : σ} {log : List FrameRequest} {states : List (ElementState K)}
      {logs : List (List FrameRequest)} {strips : List (List (ElementState K))}
      (first : Reel store t frames Asked log states)
      (rest : Reels store frames Asked (store.after t (log.flatMap (·.requests))) logs strips) :
      Reels store frames Asked t (log :: logs) (states :: strips)

namespace Reels

variable {store : TextureStore σ} {t : σ} {frames : Nat} {Asked : Nat → FrameRequest → Prop}
  {logs : List (List FrameRequest)} {strips : List (List (ElementState K))}

theorem imp {Asked' : Nat → FrameRequest → Prop} (h : Reels store frames Asked t logs strips)
    (hasked : ∀ k, k < frames → ∀ r, Asked k r → Asked' k r) :
    Reels store frames Asked' t logs strips := by
  induction h with
  | nil => exact .nil
  | cons first rest ih => exact .cons (first.imp hasked) ih

theorem within (h : Reels store frames Asked t logs strips) :
    ∀ states ∈ strips, states.length ≤ frames := by
  induction h with
  | nil => nofun
  | cons first rest ih => exact List.forall_mem_cons.mpr ⟨first.within, ih⟩

end Reels

/-- Steps that make an element for each of several strips of a sheet, and the requests for
them. -/
def MakesStrips (store : TextureStore σ) (t : σ) (kind : ElementKind) (functions : List (Expr K))
    (frames : Nat) (Asked : Nat → FrameRequest → Prop) (steps : List (Step K))
    (rs : List Registration) : Prop :=
  ∃ (logs : List (List FrameRequest)) (strips : List (List (ElementState K))),
    rs = logs.flatten.flatMap (·.requests) ∧ Reels store frames Asked t logs strips ∧
    strips.length = functions.length ∧ (∀ states ∈ strips, ElementState.StandAlike states) ∧
    Step.Assembled (fun _ => True) steps ∧
    Step.made steps = (List.zipWith (Element.ofFrames kind) functions strips).flatten

theorem MakesStrips.none {store : TextureStore σ} {t : σ} {kind : ElementKind}
    {functions : List (Expr K)} {frames : Nat} {Asked : Nat → FrameRequest → Prop}
    (hframes : frames = 0) : MakesStrips store t kind functions frames Asked [] [] := by
  subst hframes
  induction functions with
  | nil => exact ⟨[], [], rfl, .nil, rfl, nofun, .nil, rfl⟩
  | cons function functions ih =>
    obtain ⟨logs, strips, hrs, hreels, hlength, halike, hassembled, hmade⟩ := ih
    refine ⟨[] :: logs, [] :: strips, hrs, .cons .nil hreels, ?_, ?_, hassembled, hmade⟩
    · rw [List.length_cons, List.length_cons, hlength]
    · exact List.forall_mem_cons.mpr ⟨nofun, halike⟩

end DriverDesk
