import DriverDesk.Proofs.Requests
import DriverDesk.Proofs.StateOrder

/-!
# What states wear

Where the size of every texture that is granted is known, the states that builders give
show all textures that were granted and no others, in the order of the requests: the state
of a request follows it, and wears the texture with the transparent colour it was
registered with.
-/

namespace DriverDesk

open Build

variable {K σ : Type}

/-- The textures of a material, the daytime texture first. -/
def Material.handles (m : Material) : List TextureId := m.daytime?.toList ++ m.nighttime?.toList

/-- The textures of a material are those of some requests, and its transparent colour is
that of the daytime texture. -/
inductive Material.Wears (m : Material) : List Registration → Prop
  | nothing (hday : m.daytime? = none) (hnight : m.nighttime? = none) (hkey : m.key? = none) :
      Wears m []
  | day {d : Registration} {id : TextureId} (hid : d.id? = some id) (hday : m.daytime? = some id)
      (hnight : m.nighttime? = none) (hkey : m.key? = d.params.key?) : Wears m [d]
  | both {d n : Registration} {id id' : TextureId} (hid : d.id? = some id)
      (hid' : n.id? = some id') (hparams : n.params = d.params) (hday : m.daytime? = some id)
      (hnight : m.nighttime? = some id') (hkey : m.key? = d.params.key?) : Wears m [d, n]

/-- The states wear, one after the other, the textures of the requests that were granted. -/
inductive Dressed : List (ElementState K) → List Registration → Prop
  | nil : Dressed [] []
  | refused {states : List (ElementState K)} {r : Registration} {rs : List Registration}
      (hr : r.id? = none) (h : Dressed states rs) : Dressed states (r :: rs)
  | cons {state : ElementState K} {states : List (ElementState K)} {worn rs : List Registration}
      (hworn : state.mesh.material.Wears worn) (h : Dressed states rs) :
      Dressed (state :: states) (worn ++ rs)

/-- The textures of a material were registered as it says. -/
structure Material.RegisteredIn (m : Material) (log : List Registration) : Prop where
  bare : m.daytime? = none → m.nighttime? = none ∧ m.key? = none
  day : ∀ id, m.daytime? = some id → ∃ d ∈ log, d.id? = some id ∧ m.key? = d.params.key? ∧
    ∀ id', m.nighttime? = some id' → ∃ n ∈ log, n.id? = some id' ∧ n.params = d.params

theorem Material.Wears.registeredIn {m : Material} {worn log : List Registration}
    (h : m.Wears worn) (hsub : worn ⊆ log) : m.RegisteredIn log := by
  cases h with
  | nothing hday hnight hkey =>
    exact ⟨fun _ => ⟨hnight, hkey⟩, fun id h => by rw [hday] at h; cases h⟩
  | @day d id hid hday hnight hkey =>
    refine ⟨fun h => (by rw [hday] at h; cases h), fun id' h => ⟨d, hsub (by simp), ?_, hkey, ?_⟩⟩
    · rw [hid, ← hday, h]
    · intro id' h; rw [hnight] at h; cases h
  | @both d n id id' hid hid' hparams hday hnight hkey =>
    refine ⟨fun h => (by rw [hday] at h; cases h), fun id h => ⟨d, hsub (by simp), ?_, hkey, ?_⟩⟩
    · rw [hid, ← hday, h]
    · intro id h
      exact ⟨n, hsub (by simp), by rw [hid', ← hnight, h], hparams⟩

theorem Material.Wears.handles_eq {m : Material} {worn : List Registration} (h : m.Wears worn) :
    m.handles = worn.filterMap (·.id?) := by
  cases h with
  | nothing hday hnight _ => simp [handles, hday, hnight]
  | day hid hday hnight _ => simp [handles, hday, hnight, hid]
  | both hid hid' _ hday hnight _ => simp [handles, hday, hnight, hid, hid']

namespace Dressed

variable {states states₁ states₂ : List (ElementState K)} {rs rs₁ rs₂ : List Registration}

theorem append (h₁ : Dressed states₁ rs₁) (h₂ : Dressed states₂ rs₂) :
    Dressed (states₁ ++ states₂) (rs₁ ++ rs₂) := by
  induction h₁ with
  | nil => exact h₂
  | refused hr _ ih => exact .refused hr ih
  | cons hworn _ ih => rw [List.append_assoc]; exact .cons hworn ih

/-- The textures of the states are those that were granted, in the order of the requests. -/
theorem handles_eq (h : Dressed states rs) :
    states.flatMap (·.mesh.material.handles) = rs.filterMap (·.id?) := by
  induction h with
  | nil => rfl
  | refused hr _ ih => rw [ih, List.filterMap_cons, hr]
  | cons hworn _ ih => rw [List.flatMap_cons, List.filterMap_append, ih, hworn.handles_eq]

theorem wears_of_mem (h : Dressed states rs) {state : ElementState K} (hstate : state ∈ states) :
    ∃ worn, worn ⊆ rs ∧ state.mesh.material.Wears worn := by
  induction h with
  | nil => cases hstate
  | refused _ _ ih =>
    obtain ⟨worn, hsub, hworn⟩ := ih hstate
    exact ⟨worn, List.subset_cons_of_subset _ hsub, hworn⟩
  | cons hworn _ ih =>
    rcases List.mem_cons.mp hstate with rfl | hstate
    · exact ⟨_, List.subset_append_left _ _, hworn⟩
    · obtain ⟨worn, hsub, hworn⟩ := ih hstate
      exact ⟨worn, List.subset_append_of_subset_right _ hsub, hworn⟩

end Dressed

/-! ## Stores that know their textures -/

/-- The size of every texture that is granted is known. -/
def TextureStore.Sized (store : TextureStore σ) : Prop :=
  ∀ t path params id, (store.register t path params).1 = some id →
    (store.size? (store.register t path params).2 id).isSome = true

/-- A request that does not load was refused. -/
theorem TextureStore.Sized.refused {store : TextureStore σ} (hsized : store.Sized) {t : σ}
    {r : Registration} (hanswers : store.Answers t [r]) (hloads : ¬ store.Loads t r) :
    r.id? = none := by
  cases hid : r.id? with
  | none => rfl
  | some id => exact absurd ⟨id, hid, hsized t r.path r.params id (hanswers.1 ▸ hid)⟩ hloads

namespace Build

/-- Requests, and a value whose states wear what was granted. -/
def Dresses {α : Type} (states : α → List (ElementState K)) (a : α) (rs : List Registration) :
    Prop := Dressed (states a) rs

/-- A value with one state, of the textures and the transparent colour. -/
def Poses {α : Type} (states : α → List (ElementState K)) (day : TextureId)
    (night? : Option TextureId) (key? : Option Rgb) (a : α) : Prop :=
  ∃ state, states a = [state] ∧ state.mesh.material.daytime? = some day ∧
    state.mesh.material.nighttime? = night? ∧ state.mesh.material.key? = key?

section

variable [Arith K] {α : Type} {env : BuildEnv K σ} {t : σ} {states : α → List (ElementState K)}
  (hsized : env.store.Sized)
include hsized

/-- What follows the daytime texture of a state. -/
theorem Asks.bindDay {s : Section} {path : Path} {params : TextureParams}
    {f : Option (TextureId × Point K) → Build K σ α}
    (hnone : ∀ t', Asks env t' (f none) (Dresses states))
    (hsome : ∀ (d : Registration) (id : TextureId) (size : Point K) (t' : σ), d.params = params →
      d.id? = some id →
        Asks env t' (f (some (id, size))) fun a rs => Dressed (states a) (d :: rs)) :
    Asks env t (texture s path params >>= f) (Dresses states) := by
  refine (texture_asks s path params).answered.bind fun found? rs h => ?_
  obtain ⟨⟨d, rfl, hpath, hparams, hfound, hnothing⟩, hanswers⟩ := h
  cases found? with
  | none => exact (hnone _).mono fun a rs h => .refused (hsized.refused hanswers (hnothing rfl)) h
  | some found => exact hsome d found.1 found.2 _ hparams (hfound found.1 found.2 rfl).1

/-- What follows the nighttime texture of a state. -/
theorem Asks.bindNight {s : Section} {path? : Option Path} {d : Registration} {id : TextureId}
    {params : TextureParams} {f : Option TextureId → Build K σ α} (hparams : d.params = params)
    (hid : d.id? = some id)
    (h : ∀ night? t', Asks env t' (f night?)
      (Quietly (Poses states id night? params.key?))) :
    Asks env t (optionalTexture s path? params >>= f) fun a rs => Dressed (states a) (d :: rs) := by
  subst hparams
  refine (optionalTexture_asks s path? d.params).answered.bind fun night? rs hnight => ?_
  obtain ⟨⟨n?, rfl, -, hasked, hfound, hnothing⟩, hanswers⟩ := hnight
  refine (h night? _).mono fun a rs ⟨hrs, state, hstates, hday, hnight, hkey⟩ => ?_
  subst hrs
  rw [hstates, List.append_nil]
  cases night? with
  | none =>
    have hworn := Material.Wears.day hid hday hnight hkey
    cases n? with
    | none => exact .cons hworn .nil
    | some n => exact .cons hworn (.refused (hsized.refused hanswers (hnothing rfl n rfl)) .nil)
  | some id' =>
    obtain ⟨n, rfl, hid', -⟩ := hfound id' rfl
    exact .cons (.both hid hid' (hasked n rfl).2 hday hnight hkey) .nil

end

end Build

end DriverDesk
