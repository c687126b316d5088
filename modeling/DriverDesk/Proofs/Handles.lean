import DriverDesk.Host.Memory
import DriverDesk.Proofs.Commit
import DriverDesk.Proofs.Dressing
import DriverDesk.Proofs.Headers

/-!
# The textures of a compile

A compile uses every texture it was granted once: read off the elements it adds, they are
the granted ones in the order in which they were.
-/

namespace DriverDesk

open Build Step

variable {K σ : Type} {env : BuildEnv K σ} {t : σ}

/-! ## Plans -/

/-- The states of every part of a plan wear what is granted for that part. -/
def Plan.Dresses (env : BuildEnv K σ) (p : Plan K σ) : Prop :=
  ∀ part ∈ p.parts, ∀ t, Asks env t part.2 (Build.Dresses statesOf)

theorem buildWith_dresses (α : Type) [Readable α] {s : Section}
    {build : α → Section → Build K σ (List (Step K))}
    (h : ∀ a, Asks env t (build a s) (Dresses statesOf)) :
    Asks env t (buildWith α build s) (Dresses statesOf) :=
  (settings_asks α s).bindQuiet fun a _ => h a

variable [Arith K]

namespace Calibrated

theorem instrument_dresses (hsized : env.store.Sized) (space : Space K) (s : Section) :
    Asks env t (instrument space s) (Dresses statesOf) := by
  unfold instrument
  split
  · exact buildWith_dresses _ fun l => l.build_dresses hsized s space
  · exact buildWith_dresses _ fun n => n.build_dresses hsized s space
  · exact buildWith_dresses _ fun g => g.build_dresses hsized s space
  · exact buildWith_dresses _ fun d => d.build_dresses hsized s space
  · exact buildWith_dresses _ fun g => g.build_dresses s space
  · exact buildWith_dresses _ fun b => b.build_dresses s space
  · exact .pure .nil

theorem plan_asks (hsized : env.store.Sized) (sections : List Section) :
    Asks env t (plan sections) (Quietly (Plan.Dresses env)) := by
  refine Asks.read.bindQuiet fun env' _ => ?_
  refine (readHeaders_asks sections).bindQuiet fun headed _ => .pure ⟨rfl, fun p hp t' => ?_⟩
  obtain ⟨⟨s, header?⟩, -, rfl⟩ := List.mem_map.mp hp
  cases header? with
  | some h => exact h.build_dresses hsized s _ _
  | none => exact instrument_dresses hsized _ s

end Calibrated

namespace Framed

theorem instrument_dresses (hsized : env.store.Sized) (space : Space K) (s : Section) :
    Asks env t (instrument space s) (Dresses statesOf) := by
  unfold instrument
  split
  case h_1 | h_2 | h_3 | h_4 => exact buildWith_dresses _ fun g => g.build_dresses hsized s space
  case h_5 | h_6 | h_7 => exact buildWith_dresses _ fun m => m.build_dresses hsized s space
  case h_8 | h_9 => exact buildWith_dresses _ fun d => d.build_dresses hsized s space
  case h_10 | h_11 => exact buildWith_dresses _ fun l => l.build_dresses hsized s space
  case h_12 | h_13 => exact buildWith_dresses _ fun w => w.build_dresses hsized s space
  case h_14 | h_15 => exact buildWith_dresses _ fun b => b.build_dresses hsized s space
  case h_16 => exact .pure .nil

theorem plan_asks (hsized : env.store.Sized) (sections : List Section) :
    Asks env t (plan sections) (Quietly (Plan.Dresses env)) := by
  refine (plan_asks_eq sections).mono fun plan _ ⟨hrs, hplan⟩ => ⟨hrs, ?_⟩
  subst hplan
  intro part hpart t'
  obtain ⟨s, -, rfl⟩ := List.mem_map.mp hpart
  rcases heading env.read s with b | v | _
  · exact b.build_dresses hsized s _ _
  · exact .pure .nil
  · exact instrument_dresses hsized _ s

end Framed

theorem Plan.make_asks (hsized : env.store.Sized) (format : PanelFormat)
    (sections : List Section) :
    Asks env t (Plan.make format sections) (Quietly (Plan.Dresses env)) := by
  cases format with
  | calibrated => exact Calibrated.plan_asks hsized sections
  | framed => exact Framed.plan_asks hsized sections

/-! ## Stores that issue new textures -/

/-- Every texture that is granted was not issued before, and its size is known. -/
structure TextureStore.IssuesFresh (store : TextureStore σ) (issued : σ → TextureId → Prop) :
    Prop where
  fresh : ∀ t path params id, (store.register t path params).1 = some id → ¬ issued t id
  issues : ∀ t path params id, (store.register t path params).1 = some id →
    issued (store.register t path params).2 id
  keeps : ∀ t path params id, issued t id → issued (store.register t path params).2 id
  sized : store.Sized

omit [Arith K] in
/-- No texture is granted twice. -/
theorem TextureStore.IssuesFresh.nodup {store : TextureStore σ} {issued : σ → TextureId → Prop}
    (h : store.IssuesFresh issued) {t : σ} {rs : List Registration} (hrs : store.Answers t rs) :
    (rs.filterMap (·.id?)).Nodup ∧ ∀ id ∈ rs.filterMap (·.id?), ¬ issued t id := by
  induction rs generalizing t with
  | nil => exact ⟨List.nodup_nil, nofun⟩
  | cons r rs ih =>
    obtain ⟨hr, hrest⟩ := hrs
    obtain ⟨hnodup, hnew⟩ := ih hrest
    have hnew' : ∀ id ∈ rs.filterMap (·.id?), ¬ issued t id := fun id hid hissued =>
      hnew id hid (h.keeps t r.path r.params id hissued)
    cases hid : r.id? with
    | none => rw [List.filterMap_cons, hid]; exact ⟨hnodup, hnew'⟩
    | some id =>
      rw [hid] at hr
      rw [List.filterMap_cons, hid]
      refine ⟨List.nodup_cons.mpr ⟨fun hmem => ?_, hnodup⟩, List.forall_mem_cons.mpr ⟨?_, hnew'⟩⟩
      · exact hnew id hmem (h.issues t r.path r.params id hr.symm)
      · exact h.fresh t r.path r.params id hr.symm

/-- A store in memory names its textures by their places. -/
theorem Memory.issuesFresh_store (files : List MemoryFile) :
    (store files).IssuesFresh fun textures id => id < textures.length := by
  have hregister (textures : List Registered) (path : Path) (params : TextureParams) :
      (∃ new, (store files).register textures path params =
        (some textures.length, textures ++ [new])) ∨
      (store files).register textures path params = (none, textures) := by
    change (∃ new, register files textures path params = _) ∨
      register files textures path params = _
    unfold register
    split
    next size limit? _ =>
      split
      · exact .inl ⟨_, rfl⟩
      · exact .inr rfl
    · exact .inr rfl
  constructor
  case fresh =>
    intro t path params id hid
    obtain ⟨new, h⟩ | h := hregister t path params
    · rw [h] at hid; cases hid; exact Nat.lt_irrefl _
    · rw [h] at hid; cases hid
  case issues =>
    intro t path params id hid
    obtain ⟨new, h⟩ | h := hregister t path params
    · rw [h] at hid ⊢; cases hid; simp
    · rw [h] at hid; cases hid
  case keeps =>
    intro t path params id hid
    obtain ⟨new, h⟩ | h := hregister t path params
    · rw [h, List.length_append]; exact Nat.lt_add_right _ hid
    · rw [h]; exact hid
  case sized =>
    intro t path params id hid
    obtain ⟨new, h⟩ | h := hregister t path params
    · rw [h] at hid ⊢; cases hid; simp [store, Registered.sizeOf?]
    · rw [h] at hid; cases hid

namespace Compilation

omit [Arith K] in
/-- Parts that are built in turn wear what is granted for them. -/
theorem buildAll_asks {parts : List (Section × Build K σ (List (Step K)))}
    (h : ∀ part ∈ parts, ∀ t, Asks env t part.2 (Build.Dresses statesOf)) :
    Asks env t (buildAll parts) (Build.Dresses (·.flatMap statesOf)) := by
  induction parts generalizing t with
  | nil => exact .pure .nil
  | cons part parts ih =>
    obtain ⟨hpart, hparts⟩ := List.forall_mem_cons.mp h
    intro b hb
    obtain ⟨rs, hrs, hdressed⟩ := hpart t b hb
    obtain ⟨rs', hrs', hdressed'⟩ := ih hparts (part.2 env b).2 rfl
    rw [buildAll_cons]
    exact ⟨rs ++ rs', hrs.trans hrs', hdressed.append hdressed'⟩

variable (format : PanelFormat) (source : PanelSource) (options : Options K) (files : FileView)
  {store : TextureStore σ} (textures : σ)

/-- The requests of a compile are those on its bench, and the states it adds wear them. -/
theorem added_dressed (hsized : store.Sized) (signal : Signal) :
    let c := compileAs format source options files store signal textures
    Bench.Requested store ⟨textures, [], []⟩ c.bench c.bench.registrations ∧
      Dressed (c.added.flatMap (·.states)) c.bench.registrations := by
  intro c
  let env := environment source options files store
  let start := prepared format source options files store textures
  have hprepare : Asks env textures (prepare format source) (Quietly (Plan.Dresses env)) :=
    (take_asks _).bindQuiet fun _ _ => Plan.make_asks hsized format _
  obtain ⟨rs, hstart, hrs, hparts⟩ := hprepare ⟨textures, [], []⟩ rfl
  subst hrs
  have hreached : ∀ part ∈ signal.reached start.1.parts, ∀ t,
      Asks env t part.2 (Build.Dresses statesOf) :=
    fun part hpart => hparts part (List.mem_filter.mp hpart).1
  obtain ⟨rs, hrs, hdressed⟩ := buildAll_asks hreached start.2 rfl
  have hbuilt : (c.batches, c.bench) = buildAll (signal.reached start.1.parts) env start.2 :=
    compileAs_built format source options files store textures signal
  rw [← hbuilt] at hrs hdressed
  have hrequested := hstart.trans hrs
  have hlog : c.bench.registrations = rs := hrequested.log
  rw [hlog]
  refine ⟨hrequested, ?_⟩
  have hassembled := batches_assembled format source options files store signal textures
  have hstates : c.added.flatMap (·.states) = c.batches.flatMap statesOf := by
    rw [added, List.flatMap_assoc]
    rw [List.flatMap_def, List.flatMap_def]
    refine congrArg List.flatten (List.map_congr_left fun steps hsteps => ?_)
    exact (hassembled steps hsteps).states_made
  rw [hstates]
  exact hdressed

/-- The textures of the elements a compile adds are those it was granted, each of them once
and in the order in which they were, whatever was refused in between. Each state has the
transparent colour that its daytime texture was registered with, and a nighttime texture
only beside a daytime texture, with the same parameters. -/
theorem handles_in_order (format : PanelFormat) (source : PanelSource) (options : Options K)
    (files : FileView) (store : TextureStore σ) (issued : σ → TextureId → Prop)
    (hissues : store.IssuesFresh issued) (signal : Signal) (textures : σ) :
    let c := compileAs format source options files store signal textures
    let log := c.bench.registrations
    (∀ cars : Cars K, (c.commit cars options.car).2.elements options.car =
      cars.elements options.car ++ c.added) ∧
    Bench.Requested store ⟨textures, [], []⟩ c.bench log ∧
    (c.added.flatMap (·.states)).flatMap (·.mesh.material.handles) = log.filterMap (·.id?) ∧
    (log.filterMap (·.id?)).Nodup ∧
    ∀ e ∈ c.added, ∀ state ∈ e.states, state.mesh.material.RegisteredIn log := by
  intro c log
  obtain ⟨hrequested, hdressed⟩ := added_dressed format source options files textures
    hissues.sized signal
  refine ⟨fun cars => ?_, hrequested, hdressed.handles_eq, (hissues.nodup hrequested.answers).1, ?_⟩
  · exact elements_commit (batches_assembled format source options files store signal textures)
      cars options.car
  · intro e he state hstate
    obtain ⟨worn, hsub, hworn⟩ := hdressed.wears_of_mem (List.mem_flatMap.mpr ⟨e, he, hstate⟩)
    exact hworn.registeredIn hsub

/-- A panel with a lamp by day and by night, whose images a store in memory grants. -/
theorem handles_in_order_lamp :
    let files : List MemoryFile :=
      [⟨⟨"Train/day.bmp"⟩, some ⟨8, 8⟩, none⟩, ⟨⟨"Train/night.bmp"⟩, some ⟨8, 8⟩, none⟩]
    let source := PanelSource.ofText ⟨"Train/panel2.cfg"⟩ ⟨"Train"⟩
      "[PilotLamp]\nDaytimeImage = day.bmp\nNighttimeImage = night.bmp\n"
    let c := compileAs .calibrated source (Options.standard (K := Float))
      (Memory.view files ⟨"Compatibility"⟩) (Memory.store files) .never []
    (Memory.store files).IssuesFresh (fun textures id => id < textures.length) ∧
      (c.added.flatMap (·.states)).flatMap (·.mesh.material.handles) =
        c.bench.registrations.filterMap (·.id?) := by
  intro files source
  have hissues := Memory.issuesFresh_store files
  have h := handles_in_order .calibrated source (Options.standard (K := Float))
    (Memory.view files ⟨"Compatibility"⟩) (Memory.store files) _ hissues .never []
  clear_value files source
  exact ⟨hissues, h.2.2.1⟩

end Compilation

end DriverDesk
