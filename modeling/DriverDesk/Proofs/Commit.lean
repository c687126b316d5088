import DriverDesk.Proofs.Run
import DriverDesk.Proofs.Vocabulary

/-!
# What a compile adds

Every section a compile builds gives assembled steps, so that putting them into a car
adds the elements they make and leaves all others as they were.
-/

namespace DriverDesk

open Step

variable {K σ : Type}

namespace Compilation

/-! ## Putting assembled steps into a car -/

section

variable {P : Element K → Prop} {c : Compilation K σ}

/-- The elements that the built sections make. -/
def added (c : Compilation K σ) : List (Element K) := c.batches.flatMap made

theorem elements_commit (h : ∀ steps ∈ c.batches, Assembled P steps) (cars : Cars K) (car : Nat) :
    (c.commit cars car).2.elements car = cars.elements car ++ c.added := by
  change (cars.applyAll car c.batches).2.elements car = _
  rw [Cars.applyAll_eq, Cars.elements_apply, (Assembled.flatten h).placeAll_eq,
    Assembled.made_flatten h, added]

theorem elementsAdded_commit (h : ∀ steps ∈ c.batches, Assembled P steps) (cars : Cars K)
    (car : Nat) : (c.commit cars car).1.elementsAdded = c.added.length := by
  change (cars.applyAll car c.batches).1 = _
  rw [Cars.applyAll_eq, Cars.apply_fst, added, ← Assembled.made_flatten h, made, length_placeAll]
  simp

theorem changedAt_commit (c : Compilation K σ) (cars : Cars K) (car : Nat) :
    Cars.ChangedAt car cars (c.commit cars car).2 := by
  change Cars.ChangedAt car cars (cars.applyAll car c.batches).2
  rw [Cars.applyAll_eq]
  exact Cars.changedAt_apply cars car _

theorem forall_mem_added (hadd : ∀ e s, P e → P (e.addState s))
    (h : ∀ steps ∈ c.batches, Assembled P steps) : ∀ e ∈ c.added, P e := by
  rw [added, ← Assembled.made_flatten h]
  exact forall_mem_placeAll hadd (fun e he => by cases he) (Assembled.flatten h).elements

end

/-! ## Every compile -/

variable [Arith K] (format : PanelFormat) (source : PanelSource) (options : Options K)
  (files : FileView) (store : TextureStore σ) (signal : Signal) (textures : σ)

theorem batches_assembled :
    ∀ steps ∈ (compileAs format source options files store signal textures).batches,
      Assembled Element.Bound steps := by
  have hcovers := prepared_covers format source options files store textures
  rw [compileAs_eq]
  exact (buildAll_gives (fun part hpart => hcovers.parts part (List.mem_filter.mp hpart).1) _ _).1

/-- A compile appends: the car it is put into keeps its elements, with the same new ones
behind them whatever the cars held, and no other car changes. Each section's steps leave
the elements in front of its own as they are. -/
theorem commit_appends (format : PanelFormat) (source : PanelSource) (options : Options K)
    (files : FileView) (store : TextureStore σ) (signal : Signal) (textures : σ) :
    let c := compileAs format source options files store signal textures
    ∃ new : List (Element K), ∀ cars : Cars K,
      let after := (c.commit cars options.car).2
      after.elements options.car = cars.elements options.car ++ new ∧
      (c.commit cars options.car).1.elementsAdded = new.length ∧
      Cars.ChangedAt options.car cars after ∧
      ∀ steps ∈ c.batches,
        (cars.apply options.car steps).2.elements options.car =
          cars.elements options.car ++ made steps ∧
        ∀ before s rest, steps = before ++ .state s :: rest → ∃ e, .element e ∈ before := by
  intro c
  have h : ∀ steps ∈ c.batches, Assembled Element.Bound steps :=
    batches_assembled format source options files store signal textures
  refine ⟨c.added, fun cars => ?_⟩
  refine ⟨elements_commit h cars options.car, elementsAdded_commit h cars options.car,
    changedAt_commit c cars options.car, fun steps hs => ⟨?_, ?_⟩⟩
  · rw [Cars.elements_apply, (h steps hs).placeAll_eq]
  · rintro before s rest rfl
    exact (h _ hs).owned

end Compilation

/-- The text of every expression a compile adds is a program for one value, written with
numbers, the listed variables and the operators. -/
theorem Compilation.added_programs {σ : Type} (format : PanelFormat) (source : PanelSource)
    (options : Options Float) (files : FileView) (store : TextureStore σ) (signal : Signal)
    (textures : σ) (cars : Cars Float) :
    let c := compileAs format source options files store signal textures
    let after := (c.commit cars options.car).2
    ∀ e ∈ (after.elements options.car).drop (cars.elements options.car).length,
      ∀ x ∈ e.expressions, Expr.IsProgram x.text := by
  intro c after e he x hx
  have h : ∀ steps ∈ c.batches, Assembled Element.Bound steps :=
    batches_assembled format source options files store signal textures
  have hadded : e ∈ c.added := by
    rw [elements_commit h cars options.car, List.drop_left] at he
    exact he
  have hbound : e.Bound := forall_mem_added (fun _ s he => he.addState s) h e hadded
  exact (hbound x hx).isProgram

end DriverDesk
