import DriverDesk.Build.Basic
import DriverDesk.Expr.AngleMap
import DriverDesk.Proofs.Bench

/-!
# Stack effects

`e.Turns n m` says that an expression reads none but the listed variables and, run
on a stack of `n` values, always finds its operands and ends with `m`. It composes
along concatenation, which is how every expression of a panel is made; one that
`Computes` turns the empty stack into a single value.
-/

namespace DriverDesk

variable {K : Type}

namespace Expr

/-- The variables of the running train that expressions may read. -/
def trainVariables : List String :=
  ["acceleration", "brakecylinder", "mainreservoir", "straightairpipe", "brakepipe",
   "equalizingreservoir", "doors", "constSpeed", "brakeNotch", "brakeNotchLinear", "powerNotch",
   "reverserNotch", "holdBrake", "emergencyBrake", "time", "speedometer", "panel2timetable",
   "klaxon", "primaryklaxon", "secondaryklaxon", "musicklaxon", "passalarm", "pilotlamp",
   "stationadjustalarm", "wiperposition"]

/-- Reads listed variables only, and turns a stack of `n` values into one of `m`. -/
structure Turns (e : Expr K) (n m : Nat) : Prop where
  reads : ∀ s, .name s ∈ e → s ∈ trainVariables
  depth : depthFrom? n e = some m

/-- Leaves one value on the empty stack. -/
abbrev Computes (e : Expr K) : Prop := e.Turns 0 1

theorem depthFrom?_append (n : Nat) (e f : Expr K) :
    depthFrom? n (e ++ f) = (depthFrom? n e).bind (depthFrom? · f) := by
  induction e generalizing n with
  | nil => rfl
  | cons w e ih =>
    cases w with
    | operator op =>
      simp only [List.cons_append, depthFrom?]
      split
      · exact ih _
      · rfl
    | number x => exact ih (n + 1)
    | integer i => exact ih (n + 1)
    | name s => exact ih (n + 1)

namespace Turns

variable {e f : Expr K} {n m k : Nat}

theorem append (he : e.Turns n m) (hf : f.Turns m k) : (e ++ f).Turns n k := by
  refine ⟨fun s hs => ?_, ?_⟩
  · rcases List.mem_append.mp hs with hs | hs
    · exact he.reads s hs
    · exact hf.reads s hs
  · rw [depthFrom?_append, he.depth]; exact hf.depth

theorem nil (n : Nat) : Turns (K := K) [] n n := ⟨fun _ h => (List.not_mem_nil h).elim, rfl⟩

end Turns

/-- A single variable. -/
theorem computes_name {s : String} (hs : s ∈ trainVariables) : Computes (K := K) [.name s] := by
  refine ⟨fun s' h => ?_, rfl⟩
  rw [List.mem_singleton, Word.name.injEq] at h
  rw [h]; exact hs

end Expr

/-! ## Subjects -/

namespace Subject

open DriverDesk.Expr

theorem computes_doors (cars : Nat) (car : Int) {side : Operator}
    (hside : side = .leftDoorsIndex ∨ side = .rightDoorsIndex) :
    Computes (K := K) (doors cars car side) := by
  unfold doors
  split
  · refine ⟨by simp, ?_⟩
    rcases hside with rfl | rfl <;> rfl
  · exact ⟨by simp, rfl⟩

theorem computes_of_indexed {cars : Nat} {subject : String} {e : Expr K}
    (h : indexed? cars subject = some e) : e.Computes := by
  unfold indexed? at h
  split at h
  · simp only [Option.bind_eq_bind, Option.bind_eq_some_iff] at h
    obtain ⟨n, -, h⟩ := h
    split at h
    · cases h; exact ⟨by simp, rfl⟩
    · cases h
  · split at h
    · obtain ⟨n, -, rfl⟩ := Option.map_eq_some_iff.mp h
      exact computes_doors cars n (.inl rfl)
    · split at h
      · obtain ⟨n, -, rfl⟩ := Option.map_eq_some_iff.mp h
        exact computes_doors cars n (.inr rfl)
      · cases h

variable [Arith K]

theorem passed_subset : ∀ s ∈ passed, s ∈ trainVariables := by
  simp [passed, trainVariables]

theorem computes_of_fixed {subject : String} {e : Expr K} (h : fixed? subject = some e) :
    e.Computes := by
  unfold fixed? at h
  split at h
  case h_20 =>
    split at h
    next hs =>
      cases h
      exact computes_name (passed_subset subject (by simpa using hs))
    next => cases h
  all_goals
    cases h
    exact ⟨by simp [trainVariables, scaled, clock, speedIn], rfl⟩

theorem computes_of_resolve {cars : Nat} {subject : String} {e : Expr K}
    (h : resolve? cars subject = some e) : e.Computes := by
  unfold resolve? at h
  dsimp only at h
  split at h
  next he => cases h; exact computes_of_fixed he
  next => exact computes_of_indexed h

theorem turns_digitSelector (n : Int) : Turns (K := K) (digitSelector n) 1 1 := by
  unfold digitSelector
  split <;> exact ⟨by simp, rfl⟩

/-- The expression of a subject is that of its base, or the inert one, with the digit
selector behind it. -/
theorem value_expression (cars : Nat) (subject : String) (location : Location) :
    (expression (K := K) cars subject location).value =
      (resolve? cars (splitDigit (String.ofList (Text.trim subject.toList))).1).getD inert ++
        ((splitDigit (String.ofList (Text.trim subject.toList))).2.map digitSelector).getD [] := by
  unfold expression
  obtain ⟨base, digit⟩ := splitDigit (String.ofList (Text.trim subject.toList))
  cases hr : resolve? (K := K) cars base <;> cases digit <;> simp [hr]

/-- Whatever a section names as its subject, the expression computes a value. -/
theorem computes_expression (cars : Nat) (subject : String) (location : Location) :
    Computes (expression (K := K) cars subject location).value := by
  rw [value_expression]
  refine Turns.append (m := 1) ?_ ?_
  · cases hr : resolve? (K := K) cars _ with
    | none => exact ⟨by simp [inert], rfl⟩
    | some e => exact computes_of_resolve hr
  · cases (splitDigit _).2 with
    | none => exact .nil 1
    | some n => exact turns_digitSelector n

/-- The expression of a subject, wherever it is named. -/
def meaning (cars : Nat) (subject : String) : Expr K :=
  (expression cars subject ⟨"", none, none, none⟩).value

theorem value_expression_eq (cars : Nat) (subject : String) (l : Location) :
    (expression (K := K) cars subject l).value = meaning cars subject := by
  rw [meaning, value_expression, value_expression]

theorem computes_meaning (cars : Nat) (subject : String) :
    (meaning (K := K) cars subject).Computes :=
  computes_expression cars subject _

end Subject

/-- The subject of a section is what it means in some train. -/
theorem Build.subject_gives {σ : Type} [Arith K] (s : Section) (name : String)
    (line? : Option Nat) :
    Gives (subject s name line? : Build K σ (Expr K)) fun x =>
      ∃ cars, x = Subject.meaning cars name :=
  Gives.read.bind fun env _ => take_gives ⟨env.options.cars, Subject.value_expression_eq _ _ _⟩

/-! ## Gauges -/

section

variable [Arith K]

/-- The angle of a value is again a value. -/
theorem AngleMap.computes_expression (m : AngleMap K) {value : Expr K} (h : value.Computes) :
    (m.expression value).Computes := h.append ⟨by simp, rfl⟩

theorem turns_quantize (step : K) : (quantize step).Turns 1 1 := by
  unfold quantize
  split
  · exact ⟨by simp, rfl⟩
  · split
    · exact .nil 1
    · exact ⟨by simp, rfl⟩

end

/-! ## Elements -/

/-- The expression that drives a motion. -/
def Motion.function? : Motion K → Option (Expr K)
  | .still => none
  | .turning r => some r.function
  | .sweeping s => some s.function
  | .scrolling s => some s.function

namespace Element

/-- The expressions of an element: the one that selects its state, and the one that
drives its motion. -/
def expressions (e : Element K) : List (Expr K) :=
  e.stateFunction?.toList ++ e.motion.function?.toList

/-- Every expression of the element has `P`. -/
def Writes (P : Expr K → Prop) (e : Element K) : Prop := ∀ x ∈ e.expressions, P x

/-- Every expression of the element computes a value. -/
def Bound (e : Element K) : Prop := ∀ x ∈ e.expressions, x.Computes

variable {P : Expr K → Prop}

theorem writes_single (kind : ElementKind) (s : ElementState K) : (single kind s).Writes P := by
  simp [Writes, expressions, single, Motion.function?]

/-- A selected element without motion. -/
theorem writes_selectedBy (kind : ElementKind) (s : ElementState K) {f : Expr K} (h : P f) :
    ((single kind s).selectedBy f).Writes P := by
  simpa [Writes, expressions, single, selectedBy, Motion.function?] using h

/-- A moving element that is always shown. -/
theorem writes_moving (kind : ElementKind) (s : ElementState K) {m : Motion K} {f : Expr K}
    (hm : m.function? = some f) (h : P f) : ((single kind s).moving m).Writes P := by
  simpa [Writes, expressions, single, moving, hm] using h

theorem Bound.addState {e : Element K} (h : e.Bound) (s : ElementState K) :
    (e.addState s).Bound := h

end Element

/-- Steps whose elements write expressions that compute values. -/
theorem Step.Assembled.bound {P : Expr K → Prop} {steps : List (Step K)}
    (h : Assembled (Element.Writes P) steps) (hP : ∀ x, P x → x.Computes) :
    Assembled Element.Bound steps :=
  h.mono fun _ he x hx => hP x (he x hx)

end DriverDesk
