import Mathlib
import DriverDesk.Proofs.Framed
import DriverDesk.Proofs.TextValues

/-!
# Positions of the brake handle

Where a brake handle can stand, and the frame that the text of the brake indicator selects there.
Positions and frames correspond one to one, whatever the number of notches: release and the notches
from the left, the hold brake between them if there is one, and emergency last.
-/

namespace DriverDesk

/-- Where a brake handle stands; notch 0 is its release. -/
inductive HandlePosition where
  | notch (b : ℕ)
  | hold
  | emergency
  deriving DecidableEq

namespace BrakeHandle

/-- The highest notch. The positions of an automatic air brake are release, lap and service. -/
def lastNotch : BrakeHandle → ℕ
  | automaticAir => 2
  | notched maxNotch _ => maxNotch

def hasHold : BrakeHandle → Bool
  | automaticAir => false
  | notched _ holdBrake => holdBrake

/-- The positions that the handle has. -/
def positions (handle : BrakeHandle) : Set HandlePosition :=
  {p | match p with
    | .notch b => b ≤ handle.lastNotch
    | .hold => handle.hasHold = true
    | .emergency => True}

/-- The frame of a position. -/
def frame : BrakeHandle → HandlePosition → ℕ
  | notched _ true, .notch (b + 1) => b + 2
  | _, .notch b => b
  | _, .hold => 1
  | automaticAir, .emergency => 3
  | notched maxNotch false, .emergency => maxNotch + 1
  | notched maxNotch true, .emergency => maxNotch + 2

/-- The number of positions. -/
def frameCount (handle : BrakeHandle) : ℕ := handle.lastNotch + 2 + handle.hasHold.toNat

/-- What the train says of its handle at a position. Emergency and hold brake are told whatever the
notch. -/
def StandsAt (handle : BrakeHandle) (train : Train) : HandlePosition → Prop
  | .emergency => train.valueOf "emergencyBrake" ≠ 0
  | .hold => train.valueOf "emergencyBrake" = 0 ∧ train.valueOf "holdBrake" ≠ 0
  | .notch b => train.valueOf "emergencyBrake" = 0 ∧
      (handle.hasHold = true → train.valueOf "holdBrake" = 0) ∧ train.valueOf "brakeNotch" = b

variable {handle : BrakeHandle}

/-! ## Frames -/

/-- The position that a frame shows. -/
def shown (handle : BrakeHandle) (k : ℕ) : HandlePosition :=
  if k + 1 = handle.frameCount then .emergency
  else if handle.hasHold = true then if k = 1 then .hold else .notch (k - 1)
  else .notch k

theorem frame_emergency (handle : BrakeHandle) :
    handle.frame .emergency + 1 = handle.frameCount := by
  rcases handle with _ | ⟨maxNotch, _ | _⟩ <;> rfl

theorem frame_notch (handle : BrakeHandle) (b : ℕ) :
    handle.frame (.notch b) = if handle.hasHold = true ∧ b ≠ 0 then b + 1 else b := by
  rcases handle with _ | ⟨maxNotch, _ | _⟩ <;> cases b <;> rfl

theorem frame_hold (handle : BrakeHandle) : handle.frame .hold = 1 := by
  rcases handle with _ | ⟨maxNotch, _ | _⟩ <;> rfl

/-- A frame of the sheet shows a position of the handle, and stands at that position. -/
theorem frame_shown {k : ℕ} (hk : k < handle.frameCount) :
    handle.shown k ∈ handle.positions ∧ handle.frame (handle.shown k) = k := by
  unfold shown
  split
  next hlast => exact ⟨trivial, by have := handle.frame_emergency; omega⟩
  next hlast =>
    unfold frameCount at hk hlast
    split
    next hhold =>
      rw [hhold, Bool.toNat_true] at hk hlast
      split
      next hone => exact ⟨hhold, handle.frame_hold.trans hone.symm⟩
      next hone =>
        refine ⟨show k - 1 ≤ handle.lastNotch by omega, ?_⟩
        rw [frame_notch]
        by_cases hzero : k - 1 = 0
        · rw [if_neg (fun h => h.2 hzero)]
          omega
        · rw [if_pos ⟨hhold, hzero⟩]
          omega
    next hhold =>
      rw [Bool.eq_false_iff.mpr hhold, Bool.toNat_false] at hk hlast
      refine ⟨show k ≤ handle.lastNotch by omega, ?_⟩
      rw [frame_notch, if_neg (fun h => hhold h.1)]

/-- A position of the handle has a frame of the sheet, which shows it. -/
theorem shown_frame {p : HandlePosition} (hp : p ∈ handle.positions) :
    handle.frame p < handle.frameCount ∧ handle.shown (handle.frame p) = p := by
  have hcount : handle.frameCount = handle.lastNotch + 2 + handle.hasHold.toNat := rfl
  cases p with
  | emergency =>
    have hlast := handle.frame_emergency
    exact ⟨by omega, if_pos hlast⟩
  | hold =>
    have hhold : handle.hasHold = true := hp
    rw [hhold, Bool.toNat_true] at hcount
    unfold shown
    rw [frame_hold, if_neg (by omega), if_pos hhold, if_pos rfl]
    exact ⟨by omega, rfl⟩
  | notch b =>
    have hb : b ≤ handle.lastNotch := hp
    unfold shown
    rw [frame_notch]
    by_cases hhold : handle.hasHold = true
    · rw [hhold, Bool.toNat_true] at hcount
      rw [hhold, if_pos rfl]
      -- behind the hold brake the notches have moved by one
      by_cases hzero : b = 0
      · rw [if_neg (fun h => h.2 hzero), if_neg (by omega), if_neg (by omega), hzero]
        exact ⟨by omega, rfl⟩
      · rw [if_pos ⟨rfl, hzero⟩, if_neg (by omega), if_neg (by omega)]
        exact ⟨by omega, rfl⟩
    · rw [Bool.eq_false_iff.mpr hhold, Bool.toNat_false] at hcount
      rw [if_neg (fun h => hhold h.1), if_neg (by omega), if_neg hhold]
      exact ⟨by omega, rfl⟩

theorem frame_bijOn (handle : BrakeHandle) :
    Set.BijOn handle.frame handle.positions (Set.Iio handle.frameCount) :=
  Set.InvOn.bijOn ⟨fun _ hp => (shown_frame hp).2, fun _ hk => (frame_shown hk).2⟩
    (fun _ hp => (shown_frame hp).1) (fun _ hk => (frame_shown hk).1)

/-! ## Selection -/

open Framed

variable {train : Train} {p : HandlePosition}

/-- What stands between the operands of the selector, from the left: emergency over the hold brake
over the notches. -/
theorem value?_brakeFunction (handle : BrakeHandle) (train : Train) :
    (brakeFunction handle).value? train = some (
      if train.valueOf "emergencyBrake" = 0 then
        if handle.hasHold = true then
          if train.valueOf "holdBrake" = 0 then
            if 0 < train.valueOf "brakeNotch" then train.valueOf "brakeNotch" + 1 else 0
          else 1
        else train.valueOf "brakeNotch"
      else handle.frame .emergency) := by
  rw [Expr.value?_eq_some]
  rcases handle with _ | ⟨maxNotch, _ | _⟩
  · simp [brakeFunction, Expr.run?, Operator.run?, hasHold, frame]
  · simp [brakeFunction, Expr.run?, Operator.run?, hasHold, frame]
  · by_cases hnotch : 0 < train.valueOf "brakeNotch"
    · simp [brakeFunction, Expr.run?, Operator.run?, hasHold, frame, hnotch]
    · simp [brakeFunction, Expr.run?, Operator.run?, hasHold, frame, hnotch]

theorem value?_of_standsAt (h : handle.StandsAt train p) (hp : p ∈ handle.positions) :
    (brakeFunction handle).value? train = some (handle.frame p : ℝ) := by
  rw [value?_brakeFunction]
  congr 1
  cases p with
  | emergency => rw [if_neg h]
  | hold =>
    obtain ⟨hemergency, hhold⟩ := h
    rw [if_pos hemergency, if_pos (show handle.hasHold = true from hp), if_neg hhold, frame_hold,
      Nat.cast_one]
  | notch b =>
    obtain ⟨hemergency, hhold, hnotch⟩ := h
    rw [if_pos hemergency, hnotch, frame_notch]
    by_cases hhas : handle.hasHold = true
    · rw [if_pos hhas, if_pos (hhold hhas)]
      by_cases hb : b = 0
      · rw [if_neg (by simp [hb]), if_neg (by simp [hb]), hb, Nat.cast_zero]
      · rw [if_pos (by exact_mod_cast Nat.pos_of_ne_zero hb), if_pos ⟨hhas, hb⟩, Nat.cast_succ]
    · rw [if_neg hhas, if_neg (fun h => hhas h.1)]

theorem exact_brakeFunction (handle : BrakeHandle) :
    (brakeFunction handle : Expr Float).map Word.exact = brakeFunction handle := by
  rcases handle with _ | ⟨maxNotch, _ | _⟩ <;> rfl

/-- Every position occurs. -/
theorem exists_standsAt (handle : BrakeHandle) (p : HandlePosition) :
    ∃ train, handle.StandsAt train p := by
  let train (emergency hold notch : ℝ) : Train :=
    ⟨fun v => if v = "emergencyBrake" then emergency else if v = "holdBrake" then hold else notch,
      id, id, id⟩
  cases p with
  | notch b => exact ⟨train 0 0 b, by simp [StandsAt, train]⟩
  | hold => exact ⟨train 0 1 0, by simp [StandsAt, train]⟩
  | emergency => exact ⟨train 1 0 0, by simp [StandsAt, train]⟩

/-- The text of the selector tells the positions of the handle apart: each selects its frame, the
frames are all of those that the sheet has for the handle, and all numbers fit 32 bits. -/
theorem brake_text_selects (h : handle.lastNotch ≤ 2 ^ 32 - 3) :
    (∀ p ∈ handle.positions, ∀ train, handle.StandsAt train p →
      Expr.textValue? train (brakeFunction handle).text = some (handle.frame p : ℝ)) ∧
    Set.BijOn handle.frame handle.positions (Set.Iio handle.frameCount) ∧
    handle.frameCount ≤ 2 ^ 32 ∧
    ∀ n : ℤ, .integer n ∈ (brakeFunction handle : Expr Float) → 0 ≤ n ∧ n < 2 ^ 32 := by
  refine ⟨fun p hp train hstands => ?_, handle.frame_bijOn, ?_, fun n hn => ?_⟩
  · rw [Expr.textValue?_text (BrakeIndicator.computes_brakeFunction handle).reads,
      exact_brakeFunction]
    exact value?_of_standsAt hstands hp
  · have := handle.hasHold.toNat_le
    unfold frameCount
    omega
  · rcases handle with _ | ⟨maxNotch, _ | _⟩ <;>
      simp only [brakeFunction, lastNotch, List.mem_cons, Word.integer.injEq, List.not_mem_nil,
        reduceCtorEq, or_false, false_or] at hn h <;> omega

/-- Eight notches and a hold brake. -/
theorem brake_text_selects_eight :
    (BrakeHandle.notched 8 true).lastNotch ≤ 2 ^ 32 - 3 ∧
    ∃ train, Expr.textValue? train (brakeFunction (.notched 8 true)).text = some (9 : ℕ) := by
  have hbound : (BrakeHandle.notched 8 true).lastNotch ≤ 2 ^ 32 - 3 := by
    show 8 ≤ 2 ^ 32 - 3
    norm_num
  obtain ⟨train, htrain⟩ := exists_standsAt (.notched 8 true) (.notch 8)
  obtain ⟨hselects, -⟩ := brake_text_selects hbound
  exact ⟨hbound, train, hselects (.notch 8) (Nat.le_refl 8) train htrain⟩

end BrakeHandle

end DriverDesk
