import Mathlib
import ScriptValue.Proofs.Binary64.Special

/-!
# Numbers that compare equal

Numbers that compare equal are the same number, or they are the two zeros. Their difference is
zero, but for infinities, where it is NaN.

* `beq_iff`: which numbers compare equal.
* `abs_sub_of_beq`: the distance of numbers that compare equal.
-/

namespace ScriptValue.Binary64

open Float.Model (UnpackedFloat Format)

/-- The two zeros, in either order. -/
def OppositeZeros (x y : Float) : Prop :=
  ∃ negative, x = zero negative ∧ y = zero (!negative)

/-- Every number but NaN compares equal to itself, and each zero to the other one. -/
theorem beq_iff {x y : Float} :
    (x == y) = true ↔ (x = y ∧ x.isNaN = false) ∨ OppositeZeros x y := by
  have hNaN : x.isNaN = false ↔ x ≠ Float.nan := by simp
  rw [Float.beq_iff_ne_nan_and_eq, hNaN]
  constructor
  · rintro ⟨hx, -, hSame | ⟨rfl, rfl⟩ | ⟨rfl, rfl⟩⟩
    · exact Or.inl ⟨hSame, hx⟩
    · exact Or.inr ⟨false, rfl, rfl⟩
    · exact Or.inr ⟨true, rfl, rfl⟩
  · rintro (⟨rfl, hx⟩ | ⟨negative, rfl, rfl⟩)
    · exact ⟨hx, hx, Or.inl rfl⟩
    · cases negative with
      | false => exact ⟨by decide, by decide, Or.inr (Or.inl ⟨rfl, rfl⟩)⟩
      | true => exact ⟨by decide, by decide, Or.inr (Or.inr ⟨rfl, rfl⟩)⟩

/-- A number less itself is zero, and for an infinity there is no such difference. -/
theorem unpacked_sub_self (spec : Format) {u : UnpackedFloat} (h : u.isNaN = false) :
    (u.isInf = true ∧ u.sub spec u = .notANumber) ∨
      (u.isInf = false ∧ ∃ s, u.sub spec u = .zero s) := by
  cases u with
  | notANumber => cases h
  | infinity s =>
    left
    cases s <;> exact ⟨rfl, rfl⟩
  | zero s =>
    right
    cases s <;> exact ⟨rfl, _, rfl⟩
  | finite s m e hm =>
    refine Or.inr ⟨rfl, .positive, ?_⟩
    -- both mantissas are shifted alike before they are subtracted
    let shifted := s.apply (UnpackedFloat.decreaseExponent m e (min e e)).1
    change UnpackedFloat.normalize spec (shifted - shifted) (min e e) .positive = _
    rw [Int.sub_self]
    rfl

theorem abs_sub_of_beq {x y : Float} (h : (x == y) = true) :
    (x - y).abs = if x.isInf then nan else zero false := by
  rcases beq_iff.mp h with ⟨rfl, hNaN⟩ | ⟨negative, rfl, rfl⟩
  · change (Float.ofModel (.pack (x.toModel.unpack.sub .binary64 x.toModel.unpack))).abs =
      if x.toModel.unpack.isInf then nan else zero false
    rcases unpacked_sub_self .binary64 hNaN with ⟨hInf, hSub⟩ | ⟨hInf, s, hSub⟩
    · rw [hInf, hSub]
      rfl
    · rw [hInf, hSub]
      cases s <;> rfl
  · cases negative <;> rfl

end ScriptValue.Binary64
