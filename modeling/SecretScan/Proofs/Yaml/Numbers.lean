import SecretScan.Config

/-!
# Values without a text

Every value has a text unless a whole number in it, at any depth, has more digits than may be
written. So nothing but such a number can stand in the way of a setting or of a field of a rule
that is asked for its text (`toText_isOk`).
-/

namespace SecretScan

/-- One step after another gets through if both do. -/
theorem isOk_bind {ε α β : Type} {x : Except ε α} {f : α → Except ε β} {b : Bool}
    (h : ∀ a, x = .ok a → (f a).isOk = b) : (x >>= f).isOk = (x.isOk && b) := by
  cases x with
  | error e => rfl
  | ok a => exact (h a rfl).trans (Bool.true_and b).symm

theorem isOk_map {ε α β : Type} {x : Except ε α} {g : α → β} :
    (x >>= fun a => pure (g a)).isOk = x.isOk := by
  cases x <;> rfl

/-- Two steps whose results are put together. -/
theorem isOk_both {ε α β γ : Type} {x : Except ε α} {y : Except ε β} {g : α → β → γ} :
    (x >>= fun a => y >>= fun b => pure (g a b)).isOk = (x.isOk && y.isOk) := by
  cases x <;> cases y <;> rfl

theorem isOk_eq_true {ε α : Type} {x : Except ε α} : x.isOk = true ↔ ∃ a, x = .ok a := by
  cases x <;> simp [Except.isOk, Except.toBool]

namespace Yaml.Value

/-- Whether a whole number has no more digits than may be written. -/
def isShort (n : Int) : Bool := n.natAbs < Nat.pow 10 Text.decimalLimit

mutual

/-- The whole numbers in a value, at any depth. -/
def wholeNumbers : Value → List Int
  | int n => [n]
  | list items => itemNumbers items
  | pair a b => wholeNumbers a ++ wholeNumbers b
  | map fields => pairNumbers fields
  | set items => itemNumbers items
  | _ => []

/-- The whole numbers in some values. -/
def itemNumbers : List Value → List Int
  | [] => []
  | v :: rest => wholeNumbers v ++ itemNumbers rest

/-- The whole numbers in some pairs of values. -/
def pairNumbers : List (Value × Value) → List Int
  | [] => []
  | (k, v) :: rest => wholeNumbers k ++ wholeNumbers v ++ pairNumbers rest

end

/-- Whether a value has a text: all whole numbers in it are short enough. -/
def isWritable (v : Value) : Bool := v.wholeNumbers.all isShort

/-- Whether a field has a number in it that is too long to be written. -/
def IsOverlong (v : Value) (key : String) : Prop :=
  ∃ field, v.field? key = some field ∧ field.isWritable = false

theorem isShort_zero : isShort 0 = true := by
  rw [isShort]
  generalize Text.decimalLimit = limit
  exact decide_eq_true (Nat.pow_pos (Nat.succ_pos 9))

theorem intText_isOk (n : Int) : (intText n).isOk = isShort n := by
  rw [intText, isShort]
  split
  · next h => exact (decide_eq_false (Nat.not_lt.2 h)).symm
  · next h => exact (decide_eq_true (Nat.lt_of_not_le h)).symm

mutual

theorem shown_isOk : ∀ v : Value, (shown v).isOk = v.wholeNumbers.all isShort
  | null | bool _ | float _ | text _ | bytes _ | day _ | moment _ | again _ => rfl
  | int n => by
      rw [shown, wholeNumbers, intText_isOk, List.all_cons, List.all_nil, Bool.and_true]
  | list items => by
      rw [shown, wholeNumbers, ← shownItems_isOk]
      exact isOk_map
  | pair a b => by
      rw [shown, wholeNumbers, List.all_append, ← shown_isOk, ← shown_isOk]
      exact isOk_both
  | map fields => by
      rw [shown, wholeNumbers, ← shownFields_isOk]
      exact isOk_map
  | set [] => rfl
  | set (v :: rest) => by
      rw [shown, wholeNumbers, itemNumbers, List.all_append, ← shown_isOk, ← shownMore_isOk]
      exact isOk_both

theorem shownItems_isOk : ∀ items, (shownItems items).isOk = (itemNumbers items).all isShort
  | [] => rfl
  | v :: rest => by
      rw [shownItems, itemNumbers, List.all_append, ← shown_isOk, ← shownMore_isOk]
      exact isOk_both

theorem shownMore_isOk : ∀ items, (shownMore items).isOk = (itemNumbers items).all isShort
  | [] => rfl
  | v :: rest => by
      rw [shownMore, itemNumbers, List.all_append, ← shown_isOk, ← shownMore_isOk]
      exact isOk_both

theorem shownFields_isOk : ∀ fields, (shownFields fields).isOk = (pairNumbers fields).all isShort
  | [] => rfl
  | (k, v) :: rest => by
      rw [shownFields, pairNumbers, List.all_append, List.all_append, ← shown_isOk, ← shown_isOk,
        ← shownFields_isOk, Bool.and_assoc]
      exact isOk_bind fun _ _ => isOk_both

end

theorem toText_isOk (v : Value) : v.toText.isOk = v.isWritable := by
  cases v with
  | text s => rfl
  | day d => rfl
  | moment m => rfl
  | _ => exact shown_isOk _

/-- What has no text is not nothing. -/
theorem isTrue_of_isWritable_eq_false {v : Value} (h : v.isWritable = false) :
    v.isTrue = true := by
  cases v with
  | int n =>
      rw [isTrue, bne_iff_ne]
      rintro rfl
      rw [isWritable, wholeNumbers, List.all_cons, isShort_zero] at h
      cases h
  | pair a b => rfl
  | list items | map items | set items =>
      cases items with
      | nil => cases h
      | cons _ _ => rfl
  | _ => cases h

end Yaml.Value

end SecretScan
