/-!
Letter case within ASCII. Characters beyond ASCII stay as they are, so that the Kelvin sign is no
`k` and a dotless i no `I`.
-/

set_option autoImplicit false
set_option relaxedAutoImplicit false

namespace Worksheet.Text

def asciiLower (s : String) : String := String.ofList (s.toList.map Char.toLower)

def asciiUpper (s : String) : String := String.ofList (s.toList.map Char.toUpper)

/-- Equal up to the case of ASCII letters. -/
def sameIgnoringAsciiCase (s t : String) : Bool := asciiLower s == asciiLower t

@[simp] theorem toList_asciiLower (s : String) :
    (asciiLower s).toList = s.toList.map Char.toLower := by
  simp [asciiLower]

@[simp] theorem toList_asciiUpper (s : String) :
    (asciiUpper s).toList = s.toList.map Char.toUpper := by
  simp [asciiUpper]

theorem toNat_toLower (c : Char) :
    c.toLower.toNat = if 65 ≤ c.toNat ∧ c.toNat ≤ 90 then c.toNat + 32 else c.toNat := by
  have hupper : (c.val ≥ 'A'.val ∧ c.val ≤ 'Z'.val) ↔ 65 ≤ c.toNat ∧ c.toNat ≤ 90 := Iff.rfl
  unfold Char.toLower
  split
  · next h =>
    rw [if_pos (hupper.mp h)]
    have hadd : (c.val + 32).toNat = (c.toNat + 32) % 2 ^ 32 := UInt32.toNat_add c.val 32
    refine hadd.trans (Nat.mod_eq_of_lt ?_)
    have := hupper.mp h
    omega
  · next h => rw [if_neg fun h' ↦ h (hupper.mpr h')]

theorem toNat_toUpper (c : Char) :
    c.toUpper.toNat = if 97 ≤ c.toNat ∧ c.toNat ≤ 122 then c.toNat - 32 else c.toNat := by
  have hlower : ('a'.val ≤ c.val ∧ c.val ≤ 'z'.val) ↔ 97 ≤ c.toNat ∧ c.toNat ≤ 122 := Iff.rfl
  unfold Char.toUpper
  split
  · next h =>
    rw [if_pos (hlower.mp h)]
    -- The offset between the cases is negative, so it wraps.
    have hadd : (c.val + ('A'.val - 'a'.val)).toNat = (c.toNat + 4294967264) % 2 ^ 32 :=
      UInt32.toNat_add c.val ('A'.val - 'a'.val)
    have := hlower.mp h
    refine hadd.trans ?_
    omega
  · next h => rw [if_neg fun h' ↦ h (hlower.mpr h')]

theorem toUpper_toLower (c : Char) : c.toLower.toUpper = c.toUpper := by
  apply Char.toNat_inj.mp
  rw [toNat_toUpper, toNat_toUpper, toNat_toLower]
  grind

theorem toLower_toUpper (c : Char) : c.toUpper.toLower = c.toLower := by
  apply Char.toNat_inj.mp
  rw [toNat_toLower, toNat_toLower, toNat_toUpper]
  grind

theorem asciiUpper_asciiLower (s : String) : asciiUpper (asciiLower s) = asciiUpper s := by
  rw [asciiUpper, toList_asciiLower, List.map_map, asciiUpper]
  exact congrArg String.ofList (List.map_congr_left fun c _ ↦ toUpper_toLower c)

theorem asciiLower_asciiUpper (s : String) : asciiLower (asciiUpper s) = asciiLower s := by
  rw [asciiLower, toList_asciiUpper, List.map_map, asciiLower]
  exact congrArg String.ofList (List.map_congr_left fun c _ ↦ toLower_toUpper c)

/-- It makes no difference to which case the letters are brought before they are compared. -/
theorem sameIgnoringAsciiCase_iff_asciiUpper (s t : String) :
    sameIgnoringAsciiCase s t = true ↔ asciiUpper s = asciiUpper t := by
  rw [sameIgnoringAsciiCase, beq_iff_eq]
  constructor
  · intro h
    rw [← asciiUpper_asciiLower s, h, asciiUpper_asciiLower]
  · intro h
    rw [← asciiLower_asciiUpper s, h, asciiLower_asciiUpper]

end Worksheet.Text
