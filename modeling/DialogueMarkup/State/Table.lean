/-!
Tables that hold one value per key; the last write to a key counts.
-/
namespace DialogueMarkup

/-- Pairs of a key and its value, no key twice. -/
abbrev Table (κ υ : Type) := List (κ × υ)

namespace Table
variable {κ υ : Type} [DecidableEq κ]

def get? (t : Table κ υ) (k : κ) : Option υ := (t.find? fun e => e.1 = k).map Prod.snd

def put (t : Table κ υ) (k : κ) (v : υ) : Table κ υ := (k, v) :: t.filter fun e => e.1 ≠ k

theorem get?_put_self (t : Table κ υ) (k : κ) (v : υ) : (t.put k v).get? k = some v := by
  simp [get?, put]

theorem get?_put_of_ne (t : Table κ υ) {j k : κ} (v : υ) (h : j ≠ k) :
    (t.put k v).get? j = t.get? j := by
  have hf : (t.filter fun e => e.1 ≠ k).find? (fun e => decide (e.1 = j)) =
      t.find? (fun e => decide (e.1 = j)) := by
    rw [List.find?_filter]
    congr 1
    funext e
    by_cases he : e.1 = j
    · simp [he, h]
    · simp [he]
  simp only [get?, put]
  rw [List.find?_cons_of_neg (by simpa using fun e => h e.symm)]
  exact congrArg _ hf

end Table
end DialogueMarkup
