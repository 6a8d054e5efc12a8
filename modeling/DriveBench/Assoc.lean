/-!
# Lists of pairs as finite maps

The first pair with a key gives its value. Setting a key changes its first pair
in place, or adds one at the end.
-/

namespace DriveBench.Assoc

variable {α : Type u} {β : Type v} [DecidableEq α]

def find (key : α) : List (α × β) → Option β
  | [] => none
  | pair :: rest => if key = pair.1 then some pair.2 else find key rest

def set (key : α) (value : β) : List (α × β) → List (α × β)
  | [] => [(key, value)]
  | pair :: rest => if key = pair.1 then (key, value) :: rest else pair :: set key value rest

@[simp] theorem find_nil (key : α) : find key ([] : List (α × β)) = none := rfl

theorem find_set (key other : α) (value : β) (pairs : List (α × β)) :
    find other (set key value pairs) = if other = key then some value else find other pairs := by
  induction pairs with
  | nil => rfl
  | cons pair rest ih =>
    unfold set
    split
    · rename_i h
      subst h
      by_cases h : other = pair.1 <;> simp [find, h]
    · rename_i hne
      by_cases h : other = pair.1
      · subst h
        simp [find, Ne.symm hne]
      · simp [find, h, ih]

theorem find_filter (keep : α → Bool) (key : α) (pairs : List (α × β)) :
    find key (pairs.filter fun pair => keep pair.1) = if keep key then find key pairs else none := by
  induction pairs with
  | nil => simp
  | cons pair rest ih =>
    by_cases hk : keep pair.1 <;> by_cases h : key = pair.1 <;> simp_all [find]

end DriveBench.Assoc
