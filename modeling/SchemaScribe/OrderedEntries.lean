/-!
# Entries in order of first insertion

A list of keys with values in which every key has one entry. Putting a value under a key that is
present replaces the value and keeps the position; a new key goes to the end.
-/
namespace SchemaScribe.OrderedEntries

variable {κ : Type} {α : Type} [DecidableEq κ]

/-- The entries with `value` under `key`. -/
def put (key : κ) (value : α) : List (κ × α) → List (κ × α)
  | [] => [(key, value)]
  | (k, v) :: rest => if k = key then (key, value) :: rest else (k, v) :: put key value rest

/-- The value under a key. -/
def get? (key : κ) : List (κ × α) → Option α
  | [] => none
  | (k, v) :: rest => if k = key then some v else get? key rest

@[simp] theorem get?_put_self (key : κ) (value : α) (entries : List (κ × α)) :
    get? key (put key value entries) = some value := by
  induction entries with
  | nil => simp [put, get?]
  | cons e rest ih => by_cases h : e.1 = key <;> simp [put, get?, h, ih]

theorem get?_put_of_ne {key other : κ} (h : other ≠ key) (value : α) (entries : List (κ × α)) :
    get? other (put key value entries) = get? other entries := by
  induction entries with
  | nil => simp [put, get?, Ne.symm h]
  | cons e rest ih =>
      by_cases hk : e.1 = key
      · simp [put, get?, hk, Ne.symm h]
      · simp [put, get?, hk, ih]

/-- A key that is present keeps its position, and a new one goes to the end. -/
theorem keys_put (key : κ) (value : α) (entries : List (κ × α)) :
    (put key value entries).map (·.1) =
      if key ∈ entries.map (·.1) then entries.map (·.1) else entries.map (·.1) ++ [key] := by
  induction entries with
  | nil => simp [put]
  | cons e rest ih =>
      by_cases hk : e.1 = key
      · simp [put, hk]
      · have hk' : ¬key = e.1 := fun h => hk h.symm
        by_cases hm : key ∈ rest.map (·.1)
        · simp only [put, hk, if_false, List.map_cons, ih, hm, if_true, List.mem_cons, or_true]
        · simp only [put, hk, if_false, List.map_cons, ih, hm, List.mem_cons, hk', or_self,
            List.cons_append]

end SchemaScribe.OrderedEntries
