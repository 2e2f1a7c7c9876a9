/-!
# Dictionaries

A dictionary is the list of its entries in strictly ascending key order.
Iteration therefore follows the keys, and a dictionary is determined by its
look-ups (`Dict.ext_get?`).
-/
namespace Stencil

/-- Entries with pairwise distinct keys, in ascending order. -/
structure Dict (α : Type) where
  entries : List (String × α)
  ascending : entries.Pairwise fun a b => a.1 < b.1

namespace Dict

variable {α β : Type}

def empty : Dict α := ⟨[], .nil⟩

instance : EmptyCollection (Dict α) := ⟨empty⟩
instance : Inhabited (Dict α) := ⟨empty⟩

instance [DecidableEq α] : DecidableEq (Dict α) := fun a b =>
  if same : a.entries = b.entries then
    .isTrue (by cases a; cases b; simp_all)
  else
    .isFalse (fun equal => same (equal ▸ rfl))

/-- The value of the first entry with this key. -/
def lookup (key : String) : List (String × α) → Option α
  | [] => none
  | (k, v) :: rest => if k = key then some v else lookup key rest

/-- Put an entry at its place, over an entry with the same key. -/
def place (key : String) (value : α) : List (String × α) → List (String × α)
  | [] => [(key, value)]
  | (k, v) :: rest =>
    if key < k then (key, value) :: (k, v) :: rest
    else if key = k then (key, value) :: rest
    else (k, v) :: place key value rest

private theorem mem_place {key : String} {value : α} {entries : List (String × α)}
    {entry : String × α}
    (member : entry ∈ place key value entries) : entry = (key, value) ∨ entry ∈ entries := by
  induction entries with
  | nil => simpa [place] using member
  | cons first rest ih =>
    obtain ⟨k, v⟩ := first
    simp only [place] at member
    split at member
    · simpa using member
    · split at member
      · rcases List.mem_cons.mp member with same | later
        · exact .inl same
        · exact .inr (List.mem_cons_of_mem _ later)
      · rcases List.mem_cons.mp member with same | later
        · exact .inr (by simp [same])
        · exact (ih later).imp id (List.mem_cons_of_mem _)

private theorem ascending_place {entries : List (String × α)}
    (ascending : entries.Pairwise fun a b => a.1 < b.1) (key : String) (value : α) :
    (place key value entries).Pairwise fun a b => a.1 < b.1 := by
  induction entries with
  | nil => simp [place]
  | cons first rest ih =>
    obtain ⟨k, v⟩ := first
    obtain ⟨below, later⟩ := List.pairwise_cons.mp ascending
    simp only [place]
    split
    next before =>
      refine List.pairwise_cons.mpr ⟨fun entry member => ?_, ascending⟩
      rcases List.mem_cons.mp member with same | within
      · simpa [same] using before
      · exact String.lt_trans before (below entry within)
    next notBefore =>
      split
      next same =>
        exact List.pairwise_cons.mpr ⟨fun entry member => by simpa [same] using below entry member, later⟩
      next distinct =>
        refine List.pairwise_cons.mpr ⟨fun entry member => ?_, ih later⟩
        rcases mem_place member with same | within
        · subst same
          exact (Decidable.em (k < key)).elim id fun notAfter =>
            absurd (String.le_antisymm (String.not_lt.mp notAfter) (String.not_lt.mp notBefore)) distinct
        · exact below entry within

def get? (dict : Dict α) (key : String) : Option α := lookup key dict.entries

def getD (dict : Dict α) (key : String) (fallback : α) : α := (dict.get? key).getD fallback

def contains (dict : Dict α) (key : String) : Bool := (dict.get? key).isSome

def insert (dict : Dict α) (key : String) (value : α) : Dict α :=
  ⟨place key value dict.entries, ascending_place dict.ascending key value⟩

def erase (dict : Dict α) (key : String) : Dict α :=
  ⟨dict.entries.filter fun entry => entry.1 ≠ key, dict.ascending.filter _⟩

/-- Insert a value, or take out what is there. -/
def put (dict : Dict α) (key : String) : Option α → Dict α
  | some value => dict.insert key value
  | none => dict.erase key

/-- Keep the entries a test accepts. -/
def filter (keep : String → α → Bool) (dict : Dict α) : Dict α :=
  ⟨dict.entries.filter fun entry => keep entry.1 entry.2, dict.ascending.filter _⟩

/-- Change every value. -/
def map (f : String → α → β) (dict : Dict α) : Dict β :=
  ⟨dict.entries.map fun entry => (entry.1, f entry.1 entry.2),
    List.pairwise_map.mpr (dict.ascending.imp id)⟩

/-- Of entries with the same key the last one stays. -/
def ofList (entries : List (String × α)) : Dict α :=
  entries.foldl (fun dict entry => dict.insert entry.1 entry.2) empty

def keys (dict : Dict α) : List String := dict.entries.map Prod.fst

def size (dict : Dict α) : Nat := dict.entries.length

def isEmpty (dict : Dict α) : Bool := dict.entries.isEmpty

private theorem lookup_place (key : String) (value : α) (entries : List (String × α))
    (other : String) :
    lookup other (place key value entries) = if other = key then some value else lookup other entries := by
  induction entries with
  | nil => simp [place, lookup, eq_comm]
  | cons first rest ih =>
    obtain ⟨k, v⟩ := first
    simp only [place]
    split
    · simp [lookup, eq_comm]
    · split
      next same => subst same; by_cases h : key = other <;> simp [lookup, h, eq_comm]
      next distinct =>
        by_cases h : k = other
        · subst h; simp [lookup, Ne.symm distinct]
        · simp [lookup, h, ih]

@[simp] theorem get?_insert (dict : Dict α) (key : String) (value : α) (other : String) :
    (dict.insert key value).get? other = if other = key then some value else dict.get? other :=
  lookup_place key value dict.entries other

private theorem lookup_filter_ne (key : String) (entries : List (String × α)) (other : String) :
    lookup other (entries.filter fun entry => entry.1 ≠ key) =
      if other = key then none else lookup other entries := by
  induction entries with
  | nil => simp [lookup]
  | cons first rest ih =>
    obtain ⟨k, v⟩ := first
    by_cases here : k = key
    · subst here
      by_cases same : other = k
      · simp_all
      · simp_all [lookup, Ne.symm same]
    · by_cases same : k = other
      · subst same; simp [lookup, here]
      · simp_all [lookup]

@[simp] theorem get?_erase (dict : Dict α) (key other : String) :
    (dict.erase key).get? other = if other = key then none else dict.get? other :=
  lookup_filter_ne key dict.entries other

@[simp] theorem get?_put (dict : Dict α) (key : String) (value : Option α) (other : String) :
    (dict.put key value).get? other = if other = key then value else dict.get? other := by
  cases value <;> simp [put]

theorem mem_of_get? {dict : Dict α} {key : String} {value : α}
    (there : dict.get? key = some value) : (key, value) ∈ dict.entries := by
  unfold get? at there
  generalize dict.entries = entries at there
  induction entries with
  | nil => cases there
  | cons first rest ih =>
    obtain ⟨k, v⟩ := first
    rw [lookup] at there
    split at there
    · next same =>
      cases there
      exact same ▸ List.mem_cons_self
    · exact List.mem_cons_of_mem _ (ih there)

theorem lookup_eq_none_of_below {key : String} {entries : List (String × α)}
    (below : ∀ entry ∈ entries, key < entry.1) : lookup key entries = none := by
  induction entries with
  | nil => rfl
  | cons first rest ih =>
    have first_above := below first (by simp)
    have distinct : first.1 ≠ key := fun same => String.lt_irrefl key (same ▸ first_above)
    simp [lookup, distinct, ih fun entry member => below entry (by simp [member])]

private theorem entries_eq_of_lookup {left right : List (String × α)}
    (left_ascending : left.Pairwise fun a b => a.1 < b.1)
    (right_ascending : right.Pairwise fun a b => a.1 < b.1)
    (agree : ∀ key, lookup key left = lookup key right) : left = right := by
  induction left generalizing right with
  | nil =>
    cases right with
    | nil => rfl
    | cons first rest => simpa [lookup] using agree first.1
  | cons a left ih =>
    cases right with
    | nil => simpa [lookup] using agree a.1
    | cons b right =>
      obtain ⟨a_below, left_ascending⟩ := List.pairwise_cons.mp left_ascending
      obtain ⟨b_below, right_ascending⟩ := List.pairwise_cons.mp right_ascending
      -- The smaller of two first keys would be missing in the other list.
      have same : a.1 = b.1 := by
        refine Decidable.byContradiction fun distinct => ?_
        have at_a := agree a.1
        have at_b := agree b.1
        by_cases order : a.1 < b.1
        · have absent : lookup a.1 right = none := lookup_eq_none_of_below
            fun entry member => String.lt_trans order (b_below entry member)
          simp [lookup, Ne.symm distinct, absent] at at_a
        · have order : b.1 < a.1 := (Decidable.em (b.1 < a.1)).elim id fun notBelow =>
            absurd (String.le_antisymm (String.not_lt.mp notBelow) (String.not_lt.mp order)) distinct
          have absent : lookup b.1 left = none := lookup_eq_none_of_below
            fun entry member => String.lt_trans order (a_below entry member)
          simp [lookup, distinct, absent] at at_b
      have values : a.2 = b.2 := by simpa [lookup, same] using agree a.1
      -- Behind the first key both lists hold nothing under it.
      have rest : left = right := ih left_ascending right_ascending fun key => by
        by_cases here : a.1 = key
        · subst here
          rw [lookup_eq_none_of_below a_below, same, lookup_eq_none_of_below b_below]
        · simpa [lookup, here, same ▸ here] using agree key
      obtain ⟨ak, av⟩ := a
      obtain ⟨bk, bv⟩ := b
      simp_all

private theorem isSome_lookup {key : String} {entries : List (String × α)} :
    (lookup key entries).isSome ↔ key ∈ entries.map Prod.fst := by
  induction entries with
  | nil => simp [lookup]
  | cons first rest ih =>
    obtain ⟨k, v⟩ := first
    by_cases here : k = key
    · simp [lookup, here]
    · simp [lookup, here, ih, Ne.symm here]

theorem mem_keys {dict : Dict α} {key : String} : key ∈ dict.keys ↔ (dict.get? key).isSome :=
  isSome_lookup.symm

theorem isSome_get?_insert {dict : Dict α} {key other : String} {value : α} :
    ((dict.insert key value).get? other).isSome ↔ other = key ∨ (dict.get? other).isSome := by
  rw [get?_insert]
  split <;> simp_all

theorem ascending_keys (dict : Dict α) : dict.keys.Pairwise (· < ·) :=
  List.pairwise_map.mpr dict.ascending

/-- A dictionary is determined by its look-ups. -/
theorem ext_get? {left right : Dict α} (agree : ∀ key, left.get? key = right.get? key) :
    left = right := by
  have same := entries_eq_of_lookup left.ascending right.ascending agree
  cases left; cases right; simp_all

end Dict

end Stencil
