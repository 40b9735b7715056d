/-!
# Ordered tables

A finite map from integers, kept as a list of entries in strictly ascending order of their keys. The
view of a table is its lookup function `get?`: `get?_insert` and `get?_erase` say what each
operation does to it, `mem_keys_iff` says which keys are listed, and `keys_pairwise` in which order.
-/

namespace Sluice

variable {α : Type}

namespace Table

/-! ## Entries as a list -/

/-- The keys of `entries` ascend strictly. -/
def Ascending (entries : List (Int × α)) : Prop :=
  entries.Pairwise (fun a b => a.1 < b.1)

def put (k : Int) (v : α) : List (Int × α) → List (Int × α)
  | [] => [(k, v)]
  | (k', v') :: rest =>
    if k < k' then (k, v) :: (k', v') :: rest
    else if k = k' then (k, v) :: rest
    else (k', v') :: put k v rest

def drop (k : Int) : List (Int × α) → List (Int × α)
  | [] => []
  | (k', v') :: rest => if k = k' then rest else (k', v') :: drop k rest

def find? (k : Int) : List (Int × α) → Option α
  | [] => none
  | (k', v') :: rest => if k = k' then some v' else find? k rest

theorem fst_mem_put {k : Int} {v : α} {l : List (Int × α)} {e : Int × α} (h : e ∈ put k v l) :
    e = (k, v) ∨ e ∈ l := by
  induction l with
  | nil => simpa [put] using h
  | cons p rest ih =>
    obtain ⟨k', v'⟩ := p
    simp only [put] at h
    split at h
    · simpa using h
    · split at h
      · rcases List.mem_cons.1 h with h | h <;> simp [h]
      · rcases List.mem_cons.1 h with h | h
        · simp [h]
        · rcases ih h with h | h <;> simp [h]

theorem mem_of_mem_drop {k : Int} {l : List (Int × α)} {e : Int × α}
    (h : e ∈ drop k l) : e ∈ l := by
  induction l with
  | nil => simp [drop] at h
  | cons p rest ih =>
    obtain ⟨k', v'⟩ := p
    simp only [drop] at h
    split at h
    · exact List.mem_cons_of_mem _ h
    · rcases List.mem_cons.1 h with h | h
      · simp [h]
      · exact List.mem_cons_of_mem _ (ih h)

theorem ascending_put {k : Int} {v : α} {l : List (Int × α)} (h : Ascending l) :
    Ascending (put k v l) := by
  induction l with
  | nil => simp [put, Ascending]
  | cons p rest ih =>
    obtain ⟨k', v'⟩ := p
    have hp := List.pairwise_cons.1 h
    simp only [put]
    split
    · next hlt =>
      refine List.pairwise_cons.2 ⟨fun e he => ?_, h⟩
      rcases List.mem_cons.1 he with he | he
      · subst he; exact hlt
      · exact Int.lt_trans hlt (hp.1 e he)
    · split
      · next heq => subst heq; exact List.pairwise_cons.2 hp
      · next hge hne =>
        refine List.pairwise_cons.2 ⟨fun e he => ?_, ih hp.2⟩
        rcases fst_mem_put he with he | he
        · subst he; simp only; omega
        · exact hp.1 e he

theorem ascending_drop {k : Int} {l : List (Int × α)} (h : Ascending l) : Ascending (drop k l) := by
  induction l with
  | nil => exact h
  | cons p rest ih =>
    obtain ⟨k', v'⟩ := p
    have hp := List.pairwise_cons.1 h
    simp only [drop]
    split
    · exact hp.2
    · exact List.pairwise_cons.2 ⟨fun e he => hp.1 e (mem_of_mem_drop he), ih hp.2⟩

theorem find?_put (k k' : Int) (v : α) (l : List (Int × α)) :
    find? k' (put k v l) = if k' = k then some v else find? k' l := by
  induction l with
  | nil => simp [put, find?]
  | cons p rest ih =>
    obtain ⟨key, val⟩ := p
    simp only [put]
    split
    · simp [find?]
    · split
      · next _ heq => subst heq; simp only [find?]; split <;> rfl
      · next _ hne => simp only [find?, ih]; split <;> split <;> simp_all

theorem find?_eq_none_of_lt {k : Int} {l : List (Int × α)} (h : ∀ e ∈ l, k < e.1) :
    find? k l = none := by
  induction l with
  | nil => rfl
  | cons p rest ih =>
    have hp := h p (by simp)
    simp only [find?]
    rw [if_neg (by omega)]
    exact ih fun e he => h e (List.mem_cons_of_mem _ he)

theorem find?_drop (k k' : Int) {l : List (Int × α)} (h : Ascending l) :
    find? k' (drop k l) = if k' = k then none else find? k' l := by
  induction l with
  | nil => simp [drop, find?]
  | cons p rest ih =>
    obtain ⟨key, val⟩ := p
    have hp := List.pairwise_cons.1 h
    simp only [drop]
    split
    · next heq =>
      subst heq
      split
      · next heq => subst heq; exact find?_eq_none_of_lt hp.1
      · next hne => simp [find?, hne]
    · next hne => simp only [find?, ih hp.2]; split <;> split <;> simp_all

theorem find?_isSome_iff {k : Int} {l : List (Int × α)} :
    (find? k l).isSome ↔ k ∈ l.map (·.1) := by
  induction l with
  | nil => simp [find?]
  | cons p rest ih =>
    simp only [find?]
    split
    · next h => simp [h]
    · next h => simp [ih, h]

end Table

/-! ## Tables -/

/-- A finite map from integers to values. -/
structure Table (α : Type) where
  entries : List (Int × α)
  ascending : Table.Ascending entries

namespace Table

def empty : Table α := ⟨[], List.Pairwise.nil⟩

instance : Inhabited (Table α) := ⟨empty⟩

def get? (t : Table α) (k : Int) : Option α :=
  find? k t.entries

def contains (t : Table α) (k : Int) : Bool :=
  (t.get? k).isSome

def insert (t : Table α) (k : Int) (v : α) : Table α :=
  ⟨put k v t.entries, ascending_put t.ascending⟩

def erase (t : Table α) (k : Int) : Table α :=
  ⟨drop k t.entries, ascending_drop t.ascending⟩

def keys (t : Table α) : List Int :=
  t.entries.map (·.1)

def size (t : Table α) : Nat :=
  t.entries.length

@[simp] theorem get?_insert (t : Table α) (k k' : Int) (v : α) :
    (t.insert k v).get? k' = if k' = k then some v else t.get? k' :=
  find?_put k k' v t.entries

@[simp] theorem get?_erase (t : Table α) (k k' : Int) :
    (t.erase k).get? k' = if k' = k then none else t.get? k' :=
  find?_drop k k' t.ascending

theorem contains_iff_mem_keys (t : Table α) (k : Int) : t.contains k = true ↔ k ∈ t.keys :=
  find?_isSome_iff

theorem keys_pairwise (t : Table α) : t.keys.Pairwise (· < ·) :=
  List.pairwise_map.2 t.ascending

@[simp] theorem length_keys (t : Table α) : t.keys.length = t.size := by
  simp [keys, size]

end Table

end Sluice
