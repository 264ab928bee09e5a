/-!
# Stores of handled values

Values that outlive a call are kept in a store and named by handles. Handles are numbers that are
never used twice.
-/

namespace HostBridge

/-- Values named by handles. -/
structure Store (α : Type) where
  /-- The handle that the next value will have. -/
  upcoming : Nat
  /-- The values present, each with its handle. -/
  entries : List (Nat × α)

namespace Store

variable {α : Type}

/-- A store without values. -/
def empty : Store α := ⟨0, []⟩

/-- The value that a handle names. -/
def get? (store : Store α) (handle : Nat) : Option α := List.lookup handle store.entries

/-- Add a value under a new handle. -/
def add (store : Store α) (value : α) : Nat × Store α :=
  (store.upcoming, ⟨store.upcoming + 1, store.entries ++ [(store.upcoming, value)]⟩)

/-- Replace the value that a handle names, if it names one. -/
def set (store : Store α) (handle : Nat) (value : α) : Store α :=
  { store with
    entries := store.entries.set (store.entries.findIdx fun entry => entry.1 == handle)
      (handle, value) }

/-- Remove the value that a handle names. -/
def erase (store : Store α) (handle : Nat) : Store α :=
  { store with entries := store.entries.filter fun entry => entry.1 != handle }

@[simp]
theorem get?_empty (handle : Nat) : (empty : Store α).get? handle = none := rfl

/-- A handle names the value of its first entry. -/
theorem get?_eq_some_iff {store : Store α} {handle : Nat} {value : α} :
    store.get? handle = some value ↔
      ∃ front back, store.entries = front ++ (handle, value) :: back ∧
        ∀ entry ∈ front, entry.1 ≠ handle := by
  simp only [get?, List.lookup_eq_some_iff, bne_iff_ne, ne_comm]

/-- That entry is the one that is replaced. -/
theorem entries_set {store : Store α} {handle : Nat} {value : α} {front back : List (Nat × α)}
    (hentries : store.entries = front ++ (handle, value) :: back)
    (hfront : ∀ entry ∈ front, entry.1 ≠ handle) (next : α) :
    (store.set handle next).entries = front ++ (handle, next) :: back := by
  have hindex : (store.entries.findIdx fun entry => entry.1 == handle) = front.length := by
    have hnone : (front.findIdx fun entry => entry.1 == handle) = front.length :=
      List.findIdx_eq_length.mpr fun entry hentry => beq_eq_false_iff_ne.mpr (hfront entry hentry)
    rw [hentries, List.findIdx_append, hnone, if_neg (Nat.lt_irrefl _), List.findIdx_cons,
      beq_self_eq_true, cond_true, Nat.zero_add]
  rw [set, hindex, hentries, List.set_append_right _ _ (Nat.le_refl _), Nat.sub_self,
    List.set_cons_zero]

/-- A value that is put where it was changes nothing. -/
theorem set_self {store : Store α} {handle : Nat} {value : α}
    (h : store.get? handle = some value) : store.set handle value = store := by
  obtain ⟨front, back, hentries, hfront⟩ := get?_eq_some_iff.mp h
  have hsame : (store.set handle value).entries = store.entries := by
    rw [entries_set hentries hfront, hentries]
  exact congrArg (Store.mk store.upcoming) hsame

/-- A handle that names nothing has no value to replace. -/
theorem set_of_none {store : Store α} {handle : Nat} (h : store.get? handle = none) (value : α) :
    store.set handle value = store := by
  have hkeys : ∀ entry ∈ store.entries, (entry.1 == handle) = false := fun entry hentry =>
    Bool.eq_false_iff.mpr fun hkey =>
      bne_iff_ne.mp (List.lookup_eq_none_iff.mp h entry hentry) (beq_iff_eq.mp hkey).symm
  have hsame : (store.set handle value).entries = store.entries := by
    rw [set, List.findIdx_eq_length.mpr hkeys, List.set_eq_of_length_le (Nat.le_refl _)]
  exact congrArg (Store.mk store.upcoming) hsame

/-- Replacing the value of one handle does not touch the others. -/
theorem get?_set_of_ne (store : Store α) {handle other : Nat} (value : α) (h : other ≠ handle) :
    (store.set handle value).get? other = store.get? other := by
  cases hfound : store.get? handle with
  | none => rw [set_of_none hfound]
  | some old =>
    obtain ⟨front, back, hentries, hfront⟩ := get?_eq_some_iff.mp hfound
    rw [get?, get?, entries_set hentries hfront, hentries]
    simp only [List.lookup_append, List.lookup_cons, beq_eq_false_iff_ne.mpr h]

/-- A handle whose value is replaced names the new value. -/
theorem get?_set_self {store : Store α} {handle : Nat} {old : α}
    (h : store.get? handle = some old) (value : α) :
    (store.set handle value).get? handle = some value := by
  obtain ⟨front, back, hentries, hfront⟩ := get?_eq_some_iff.mp h
  exact get?_eq_some_iff.mpr ⟨front, back, entries_set hentries hfront value, hfront⟩

/-- A handle that was erased names nothing. -/
@[simp]
theorem get?_erase_self (store : Store α) (handle : Nat) :
    (store.erase handle).get? handle = none := by
  obtain ⟨upcoming, entries⟩ := store
  simp only [get?, erase]
  induction entries with
  | nil => rfl
  | cons entry rest ih =>
    obtain ⟨key, kept⟩ := entry
    by_cases hk : key = handle
    · simp [hk, ih]
    · have hn : (handle == key) = false := by simp; exact fun e => hk e.symm
      simp [hk, List.lookup_cons, hn, ih]

end Store

end HostBridge
