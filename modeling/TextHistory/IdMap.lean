/-!
# Maps from ids

Finite maps whose keys are ids, kept as a list of entries in strictly ascending order of id.
The order is part of the type: it is the order in which ids were handed out, listing a map lists
it in that order, and two maps with the same look-ups are the same map (`IdMap.ext_get?`).

Everything else is known by its look-ups: `get?_insert`, `get?_erase` and `get?_update`.
-/

namespace TextHistory

/-- A finite map from ids. -/
structure IdMap (α : Type) where
  /-- The entries, in ascending order of id. -/
  entries : List (Nat × α)
  /-- No id occurs twice, and the smaller id comes first. -/
  sorted : entries.Pairwise (fun a b ↦ a.1 < b.1)

namespace IdMap

variable {α : Type}

/-- The map without entries. -/
def empty : IdMap α := ⟨[], .nil⟩

instance : Inhabited (IdMap α) := ⟨empty⟩

instance : EmptyCollection (IdMap α) := ⟨empty⟩

variable (m : IdMap α)

/-- The number of entries. -/
def size : Nat := m.entries.length

/-- Whether there are no entries. -/
def isEmpty : Bool := m.entries.isEmpty

/-- The ids, ascending. -/
def ids : List Nat := m.entries.map Prod.fst

/-- The values, in the order of their ids. -/
def values : List α := m.entries.map Prod.snd

/-- The value of the entry with a given id. -/
def lookup (id : Nat) : List (Nat × α) → Option α
  | [] => none
  | e :: es => if id = e.1 then some e.2 else lookup id es

/-- The value under an id. -/
def get? (id : Nat) : Option α := lookup id m.entries

/-- Whether there is a value under an id. -/
def contains (id : Nat) : Bool := (m.get? id).isSome

/-! ### Inserting -/

/-- Puts an entry into its place, over an entry of the same id. -/
def insertEntry (id : Nat) (a : α) : List (Nat × α) → List (Nat × α)
  | [] => [(id, a)]
  | e :: es =>
    if id < e.1 then (id, a) :: e :: es
    else if id = e.1 then (id, a) :: es
    else e :: insertEntry id a es

theorem mem_insertEntry {id : Nat} {a : α} {e : Nat × α} {es : List (Nat × α)}
    (h : e ∈ insertEntry id a es) : e = (id, a) ∨ e ∈ es := by
  induction es with
  | nil => simpa [insertEntry] using h
  | cons e' es ih =>
    rw [insertEntry] at h
    split at h
    · simpa using h
    · split at h
      · rcases List.mem_cons.1 h with h | h
        · exact Or.inl h
        · exact Or.inr (List.mem_cons_of_mem _ h)
      · rcases List.mem_cons.1 h with rfl | h
        · exact Or.inr List.mem_cons_self
        · exact (ih h).imp_right (List.mem_cons_of_mem _)

theorem sorted_insertEntry (id : Nat) (a : α) {es : List (Nat × α)}
    (h : es.Pairwise (fun a b ↦ a.1 < b.1)) :
    (insertEntry id a es).Pairwise (fun a b ↦ a.1 < b.1) := by
  induction es with
  | nil => exact List.pairwise_singleton _ _
  | cons e es ih =>
    obtain ⟨he, hes⟩ := List.pairwise_cons.1 h
    rw [insertEntry]
    split
    next hlt =>
      refine List.pairwise_cons.2 ⟨fun e' he' ↦ ?_, h⟩
      rcases List.mem_cons.1 he' with rfl | he'
      · exact hlt
      · exact Nat.lt_trans hlt (he e' he')
    next hge =>
      split
      next heq => exact List.pairwise_cons.2 ⟨fun e' he' ↦ heq ▸ he e' he', hes⟩
      next hne =>
        refine List.pairwise_cons.2 ⟨fun e' he' ↦ ?_, ih hes⟩
        rcases mem_insertEntry he' with rfl | he'
        · simp only
          omega
        · exact he e' he'

/-- The map with `a` under `id`. -/
def insert (id : Nat) (a : α) : IdMap α :=
  ⟨insertEntry id a m.entries, sorted_insertEntry id a m.sorted⟩

/-! ### Erasing and updating -/

/-- The map with nothing under `id`. -/
def erase (id : Nat) : IdMap α :=
  ⟨m.entries.filter (fun e ↦ e.1 != id), m.sorted.sublist List.filter_sublist⟩

/-- The map with the value under `id`, if there is one, changed by `f`. -/
def update (id : Nat) (f : α → α) : IdMap α :=
  ⟨m.entries.map (fun e ↦ if e.1 = id then (e.1, f e.2) else e), by
    refine List.pairwise_map.2 (m.sorted.imp fun {a b} h ↦ ?_)
    split <;> split <;> exact h⟩

/-! ### Look-ups -/

@[simp] theorem get?_empty (id : Nat) : (empty : IdMap α).get? id = none := rfl

theorem lookup_insertEntry (id k : Nat) (a : α) (es : List (Nat × α)) :
    lookup k (insertEntry id a es) = if k = id then some a else lookup k es := by
  induction es with
  | nil => rfl
  | cons e es ih =>
    rw [insertEntry]
    split
    · rfl
    · split <;> by_cases hk : k = id <;> simp_all [lookup]

@[simp] theorem get?_insert (id k : Nat) (a : α) :
    (m.insert id a).get? k = if k = id then some a else m.get? k :=
  lookup_insertEntry id k a m.entries

@[simp] theorem get?_erase (id k : Nat) :
    (m.erase id).get? k = if k = id then none else m.get? k := by
  obtain ⟨es, h⟩ := m
  simp only [get?, erase]
  clear h
  induction es with
  | nil => simp [lookup]
  | cons e es ih =>
    by_cases he : e.1 = id
    · by_cases hk : k = id <;> simp_all [lookup]
    · have hne : id ≠ e.1 := Ne.symm he
      by_cases hk : k = id <;> simp_all [lookup]

@[simp] theorem get?_update (id k : Nat) (f : α → α) :
    (m.update id f).get? k = if k = id then (m.get? k).map f else m.get? k := by
  obtain ⟨es, h⟩ := m
  simp only [get?, update]
  clear h
  induction es with
  | nil => simp [lookup]
  | cons e es ih =>
    by_cases he : e.1 = id <;> by_cases hk : k = id <;> by_cases hke : k = e.1 <;>
      simp_all [lookup]

/-! ### Entries -/

theorem mem_of_lookup {id : Nat} {a : α} {es : List (Nat × α)} (h : lookup id es = some a) :
    (id, a) ∈ es := by
  induction es with
  | nil => simp [lookup] at h
  | cons e es ih =>
    rw [lookup] at h
    split at h
    next heq =>
      obtain rfl := Option.some.inj h
      exact heq ▸ List.mem_cons_self
    next => exact List.mem_cons_of_mem _ (ih h)

theorem lookup_of_mem {id : Nat} {a : α} {es : List (Nat × α)}
    (hs : es.Pairwise (fun a b ↦ a.1 < b.1)) (h : (id, a) ∈ es) : lookup id es = some a := by
  induction es with
  | nil => simp at h
  | cons e es ih =>
    obtain ⟨he, hes⟩ := List.pairwise_cons.1 hs
    rcases List.mem_cons.1 h with rfl | h
    · simp [lookup]
    · rw [lookup, if_neg (Nat.ne_of_gt (he _ h)), ih hes h]

theorem mem_entries_iff {id : Nat} {a : α} : (id, a) ∈ m.entries ↔ m.get? id = some a :=
  ⟨lookup_of_mem m.sorted, mem_of_lookup⟩

theorem mem_ids_iff {id : Nat} : id ∈ m.ids ↔ (m.get? id).isSome := by
  rw [Option.isSome_iff_exists]
  simp only [ids, List.mem_map, ← mem_entries_iff]
  exact ⟨fun ⟨e, he, hid⟩ ↦ ⟨e.2, hid ▸ he⟩, fun ⟨a, ha⟩ ↦ ⟨_, ha, rfl⟩⟩

/-- The ids are listed in ascending order. -/
theorem ascending_ids : m.ids.Pairwise (· < ·) := List.pairwise_map.2 m.sorted

theorem mem_values_iff {a : α} : a ∈ m.values ↔ ∃ id, m.get? id = some a := by
  simp only [values, List.mem_map, ← mem_entries_iff]
  exact ⟨fun ⟨e, he, ha⟩ ↦ ⟨e.1, ha ▸ he⟩, fun ⟨id, h⟩ ↦ ⟨_, h, rfl⟩⟩

theorem lookup_eq_none {id : Nat} {es : List (Nat × α)} (h : ∀ e ∈ es, id < e.1) :
    lookup id es = none := by
  rcases hl : lookup id es with - | a
  · rfl
  · exact absurd (h _ (mem_of_lookup hl)) (Nat.lt_irrefl _)

/-- Two ascending lists of entries with the same look-ups are the same list: their heads have
to agree, since each is the smallest id of its list. -/
theorem eq_of_lookup {es fs : List (Nat × α)} (hes : es.Pairwise (fun a b ↦ a.1 < b.1))
    (hfs : fs.Pairwise (fun a b ↦ a.1 < b.1)) (h : ∀ id, lookup id es = lookup id fs) :
    es = fs := by
  induction es generalizing fs with
  | nil =>
    rcases fs with - | ⟨f, fs⟩
    · rfl
    · simpa [lookup] using h f.1
  | cons e es ih =>
    obtain ⟨he, hes'⟩ := List.pairwise_cons.1 hes
    rcases fs with - | ⟨f, fs⟩
    · simpa [lookup] using h e.1
    · obtain ⟨hf, hfs'⟩ := List.pairwise_cons.1 hfs
      have hef : e ∈ f :: fs := mem_of_lookup (by simpa [lookup] using (h e.1).symm)
      have hfe : f ∈ e :: es := mem_of_lookup (by simpa [lookup] using h f.1)
      have heq : e = f := by
        rcases List.mem_cons.1 hef with h₁ | h₁
        · exact h₁
        · rcases List.mem_cons.1 hfe with h₂ | h₂
          · exact h₂.symm
          · exact absurd (hf _ h₁) (Nat.lt_asymm (he _ h₂))
      subst heq
      congr 1
      refine ih hes' hfs' fun id ↦ ?_
      by_cases hid : id = e.1
      · rw [hid, lookup_eq_none he, lookup_eq_none hf]
      · simpa [lookup, hid] using h id

/-- A map is known by its look-ups. -/
theorem ext_get? {m n : IdMap α} (h : ∀ id, m.get? id = n.get? id) : m = n := by
  obtain ⟨es, hes⟩ := m
  obtain ⟨fs, hfs⟩ := n
  obtain rfl := eq_of_lookup hes hfs h
  rfl

/-! ### Sizes -/

/-- Erasing takes one entry away. -/
theorem entries_perm_erase {id : Nat} {a : α} (h : m.get? id = some a) :
    m.entries.Perm ((id, a) :: (m.erase id).entries) := by
  obtain ⟨es, hs⟩ := m
  simp only [get?, erase] at h ⊢
  induction es with
  | nil => simp [lookup] at h
  | cons e es ih =>
    obtain ⟨he, hes⟩ := List.pairwise_cons.1 hs
    rw [lookup] at h
    split at h
    next heq =>
      obtain rfl := Option.some.inj h
      have hkept : es.filter (fun e' ↦ e'.1 != id) = es :=
        List.filter_eq_self.2 fun e' he' ↦ by simpa [heq] using Nat.ne_of_gt (he e' he')
      rw [List.filter_cons_of_neg (by simp [heq]), hkept, heq]
    next hne =>
      rw [List.filter_cons_of_pos (by simpa using Ne.symm hne)]
      exact ((ih hes h).cons e).trans (List.Perm.swap ..)

theorem size_erase_add_one {id : Nat} (h : (m.get? id).isSome) :
    (m.erase id).size + 1 = m.size := by
  obtain ⟨a, ha⟩ := Option.isSome_iff_exists.1 h
  exact (m.entries_perm_erase ha).length_eq.symm

/-- Erasing an entry makes the map smaller. -/
theorem size_erase_lt {id : Nat} (h : (m.get? id).isSome) : (m.erase id).size < m.size :=
  Nat.lt_of_succ_le (Nat.le_of_eq (m.size_erase_add_one h))

theorem length_insertEntry {id : Nat} {a : α} {es : List (Nat × α)} (h : lookup id es = none) :
    (insertEntry id a es).length = es.length + 1 := by
  induction es with
  | nil => rfl
  | cons e es ih =>
    rw [lookup] at h
    split at h
    next => exact absurd h (by simp)
    next hne =>
      rw [insertEntry, if_neg hne]
      split
      · rfl
      · rw [List.length_cons, ih h, List.length_cons]

/-- Inserting under a new id adds an entry. -/
theorem size_insert {id : Nat} (a : α) (h : m.get? id = none) :
    (m.insert id a).size = m.size + 1 := length_insertEntry h

@[simp] theorem size_update (id : Nat) (f : α → α) : (m.update id f).size = m.size :=
  List.length_map _

end IdMap

end TextHistory
