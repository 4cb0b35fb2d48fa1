import Mathlib.Data.List.Nodup
import Mathlib.Data.List.Induction
import Mathlib.Data.List.Perm.Subperm

/-!
# Maps in insertion order

A key keeps its place while its value changes and a new key goes to the end, so the entries
come in the order in which their keys were first set.
-/

namespace RemoteInfra.Library

structure OrderedMap (K V : Type*) where
  entries : List (K × V)
  nodup : (entries.map Prod.fst).Nodup

namespace OrderedMap

variable {K V : Type*}

def empty : OrderedMap K V := ⟨[], List.nodup_nil⟩

def values (m : OrderedMap K V) : List V := m.entries.map Prod.snd

/-- Every value is replaced, and its key may be looked at. -/
def mapWith (m : OrderedMap K V) (f : K → V → V) : OrderedMap K V where
  entries := m.entries.map fun entry ↦ (entry.1, f entry.1 entry.2)
  nodup := by
    rw [List.map_map]
    exact m.nodup

theorem value_unique (m : OrderedMap K V) {k : K} {v w : V} (hv : (k, v) ∈ m.entries)
    (hw : (k, w) ∈ m.entries) : v = w := by
  have h := List.inj_on_of_nodup_map m.nodup hv hw rfl
  exact (Prod.mk.inj h).2

section Keys

variable [DecidableEq K]

def get (m : OrderedMap K V) (k : K) : Option V :=
  (m.entries.find? fun entry ↦ entry.1 = k).map Prod.snd

/-- The entry goes where its key is, or else to the end. -/
def setIn (k : K) (v : V) : List (K × V) → List (K × V)
  | [] => [(k, v)]
  | entry :: rest => if entry.1 = k then (k, v) :: rest else entry :: setIn k v rest

theorem mem_setIn {k : K} {v : V} {entries : List (K × V)} (h : (entries.map Prod.fst).Nodup)
    {entry : K × V} :
    entry ∈ setIn k v entries ↔ entry = (k, v) ∨ entry ∈ entries ∧ entry.1 ≠ k := by
  induction entries with
  | nil => simp [setIn]
  | cons first rest ih =>
      obtain ⟨hfirst, hrest⟩ := List.nodup_cons.mp h
      simp only [setIn]
      split_ifs with hkey
      · have hne : ∀ other ∈ rest, other.1 ≠ k := by
          intro other hother hk
          apply hfirst
          rw [hkey, ← hk]
          exact List.mem_map_of_mem hother
        constructor
        · intro hmem
          rcases List.mem_cons.mp hmem with rfl | hmem
          · exact .inl rfl
          · exact .inr ⟨List.mem_cons_of_mem _ hmem, hne entry hmem⟩
        · rintro (rfl | ⟨hmem, hk⟩)
          · exact List.mem_cons_self
          · rcases List.mem_cons.mp hmem with rfl | hmem
            · exact absurd hkey hk
            · exact List.mem_cons_of_mem _ hmem
      · rw [List.mem_cons, ih hrest, List.mem_cons]
        constructor
        · rintro (rfl | rfl | ⟨hmem, hk⟩)
          · exact .inr ⟨.inl rfl, hkey⟩
          · exact .inl rfl
          · exact .inr ⟨.inr hmem, hk⟩
        · rintro (rfl | ⟨rfl | hmem, hk⟩)
          · exact .inr (.inl rfl)
          · exact .inl rfl
          · exact .inr (.inr ⟨hmem, hk⟩)

theorem nodup_setIn {k : K} {v : V} {entries : List (K × V)}
    (h : (entries.map Prod.fst).Nodup) : ((setIn k v entries).map Prod.fst).Nodup := by
  induction entries with
  | nil => simp [setIn]
  | cons first rest ih =>
      obtain ⟨hfirst, hrest⟩ := List.nodup_cons.mp h
      simp only [setIn]
      split_ifs with hkey
      · rw [List.map_cons, List.nodup_cons, ← hkey]
        exact ⟨hfirst, hrest⟩
      · rw [List.map_cons, List.nodup_cons]
        refine ⟨fun hmem ↦ ?_, ih hrest⟩
        obtain ⟨entry, hentry, hk⟩ := List.mem_map.mp hmem
        rcases (mem_setIn hrest).mp hentry with rfl | ⟨hold, -⟩
        · exact hkey hk.symm
        · apply hfirst
          rw [← hk]
          exact List.mem_map_of_mem hold

def set (m : OrderedMap K V) (k : K) (v : V) : OrderedMap K V :=
  ⟨setIn k v m.entries, nodup_setIn m.nodup⟩

def delete (m : OrderedMap K V) (k : K) : OrderedMap K V where
  entries := m.entries.filter fun entry ↦ entry.1 ≠ k
  nodup := m.nodup.sublist (List.filter_sublist.map Prod.fst)

/-- Of the entries with one key the last one counts. -/
def ofList (entries : List (K × V)) : OrderedMap K V :=
  entries.foldl (fun m entry ↦ m.set entry.1 entry.2) empty

theorem get_eq_some_iff {m : OrderedMap K V} {k : K} {v : V} :
    m.get k = some v ↔ (k, v) ∈ m.entries := by
  unfold get
  rw [Option.map_eq_some_iff]
  constructor
  · rintro ⟨entry, hentry, rfl⟩
    have hkey : entry.1 = k := by simpa using List.find?_some hentry
    rw [← hkey]
    exact List.mem_of_find?_eq_some hentry
  · intro hmem
    have hfound : (m.entries.find? fun entry ↦ entry.1 = k).isSome :=
      List.find?_isSome.mpr ⟨(k, v), hmem, by simp⟩
    obtain ⟨entry, hentry⟩ := Option.isSome_iff_exists.mp hfound
    have hkey : entry.1 = k := by simpa using List.find?_some hentry
    subst hkey
    exact ⟨entry, hentry, m.value_unique (List.mem_of_find?_eq_some hentry) hmem⟩

@[simp] theorem get_empty (k : K) : (empty : OrderedMap K V).get k = none := rfl

@[simp] theorem get_set (m : OrderedMap K V) (k k' : K) (v : V) :
    (m.set k v).get k' = if k' = k then some v else m.get k' := by
  ext w
  rw [get_eq_some_iff, set, mem_setIn m.nodup]
  split_ifs with hk
  · simp [hk, eq_comm]
  · simp [hk, get_eq_some_iff]

@[simp] theorem get_delete (m : OrderedMap K V) (k k' : K) :
    (m.delete k).get k' = if k' = k then none else m.get k' := by
  ext w
  rw [get_eq_some_iff, delete, List.mem_filter]
  split_ifs with hk
  · simp [hk]
  · simp [hk, get_eq_some_iff]

@[simp] theorem get_mapWith (m : OrderedMap K V) (f : K → V → V) (k : K) :
    (m.mapWith f).get k = (m.get k).map (f k) := by
  ext w
  rw [get_eq_some_iff, Option.map_eq_some_iff]
  simp only [mapWith, List.mem_map, Prod.mk.injEq, get_eq_some_iff]
  constructor
  · rintro ⟨entry, hentry, rfl, rfl⟩
    exact ⟨entry.2, hentry, rfl⟩
  · rintro ⟨v, hv, rfl⟩
    exact ⟨(k, v), hv, rfl, rfl⟩

/-- A value of the map came with the key under which it is found. -/
theorem mem_of_get_ofList {entries : List (K × V)} {k : K} {v : V}
    (h : (ofList entries).get k = some v) : (k, v) ∈ entries := by
  induction entries using List.reverseRecOn with
  | nil => simp [ofList] at h
  | append_singleton entries entry ih =>
      rw [ofList, List.foldl_append, List.foldl_cons, List.foldl_nil, ← ofList, get_set] at h
      split_ifs at h with hk
      · obtain rfl := Option.some.inj h
        rw [hk]
        exact List.mem_append_right _ List.mem_cons_self
      · exact List.mem_append_left _ (ih h)

/-- Two values with a property sit under two keys. -/
theorem exists_ne_of_one_lt {m : OrderedMap K V} {p : V → Bool}
    (h : 1 < (m.values.filter p).length) (k : K) :
    ∃ k' v, k' ≠ k ∧ m.get k' = some v ∧ p v = true := by
  by_contra! hall
  have hkeys : ((m.entries.filter fun entry ↦ p entry.2).map Prod.fst) ⊆ [k] := by
    intro k' hk'
    obtain ⟨entry, hentry, rfl⟩ := List.mem_map.mp hk'
    obtain ⟨hmem, hp⟩ := List.mem_filter.mp hentry
    by_contra hne
    exact hall entry.1 entry.2 (by simpa using hne) (get_eq_some_iff.mpr hmem) hp
  have hnodup : ((m.entries.filter fun entry ↦ p entry.2).map Prod.fst).Nodup :=
    m.nodup.sublist (List.filter_sublist.map Prod.fst)
  have hlength := (hnodup.subperm hkeys).length_le
  rw [values, List.filter_map, List.length_map] at h
  rw [List.length_map, List.length_singleton] at hlength
  exact absurd h (Nat.not_lt.mpr hlength)

end Keys

end OrderedMap

end RemoteInfra.Library
