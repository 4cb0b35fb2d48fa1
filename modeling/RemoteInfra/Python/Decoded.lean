import RemoteInfra.Python.Exceptions

/-!
# What the decoder returns

A value out of `json.loads` nests no deeper than the decoder goes, has no key twice in a dict,
and holds no integer that Python would refuse to print.
-/

namespace RemoteInfra.Python

open RemoteInfra.Library RemoteInfra.Library.Decimal

/-- Lists and dicts nest at most `depth` deep. -/
def Decoded : ℕ → PyValue → Prop
  | _, .int n => n.natAbs < 10 ^ maxStrDigits
  | depth + 1, .list items => ∀ item ∈ items, Decoded depth item
  | depth + 1, .dict entries =>
      (entries.map Prod.fst).Nodup ∧ ∀ e ∈ entries, Decoded depth e.2
  | 0, .list _ | 0, .dict _ => False
  | _, _ => True

theorem decoded_str (depth : ℕ) (s : PyStr) : Decoded depth (.str s) := by
  cases depth <;> trivial

/-- An integer of `k` digits. -/
theorem decoded_int {depth k : ℕ} {n : ℤ} (hk : k ≤ maxStrDigits) (h : n.natAbs < 10 ^ k) :
    Decoded depth (.int n) := by
  have hpow : 10 ^ k ≤ 10 ^ maxStrDigits := Nat.pow_le_pow_right (by decide) hk
  cases depth <;> exact h.trans_le hpow

/-! ## Entries of a dict -/

theorem mem_keys_setEntry {key k : PyStr} {value : PyValue} {entries : List (PyStr × PyValue)} :
    k ∈ (PyValue.setEntry key value entries).map Prod.fst ↔
      k = key ∨ k ∈ entries.map Prod.fst := by
  induction entries with
  | nil => simp [PyValue.setEntry]
  | cons e entries ih =>
      obtain ⟨k', v'⟩ := e
      simp only [PyValue.setEntry]
      split_ifs with hk
      · subst hk
        simp
      · simp only [List.map_cons, List.mem_cons, ih]
        tauto

theorem nodup_setEntry {key : PyStr} {value : PyValue} {entries : List (PyStr × PyValue)}
    (h : (entries.map Prod.fst).Nodup) :
    ((PyValue.setEntry key value entries).map Prod.fst).Nodup := by
  induction entries with
  | nil => simp [PyValue.setEntry]
  | cons e entries ih =>
      obtain ⟨k', v'⟩ := e
      rw [List.map_cons, List.nodup_cons] at h
      simp only [PyValue.setEntry]
      split_ifs with hk
      · exact List.nodup_cons.mpr h
      · rw [List.map_cons, List.nodup_cons, mem_keys_setEntry]
        refine ⟨?_, ih h.2⟩
        rintro (rfl | hold)
        · exact hk rfl
        · exact h.1 hold

theorem mem_setEntry {key : PyStr} {value : PyValue} {entries : List (PyStr × PyValue)}
    {e : PyStr × PyValue} (h : e ∈ PyValue.setEntry key value entries) :
    e = (key, value) ∨ e ∈ entries := by
  induction entries with
  | nil => exact .inl (List.mem_singleton.mp h)
  | cons d entries ih =>
      obtain ⟨k', v'⟩ := d
      simp only [PyValue.setEntry] at h
      split_ifs at h with hk
      · subst hk
        rcases List.mem_cons.mp h with hnew | hold
        · exact .inl hnew
        · exact .inr (List.mem_cons_of_mem _ hold)
      · rcases List.mem_cons.mp h with hhead | htail
        · exact .inr (hhead ▸ List.mem_cons_self)
        · exact (ih htail).imp_right (List.mem_cons_of_mem _)

section Entries

variable {key other : PyStr} {value : PyValue} {entries : List (PyStr × PyValue)}

theorem lookup_setEntry_self : (PyValue.setEntry key value entries).lookup key = some value := by
  induction entries with
  | nil => simp [PyValue.setEntry]
  | cons e entries ih =>
      obtain ⟨k, x⟩ := e
      simp only [PyValue.setEntry]
      split_ifs with hk
      · simp [hk]
      · have hne : (key == k) = false := beq_false_of_ne (Ne.symm hk)
        simp only [List.lookup_cons, hne]
        exact ih

theorem lookup_setEntry_of_ne (h : other ≠ key) :
    (PyValue.setEntry key value entries).lookup other = entries.lookup other := by
  have hother : (other == key) = false := beq_false_of_ne h
  induction entries with
  | nil => simp [PyValue.setEntry, List.lookup_cons, hother]
  | cons e entries ih =>
      obtain ⟨k, x⟩ := e
      simp only [PyValue.setEntry]
      split_ifs with hk
      · subst hk
        simp [List.lookup_cons, hother]
      · simp only [List.lookup_cons, ih]

theorem getItem_setEntry_self {name : String} (h : key = PyStr.ofString name) :
    (PyValue.dict (PyValue.setEntry key value entries)).getItem name = .ok value := by
  subst h
  simp only [PyValue.getItem, lookup_setEntry_self]

theorem getItem_setEntry_of_ne {name : String} (h : PyStr.ofString name ≠ key) :
    (PyValue.dict (PyValue.setEntry key value entries)).getItem name =
      (PyValue.dict entries).getItem name := by
  simp only [PyValue.getItem, lookup_setEntry_of_ne h]

end Entries

/-- Setting an entry keeps a dict one that the decoder may return. -/
theorem decoded_setEntry {depth : ℕ} {key : PyStr} {value : PyValue}
    {entries : List (PyStr × PyValue)} (h : Decoded (depth + 1) (.dict entries))
    (hvalue : Decoded depth value) :
    Decoded (depth + 1) (.dict (PyValue.setEntry key value entries)) := by
  refine ⟨nodup_setEntry h.1, fun e he ↦ ?_⟩
  rcases mem_setEntry he with rfl | hold
  · exact hvalue
  · exact h.2 e hold

/-- What has items is a dict. -/
theorem Decoded.of_getItem {limit : ℕ} {v x : PyValue} {name : String} (h : Decoded limit v)
    (hx : v.getItem name = .ok x) : ∃ depth entries, limit = depth + 1 ∧ v = .dict entries := by
  cases v with
  | dict entries =>
      cases limit with
      | zero => exact h.elim
      | succ depth => exact ⟨depth, entries, rfl, rfl⟩
  | _ => cases hx

/-- An item of a decoded dict nests one level less. -/
theorem decoded_getItem {depth : ℕ} {entries : List (PyStr × PyValue)} {name : String} {x : PyValue}
    (h : Decoded (depth + 1) (.dict entries)) (hx : (PyValue.dict entries).getItem name = .ok x) :
    Decoded depth x := by
  simp only [PyValue.getItem] at hx
  split at hx
  · rename_i value hlookup
    obtain rfl := Except.ok.inj hx
    obtain ⟨before, after, rfl, -⟩ := List.lookup_eq_some_iff.mp hlookup
    exact h.2 (PyStr.ofString name, value) (by simp)
  · cases hx

/-! ## The decoder -/

/-- Whatever `scan` returns is decoded. -/
def Decodes (depth : ℕ) (scan : Scanner) : Prop :=
  ∀ s v rest, scan s = .ok (v, rest) → Decoded depth v

theorem decoded_numberValue {depth : ℕ} {negative : Bool} {n : Numeral} {v : PyValue}
    (hlt : ∀ d ∈ n.whole, d < 10) (h : numberValue negative n = .ok v) : Decoded depth v := by
  unfold numberValue at h
  split at h
  · split_ifs at h with hshort
    obtain rfl := Except.ok.inj h
    have habs : (signed negative (value n.whole)).natAbs = value n.whole := by
      unfold signed
      split_ifs <;> simp
    have hbound : value n.whole < 10 ^ n.whole.length := by
      have hdigits : ∀ d ∈ n.whole.reverse, d < 10 := fun d hd ↦ hlt d (List.mem_reverse.mp hd)
      have hlength := Nat.ofDigits_lt_base_pow_length (by decide : 1 < 10) hdigits
      rwa [List.length_reverse] at hlength
    rw [← habs] at hbound
    exact decoded_int hshort hbound
  · obtain rfl := Except.ok.inj h
    cases depth <;> trivial

theorem decodes_scanNumber (depth : ℕ) : Decodes depth scanNumber := by
  intro s v rest h
  unfold scanNumber at h
  dsimp only at h
  split_ifs at h with hnone
  obtain ⟨number, hnumber, h⟩ := bind_eq_ok.mp h
  obtain ⟨rfl, -⟩ := Prod.mk.inj (Except.ok.inj h)
  refine decoded_numberValue ?_ hnumber
  intro d hd
  simp only [scanWhole] at hd
  split at hd
  · simp at hd
    omega
  · exact scanDigits_lt _ d hd

theorem decodes_scanName {depth : ℕ} {s rest : PyStr} {v : PyValue}
    {names : List (String × PyValue)} (hnames : ∀ e ∈ names, Decoded depth e.2)
    (h : scanName s names = some (v, rest)) : Decoded depth v := by
  induction names with
  | nil => cases h
  | cons e names ih =>
      obtain ⟨name, value⟩ := e
      simp only [scanName] at h
      split at h
      · obtain ⟨rfl, -⟩ := Prod.mk.inj (Option.some.inj h)
        exact hnames _ List.mem_cons_self
      · exact ih (fun e he ↦ hnames e (List.mem_cons_of_mem _ he)) h

section

variable {depth : ℕ} {scan : Scanner} (hscan : Decodes depth scan)

include hscan

theorem decodes_scanItems {fuel : ℕ} {s rest : PyStr} {items : List PyValue}
    (h : scanItems scan fuel s = .ok (items, rest)) : ∀ item ∈ items, Decoded depth item := by
  induction fuel generalizing s rest items with
  | zero => cases h
  | succ fuel ih =>
      obtain ⟨⟨item, rest'⟩, hitem, h⟩ := bind_eq_ok.mp h
      have hhead : Decoded depth item := hscan _ _ _ hitem
      dsimp only at h
      split at h
      · cases h
      · split_ifs at h with hclose hcomma
        · obtain ⟨rfl, -⟩ := Prod.mk.inj (Except.ok.inj h)
          simpa using hhead
        · obtain ⟨⟨more, rest''⟩, hmore, h⟩ := bind_eq_ok.mp h
          obtain ⟨rfl, -⟩ := Prod.mk.inj (Except.ok.inj h)
          exact List.forall_mem_cons.mpr ⟨hhead, ih hmore⟩

theorem decodes_scanList : Decodes (depth + 1) (scanList scan) := by
  intro s v rest h
  unfold scanList at h
  split at h
  · obtain ⟨rfl, -⟩ := Prod.mk.inj (Except.ok.inj h)
    simp [Decoded]
  · obtain ⟨⟨items, rest'⟩, hitems, h⟩ := bind_eq_ok.mp h
    obtain ⟨rfl, -⟩ := Prod.mk.inj (Except.ok.inj h)
    exact decodes_scanItems hscan hitems

theorem decodes_scanMember {s rest : PyStr} {member : PyStr × PyValue}
    (h : scanMember scan s = .ok (member, rest)) : Decoded depth member.2 := by
  unfold scanMember at h
  split at h
  · obtain ⟨⟨key, rest'⟩, -, h⟩ := bind_eq_ok.mp h
    dsimp only at h
    split at h
    · obtain ⟨⟨v, rest''⟩, hv, h⟩ := bind_eq_ok.mp h
      obtain ⟨rfl, -⟩ := Prod.mk.inj (Except.ok.inj h)
      exact hscan _ _ _ hv
    · cases h
  · cases h

theorem decodes_scanMembers {entries result : List (PyStr × PyValue)} {fuel : ℕ} {s rest : PyStr}
    (hentries : Decoded (depth + 1) (.dict entries))
    (h : scanMembers scan entries fuel s = .ok (result, rest)) :
    Decoded (depth + 1) (.dict result) := by
  induction fuel generalizing entries s with
  | zero => cases h
  | succ fuel ih =>
      obtain ⟨⟨member, rest'⟩, hmember, h⟩ := bind_eq_ok.mp h
      have hset : Decoded (depth + 1) (.dict (PyValue.setEntry member.1 member.2 entries)) :=
        decoded_setEntry hentries (decodes_scanMember hscan hmember)
      dsimp only at h
      split at h
      · cases h
      · split_ifs at h with hclose hcomma
        · obtain ⟨rfl, -⟩ := Prod.mk.inj (Except.ok.inj h)
          exact hset
        · exact ih hset h

theorem decodes_scanDict : Decodes (depth + 1) (scanDict scan) := by
  intro s v rest h
  have hempty : Decoded (depth + 1) (.dict []) := by simp [Decoded]
  unfold scanDict at h
  split at h
  · obtain ⟨rfl, -⟩ := Prod.mk.inj (Except.ok.inj h)
    exact hempty
  · obtain ⟨⟨entries, rest'⟩, hentries, h⟩ := bind_eq_ok.mp h
    obtain ⟨rfl, -⟩ := Prod.mk.inj (Except.ok.inj h)
    exact decodes_scanMembers hscan hempty hentries

end

theorem decodes_scanOnce {depth : ℕ} {list dict : Scanner} (hlist : Decodes depth list)
    (hdict : Decodes depth dict) : Decodes depth (scanOnce list dict) := by
  intro s v rest h
  unfold scanOnce at h
  split at h
  · cases h
  · split_ifs at h
    · obtain ⟨⟨text, rest'⟩, -, h⟩ := bind_eq_ok.mp h
      obtain ⟨rfl, -⟩ := Prod.mk.inj (Except.ok.inj h)
      exact decoded_str depth text
    · exact hdict _ _ _ h
    · exact hlist _ _ _ h
    · split at h
      · rename_i result hname
        obtain rfl := Except.ok.inj h
        refine decodes_scanName ?_ hname
        intro e he
        simp only [NAMES, List.mem_cons, List.not_mem_nil, or_false] at he
        rcases he with rfl | rfl | rfl | rfl | rfl | rfl <;> (cases depth <;> trivial)
      · exact decodes_scanNumber depth _ _ _ h

theorem decodes_scanValue (depth : ℕ) : Decodes depth (scanValue depth) := by
  induction depth with
  | zero =>
      have hdeep : Decodes 0 (fun _ ↦ .error .recursionError) := by
        rintro s v rest ⟨⟩
      exact decodes_scanOnce hdeep hdeep
  | succ depth ih => exact decodes_scanOnce (decodes_scanList ih) (decodes_scanDict ih)

/-- What `json.loads` returns. -/
theorem decoded_of_loads [PythonPlatform] {s : PyStr} {v : PyValue} (h : loads s = .ok v) :
    Decoded PythonPlatform.nestingLimit v := by
  unfold loads at h
  split_ifs at h
  obtain ⟨⟨w, rest⟩, hscan, h⟩ := bind_eq_ok.mp h
  dsimp only at h
  split_ifs at h
  obtain rfl := Except.ok.inj h
  exact decodes_scanValue _ _ _ _ hscan

end RemoteInfra.Python
