/-!
# Tables with text keys

An association list in order of first insertion. Writing a key again replaces its
value and keeps its place, so a table that was built by `put` holds a key once.
-/

namespace Targeting

abbrev Assoc (α : Type) := List (String × α)

namespace Assoc

variable {α : Type}

def get? (table : Assoc α) (key : String) : Option α := List.lookup key table

def put : Assoc α → String → α → Assoc α
  | [], key, value => [(key, value)]
  | (k, v) :: rest, key, value =>
    if k = key then (k, value) :: rest else (k, v) :: put rest key value

def ofList (entries : List (String × α)) : Assoc α :=
  entries.foldl (fun table entry => table.put entry.1 entry.2) []

def keys (table : Assoc α) : List String := table.map (·.1)

theorem get?_cons (k : String) (v : α) (rest : Assoc α) (key : String) :
    get? ((k, v) :: rest) key = if key = k then some v else rest.get? key := by
  by_cases h : key = k
  · subst h
    simp [get?]
  · have hb : (key == k) = false := beq_eq_false_iff_ne.mpr h
    simp [get?, List.lookup_cons, hb, h]

theorem get?_eq_none {table : Assoc α} {key : String} :
    table.get? key = none ↔ key ∉ table.keys := by
  simp only [get?, keys, List.lookup_eq_none_iff, List.mem_map, not_exists, not_and]
  exact ⟨fun h entry hentry hkey => by simpa [hkey] using h entry hentry,
    fun h entry hentry => by simpa using Ne.symm (h entry hentry)⟩

theorem mem_of_get? {table : Assoc α} {key : String} {value : α}
    (h : table.get? key = some value) : (key, value) ∈ table := by
  obtain ⟨before, after, rfl, -⟩ := List.lookup_eq_some_iff.mp h
  exact List.mem_append_right _ List.mem_cons_self

theorem get?_of_mem {table : Assoc α} (h : table.keys.Nodup) {key : String} {value : α}
    (hmem : (key, value) ∈ table) : table.get? key = some value := by
  induction table with
  | nil => cases hmem
  | cons entry rest ih =>
    obtain ⟨k, v⟩ := entry
    obtain ⟨hk, hrest⟩ := List.nodup_cons.mp h
    rw [get?_cons]
    rcases List.mem_cons.mp hmem with heq | hmem
    · cases heq
      rw [if_pos rfl]
    · have hkey : key ∈ keys rest := List.mem_map.mpr ⟨(key, value), hmem, rfl⟩
      have hne : key ≠ k := fun heq => hk (heq ▸ hkey)
      rw [if_neg hne, ih hrest hmem]

theorem get?_eq_some {table : Assoc α} (h : table.keys.Nodup) {key : String} {value : α} :
    table.get? key = some value ↔ (key, value) ∈ table :=
  ⟨mem_of_get?, get?_of_mem h⟩

theorem get?_perm {table other : Assoc α} (hperm : table.Perm other) (h : table.keys.Nodup)
    (key : String) : table.get? key = other.get? key := by
  have hother : other.keys.Nodup := (hperm.map Prod.fst).nodup_iff.mp h
  refine Option.ext fun value => ?_
  exact ⟨fun hget => get?_of_mem hother (hperm.mem_iff.mp (mem_of_get? hget)),
    fun hget => get?_of_mem h (hperm.mem_iff.mpr (mem_of_get? hget))⟩

theorem get?_put (table : Assoc α) (key : String) (value : α) (other : String) :
    (table.put key value).get? other = if other = key then some value else table.get? other := by
  induction table with
  | nil => simp only [put, get?_cons]
  | cons entry rest ih =>
    obtain ⟨k, v⟩ := entry
    by_cases h : k = key
    · subst h
      by_cases ho : other = k <;> simp [put, get?_cons, ho]
    · simp only [put, if_neg h, get?_cons, ih]
      by_cases ho : other = k
      · simp [ho, h]
      · simp [ho]

theorem get?_filter (keep : String → Bool) (table : Assoc α) (key : String) :
    get? (table.filter fun entry => keep entry.1) key =
      if keep key then table.get? key else none := by
  induction table with
  | nil => simp [get?]
  | cons entry rest ih =>
    obtain ⟨k, v⟩ := entry
    by_cases h : key = k
    · subst h
      cases hk : keep key <;> simp [hk, get?_cons, ih]
    · cases hk : keep k <;> simp [hk, get?_cons, ih, h]

theorem keys_put (table : Assoc α) (key : String) (value : α) :
    (table.put key value).keys = if key ∈ table.keys then table.keys else table.keys ++ [key] := by
  induction table with
  | nil => simp [put, keys]
  | cons entry rest ih =>
    obtain ⟨k, v⟩ := entry
    by_cases h : k = key
    · simp [put, keys, h]
    · by_cases hm : key ∈ keys rest
      · simp_all [put, keys]
      · simp_all [put, keys, Ne.symm h]

theorem put_of_not_mem {table : Assoc α} {key : String} (h : key ∉ table.keys) (value : α) :
    table.put key value = table ++ [(key, value)] := by
  induction table with
  | nil => rfl
  | cons entry rest ih =>
    obtain ⟨hk, hrest⟩ := not_or.mp (mt List.mem_cons.mpr h)
    rw [put, if_neg (Ne.symm hk), ih hrest, List.cons_append]

theorem nodup_put {table : Assoc α} (h : table.keys.Nodup) {key : String} {value : α} :
    (table.put key value).keys.Nodup := by
  rw [keys_put]
  split
  · exact h
  · next hkey =>
    refine List.nodup_append.mpr ⟨h, by simp, fun k hk other hother => ?_⟩
    rw [List.mem_singleton.mp hother]
    exact fun heq => hkey (heq ▸ hk)

theorem put_put (table : Assoc α) (key : String) (first second : α) :
    (table.put key first).put key second = table.put key second := by
  induction table with
  | nil => simp [put]
  | cons entry rest ih =>
    obtain ⟨k, v⟩ := entry
    by_cases h : k = key
    · simp [put, h]
    · simp [put, h, ih]

theorem mem_put {table : Assoc α} {key : String} {value : α} {entry : String × α}
    (h : entry ∈ table.put key value) : entry ∈ table ∨ entry = (key, value) := by
  induction table with
  | nil => exact .inr (List.mem_singleton.mp h)
  | cons first rest ih =>
    obtain ⟨k, v⟩ := first
    by_cases hk : k = key
    · rw [put, if_pos hk] at h
      rcases List.mem_cons.mp h with h | h
      · exact .inr (hk ▸ h)
      · exact .inl (List.mem_cons_of_mem _ h)
    · rw [put, if_neg hk] at h
      rcases List.mem_cons.mp h with h | h
      · exact .inl (h ▸ List.mem_cons_self)
      · exact (ih h).imp_left (List.mem_cons_of_mem _)

theorem mem_of_ofList {entries : List (String × α)} {entry : String × α} :
    entry ∈ ofList entries → entry ∈ entries := by
  have hfold (known : Assoc α) : entry ∈ entries.foldl (fun t x => t.put x.1 x.2) known →
      entry ∈ known ∨ entry ∈ entries := by
    induction entries generalizing known with
    | nil => exact .inl
    | cons first rest ih =>
      intro h
      rcases ih _ h with h | h
      · rcases mem_put h with h | rfl
        · exact .inl h
        · exact .inr List.mem_cons_self
      · exact .inr (List.mem_cons_of_mem _ h)
  exact fun h => (hfold [] h).resolve_left List.not_mem_nil

theorem mem_keys_put (table : Assoc α) (key : String) (value : α) {other : String} :
    other ∈ (table.put key value).keys ↔ other = key ∨ other ∈ table.keys := by
  rw [keys_put]
  split <;> simp_all [or_comm]

theorem mem_keys_ofList {entries : List (String × α)} {entry : String × α} (h : entry ∈ entries) :
    entry.1 ∈ (ofList entries).keys := by
  have hfold (known : Assoc α) : entry.1 ∈ known.keys ∨ entry ∈ entries →
      entry.1 ∈ keys (entries.foldl (fun t x => t.put x.1 x.2) known) := by
    clear h
    induction entries generalizing known with
    | nil => exact fun h => h.resolve_right List.not_mem_nil
    | cons first rest ih =>
      intro h
      refine ih _ ?_
      rw [mem_keys_put]
      rcases h with h | h
      · exact .inl (.inr h)
      · rcases List.mem_cons.mp h with rfl | h
        · exact .inl (.inl rfl)
        · exact .inr h
  exact hfold [] (.inr h)

end Assoc

end Targeting
