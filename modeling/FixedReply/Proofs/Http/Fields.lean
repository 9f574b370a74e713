import FixedReply.Http.Fields

namespace FixedReply.Http

namespace Entries

theorem mem_put {name value : String} {e : String × String} {entries : List (String × String)}
    (h : e ∈ put name value entries) : e ∈ entries ∨ e = (name, value) := by
  induction entries with
  | nil => exact .inr (List.mem_singleton.mp h)
  | cons first rest ih =>
    obtain ⟨n, v⟩ := first
    simp only [put] at h
    split at h
    · rename_i hn
      rcases List.mem_cons.mp h with rfl | h
      · exact .inr (by rw [hn])
      · exact .inl (List.mem_cons_of_mem _ h)
    · rcases List.mem_cons.mp h with rfl | h
      · exact .inl List.mem_cons_self
      · exact (ih h).imp_left (List.mem_cons_of_mem _)

/-- Of a name that is given no value yet, the value comes last. -/
theorem put_new {name value : String} {entries : List (String × String)}
    (h : name ∉ entries.map Prod.fst) : put name value entries = entries ++ [(name, value)] := by
  induction entries with
  | nil => rfl
  | cons e rest ih =>
    obtain ⟨n, v⟩ := e
    obtain ⟨hn, hr⟩ := not_or.mp (fun hm => h (List.mem_cons.mpr hm))
    rw [put, if_neg (fun he => hn he.symm), ih hr, List.cons_append]

theorem lookup_put (name value other : String) (entries : List (String × String)) :
    (put name value entries).lookup other =
      if name = other then some value else entries.lookup other := by
  induction entries with
  | nil =>
    by_cases ho : name = other
    · simp [put, ho]
    · have hb : (other == name) = false := by simpa using fun he : other = name => ho he.symm
      simp [put, ho, hb]
  | cons first rest ih =>
    obtain ⟨n, v⟩ := first
    by_cases hn : n = name
    · subst hn
      by_cases ho : n = other
      · simp [put, ho]
      · have hb : (other == n) = false := by simpa using fun he : other = n => ho he.symm
        simp [put, ho, List.lookup_cons, hb]
    · have hput : put name value ((n, v) :: rest) = (n, v) :: put name value rest := by
        rw [put, if_neg hn]
      rw [hput, List.lookup_cons, List.lookup_cons, ih]
      cases hb : other == n with
      | false => rfl
      | true =>
        have ho : ¬ name = other := fun he => hn (he.trans (by simpa using hb)).symm
        rw [if_neg ho, if_neg ho]

end Entries

namespace Fields

@[simp] theorem entries_empty : Fields.empty.entries = [] := rfl

theorem find?_eq_none {fields : Fields} {name : String} :
    fields.find? name = none ↔ name ∉ fields.names := by
  simp only [Fields.find?, Fields.names, List.lookup_eq_none_iff, List.mem_map, not_exists, not_and]
  constructor
  · intro h e he hn
    have := h e he
    simp [hn] at this
  · intro h e he
    simpa using fun hn : name = e.1 => h e he hn.symm

/-- A name has one value at most, so that it is found wherever it stands. -/
theorem mem_entries_iff {fields : Fields} {name value : String} :
    (name, value) ∈ fields.entries ↔ fields.find? name = some value := by
  have hlookup : ∀ {entries : List (String × String)}, (entries.map Prod.fst).Nodup →
      ((name, value) ∈ entries ↔ entries.lookup name = some value) := by
    intro entries hd
    induction entries with
    | nil => simp
    | cons e rest ih =>
      obtain ⟨n, v⟩ := e
      obtain ⟨hnew, hrest⟩ := List.nodup_cons.mp hd
      rw [List.mem_cons, List.lookup_cons, Prod.mk.injEq, ih hrest]
      by_cases hn : name = n
      · subst hn
        have hout : rest.lookup name ≠ some value :=
          fun h => hnew (List.mem_map.mpr ⟨_, (ih hrest).mpr h, rfl⟩)
        simp [hout, eq_comm]
      · have hb : (name == n) = false := by simpa using hn
        simp [hn, hb]
  exact hlookup fields.distinct

/-- The values that stand with a name: the one that is found, and no other. -/
theorem filterMap_entries (fields : Fields) (name : String) :
    (fields.entries.filterMap fun e => if e.1 = name then some e.2 else none) =
      (fields.find? name).toList := by
  have hlookup : ∀ {entries : List (String × String)}, (entries.map Prod.fst).Nodup →
      (entries.filterMap fun e => if e.1 = name then some e.2 else none) =
        (entries.lookup name).toList := by
    intro entries hd
    induction entries with
    | nil => rfl
    | cons e rest ih =>
      obtain ⟨n, v⟩ := e
      obtain ⟨hnew, hrest⟩ := List.nodup_cons.mp hd
      rw [List.lookup_cons]
      by_cases hn : n = name
      · subst hn
        have hnone : (rest.filterMap fun e => if e.1 = n then some e.2 else none) = [] := by
          refine List.filterMap_eq_nil_iff.mpr fun e he => if_neg fun h => hnew ?_
          exact List.mem_map.mpr ⟨e, he, h⟩
        simp [hnone]
      · have hb : (name == n) = false := by simpa using fun h : name = n => hn h.symm
        simp [hn, hb, ih hrest]
  exact hlookup fields.distinct

theorem find?_put (fields : Fields) (name value other : String) :
    (fields.put name value).find? other =
      if name = other then some value else fields.find? other :=
  Entries.lookup_put name value other fields.entries

theorem find?_put_self (fields : Fields) (name value : String) :
    (fields.put name value).find? name = some value := by
  rw [find?_put, if_pos rfl]

theorem names_put (fields : Fields) (name value : String) : (fields.put name value).names =
    if name ∈ fields.names then fields.names else fields.names ++ [name] :=
  Entries.names_put name value fields.entries

theorem ofPairs_snoc (pairs : List (String × String)) (pair : String × String) :
    ofPairs (pairs ++ [pair]) = (ofPairs pairs).put pair.1 pair.2 := by
  simp [ofPairs, putAll]

theorem mem_ofPairs {pairs : List (String × String)} {e : String × String}
    (h : e ∈ (ofPairs pairs).entries) : e ∈ pairs := by
  rw [← pairs.reverse_reverse] at h
  rw [← List.mem_reverse]
  generalize pairs.reverse = given at h ⊢
  induction given with
  | nil => exact absurd h List.not_mem_nil
  | cons pair rest ih =>
    rw [List.reverse_cons, ofPairs_snoc] at h
    rcases Entries.mem_put h with h | rfl
    · exact List.mem_cons_of_mem _ (ih h)
    · exact List.mem_cons_self

theorem eraseDups_snoc (given : List String) (name : String) : (given ++ [name]).eraseDups =
    if name ∈ given.eraseDups then given.eraseDups else given.eraseDups ++ [name] := by
  rw [List.eraseDups_append]
  by_cases hm : name ∈ given
  · have hr : [name].removeAll given = [] := by simpa [List.removeAll] using hm
    rw [if_pos (List.mem_eraseDups.mpr hm), hr, List.eraseDups_nil, List.append_nil]
  · have hr : [name].removeAll given = [name] := by simpa [List.removeAll] using hm
    rw [if_neg fun he => hm (List.mem_eraseDups.mp he), hr]
    rfl

/-- The names come in the order in which they were first given. -/
theorem names_ofPairs (pairs : List (String × String)) :
    (ofPairs pairs).names = (pairs.map Prod.fst).eraseDups := by
  rw [← pairs.reverse_reverse]
  induction pairs.reverse with
  | nil => rfl
  | cons pair rest ih =>
    rw [List.reverse_cons, ofPairs_snoc, names_put, ih, List.map_append, List.map_singleton,
      eraseDups_snoc]

theorem nodup_eraseDups (given : List String) : given.eraseDups.Nodup := by
  have hd : (ofPairs (given.map fun name => (name, ""))).names.Nodup := distinct _
  rw [names_ofPairs, List.map_map] at hd
  simpa [Function.comp_def] using hd

/-- Of the values that a name was given the last one counts. -/
theorem find?_ofPairs (pairs : List (String × String)) (name : String) :
    (ofPairs pairs).find? name = pairs.reverse.lookup name := by
  rw [← pairs.reverse_reverse, List.reverse_reverse pairs.reverse]
  generalize pairs.reverse = given
  induction given with
  | nil => rfl
  | cons pair rest ih =>
    rw [List.reverse_cons, ofPairs_snoc, find?_put, ih, List.lookup_cons]
    by_cases hn : pair.1 = name
    · simp [hn]
    · have hb : (name == pair.1) = false := by simpa using fun he : name = pair.1 => hn he.symm
      rw [if_neg hn, hb]

theorem entries_eq (fields : Fields) :
    fields.entries = fields.names.map fun name => (name, (fields.find? name).getD "") := by
  rw [names, List.map_map]
  conv => lhs; rw [← List.map_id fields.entries]
  refine List.map_congr_left fun e he => ?_
  have hf := mem_entries_iff.mp he
  rw [Function.comp_apply, hf]
  rfl

/-- Fields are the same if they have the same names in the same order and the same values for them. -/
theorem eq_of_find? {fields other : Fields} (hn : fields.names = other.names)
    (hf : ∀ name ∈ fields.names, fields.find? name = other.find? name) : fields = other := by
  have he : fields.entries = other.entries := by
    rw [entries_eq fields, entries_eq other, ← hn]
    exact List.map_congr_left fun name hm => by rw [hf name hm]
  cases fields
  cases other
  cases he
  rfl

end Fields

end FixedReply.Http
