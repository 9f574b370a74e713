import FixedReply.Proofs.Http.Encodable

namespace FixedReply

namespace Text

/-- In ASCII a letter has one title-case form in either letter case. -/
theorem titleChar_toLower {c : Char} (h : c.toNat < 128) : titleChar c.toLower = titleChar c := by
  have hsmall := toLower_lt h
  rw [titleChar_eq hsmall, titleChar_eq h, runImage_titleRuns hsmall, runImage_titleRuns h,
    toNat_toLower]
  by_cases hc : 65 ≤ c.toNat ∧ c.toNat ≤ 90
  · rw [if_pos hc, if_pos (by omega), if_neg (by omega), Nat.add_sub_cancel]
  · rw [if_neg hc]

theorem capitalize_toLower {s : List Char} (h : Below 128 s) :
    capitalize (s.map Char.toLower) = capitalize s := by
  cases s with
  | nil => rfl
  | cons c rest =>
    have hc := titleChar_toLower (h c List.mem_cons_self)
    have hrest : Below 128 rest := fun d hd => h d (List.mem_cons_of_mem _ hd)
    have hsmall : Below 128 (rest.map Char.toLower) :=
      List.forall_mem_map.mpr fun d hd => toLower_lt (hrest d hd)
    have hsame : (rest.map Char.toLower).map lowered = rest.map lowered := by
      rw [List.map_map]
      refine List.map_congr_left fun d hd => ?_
      rw [Function.comp_apply, lowered_ascii (toLower_lt (hrest d hd)), lowered_ascii (hrest d hd),
        toLower_toLower]
    rw [List.map_cons, capitalize, capitalize, hc, lowerAfter_latin (hsmall.mono (by decide)), hsame,
      lowerAfter_latin (hrest.mono (by decide))]

end Text

namespace Http

variable {name other : String}

def small (name : String) : String := String.ofList (name.toList.map Char.toLower)

theorem small_eq_iff : small name = other ↔ name.toList.map Char.toLower = other.toList := by
  rw [small, ← String.toList_inj, String.toList_ofList]

theorem below_small (h : Below 128 name.toList) : Below 128 (small name).toList := by
  rw [small, String.toList_ofList]
  exact List.forall_mem_map.mpr fun c hc => Text.toLower_lt (h c hc)

theorem lowerString_eq (h : Below 128 name.toList) : Text.lowerString name = small name := by
  rw [Text.lowerString, Text.lower_ascii h, small]

theorem small_small (name : String) : small (small name) = small name := by
  rw [small_eq_iff, small, String.toList_ofList, List.map_map]
  exact List.map_congr_left fun c _ => Text.toLower_toLower c

theorem small_canonicalName (h : Below 128 name.toList) : small (canonicalName name) = small name := by
  rw [small, toLower_canonicalName h, small]

theorem canonicalName_small (h : Below 128 name.toList) :
    canonicalName (small name) = canonicalName name := by
  have hdash : ∀ c ∈ name.toList, c.toLower = '-' ↔ c = '-' := by
    intro c _
    rw [← Char.toNat_inj, ← Char.toNat_inj, Text.toNat_toLower]
    have hn : '-'.toNat = 45 := rfl
    split <;> omega
  rw [canonicalName, canonicalName, small, String.toList_ofList, Text.splitOn_map hdash, List.map_map]
  congr 2
  refine List.map_congr_left fun part hp => ?_
  exact Text.capitalize_toLower fun c hc => h c (Text.mem_of_splitOn hp hc)

/-- Names have the same canonical form if they differ in letter case only. -/
theorem canonicalName_eq_iff (h : Below 128 name.toList) (ho : Below 128 other.toList) :
    canonicalName name = canonicalName other ↔ small name = small other := by
  constructor
  · intro he
    rw [← small_canonicalName h, he, small_canonicalName ho]
  · intro he
    rw [← canonicalName_small h, he, canonicalName_small ho]

theorem canonicalName_canonicalName (h : Below 128 name.toList) :
    canonicalName (canonicalName name) = canonicalName name :=
  (canonicalName_eq_iff (below_canonicalName h) h).mpr (small_canonicalName h)

namespace Fields

/-- What keeps names apart keeps their order. -/
theorem map_eraseDups {f : String → String} {given : List String}
    (h : ∀ a ∈ given, ∀ b ∈ given, f a = f b → a = b) :
    (given.map f).eraseDups = given.eraseDups.map f := by
  rw [← given.reverse_reverse] at h ⊢
  generalize given.reverse = given at h ⊢
  induction given with
  | nil => rfl
  | cons name rest ih =>
    rw [List.reverse_cons] at h ⊢
    have hrest := ih fun a ha b hb => h a (List.mem_append_left _ ha) b (List.mem_append_left _ hb)
    have hmem : f name ∈ rest.reverse.eraseDups.map f ↔ name ∈ rest.reverse.eraseDups := by
      refine ⟨fun hm => ?_, List.mem_map_of_mem⟩
      obtain ⟨a, ha, he⟩ := List.mem_map.mp hm
      have hin := List.mem_eraseDups.mp ha
      rwa [← h a (List.mem_append_left _ hin) name (by simp) he]
    rw [List.map_append, List.map_singleton, eraseDups_snoc, hrest, eraseDups_snoc]
    by_cases hn : name ∈ rest.reverse.eraseDups
    · rw [if_pos hn, if_pos (hmem.mpr hn)]
    · rw [if_neg hn, if_neg (mt hmem.mp hn), List.map_append, List.map_singleton]

/-- Names that no field has yet come behind the others. -/
theorem names_put_eraseDups {fields : Fields} {given : List String} (h : fields.names = given.eraseDups)
    (name value : String) : (fields.put name value).names = (given ++ [name]).eraseDups := by
  rw [names_put, eraseDups_snoc, h]

end Fields

namespace Response

def ownNames (keepAlive : Bool) (version : String) : List String :=
  "Content-Length" :: if (fate? keepAlive version).isSome then ["Connection"] else []

/-- All names come in the order in which they were first given, those of the encoding last. -/
theorem names_sentHeaders (response : Response) (keepAlive : Bool) (version : String) :
    (response.sentHeaders keepAlive version).names =
      (response.given.map Prod.fst ++ ownNames keepAlive version).eraseDups := by
  have hnames := Fields.names_ofPairs response.given
  have hsized : response.sized.names = (response.given.map Prod.fst ++ ["Content-Length"]).eraseDups := by
    rw [sized]
    split
    · rename_i hhas
      have hm : "Content-Length" ∈ (response.given.map Prod.fst).eraseDups := by
        rw [← hnames]
        refine Decidable.byContradiction fun hm => ?_
        rw [Fields.has, Fields.find?_eq_none.mpr hm] at hhas
        cases hhas
      rw [hnames, Fields.eraseDups_snoc, if_pos hm]
    · exact Fields.names_put_eraseDups hnames _ _
  rw [sentHeaders_eq, ownNames]
  cases fate? keepAlive version with
  | none => exact hsized
  | some fate =>
    refine (Fields.names_put_eraseDups hsized _ _).trans ?_
    rw [List.append_assoc]
    rfl

/-- Which fields are sent, and where, depends on the canonical names alone. -/
theorem encode_congr {response other : Response} (hs : response.status = other.status)
    (hb : response.body = other.body) (hg : response.given = other.given) (keepAlive : Bool)
    (version : String) (headOnly : Bool) :
    response.encode keepAlive version headOnly = other.encode keepAlive version headOnly := by
  have hp : response.payload = other.payload := by rw [payload, payload, hb]
  have hsized : response.sized = other.sized := by rw [sized, sized, hg, hp]
  have hsent : response.sentHeaders keepAlive version = other.sentHeaders keepAlive version := by
    rw [sentHeaders_eq, sentHeaders_eq, hsized]
  have hhead : response.headText keepAlive version = other.headText keepAlive version := by
    rw [headText, headText, hs, hsent]
  rw [encode, encode, hhead, hp]

end Response

end Http

end FixedReply
