import FixedReply.Proofs.Http.Grammar

namespace FixedReply

namespace Text

def Unbroken (s : List Char) : Prop := ∀ c ∈ s, c ≠ '\r' ∧ c ≠ '\n'

variable {s t : List Char}

theorem Unbroken.subset (h : Unbroken t) (hs : s ⊆ t) : Unbroken s := fun c hc => h c (hs hc)

theorem unbroken_append : Unbroken (s ++ t) ↔ Unbroken s ∧ Unbroken t := List.forall_mem_append

theorem unbroken_cons {c : Char} (hc : c ≠ '\r' ∧ c ≠ '\n') : Unbroken (c :: s) ↔ Unbroken s := by
  simp [Unbroken, hc]

/-- Padding holds no line breaks. -/
theorem unbroken_trim : Unbroken (trim isPadding s) ↔ Unbroken s := by
  have hkept : ∀ c ∈ s, (c = '\r' ∨ c = '\n') → c ∈ trim isPadding s := by
    rintro c hc (rfl | rfl) <;> exact mem_trim hc (by decide)
  constructor
  · intro h c hc
    refine ⟨fun he => ?_, fun he => ?_⟩
    · exact (h c (hkept c hc (.inl he))).1 he
    · exact (h c (hkept c hc (.inr he))).2 he
  · exact fun h => h.subset fun c hc => mem_of_trim hc

theorem unbroken_joinWith {sep : List Char} {parts : List (List Char)} (hs : Unbroken sep) :
    Unbroken (joinWith sep parts) ↔ ∀ part ∈ parts, Unbroken part := by
  constructor
  · exact fun h part hp => h.subset fun c hc => mem_joinWith_of_mem hp hc
  · intro h c hc
    rcases mem_joinWith hc with hc | ⟨part, hp, hc⟩
    · exact hs c hc
    · exact h part hp c hc

theorem unbroken_map_toLower (h : Unbroken s) : Unbroken (s.map Char.toLower) := by
  intro d hd
  obtain ⟨c, hc, rfl⟩ := List.mem_map.mp hd
  have hbreak : ∀ {e : Char}, c ≠ e → e.toNat < 65 → c.toLower ≠ e := by
    intro e hne hlt he
    have hn := toNat_toLower c
    rw [he] at hn
    split at hn
    · omega
    · exact hne (Char.toNat_inj.mp hn.symm)
  exact ⟨hbreak (h c hc).1 (by decide), hbreak (h c hc).2 (by decide)⟩

end Text

namespace Http

open Text (Unbroken unbroken_append unbroken_cons unbroken_trim unbroken_joinWith)

structure Request.Unbroken (request : Request) : Prop where
  method : Text.Unbroken request.method.toList
  path : Text.Unbroken request.path.toList
  query : Text.Unbroken request.query.toList
  version : Text.Unbroken request.version.toList
  names : ∀ e ∈ request.headers.entries, Text.Unbroken e.1.toList
  values : ∀ e ∈ request.headers.entries, Text.Unbroken e.2.toList

namespace Target

variable {s : List Char} {target : Target}

/-- What is cut at the first question mark has no line breaks if the parts have none. -/
theorem unbroken_ofPathAndQuery :
    Unbroken (ofPathAndQuery s).path ∧ Unbroken (ofPathAndQuery s).query ↔ Unbroken s := by
  unfold ofPathAndQuery
  cases hc : Text.cut '?' s with
  | mk path query =>
    cases query with
    | none =>
      obtain ⟨rfl, -⟩ := Text.cut_eq_none.mp hc
      exact and_iff_left nofun
    | some query =>
      obtain ⟨rfl, -⟩ := Text.cut_eq_some.mp hc
      rw [unbroken_append, unbroken_cons (by decide)]
      rfl

/-- An address loses its line breaks when it is read. -/
theorem unbroken_ofAbsolute (h : ofAbsolute s = .ok target) :
    Unbroken target.path ∧ Unbroken target.query := by
  unfold ofAbsolute at h
  dsimp only at h
  split at h
  · cases h
  · cases h
    have hkept : Unbroken (s.filter fun c => !(c == '\t' || c == '\r' || c == '\n')) := by
      intro c hc
      have hp := (List.mem_filter.mp hc).2
      simp only [Bool.not_eq_true', Bool.or_eq_false_iff, beq_eq_false_iff_ne] at hp
      exact ⟨hp.1.2, hp.2⟩
    generalize s.filter _ = kept at hkept ⊢
    have hrest : Unbroken (Text.cut '#' (kept.dropWhile (!endsAuthority ·))).1 := by
      rw [Text.cut_fst]
      exact hkept.subset fun c hc =>
        (List.dropWhile_sublist _).subset ((List.takeWhile_sublist _).subset hc)
    have hparts := unbroken_ofPathAndQuery.mpr hrest
    split
    · have hroot : Unbroken ['/'] := by simp [Unbroken]
      exact ⟨hroot, hparts.2⟩
    · exact hparts

/-- Line breaks of a target are kept unless it is an address. -/
theorem unbroken_read (h : read s = .ok target) :
    Unbroken target.path ∧ Unbroken target.query ↔ (Local s → Unbroken s) := by
  by_cases hl : Local s
  · cases (read_local hl).symm.trans h
    rw [unbroken_ofPathAndQuery, forall_prop_of_true hl]
  · refine iff_of_true ?_ fun hl' => absurd hl' hl
    rcases read_eq_ok.mp h with ⟨hl', -⟩ | ⟨rest, -, ha⟩
    · exact absurd hl' hl
    · exact unbroken_ofAbsolute ha

def Legible (s : List Char) : Prop :=
  Local s ∨ ∃ rest, afterScheme? s = some rest ∧ Admissible (authority rest)

theorem ofAbsolute_iff (rest : List Char) :
    (∃ target, ofAbsolute rest = .ok target) ↔ Admissible (authority rest) := by
  rw [← checkAuthority_eq_ok_iff, authority]
  unfold ofAbsolute
  dsimp only
  split <;> simp_all

theorem legible_iff : Legible s ↔ ∃ target, read s = .ok target := by
  simp only [read_eq_ok, Legible, ← ofAbsolute_iff]
  constructor
  · rintro (hl | ⟨rest, hs, target, ha⟩)
    · exact ⟨_, .inl ⟨hl, rfl⟩⟩
    · exact ⟨target, .inr ⟨rest, hs, ha⟩⟩
  · rintro ⟨target, ⟨hl, -⟩ | ⟨rest, hs, ha⟩⟩
    · exact .inl hl
    · exact .inr ⟨rest, hs, target, ha⟩

end Target

namespace Head

variable {block : Bytes} {request : Request} {target : Target}

theorem unbroken_of_isToken {name : List Char} (h : isToken name) : Unbroken name :=
  fun _ hc => ⟨fun he => not_mem_of_isToken h (.inl (by decide)) (he ▸ hc),
    fun he => not_mem_of_isToken h (.inl (by decide)) (he ▸ hc)⟩

theorem unbroken_version {minor : Char} (h : minor.isDigit) :
    Unbroken ("HTTP/".toList ++ ['1', '.', minor]) := by
  have hfront : Unbroken ("HTTP/".toList ++ ['1', '.']) := by simp [Unbroken]
  have hminor : Unbroken [minor] := by
    intro c hc
    obtain rfl := List.mem_singleton.mp hc
    exact ⟨(ne_of_isDigit h (by decide)).symm, (ne_of_isDigit h (by decide)).symm⟩
  have hboth := unbroken_append.mpr ⟨hfront, hminor⟩
  rwa [List.append_assoc] at hboth

theorem unbroken_valuesOf (fields : List Field) (name : String) :
    (∀ v ∈ valuesOf fields name, Unbroken v) ↔
      ∀ field ∈ fields, field.key = name → Unbroken field.padded := by
  have hiff : ∀ field : Field, Unbroken field.value ↔ Unbroken field.padded := fun _ => unbroken_trim
  simp only [valuesOf, List.mem_filterMap, Option.ite_none_right_eq_some, Option.some.injEq]
  constructor
  · intro h field hf hk
    exact (hiff field).mp (h _ ⟨field, hf, hk, rfl⟩)
  · rintro h _ ⟨field, hf, hk, rfl⟩
    exact (hiff field).mpr (h field hf hk)

/-- What is kept of the values of a name has a line break where one of them has. -/
theorem Parts.unbroken_merged (parts : Parts) (name : String) :
    Unbroken (merged parts.fields name).toList ↔ ∀ v ∈ valuesOf parts.fields name, Unbroken v := by
  rw [merged, String.toList_ofList]
  split
  · rename_i hn
    subst hn
    have hagreed := parts.agreed
    cases hv : valuesOf parts.fields "content-length" with
    | nil => simp [Unbroken]
    | cons length rest =>
      rw [hv] at hagreed
      have hsame : ∀ v ∈ length :: rest, v = length :=
        fun v hm => hagreed v hm length List.mem_cons_self
      exact ⟨fun h v hm => hsame v hm ▸ h, fun h => h length List.mem_cons_self⟩
  · exact unbroken_joinWith (by simp [Unbroken])

theorem Parts.unbroken_values (parts : Parts) :
    (∀ e ∈ (headersOf parts.fields).entries, Unbroken e.2.toList) ↔
      ∀ field ∈ parts.fields, Unbroken field.padded := by
  have hentries : (∀ e ∈ (headersOf parts.fields).entries, Unbroken e.2.toList) ↔
      ∀ name ∈ parts.fields.map Field.key, Unbroken (merged parts.fields name).toList := by
    simp [headersOf]
  rw [hentries]
  simp only [parts.unbroken_merged, unbroken_valuesOf]
  constructor
  · exact fun h field hf => h field.key (List.mem_map_of_mem hf) field hf rfl
  · exact fun h name _ field hf _ => h field hf

theorem Field.unbroken_key (field : Field) : Unbroken field.key.toList := by
  rw [Field.key, String.toList_ofList]
  exact Text.unbroken_map_toLower (unbroken_of_isToken field.token)

theorem unbroken_names (fields : List Field) :
    ∀ e ∈ (headersOf fields).entries, Unbroken e.1.toList := by
  intro e he
  obtain ⟨name, hn, rfl⟩ := List.mem_map.mp he
  obtain ⟨field, -, rfl⟩ := List.mem_map.mp (List.mem_eraseDups.mp hn)
  exact field.unbroken_key

def Broken (block : Bytes) : Prop := ∃ line ∈ linesOf block, ¬ Unbroken line

def Disfigured (block : Bytes) : Prop :=
  ∃ line lines, linesOf block = line :: lines ∧
    ((∃ method target version, Text.splitOn ' ' line = [method, target, version] ∧
      (¬ Unbroken method ∨ ¬ Unbroken version)) ∨
    ∃ field ∈ lines, ¬ Unbroken (Text.cut ':' field).1)

def Legible (block : Bytes) : Prop :=
  ∃ parts : Parts, linesOf block = parts.lines ∧ Target.Legible parts.target

theorem legible_iff : Legible block ↔ ∃ request, read block = .ok request := by
  constructor
  · rintro ⟨parts, hl, hlegible⟩
    obtain ⟨target, ht⟩ := Target.legible_iff.mp hlegible
    exact ⟨_, parts.read hl ht⟩
  · rintro ⟨request, hr⟩
    obtain ⟨parts, target, hl, ht, -⟩ := exists_parts hr
    exact ⟨parts, hl, Target.legible_iff.mpr ⟨target, ht⟩⟩

/-- No line break is left in a request that is read, and a block with one is refused for it. -/
structure Guarded (block : Bytes) : Prop where
  unbroken (request : Request) (h : read block = .ok request) : request.Unbroken
  refused (h : Broken block) : ∃ why, read block = .error (.refused why) ∧ why.problem.status = 400

/-- The parts of a head let line breaks through into a request: those of the target, if it is no
address, and those of the values, and no others. -/
structure LetsThrough (parts : Parts) (request : Request) : Prop where
  method : Unbroken request.method.toList
  version : Unbroken request.version.toList
  names : ∀ e ∈ request.headers.entries, Unbroken e.1.toList
  target : Unbroken request.path.toList ∧ Unbroken request.query.toList ↔
    (Target.Local parts.target → Unbroken parts.target)
  values : (∀ e ∈ request.headers.entries, Unbroken e.2.toList) ↔
    ∀ field ∈ parts.fields, Unbroken field.padded

theorem Parts.letsThrough (parts : Parts) (ht : Target.read parts.target = .ok target) :
    LetsThrough parts (parts.request target) where
  method := by
    rw [Parts.request, String.toList_ofList]
    exact unbroken_of_isToken parts.token
  version := by
    rw [Parts.request, String.toList_ofList]
    exact unbroken_version parts.digit
  names := unbroken_names parts.fields
  target := by
    rw [Parts.request, String.toList_ofList, String.toList_ofList]
    exact Target.unbroken_read ht
  values := parts.unbroken_values

theorem Parts.not_disfigured (parts : Parts) (hl : linesOf block = parts.lines) :
    ¬ Disfigured block := by
  rintro ⟨line, lines, hd, h⟩
  cases hl.symm.trans hd
  rcases h with ⟨method, target, version, hs, h⟩ | ⟨line, hm, h⟩
  · cases parts.isRequestLine.splitOn.symm.trans hs
    exact h.elim (absurd (unbroken_of_isToken parts.token)) (absurd (unbroken_version parts.digit))
  · obtain ⟨field, -, rfl⟩ := List.mem_map.mp hm
    rw [field.cut_text] at h
    exact h (unbroken_of_isToken field.token)

theorem Parts.unbroken (parts : Parts) (ht : Target.read parts.target = .ok target)
    (hl : linesOf block = parts.lines) (hb : ¬ Broken block) :
    (parts.request target).Unbroken := by
  have hwhole : ∀ line ∈ parts.lines, Unbroken line :=
    fun line hm => Classical.byContradiction fun hn => hb ⟨line, hl ▸ hm, hn⟩
  have htarget : Unbroken parts.target := by
    have hline := hwhole parts.requestLine List.mem_cons_self
    refine hline.subset fun c hc => ?_
    simp [Parts.requestLine, hc]
  have hvalues : ∀ field ∈ parts.fields, Unbroken field.padded := by
    intro field hf
    have hline := hwhole field.text (List.mem_cons_of_mem _ (List.mem_map_of_mem hf))
    exact hline.subset fun c hc => List.mem_append_right _ (List.mem_cons_of_mem _ hc)
  have hthrough := parts.letsThrough ht
  have hplace := hthrough.target.mpr fun _ => htarget
  exact ⟨hthrough.method, hplace.1, hplace.2, hthrough.version, hthrough.names,
    hthrough.values.mpr hvalues⟩

/-- What becomes of line breaks. All are kept out of requests exactly if none is in a block, or the
block is refused for something else; those outside the target and the values always are. -/
structure Sifted (block : Bytes) : Prop where
  guarded : Guarded block ↔
    (Broken block → ¬ Legible block ∧ ¬ Unsupported block ∧ ¬ MisaddressedHead block)
  disfigured (h : Disfigured block) (hu : ¬ Unsupported block) (hm : ¬ MisaddressedHead block) :
    ∃ why, read block = .error (.refused why) ∧ why.problem.status = 400
  through (request : Request) (h : read block = .ok request) :
    ∃ parts : Parts, linesOf block = parts.lines ∧ LetsThrough parts request

/-- A head has no line breaks in its method, in its version and in the names of its fields, but they are
let through in its target and in the values. -/
theorem breaks_sifted (block : Bytes) : Sifted block where
  guarded := by
    constructor
    · intro hg hb
      obtain ⟨why, he, hs⟩ := hg.refused hb
      refine ⟨fun hl => ?_, not_unsupported_of_refused ⟨why, he, hs⟩, fun hm => ?_⟩
      · obtain ⟨request, hok⟩ := legible_iff.mp hl
        exact not_read_of_refused he hok
      · have hjudged := judged_read block
        rw [he] at hjudged
        cases hjudged with
        | refused h => exact h hm
    · intro h
      refine ⟨fun request hr => ?_, fun hb => ?_⟩
      · have hb : ¬ Broken block := fun hb => (h hb).1 (legible_iff.mpr ⟨request, hr⟩)
        obtain ⟨parts, target, hl, ht, rfl⟩ := exists_parts hr
        exact parts.unbroken ht hl hb
      · obtain ⟨hl, hu, hm⟩ := h hb
        exact refused_of_not_read (fun request hr => hl (legible_iff.mpr ⟨request, hr⟩)) hu hm
  disfigured h hu hm := by
    refine refused_of_not_read (fun request hr => ?_) hu hm
    obtain ⟨parts, _, hl, -⟩ := exists_parts hr
    exact parts.not_disfigured hl h
  through request h := by
    obtain ⟨parts, target, hl, ht, rfl⟩ := exists_parts h
    exact ⟨parts, hl, parts.letsThrough ht⟩

/-- A line feed in a path is let through. -/
theorem not_guarded_path :
    let block := Bytes.ofString "GET /a\nb HTTP/1.1\r\nHost: a"
    read block = .ok {
      method := "GET", path := "/a\nb", version := "HTTP/1.1"
      headers := { entries := [("host", "a")] } } ∧ ¬ Guarded block := by
  intro block
  have hr : read block = .ok {
      method := "GET", path := "/a\nb", version := "HTTP/1.1"
      headers := { entries := [("host", "a")] } } := rfl
  refine ⟨hr, fun hg => ?_⟩
  have hpath := (hg.unbroken _ hr).path
  exact (hpath '\n' (by decide)).2 rfl

end Head

end Http

end FixedReply
