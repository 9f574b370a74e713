import FixedReply.Proofs.Http.Grammar

namespace FixedReply.Http

/-- Letters, digits, points and hyphens. All that lies beyond ASCII may be a letter. -/
def IsHostChar (c : Char) : Prop := c.isAlphanum ∨ c = '.' ∨ c = '-' ∨ 128 ≤ c.toNat

theorem IsHostChar.ne {c d : Char} (h : IsHostChar c) (hd : d.isAlphanum = false)
    (hn : d ≠ '.' ∧ d ≠ '-' ∧ d.toNat < 128) : c ≠ d := by
  rintro rfl
  rcases h with h | h | h | h
  · cases hd.symm.trans h
  · exact hn.1 h
  · exact hn.2.1 h
  · exact Nat.not_lt.mpr h hn.2.2

namespace Target

def isSeen (c : Char) : Bool := !(c == '\t' || c == '\r' || c == '\n')

def seen (target : Target) : Target where
  path := target.path.filter isSeen
  query := target.query.filter isSeen

variable {s host : List Char} {target : Target}

theorem ofPathAndQuery_seen (s : List Char) :
    ofPathAndQuery (s.filter isSeen) = (ofPathAndQuery s).seen := by
  have hout : ∀ {part : List Char}, '?' ∉ part → '?' ∉ part.filter isSeen :=
    fun hn hm => hn (List.mem_filter.mp hm).1
  unfold ofPathAndQuery
  cases hc : Text.cut '?' s with
  | mk path query =>
    cases query with
    | none =>
      obtain ⟨rfl, hn⟩ := Text.cut_eq_none.mp hc
      rw [Text.cut_self (hout hn)]
      rfl
    | some query =>
      obtain ⟨rfl, hn⟩ := Text.cut_eq_some.mp hc
      have hcut : Text.cut '?' ((path ++ '?' :: query).filter isSeen) =
          (path.filter isSeen, some (query.filter isSeen)) := by
        rw [List.filter_append]
        exact Text.cut_append (hout hn)
      rw [hcut]
      rfl

/-- Nothing is overlooked exactly if there is nothing to be overlooked. -/
theorem seen_eq_iff : (ofPathAndQuery s).seen = ofPathAndQuery s ↔ ∀ c ∈ s, isSeen c := by
  have hmark : isSeen '?' := by decide
  unfold ofPathAndQuery
  cases hc : Text.cut '?' s with
  | mk path query =>
    cases query with
    | none =>
      obtain ⟨rfl, -⟩ := Text.cut_eq_none.mp hc
      simp [seen]
    | some query =>
      obtain ⟨rfl, -⟩ := Text.cut_eq_some.mp hc
      simp only [seen, Option.getD_some, Target.mk.injEq, List.filter_eq_self, List.forall_mem_append,
        List.forall_mem_cons, hmark, true_and]

theorem Rooted.filter (h : Rooted s) {p : Char → Bool} (hp : p '/' = true) : Rooted (s.filter p) := by
  cases s with
  | nil => cases h
  | cons c rest =>
    obtain rfl : c = '/' := by simpa [Rooted] using h
    simp [Rooted, hp]

theorem Rooted.eq_cons (h : Rooted s) : ∃ rest, s = '/' :: rest := by
  cases s with
  | nil => cases h
  | cons c rest => exact ⟨rest, by rw [show c = '/' by simpa [Rooted] using h]⟩

theorem ofAbsolute_eq (s : List Char) : ofAbsolute s = match checkAuthority (authority s) with
    | .error why => .error why
    | .ok () =>
      let target := ofPathAndQuery (Text.cut '#' ((s.filter isSeen).dropWhile (!endsAuthority ·))).1
      .ok (if target.path.isEmpty then { target with path := ['/'] } else target) := rfl

theorem authority_host (hh : ∀ c ∈ host, IsHostChar c) (hr : Rooted s) :
    (host ++ s).filter isSeen = host ++ s.filter isSeen ∧ authority (host ++ s) = host ∧
      (host ++ s.filter isSeen).dropWhile (!endsAuthority ·) = s.filter isSeen := by
  have hseen : ∀ c ∈ host, isSeen c := by
    intro c hc
    have hne := fun d => (hh c hc).ne (d := d)
    simp [isSeen, hne '\t' (by decide) (by decide), hne '\r' (by decide) (by decide),
      hne '\n' (by decide) (by decide)]
  have hwithin : ∀ c ∈ host, (!endsAuthority c) = true := by
    intro c hc
    have hne := fun d => (hh c hc).ne (d := d)
    simp [endsAuthority, hne '/' (by decide) (by decide), hne '?' (by decide) (by decide),
      hne '#' (by decide) (by decide)]
  have hkept : (host ++ s).filter isSeen = host ++ s.filter isSeen := by
    rw [List.filter_append, List.filter_eq_self.mpr hseen]
  obtain ⟨rest, hs⟩ := (hr.filter (p := isSeen) (by decide)).eq_cons
  refine ⟨hkept, ?_, ?_⟩
  · change ((host ++ s).filter isSeen).takeWhile (!endsAuthority ·) = host
    rw [hkept, hs, List.takeWhile_append_of_pos hwithin]
    simp [endsAuthority]
  · rw [hs, List.dropWhile_append_of_pos hwithin]
    simp [endsAuthority]

/-- Behind a host the path is read as it would be alone, but for what is overlooked in it. -/
theorem ofAbsolute_host (hh : ∀ c ∈ host, IsHostChar c) (hr : Rooted s) (hf : '#' ∉ s) :
    ofAbsolute (host ++ s) = .ok (ofPathAndQuery s).seen := by
  obtain ⟨hkept, hauthority, hpath⟩ := authority_host hh hr
  have hplain : ∀ {d : Char}, d.isAlphanum = false → d ≠ '.' ∧ d ≠ '-' ∧ d.toNat < 128 → d ∉ host :=
    fun hd hn hm => (hh _ hm).ne hd hn rfl
  have hcheck : checkAuthority host = .ok () := checkAuthority_eq_ok_iff.mpr
    (.plain (hplain (by decide) (by decide)) (hplain (by decide) (by decide)))
  have hfragment : '#' ∉ s.filter isSeen := fun hm => hf (List.mem_filter.mp hm).1
  have hne : (ofPathAndQuery (s.filter isSeen)).path.isEmpty = false := by
    obtain ⟨rest, hs⟩ := (hr.filter (p := isSeen) (by decide)).eq_cons
    rw [path_ofPathAndQuery, hs]
    simp
  have hcut : Text.cut '#' (((host ++ s).filter isSeen).dropWhile (!endsAuthority ·)) =
      (s.filter isSeen, none) := by
    rw [hkept, hpath, Text.cut_self hfragment]
  rw [ofAbsolute_eq, hauthority, hcheck]
  dsimp only
  rw [hcut, hne, ofPathAndQuery_seen, if_neg Bool.false_ne_true]

theorem read_host {scheme : List Char} (hs : scheme = "http://".toList ∨ scheme = "https://".toList)
    (hh : ∀ c ∈ host, IsHostChar c) (hr : Rooted s) (hf : '#' ∉ s) :
    read (scheme ++ host ++ s) = .ok (ofPathAndQuery s).seen := by
  refine read_eq_ok.mpr (.inr ⟨host ++ s, ?_, ofAbsolute_host hh hr hf⟩)
  rw [afterScheme?_eq_some, List.append_assoc]
  rcases hs with rfl | rfl
  · exact .inl rfl
  · exact .inr rfl

end Target

def Request.seen (request : Request) : Request :=
  { request with
    path := String.ofList (request.path.toList.filter Target.isSeen)
    query := String.ofList (request.query.toList.filter Target.isSeen) }

namespace Head

inductive Hosted (target : List Char) (block hosted : Bytes) : Prop
  | intro {method scheme host rest : List Char} {lines : List (List Char)} (hm : ' ' ∉ method)
      (hs : scheme = "http://".toList ∨ scheme = "https://".toList) (hh : ∀ c ∈ host, IsHostChar c)
      (hb : linesOf block = (method ++ ' ' :: (target ++ ' ' :: rest)) :: lines)
      (ha : linesOf hosted = (method ++ ' ' :: (scheme ++ host ++ target ++ ' ' :: rest)) :: lines)

inductive SamePlace : Except Fault Request → Except Fault Request → Prop
  | read {request other : Request} (hp : request.path = other.path) (hq : request.query = other.query) :
      SamePlace (.ok request) (.ok other)
  | failed (fault : Fault) : SamePlace (.error fault) (.error fault)

/-- What the form of a target matters to the reading of it: nothing but for tabs and line breaks. -/
structure FormsAgree (target : List Char) (block hosted : Bytes) : Prop where
  seen : read hosted = (read block).map Request.seen
  same (h : ∀ c ∈ target, Target.isSeen c) : read hosted = read block
  place : SamePlace (read hosted) (read block) ↔
    ((∃ request, read block = .ok request) → ∀ c ∈ target, Target.isSeen c)

variable {method target other rest line : List Char} {lines : List (List Char)} {block hosted : Bytes}

theorem readRequestLine_seen {found : Target} (hm : ' ' ∉ method) (hs : ' ' ∉ target)
    (ho : ' ' ∉ other) (ht : Target.read target = .ok found) (hseen : Target.read other = .ok found.seen) :
    readRequestLine (method ++ ' ' :: (other ++ ' ' :: rest)) =
      (readRequestLine (method ++ ' ' :: (target ++ ' ' :: rest))).map Request.seen := by
  unfold readRequestLine
  rw [Text.splitOn_append hm, Text.splitOn_append ho, Text.splitOn_append hm, Text.splitOn_append hs]
  match Text.splitOn ' ' rest with
  | [] => rfl
  | _ :: _ :: _ => rfl
  | [version] =>
    dsimp only
    rw [ht, hseen]
    by_cases hmethod : isToken method
    · cases versionDigits? version with
      | none => simp [hmethod, Except.map]
      | some digits =>
        by_cases hmajor : digits.1 = '1'
        · simp [hmethod, hmajor, Except.map, Request.seen, Target.seen]
        · simp [hmethod, hmajor, Except.map]
    · simp [hmethod, Except.map]

theorem Hosted.seen (h : Hosted target block hosted) (hr : Target.Rooted target) (hs : ' ' ∉ target)
    (hf : '#' ∉ target) : read hosted = (read block).map Request.seen := by
  obtain ⟨hm, hscheme, hh, hb, ha⟩ := h
  rename_i method scheme host rest lines
  have hspace : ' ' ∉ scheme ++ host ++ target := by
    have hout : ' ' ∉ scheme := by
      rcases hscheme with rfl | rfl <;> decide
    have hhost : ' ' ∉ host := fun hc => (hh _ hc).ne (by decide) (by decide) rfl
    simp [hout, hhost, hs]
  have hline : readRequestLine (method ++ ' ' :: (scheme ++ host ++ target ++ ' ' :: rest)) =
      (readRequestLine (method ++ ' ' :: (target ++ ' ' :: rest))).map Request.seen :=
    readRequestLine_seen hm hs hspace (Target.read_local (.inl hr)) (Target.read_host hscheme hh hr hf)
  rw [read_cons ha (by simp), read_cons hb (by simp), hline]
  cases readRequestLine (method ++ ' ' :: (target ++ ' ' :: rest)) with
  | error why => rfl
  | ok asked =>
    cases readFields .empty lines with
    | error why => rfl
    | ok headers =>
      have hversion : asked.seen.version = asked.version := rfl
      simp only [Except.map, hversion]
      by_cases hmissing : (asked.version ≠ "HTTP/1.0" && !headers.has "host") = true
      · rw [if_pos hmissing, if_pos hmissing]
      · rw [if_neg hmissing, if_neg hmissing]
        rfl

/-- The request that is read of a head with such a path has that path. -/
theorem Hosted.place (h : Hosted target block hosted) (hr : Target.Rooted target) (hs : ' ' ∉ target)
    {request : Request} (hread : read block = .ok request) :
    request.path = String.ofList (Target.ofPathAndQuery target).path ∧
      request.query = String.ofList (Target.ofPathAndQuery target).query := by
  obtain ⟨hm, -, -, hb, -⟩ := h
  rename_i method _ _ rest _
  obtain ⟨parts, found, hl, ht, rfl⟩ := exists_parts hread
  have hline : parts.requestLine = method ++ ' ' :: (target ++ ' ' :: rest) :=
    (List.cons.inj (hl.symm.trans hb)).1
  have hsplit := parts.isRequestLine.splitOn
  rw [hline, Text.splitOn_append hm, Text.splitOn_append hs] at hsplit
  obtain ⟨-, htarget, -⟩ : method = parts.method ∧ target = parts.target ∧ _ := by
    simpa using hsplit
  subst htarget
  cases ht.symm.trans (Target.read_local (.inl hr))
  exact ⟨rfl, rfl⟩

/-- A host in front of a path makes no difference but for the tabs and line breaks of the path. -/
theorem forms_agree (h : Hosted target block hosted) (hr : Target.Rooted target) (hs : ' ' ∉ target)
    (hf : '#' ∉ target) : FormsAgree target block hosted := by
  have hseen := h.seen hr hs hf
  cases hread : read block with
  | error fault =>
    rw [hread] at hseen
    refine ⟨by rw [hread, hseen], fun _ => by rw [hread, hseen]; rfl, ?_⟩
    rw [hread, hseen]
    exact iff_of_true (.failed fault) fun he => nomatch he.choose_spec
  | ok request =>
    obtain ⟨hp, hq⟩ := h.place hr hs hread
    have hiff : (request.seen.path = request.path ∧ request.seen.query = request.query) ↔
        ∀ c ∈ target, Target.isSeen c := by
      rw [← Target.seen_eq_iff, Target.mk.injEq]
      simp [Request.seen, Target.seen, hp, hq, String.ofList_inj]
    rw [hread] at hseen
    refine ⟨by rw [hread, hseen], fun hall => ?_, ?_⟩
    · obtain ⟨hpath, hquery⟩ := hiff.mpr hall
      rw [hread, hseen]
      change Except.ok { request with path := request.seen.path, query := request.seen.query } = _
      rw [hpath, hquery]
    · rw [hread, hseen, ← hiff]
      constructor
      · rintro hplace -
        cases hplace with
        | read hp hq => exact ⟨hp, hq⟩
      · intro hall
        obtain ⟨hp, hq⟩ := hall ⟨request, rfl⟩
        exact .read hp hq

/-- A path with two slashes and a query, and a host that has more than letters. -/
theorem forms_agree_query :
    let target := "//a?b?c".toList
    let block := Bytes.ofString "GET //a?b?c HTTP/1.1\r\nHost: x"
    let hosted := Bytes.ofString "GET https://x-1.y//a?b?c HTTP/1.1\r\nHost: x"
    Hosted target block hosted ∧ Target.Rooted target ∧ ' ' ∉ target ∧ '#' ∉ target ∧
      FormsAgree target block hosted := by
  intro target block hosted
  have hh : ∀ c ∈ "x-1.y".toList, IsHostChar c := by simp [IsHostChar]
  have hlines : linesOf block = ("GET".toList ++ ' ' :: (target ++ ' ' :: "HTTP/1.1".toList)) ::
      ["Host: x".toList] := rfl
  have h : Hosted target block hosted := .intro (by decide) (.inr rfl) hh hlines rfl
  have hs : ' ' ∉ target := by decide
  have hf : '#' ∉ target := by decide
  exact ⟨h, rfl, hs, hf, forms_agree h rfl hs hf⟩

/-- A tab in a path is lost if a host stands in front of it. -/
theorem not_samePlace_tabbed :
    let target := "/x\ty".toList
    let block := Bytes.ofString "GET /x\ty HTTP/1.1\r\nHost: a"
    let hosted := Bytes.ofString "GET http://a/x\ty HTTP/1.1\r\nHost: a"
    Hosted target block hosted ∧ Target.Rooted target ∧ ' ' ∉ target ∧ '#' ∉ target ∧
      ¬ SamePlace (read hosted) (read block) := by
  intro target block hosted
  have hh : ∀ c ∈ "a".toList, IsHostChar c := by simp [IsHostChar]
  have hlines : linesOf block = ("GET".toList ++ ' ' :: (target ++ ' ' :: "HTTP/1.1".toList)) ::
      ["Host: a".toList] := rfl
  have h : Hosted target block hosted := .intro (by decide) (.inl rfl) hh hlines rfl
  have hblock : read block = .ok {
      method := "GET", path := "/x\ty", version := "HTTP/1.1"
      headers := { entries := [("host", "a")] } } := rfl
  have hhosted : read hosted = .ok {
      method := "GET", path := "/xy", version := "HTTP/1.1"
      headers := { entries := [("host", "a")] } } := rfl
  refine ⟨h, rfl, by decide, by decide, fun hplace => ?_⟩
  rw [hblock, hhosted] at hplace
  cases hplace with
  | read hp => exact absurd hp (by decide)

end Head

end FixedReply.Http
