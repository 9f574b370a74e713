import FixedReply.Proofs.Http.FieldNames
import FixedReply.Proofs.Wire.Client

namespace FixedReply

open Wire (Received Sending)
open Http.Response (Told)

namespace Http

structure Fields.Tidy (fields : Fields) : Prop where
  token : ∀ e ∈ fields.entries, Head.isToken e.1.toList
  latin : ∀ e ∈ fields.entries, Below 256 e.2.toList
  unbroken : ∀ e ∈ fields.entries, '\r' ∉ e.2.toList ∧ '\n' ∉ e.2.toList

def Fields.Ascii (fields : Fields) : Prop := ∀ e ∈ fields.entries, Below 128 e.1.toList

theorem Fields.Tidy.ascii {fields : Fields} (h : fields.Tidy) : fields.Ascii :=
  fun e he => Head.ascii_of_isToken (h.token e he)

namespace Response

variable {response other : Response} {keepAlive : Bool} {version : String}

theorem told_of_tidy (h : response.headers.Tidy) : ∀ e ∈ response.given, Told e := by
  intro e he
  obtain ⟨entry, hm, rfl⟩ := List.mem_map.mp he
  exact ⟨fun c hc => canonicalName_range (h.token entry hm) hc, h.latin entry hm,
    Text.isLine_of_not_mem (h.unbroken entry hm).1⟩

/-- The names that are sent are in their canonical form. -/
theorem canonical_names (h : response.headers.Ascii) :
    ∀ name ∈ response.given.map Prod.fst ++ ownNames keepAlive version,
      Below 128 name.toList ∧ canonicalName name = name := by
  have hown : ∀ name ∈ ["Content-Length", "Connection"],
      Below 128 name.toList ∧ canonicalName name = name := by decide +kernel
  intro name hm
  rcases List.mem_append.mp hm with hm | hm
  · obtain ⟨e, he, rfl⟩ := List.mem_map.mp hm
    obtain ⟨entry, hentry, rfl⟩ := List.mem_map.mp he
    exact ⟨below_canonicalName (h entry hentry), canonicalName_canonicalName (h entry hentry)⟩
  · apply hown
    rcases List.mem_cons.mp hm with rfl | hm
    · exact List.mem_cons_self
    · split at hm
      · exact List.mem_cons_of_mem _ hm
      · cases hm

theorem sentHeaders_canonical (h : response.headers.Ascii) :
    ∀ e ∈ (response.sentHeaders keepAlive version).entries,
      Below 128 e.1.toList ∧ canonicalName e.1 = e.1 := by
  intro e he
  have hm : e.1 ∈ (response.sentHeaders keepAlive version).names := List.mem_map_of_mem he
  rw [names_sentHeaders, List.mem_eraseDups] at hm
  exact canonical_names h _ hm

/-- In small letters the names are those of the handler, and then those of the encoding. -/
theorem small_names (h : response.headers.Ascii) :
    (response.sentHeaders keepAlive version).names.map small =
      (response.headers.names.map small ++ (ownNames keepAlive version).map small).eraseDups := by
  have hcanonical : ∀ name ∈ response.given.map Prod.fst ++ ownNames keepAlive version,
      Below 128 name.toList ∧ canonicalName name = name := canonical_names h
  have hapart : ∀ a ∈ response.given.map Prod.fst ++ ownNames keepAlive version,
      ∀ b ∈ response.given.map Prod.fst ++ ownNames keepAlive version, small a = small b → a = b := by
    intro a ha b hb hs
    obtain ⟨hlow, hown⟩ := hcanonical a ha
    obtain ⟨hlow', hown'⟩ := hcanonical b hb
    rw [← hown, ← hown', (canonicalName_eq_iff hlow hlow').mpr hs]
  have hgiven : (response.given.map Prod.fst).map small = response.headers.names.map small := by
    rw [given, Fields.names, List.map_map, List.map_map, List.map_map]
    exact List.map_congr_left fun e he => small_canonicalName (h e he)
  rw [names_sentHeaders, ← Fields.map_eraseDups hapart, List.map_append, hgiven]

structure Respelled (response other : Response) : Prop where
  status : response.status = other.status
  body : response.body = other.body
  ascii : response.headers.Ascii ∧ other.headers.Ascii
  fields : List.Forall₂ (fun e f => small e.1 = small f.1 ∧ e.2 = f.2) response.headers.entries
    other.headers.entries

theorem Respelled.given_eq (h : Respelled response other) : response.given = other.given := by
  have hnames : ∀ {entries others : List (String × String)},
      List.Forall₂ (fun e f => small e.1 = small f.1 ∧ e.2 = f.2) entries others →
      (∀ e ∈ entries, Below 128 e.1.toList) → (∀ e ∈ others, Below 128 e.1.toList) →
        entries.map (fun e => (canonicalName e.1, e.2)) =
          others.map fun e => (canonicalName e.1, e.2) := by
    intro entries others hf he ho
    induction hf with
    | nil => rfl
    | cons hsame _ ih =>
      obtain ⟨he, hentries⟩ := List.forall_mem_cons.mp he
      obtain ⟨ho, hothers⟩ := List.forall_mem_cons.mp ho
      rw [List.map_cons, List.map_cons, ih hentries hothers,
        (canonicalName_eq_iff he ho).mpr hsame.1, hsame.2]
  exact hnames h.fields h.ascii.1 h.ascii.2

end Response

end Http

namespace Wire

open Http (Fields Response small canonicalName)

namespace Received

variable {fields : Fields} {entries : List (String × String)} {name : String}

theorem values_eq (entries : List (String × String)) (name : String) : values entries name =
    entries.filterMap fun e => if small e.1 = name then some e.2 else none := by
  simp only [values, Http.small_eq_iff]

theorem values_eq_nil (h : ∀ e ∈ entries, small e.1 ≠ name) : values entries name = [] := by
  rw [values_eq]
  exact List.filterMap_eq_nil_iff.mpr fun e he => if_neg (h e he)

/-- Of canonical names there is one for each name in small letters. -/
theorem values_canonical
    (h : ∀ e ∈ fields.entries, Below 128 e.1.toList ∧ canonicalName e.1 = e.1)
    (hn : Below 128 name.toList) :
    values fields.entries (small name) = (fields.find? (canonicalName name)).toList := by
  rw [values_eq, ← Fields.filterMap_entries]
  refine List.filterMap_congr fun e he => ?_
  obtain ⟨ha, hc⟩ := h e he
  have hsame : small e.1 = small name ↔ e.1 = canonicalName name := by
    rw [← Http.canonicalName_eq_iff ha hn, hc]
  simp only [hsame]

/-- The value that is found last among names that were rewritten. -/
theorem lookup_reverse {rewrite : String → String} {found : String}
    (h : ∀ e ∈ entries, found = rewrite e.1 ↔ small e.1 = name) :
    (entries.map fun e => (rewrite e.1, e.2)).reverse.lookup found =
      (values entries name).getLast? := by
  rw [List.lookup_eq_findSome?, ← List.getLast?_filterMap, List.filterMap_map, values_eq]
  congr 1
  refine List.filterMap_congr fun e he => ?_
  simp only [Function.comp_apply, beq_iff_eq, h e he]

theorem given?_eq {response : Response} (h : response.headers.Ascii) (hn : Below 128 name.toList) :
    response.given? (canonicalName name) = (values response.headers.entries (small name)).getLast? := by
  refine lookup_reverse fun e he => ?_
  rw [eq_comm]
  exact Http.canonicalName_eq_iff (h e he) hn

end Received

namespace Sending

variable {sending : Sending} {fields : List (String × String)}

/-- The fields that a response is sent with: each name once, where the handler or else the encoding first
gave it, with the value given last. Only of the connection the encoding has its own way. -/
structure Lists (sending : Sending) (fields : List (String × String)) : Prop where
  names : fields.map (small ∘ Prod.fst) = (sending.response.headers.names.map small ++
    (Response.ownNames sending.keepAlive sending.version).map small).eraseDups
  spelled : ∀ e ∈ fields, canonicalName e.1 = e.1
  value : ∀ name, name ≠ "content-length" → name ≠ "connection" →
    Received.values fields name = (Received.values sending.response.headers.entries name).getLast?.toList
  length : Received.values fields "content-length" =
    [(Received.values sending.response.headers.entries "content-length").getLast?.getD
      (toString sending.response.payload.length)]
  connection : Received.values fields "connection" =
    ((Response.fate? sending.keepAlive sending.version).or
      (Received.values sending.response.headers.entries "connection").getLast?).toList

theorem lists_received (h : sending.response.headers.Ascii) :
    sending.Lists sending.received.fields := by
  have hcanonical : ∀ e ∈ (sending.response.sentHeaders sending.keepAlive sending.version).entries,
      Below 128 e.1.toList ∧ canonicalName e.1 = e.1 := Response.sentHeaders_canonical h
  have hlength : canonicalName "content-length" = "Content-Length" := by decide +kernel
  have hconnection : canonicalName "connection" = "Connection" := by decide +kernel
  have hvalues : ∀ {name : String}, Below 128 name.toList →
      Received.values sending.received.fields (small name) =
        ((sending.response.sentHeaders sending.keepAlive sending.version).find?
          (canonicalName name)).toList := Received.values_canonical hcanonical
  constructor
  case names =>
    rw [← Response.small_names h, Fields.names, List.map_map]
    rfl
  case spelled => exact fun e he => (hcanonical e he).2
  case value =>
    intro name hl hc
    -- Names other than these are found on neither side.
    by_cases hs : ∃ given : String, Below 128 given.toList ∧ small given = name
    · obtain ⟨given, hg, rfl⟩ := hs
      have hother : ∀ {own : String}, Below 128 own.toList → small given ≠ small own →
          canonicalName given ≠ canonicalName own :=
        fun ho hne he => hne ((Http.canonicalName_eq_iff hg ho).mp he)
      rw [hvalues hg, Response.find?_sentHeaders, Received.given?_eq h hg]
      · exact hlength ▸ hother (by decide) hl
      · exact hconnection ▸ hother (by decide) hc
    · have hsent : Received.values sending.received.fields name = [] :=
        Received.values_eq_nil fun e he hn => hs ⟨e.1, (hcanonical e he).1, hn⟩
      rw [hsent, Received.values_eq_nil fun e he hn => hs ⟨e.1, h e he, hn⟩]
      rfl
  case length =>
    have hname : Below 128 "content-length".toList := by decide
    have hgiven := Received.given?_eq h hname
    have hsent := hvalues hname
    rw [hlength] at hgiven hsent
    rw [Response.find?_length, Response.statedLength, hgiven] at hsent
    exact hsent
  case connection =>
    have hname : Below 128 "connection".toList := by decide
    have hgiven := Received.given?_eq h hname
    have hsent := hvalues hname
    rw [hconnection] at hgiven hsent
    rw [Response.find?_connection, hgiven] at hsent
    exact hsent

def Emits (sending : Sending) (fields : List (String × String)) : Prop :=
  ∃ output, sending.encode = .ok output ∧
    Received.head? output = some (sending.response.status, fields)

theorem emits_received (h : ∀ e ∈ sending.response.given, Told e) : sending.Emits sending.received.fields :=
  head?_encode h

def Types (sending : Sending) (headers : Fields) (otherwise : String) : Prop :=
  ∃ fields, sending.Emits fields ∧ Received.values fields "content-type" =
    [(Received.values headers.entries "content-type").getLast?.getD otherwise]

end Sending

def textType (encoding : String) : String := "text/plain; charset=" ++ encoding

section

variable {headers : Fields} {encoding : String}

def textPairs (encoding : String) (headers : Fields) : List (String × String) :=
  ("content-type", textType encoding) :: headers.entries.map fun e => (Text.lowerString e.1, e.2)

theorem textHeaders_eq (encoding : String) (headers : Fields) :
    Response.textHeaders encoding headers = Fields.ofPairs (textPairs encoding headers) := rfl

theorem small_textPairs (h : headers.Ascii) :
    ∀ e ∈ textPairs encoding headers, Below 128 e.1.toList ∧ small e.1 = e.1 := by
  intro e he
  rcases List.mem_cons.mp he with rfl | he
  · exact ⟨(by decide : Below 128 "content-type".toList),
      (by decide +kernel : small "content-type" = "content-type")⟩
  · obtain ⟨entry, hm, rfl⟩ := List.mem_map.mp he
    dsimp only
    rw [Http.lowerString_eq (h entry hm)]
    exact ⟨Http.below_small (h entry hm), Http.small_small _⟩

theorem find?_contentType (h : headers.Ascii) :
    (Response.textHeaders encoding headers).find? "content-type" =
      some ((Received.values headers.entries "content-type").getLast?.getD (textType encoding)) := by
  have hlast : (headers.entries.map fun e => (Text.lowerString e.1, e.2)).reverse.lookup "content-type" =
      (Received.values headers.entries "content-type").getLast? := by
    refine Received.lookup_reverse fun e he => ?_
    rw [Http.lowerString_eq (h e he), eq_comm]
  rw [textHeaders_eq, Fields.find?_ofPairs, textPairs, List.reverse_cons, List.lookup_append, hlast]
  cases (Received.values headers.entries "content-type").getLast? <;> rfl

theorem values_contentType (h : headers.Ascii) :
    Received.values (Response.textHeaders encoding headers).entries "content-type" =
      [(Received.values headers.entries "content-type").getLast?.getD (textType encoding)] := by
  have hsmall : ∀ e ∈ (Response.textHeaders encoding headers).entries, small e.1 = e.1 :=
    fun e he => (small_textPairs h e (Fields.mem_ofPairs he)).2
  have hvalues : Received.values (Response.textHeaders encoding headers).entries "content-type" =
      ((Response.textHeaders encoding headers).find? "content-type").toList := by
    rw [Received.values_eq, ← Fields.filterMap_entries]
    exact List.filterMap_congr fun e he => by rw [hsmall e he]
  rw [hvalues, find?_contentType h]
  rfl

/-- The fields of a text response are those that are given and, only if no content type is, one more. -/
theorem mem_textHeaders (h : headers.Ascii) {e : String × String}
    (he : e ∈ (Response.textHeaders encoding headers).entries) :
    (∃ given ∈ headers.entries, e = (small given.1, given.2)) ∨
      e = ("content-type", textType encoding) ∧
        Received.values headers.entries "content-type" = [] := by
  have hpair : e ∈ textPairs encoding headers := Fields.mem_ofPairs he
  rcases List.mem_cons.mp hpair with rfl | hm
  · have hfound := (Fields.mem_entries_iff.mp he).symm.trans (find?_contentType h)
    cases hlast : (Received.values headers.entries "content-type").getLast? with
    | none => exact .inr ⟨rfl, List.getLast?_eq_none_iff.mp hlast⟩
    | some value =>
      rw [hlast] at hfound
      have hmem := List.mem_of_getLast? hlast
      rw [Received.values_eq] at hmem
      obtain ⟨given, hgiven, hv⟩ := List.mem_filterMap.mp hmem
      obtain ⟨hname, hvalue⟩ := Option.ite_none_right_eq_some.mp hv
      refine .inl ⟨given, hgiven, ?_⟩
      rw [hname, Option.some.inj hfound, Option.some.inj hvalue]
      rfl
  · obtain ⟨given, hgiven, rfl⟩ := List.mem_map.mp hm
    exact .inl ⟨given, hgiven, by rw [Http.lowerString_eq (h given hgiven)]⟩

/-- A text response is sent with one content type. -/
theorem types_text (ht : headers.Tidy) (he : Received.values headers.entries "content-type" = [] →
      Below 256 encoding.toList ∧ '\r' ∉ encoding.toList) {sending : Sending}
    (hs : sending.response.headers = Response.textHeaders encoding headers) :
    sending.Types headers (textType encoding) := by
  have hascii : sending.response.headers.Ascii :=
    fun e hm => (small_textPairs ht.ascii e (Fields.mem_ofPairs (hs ▸ hm))).1
  have htold : ∀ e ∈ sending.response.given, Told e := by
    intro e hm
    obtain ⟨entry, hentry, rfl⟩ := List.mem_map.mp hm
    rcases mem_textHeaders ht.ascii (hs ▸ hentry) with ⟨given, hgiven, rfl⟩ | ⟨rfl, hnone⟩
    · have hname := Http.canonicalName_small (ht.ascii given hgiven)
      refine ⟨fun c hc => ?_, ht.latin given hgiven, Text.isLine_of_not_mem (ht.unbroken given hgiven).1⟩
      exact Http.canonicalName_range (ht.token given hgiven) (hname ▸ hc)
    · obtain ⟨hlatin, hcr⟩ := he hnone
      have htype : (textType encoding).toList = "text/plain; charset=".toList ++ encoding.toList :=
        String.toList_append
      have hname : canonicalName "content-type" = "Content-Type" := by decide +kernel
      refine ⟨?_, ?_, Text.isLine_of_not_mem ?_⟩
      · dsimp only
        rw [hname]
        exact Response.plain_name "Content-Type" (by decide)
      · exact htype ▸ below_append.mpr ⟨by decide, hlatin⟩
      · rw [htype, List.mem_append]
        exact fun hc => hc.elim (by decide) hcr
  refine ⟨_, Sending.emits_received htold, ?_⟩
  rw [(Sending.lists_received hascii).value _ (by decide) (by decide), hs, values_contentType ht.ascii]
  rfl

end

/-- Field names are told apart by their letters and not by their case, from the handler to the bytes
that are sent. -/
theorem names_ignore_case :
    (∀ name other : String, Below 128 name.toList → Below 128 other.toList →
      canonicalName (canonicalName name) = canonicalName name ∧
        (canonicalName name = canonicalName other ↔ small name = small other)) ∧
    (∀ sending : Sending, sending.response.headers.Tidy →
      ∃ fields, sending.Emits fields ∧ sending.Lists fields) ∧
    (∀ response other : Response, response.Respelled other → ∀ keepAlive version headOnly,
      response.encode keepAlive version headOnly = other.encode keepAlive version headOnly) ∧
    ∀ (encoding text : String) (status : Int) (written : Text.IsWritten status) (headers : Fields)
      (response : Response), headers.Tidy →
      (Received.values headers.entries "content-type" = [] →
        Below 256 encoding.toList ∧ '\r' ∉ encoding.toList) →
      (Response.textIn encoding text status headers written = .ok response ∨
        encoding = "utf-8" ∧ response = Response.text text status headers written) →
      ∀ keepAlive version headOnly,
        Sending.Types { response, keepAlive, version, headOnly } headers (textType encoding) := by
  refine ⟨fun name other hn ho => ?_, fun sending ht => ?_, fun response other hr keepAlive version headOnly => ?_,
    fun encoding text status written headers response ht he hmade keepAlive version headOnly => ?_⟩
  · exact ⟨Http.canonicalName_canonicalName hn, Http.canonicalName_eq_iff hn ho⟩
  · exact ⟨_, Sending.emits_received (Response.told_of_tidy ht), Sending.lists_received ht.ascii⟩
  · exact Response.encode_congr hr.status hr.body hr.given_eq keepAlive version headOnly
  · refine types_text ht he ?_
    rcases hmade with hmade | ⟨rfl, rfl⟩
    · unfold Response.textIn at hmade
      split at hmade <;> cases hmade
      rfl
    · rfl

def manySpellings : Fields where
  entries := [("x-TAG", "1"), ("CONTENT-length", "7"), ("cOnnection", "Upgrade"), ("X-tag", "2")]

def fewSpellings : Fields where
  entries := [("X-Tag", "1"), ("Content-Length", "7"), ("Connection", "Upgrade"), ("x-tag", "2")]

def spelled (headers : Fields) : Response where
  headers := headers
  written := Http.isWritten_ok

theorem names_ignore_case_mixed :
    (canonicalName (canonicalName "x-TAG") = canonicalName "x-TAG" ∧
      (canonicalName "x-TAG" = canonicalName "X-tag" ↔ small "x-TAG" = small "X-tag")) ∧
    (∃ fields, Sending.Emits ⟨spelled manySpellings, false, "HTTP/1.1", false⟩ fields ∧
      Sending.Lists ⟨spelled manySpellings, false, "HTTP/1.1", false⟩ fields) ∧
    (Response.encode (spelled manySpellings) false =
        .ok (Bytes.ofString ("HTTP/1.1 200 OK\r\nX-Tag: 2\r\nContent-Length: 7\r\n" ++
          "Connection: close\r\n\r\n")) ∧
      Response.encode (spelled manySpellings) false =
        Response.encode (spelled fewSpellings) false) ∧
    Sending.Types ⟨Response.text "hi" 200 { entries := [("CONTENT-TYPE", "a/b"), ("Content-type", "c/d")] }
      Http.isWritten_ok, true, "HTTP/1.0", true⟩ { entries := [("CONTENT-TYPE", "a/b"), ("Content-type", "c/d")] }
      (textType "utf-8") := by
  obtain ⟨hnames, hlists, hrespelled, htypes⟩ := names_ignore_case
  have htidy : manySpellings.Tidy := ⟨by decide, by decide, by decide⟩
  have hrespells : Response.Respelled (spelled manySpellings) (spelled fewSpellings) := by
    refine ⟨rfl, rfl, ⟨htidy.ascii, by unfold Fields.Ascii; decide⟩, ?_⟩
    exact .cons (by decide +kernel) (.cons (by decide +kernel)
      (.cons (by decide +kernel) (.cons (by decide +kernel) .nil)))
  refine ⟨hnames _ _ (by decide) (by decide), hlists _ htidy,
    ⟨by decide +kernel, hrespelled _ _ hrespells false "HTTP/1.1" false⟩, ?_⟩
  · exact htypes "utf-8" "hi" 200 (by decide +kernel) _ _ ⟨by decide, by decide, by decide⟩ (fun _ => by decide)
      (.inr ⟨rfl, rfl⟩) _ _ _

end Wire

end FixedReply
