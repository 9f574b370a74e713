import FixedReply.Proofs.Http.HeadFaults

namespace FixedReply.Http

open Text (cut joinWith trim isPadding)

namespace Target

variable {s : List Char} {target : Target}

/-- What stands before the first question mark, and what after it. -/
theorem ofPathAndQuery_eq (s : List Char) : ofPathAndQuery s =
    ⟨s.takeWhile fun c => decide (c ≠ '?'), (s.dropWhile fun c => decide (c ≠ '?')).drop 1⟩ := by
  have hpath := Text.cut_fst '?' s
  have hquery : (Text.cut '?' s).2.getD [] = (s.dropWhile fun c => decide (c ≠ '?')).drop 1 := by
    unfold Text.cut
    cases s.dropWhile fun c => decide (c ≠ '?') <;> rfl
  rw [← hpath, ← hquery]
  rfl

theorem read_local (h : Local s) : read s = .ok (ofPathAndQuery s) := read_eq_ok.mpr (.inl ⟨h, rfl⟩)

end Target

namespace Head

structure IsRequestLine (line method target : List Char) (major minor : Char) : Prop where
  text : line = method ++ ' ' :: (target ++ ' ' :: ("HTTP/".toList ++ [major, '.', minor]))
  token : isToken method
  unspaced : ' ' ∉ target
  major : major.isDigit
  minor : minor.isDigit

structure Field where
  name : List Char
  padded : List Char
  token : isToken name

namespace Field

def text (field : Field) : List Char := field.name ++ ':' :: field.padded

def key (field : Field) : String := String.ofList (field.name.map Char.toLower)

def value (field : Field) : List Char := trim isPadding field.padded

end Field

def valuesOf (fields : List Field) (name : String) : List (List Char) :=
  fields.filterMap fun field => if field.key = name then some field.value else none

/-- What the values of a name are kept as: joined by commas, save that one length stands for all. -/
def merged (fields : List Field) (name : String) : String :=
  String.ofList (if name = "content-length" then (valuesOf fields name).headD []
    else joinWith [',', ' '] (valuesOf fields name))

def headersOf (fields : List Field) : Fields where
  entries := (fields.map Field.key).eraseDups.map fun name => (name, merged fields name)
  distinct := by
    rw [List.map_map]
    simpa [Function.comp_def] using Fields.nodup_eraseDups (fields.map Field.key)

theorem names_headersOf (fields : List Field) :
    (headersOf fields).names = (fields.map Field.key).eraseDups := by
  simp [Fields.names, headersOf, Function.comp_def]

/-- The parts of a head. Its lengths are all the same, and only under the oldest version it may do
without a host. -/
structure Parts where
  method : List Char
  target : List Char
  minor : Char
  fields : List Field
  token : isToken method
  unspaced : ' ' ∉ target
  digit : minor.isDigit
  agreed : ∀ v ∈ valuesOf fields "content-length", ∀ w ∈ valuesOf fields "content-length", v = w
  hosted : minor ≠ '0' → "host" ∈ fields.map Field.key

namespace Parts

def requestLine (parts : Parts) : List Char :=
  parts.method ++ ' ' :: (parts.target ++ ' ' :: ("HTTP/".toList ++ ['1', '.', parts.minor]))

def lines (parts : Parts) : List (List Char) := parts.requestLine :: parts.fields.map Field.text

def request (parts : Parts) (target : Target) : Request where
  method := String.ofList parts.method
  path := String.ofList target.path
  query := String.ofList target.query
  version := String.ofList ("HTTP/".toList ++ ['1', '.', parts.minor])
  headers := headersOf parts.fields

end Parts

section

variable {line method target : List Char} {major minor : Char} {request : Request}

theorem not_mem_of_isToken {name : List Char} (h : isToken name) {c : Char}
    (hc : c.toNat ≤ 32 ∨ c = ':') : c ∉ name := by
  intro hm
  simp only [isToken, Bool.and_eq_true, List.all_eq_true] at h
  obtain ⟨hl, -, hne⟩ := isTokenChar_range (h.2 c hm)
  exact hc.elim (fun hle => absurd hl (Nat.not_lt.mpr hle)) hne

theorem ne_of_isDigit {c d : Char} (h : c.isDigit) (hd : d.isDigit = false) : d ≠ c := by
  rintro rfl
  exact absurd h (by simp [hd])

theorem IsRequestLine.splitOn (h : IsRequestLine line method target major minor) :
    Text.splitOn ' ' line = [method, target, "HTTP/".toList ++ [major, '.', minor]] := by
  have hversion : ' ' ∉ "HTTP/".toList ++ [major, '.', minor] := by
    have hmajor := ne_of_isDigit h.major (d := ' ') (by decide)
    have hminor := ne_of_isDigit h.minor (d := ' ') (by decide)
    simp [hmajor, hminor]
  rw [h.text, Text.splitOn_append (not_mem_of_isToken h.token (.inl (by decide))),
    Text.splitOn_append h.unspaced, Text.splitOn_self hversion]

theorem isRequestLine_of_splitOn {version : List Char}
    (hs : Text.splitOn ' ' line = [method, target, version]) (hm : isToken method)
    (hv : versionDigits? version = some (major, minor)) :
    IsRequestLine line method target major minor := by
  obtain ⟨rfl, hmajor, hminor⟩ := versionDigits?_eq_some.mp hv
  have hline := Text.joinWith_splitOn ' ' line
  rw [hs] at hline
  refine ⟨?_, hm, Text.not_mem_of_splitOn (s := line) (by simp [hs]), hmajor, hminor⟩
  rw [← hline]
  simp [joinWith]

theorem IsRequestLine.read (h : IsRequestLine line method target '1' minor) :
    readRequestLine line = (Target.read target).map fun target => {
      method := String.ofList method
      path := String.ofList target.path
      query := String.ofList target.query
      version := String.ofList ("HTTP/".toList ++ ['1', '.', minor]) } := by
  have hd : versionDigits? ("HTTP/".toList ++ ['1', '.', minor]) = some ('1', minor) :=
    versionDigits?_eq_some.mpr ⟨rfl, h.major, h.minor⟩
  unfold readRequestLine
  rw [h.splitOn]
  simp only [h.token, hd]
  cases Target.read target <;> rfl

theorem IsRequestLine.unsupported (h : IsRequestLine line method target major minor)
    (hn : major ≠ '1') : readRequestLine line = .error (.refused
      (.unsupportedVersion (String.ofList ("HTTP/".toList ++ [major, '.', minor])))) := by
  have hd : versionDigits? ("HTTP/".toList ++ [major, '.', minor]) = some (major, minor) :=
    versionDigits?_eq_some.mpr ⟨rfl, h.major, h.minor⟩
  unfold readRequestLine
  rw [h.splitOn]
  simp only [h.token, hd]
  simp [hn]

/-- A line that is no request line is refused for what it is. -/
theorem readRequestLine_malformed
    (h : ∀ method target major minor, ¬ IsRequestLine line method target major minor) :
    ∃ why, readRequestLine line = .error (.refused why) ∧ why.problem.status = 400 := by
  unfold readRequestLine
  split
  · next method target version hs =>
    by_cases hm : isToken method
    · cases hv : versionDigits? version with
      | none => exact ⟨.malformedVersion, by simp [hm], rfl⟩
      | some digits => exact absurd (isRequestLine_of_splitOn hs hm hv) (h _ _ _ _)
    · exact ⟨.invalidMethod, by simp [hm], rfl⟩
  · exact ⟨.malformedRequestLine, rfl, rfl⟩

theorem isRequestLine_of_read (h : readRequestLine line = .ok request) :
    ∃ method target minor, IsRequestLine line method target '1' minor := by
  by_cases hl : ∃ method target major minor, IsRequestLine line method target major minor
  · obtain ⟨method, target, major, minor, hl⟩ := hl
    by_cases hn : major = '1'
    · subst hn
      exact ⟨method, target, minor, hl⟩
    · cases (hl.unsupported hn).symm.trans h
  · simp only [not_exists] at hl
    obtain ⟨why, hw, -⟩ := readRequestLine_malformed hl
    cases hw.symm.trans h

end

section

variable {line : List Char} {name value : String} {headers next read : Fields} {fields : List Field}
  {lines : List (List Char)}

namespace Field

variable (field : Field)

theorem cut_text : cut ':' field.text = (field.name, some field.padded) :=
  Text.cut_append (not_mem_of_isToken field.token (.inr rfl))

theorem eq_of_text {field other : Field} (h : field.text = other.text) : field = other := by
  have he := field.cut_text
  rw [h, other.cut_text] at he
  cases field
  cases other
  cases he
  rfl

theorem readField_text : readField field.text = .ok (field.key, String.ofList field.value) := by
  have hne : field.name ≠ [] := by
    have ht := field.token
    simp only [isToken, Bool.and_eq_true, Bool.not_eq_true', List.isEmpty_eq_false_iff] at ht
    exact ht.1
  obtain ⟨c, rest, hn⟩ := List.exists_cons_of_ne_nil hne
  have hpad : isPadding c = false := by
    have hout : ∀ {d : Char}, d.toNat ≤ 32 → c ≠ d := fun hd he =>
      not_mem_of_isToken field.token (.inl hd) (he ▸ hn ▸ List.mem_cons_self)
    simp only [isPadding, Bool.or_eq_false_iff, beq_eq_false_iff_ne]
    exact ⟨hout (by decide), hout (by decide)⟩
  have hhead : (field.text.head?.map isPadding).getD false = false := by
    simp [text, hn, hpad]
  unfold readField
  rw [hhead, field.cut_text]
  simp [field.token, key, value, Text.lower_ascii (ascii_of_isToken field.token)]

theorem valueOf?_text (name : String) :
    valueOf? name.toList field.text = if field.key = name then some field.value else none := by
  rw [valueOf?_of_readField field.readField_text, String.toList_ofList]

end Field

/-- A header line that is read is a field. -/
theorem exists_field (h : readField line = .ok (name, value)) :
    ∃ field : Field, line = field.text := by
  unfold readField at h
  split at h
  · cases h
  · split at h
    · rename_i given padded hc
      split at h
      · rename_i ht
        exact ⟨⟨given, padded, ht⟩, (Text.cut_eq_some.mp hc).1⟩
      · cases h
    · cases h

theorem filterMap_valueOf? (fields : List Field) (name : String) :
    (fields.map Field.text).filterMap (valueOf? name.toList) = valuesOf fields name := by
  rw [List.filterMap_map]
  exact congrArg (List.filterMap · fields) (funext fun field => field.valueOf?_text name)

theorem names_of_addField (h : addField headers name value = .ok next) :
    next.names = if name ∈ headers.names then headers.names else headers.names ++ [name] := by
  unfold addField at h
  split at h
  · cases h
    exact Fields.names_put headers name value
  · rename_i old hf
    have hm : name ∈ headers.names :=
      Classical.byContradiction fun hn => by cases (Fields.find?_eq_none.mpr hn).symm.trans hf
    rw [if_pos hm]
    split at h
    · split at h <;> cases h
      rfl
    · cases h
      rw [Fields.names_put, if_pos hm]

/-- Header lines that are read are fields, and each name comes where it first stood. -/
theorem exists_fields {before : List String} (h : readFields headers lines = .ok read)
    (hb : headers.names = before.eraseDups) : ∃ fields : List Field,
      lines = fields.map Field.text ∧ read.names = (before ++ fields.map Field.key).eraseDups := by
  induction lines generalizing headers before with
  | nil =>
    cases h
    exact ⟨[], rfl, by simpa using hb⟩
  | cons line rest ih =>
    rw [readFields] at h
    split at h
    · cases h
    · rename_i name value hf
      split at h
      · cases h
      · rename_i next ha
        obtain ⟨field, rfl⟩ := exists_field hf
        cases field.readField_text.symm.trans hf
        have hnext : next.names = (before ++ [field.key]).eraseDups := by
          rw [names_of_addField ha, hb, Fields.eraseDups_snoc]
        obtain ⟨fields, rfl, hn⟩ := ih h hnext
        exact ⟨field :: fields, rfl, by simpa using hn⟩

theorem valuesOf_cons (field : Field) (fields : List Field) (name : String) :
    valuesOf (field :: fields) name =
      if field.key = name then field.value :: valuesOf fields name else valuesOf fields name := by
  unfold valuesOf
  rw [List.filterMap_cons]
  split <;> simp_all

def Agrees (headers : Fields) (length : List Char) : Prop :=
  ∀ old, headers.find? "content-length" = some old → old = String.ofList length

/-- A field is added unless it is a length other than the one that is known. -/
theorem addField_of_agrees {length : List Char} (hh : Agrees headers length) {value : List Char}
    (hv : name = "content-length" → value = length) :
    ∃ next, addField headers name (String.ofList value) = .ok next ∧ Agrees next length := by
  have hok : ∃ next, addField headers name (String.ofList value) = .ok next := by
    unfold addField
    split
    · exact ⟨_, rfl⟩
    · rename_i old hf
      by_cases hn : name = "content-length"
      · subst hn
        rw [hh old hf, hv rfl]
        exact ⟨headers, by simp⟩
      · exact ⟨_, if_neg (by simpa using hn)⟩
  obtain ⟨next, ha⟩ := hok
  refine ⟨next, ha, fun old hold => ?_⟩
  rcases find?_of_addField ha "content-length" with
    ⟨-, hn⟩ | ⟨hn, -, hv'⟩ | ⟨hn, -, -, hv'⟩ | ⟨-, hn, -⟩
  · exact hh old (hn ▸ hold)
  · rw [hv', hv hn] at hold
    exact (Option.some.inj hold).symm
  · rw [hv', hv hn] at hold
    exact (Option.some.inj hold).symm
  · exact absurd rfl hn

/-- Fields of which all lengths are the same are read. -/
theorem readFields_of_agrees {length : List Char} (hh : Agrees headers length)
    (hv : ∀ v ∈ valuesOf fields "content-length", v = length) :
    ∃ read, readFields headers (fields.map Field.text) = .ok read := by
  induction fields generalizing headers with
  | nil => exact ⟨headers, rfl⟩
  | cons field rest ih =>
    rw [valuesOf_cons] at hv
    have hfield : field.key = "content-length" → field.value = length := by
      intro hk
      rw [if_pos hk] at hv
      exact hv _ List.mem_cons_self
    have hrest : ∀ v ∈ valuesOf rest "content-length", v = length := by
      intro v hm
      refine hv v ?_
      split
      · exact List.mem_cons_of_mem _ hm
      · exact hm
    obtain ⟨next, ha, hnext⟩ := addField_of_agrees hh hfield
    obtain ⟨read, hr⟩ := ih hnext hrest
    refine ⟨read, ?_⟩
    rw [List.map_cons, readFields, field.readField_text]
    simp only [ha]
    exact hr

theorem joined_of_readFields (h : readFields .empty (fields.map Field.text) = .ok read)
    (hn : name ≠ "content-length") : read.find? name = joined? (valuesOf fields name) := by
  have hnil : Fields.empty.find? name = joined? [] := rfl
  have hkeeps := readFields_keeps (fun values found => found = joined? values) (joined_addField hn) h hnil
  rwa [List.nil_append, filterMap_valueOf?] at hkeeps

theorem agreed_of_readFields (h : readFields .empty (fields.map Field.text) = .ok read) :
    Agreed (valuesOf fields "content-length") (read.find? "content-length") := by
  have hnil : Agreed [] (Fields.empty.find? "content-length") :=
    ⟨fun _ => rfl, fun _ hv => absurd hv List.not_mem_nil⟩
  have hkeeps := readFields_keeps Agreed agreed_addField h hnil
  rwa [List.nil_append, filterMap_valueOf?] at hkeeps

theorem Agreed.unique {values : List (List Char)} {found : Option String} (h : Agreed values found) :
    ∀ v ∈ values, ∀ w ∈ values, v = w := by
  intro v hv w hw
  have he := (h.2 v hv).symm.trans (h.2 w hw)
  exact String.ofList_injective (Option.some.inj he)

/-- The fields that are read are those of the header lines. -/
theorem readFields_eq (h : readFields .empty (fields.map Field.text) = .ok read) :
    read = headersOf fields := by
  have hnone : Fields.empty.names = [].eraseDups := rfl
  obtain ⟨others, ho, hnames⟩ := exists_fields h hnone
  obtain rfl : fields = others := (List.map_inj_right fun _ _ => Field.eq_of_text).mp ho
  rw [List.nil_append] at hnames
  refine Fields.eq_of_find? (hnames.trans (names_headersOf fields).symm) fun name hm => ?_
  have hne : read.find? name ≠ none := fun hn => Fields.find?_eq_none.mp hn hm
  have hkept : (headersOf fields).find? name = some (merged fields name) := by
    rw [hnames] at hm
    exact Fields.mem_entries_iff.mp (List.mem_map.mpr ⟨name, hm, rfl⟩)
  rw [hkept, merged]
  by_cases hn : name = "content-length"
  · subst hn
    obtain ⟨hnone, hsome⟩ := agreed_of_readFields h
    cases hv : valuesOf fields "content-length" with
    | nil => exact absurd (hnone hv) hne
    | cons length rest => exact hsome length (hv ▸ List.mem_cons_self)
  · rw [joined_of_readFields h hn] at hne ⊢
    rw [joined?, if_neg fun hv => hne (joined?_eq_none.mpr hv), if_neg hn]

end

section

variable {block : Bytes} {request : Request} {target : Target}

theorem has_headersOf {fields : List Field} {name : String} :
    (headersOf fields).has name ↔ name ∈ fields.map Field.key := by
  rw [Fields.has, Option.isSome_iff_ne_none, ne_eq, Fields.find?_eq_none, names_headersOf,
    List.mem_eraseDups, Classical.not_not]

theorem version_eq_iff {minor : Char} :
    String.ofList ("HTTP/".toList ++ ['1', '.', minor]) = "HTTP/1.0" ↔ minor = '0' := by
  constructor
  · intro h
    have he : "HTTP/".toList ++ ['1', '.', minor] = "HTTP/".toList ++ ['1', '.', '0'] :=
      String.ofList_injective h
    simpa using he
  · rintro rfl
    rfl

/-- A head that is read has the parts of one, and is read as the request that these stand for. -/
theorem exists_parts (h : read block = .ok request) : ∃ (parts : Parts) (target : Target),
    linesOf block = parts.lines ∧ Target.read parts.target = .ok target ∧
      request = parts.request target := by
  obtain ⟨line, lines, asked, headers, hl, ha, hh, hhost, rfl⟩ := read_eq_ok.mp h
  obtain ⟨method, target, minor, hline⟩ := isRequestLine_of_read ha
  have hnone : Fields.empty.names = [].eraseDups := rfl
  obtain ⟨fields, rfl, -⟩ := exists_fields hh hnone
  obtain rfl := readFields_eq hh
  rw [hline.read] at ha
  cases ht : Target.read target with
  | error why =>
    rw [ht] at ha
    cases ha
  | ok found =>
    rw [ht] at ha
    cases ha
    exact ⟨{ method, target, minor, fields
             token := hline.token
             unspaced := hline.unspaced
             digit := hline.minor
             agreed := (agreed_of_readFields hh).unique
             hosted := fun hm => has_headersOf.mp (hhost fun hv => hm (version_eq_iff.mp hv)) },
      found, hl.trans (congrArg (· :: fields.map Field.text) hline.text), ht, rfl⟩

theorem Parts.isRequestLine (parts : Parts) :
    IsRequestLine parts.requestLine parts.method parts.target '1' parts.minor :=
  ⟨rfl, parts.token, parts.unspaced, by decide, parts.digit⟩

/-- A head with the parts of one is read as what they stand for, if its target is read. -/
theorem Parts.read (parts : Parts) (hl : linesOf block = parts.lines)
    (ht : Target.read parts.target = .ok target) : Head.read block = .ok (parts.request target) := by
  have hlength : ∃ length, ∀ v ∈ valuesOf parts.fields "content-length", v = length := by
    cases hv : valuesOf parts.fields "content-length" with
    | nil => exact ⟨[], fun _ hm => absurd hm List.not_mem_nil⟩
    | cons length rest =>
      have hmem : length ∈ valuesOf parts.fields "content-length" := hv ▸ List.mem_cons_self
      exact ⟨length, fun v hm => parts.agreed v (hv ▸ hm) length hmem⟩
  obtain ⟨length, hv⟩ := hlength
  have hnone : Agrees .empty length := fun _ hold => nomatch hold
  obtain ⟨headers, hh⟩ := readFields_of_agrees hnone hv
  obtain rfl := readFields_eq hh
  refine read_eq_ok.mpr ⟨_, _, _, _, hl, parts.isRequestLine.read.trans (by rw [ht]; rfl), hh, ?_, rfl⟩
  exact fun hversion => has_headersOf.mpr (parts.hosted fun hm => hversion (version_eq_iff.mpr hm))

def Unsupported (block : Bytes) : Prop :=
  ∃ line lines method target major minor, linesOf block = line :: lines ∧
    IsRequestLine line method target major minor ∧ major ≠ '1'

def Absolute (block : Bytes) : Prop :=
  ∃ line lines target, linesOf block = line :: lines ∧ (Text.splitOn ' ' line)[1]? = some target ∧
    ("http://".toList <+: target ∨ "https://".toList <+: target)

theorem Unsupported.refused (h : Unsupported block) :
    ∃ why, read block = .error (.refused why) ∧ why.problem.status = 505 := by
  obtain ⟨line, lines, method, target, major, minor, hl, hline, hn⟩ := h
  refine ⟨.unsupportedVersion (String.ofList ("HTTP/".toList ++ [major, '.', minor])), ?_, rfl⟩
  have hne : line ≠ [] := by simp [hline.text]
  rw [read_cons hl hne, hline.unsupported hn]

theorem status_of_target {s : List Char} {why : Refusal} (h : Target.read s = .error (.refused why)) :
    why.problem.status = 400 := by
  unfold Target.read at h
  split at h
  · cases h
  · split at h
    · cases h
      rfl
    · rename_i rest _
      cases ha : Target.ofAbsolute rest <;> rw [ha] at h <;> cases h

theorem status_of_requestLine {line : List Char} {why : Refusal}
    (hn : ∀ method target major minor, IsRequestLine line method target major minor → major = '1')
    (h : readRequestLine line = .error (.refused why)) : why.problem.status = 400 := by
  by_cases hl : ∃ method target major minor, IsRequestLine line method target major minor
  · obtain ⟨method, target, major, minor, hl⟩ := hl
    obtain rfl := hn _ _ _ _ hl
    rw [hl.read] at h
    cases ht : Target.read target with
    | error fault =>
      rw [ht] at h
      cases h
      exact status_of_target ht
    | ok found =>
      rw [ht] at h
      cases h
  · simp only [not_exists] at hl
    obtain ⟨_, hw, hs⟩ := readRequestLine_malformed hl
    cases hw.symm.trans h
    exact hs

theorem status_of_read {why : Refusal} (hn : ¬ Unsupported block)
    (h : read block = .error (.refused why)) : why.problem.status = 400 := by
  unfold read at h
  split at h
  · cases h
    rfl
  · cases h
    rfl
  · rename_i line lines _ hl
    split at h
    · rename_i fault hline
      cases h
      refine status_of_requestLine (fun method target major minor hr => ?_) hline
      exact Classical.byContradiction fun hm =>
        hn ⟨line, lines, method, target, major, minor, hl, hr, hm⟩
    · split at h
      · rename_i hf
        cases h
        exact status_of_readFields hf
      · split at h
        · cases h
          rfl
        · cases h

/-- What is not read is refused, save for a version that is not served and an address that is astray. -/
theorem refused_of_not_read (hn : ∀ request, read block ≠ .ok request) (hu : ¬ Unsupported block)
    (hm : ¬ MisaddressedHead block) :
    ∃ why, read block = .error (.refused why) ∧ why.problem.status = 400 := by
  have hjudged := judged_read block
  generalize hr : read block = result at hjudged
  cases hjudged with
  | read => exact absurd hr (hn _)
  | refused => exact ⟨_, rfl, status_of_read hu hr⟩
  | unanswered h => exact absurd h hm

theorem not_read_of_refused {fault : Fault} (h : read block = .error fault) :
    read block ≠ .ok request := by
  rw [h]
  exact nofun

theorem not_unsupported_of_refused
    (h : ∃ why, read block = .error (.refused why) ∧ why.problem.status = 400) :
    ¬ Unsupported block := by
  intro hu
  obtain ⟨why, hr, hs⟩ := h
  obtain ⟨_, hr', hs'⟩ := hu.refused
  cases hr.symm.trans hr'
  cases hs.symm.trans hs'

/-- Nothing but the version of a request line is answered with its status. -/
theorem unsupported_iff : Unsupported block ↔
    ∃ why, read block = .error (.refused why) ∧ why.problem.status = 505 := by
  refine ⟨Unsupported.refused, fun he => Classical.byContradiction fun hn => ?_⟩
  obtain ⟨why, hr, hs⟩ := he
  cases (status_of_read hn hr).symm.trans hs

theorem afterScheme?_of_not_absolute {parts : Parts} (h : ¬ Absolute block)
    (hl : linesOf block = parts.lines) : Target.afterScheme? parts.target = none := by
  cases hs : Target.afterScheme? parts.target with
  | none => rfl
  | some rest =>
    refine absurd ⟨_, _, parts.target, hl, by rw [parts.isRequestLine.splitOn]; rfl, ?_⟩ h
    exact (Target.afterScheme?_eq_some.mp hs).imp (fun he => ⟨rest, he.symm⟩) fun he => ⟨rest, he.symm⟩

theorem MisaddressedHead.absolute (h : MisaddressedHead block) : Absolute block := by
  obtain ⟨line, lines, hl, hm⟩ := h
  obtain ⟨method, target, minor, hs, -, -, ha⟩ := misaddressed_iff.mp hm
  refine ⟨line, lines, target, hl, by rw [hs]; rfl, ?_⟩
  cases ha with
  | http => exact .inl (List.prefix_append _ _)
  | https => exact .inr (List.prefix_append _ _)

/-- What becomes of a block whose target is no address: its lines are what stands between line ends
past those at its beginning, and it is read exactly if they are the parts of a head, as the request
that these stand for. -/
structure Decided (block : Bytes) : Prop where
  lines : linesOf block ≠ [] ∧
    joinWith ['\r', '\n'] (linesOf block) = block.toText.dropWhile isLineEnd ∧
    ∀ line ∈ linesOf block, Text.IsLine line
  read (request : Request) : Head.read block = .ok request ↔
    ∃ parts : Parts, linesOf block = parts.lines ∧ Target.Local parts.target ∧
      request = parts.request {
        path := parts.target.takeWhile fun c => decide (c ≠ '?')
        query := (parts.target.dropWhile fun c => decide (c ≠ '?')).drop 1 }
  unsupported : (∃ why, Head.read block = .error (.refused why) ∧ why.problem.status = 505) ↔
    Unsupported block
  refused : (∃ why, Head.read block = .error (.refused why) ∧ why.problem.status = 400) ↔
    (∀ request, Head.read block ≠ .ok request) ∧ ¬ Unsupported block

/-- Unless its target is an address, a block is read exactly if it keeps to the grammar of heads. -/
theorem read_decided (h : ¬ Absolute block) : Decided block where
  lines := Text.lines_eq_iff.mp rfl
  read := by
    intro request
    constructor
    · intro hr
      obtain ⟨parts, target, hl, ht, rfl⟩ := exists_parts hr
      rcases Target.read_eq_ok.mp ht with ⟨hlocal, rfl⟩ | ⟨rest, hs, -⟩
      · exact ⟨parts, hl, hlocal, by rw [Target.ofPathAndQuery_eq]⟩
      · cases (afterScheme?_of_not_absolute h hl).symm.trans hs
    · intro he
      obtain ⟨parts, hl, hlocal, rfl⟩ := he
      rw [← Target.ofPathAndQuery_eq]
      exact parts.read hl (Target.read_local hlocal)
  unsupported := unsupported_iff.symm
  refused := by
    refine ⟨fun he => ⟨fun request => ?_, not_unsupported_of_refused he⟩, fun he => ?_⟩
    · obtain ⟨why, hr, -⟩ := he
      exact not_read_of_refused hr
    · exact refused_of_not_read he.1 he.2 fun hm => h hm.absolute

/-- Line ends come first, and the lines of one name in different letter cases. -/
theorem read_decided_spread :
    let block := Bytes.ofString "\r\n\nGET /a?b?c HTTP/1.1\r\nHOST: a\r\nx-a: 1\r\nX-A:\t2 "
    ¬ Absolute block ∧ Decided block ∧ Head.read block = .ok {
      method := "GET", path := "/a", query := "b?c", version := "HTTP/1.1"
      headers := { entries := [("host", "a"), ("x-a", "1, 2")] } } := by
  intro block
  have hn : ¬ Absolute block := by
    intro he
    obtain ⟨line, lines, target, hl, ht, hp⟩ := he
    have hlines : linesOf block = ["GET /a?b?c HTTP/1.1".toList, "HOST: a".toList,
      "x-a: 1".toList, "X-A:\t2 ".toList] := rfl
    cases hlines.symm.trans hl
    have hsecond : (Text.splitOn ' ' "GET /a?b?c HTTP/1.1".toList)[1]? = some "/a?b?c".toList := rfl
    cases hsecond.symm.trans ht
    revert hp
    decide
  exact ⟨hn, read_decided hn, rfl⟩

end

end Head

end FixedReply.Http
