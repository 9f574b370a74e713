import FixedReply.Http.Framing
import FixedReply.Http.Head
import FixedReply.Proofs.Http.Encodable
import FixedReply.Proofs.Http.HeadFields

namespace FixedReply

namespace Http

open Text (trim lower isPadding)

structure FieldLine where
  name : List Char
  value : List Char
  token : Head.isToken name
  latin : Below 256 value
  unbroken : '\r' ∉ value ∧ '\n' ∉ value
  trimmed : trim isPadding value = value

namespace FieldLine

def text (line : FieldLine) : List Char := line.name ++ ':' :: ' ' :: line.value

def entry (line : FieldLine) : String × String :=
  (String.ofList (lower line.name), String.ofList line.value)

end FieldLine

structure WrittenHead where
  method : List Char
  path : List Char
  query : Option (List Char)
  minor : Char
  fields : List FieldLine
  token : Head.isToken method
  rooted : path.head? = some '/'
  unasked : '?' ∉ path
  latin : Below 256 (path ++ query.getD [])
  unspaced : ∀ c ∈ path ++ query.getD [], c ≠ ' ' ∧ c ≠ '\r' ∧ c ≠ '\n'
  digit : minor.isDigit
  distinct : (fields.map fun line => line.entry.1).Nodup
  hosted : minor ≠ '0' → "host" ∈ fields.map fun line => line.entry.1

namespace WrittenHead

def target (head : WrittenHead) : List Char :=
  match head.query with
  | none => head.path
  | some query => head.path ++ '?' :: query

def version (head : WrittenHead) : List Char := ['H', 'T', 'T', 'P', '/', '1', '.', head.minor]

def requestLine (head : WrittenHead) : List Char :=
  head.method ++ ' ' :: (head.target ++ ' ' :: head.version)

def text (head : WrittenHead) : List Char :=
  head.requestLine ++ head.fields.flatMap fun line => '\r' :: '\n' :: line.text

def bytes (head : WrittenHead) : Bytes := Bytes.ofText head.text

def request (head : WrittenHead) : Request where
  method := String.ofList head.method
  path := String.ofList head.path
  query := String.ofList (head.query.getD [])
  version := String.ofList head.version
  headers := {
    entries := head.fields.map FieldLine.entry
    distinct := by rw [List.map_map]; exact head.distinct }

end WrittenHead

namespace FieldLine

variable (line : FieldLine)

theorem text_unbroken : '\r' ∉ line.text := by
  intro hm
  rcases List.mem_append.mp hm with hm | hm
  · have hall := line.token
    simp only [Head.isToken, Bool.and_eq_true, List.all_eq_true] at hall
    exact absurd (Head.isTokenChar_range (hall.2 _ hm)).1 (by decide)
  · rcases List.mem_cons.mp hm with hm | hm
    · exact absurd hm (by decide)
    · rcases List.mem_cons.mp hm with hm | hm
      · exact absurd hm (by decide)
      · exact line.unbroken.1 hm

theorem text_latin : Below 256 line.text := by
  refine below_append.mpr ⟨fun c hc => ?_, fun c hc => ?_⟩
  · have hall := line.token
    simp only [Head.isToken, Bool.and_eq_true, List.all_eq_true] at hall
    have := Head.isTokenChar_range (hall.2 c hc)
    omega
  · rcases List.mem_cons.mp hc with rfl | hc
    · decide
    · rcases List.mem_cons.mp hc with rfl | hc
      · decide
      · exact line.latin c hc

theorem readField_text : Head.readField line.text = .ok line.entry := by
  have hall := line.token
  simp only [Head.isToken, Bool.and_eq_true, List.all_eq_true, Bool.not_eq_true',
    List.isEmpty_eq_false_iff] at hall
  obtain ⟨c, rest, hn⟩ := List.exists_cons_of_ne_nil hall.1
  have hc := Head.isTokenChar_range (hall.2 c (hn ▸ List.mem_cons_self))
  have hcolon : ':' ∉ line.name := fun hm => (Head.isTokenChar_range (hall.2 _ hm)).2.2 rfl
  have hpad : isPadding c = false := by
    simp only [isPadding, Bool.or_eq_false_iff, beq_eq_false_iff_ne]
    exact ⟨by rintro rfl; exact absurd hc.1 (by decide), by rintro rfl; exact absurd hc.1 (by decide)⟩
  have hhead : (line.text.head?.map isPadding).getD false = false := by
    simp [text, hn, hpad]
  have htrim : trim isPadding (' ' :: line.value) = line.value := line.trimmed
  unfold Head.readField
  rw [hhead]
  simp only [Bool.false_eq_true, ↓reduceIte]
  rw [text, Text.cut_append hcolon]
  simp only [line.token, ↓reduceIte, htrim]
  rfl

end FieldLine

/-- Header lines with different names are read one by one. -/
theorem Head.readFields_text {headers : Fields} {lines : List FieldLine}
    (hd : (headers.names ++ lines.map fun line => line.entry.1).Nodup) :
    ∃ read, Head.readFields headers (lines.map FieldLine.text) = .ok read ∧
      read.entries = headers.entries ++ lines.map FieldLine.entry := by
  induction lines generalizing headers with
  | nil => exact ⟨headers, rfl, by simp⟩
  | cons line rest ih =>
    have hnew : line.entry.1 ∉ headers.names := by
      intro hm
      exact (List.nodup_append.mp hd).2.2 _ hm _ (by simp) rfl
    have hput : (headers.put line.entry.1 line.entry.2).entries = headers.entries ++ [line.entry] :=
      Entries.put_new hnew
    have hadd : Head.addField headers line.entry.1 line.entry.2 =
        .ok (headers.put line.entry.1 line.entry.2) := by
      rw [Head.addField, Fields.find?_eq_none.mpr hnew]
    have hdput : ((headers.put line.entry.1 line.entry.2).names ++
        rest.map fun line => line.entry.1).Nodup := by
      rw [Fields.names, hput]
      simpa [Fields.names] using hd
    obtain ⟨read, hr, he⟩ := ih hdput
    refine ⟨read, ?_, by simp [he, hput]⟩
    rw [List.map_cons, Head.readFields, line.readField_text]
    simp only [hadd]
    exact hr

namespace WrittenHead

variable (head : WrittenHead)

theorem method_ne_nil : head.method ≠ [] := by
  have hall := head.token
  simp only [Head.isToken, Bool.and_eq_true, Bool.not_eq_true', List.isEmpty_eq_false_iff] at hall
  exact hall.1

theorem method_plain {c : Char} (hc : c ∈ head.method) : 32 < c.toNat ∧ c.toNat < 127 := by
  have hall := head.token
  simp only [Head.isToken, Bool.and_eq_true, List.all_eq_true] at hall
  have := Head.isTokenChar_range (hall.2 c hc)
  exact ⟨this.1, this.2.1⟩

theorem target_plain {c : Char} (hc : c ∈ head.target) :
    c.toNat < 256 ∧ c ≠ ' ' ∧ c ≠ '\r' ∧ c ≠ '\n' := by
  have hin : c ∈ head.path ++ head.query.getD [] ∨ c = '?' := by
    unfold target at hc
    cases hq : head.query with
    | none =>
      rw [hq] at hc
      exact .inl (by simpa using hc)
    | some query =>
      rw [hq] at hc
      simpa [or_assoc, or_comm, or_left_comm] using hc
  rcases hin with hin | rfl
  · exact ⟨head.latin c hin, head.unspaced c hin⟩
  · decide

theorem version_plain {c : Char} (hc : c ∈ head.version) : 32 < c.toNat ∧ c.toNat < 127 := by
  have hd := head.digit
  simp only [Char.isDigit, Bool.and_eq_true, decide_eq_true_eq, ge_iff_le,
    UInt32.le_iff_toNat_le] at hd
  have hm : 48 ≤ head.minor.toNat ∧ head.minor.toNat ≤ 57 := hd
  have hlit : ['H', 'T', 'T', 'P', '/', '1', '.'].all fun c => 32 < c.toNat ∧ c.toNat < 127 := by
    decide
  have hc' : c ∈ ['H', 'T', 'T', 'P', '/', '1', '.'] ∨ c = head.minor := by
    simpa [version, or_assoc] using hc
  rcases hc' with hc' | rfl
  · exact of_decide_eq_true (List.all_eq_true.mp hlit c hc')
  · omega

theorem requestLine_plain {c : Char} (hc : c ∈ head.requestLine) :
    c.toNat < 256 ∧ c ≠ '\r' ∧ c ≠ '\n' := by
  have hvisible : ∀ {c : Char}, 32 < c.toNat ∧ c.toNat < 127 → c.toNat < 256 ∧ c ≠ '\r' ∧ c ≠ '\n' := by
    intro c h
    refine ⟨by omega, ?_, ?_⟩ <;> rintro rfl <;> exact absurd h.1 (by decide)
  simp only [requestLine, List.mem_append, List.mem_cons] at hc
  rcases hc with hc | rfl | hc | rfl | hc
  · exact hvisible (head.method_plain hc)
  · decide
  · exact ⟨(head.target_plain hc).1, (head.target_plain hc).2.2⟩
  · decide
  · exact hvisible (head.version_plain hc)

theorem readTarget : Target.read head.target =
    .ok { path := head.path, query := head.query.getD [] } := by
  obtain ⟨rest, hp⟩ : ∃ rest, head.path = '/' :: rest := by
    have := head.rooted
    cases hpath : head.path with
    | nil => simp [hpath] at this
    | cons c rest =>
      rw [hpath] at this
      simp only [List.head?_cons, Option.some.injEq] at this
      exact ⟨rest, by rw [this]⟩
  have hhead : head.target.head? = some '/' := by
    unfold target
    split <;> simp [hp]
  have hcut : Text.cut '?' head.target = (head.path, head.query) := by
    unfold target
    cases head.query with
    | none => exact Text.cut_self head.unasked
    | some query => exact Text.cut_append head.unasked
  rw [Target.read, if_pos (by simp [hhead]), Target.ofPathAndQuery, hcut]

theorem readRequestLine : Head.readRequestLine head.requestLine =
    .ok { head.request with headers := .empty } := by
  have hm : ' ' ∉ head.method := fun hc => absurd (head.method_plain hc).1 (by decide)
  have ht : ' ' ∉ head.target := fun hc => (head.target_plain hc).2.1 rfl
  have hv : ' ' ∉ head.version := fun hc => absurd (head.version_plain hc).1 (by decide)
  unfold Head.readRequestLine requestLine
  rw [Text.splitOn_append hm, Text.splitOn_append ht, Text.splitOn_self hv]
  have hd : Head.versionDigits? head.version = some ('1', head.minor) := by
    simp only [Head.versionDigits?, version, head.digit, Bool.and_true]
    rfl
  simp only [head.token, hd, head.readTarget]
  rfl

theorem linesOf_bytes :
    Head.linesOf head.bytes = head.requestLine :: head.fields.map FieldLine.text := by
  have hlatin : Below 256 head.text := by
    refine below_append.mpr ⟨fun c hc => (head.requestLine_plain hc).1, fun c hc => ?_⟩
    obtain ⟨line, -, hm⟩ := List.mem_flatMap.mp hc
    rcases List.mem_cons.mp hm with rfl | hm
    · decide
    · rcases List.mem_cons.mp hm with rfl | hm
      · decide
      · exact line.text_latin c hm
  have hfront : head.text.dropWhile Head.isLineEnd = head.text := by
    obtain ⟨c, rest, hm⟩ := List.exists_cons_of_ne_nil head.method_ne_nil
    have hc := head.method_plain (hm ▸ List.mem_cons_self : c ∈ head.method)
    have he : Head.isLineEnd c = false := by
      simp only [Head.isLineEnd, Bool.or_eq_false_iff, beq_eq_false_iff_ne]
      exact ⟨by rintro rfl; exact absurd hc.1 (by decide), by rintro rfl; exact absurd hc.1 (by decide)⟩
    simp [text, requestLine, hm, he]
  have hlines : head.text = head.requestLine ++
      (head.fields.map FieldLine.text).flatMap fun line => '\r' :: '\n' :: line := by
    rw [text, List.flatMap_map]
  rw [Head.linesOf, bytes, Bytes.toText_ofText hlatin, hfront, hlines, Text.lines_flatMap]
  · exact Text.isLine_of_not_mem fun hc => (head.requestLine_plain hc).2.1 rfl
  · intro line hm
    obtain ⟨field, -, rfl⟩ := List.mem_map.mp hm
    exact Text.isLine_of_not_mem field.text_unbroken

/-- A head that is written is read as the request that it was written for. -/
theorem read_bytes : Head.read head.bytes = .ok head.request := by
  obtain ⟨c, rest, hm⟩ := List.exists_cons_of_ne_nil head.method_ne_nil
  have hdistinct : (Fields.empty.names ++ head.fields.map fun line => line.entry.1).Nodup := by
    simpa [Fields.names] using head.distinct
  obtain ⟨read, hr, he⟩ := Head.readFields_text hdistinct
  have hread : read = head.request.headers := by
    obtain ⟨entries, distinct⟩ := read
    simp only [request, Fields.mk.injEq]
    simpa using he
  subst hread
  have hne : head.requestLine ≠ [] := by simp [requestLine, hm]
  have hhost : (decide (head.request.version ≠ "HTTP/1.0") &&
      !head.request.headers.has "host") = false := by
    by_cases hz : head.minor = '0'
    · have hv : head.request.version = "HTTP/1.0" := by
        simp [request, version, hz]
      simp [hv]
    · have hmem : "host" ∈ head.request.headers.names := by
        simpa [Fields.names, request] using head.hosted hz
      have hfind : head.request.headers.find? "host" ≠ none :=
        fun hn => Fields.find?_eq_none.mp hn hmem
      simp [Fields.has, Option.isSome_iff_ne_none, hfind]
  rw [Head.read_cons head.linesOf_bytes hne, head.readRequestLine]
  simp only [hr]
  rw [if_neg (by simpa using hhost)]

end WrittenHead

end Http

end FixedReply
