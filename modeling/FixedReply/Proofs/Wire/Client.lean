import FixedReply.Proofs.Http.WrittenHead
import FixedReply.Proofs.Wire.Lines
import Mathlib.Data.List.Forall2
import Std.Data.String.ToInt
import Std.Data.String.ToNat

namespace FixedReply

namespace Http.Response

variable {response : Response} {keepAlive : Bool} {version : String}

/-- Fields that a handler may give: names are such as requests have, the length of the body is left
to the encoding, and values stay on their line. -/
structure Writable (response : Response) : Prop where
  token : ∀ e ∈ response.headers.entries, Head.isToken e.1.toList
  unsized : ∀ e ∈ response.headers.entries, e.1.toList.map Char.toLower ≠ "content-length".toList
  latin : ∀ e ∈ response.headers.entries, Below 256 e.2.toList
  unbroken : ∀ e ∈ response.headers.entries, '\r' ∉ e.2.toList ∧ '\n' ∉ e.2.toList

theorem Writable.plain (h : response.Writable) : response.headers.Plain :=
  fun e he => ⟨Head.ascii_of_isToken (h.token e he), h.latin e he⟩

theorem Writable.not_sized (h : response.Writable) : response.Unsized := by
  intro hm
  obtain ⟨e, he, hn⟩ := List.mem_map.mp hm
  obtain ⟨entry, hin, rfl⟩ := List.mem_map.mp he
  have hname : canonicalName entry.1 = "Content-Length" := hn
  apply h.unsized entry hin
  rw [← toLower_canonicalName (Head.ascii_of_isToken (h.token entry hin)), hname]
  decide

/-- A field that can be told from its line, and whose name is that of the length in one spelling only. -/
structure Legible (entry : String × String) : Prop where
  name : ∀ c ∈ entry.1.toList, 32 < c.toNat ∧ c.toNat < 127 ∧ c ≠ ':'
  value : Below 256 entry.2.toList ∧ '\r' ∉ entry.2.toList
  length : entry.1.toList.map Char.toLower = "content-length".toList → entry.1 = "Content-Length"

structure Told (entry : String × String) : Prop where
  name : ∀ c ∈ entry.1.toList, 32 < c.toNat ∧ c.toNat < 127 ∧ c ≠ ':'
  latin : Below 256 entry.2.toList
  line : Text.IsLine entry.2.toList

theorem plain_name (name : String)
    (h : name.toList.all fun c => 32 < c.toNat ∧ c.toNat < 127 ∧ c ≠ ':') :
    ∀ c ∈ name.toList, 32 < c.toNat ∧ c.toNat < 127 ∧ c ≠ ':' :=
  fun c hc => of_decide_eq_true (List.all_eq_true.mp h c hc)

/-- All fields that are sent are legible. -/
theorem Writable.legible (h : response.Writable) (keepAlive : Bool) (version : String) :
    ∀ e ∈ (response.sentHeaders keepAlive version).entries, Legible e := by
  apply sentHeaders_all
  · intro e he
    obtain ⟨entry, hm, rfl⟩ := List.mem_map.mp he
    have ht := h.token entry hm
    refine ⟨fun c hc => canonicalName_range ht hc, ⟨h.latin entry hm, (h.unbroken entry hm).1⟩, ?_⟩
    intro hl
    rw [toLower_canonicalName (Head.ascii_of_isToken ht)] at hl
    exact absurd hl (h.unsized entry hm)
  · intro n
    refine ⟨plain_name "Content-Length" (by decide), ⟨(below_natText n).mono (by decide), ?_⟩, fun _ => rfl⟩
    exact fun hc => absurd (isDigit_natText n _ hc) (by decide)
  · intro value hv
    have hother : "Connection".toList.map Char.toLower ≠ "content-length".toList := by decide
    refine ⟨plain_name "Connection" (by decide), ?_, fun hl => absurd hl hother⟩
    rcases List.mem_cons.mp hv with rfl | hv
    · decide
    · obtain rfl := List.mem_singleton.mp hv
      decide

/-- If what a handler gives can be told from its lines, then so can all that is sent. -/
theorem sentHeaders_told (h : ∀ e ∈ response.given, Told e) :
    ∀ e ∈ (response.sentHeaders keepAlive version).entries, Told e := by
  refine sentHeaders_all h (fun n => ?_) fun value hv => ?_
  · have hcr : '\r' ∉ (toString n).toList := fun hc => absurd (isDigit_natText n _ hc) (by decide)
    exact ⟨plain_name "Content-Length" (by decide), (below_natText n).mono (by decide),
      Text.isLine_of_not_mem hcr⟩
  · have hplain : ∀ value ∈ ["close", "keep-alive"], Below 256 value.toList ∧ '\r' ∉ value.toList := by
      decide
    obtain ⟨hlatin, hcr⟩ := hplain value hv
    exact ⟨plain_name "Connection" (by decide), hlatin, Text.isLine_of_not_mem hcr⟩

theorem Writable.told (h : response.Writable) : ∀ e ∈ response.given, Told e := by
  intro e he
  obtain ⟨entry, hm, rfl⟩ := List.mem_map.mp he
  exact ⟨fun c hc => canonicalName_range (h.token entry hm) hc, h.latin entry hm,
    Text.isLine_of_not_mem (h.unbroken entry hm).1⟩

def startLine (response : Response) : List Char :=
  "HTTP/1.1".toList ++ ' ' :: ((toString response.status).toList ++ ' ' ::
    (statusText response.status).toList)

theorem startLine_plain (response : Response) :
    Below 256 response.startLine ∧ '\r' ∉ response.startLine := by
  have hnumber : '\r' ∉ (toString response.status).toList :=
    not_mem_intText (by decide) (by decide) _
  have htext : '\r' ∉ (statusText response.status).toList :=
    statusText_all (P := fun text => '\r' ∉ text.toList) (by decide +kernel) (by decide) _
  have hlatin := (below_statusText response.status).mono (by decide : 128 ≤ 256)
  unfold startLine
  generalize statusText response.status = text at htext hlatin ⊢
  constructor
  · refine below_append.mpr ⟨by decide, below_append (s := [' ']).mpr ⟨by decide, ?_⟩⟩
    refine below_append.mpr ⟨(below_intText _).mono (by decide), ?_⟩
    exact below_append (s := [' ']).mpr ⟨by decide, hlatin⟩
  · simpa [htext] using hnumber

def fieldLine (entry : String × String) : List Char := entry.1.toList ++ ':' :: ' ' :: entry.2.toList

theorem Told.fieldLine_plain {entry : String × String} (h : Told entry) :
    fieldLine entry ≠ [] ∧ Below 256 (fieldLine entry) ∧ Text.IsLine (fieldLine entry) := by
  refine ⟨by simp [fieldLine], below_append.mpr ⟨?_, ?_⟩, ?_⟩
  · exact fun c hc => Nat.lt_trans (h.name c hc).2.1 (by decide)
  · exact below_append (s := [':', ' ']).mpr ⟨by decide, h.latin⟩
  · have hname : '\r' ∉ entry.1.toList ++ [':', ' '] := by
      have hn : '\r' ∉ entry.1.toList := fun hc => absurd (h.name _ hc).1 (by decide)
      simp [hn]
    have hline := h.line.append hname
    rwa [List.append_assoc] at hline

def lines (response : Response) (keepAlive : Bool) (version : String) : List Char :=
  response.startLine ++ ((response.sentHeaders keepAlive version).entries.map fieldLine).flatMap
    fun line => '\r' :: '\n' :: line

/-- A head is made of lines, and ends with a blank one. -/
theorem headText_eq (response : Response) (keepAlive : Bool) (version : String) :
    response.headText keepAlive version =
      response.lines keepAlive version ++ ['\r', '\n', '\r', '\n'] := by
  have hstart : ∀ status text : String, s!"HTTP/1.1 {status} {text}\r\n".toList =
      "HTTP/1.1".toList ++ ' ' :: (status.toList ++ ' ' :: text.toList) ++ ['\r', '\n'] := by
    intro status text
    simp only [String.toList_append, List.append_assoc, List.cons_append]
    rfl
  have hline : ∀ e : String × String, s!"{e.1}: {e.2}\r\n".toList = fieldLine e ++ ['\r', '\n'] := by
    intro e
    simp only [fieldLine, String.toList_append, List.append_assoc, List.cons_append]
    rfl
  have hfirst := hstart (toString response.status) (statusText response.status)
  have hshift := Text.append_flatMap response.startLine ['\r', '\n']
    ((response.sentHeaders keepAlive version).entries.map fieldLine)
  calc response.headText keepAlive version
    _ = response.startLine ++ ['\r', '\n'] ++ ((response.sentHeaders keepAlive version).entries.map
          fieldLine).flatMap (· ++ ['\r', '\n']) ++ ['\r', '\n'] := by
      rw [headText, List.flatMap_map]
      simp only [← hline]
      exact congrArg (· ++ _ ++ ['\r', '\n']) hfirst
    _ = response.lines keepAlive version ++ ['\r', '\n', '\r', '\n'] := by
      rw [hshift]
      simp [lines]

end Http.Response

namespace Wire

open Http (Fields Response)
open Http.Response (Writable Legible Told startLine fieldLine)

structure Received where
  status : Int
  fields : List (String × String)
  body : Bytes
  deriving DecidableEq, Repr

namespace Received

def readStatus? (line : List Char) : Option Int :=
  match Text.splitOn ' ' line with
  | _ :: status :: _ => (String.ofList status).toInt?
  | _ => none

def readField? (line : List Char) : Option (String × String) :=
  match Text.cut ':' line with
  | (name, some (' ' :: value)) => some (String.ofList name, String.ofList value)
  | _ => none

def readFields? : List (List Char) → Option (List (String × String))
  | [] => some []
  | line :: rest => do
    let field ← readField? line
    let fields ← readFields? rest
    some (field :: fields)

def readHead? (head : Bytes) : Option (Int × List (String × String)) :=
  match Text.lines (Bytes.toText head) with
  | [] => none
  | first :: rest => do
    let status ← readStatus? first
    let fields ← readFields? rest
    some (status, fields)

def values (fields : List (String × String)) (name : String) : List String :=
  fields.filterMap fun e => if e.1.toList.map Char.toLower = name.toList then some e.2 else none

def bodyLength? (fields : List (String × String)) : Option Nat :=
  match values fields "content-length" with
  | [] => some 0
  | [length] => length.toNat?
  | _ => none

def read? (headOnly : Bool) (bytes : Bytes) : Option (Received × Bytes) := do
  let front ← Bytes.find? bytes blankLine 0
  let (status, fields) ← readHead? (bytes.take front)
  let length ← bodyLength? fields
  let (body, rest) ←
    Bytes.splitAt? (if headOnly then 0 else length) (bytes.drop (front + blankLine.length))
  some ({ status, fields, body }, rest)

theorem length_of_read? {headOnly : Bool} {bytes rest : Bytes} {got : Received}
    (h : read? headOnly bytes = some (got, rest)) : rest.length < bytes.length := by
  simp only [read?, Option.bind_eq_bind, Option.bind_eq_some_iff, Bytes.splitAt?_eq,
    Option.ite_none_right_eq_some] at h
  obtain ⟨front, hf, ⟨status, fields⟩, -, length, -, ⟨body, after⟩, ⟨-, hs⟩, he⟩ := h
  have hle := Bytes.le_of_find? hf
  cases hs
  cases he
  have hb : blankLine.length = 4 := rfl
  simp only [List.length_drop]
  omega

/-- A head, the blank line that ends it, and as many bytes as it declares are read as one response. -/
theorem read?_append {headOnly : Bool} {front body rest : Bytes} {status : Int} {length : Nat}
    {fields : List (String × String)}
    (hf : Bytes.IsFirst blankLine (front ++ blankLine ++ (body ++ rest)) 0 front.length)
    (hh : readHead? front = some (status, fields)) (hl : bodyLength? fields = some length)
    (hb : body.length = if headOnly then 0 else length) :
    read? headOnly (front ++ blankLine ++ (body ++ rest)) = some ({ status, fields, body }, rest) := by
  have hfind := (Bytes.find?_eq_some_iff (by decide)).mpr hf
  have htake : (front ++ blankLine ++ (body ++ rest)).take front.length = front := by
    rw [List.append_assoc, List.take_left]
  have hdrop : (front ++ blankLine ++ (body ++ rest)).drop (front.length + blankLine.length) =
      body ++ rest := by
    rw [← List.length_append, List.drop_left]
  have hsplit : Bytes.splitAt? body.length (body ++ rest) = some (body, rest) := by
    rw [Bytes.splitAt?_eq, if_pos (by simp), List.take_left, List.drop_left]
  simp only [read?, hfind, Option.bind_eq_bind, Option.bind_some, htake, hdrop, hh, hl, ← hb, hsplit]

def head? (bytes : Bytes) : Option (Int × List (String × String)) := do
  let front ← Bytes.find? bytes blankLine 0
  readHead? (bytes.take front)

def readAll? (headOnly : List Bool) (bytes : Bytes) : Option (List Received) :=
  if bytes = [] then some []
  else match _h : read? (headOnly.headD false) bytes with
    | none => none
    | some (got, rest) => (readAll? headOnly.tail rest).map (got :: ·)
termination_by bytes.length
decreasing_by exact length_of_read? _h

theorem readAll?_cons {headOnly : List Bool} {bytes rest : Bytes} {got : Received}
    (h : read? (headOnly.headD false) bytes = some (got, rest)) :
    readAll? headOnly bytes = (readAll? headOnly.tail rest).map (got :: ·) := by
  have hne : bytes ≠ [] := by
    rintro rfl
    exact absurd (length_of_read? h) (Nat.not_lt_zero _)
  rw [readAll?, if_neg hne]
  split
  · rename_i hn
    rw [h] at hn
    cases hn
  · rename_i hs
    rw [h] at hs
    cases hs
    rfl

theorem readStatus?_startLine (response : Response) :
    readStatus? response.startLine = some response.status := by
  have hspace : ' ' ∉ (toString response.status).toList :=
    Http.not_mem_intText (by decide) (by decide) _
  unfold startLine
  generalize Http.statusText response.status = text
  rw [readStatus?, Text.splitOn_append (by decide), Text.splitOn_append hspace]
  dsimp only
  rw [String.ofList_toList]
  exact Int.toInt?_repr response.status

theorem readField?_fieldLine {entry : String × String} (h : Told entry) :
    readField? (fieldLine entry) = some entry := by
  have hcolon : ':' ∉ entry.1.toList := fun hc => (h.name _ hc).2.2 rfl
  rw [readField?, fieldLine, Text.cut_append hcolon]
  simp

theorem readFields?_fieldLines {entries : List (String × String)} (h : ∀ e ∈ entries, Told e) :
    readFields? (entries.map fieldLine) = some entries := by
  induction entries with
  | nil => rfl
  | cons e rest ih =>
    have hrest := ih fun e he => h e (List.mem_cons_of_mem _ he)
    simp [readFields?, readField?_fieldLine (h e List.mem_cons_self), hrest]

variable {response : Response} {keepAlive : Bool} {version : String}

/-- The head of a response is read up to its first blank line, and holds its fields. -/
theorem readHead?_lines (h : ∀ e ∈ response.given, Told e) (keepAlive : Bool) (version : String) :
    readHead? (Bytes.ofText (response.lines keepAlive version)) =
        some (response.status, (response.sentHeaders keepAlive version).entries) ∧
      ∀ rest, Bytes.IsFirst blankLine
        (Bytes.ofText (response.lines keepAlive version) ++ blankLine ++ rest) 0
        (Bytes.ofText (response.lines keepAlive version)).length := by
  have htold : ∀ e ∈ (response.sentHeaders keepAlive version).entries, Told e :=
    Response.sentHeaders_told h
  have hstart := response.startLine_plain
  have hlines : ∀ line ∈ (response.sentHeaders keepAlive version).entries.map fieldLine,
      line ≠ [] ∧ Below 256 line ∧ Text.IsLine line := by
    intro line hm
    obtain ⟨e, he, rfl⟩ := List.mem_map.mp hm
    exact (htold e he).fieldLine_plain
  have hlatin : Below 256 (response.lines keepAlive version) := by
    refine below_append.mpr ⟨hstart.1, fun c hc => ?_⟩
    obtain ⟨line, hl, hm⟩ := List.mem_flatMap.mp hc
    exact below_append (s := ['\r', '\n']).mpr ⟨by decide, (hlines line hl).2.1⟩ c hm
  constructor
  · rw [readHead?, Bytes.toText_ofText hlatin, Response.lines,
      Text.lines_flatMap (Text.isLine_of_not_mem hstart.2) fun line hl => (hlines line hl).2.2]
    simp [readStatus?_startLine, readFields?_fieldLines htold]
  · exact isFirst_lines hstart.1 (Text.isLine_of_not_mem hstart.2) hlines

theorem values_length (h : response.Writable) (keepAlive : Bool) (version : String) :
    values (response.sentHeaders keepAlive version).entries "content-length" =
      [toString response.payload.length] := by
  have hsame : ∀ e ∈ (response.sentHeaders keepAlive version).entries,
      (if e.1.toList.map Char.toLower = "content-length".toList then some e.2 else none) =
        if e.1 = "Content-Length" then some e.2 else none := by
    intro e he
    by_cases hn : e.1 = "Content-Length"
    · rw [if_pos hn, if_pos (by rw [hn]; decide)]
    · rw [if_neg hn, if_neg fun hl => hn ((h.legible keepAlive version e he).length hl)]
  rw [values, List.filterMap_congr hsame, Fields.filterMap_entries, h.not_sized.find?_length]
  rfl

end Received

structure Sending where
  response : Response
  keepAlive : Bool
  version : String
  headOnly : Bool

namespace Sending

variable {sending : Sending}

def encode (sending : Sending) : Except Text.Unencodable Bytes :=
  sending.response.encode sending.keepAlive sending.version sending.headOnly

/-- What is received is what was sent: each field of the handler once, in the order in which the names
first came and with the value that came last, then one length, and what becomes of the connection. -/
structure Conveys (sending : Sending) (got : Received) : Prop where
  status : got.status = sending.response.status
  names : got.fields.map Prod.fst =
    (sending.response.given.map Prod.fst).eraseDups ++ "Content-Length" ::
      if (sending.keepAlive = false ∨ sending.version = "HTTP/1.0") ∧
          "Connection" ∉ sending.response.given.map Prod.fst then ["Connection"] else []
  value : ∀ name value,
    (name = "Connection" → sending.keepAlive = true ∧ sending.version ≠ "HTTP/1.0") →
    sending.response.given? name = some value → (name, value) ∈ got.fields
  length : Received.values got.fields "content-length" = [toString sending.response.payload.length]
  closing : ("Connection", "close") ∈ got.fields ↔ sending.keepAlive = false ∨
    sending.version ≠ "HTTP/1.0" ∧ sending.response.given? "Connection" = some "close"
  kept : sending.keepAlive = true → sending.version = "HTTP/1.0" →
    ("Connection", "keep-alive") ∈ got.fields
  body : got.body = if sending.headOnly then [] else sending.response.payload

def received (sending : Sending) : Received where
  status := sending.response.status
  fields := (sending.response.sentHeaders sending.keepAlive sending.version).entries
  body := if sending.headOnly then [] else sending.response.payload

theorem conveys_received (h : sending.response.Writable) : sending.Conveys sending.received where
  status := rfl
  names := by
    have hsaid : (Response.fate? sending.keepAlive sending.version).isSome ↔
        sending.keepAlive = false ∨ sending.version = "HTTP/1.0" := by
      unfold Response.fate?
      cases sending.keepAlive <;> simp
    have hnames := h.not_sized.names_sentHeaders sending.keepAlive sending.version
    simp only [hsaid] at hnames
    exact hnames
  value := by
    intro name value hown hg
    refine Fields.mem_entries_iff.mpr ?_
    have hl : name ≠ "Content-Length" := by
      rintro rfl
      obtain ⟨front, back, he, -⟩ := List.lookup_eq_some_iff.mp hg
      have hmem : ("Content-Length", value) ∈ sending.response.given :=
        List.mem_reverse.mp (he ▸ List.mem_append_right _ List.mem_cons_self)
      exact h.not_sized (List.mem_map.mpr ⟨_, hmem, rfl⟩)
    -- Of the connection the encoding speaks first, and where it is silent the handler does.
    by_cases hc : name = "Connection"
    · obtain ⟨hk, hv⟩ := hown hc
      subst hc
      rw [Response.find?_connection, Response.fate?, hk]
      simpa [hv] using hg
    · exact (Response.find?_sentHeaders hl hc).trans hg
  length := Received.values_length h _ _
  closing := by
    rw [received, Fields.mem_entries_iff, Response.find?_connection, Response.fate?]
    cases sending.keepAlive <;> by_cases hv : sending.version = "HTTP/1.0" <;> simp [hv]
  kept := by
    intro hk hv
    refine Fields.mem_entries_iff.mpr ((Response.find?_connection _ _ _).trans ?_)
    rw [hk, hv]
    rfl
  body := rfl

/-- A response is sent as its lines, a blank line, and its body. -/
theorem encode_lines (h : ∀ e ∈ sending.response.given, Told e) : sending.encode =
    .ok (Bytes.ofText (sending.response.lines sending.keepAlive sending.version) ++ blankLine ++
      sending.received.body) := by
  have hsent : sending.response.Representable sending.keepAlive sending.version := by
    intro e he
    have htold := Response.sentHeaders_told h e he
    exact ⟨fun c hc => Nat.lt_trans (htold.name c hc).2.1 (by decide), htold.latin⟩
  have hhead : Bytes.ofText (sending.response.headText sending.keepAlive sending.version) =
      Bytes.ofText (sending.response.lines sending.keepAlive sending.version) ++ blankLine := by
    rw [Response.headText_eq, Bytes.ofText, List.map_append]
    rfl
  exact Response.encode_eq_ok_iff.mpr ⟨hsent, by rw [hhead, received]⟩

/-- A client has the fields of a response, whatever length it declares. -/
theorem head?_encode (h : ∀ e ∈ sending.response.given, Told e) :
    ∃ output, sending.encode = .ok output ∧
      Received.head? output = some (sending.response.status, sending.received.fields) := by
  refine ⟨_, encode_lines h, ?_⟩
  obtain ⟨hread, hfirst⟩ := Received.readHead?_lines h sending.keepAlive sending.version
  have hfind := (Bytes.find?_eq_some_iff (by decide)).mpr (hfirst sending.received.body)
  rw [Received.head?, hfind, Option.bind_eq_bind, Option.bind_some, List.append_assoc, List.take_left]
  exact hread

/-- A client takes the bytes of a response that declares the length of its body, and no others. -/
theorem read?_encode (h : ∀ e ∈ sending.response.given, Told e)
    (hl : Received.values sending.received.fields "content-length" =
      [toString sending.response.payload.length]) :
    ∃ output, sending.encode = .ok output ∧ ∀ rest,
      Received.read? sending.headOnly (output ++ rest) = some (sending.received, rest) := by
  refine ⟨_, encode_lines h, fun rest => ?_⟩
  have hlength : Received.bodyLength? sending.received.fields = some sending.response.payload.length := by
    rw [Received.bodyLength?, hl]
    exact Nat.toNat?_repr _
  obtain ⟨hread, hfirst⟩ := Received.readHead?_lines h sending.keepAlive sending.version
  rw [List.append_assoc]
  refine Received.read?_append (hfirst _) hread hlength ?_
  rw [received]
  cases sending.headOnly <;> rfl

end Sending

/-- A client splits what is sent on a connection into the responses that were sent on it. -/
theorem received_as_sent {sendings : List Sending} (h : ∀ sending ∈ sendings, sending.response.Writable) :
    ∃ (outputs : List Bytes) (received : List Received), sendings.map Sending.encode = outputs.map .ok ∧
      Received.readAll? (sendings.map Sending.headOnly) outputs.flatten = some received ∧
      List.Forall₂ Sending.Conveys sendings received := by
  induction sendings with
  | nil => exact ⟨[], [], rfl, by rw [Received.readAll?]; rfl, .nil⟩
  | cons sending rest ih =>
    have hw := h sending List.mem_cons_self
    obtain ⟨outputs, received, hencode, hread, hconveys⟩ :=
      ih fun other hm => h other (List.mem_cons_of_mem _ hm)
    -- The bytes of the later responses are the rest that the first one leaves.
    obtain ⟨output, ho, hone⟩ := Sending.read?_encode hw.told (Received.values_length hw _ _)
    refine ⟨output :: outputs, sending.received :: received, ?_, ?_, ?_⟩
    · rw [List.map_cons, List.map_cons, ho, hencode]
    · have hfirst : Received.read? (((sending :: rest).map Sending.headOnly).headD false)
          (output :: outputs).flatten = some (sending.received, outputs.flatten) := hone _
      rw [Received.readAll?_cons hfirst, List.map_cons, List.tail_cons, hread]
      rfl
    · exact .cons (Sending.conveys_received hw) hconveys

def misleading : List Sending := [
  { response := {
      body := some (Bytes.ofString "HTTP/1.1 404 Not Found\r\nContent-Length: 9\r\n\r\n")
      written := Http.isWritten_ok }
    keepAlive := true, version := "HTTP/1.1", headOnly := false },
  { response := { status := 204, headers := { entries := [("connection", "close")] }, body := none }
    keepAlive := true, version := "HTTP/1.0", headOnly := true },
  { response := {
      headers := { entries := [("x-tag", "a: b"), ("X-Tag", " ")] }
      body := some [13, 10]
      written := Http.isWritten_ok }
    keepAlive := false, version := "HTTP/1.1", headOnly := true }]

theorem received_as_sent_misleading : (∀ sending ∈ misleading, sending.response.Writable) ∧
    ∃ (outputs : List Bytes) (received : List Received), misleading.map Sending.encode = outputs.map .ok ∧
      Received.readAll? (misleading.map Sending.headOnly) outputs.flatten = some received ∧
      List.Forall₂ Sending.Conveys misleading received := by
  have hwritable : ∀ sending ∈ misleading, sending.response.Writable := by
    intro sending hm
    simp only [misleading, List.mem_cons, List.not_mem_nil, or_false] at hm
    rcases hm with rfl | rfl | rfl
    · exact ⟨by decide, by decide, by decide, by decide⟩
    · exact ⟨by decide, by decide, by decide, by decide⟩
    · exact ⟨by decide, by decide, by decide, by decide⟩
  exact ⟨hwritable, received_as_sent hwritable⟩

end Wire

end FixedReply
