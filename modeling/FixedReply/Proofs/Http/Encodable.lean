import FixedReply.Http.Refusal
import FixedReply.Proofs.Http.SentFields

namespace FixedReply

namespace Text

/-- A text of characters below 256 has one byte for each. -/
theorem latin1_encode {s : List Char} (h : Below 256 s) : Codec.latin1.encode s = .ok (Bytes.ofText s) := by
  simp only [Codec.encode, encodeBelow, encodeEach_eq_ok_iff, Bytes.ofText, List.map_map]
  apply List.map_congr_left
  intro c hc
  simp [byteBelow, h c hc]

/-- No other text has bytes of that kind. -/
theorem below_of_latin1 {s : List Char} {bytes : Bytes} (h : Codec.latin1.encode s = .ok bytes) :
    Below 256 s := by
  have heach : s.map (byteBelow 256) = bytes.map some := encodeEach_eq_ok_iff.mp h
  intro c hc
  have hm : byteBelow 256 c ∈ bytes.map some := heach ▸ List.mem_map_of_mem hc
  obtain ⟨b, -, hb⟩ := List.mem_map.mp hm
  unfold byteBelow at hb
  split at hb
  · assumption
  · cases hb

end Text

namespace Http

/-- Names are in ASCII, and values have one byte for each character. -/
def Fields.Plain (fields : Fields) : Prop :=
  ∀ e ∈ fields.entries, Below 128 e.1.toList ∧ Below 256 e.2.toList

theorem below_canonicalName {name : String} (h : Below 128 name.toList) :
    Below 128 (canonicalName name).toList := by
  rw [canonicalName, String.toList_ofList]
  apply Text.below_joinWith (by simp [Below])
  intro part hp
  obtain ⟨whole, hw, rfl⟩ := List.mem_map.mp hp
  exact Text.below_capitalize fun c hc => h c (Text.mem_of_splitOn hw hc)

theorem isDigit_natText (n : Nat) : ∀ c ∈ (toString n).toList, c.isDigit := by
  intro c hc
  have ht : (toString n).toList = Nat.toDigits 10 n := by simp [Nat.repr]
  rw [ht] at hc
  exact Nat.isDigit_of_mem_toDigits (by decide) (by decide) hc

theorem intText_digits (n : Int) : ∀ c ∈ (toString n).toList, c.isDigit ∨ c = '-' := by
  cases n with
  | ofNat n => exact fun c hc => .inl (isDigit_natText n c hc)
  | negSucc n =>
    have ht : toString (Int.negSucc n) = "-" ++ toString (n + 1) := rfl
    intro c hc
    rw [ht, String.toList_append, List.mem_append] at hc
    rcases hc with hc | hc
    · exact .inr (List.mem_singleton.mp hc)
    · exact .inl (isDigit_natText (n + 1) c hc)

/-- No separator is found in a number. -/
theorem not_mem_intText {c : Char} (hd : c.isDigit = false) (hs : c ≠ '-') (n : Int) :
    c ∉ (toString n).toList := by
  intro hc
  rcases intText_digits n c hc with h | h
  · exact Bool.false_ne_true (hd.symm.trans h)
  · exact hs h

theorem below_of_isDigit {c : Char} (h : c.isDigit) : c.toNat < 128 := by
  simp only [Char.isDigit, Bool.and_eq_true, decide_eq_true_eq] at h
  exact Nat.lt_of_le_of_lt h.2 (by decide)

theorem below_natText (n : Nat) : Below 128 (toString n).toList :=
  fun c hc => below_of_isDigit (isDigit_natText n c hc)

theorem below_intText (n : Int) : Below 128 (toString n).toList := by
  intro c hc
  rcases intText_digits n c hc with hd | rfl
  · exact below_of_isDigit hd
  · decide

/-- What holds of all status texts holds of the one that is sent. -/
theorem statusText_all {P : String → Prop} (h : ∀ e ∈ statusTexts, P e.2) (hu : P "Unknown")
    (status : Int) : P (statusText status) := by
  unfold statusText
  cases hl : statusTexts.lookup status with
  | none => exact hu
  | some text =>
    obtain ⟨front, back, he, -⟩ := List.lookup_eq_some_iff.mp hl
    exact h (status, text) (he ▸ List.mem_append_right _ List.mem_cons_self)

theorem below_statusText (status : Int) : Below 128 (statusText status).toList :=
  statusText_all (P := fun text => Below 128 text.toList) (by decide +kernel) (by decide) status

namespace Response

variable {response : Response}

/-- The encoding adds plain fields only. -/
theorem plain_sentHeaders (h : response.headers.Plain) (keepAlive : Bool) (version : String) :
    (response.sentHeaders keepAlive version).Plain := by
  apply sentHeaders_all
  · intro e he
    obtain ⟨entry, hm, rfl⟩ := List.mem_map.mp he
    exact ⟨below_canonicalName (h entry hm).1, (h entry hm).2⟩
  · exact fun n => ⟨(by decide : Below 128 "Content-Length".toList),
      (below_natText n).mono (by decide)⟩
  · decide

def Representable (response : Response) (keepAlive : Bool) (version : String) : Prop :=
  ∀ e ∈ (response.sentHeaders keepAlive version).entries, Below 256 e.1.toList ∧ Below 256 e.2.toList

/-- Plain fields can be written, also with what the encoding adds. -/
theorem representable_of_plain (h : response.headers.Plain) (keepAlive : Bool) (version : String) :
    response.Representable keepAlive version := by
  intro e he
  obtain ⟨hn, hv⟩ := plain_sentHeaders h keepAlive version e he
  exact ⟨hn.mono (by decide), hv⟩

/-- It is the fields alone that decide whether a head can be written. -/
theorem below_headText {keepAlive : Bool} {version : String} :
    Below 256 (response.headText keepAlive version) ↔ response.Representable keepAlive version := by
  have hline : ∀ name value : String, Below 256 s!"{name}: {value}\r\n".toList ↔
      Below 256 name.toList ∧ Below 256 value.toList := by
    intro name value
    have hcolon : Below 256 ": ".toList := by decide
    have hend : Below 256 "\r\n".toList := by decide
    simp only [String.toList_append, below_append, toString, hcolon, hend, and_true]
  have hstart : Below 256 s!"HTTP/1.1 {response.status} {statusText response.status}\r\n".toList := by
    simp only [String.toList_append, below_append]
    exact ⟨⟨⟨⟨by decide, (below_intText _).mono (by decide)⟩, by decide⟩,
      (below_statusText _).mono (by decide)⟩, by decide⟩
  have hend : Below 256 ['\r', '\n'] := by decide
  rw [headText, below_append, below_append]
  constructor
  · rintro ⟨⟨-, hfields⟩, -⟩ ⟨name, value⟩ he
    exact (hline name value).mp fun c hc => hfields c (List.mem_flatMap.mpr ⟨_, he, hc⟩)
  · refine fun h => ⟨⟨hstart, fun c hc => ?_⟩, hend⟩
    obtain ⟨⟨name, value⟩, he, hm⟩ := List.mem_flatMap.mp hc
    exact (hline name value).mpr (h _ he) c hm

/-- A response has bytes exactly if its fields can be written, and then those of its head and, unless the
head alone is wanted, of its body. -/
theorem encode_eq_ok_iff {keepAlive headOnly : Bool} {version : String} {bytes : Bytes} :
    response.encode keepAlive version headOnly = .ok bytes ↔
      response.Representable keepAlive version ∧
        bytes = Bytes.ofText (response.headText keepAlive version) ++
          if headOnly then [] else response.payload := by
  rw [← below_headText, encode]
  constructor
  · intro he
    cases hc : Text.Codec.latin1.encode (response.headText keepAlive version) with
    | error what =>
      rw [hc] at he
      cases he
    | ok head =>
      have hlatin := Text.below_of_latin1 hc
      rw [Text.latin1_encode hlatin] at he
      cases he
      exact ⟨hlatin, by cases headOnly <;> simp⟩
  · rintro ⟨h, rfl⟩
    rw [Text.latin1_encode h]
    cases headOnly <;> simp

theorem encode_eq (h : response.headers.Plain) (keepAlive : Bool) (version : String) (headOnly : Bool) :
    response.encode keepAlive version headOnly =
      .ok (Bytes.ofText (response.headText keepAlive version) ++
        if headOnly then [] else response.payload) :=
  encode_eq_ok_iff.mpr ⟨representable_of_plain h keepAlive version, rfl⟩

theorem encodes_iff {keepAlive headOnly : Bool} {version : String} :
    (∃ bytes, response.encode keepAlive version headOnly = .ok bytes) ↔
      response.Representable keepAlive version :=
  ⟨fun ⟨_, he⟩ => (encode_eq_ok_iff.mp he).1, fun h => ⟨_, encode_eq_ok_iff.mpr ⟨h, rfl⟩⟩⟩

/-- A response with plain fields has bytes, whatever else it holds. -/
theorem encodes (h : response.headers.Plain) (keepAlive : Bool) (version : String) (headOnly : Bool) :
    ∃ bytes, response.encode keepAlive version headOnly = .ok bytes :=
  ⟨_, encode_eq h keepAlive version headOnly⟩

/-- A response to a client that wants no other one says so. -/
theorem sentHeaders_close (response : Response) (version : String) :
    (response.sentHeaders false version).find? "Connection" = some "close" :=
  find?_connection response false version

/-- The fields of a text response are plain if no others are given. -/
theorem plain_text (text : String) (status : Int) (written : Text.IsWritten status) :
    (Response.text text status .empty written).headers.Plain := by
  intro e he
  have hall : ∀ e ∈ (textHeaders "utf-8" .empty).entries, Below 128 e.1.toList ∧ Below 256 e.2.toList := by
    decide +kernel
  exact hall e he

end Response

structure Refusal.AnsweredBy (why : Refusal) (data : Bytes) : Prop where
  encoded : why.problem.response.encode false = .ok data
  status : why.problem.response.status ∈ [400, 413, 431, 501, 505]
  closes : (why.problem.response.sentHeaders false "HTTP/1.1").find? "Connection" = some "close"

/-- Every refusal has an answer. -/
theorem Refusal.answered (why : Refusal) : ∃ data, why.AnsweredBy data := by
  obtain ⟨data, he⟩ := Response.encodes (Response.plain_text _ _ why.problem.written)
    false "HTTP/1.1" false
  refine ⟨data, he, ?_, Response.sentHeaders_close _ _⟩
  cases why <;> simp [Problem.response, Response.text, Refusal.problem]

end Http

end FixedReply
