import FixedReply.Proofs.Http.Framing
import FixedReply.Proofs.Wire.Bounds
import FixedReply.Proofs.Wire.Deadline
import FixedReply.Proofs.Wire.Front
import FixedReply.Proofs.Wire.Written

namespace FixedReply.Wire

open Http (Request Framing)

variable {limits : Limits} {wire next : Wire} {request : Request} {length n : Nat}
  {head after : Bytes} {digits : List Char}

theorem deadline_fill (wire : Wire) : wire.fill.2.deadline = wire.deadline := by
  unfold fill
  split
  · split
    · rfl
    · exact deadline_waitFor _ _
  · split
    · exact deadline_waitFor _ _
    · dsimp only
      split <;> exact deadline_waitFor _ _

/-- A reception is given up at a deadline only. -/
theorem deadline_of_expired (h : wire.fill = (.error .expired, next)) : wire.deadline ≠ none := by
  intro hd
  unfold fill at h
  rw [hd] at h
  split at h
  · cases h
  · split at h
    · next hm => simp [meetsDeadline, hd] at hm
    · dsimp only at h
      split at h <;> cases h

/-- What is done with a wire changes nothing about its deadline, and without one no wait is given up. -/
theorem Onward.deadline {acts : List Act} {before after : Wire} (h : Onward acts before after) :
    after.deadline = before.deadline ∧ (.gaveUp ∈ acts → before.deadline ≠ none) := by
  induction h with
  | refl | keep | gather => exact ⟨rfl, fun hg => absurd hg List.not_mem_nil⟩
  | @fill wire next result h =>
    have hd := deadline_fill wire
    rw [h] at hd
    refine ⟨hd, fun hg => ?_⟩
    rcases result with loss | _
    · cases loss with
      | expired => exact deadline_of_expired h
      | cutShort => cases hg
      | broken => cases hg
    · cases hg
  | @send wire next data result h =>
    rcases send_eq wire data with hs | ⟨-, what, hs⟩
    all_goals
      rw [hs] at h
      cases h
      exact ⟨rfl, by simp [sendTraces]⟩
  | trans _ _ h h' =>
    refine ⟨h'.1.trans h.1, fun hg => ?_⟩
    rcases List.mem_append.mp hg with hg | hg
    · exact h.2 hg
    · exact h.1 ▸ h'.2 hg

/-- How a request is read whose head declares this length, and is followed by these bytes. -/
inductive Sized (limits : Limits) (wire : Wire) (request : Request) (length : Nat) (after : Bytes) :
    Except Stop Request × Wire → Prop
  | read {next : Wire} (hl : length = 0 ∨ (length : Int) ≤ limits.body) (ha : length ≤ after.length)
      (hn : next.ahead = after.drop length) :
      Sized limits wire request length after (.ok { request with body := after.take length }, next)
  | tooLarge {next : Wire} (hp : 0 < length) (hl : limits.body < length) (hn : next.ahead = after) :
      Sized limits wire request length after (.error (.refused .bodyTooLarge), next)
  | short {loss : Loss} {next : Wire} (hl : length = 0 ∨ (length : Int) ≤ limits.body)
      (ha : after.length < length) (hx : loss ≠ .expired) :
      Sized limits wire request length after (.error (.lost loss), next)
  | unsent {what : Failures} {next : Wire} (hp : 0 < length) (hl : (length : Int) ≤ limits.body)
      (he : leaveTo request = [.sent leave]) (hm : next.Mute) (hn : next.ahead = after) :
      Sized limits wire request length after (.error (.lost (.broken what)), next)
  | expired {next : Wire} (hd : wire.deadline ≠ none) :
      Sized limits wire request length after (.error (.lost .expired), next)

structure Declares (limits : Limits) (head : Bytes) (request : Request) (digits : List Char)
    (length : Nat) : Prop where
  still : dropBlankLines (head ++ blankLine) = head ++ blankLine
  first : Bytes.IsFirst blankLine (head ++ blankLine) 0 head.length
  fits : (head.length : Int) ≤ limits.head
  reads : Http.Head.read head = .ok request
  uncoded : request.headers.find? "transfer-encoding" = none
  declared : request.headers.find? "content-length" = some (String.ofList digits)
  denotes : Framing.Denotes digits length

theorem Sized.back {result : Except Stop Request × Wire} {acts : List Act}
    (h : Onward acts wire next) (hs : Sized limits next request length after result) :
    Sized limits wire request length after result := by
  cases hs with
  | read hl ha hn => exact .read hl ha hn
  | tooLarge hp hl hn => exact .tooLarge hp hl hn
  | short hl ha hx => exact .short hl ha hx
  | unsent hp hl he hm hn => exact .unsent hp hl he hm hn
  | expired hd => exact .expired (h.deadline.1 ▸ hd)

theorem sized_block (ha : wire.ahead = after) (hl : (length : Int) ≤ limits.body) :
    Sized limits wire request length after (Stage.readBlock request length wire) := by
  unfold Stage.readBlock
  cases ht : exactly length wire with
  | mk result next =>
    have hd := onward_exactly ht
    have hw := exactly_ahead length wire
    rw [ht, ha] at hw
    rcases hw with rfl | hw
    · exact .expired (hd.deadline.2 (by simp [lossTraces, Loss.traces]))
    · by_cases hn : length ≤ after.length
      · have hf : scanExactly length () after = .found (after.take length) (after.drop length) :=
          scanExactly_found.mpr ⟨(List.take_append_drop _ _).symm, by simp [hn]⟩
        rw [hf] at hw
        cases hw with
        | found h => exact .read (.inr hl) hn h
      · have hf : scanExactly length () after = .wanting () after := by
          simp [scanExactly, Bytes.splitAt?_eq, hn]
        rw [hf] at hw
        cases hw with
        | lost h => exact .short (.inr hl) (Nat.lt_of_not_le hn) h

theorem sized_rest (ha : wire.ahead = after) (hb : request.body = [])
    (hl : length = 0 ∨ (length : Int) ≤ limits.body) :
    Sized limits wire request length after (Stage.readRest limits request (.sized length) wire) := by
  unfold Stage.readRest
  by_cases h0 : length = 0
  · subst h0
    rw [if_pos rfl]
    have hread : Sized limits wire request 0 after (.ok { request with body := after.take 0 }, wire) :=
      .read hl (Nat.zero_le after.length) ha
    have hsame : { request with body := after.take 0 } = request := by
      rw [List.take_zero, ← hb]
    rwa [hsame] at hread
  · rw [if_neg (by simpa using h0)]
    rcases Supply.giveLeave_eq request wire with ⟨hg, -⟩ | ⟨hg, -⟩ | ⟨hm, he, what, hg⟩
    · rw [hg]
      exact sized_block ha (hl.resolve_left h0)
    · rw [hg]
      have hnext : (wire.note (.sent leave)).ahead = after := ha
      exact (sized_block hnext (hl.resolve_left h0)).back (onward_giveLeave hg)
    · rw [hg]
      exact .unsent (Nat.pos_of_ne_zero h0) (hl.resolve_left h0) he hm ha

/-- What a head with a declared length is understood as. -/
theorem Declares.understood (h : Declares limits head request digits length)
    (hn : digits.length ≤ Text.digitLimit) :
    understand limits head = if 0 < length ∧ limits.body < length then .error (.refused .bodyTooLarge)
      else .ok (request, .sized length) := by
  obtain ⟨hd, rfl⟩ := h.denotes
  have hr := (Framing.readLength_eq hn).resolve_right fun hr => hr.1 hd
  simp only [understand, h.reads, Framing.ofHeaders, h.uncoded, h.declared, Option.getD_some, hr.2]

theorem Declares.sized_head (h : Declares limits head request digits length)
    (hn : digits.length ≤ Text.digitLimit) (hl : (head.length : Int) + 3 ≤ limits.head)
    (ha : wire.ahead = head ++ blankLine ++ after) :
    Sized limits wire request length after (Stage.head.read limits wire) := by
  have hm : blankLine ≠ [] := by simp [blankLine, Bytes.crlf]
  have hfirst : Bytes.IsFirst blankLine wire.ahead 0 head.length := ha ▸ h.first.append hm
  have hfound : scanUpTo blankLine limits.head 0 wire.ahead = .found (some head) after :=
    (scanUpTo_found hm).mpr ⟨ha, h.fits, hfirst⟩
  rw [Stage.read]
  unfold andThen
  cases ht : upTo blankLine limits.head wire with
  | mk result next =>
    have hd := onward_upTo ht
    have hw := upTo_ahead hm limits.head wire
    rw [ht, hfound] at hw
    rcases hw with rfl | hw | ⟨⟨i, hf, -, hover⟩, -⟩
    · exact .expired (hd.deadline.2 (by simp [lossTraces, Loss.traces]))
    · cases hw with
      | found hnext =>
        dsimp only
        rw [h.understood hn]
        by_cases hlarge : 0 < length ∧ limits.body < length
        · rw [if_pos hlarge]
          exact .tooLarge hlarge.1 hlarge.2 hnext
        · rw [if_neg hlarge]
          have hbody : length = 0 ∨ (length : Int) ≤ limits.body := by omega
          exact (sized_rest hnext (Http.Head.body_of_read h.reads) hbody).back hd
    · obtain rfl := hf.unique hfirst
      simp only [blankLine, Bytes.crlf, List.length_append, List.length_cons, List.length_nil] at hover
      omega

/-- More than a single byte stands in front of what follows a head. -/
theorem ne_of_blankLine (head after : Bytes) :
    head ++ blankLine ++ after ≠ [] ∧ head ++ blankLine ++ after ≠ [Bytes.cr] := by
  constructor
  all_goals
    intro he
    have hlen := congrArg List.length he
    simp only [blankLine, Bytes.crlf, List.length_append, List.length_cons, List.length_nil] at hlen
    omega

theorem Declares.sized (h : Declares limits head request digits length)
    (hn : digits.length ≤ Text.digitLimit) (hl : (head.length : Int) + 3 ≤ limits.head)
    (ha : dropBlankLines wire.ahead = head ++ blankLine ++ after) :
    Sized limits wire request length after (readRequest limits wire) := by
  have hfound : scanBlankLines () wire.ahead = .found () (head ++ blankLine ++ after) :=
    scanBlankLines_found.mpr ⟨ha.symm, ne_of_blankLine head after⟩
  have hstart : readRequest limits wire = Stage.start.read limits wire := rfl
  rw [hstart, Stage.read_start]
  unfold andThen
  cases ht : skipBlankLines wire with
  | mk result next =>
    have hd := onward_skipBlankLines ht
    have hw := skipBlankLines_ahead wire
    rw [ht, hfound] at hw
    rcases hw with rfl | hw
    · exact .expired (hd.deadline.2 (by simp [lossTraces, Loss.traces]))
    · cases hw with
      | found hnext => exact (h.sized_head hn hl hnext).back hd

def parted (front more : Bytes) : Wire := { buffer := front, inbox := [{ what := .data more }] }

theorem ahead_parted (front more : Bytes) : (parted front more).ahead = front ++ more := by
  cases more <;> simp [parted, ahead, upcoming]

/-- A fault in what has been buffered is met before anything is received. -/
theorem read_parted {front : Bytes} {why : Http.Fault}
    (ho : outcome limits .start front = ([], .stopped why)) (more : Bytes) :
    ∃ next, readRequest limits (parted front more) = (.error (.fault why), next) := by
  have hhas : (buffered [{ what := .data more }]).Has (parted front more) front := ⟨rfl, rfl⟩
  have hc : (buffered [{ what := .data more }]).Concluded limits .start front (parted front more) _ _ :=
    (buffered [{ what := .data more }]).conclude hhas .start
  rw [ho] at hc
  cases hc with
  | stopped next _ he => exact ⟨next, he⟩
  | expired hx => exact hx.elim
  | unsent _ next did hm => exact absurd did.sendFault hm.faulty
  | strayed hx => exact hx.elim

/-- The reading comes to the head without taking anything. -/
theorem Declares.walk (h : Declares limits head request digits length) (after : Bytes) :
    Walk limits .start (head ++ blankLine ++ after) [] .head (head ++ blankLine ++ after) := by
  have hne := ne_of_blankLine head []
  rw [List.append_nil, ← h.still] at hne
  have hstill : dropBlankLines (head ++ blankLine ++ after) = head ++ blankLine ++ after := by
    rw [dropBlankLines_front hne.1 hne.2, h.still]
  have hfound : scanBlankLines () (head ++ blankLine ++ after) = .found () (head ++ blankLine ++ after) :=
    scanBlankLines_found.mpr ⟨hstill.symm, ne_of_blankLine head after⟩
  have hstep : Stage.start.step limits (head ++ blankLine ++ after) =
      some (.goes [] .head, head ++ blankLine ++ after) :=
    Scan.move?_eq_some.mpr ⟨(), hfound, rfl⟩
  exact .on hstep (.here .head _)

theorem Declares.isFirst (h : Declares limits head request digits length) (after : Bytes) :
    Bytes.IsFirst blankLine (head ++ blankLine ++ after) 0 head.length :=
  h.first.append (by simp [blankLine, Bytes.crlf])

/-- Too many digits are no length. -/
theorem Declares.overlong (h : Declares limits head request digits length)
    (hn : Text.digitLimit < digits.length) (after : Bytes) :
    ∃ next, readRequest limits (parted (head ++ blankLine ++ after) []) =
      (.error (.fault (.tooManyDigits digits.length)), next) := by
  have hd : digits.all Char.isDigit := List.all_eq_true.mpr h.denotes.1
  have hne : digits ≠ [] := by
    rintro rfl
    exact absurd hn (Nat.not_lt_zero _)
  have hu : understand limits head = .error (.tooManyDigits digits.length) := by
    simp [understand, h.reads, Framing.ofHeaders, h.uncoded, h.declared, Framing.readLength, hd, hne, hn]
  have hfound : scanUpTo blankLine limits.head 0 (head ++ blankLine ++ after) = .found (some head) after :=
    (scanUpTo_found (by simp [blankLine, Bytes.crlf])).mpr ⟨rfl, h.fits, h.isFirst after⟩
  have hstep : Stage.head.step limits (head ++ blankLine ++ after) =
      some (.stops (.tooManyDigits digits.length), after) :=
    Scan.move?_eq_some.mpr ⟨some head, hfound, by simp only [Stage.afterHead, hu]⟩
  apply read_parted
  rw [(h.walk after).outcome, outcome_stops hstep, List.append_nil]

/-- A head that comes close to its limit is too large where it is parted in its blank line. -/
theorem Declares.strayed (h : Declares limits head request digits length)
    (hl : limits.head < (head.length : Int) + 3) (after : Bytes) :
    ∃ front more next, head ++ blankLine ++ after = front ++ more ∧
      readRequest limits (parted front more) = (.error (.refused .headTooLarge), next) := by
  have walk := h.walk after
  have hstray : Stage.Strays limits .head (head ++ blankLine ++ after) .headTooLarge := by
    refine .head ⟨head.length, h.isFirst after, h.fits, ?_⟩
    simp only [blankLine, Bytes.crlf, List.length_append, List.length_cons, List.length_nil]
    omega
  obtain ⟨front, more, he, -, hf, hh, ho⟩ := hstray.cut fun _ => walk.still rfl
  rw [he] at walk
  have hstop : outcome limits .start front = ([], .stopped (.refused .headTooLarge)) := by
    rw [(walk.of_append hf hh).outcome, ho, List.append_nil]
  obtain ⟨next, hr⟩ := read_parted hstop more
  exact ⟨front, more, next, he, hr⟩

/-- However a request with a declared length comes, its body is read or it is refused as too large,
exactly if the length has no more digits than are read and the head stays three bytes below its limit. -/
theorem sized_iff (h : Declares limits head request digits length) (after : Bytes) :
    (∀ wire : Wire, dropBlankLines wire.ahead = head ++ blankLine ++ after →
      Sized limits wire request length after (readRequest limits wire)) ↔
        digits.length ≤ Text.digitLimit ∧ (head.length : Int) + 3 ≤ limits.head := by
  have hstill := (h.walk after).still rfl
  constructor
  · intro hs
    constructor
    · refine Nat.le_of_not_lt fun hn => ?_
      obtain ⟨next, hr⟩ := h.overlong hn after
      have hsized := hs (parted _ []) (by rwa [ahead_parted, List.append_nil])
      rw [hr] at hsized
      cases hsized
    · refine Int.not_lt.mp fun hl => ?_
      obtain ⟨front, more, next, he, hr⟩ := h.strayed hl after
      have hsized := hs (parted front more) (by rwa [ahead_parted, ← he])
      rw [hr] at hsized
      cases hsized
  · intro he wire ha
    exact h.sized he.1 he.2 ha

def lengthField (digits : List Char) (hd : ∀ c ∈ digits, c.isDigit) : Http.FieldLine where
  name := "Content-Length".toList
  value := digits
  token := by decide
  latin := fun c hc => Nat.lt_trans (Http.below_of_isDigit (hd c hc)) (by decide)
  unbroken := ⟨fun hc => absurd (hd _ hc) (by decide), fun hc => absurd (hd _ hc) (by decide)⟩
  trimmed := Text.trim_self fun c hc => by
    have hpad : c ≠ ' ' ∧ c ≠ '\t' := by
      constructor <;> rintro rfl <;> exact absurd (hd _ hc) (by decide)
    simp [Text.isPadding, hpad]

def upload (digits : List Char) (hd : ∀ c ∈ digits, c.isDigit) : Http.WrittenHead where
  method := "POST".toList
  path := ['/']
  query := none
  minor := '1'
  fields := [
    { name := ['H', 'o', 's', 't'], value := ['a'], token := by decide, latin := by decide
      unbroken := by decide, trimmed := by decide },
    lengthField digits hd]
  token := by decide
  rooted := by decide
  unasked := by decide
  latin := by decide
  unspaced := by
    intro c hc
    obtain rfl := List.mem_singleton.mp hc
    decide
  digit := Eq.refl true
  distinct := by
    have hn : [String.ofList (Text.lower ['H', 'o', 's', 't']),
      String.ofList (Text.lower "Content-Length".toList)].Nodup := by decide +kernel
    exact hn
  hosted := fun _ => by
    have hm : "host" ∈ [String.ofList (Text.lower ['H', 'o', 's', 't']),
      String.ofList (Text.lower "Content-Length".toList)] := by decide +kernel
    exact hm

theorem length_upload {digits : List Char} (hd : ∀ c ∈ digits, c.isDigit) :
    (upload digits hd).bytes.length = 42 + digits.length := by
  have ht : (upload digits hd).bytes.length = ("POST / HTTP/1.1".toList ++ ("\r\nHost: a".toList ++
      ("\r\nContent-Length: ".toList ++ (digits ++ [])))).length := List.length_map _
  rw [ht]
  simp
  omega

/-- The fields of such a head. -/
theorem entries_upload {digits : List Char} (hd : ∀ c ∈ digits, c.isDigit) :
    (upload digits hd).request.headers.entries =
      [("host", "a"), ("content-length", String.ofList digits)] := by
  have hhost : String.ofList (Text.lower ['H', 'o', 's', 't']) = "host" := by decide +kernel
  have hlength : String.ofList (Text.lower "Content-Length".toList) = "content-length" := by decide +kernel
  have he : (upload digits hd).request.headers.entries =
      [(String.ofList (Text.lower ['H', 'o', 's', 't']), String.ofList ['a']),
        (String.ofList (Text.lower "Content-Length".toList), String.ofList digits)] := rfl
  rw [he, hhost, hlength]

/-- Digits declare the length that they denote, however many they are. -/
theorem declares_upload {digits : List Char} (hd : ∀ c ∈ digits, c.isDigit)
    (hl : 42 + (digits.length : Int) ≤ limits.head) :
    Declares limits (upload digits hd).bytes (upload digits hd).request digits
      (Text.ofDigits (digits.map fun d => d.toNat - 48)) := by
  obtain ⟨b, tail, hb, hcr⟩ := head_front (upload digits hd)
  have hlen := length_upload hd
  refine ⟨?_, ?_, by omega, (upload digits hd).read_bytes, ?_, ?_, hd, rfl⟩
  · rw [hb]
    exact dropBlankLines_cons hcr _
  · have hfirst := isFirst_head (upload digits hd) []
    rwa [List.append_nil] at hfirst
  · rw [Http.Fields.find?, entries_upload hd]
    rfl
  · rw [Http.Fields.find?, entries_upload hd]
    rfl

/-- A length with zeros in front of it. -/
theorem sized_iff_padded :
    let digits := "0005".toList
    let after := Bytes.ofString "hello"
    ∃ hd, Declares {} (upload digits hd).bytes (upload digits hd).request digits 5 ∧
      ∀ wire : Wire, dropBlankLines wire.ahead = (upload digits hd).bytes ++ blankLine ++ after →
        Sized {} wire (upload digits hd).request 5 after (readRequest {} wire) := by
  intro digits after
  have hd : ∀ c ∈ digits, c.isDigit := List.all_eq_true.mp rfl
  have h : Declares {} (upload digits hd).bytes (upload digits hd).request digits 5 :=
    declares_upload hd (by decide)
  have hlen := length_upload hd
  exact ⟨hd, h, (sized_iff h after).mpr ⟨by decide, by rw [hlen]; decide⟩⟩

/-- A length of 4301 digits is neither read nor refused. -/
theorem not_sized_overlong :
    let digits := List.replicate 4301 '1'
    ∃ hd, Declares {} (upload digits hd).bytes (upload digits hd).request digits
        (Text.ofDigits (digits.map fun d => d.toNat - 48)) ∧
      ∃ next, readRequest {} (parted ((upload digits hd).bytes ++ blankLine ++ []) []) =
        (.error (.fault (.tooManyDigits 4301)), next) := by
  intro digits
  have hd : ∀ c ∈ digits, c.isDigit := by
    intro c hc
    rw [List.eq_of_mem_replicate hc]
    rfl
  have hn : digits.length = 4301 := List.length_replicate
  have h : Declares {} _ _ _ _ := declares_upload hd (by rw [hn]; decide)
  refine ⟨hd, h, ?_⟩
  rw [← hn]
  exact h.overlong (by rw [hn]; decide) []

end FixedReply.Wire
