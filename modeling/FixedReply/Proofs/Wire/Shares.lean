import FixedReply.Proofs.Wire.Receptions
import Mathlib.Data.List.Forall2

namespace FixedReply.Wire

open Http (Request)

variable {limits : Limits} {stage later : Stage} {bytes rest share : Bytes} {request asked : Request}
  {wire next : Wire} {said : List Act} {requests : List Request} {shares : List Bytes}

/-- A request is read from line ends, its head, a blank line and what its body is made of. -/
inductive Share (request : Request) : Bytes → Prop
  | of {count : Nat} {head after : Bytes} {asked : Request} (hr : Http.Head.read head = .ok asked)
      (he : request = { asked with body := request.body }) :
      Share request (gap count ++ (head ++ blankLine ++ after))

/-- A share is not smaller than a blank line. -/
theorem Share.length (h : Share request share) : 4 ≤ share.length := by
  obtain @⟨count, head, after, -, -, -⟩ := h
  have hb : blankLine.length = 4 := rfl
  simp only [List.length_append, hb]
  omega

namespace Stage

def asked? : Stage → Option Request
  | start => none
  | head => none
  | block request _ => some request
  | sizes request _ _ => some request
  | chunk request _ _ _ => some request
  | trailers request _ => some request

/-- A move goes on with the request whose head has been read. -/
theorem asked_of_goes (ha : stage.asked? = some asked)
    (h : stage.step limits bytes = some (.goes said later, rest)) : later.asked? = some asked := by
  cases stage with
  | start | head => cases ha
  | block request length =>
    obtain ⟨a, -, hmove⟩ := Scan.move?_eq_some.mp h
    cases hmove
  | sizes request parts total =>
    obtain ⟨line, -, hmove⟩ := Scan.move?_eq_some.mp h
    cases line with
    | none => cases hmove
    | some line =>
      simp only [afterSize, measure] at hmove
      split at hmove
      · cases hmove
      · cases hmove
        exact ha
      · split at hmove <;> cases hmove
        exact ha
  | chunk request parts total size =>
    obtain ⟨a, -, hmove⟩ := Scan.move?_eq_some.mp h
    simp only [afterChunk] at hmove
    split at hmove <;> cases hmove
    exact ha
  | trailers request body =>
    obtain ⟨line, -, hmove⟩ := Scan.move?_eq_some.mp h
    cases line with
    | none => cases hmove
    | some line =>
      simp only [afterTrailer] at hmove
      split at hmove <;> cases hmove
      exact ha

/-- A move that ends a request gives it no more than a body. -/
theorem asked_of_ends (ha : stage.asked? = some asked)
    (h : stage.step limits bytes = some (.ends request, rest)) :
    request = { asked with body := request.body } := by
  cases stage with
  | start | head => cases ha
  | block =>
    obtain ⟨a, -, hmove⟩ := Scan.move?_eq_some.mp h
    cases ha
    cases hmove
    rfl
  | sizes request parts total =>
    obtain ⟨line, -, hmove⟩ := Scan.move?_eq_some.mp h
    cases line with
    | none => cases hmove
    | some line =>
      simp only [afterSize, measure] at hmove
      split at hmove
      · cases hmove
      · cases hmove
      · split at hmove <;> cases hmove
  | chunk request parts total size =>
    obtain ⟨a, -, hmove⟩ := Scan.move?_eq_some.mp h
    simp only [afterChunk] at hmove
    split at hmove <;> cases hmove
  | trailers =>
    obtain ⟨line, -, hmove⟩ := Scan.move?_eq_some.mp h
    cases line with
    | none => cases hmove
    | some line =>
      simp only [afterTrailer] at hmove
      split at hmove <;> cases hmove
      cases ha
      rfl

end Stage

theorem asked_of_outcome (ha : stage.asked? = some asked)
    (h : (outcome limits stage bytes).2 = .read request rest) :
    request = { asked with body := request.body } := by
  induction hw : stage.weight bytes using Nat.strongRecOn generalizing stage bytes with
  | ind weight ih =>
    rcases outcome_read h with hs | ⟨said, later, left, hs, ho⟩
    · exact Stage.asked_of_ends ha hs
    · exact ih _ (hw ▸ Stage.weight_of_step hs) (Stage.asked_of_goes ha hs) ho rfl

theorem read_of_understand {head : Bytes} {framing : Http.Framing}
    (h : understand limits head = .ok (asked, framing)) : Http.Head.read head = .ok asked := by
  unfold understand at h
  split at h
  · cases h
  · rename_i request hr
    split at h
    · cases h
    · cases h
      exact hr
    · split at h <;> cases h
      exact hr

/-- What is read from a head on is the request of this head. -/
theorem share_of_head (h : (outcome limits .head bytes).2 = .read request rest) :
    ∃ head after asked, bytes = head ++ blankLine ++ after ++ rest ∧
      Http.Head.read head = .ok asked ∧ request = { asked with body := request.body } := by
  -- In either case a head has been found, and has been understood.
  have hstep : ∀ {move left}, Stage.head.step limits bytes = some (move, left) →
      (∀ why, move ≠ .stops why) → ∃ head asked framing, bytes = head ++ blankLine ++ left ∧
        Http.Head.read head = .ok asked ∧ Stage.begin asked framing = move := by
    intro move left hs hne
    obtain ⟨line, hf, hmove⟩ := Scan.move?_eq_some.mp hs
    cases line with
    | none => exact absurd hmove.symm (hne _)
    | some head =>
      obtain ⟨hb, -, -⟩ := (scanUpTo_found (by decide)).mp hf
      simp only [Stage.afterHead] at hmove
      split at hmove
      · exact absurd hmove.symm (hne _)
      · rename_i asked framing hu
        exact ⟨head, asked, framing, hb, read_of_understand hu, hmove⟩
  rcases outcome_read h with hs | ⟨said, later, left, hs, ho⟩
  · obtain ⟨head, asked, framing, hb, hr, hmove⟩ := hstep hs fun _ => Move.noConfusion
    refine ⟨head, [], asked, by rw [hb, List.append_nil], hr, ?_⟩
    rcases framing with _ | _ | n <;> cases hmove
    rfl
  · obtain ⟨head, asked, framing, hb, hr, hmove⟩ := hstep hs fun _ => Move.noConfusion
    obtain ⟨after, rfl⟩ := suffix_of_outcome ho
    have ha : later.asked? = some asked := by
      rcases framing with _ | _ | n <;> cases hmove <;> rfl
    exact ⟨head, after, asked, by rw [hb, List.append_assoc _ after], hr, asked_of_outcome ha ho⟩

/-- The bytes that a request is read from are its share and what is left. -/
theorem share_of_outcome (h : (outcome limits .start bytes).2 = .read request rest) :
    ∃ share, bytes = share ++ rest ∧ Share request share := by
  rcases outcome_read h with hs | ⟨said, later, left, hs, ho⟩
  · obtain ⟨_, -, hmove⟩ := Scan.move?_eq_some.mp hs
    cases hmove
  · obtain ⟨_, hf, hmove⟩ := Scan.move?_eq_some.mp hs
    cases hmove
    obtain ⟨rfl, -⟩ := scanBlankLines_found.mp hf
    obtain ⟨head, after, asked, hleft, hr, he⟩ := share_of_head ho
    obtain ⟨count, hcount⟩ := dropBlankLines_eq_gap bytes
    refine ⟨gap count ++ (head ++ blankLine ++ after), ?_, .of hr he⟩
    rw [List.append_assoc, ← hleft, ← hcount]

def taken (wire : Wire) : Bytes := (wire.received.map Prod.snd).flatten

theorem Fetched.taken {got : List (Time × Bytes)} (h : Fetched got wire next) :
    next.taken = wire.taken ++ (got.map Prod.snd).flatten := by
  rw [Wire.taken, Wire.taken, h.received, List.map_append, List.flatten_append]

/-- What a reception takes is buffered. -/
theorem taken_fill (h : wire.fill = (.ok true, next)) :
    ∃ got, next.taken = wire.taken ++ got ∧ next.buffer = wire.buffer ++ got := by
  obtain ⟨got, hgot⟩ := fetched_fill h
  obtain ⟨piece, -, hb, hu⟩ := fill_more h
  obtain rfl : (got.map Prod.snd).flatten = piece :=
    List.append_cancel_right (hgot.upcoming.symm.trans hu)
  exact ⟨_, hgot.taken, hb⟩

/-- On the wire a request is read from what was buffered and what is received in the meantime, and leaves
the rest of it buffered. -/
theorem share_of_read (h : Stage.start.read limits wire = (.ok request, next)) :
    ∃ got share, next.taken = wire.taken ++ got ∧ wire.buffer ++ got = share ++ next.buffer ∧
      Share request share := by
  obtain ⟨got, said, hgot, -, ho⟩ := outcome_of_read h
  obtain ⟨share, hshare, hs⟩ := share_of_outcome (congrArg Prod.snd ho)
  exact ⟨_, share, hgot.taken, hshare, hs⟩

/-- Some bytes are one share for each of these requests, in their order, and some more. -/
def Portioned (requests : List Request) (bytes left : Bytes) : Prop :=
  ∃ shares, bytes = shares.flatten ++ left ∧ List.Forall₂ Share requests shares

theorem Portioned.more (h : Portioned requests bytes rest) (more : Bytes) :
    Portioned requests (bytes ++ more) (rest ++ more) := by
  obtain ⟨shares, rfl, hs⟩ := h
  exact ⟨shares, by rw [List.append_assoc], hs⟩

theorem Portioned.snoc (h : Portioned requests bytes (share ++ rest)) (hs : Share request share) :
    Portioned (requests ++ [request]) bytes rest := by
  obtain ⟨shares, rfl, hshares⟩ := h
  refine ⟨shares ++ [share], by simp, ?_⟩
  exact List.rel_append hshares (.cons hs .nil)

theorem Portioned.length (h : Portioned requests bytes rest) :
    4 * requests.length ≤ bytes.length := by
  obtain ⟨shares, rfl, hs⟩ := h
  have hflat : 4 * requests.length ≤ shares.flatten.length := by
    induction hs with
    | nil => exact Nat.zero_le _
    | cons hshare _ ih =>
      have hlen := hshare.length
      simp only [List.length_cons, List.flatten_cons, List.length_append] at ih ⊢
      omega
  rw [List.length_append]
  omega

end FixedReply.Wire
