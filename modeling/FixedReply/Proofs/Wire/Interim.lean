import FixedReply.Proofs.Http.HeadFields
import FixedReply.Proofs.Wire.Dialogue

namespace FixedReply

open Http (Request Framing)

namespace Http

variable {block : Bytes} {request : Request}

def Request.ExpectsLeave (request : Request) : Prop :=
  request.version ≠ "HTTP/1.0" ∧ ∃ value, request.headers.find? "expect" = some value ∧
    value.toList.map Char.toLower = "100-continue".toList

/-- Values that are read are of Latin-1. -/
theorem latin_of_read {name value : String} (h : Head.read block = .ok request)
    (hn : name ≠ "content-length") (hv : request.headers.find? name = some value) :
    Below 256 value.toList := by
  rw [Head.find?_of_read h hn] at hv
  unfold Head.joined? at hv
  split at hv <;> cases hv
  rw [String.toList_ofList]
  exact Text.below_joinWith (by decide) fun part hp => Head.latin_values hp

theorem expectsLeave_iff (h : Head.read block = .ok request) :
    expectsLeave request = true ↔ request.ExpectsLeave := by
  unfold expectsLeave Request.ExpectsLeave
  rw [Bool.and_eq_true, decide_eq_true_iff, beq_iff_eq, Text.lowerString]
  refine and_congr_right fun _ => ?_
  cases hv : request.headers.find? "expect" with
  | none => exact iff_of_false (by decide) fun he => nomatch he.choose_spec.1
  | some value =>
    have hlatin := latin_of_read h (by decide) hv
    rw [← String.toList_inj, String.toList_ofList, Option.getD_some,
      Text.lower_eq_iff hlatin (by decide)]
    simp

end Http

namespace Wire

variable {limits : Limits} {wire taken a b c : Wire} {request : Request} {head : Bytes}

def Silent (before after : Wire) : Prop :=
  ∃ acts, after.history = acts ++ before.history ∧ ∀ data, ∀ e ∈ acts, e.2 ≠ .sent data

theorem Silent.refl (wire : Wire) : Silent wire wire := ⟨[], rfl, fun _ => nofun⟩

/-- Whatever is sent is among the acts besides receptions. -/
theorem Onward.silent {acts : List Act} (h : Onward acts a b) (hs : ∀ data, .sent data ∉ acts) :
    Silent a b := by
  obtain ⟨added, hb, -, -⟩ := h.grows.history
  refine ⟨added, hb, fun data e he hsent => hs data ?_⟩
  have hacts : a.dialogue ++ (added.map Prod.snd).reverse.filter (!·.isReception) = a.dialogue ++ acts := by
    rw [← h.did.dialogue, dialogue, dialogue, hb, List.map_append, List.reverse_append, List.filter_append]
  rw [← List.append_cancel_left hacts, List.mem_filter, List.mem_reverse, ← hsent]
  exact ⟨List.mem_map_of_mem he, by rw [hsent]; rfl⟩

theorem silent_traces {α : Type} (result : Except Stop α) (data : Bytes) :
    .sent data ∉ stopTraces result := by
  match result with
  | .ok _ | .error (.fault _) | .error (.lost .cutShort) | .error (.lost (.broken _)) =>
    exact List.not_mem_nil
  | .error (.lost .expired) => exact fun h => nomatch List.mem_singleton.mp h

def TakesHead (limits : Limits) (wire : Wire) (head : Bytes) (taken : Wire) : Prop :=
  ∃ ready, wire.skipBlankLines = (.ok (), ready) ∧
    ready.upTo blankLine limits.head = (.ok (some head), taken)

/-- A client waits for leave to send a body that will be read: one of chunks, or one that has a length and is
not too long. -/
structure AwaitsLeave (limits : Limits) (request : Request) : Prop where
  expects : request.ExpectsLeave
  framed : Framing.ofHeaders request.headers = .ok .chunked ∨
    ∃ length, Framing.ofHeaders request.headers = .ok (.sized length) ∧ 0 < length ∧ length ≤ limits.body

/-- How a request goes on to be read whose client waits for leave. Leave is the next thing that is done, and
then the body is read and nothing more is sent; or it cannot be sent, and then nothing is done. -/
inductive GivesLeave (limits : Limits) (request : Request) (taken : Wire) :
    Except Stop Request → Wire → Prop
  | unsent {what : Failures} (hs : taken.send leave = (.error what, taken)) :
      GivesLeave limits request taken (.error (.lost (.broken what))) taken
  | given {framing : Framing} {body : Except Stop Bytes} {final : Wire}
      (hs : taken.send leave = (.ok (), taken.note (.sent leave)))
      (hf : Framing.ofHeaders request.headers = .ok framing)
      (hb : readBody limits framing (taken.note (.sent leave)) = (body, final))
      (hq : Silent (taken.note (.sent leave)) final) :
      GivesLeave limits request taken (body.map fun body => { request with body }) final

/-- How leave is given while a request is read. Up to the end of the head nothing is sent, and nothing at all
if no head is read. When a head has been read, its client is given leave if it waits for it, and is sent
nothing otherwise. -/
structure Interim (limits : Limits) (wire : Wire) (result : Except Stop Request) (final : Wire) : Prop where
  unread : (∀ head taken request, TakesHead limits wire head taken → Http.Head.read head ≠ .ok request) →
    Silent wire final
  read : ∀ {head taken request}, TakesHead limits wire head taken → Http.Head.read head = .ok request →
    Silent wire taken ∧ (AwaitsLeave limits request → GivesLeave limits request taken result final) ∧
      (¬ AwaitsLeave limits request → Silent taken final)

/-- To take a head is to receive, and nothing else. -/
theorem TakesHead.onward (h : TakesHead limits wire head taken) : Onward [] wire taken := by
  obtain ⟨ready, hs, hu⟩ := h
  exact (onward_skipBlankLines hs).then (onward_upTo hu)

theorem TakesHead.silent (h : TakesHead limits wire head taken) : Silent wire taken :=
  h.onward.silent fun _ => List.not_mem_nil

theorem TakesHead.readHead_ok {understood : Request × Framing} (h : TakesHead limits wire head taken)
    (hu : understand limits head = .ok understood) : readHead limits wire = (.ok understood, taken) := by
  obtain ⟨ready, hs, ht⟩ := h
  simp only [readHead, hs, ht, hu]

theorem TakesHead.readHead_error {why : Http.Fault} (h : TakesHead limits wire head taken)
    (hu : understand limits head = .error why) :
    readHead limits wire = (.error (.fault why), taken) := by
  obtain ⟨ready, hs, ht⟩ := h
  simp only [readHead, hs, ht, hu]

/-- A request that has been understood is that of a head that has been taken. -/
theorem takesHead_of_readHead {framing : Framing}
    (h : readHead limits wire = (.ok (request, framing), taken)) :
    ∃ head, TakesHead limits wire head taken ∧ Http.Head.read head = .ok request := by
  unfold readHead at h
  split at h
  · cases h
  · rename_i ready hs
    split at h
    · cases h
    · cases h
    · rename_i head wire₁ hu
      split at h <;> cases h
      rename_i hunderstood
      refine ⟨head, ⟨ready, hs, hu⟩, ?_⟩
      unfold understand at hunderstood
      split at hunderstood
      · cases hunderstood
      · rename_i found hr
        split at hunderstood
        · cases hunderstood
        · cases hunderstood
          exact hr
        · split at hunderstood <;> cases hunderstood
          exact hr

/-- Which bodies are read: those of chunks, and those of a length that is not too long. The others are
refused, or there is none. -/
theorem understand_cases (hr : Http.Head.read head = .ok request) :
    (∃ framing, understand limits head = .ok (request, framing) ∧ framing ≠ .sized 0 ∧
        Framing.ofHeaders request.headers = .ok framing ∧
        (AwaitsLeave limits request ↔ request.ExpectsLeave)) ∨
      ¬ AwaitsLeave limits request ∧ (understand limits head = .ok (request, .sized 0) ∨
        ∃ why, understand limits head = .error why) := by
  simp only [understand, hr]
  cases hf : Framing.ofHeaders request.headers with
  | error why =>
    refine .inr ⟨fun ha => ?_, .inr ⟨why, rfl⟩⟩
    rcases ha.framed with he | ⟨length, he, -⟩ <;> cases hf.symm.trans he
  | ok framing =>
    cases framing with
    | chunked => exact .inl ⟨.chunked, rfl, nofun, rfl, fun ha => ha.expects, fun he => ⟨he, .inl hf⟩⟩
    | sized length =>
      have hlength : AwaitsLeave limits request → 0 < length ∧ length ≤ limits.body := by
        intro ha
        rcases ha.framed with he | ⟨n, he, hn⟩ <;> cases hf.symm.trans he
        exact hn
      dsimp only
      by_cases hlong : 0 < length ∧ limits.body < length
      · rw [if_pos hlong]
        refine .inr ⟨fun ha => ?_, .inr ⟨_, rfl⟩⟩
        exact absurd (hlength ha).2 (Int.not_le.mpr hlong.2)
      · rw [if_neg hlong]
        rcases Nat.eq_zero_or_pos length with rfl | hpos
        · exact .inr ⟨fun ha => absurd (hlength ha).1 (Nat.lt_irrefl 0), .inl rfl⟩
        · refine .inl ⟨.sized length, rfl, fun he => ?_, rfl, fun ha => ha.expects, fun he => ⟨he, .inr ?_⟩⟩
          · cases he
            exact Nat.lt_irrefl 0 hpos
          · exact ⟨length, hf, hpos, Int.not_lt.mp fun hlt => hlong ⟨hpos, hlt⟩⟩

section

variable {framing : Framing} {ready final : Wire}

theorem readRequest_of_unsent {stop : Stop} (h : readHead limits wire = (.ok (request, framing), taken))
    (hn : framing ≠ .sized 0) (hl : giveLeave request taken = (.error stop, ready)) :
    readRequest limits wire = (.error stop, ready) := by
  simp only [readRequest, h, if_neg hn, hl]

theorem readRequest_of_body {body : Except Stop Bytes}
    (h : readHead limits wire = (.ok (request, framing), taken)) (hn : framing ≠ .sized 0)
    (hl : giveLeave request taken = (.ok (), ready)) (hb : readBody limits framing ready = (body, final)) :
    readRequest limits wire = (body.map fun body => { request with body }, final) := by
  cases body <;> simp only [readRequest, h, if_neg hn, hl, hb] <;> rfl

/-- A client that waits for leave to send its body is given it before the body is read. -/
theorem givesLeave (hr : Http.Head.read head = .ok request) (he : request.ExpectsLeave)
    (h : readHead limits wire = (.ok (request, framing), taken)) (hn : framing ≠ .sized 0)
    (hf : Framing.ofHeaders request.headers = .ok framing) :
    GivesLeave limits request taken (readRequest limits wire).1 (readRequest limits wire).2 := by
  have hexpects : Http.expectsLeave request = true := (Http.expectsLeave_iff hr).mpr he
  rcases send_eq taken leave with hs | ⟨-, what, hs⟩
  · have hl : giveLeave request taken = (.ok (), taken.note (.sent leave)) := by
      simp only [giveLeave, hexpects, if_true, hs]
    cases hb : readBody limits framing (taken.note (.sent leave)) with
    | mk body final =>
      rw [readRequest_of_body h hn hl hb]
      exact .given hs hf hb ((onward_readBody hb).silent (silent_traces _))
  · have hl : giveLeave request taken = (.error (.lost (.broken what)), taken) := by
      simp only [giveLeave, hexpects, if_true, hs]
    rw [readRequest_of_unsent h hn hl]
    exact .unsent hs

/-- Where no client waits for leave, the body is read in silence. -/
theorem silent_of_body (hr : Http.Head.read head = .ok request) (he : ¬ request.ExpectsLeave)
    (h : readHead limits wire = (.ok (request, framing), taken)) (hn : framing ≠ .sized 0) :
    Silent taken (readRequest limits wire).2 := by
  have hl : giveLeave request taken = (.ok (), taken) := by
    rw [giveLeave, if_neg fun hexpects => he ((Http.expectsLeave_iff hr).mp hexpects)]
  cases hb : readBody limits framing taken with
  | mk body final =>
    rw [readRequest_of_body h hn hl hb]
    exact (onward_readBody hb).silent (silent_traces _)

end

/-- To read a request is to give leave where a client waits for it, and nowhere else. -/
theorem interim_readRequest (limits : Limits) (wire : Wire) :
    Interim limits wire (readRequest limits wire).1 (readRequest limits wire).2 := by
  refine ⟨fun hno => ?_, fun {head taken request} ht hr => ⟨ht.silent, ?_⟩⟩
  · cases hh : readHead limits wire with
    | mk result next =>
      cases result with
      | error stop =>
        have hread : readRequest limits wire = (.error stop, next) := by simp only [readRequest, hh]
        rw [hread]
        exact (onward_readHead hh).silent (silent_traces _)
      | ok understood =>
        obtain ⟨head, ht, hr⟩ := takesHead_of_readHead hh
        exact absurd hr (hno head next _ ht)
  · rcases understand_cases hr with ⟨framing, hu, hn, hf, ha⟩ | ⟨hna, hu⟩
    · have hh := ht.readHead_ok hu
      exact ⟨fun h => givesLeave hr (ha.mp h) hh hn hf, fun h => silent_of_body hr (h ∘ ha.mpr) hh hn⟩
    · have hsame : (readRequest limits wire).2 = taken := by
        rcases hu with hu | ⟨why, hu⟩
        · simp only [readRequest, ht.readHead_ok hu, if_true]
        · simp only [readRequest, ht.readHead_error hu]
      rw [hsame]
      exact ⟨fun h => absurd h hna, fun _ => .refl taken⟩

def hasty : Wire where
  inbox := [
    { what := .data (Bytes.ofString ("POST / HTTP/1.1\r\nHost: a\r\nExpect: 100-Continue\r\n" ++
        "Content-Length: 5\r\n\r\nhe")) },
    { due := 7, what := .data (Bytes.ofString "llo") }]

/-- Leave is given although some bytes of the body are there, and before the others are received. -/
theorem interim_readRequest_hasty :
    ∃ head taken request, TakesHead {} hasty head taken ∧ Http.Head.read head = .ok request ∧
      AwaitsLeave {} request ∧
      GivesLeave {} request taken (readRequest {} hasty).1 (readRequest {} hasty).2 ∧
      (readRequest {} hasty).2.dialogue = [.sent leave] ∧
      (readRequest {} hasty).2.history.map Prod.fst = [7, 0, 0] := by
  let post : Request := {
    method := "POST"
    path := "/"
    version := "HTTP/1.1"
    headers := .ofPairs [("host", "a"), ("expect", "100-Continue"), ("content-length", "5")] }
  have hh : (readHead {} hasty).1.toOption = some (post, .sized 5) := by decide +kernel
  cases he : readHead {} hasty with
  | mk result taken =>
    rw [he] at hh
    cases result with
    | error stop => cases hh
    | ok understood =>
      cases hh
      obtain ⟨head, ht, hr⟩ := takesHead_of_readHead he
      have hf : Framing.ofHeaders post.headers = .ok (.sized 5) := by
        have hsized : (Framing.ofHeaders post.headers).toOption = some (.sized 5) := by decide +kernel
        cases hf : Framing.ofHeaders post.headers with
        | error why =>
          rw [hf] at hsized
          cases hsized
        | ok framing =>
          rw [hf] at hsized
          exact congrArg Except.ok (Option.some.inj hsized)
      have ha : AwaitsLeave {} post := {
        expects := ⟨by decide, "100-Continue", by decide, by decide⟩
        framed := .inr ⟨5, hf, by decide, by decide⟩ }
      exact ⟨head, taken, post, ht, hr, ha, ((interim_readRequest {} hasty).read ht hr).2.1 ha,
        by decide +kernel, by decide +kernel⟩

end Wire

end FixedReply
