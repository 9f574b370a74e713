import FixedReply.Proofs.Wire.Receptions

namespace FixedReply.Wire

variable {σ α : Type} {wire current next final received : Wire} {events : List Event}
  {piece marker kept : Bytes} {pieces got later : List Bytes} {limit : Int} {offset i : Nat}

inductive Looks (scan : σ → Bytes → Scan σ α) : σ → Wire → σ → Wire → Prop
  | here (state : σ) (wire : Wire) : Looks scan state wire state wire
  | on {state later last : σ} {wire received final : Wire} {kept : Bytes}
      (wanting : scan state wire.buffer = .wanting later kept)
      (more : (wire.keep kept).fill = (.ok true, received))
      (onward : Looks scan later received last final) : Looks scan state wire last final

inductive LastLook (scan : σ → Bytes → Scan σ α) (state : σ) (wire : Wire) :
    Except Loss α × Wire → Prop
  | found {a : α} {rest : Bytes} (h : scan state wire.buffer = .found a rest) :
      LastLook scan state wire (.ok a, wire.keep rest)
  | ended {later : σ} {kept : Bytes} {result : Except Loss Bool} {next : Wire}
      (wanting : scan state wire.buffer = .wanting later kept)
      (fill : (wire.keep kept).fill = (result, next)) (hn : result ≠ .ok true) :
      LastLook scan state wire (.error (lossOf result), next)

/-- What a reader comes to, it comes to with its last look. -/
theorem await_looks (scan : σ → Bytes → Scan σ α) (state : σ) (wire : Wire) :
    ∃ last final, Looks scan state wire last final ∧
      LastLook scan last final (await scan state wire) := by
  fun_induction await scan state wire with
  | case1 state wire a rest hf => exact ⟨state, wire, .here state wire, .found hf⟩
  | case2 state wire later kept hw received hf ih =>
    obtain ⟨last, final, hlooks, hlast⟩ := ih
    exact ⟨last, final, .on hw hf hlooks, hlast⟩
  | case3 state wire later kept hw next hf =>
    exact ⟨state, wire, .here state wire, .ended hw hf (by simp)⟩
  | case4 state wire later kept hw loss next hf =>
    exact ⟨state, wire, .here state wire, .ended hw hf (by simp)⟩

/-- Events bring these pieces to a wire one after the other, none of them too late for its deadline, and then the
stream ends. -/
inductive Streams (wire : Wire) : List Event → List Bytes → Prop
  | silence (hd : wire.deadline = none) : Streams wire [] []
  | ended {due : Time} {what : Arrival} {later : List Event} (hd : wire.meetsDeadline due = none)
      (h : what.Ends .cutShort) : Streams wire ({ due, what } :: later) []
  | piece {due : Time} {b : UInt8} {bytes : Bytes} {later : List Event} {pieces : List Bytes}
      (hd : wire.meetsDeadline due = none) (h : Streams wire later pieces) :
      Streams wire ({ due, what := .data (b :: bytes) } :: later) ((b :: bytes) :: pieces)

theorem Streams.upcoming (h : Streams wire events pieces) : upcoming events = pieces.flatten := by
  induction h with
  | silence => rfl
  | ended _ h => cases h <;> rfl
  | piece _ _ ih =>
    rw [Wire.upcoming, ih]
    rfl

/-- What is in time for a deadline stays so while it is waited for. -/
theorem meetsDeadline_later {moment : Time} (h : wire.meetsDeadline moment = none)
    (hc : wire.clock ≤ next.clock) (hd : next.deadline = wire.deadline) :
    next.meetsDeadline moment = none := by
  unfold meetsDeadline at h ⊢
  by_cases hlt : next.clock < moment
  · rw [if_pos (Nat.lt_of_le_of_lt hc hlt)] at h
    rw [if_pos hlt, hd, h]
  · rw [if_neg hlt]

theorem Streams.mono (h : Streams wire events pieces) (hc : wire.clock ≤ next.clock)
    (hd : next.deadline = wire.deadline) : Streams next events pieces := by
  induction h with
  | silence hnone => exact .silence (hd.trans hnone)
  | ended hdue h => exact .ended (meetsDeadline_later hdue hc hd) h
  | piece hdue _ ih => exact .piece (meetsDeadline_later hdue hc hd) ih

theorem Streams.keep (h : Streams wire events pieces) (kept : Bytes) :
    Streams (wire.keep kept) events pieces := h.mono (Nat.le_refl _) rfl

/-- The next piece is received. -/
theorem fill_piece (h : Streams wire wire.inbox (piece :: pieces)) :
    ∃ next, wire.fill = (.ok true, next) ∧ next.buffer = wire.buffer ++ piece ∧
      Streams next next.inbox pieces := by
  generalize hi : wire.inbox = events at h
  cases h with
  | piece hd h =>
    have hf := fill_receive hi hd
    obtain ⟨got, hgot⟩ := fetched_fill hf
    exact ⟨_, hf, by simp [accept], h.mono hgot.clock hgot.deadline⟩

/-- After the last piece the stream has ended. -/
theorem fill_over (h : Streams wire wire.inbox []) : wire.fill.1 = .ok false := by
  generalize hi : wire.inbox = events at h
  cases h with
  | silence hd =>
    unfold fill
    simp only [hi, hd]
  | ended hd h =>
    rw [fill_receive hi hd]
    cases h <;> rfl

/-- How far a search has come: these pieces are received, and the marker was not complete before the last of
them. -/
structure Searched (marker : Bytes) (wire : Wire) (got later : List Bytes) (offset : Nat)
    (current : Wire) : Prop where
  buffer : current.buffer = wire.buffer ++ got.flatten
  streams : Streams current current.inbox later
  sought : Sought marker (wire.buffer ++ (got ++ later).flatten) offset current.buffer later.flatten
  incomplete : ∀ front, front <+: got → front ≠ got → ¬ marker <:+: wire.buffer ++ front.flatten

theorem Searched.start (h : Streams wire wire.inbox pieces) :
    Searched marker wire [] pieces 0 wire where
  buffer := by rw [List.flatten_nil, List.append_nil]
  streams := h
  sought := ⟨rfl, Nat.zero_le _, fun j hj => absurd hj (Nat.not_lt_zero j)⟩
  incomplete := fun front hf hn => absurd (List.prefix_nil.mp hf) hn

/-- What is neither found from the offset on nor stands before it does not stand in the buffer. -/
theorem Sought.not_infix {bytes buffer more : Bytes} (h : Sought marker bytes offset buffer more)
    (hm : marker ≠ []) (hnone : buffer.find? marker offset = none) : ¬ marker <:+: buffer := by
  intro hi
  obtain ⟨rfl, -, hbefore⟩ := h
  obtain ⟨j, hj⟩ := Bytes.exists_occurs_of_infix hi
  by_cases hlt : j < offset
  · exact hbefore j hlt (Bytes.prefix_drop_append hj (Bytes.le_of_occurs hm hj))
  · exact Bytes.find?_none hm hnone (Nat.le_of_not_lt hlt) hj

/-- A search that wants more goes on with the next piece. -/
theorem Searched.more (hm : marker ≠ []) (h : Searched marker wire got later offset current)
    {offset' : Nat} (hw : scanUpTo marker limit offset current.buffer = .wanting offset' kept)
    (hf : (current.keep kept).fill = (.ok true, received)) :
    ∃ piece rest, later = piece :: rest ∧ Searched marker wire (got ++ [piece]) rest offset' received := by
  obtain ⟨hnone, -, rfl⟩ := scanUpTo_wanting hw
  have hstreams := h.streams.keep current.buffer
  have hsought := h.sought
  cases later with
  | nil =>
    have hover := fill_over hstreams
    rw [hf] at hover
    cases hover
  | cons piece rest =>
    obtain ⟨next, hfill, hb, hnext⟩ := fill_piece hstreams
    obtain rfl : received = next := congrArg Prod.snd (hf.symm.trans hfill)
    have hb' : received.buffer = current.buffer ++ piece := hb
    refine ⟨piece, rest, rfl, ?_, hnext, ?_, ?_⟩
    · rw [hb', h.buffer]
      simp
    · have hgo := ((steady_scanUpTo hm limit _).wanting hsought hw).2
      rw [hb']
      simpa using hgo
    · intro front hfront hne
      rcases List.prefix_concat_iff.mp hfront with he | hbefore
      · exact absurd he hne
      · by_cases he : front = got
        · rw [he, ← h.buffer]
          exact hsought.not_infix hm hnone
        · exact h.incomplete front hbefore he

/-- As far as it looks, a search keeps to what it has received. -/
theorem Looks.searched (hm : marker ≠ []) {last : Nat}
    (hl : Looks (scanUpTo marker limit) offset current last final)
    (h : Searched marker wire got later offset current) :
    ∃ got' later', got ++ later = got' ++ later' ∧ Searched marker wire got' later' last final := by
  induction hl generalizing got later with
  | here => exact ⟨got, later, rfl, h⟩
  | on hw hf _ ih =>
    obtain ⟨piece, rest, rfl, hnext⟩ := h.more hm hw hf
    obtain ⟨got', later', he, hfinal⟩ := ih hnext
    exact ⟨got', later', by rw [← he]; simp, hfinal⟩

/-- A search ends with pieces in hand, and does so for lack of more only after the last of them. -/
theorem upTo_searched (hm : marker ≠ []) (hs : Streams wire wire.inbox pieces) (limit : Int) :
    ∃ got later offset final, pieces = got ++ later ∧ Searched marker wire got later offset final ∧
      ((∃ line rest, wire.upTo marker limit = (.ok line, final.keep rest)) ∨
        later = [] ∧ (wire.upTo marker limit).1 = .error .cutShort) := by
  obtain ⟨offset, final, hlooks, hlast⟩ := await_looks (scanUpTo marker limit) 0 wire
  obtain ⟨got, later, he, hfinal⟩ := hlooks.searched hm (.start hs)
  refine ⟨got, later, offset, final, he, hfinal, ?_⟩
  generalize hr : await (scanUpTo marker limit) 0 wire = result at hlast
  have hupTo : wire.upTo marker limit = result := hr
  rw [hupTo]
  cases hlast with
  | @found line rest _ => exact .inl ⟨line, rest, rfl⟩
  | @ended offset' kept result next hw hf hn =>
    right
    have hstreams := hfinal.streams.keep kept
    cases later with
    | nil =>
      have hover := fill_over hstreams
      rw [hf] at hover
      obtain rfl : result = .ok false := hover
      exact ⟨rfl, rfl⟩
    | cons piece later =>
      obtain ⟨_, hfill, -⟩ := fill_piece hstreams
      exact absurd (congrArg Prod.fst (hf.symm.trans hfill)) hn

/-- Where the marker occurs, it is either within the limit or too far. -/
theorem scanUpTo_first {bytes : Bytes} (hm : marker ≠ []) (h : Bytes.IsFirst marker bytes 0 i) :
    scanUpTo marker limit 0 bytes =
      if limit < i then .found none bytes
      else .found (some (bytes.take i)) (bytes.drop (i + marker.length)) := by
  unfold scanUpTo
  rw [(Bytes.find?_eq_some_iff hm).mpr h]

/-- Where the marker does not occur, the bytes are too many, or there may be more of them. -/
theorem scanUpTo_absent {bytes : Bytes} (hm : marker ≠ []) (h : ¬ marker <:+: bytes) :
    scanUpTo marker limit 0 bytes =
      if limit < bytes.length then .found none bytes
      else .wanting (bytes.length + 1 - marker.length) bytes := by
  unfold scanUpTo
  rw [(Bytes.find?_eq_none_iff hm).mpr fun j _ hj => h (Bytes.infix_of_occurs hj)]

/-- The search in pieces is a search of the whole: it finds what is to be found there, and receives no piece after
the one that completes the marker; it tells in the same cases that the marker is too far away or not there; and no
look starts behind a place where the marker occurs. -/
structure SearchesWhole (marker : Bytes) (limit : Int) (wire : Wire) (pieces : List Bytes)
    (whole : Bytes) : Prop where
  found : ∀ i : Nat, Bytes.IsFirst marker whole 0 i → (i : Int) + marker.length - 1 ≤ limit →
    ∃ next got later, wire.upTo marker limit = (.ok (some (whole.take i)), next) ∧
      next.buffer ++ later.flatten = whole.drop (i + marker.length) ∧
      pieces = got ++ later ∧ Streams next next.inbox later ∧
      ∀ front, front <+: got → front ≠ got → ¬ marker <:+: wire.buffer ++ front.flatten
  tooFar : ∀ i : Nat, Bytes.IsFirst marker whole 0 i → limit < i →
    (wire.upTo marker limit).1 = .ok none
  tooMany : ¬ marker <:+: whole → limit < whole.length → (wire.upTo marker limit).1 = .ok none
  cutShort : ¬ marker <:+: whole → whole.length ≤ limit →
    (wire.upTo marker limit).1 = .error .cutShort
  resumed : ∀ offset current, Looks (scanUpTo marker limit) 0 wire offset current →
    ∀ i, marker <+: whole.drop i → offset ≤ i

/-- What a search comes to is what a look at the whole comes to, unless the marker straddles the limit. -/
theorem upTo_whole (hm : marker ≠ []) (hs : Streams wire wire.inbox pieces) (limit : Int) :
    Awaited (scanUpTo marker limit 0 (wire.buffer ++ pieces.flatten)) (wire.upTo marker limit) ∨
      Straddles marker limit (wire.buffer ++ pieces.flatten) ∧
        (wire.upTo marker limit).1 = .ok none := by
  rw [← hs.upcoming]
  refine (upTo_ahead hm limit wire).resolve_left ?_
  obtain ⟨_, _, _, _, _, _, ⟨line, rest, he⟩ | ⟨_, he⟩⟩ := upTo_searched hm hs limit
  all_goals
    rw [he]
    simp

/-- What is found in the whole is found, and the rest of the whole is left. -/
theorem Awaited.of_found {a : α} {rest : Bytes} {result : Except Loss α × Wire}
    (h : Awaited (.found a rest : Scan σ α) result) : ∃ next, result = (.ok a, next) ∧ next.ahead = rest := by
  cases h with
  | found h => exact ⟨_, rfl, h⟩

/-- Where the marker is too far away in the whole, or missing in too many bytes, the search is given up. -/
theorem upTo_gives_up {rest : Bytes} (hm : marker ≠ []) (hs : Streams wire wire.inbox pieces)
    (h : scanUpTo marker limit 0 (wire.buffer ++ pieces.flatten) = .found none rest) :
    (wire.upTo marker limit).1 = .ok none := by
  rcases upTo_whole hm hs limit with hwhole | ⟨-, hnone⟩
  · rw [h] at hwhole
    obtain ⟨next, hupTo, -⟩ := hwhole.of_found
    rw [hupTo]
  · exact hnone

/-- However a marker is cut, a search for it in pieces is a search of the whole. -/
theorem upTo_searches_whole (hm : marker ≠ []) (hs : Streams wire wire.inbox pieces) (limit : Int) :
    SearchesWhole marker limit wire pieces (wire.buffer ++ pieces.flatten) := by
  have hwhole := upTo_whole hm hs limit
  obtain ⟨got, later, offset, final, he, hfinal, hend⟩ := upTo_searched hm hs limit
  constructor
  case found =>
    intro i hi hl
    rw [scanUpTo_first hm hi, if_neg (by have := List.length_pos_iff.mpr hm; omega)] at hwhole
    rcases hwhole with hwhole | ⟨⟨j, hj, -, hlong⟩, -⟩
    · obtain ⟨next, hupTo, hnext⟩ := hwhole.of_found
      rw [hupTo] at hend ⊢
      rcases hend with ⟨line, rest, hline⟩ | ⟨-, hlost⟩
      · obtain rfl : next = final.keep rest := congrArg Prod.snd hline
        have hstreams : Streams (final.keep rest) (final.keep rest).inbox later :=
          hfinal.streams.keep rest
        refine ⟨_, got, later, rfl, ?_, he, hstreams, hfinal.incomplete⟩
        rw [← hnext, ahead, hstreams.upcoming]
      · cases hlost
    · obtain rfl := hj.unique hi
      omega
  case tooFar =>
    intro i hi hl
    have hscan : scanUpTo marker limit 0 (wire.buffer ++ pieces.flatten) = _ := scanUpTo_first hm hi
    rw [if_pos hl] at hscan
    exact upTo_gives_up hm hs hscan
  case tooMany =>
    intro habsent hl
    have hscan : scanUpTo marker limit 0 (wire.buffer ++ pieces.flatten) = _ :=
      scanUpTo_absent hm habsent
    rw [if_pos hl] at hscan
    exact upTo_gives_up hm hs hscan
  case cutShort =>
    intro habsent hl
    rw [scanUpTo_absent hm habsent, if_neg (by omega)] at hwhole
    rcases hwhole with hwhole | ⟨⟨i, hi, -⟩, -⟩
    · rcases hend with ⟨line, rest, hline⟩ | ⟨-, hlost⟩
      · rw [hline] at hwhole
        cases hwhole
      · exact hlost
    · exact absurd (Bytes.infix_of_occurs hi.occurs) habsent
  case resumed =>
    intro offset current hlooks i hi
    obtain ⟨got, later, he, hcurrent⟩ := hlooks.searched hm (.start hs)
    apply Nat.le_of_not_lt
    intro hlt
    refine hcurrent.sought.2.2 i hlt ?_
    rwa [← he, List.nil_append]

/-- A marker that could begin anew in its middle, behind a beginning that comes to nothing, and cut by two
receptions. -/
theorem upTo_searches_whole_overlapping :
    let marker : Bytes := [1, 2, 1, 2]
    let pieces : List Bytes := [[1, 1, 2], [1, 2, 7], [8]]
    let wire : Wire := {
      deadline := some 40
      buffer := [9, 1, 2]
      inbox := [{ due := 3, what := .data [1, 1, 2] }, { due := 5, what := .data [1, 2, 7] },
        { due := 6, what := .data [8] }, { due := 9, what := .failure (.one .endOfStream) }] }
    marker ≠ [] ∧ Streams wire wire.inbox pieces ∧
      SearchesWhole marker 7 wire pieces (wire.buffer ++ pieces.flatten) ∧
      ∃ next, wire.upTo marker 7 = (.ok (some [9, 1, 2, 1]), next) ∧ next.buffer = [7] ∧
        next.inbox = wire.inbox.drop 2 := by
  intro marker pieces wire
  have hm : marker ≠ [] := by simp [marker]
  have hs : Streams wire wire.inbox pieces := .piece rfl (.piece rfl (.piece rfl (.ended rfl .ended)))
  refine ⟨hm, hs, upTo_searches_whole hm hs 7, ?_⟩
  let second := (wire.keep wire.buffer).fill.2
  let third := (second.keep second.buffer).fill.2
  have hwire : scanUpTo marker 7 0 wire.buffer = .wanting 0 wire.buffer := rfl
  have hsecond : scanUpTo marker 7 0 second.buffer = .wanting 3 second.buffer := rfl
  have hthird : scanUpTo marker 7 3 third.buffer = .found (some [9, 1, 2, 1]) [7] := rfl
  have hupTo : wire.upTo marker 7 = (.ok (some [9, 1, 2, 1]), third.keep [7]) :=
    (await_more hwire rfl).trans ((await_more hsecond rfl).trans (await_found hthird))
  exact ⟨_, hupTo, rfl, rfl⟩

end FixedReply.Wire
