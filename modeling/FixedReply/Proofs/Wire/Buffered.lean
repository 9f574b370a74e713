import FixedReply.Proofs.Wire.Reading

namespace FixedReply.Wire

variable {σ α : Type} {scan : σ → Bytes → Scan σ α} {state later : σ} {a : α} {wire next : Wire}
  {rest kept : Bytes} {inbox : List Event}

def AtEnd (inbox : List Event) : Prop :=
  ∃ what, inbox = [{ what }] ∧ (what = .data [] ∨ what = .failure (.one .endOfStream))

theorem fill_atEnd (h : AtEnd wire.inbox) : ∃ next, wire.fill = (.ok false, next) := by
  obtain ⟨what, hi, hw⟩ := h
  have hd : wire.meetsDeadline ({ what } : Event).due = none := by
    simp [meetsDeadline]
  unfold fill
  rw [hi]
  simp only [hd]
  rcases hw with rfl | rfl <;> exact ⟨_, rfl⟩

theorem await_found (h : scan state wire.buffer = .found a rest) :
    await scan state wire = (.ok a, wire.keep rest) := by
  rw [await]
  split
  · rename_i hf
    rw [h] at hf
    cases hf
    rfl
  · rename_i hw
    rw [h] at hw
    cases hw

theorem await_more (h : scan state wire.buffer = .wanting later kept)
    (hf : (wire.keep kept).fill = (.ok true, next)) :
    await scan state wire = await scan later next := by
  rw [await]
  split
  · rename_i hs
    rw [h] at hs
    cases hs
  · rename_i hs
    rw [h] at hs
    cases hs
    split <;> rename_i he <;> rw [hf] at he <;> cases he
    rfl

theorem await_atEnd (h : scan state wire.buffer = .wanting later kept) (hi : AtEnd wire.inbox) :
    ∃ next, await scan state wire = (.error .cutShort, next) := by
  have hk : AtEnd (wire.keep kept).inbox := hi
  obtain ⟨next, hf⟩ := fill_atEnd hk
  refine ⟨next, ?_⟩
  rw [await]
  split
  · rename_i hs
    rw [h] at hs
    cases hs
  · rename_i hs
    rw [h] at hs
    cases hs
    split <;> rename_i he <;> rw [hf] at he <;> cases he
    rfl

theorem comes_buffered (scan : σ → Bytes → Scan σ α) (state : σ) (wire : Wire) :
    Comes (fun w bytes => w.buffer = bytes ∧ w.inbox = wire.inbox) False (¬ AtEnd wire.inbox)
      (scan state wire.buffer) (await scan state wire) := by
  cases hs : scan state wire.buffer with
  | found a rest =>
    rw [await_found hs]
    exact .found ⟨rfl, rfl⟩
  | wanting later kept =>
    by_cases hi : AtEnd wire.inbox
    · obtain ⟨next, he⟩ := await_atEnd hs hi
      rw [he]
      exact .lost (by simp)
    · exact .lacking hi

def buffered (inbox : List Event) : Supply where
  Has wire bytes := wire.buffer = bytes ∧ wire.inbox = inbox
  expires := False
  lacks := ¬ AtEnd inbox
  strays := False
  note h _ := h
  gather h _ := h
  timed h _ _ _ := h
  fill := by
    intro wire bytes he hb
    obtain ⟨rfl, rfl⟩ := he
    by_cases hi : AtEnd wire.inbox
    · obtain ⟨next, hf⟩ := fill_atEnd hi
      rw [hf]
      exact .inr (.ended hb)
    · exact .inl ⟨hi, hb⟩
  skip := by
    intro wire bytes he
    obtain ⟨rfl, rfl⟩ := he
    exact comes_buffered scanBlankLines () wire
  block := by
    intro wire bytes he n
    obtain ⟨rfl, rfl⟩ := he
    exact comes_buffered (scanExactly n) () wire
  line := by
    intro wire bytes marker he hm limit
    obtain ⟨rfl, rfl⟩ := he
    exact .inl (comes_buffered (scanUpTo marker limit) 0 wire)

/-- Where nothing is buffered yet, a request is read from what is received first. -/
theorem readRequest_more {limits : Limits} (hb : wire.buffer = [])
    (hf : wire.fill = (.ok true, next)) : readRequest limits wire = readRequest limits next := by
  have hk : wire.keep [] = wire := by
    rw [keep, ← hb]
  have hs : scanBlankLines () wire.buffer = .wanting () [] := by
    rw [hb]
    rfl
  have hskip : skipBlankLines wire = skipBlankLines next :=
    await_more hs (by rw [hk]; exact hf)
  rw [readRequest, readRequest, readHead, readHead, hskip]

end FixedReply.Wire
