import FixedReply.Wire.Basic

namespace FixedReply.Wire

/-- What a look at the buffered bytes comes to: something found, with the bytes after it, or a wish
for more, with the bytes to keep. -/
inductive Scan (σ α : Type)
  | found (a : α) (rest : Bytes)
  | wanting (state : σ) (kept : Bytes)

def await {σ α : Type} (scan : σ → Bytes → Scan σ α) (state : σ) (wire : Wire) :
    Except Loss α × Wire :=
  match scan state wire.buffer with
  | .found a rest => (.ok a, wire.keep rest)
  | .wanting state kept =>
    match _received : (wire.keep kept).fill with
    | (.ok true, wire) => await scan state wire
    | (.ok false, wire) => (.error .cutShort, wire)
    | (.error loss, wire) => (.error loss, wire)
termination_by wire.inbox.length
decreasing_by
  have h := inbox_fill _received
  exact h

/-- Looks for a marker from an offset on. A marker that starts past the limit is as bad as none in
more bytes than the limit allows: nothing is taken then. The next look starts where a marker that
began in these bytes would start at the earliest. -/
def scanUpTo (marker : Bytes) (limit : Int) (offset : Nat) (buffer : Bytes) :
    Scan Nat (Option Bytes) :=
  match buffer.find? marker offset with
  | some i =>
    if limit < i then .found none buffer
    else .found (some (buffer.take i)) (buffer.drop (i + marker.length))
  | none =>
    if limit < buffer.length then .found none buffer
    else .wanting (buffer.length + 1 - marker.length) buffer

def upTo (marker : Bytes) (limit : Int) (wire : Wire) : Except Loss (Option Bytes) × Wire :=
  await (scanUpTo marker limit) 0 wire

/-- Looks for `n` bytes. A negative number counts from the end of what is buffered and so never
needs more. -/
def scanExactly (n : Int) (_ : Unit) (buffer : Bytes) : Scan Unit Bytes :=
  match n with
  | .ofNat n =>
    match buffer.splitAt? n with
    | some (front, rest) => .found front rest
    | none => .wanting () buffer
  | .negSucc n =>
    let count := buffer.length - (n + 1)
    .found (buffer.take count) (buffer.drop count)

def exactly (n : Int) (wire : Wire) : Except Loss Bytes × Wire := await (scanExactly n) () wire

def dropBlankLines : Bytes → Bytes
  | 13 :: 10 :: rest => dropBlankLines rest
  | bytes => bytes

def scanBlankLines (_ : Unit) (buffer : Bytes) : Scan Unit Unit :=
  let rest := dropBlankLines buffer
  if rest.isEmpty || rest == [Bytes.cr] then .wanting () rest else .found () rest

def skipBlankLines (wire : Wire) : Except Loss Unit × Wire := await scanBlankLines () wire

def Scan.takes {σ α : Type} (weight : α → Nat) (buffer : Bytes) : Scan σ α → Prop
  | found a rest => weight a + rest.length ≤ buffer.length
  | wanting _ kept => kept.length ≤ buffer.length

theorem unread_await {σ α : Type} {scan : σ → Bytes → Scan σ α} {weight : α → Nat}
    (takes : ∀ state buffer, (scan state buffer).takes weight buffer) (state : σ) (wire : Wire) :
    (await scan state wire).2.unread ≤ wire.unread ∧
      ∀ a, (await scan state wire).1 = .ok a →
        weight a + (await scan state wire).2.unread ≤ wire.unread := by
  fun_induction await scan state wire with
  | case1 state wire a rest found =>
    have taken := takes state wire.buffer
    have kept := unread_keep wire rest
    grind [Scan.takes]
  | case2 state wire next kept wanting wire' received ih =>
    have taken := takes state wire.buffer
    have held := unread_keep wire kept
    have filled := unread_fill (wire.keep kept)
    grind [Scan.takes]
  | case3 state wire next kept wanting wire' received =>
    have taken := takes state wire.buffer
    have held := unread_keep wire kept
    have filled := unread_fill (wire.keep kept)
    grind [Scan.takes]
  | case4 state wire next kept wanting loss wire' received =>
    have taken := takes state wire.buffer
    have held := unread_keep wire kept
    have filled := unread_fill (wire.keep kept)
    grind [Scan.takes]

theorem takes_scanUpTo (marker : Bytes) (limit : Int) (offset : Nat) (buffer : Bytes) :
    (scanUpTo marker limit offset buffer).takes
      (fun line => (line.map fun line => line.length + marker.length).getD 0) buffer := by
  unfold scanUpTo
  split
  · next i found =>
    have := Bytes.le_of_find? found
    split
    · simp [Scan.takes]
    · simp only [Scan.takes, Option.map_some, Option.getD_some, List.length_take, List.length_drop]
      omega
  · split <;> simp [Scan.takes]

theorem takes_scanExactly (n : Int) (state : Unit) (buffer : Bytes) :
    (scanExactly n state buffer).takes List.length buffer := by
  cases n with
  | ofNat n =>
    simp only [scanExactly, Bytes.splitAt?_eq]
    by_cases h : n ≤ buffer.length
    · simp only [h, ↓reduceIte, Scan.takes, List.length_take, List.length_drop]
      omega
    · simp [h, Scan.takes]
  | negSucc n =>
    simp only [scanExactly, Scan.takes, List.length_take, List.length_drop]
    omega

theorem length_dropBlankLines (bytes : Bytes) : (dropBlankLines bytes).length ≤ bytes.length := by
  fun_induction dropBlankLines bytes with
  | case1 rest ih => simp only [List.length_cons]; omega
  | case2 => exact Nat.le_refl _

theorem takes_scanBlankLines (state : Unit) (buffer : Bytes) :
    (scanBlankLines state buffer).takes (fun _ => 0) buffer := by
  have := length_dropBlankLines buffer
  simp only [scanBlankLines]
  split <;> simpa [Scan.takes] using this

/-- The bytes that are taken up to a marker, and the marker, are unread no longer. -/
theorem unread_of_upTo {marker line : Bytes} {limit : Int} {wire next : Wire}
    (h : upTo marker limit wire = (.ok (some line), next)) :
    line.length + marker.length + next.unread ≤ wire.unread := by
  have takes := (unread_await (takes_scanUpTo marker limit) 0 wire).2 (some line)
  rw [← upTo, h] at takes
  exact takes rfl

theorem unread_upTo (marker : Bytes) (limit : Int) (wire : Wire) :
    (upTo marker limit wire).2.unread ≤ wire.unread :=
  (unread_await (takes_scanUpTo marker limit) 0 wire).1

theorem unread_exactly (n : Int) (wire : Wire) : (exactly n wire).2.unread ≤ wire.unread :=
  (unread_await (takes_scanExactly n) () wire).1

theorem unread_skipBlankLines (wire : Wire) : (skipBlankLines wire).2.unread ≤ wire.unread :=
  (unread_await takes_scanBlankLines () wire).1

end FixedReply.Wire
