import FixedReply.Config
import Mathlib

namespace FixedReply

abbrev Place := WithBot (WithTop ℚ)

namespace Place

def ofRat (q : ℚ) : Place := ((q : WithTop ℚ) : Place)

def ofInt (n : Int) : Place := ofRat n

theorem ofRat_strictMono : StrictMono ofRat := WithBot.coe_strictMono.comp WithTop.coe_strictMono

theorem ofInt_strictMono : StrictMono ofInt := ofRat_strictMono.comp Int.cast_strictMono

end Place

namespace Binary64

variable {x : Binary64} {n : Int}

def place? : Binary64 → Option Place
  | nan => none
  | infinite negative => some (if negative then ⊥ else ⊤)
  | finite negative significand power =>
    some (Place.ofRat ((if negative then -(significand : ℚ) else significand) * 2 ^ power))

/-- A scaled number is the ratio of a numerator and a positive denominator. -/
theorem scaled_eq (s : Nat) (e : Int) :
    0 < (scaled s 2 e).2 ∧ ((scaled s 2 e).1 : ℚ) = s * 2 ^ e * (scaled s 2 e).2 := by
  have htwo : (2 : ℚ) ≠ 0 := two_ne_zero
  unfold scaled
  by_cases he : 0 ≤ e
  · obtain ⟨k, rfl⟩ := Int.eq_ofNat_of_zero_le he
    simp
  · obtain ⟨k, rfl⟩ : ∃ k : Nat, e = -k := ⟨e.natAbs, by omega⟩
    rw [if_neg he]
    refine ⟨Nat.pow_pos Nat.two_pos, ?_⟩
    have hk : (2 : ℚ) ^ (-(k : Int)) * 2 ^ k = 1 := by
      rw [← zpow_natCast, ← zpow_add₀ htwo, neg_add_cancel, zpow_zero]
    have hden : ((Nat.pow 2 (-(-(k : Int))).toNat : Nat) : ℚ) = 2 ^ k := by simp
    rw [hden, mul_assoc, hk, mul_one]

/-- A number compares with a whole one as their places do. -/
theorem compareInt_eq (x : Binary64) (n : Int) :
    x.compareInt n = x.place?.map fun q => cmp q (Place.ofInt n) := by
  cases x with
  | nan => rfl
  | infinite negative =>
    cases negative with
    | true => exact congrArg some ((cmp_eq_lt_iff _ _).mpr (WithBot.bot_lt_coe _)).symm
    | false =>
      have hlt : Place.ofInt n < ⊤ := WithBot.coe_lt_coe.mpr (WithTop.coe_lt_top _)
      exact congrArg some ((cmp_eq_gt_iff _ _).mpr hlt).symm
  | finite negative s e =>
    obtain ⟨hpos, hs⟩ := scaled_eq s e
    have hden : (0 : ℚ) < (scaled s 2 e).2 := Nat.cast_pos.mpr hpos
    unfold compareInt place?
    rw [Option.map_some, Place.ofInt, Place.ofRat_strictMono.cmp_map_eq, ← cmp_mul_pos_right hden]
    dsimp only
    rw [← cmp_eq_compare, ← (Int.cast_strictMono (R := ℚ)).cmp_map_eq]
    cases negative <;> simp [hs]

end Binary64

namespace Value

variable {v : Value} {n : Int}

def IsNumeric : Value → Prop
  | bool _ => True
  | int _ => True
  | float _ => True
  | _ => False

def place? : Value → Option Place
  | bool b => some (Place.ofInt (if b then 1 else 0))
  | int n => some (Place.ofInt n)
  | float x => x.place?
  | _ => none

def IsNaN (v : Value) : Prop := v = float .nan

def Positive (v : Value) : Prop := ∃ q, v.place? = some q ∧ Place.ofInt 0 < q

def Between (low high : Int) (v : Value) : Prop :=
  ∃ q, v.place? = some q ∧ Place.ofInt low ≤ q ∧ q ≤ Place.ofInt high

def Truthy : Value → Prop
  | nothing => False
  | text s => s ≠ ""
  | emptyList => False
  | v => v.place? ≠ some (Place.ofInt 0)

theorem compare?_eq_none : v.compare? n = none ↔ ¬ v.IsNumeric := by
  cases v <;> simp [compare?, IsNumeric]

theorem compare?_eq (h : v.IsNumeric) (n : Int) :
    v.compare? n = some (v.place?.map fun q => cmp q (Place.ofInt n)) := by
  cases v with
  | bool b =>
    rw [place?, Option.map_some, Place.ofInt_strictMono.cmp_map_eq, cmp_eq_compare]
    rfl
  | int m =>
    rw [place?, Option.map_some, Place.ofInt_strictMono.cmp_map_eq, cmp_eq_compare]
    rfl
  | float x => exact congrArg some (x.compareInt_eq n)
  | _ => exact h.elim

theorem isComparable_iff : v.isComparable ↔ v.IsNumeric := by
  rw [isComparable, Option.isSome_iff_ne_none, Ne, compare?_eq_none, not_not]

theorem isNumeric_of_place {q : Place} (h : v.place? = some q) : v.IsNumeric := by
  cases v with
  | bool | int | float => trivial
  | _ => cases h

/-- A value that compares with numbers has a place among them, unless it is no number. -/
theorem place?_eq_none (h : v.IsNumeric) : v.place? = none ↔ v.IsNaN := by
  cases v with
  | float x => cases x <;> simp [place?, Binary64.place?, IsNaN]
  | bool | int => simp [place?, IsNaN]
  | _ => exact h.elim

theorem isAtMost_iff : v.isAtMost n ↔ ∃ q, v.place? = some q ∧ q ≤ Place.ofInt n := by
  by_cases hn : v.IsNumeric
  · rw [isAtMost, compare?_eq hn]
    cases v.place? with
    | none => simp
    | some q => simp [le_iff_lt_or_eq]
  · have hnone : v.place? = none := Option.eq_none_iff_forall_ne_some.mpr
      fun q hq => hn (isNumeric_of_place hq)
    simp [isAtMost, compare?_eq_none.mpr hn, hnone]

theorem isAtLeast_iff : v.isAtLeast n ↔ ∃ q, v.place? = some q ∧ Place.ofInt n ≤ q := by
  by_cases hn : v.IsNumeric
  · rw [isAtLeast, compare?_eq hn]
    cases v.place? with
    | none => simp
    | some q =>
      have hle : Place.ofInt n ≤ q ↔ Place.ofInt n < q ∨ q = Place.ofInt n := by
        rw [le_iff_lt_or_eq, eq_comm (a := q)]
      simp [hle]
  · have hnone : v.place? = none := Option.eq_none_iff_forall_ne_some.mpr
      fun q hq => hn (isNumeric_of_place hq)
    simp [isAtLeast, compare?_eq_none.mpr hn, hnone]

theorem isTruthy_iff : v.isTruthy ↔ v.Truthy := by
  have hzero : v.IsNumeric → ((v.compare? 0 != some (some .eq)) = true ↔
      v.place? ≠ some (Place.ofInt 0)) := by
    intro hn
    rw [compare?_eq hn]
    cases v.place? <;> simp
  cases v with
  | text s => simp [isTruthy, Truthy]
  | bool | int | float => exact hzero trivial
  | _ => simp [isTruthy, Truthy]

theorem isCount_iff : v.isCount ↔ ∃ n, v = int n ∧ 1 ≤ n := by
  cases v with
  | int n => simp [isCount, Int.add_one_le_iff.symm]
  | _ => simp [isCount]

def IsUnwritten (v : Value) : Prop := ∃ n, v = int n ∧ ¬ Text.IsWritten n

theorem literal?_eq_none : v.literal? = none ↔ v.IsUnwritten := by
  cases v with
  | int n => simp [literal?, Text.writeInt?, IsUnwritten]
  | bool b => cases b <;> simp [literal?, IsUnwritten]
  | _ => simp [literal?, IsUnwritten]

theorem toText?_eq_none : v.toText? = none ↔ v.IsUnwritten := by
  cases v with
  | text s => simp [toText?, IsUnwritten]
  | _ => simp [toText?, literal?_eq_none]

end Value

def ConfigFault.IsInvalid : ConfigFault → Prop
  | workerCount _ => True
  | emptyHost => True
  | port _ => True
  | timeout => True
  | sizeLimit => True
  | _ => False

namespace Config

variable {c : Config} {v : Value} {fault : ConfigFault} {given : List (String × Value)}

def bounds (c : Config) : List Value :=
  [c.readTimeout, c.idleTimeout, c.maxHeaderBytes, c.maxBodyBytes]

structure Valid (c : Config) : Prop where
  workers : ∃ n, c.workerCount = .int n ∧ 1 ≤ n
  host : c.host.Truthy
  port : c.port.Between 0 65535
  bounds : ∀ v ∈ c.bounds, v.Positive

/-- What is asked of a configuration, save that what must be positive may also be no number. -/
structure Passable (c : Config) : Prop where
  workers : ∃ n, c.workerCount = .int n ∧ 1 ≤ n
  host : c.host.Truthy
  port : c.port.Between 0 65535
  bounds : ∀ v ∈ c.bounds, v.Positive ∨ v.IsNaN

def WellTyped (c : Config) : Prop := ∀ v ∈ c.port :: c.bounds, v.IsNumeric

/-- A setting is refused that the refusal cannot quote: the worker count, or the port where nothing is
wrong with the settings before it. -/
inductive Unsaid (c : Config) : Prop
  | workers {n : Int} (hc : c.workerCount = .int n) (hn : n < 1) (hw : ¬ Text.IsWritten n)
  | port (hc : ∃ n, c.workerCount = .int n ∧ 1 ≤ n) (hh : c.host.Truthy) (hw : c.port.IsUnwritten)

theorem valid_iff : c.Valid ↔ c.Passable ∧ ∀ v ∈ c.bounds, ¬ v.IsNaN := by
  constructor
  · intro h
    refine ⟨⟨h.workers, h.host, h.port, fun v hv => .inl (h.bounds v hv)⟩, ?_⟩
    rintro v hv rfl
    obtain ⟨q, hq, -⟩ := h.bounds _ hv
    cases hq
  · rintro ⟨h, hn⟩
    exact ⟨h.workers, h.host, h.port, fun v hv => (h.bounds v hv).resolve_right (hn v hv)⟩

theorem checkPort_eq_ok : checkPort v = .ok () ↔ v.Between 0 65535 := by
  have hbetween : v.Between 0 65535 ↔ v.isAtLeast 0 ∧ v.isAtMost 65535 := by
    rw [Value.isAtLeast_iff, Value.isAtMost_iff]
    constructor
    · rintro ⟨q, hq, hl, hh⟩
      exact ⟨⟨q, hq, hl⟩, q, hq, hh⟩
    · rintro ⟨⟨q, hq, hl⟩, r, hr, hh⟩
      obtain rfl := Option.some.inj (hq.symm.trans hr)
      exact ⟨q, hq, hl, hh⟩
  have hcomparable : v.Between 0 65535 → v.isComparable := by
    rintro ⟨q, hq, -⟩
    exact Value.isComparable_iff.mpr (Value.isNumeric_of_place hq)
  unfold checkPort
  by_cases hc : v.isComparable
  · simp [hc, hbetween]
  · simp [hc, mt hcomparable hc]

theorem checkCount_eq_ok : checkCount v = .ok () ↔ ∃ n, v = .int n ∧ 1 ≤ n := by
  rw [← Value.isCount_iff]
  unfold checkCount
  split <;> simp [*]

theorem quoting_eq_unwritten {fault : String → ConfigFault} (hf : ∀ s, fault s ≠ .unwritten)
    {given : Option String} : ConfigFault.quoting fault given = .unwritten ↔ given = none := by
  cases given with
  | none => simp [ConfigFault.quoting]
  | some s => simp [ConfigFault.quoting, hf s]

theorem checkCount_eq_unwritten :
    checkCount v = .error .unwritten ↔ ∃ n, v = .int n ∧ n < 1 ∧ ¬ Text.IsWritten n := by
  unfold checkCount
  split
  · rename_i hc
    obtain ⟨n, rfl, hn⟩ := Value.isCount_iff.mp hc
    simp [Int.not_lt.mpr hn]
  · rename_i hc
    rw [Except.error.injEq, quoting_eq_unwritten (by simp), Value.literal?_eq_none]
    constructor
    · rintro ⟨n, rfl, hw⟩
      exact ⟨n, rfl, Int.not_le.mp fun hn => hc (Value.isCount_iff.mpr ⟨n, rfl, hn⟩), hw⟩
    · rintro ⟨n, rfl, -, hw⟩
      exact ⟨n, rfl, hw⟩

/-- A port of too many digits is out of range. -/
theorem checkPort_eq_unwritten : checkPort v = .error .unwritten ↔ v.IsUnwritten := by
  constructor
  · intro h
    unfold checkPort at h
    split at h
    · cases h
    · split at h
      · cases h
      · rw [Except.error.injEq, quoting_eq_unwritten (by simp)] at h
        exact Value.toText?_eq_none.mp h
  · rintro ⟨n, rfl, hw⟩
    have hrange : ¬ (Value.int n).Between 0 65535 := by
      rintro ⟨q, hq, hl, hh⟩
      cases hq
      have hlow := Place.ofInt_strictMono.le_iff_le.mp hl
      have hhigh := Place.ofInt_strictMono.le_iff_le.mp hh
      have hlimit : 65535 < Nat.pow 10 Text.digitLimit := by decide +kernel
      exact hw ⟨Nat.lt_of_le_of_lt (by omega : n.natAbs ≤ 65535) hlimit⟩
    have hcomparable : (Value.int n).isComparable := Value.isComparable_iff.mpr trivial
    have hout : ¬ ((Value.int n).isAtLeast 0 && (Value.int n).isAtMost 65535) := by
      intro hin
      exact hrange (checkPort_eq_ok.mp (by simp [checkPort, hcomparable, hin]))
    rw [checkPort, if_neg (by simp [hcomparable]), if_neg hout, Value.toText?_eq_none.mpr ⟨n, rfl, hw⟩]
    rfl

theorem checkPositive_ne_unwritten (hf : fault ≠ .unwritten) :
    checkPositive fault v ≠ .error .unwritten := by
  unfold checkPositive
  split
  · simp
  · split <;> simp [hf]

theorem checkPositive_eq_ok : checkPositive fault v = .ok () ↔ v.Positive ∨ v.IsNaN := by
  unfold checkPositive
  by_cases hn : v.IsNumeric
  · have hc := Value.isComparable_iff.mpr hn
    have hmost : v.Positive ∨ v.IsNaN ↔ ¬ v.isAtMost 0 := by
      rw [Value.isAtMost_iff, ← Value.place?_eq_none hn, Value.Positive]
      cases v.place? <;> simp
    rw [hmost]
    simp [hc]
  · have hc : ¬ v.isComparable := mt Value.isComparable_iff.mp hn
    have hneither : ¬ (v.Positive ∨ v.IsNaN) := by
      rintro (⟨q, hq, -⟩ | rfl)
      · exact hn (Value.isNumeric_of_place hq)
      · exact hn trivial
    simp [hc, hneither]

def steps (c : Config) : List (Except ConfigFault Unit) := [
  checkCount c.workerCount, if c.host.isTruthy then .ok () else .error .emptyHost, checkPort c.port,
  checkPositive .timeout c.readTimeout, checkPositive .timeout c.idleTimeout,
  checkPositive .sizeLimit c.maxHeaderBytes, checkPositive .sizeLimit c.maxBodyBytes]

def inTurn : List (Except ConfigFault Unit) → Except ConfigFault Unit
  | [] => .ok ()
  | .ok _ :: rest => inTurn rest
  | .error fault :: _ => .error fault

theorem inTurn_eq_ok {steps : List (Except ConfigFault Unit)} :
    inTurn steps = .ok () ↔ ∀ step ∈ steps, step = .ok () := by
  fun_induction inTurn steps <;> simp_all

theorem mem_of_inTurn {steps : List (Except ConfigFault Unit)} (h : inTurn steps = .error fault) :
    .error fault ∈ steps := by
  fun_induction inTurn steps <;> simp_all

theorem check_eq (c : Config) : c.check = inTurn c.steps := by
  unfold check steps
  cases checkCount c.workerCount <;> cases c.host.isTruthy <;> cases checkPort c.port <;>
    cases checkPositive .timeout c.readTimeout <;> cases checkPositive .timeout c.idleTimeout <;>
    cases checkPositive .sizeLimit c.maxHeaderBytes <;>
    cases checkPositive .sizeLimit c.maxBodyBytes <;> rfl

theorem check_eq_ok : c.check = .ok () ↔ c.Passable := by
  have hh : c.host.isTruthy ↔ c.host.Truthy := Value.isTruthy_iff
  rw [check_eq, inTurn_eq_ok]
  simp only [steps, List.forall_mem_cons, checkCount_eq_ok, checkPort_eq_ok, checkPositive_eq_ok]
  constructor
  · rintro ⟨hcount, hhost, hp, hr, hi, hm, hb, -⟩
    refine ⟨hcount, hh.mp (by_contra fun h => ?_), hp, ?_⟩
    · simp [h] at hhost
    · simp [bounds, hr, hi, hm, hb]
  · intro h
    have hb := h.bounds
    simp only [bounds, List.forall_mem_cons] at hb
    obtain ⟨hr, hi, hm, hb, -⟩ := hb
    rw [if_pos (hh.mpr h.host)]
    exact ⟨h.workers, rfl, h.port, hr, hi, hm, hb, by simp⟩

/-- It is the first setting that is refused whose refusal may lack its words. -/
theorem check_eq_unwritten : c.check = .error .unwritten ↔ c.Unsaid := by
  rw [check_eq, steps]
  constructor
  · intro h
    cases hc : checkCount c.workerCount with
    | error fault =>
      obtain rfl : fault = .unwritten := by simpa [inTurn, hc] using h
      obtain ⟨n, hn, hlt, hw⟩ := checkCount_eq_unwritten.mp hc
      exact .workers hn hlt hw
    | ok =>
      by_cases hh : c.host.isTruthy
      · cases hp : checkPort c.port with
        | error fault =>
          obtain rfl : fault = .unwritten := by simpa [inTurn, hc, hh, hp] using h
          exact .port (checkCount_eq_ok.mp hc) (Value.isTruthy_iff.mp hh) (checkPort_eq_unwritten.mp hp)
        | ok =>
          rw [hc, hp, if_pos hh] at h
          have hmem := mem_of_inTurn h
          simp [checkPositive_ne_unwritten, eq_comm (a := Except.error ConfigFault.unwritten)] at hmem
      · simp [inTurn, hc, hh] at h
  · intro h
    cases h with
    | workers hc hn hw =>
      rw [checkCount_eq_unwritten.mpr ⟨_, hc, hn, hw⟩]
      rfl
    | port hc hh hw =>
      rw [checkCount_eq_ok.mpr hc, if_pos (Value.isTruthy_iff.mpr hh), checkPort_eq_unwritten.mpr hw]
      rfl

example : check { workerCount := .int (-10 ^ Text.digitLimit) } = .error .unwritten := by
  apply check_eq_unwritten.mpr
  apply Unsaid.workers rfl
  · decide +kernel
  · decide +kernel

theorem invalid_of_quoting {raised : String → ConfigFault} (hi : ∀ s, (raised s).IsInvalid)
    {quoted : Option String} (hw : ConfigFault.quoting raised quoted ≠ .unwritten) :
    (ConfigFault.quoting raised quoted).IsInvalid := by
  cases quoted with
  | none => exact absurd rfl hw
  | some s => exact hi s

theorem fault_of_checkCount (h : checkCount v = .error fault) (hw : fault ≠ .unwritten) :
    fault.IsInvalid := by
  unfold checkCount at h
  split at h <;> cases h
  apply invalid_of_quoting _ hw
  exact fun _ => trivial

theorem fault_of_checkPort (h : checkPort v = .error fault) (hn : v.IsNumeric)
    (hw : fault ≠ .unwritten) : fault.IsInvalid := by
  simp only [checkPort, Value.isComparable_iff.mpr hn] at h
  split at h
  · contradiction
  · split at h <;> cases h
    apply invalid_of_quoting _ hw
    exact fun _ => trivial

theorem fault_of_checkPositive {raised : ConfigFault} (h : checkPositive raised v = .error fault)
    (hi : raised.IsInvalid) (hn : v.IsNumeric) : fault.IsInvalid := by
  simp only [checkPositive, Value.isComparable_iff.mpr hn] at h
  split at h
  · contradiction
  · split at h
    · cases h
      exact hi
    · cases h

/-- Settings that can all be compared are refused only for what they are, if the refusal has its words. -/
theorem fault_of_check (hw : c.WellTyped) (hu : ¬ c.Unsaid) (h : c.check = .error fault) :
    fault.IsInvalid := by
  have hwritten : fault ≠ .unwritten := by
    rintro rfl
    exact hu (check_eq_unwritten.mp h)
  rw [check_eq] at h
  have hmem := mem_of_inTurn h
  simp only [steps, List.mem_cons, List.not_mem_nil, or_false] at hmem
  have hn : ∀ v, v ∈ c.port :: c.bounds → v.IsNumeric := hw
  rcases hmem with h | h | h | h | h | h | h
  · exact fault_of_checkCount h.symm hwritten
  · split at h <;> cases h
    trivial
  · exact fault_of_checkPort h.symm (hn _ (by simp)) hwritten
  · exact fault_of_checkPositive h.symm trivial (hn _ (by simp [bounds]))
  · exact fault_of_checkPositive h.symm trivial (hn _ (by simp [bounds]))
  · exact fault_of_checkPositive h.symm trivial (hn _ (by simp [bounds]))
  · exact fault_of_checkPositive h.symm trivial (hn _ (by simp [bounds]))

/-- What is promised of putting a configuration together: it fails exactly if the settings are not
valid, and says so if they can be compared at all. -/
structure Vetted (c : Config) (made : Except ConfigFault Config) : Prop where
  sound : ∀ d, made = .ok d → d.Valid
  accepted : c.Valid → made = .ok c
  refused : c.WellTyped → ¬ c.Valid → ∃ fault, made = .error fault ∧ fault.IsInvalid

/-- What is known of it, where settings that are no numbers pass as positive ones, and a refusal may fail
for want of words. The promise is broken exactly if there is such a setting in a configuration that passes,
or no word for what is refused. -/
structure Judged (c : Config) (made : Except ConfigFault Config) : Prop where
  passes : c.Passable → made = .ok c
  sound : ∀ d, made = .ok d → d = c ∧ c.Passable
  refused : c.WellTyped → ¬ c.Passable → ¬ c.Unsaid → ∃ fault, made = .error fault ∧ fault.IsInvalid
  unsaid : made = .error .unwritten ↔ c.Unsaid
  vetted : c.Vetted made ↔
    (c.Passable → ∀ v ∈ c.bounds, ¬ v.IsNaN) ∧ (c.WellTyped → ¬ c.Unsaid)

theorem vetted_iff {made : Except ConfigFault Config} (hp : c.Passable → made = .ok c)
    (hs : ∀ d, made = .ok d → d = c ∧ c.Passable)
    (hr : c.WellTyped → ¬ c.Passable → ¬ c.Unsaid → ∃ fault, made = .error fault ∧ fault.IsInvalid)
    (hu : made = .error .unwritten ↔ c.Unsaid) :
    c.Vetted made ↔ (c.Passable → ∀ v ∈ c.bounds, ¬ v.IsNaN) ∧ (c.WellTyped → ¬ c.Unsaid) := by
  constructor
  · intro h
    refine ⟨fun hc => (valid_iff.mp (h.sound c (hp hc))).2, fun hw hn => ?_⟩
    have hmade := hu.mpr hn
    have hinvalid : ¬ c.Valid := fun hc => by cases hmade.symm.trans (h.accepted hc)
    obtain ⟨fault, hf, hi⟩ := h.refused hw hinvalid
    cases hmade.symm.trans hf
    exact hi
  · rintro ⟨hnan, hsaid⟩
    have hv : c.Valid ↔ c.Passable := valid_iff.trans ⟨And.left, fun hc => ⟨hc, hnan hc⟩⟩
    refine ⟨?_, fun hc => hp (hv.mp hc), fun hw hc => hr hw (mt hv.mpr hc) (hsaid hw)⟩
    intro d hd
    obtain ⟨rfl, hc⟩ := hs d hd
    exact hv.mpr hc

theorem judged_of_check {made : Except ConfigFault Config} (hp : c.Passable → made = .ok c)
    (hr : ¬ c.Passable →
      ∃ fault, made = .error fault ∧ (c.WellTyped → ¬ c.Unsaid → fault.IsInvalid))
    (hu : made = .error .unwritten ↔ c.Unsaid) : Judged c made := by
  have hsound : ∀ d, made = .ok d → d = c ∧ c.Passable := by
    intro d hd
    by_cases hc : c.Passable
    · exact ⟨Except.ok.inj (hd.symm.trans (hp hc)), hc⟩
    · obtain ⟨fault, hf, -⟩ := hr hc
      cases hd.symm.trans hf
  have hrefused : c.WellTyped → ¬ c.Passable → ¬ c.Unsaid →
      ∃ fault, made = .error fault ∧ fault.IsInvalid := by
    intro hw hc hn
    obtain ⟨fault, hf, hi⟩ := hr hc
    exact ⟨fault, hf, hi hw hn⟩
  exact ⟨hp, hsound, hrefused, hu, vetted_iff hp hsound hrefused hu⟩

theorem judged_checked (c : Config) : Judged c c.checked := by
  have herror : ∀ fault, c.checked = .error fault ↔ c.check = .error fault := by
    intro fault
    unfold checked
    cases c.check <;> simp
  refine judged_of_check (fun hc => ?_) (fun hc => ?_) ((herror _).trans check_eq_unwritten)
  · simp [checked, check_eq_ok.mpr hc]
  · cases hcheck : c.check with
    | ok => exact absurd (check_eq_ok.mp hcheck) hc
    | error fault => exact ⟨fault, (herror _).mpr hcheck, fun hw hu => fault_of_check hw hu hcheck⟩

def fieldNames : List String :=
  ["worker_count", "host", "port", "read_timeout", "idle_timeout", "max_header_bytes",
    "max_body_bytes"]

def named (given : List (String × Value)) (name : String) (otherwise : Value) : Value :=
  (given.reverse.lookup name).getD otherwise

theorem named_cons (name : String) (v : Value) (other : String) (otherwise : Value) :
    named ((name, v) :: given) other otherwise =
      named given other (if other = name then v else otherwise) := by
  rw [named, named, List.reverse_cons, List.lookup_append]
  by_cases h : other = name
  · subst h
    cases List.lookup other given.reverse <;> simp [List.lookup]
  · have hb : (other == name) = false := beq_eq_false_iff_ne.mpr h
    cases List.lookup other given.reverse <;> simp [h, List.lookup, hb]

def updated (c : Config) (given : List (String × Value)) : Config where
  workerCount := named given "worker_count" c.workerCount
  host := named given "host" c.host
  port := named given "port" c.port
  readTimeout := named given "read_timeout" c.readTimeout
  idleTimeout := named given "idle_timeout" c.idleTimeout
  maxHeaderBytes := named given "max_header_bytes" c.maxHeaderBytes
  maxBodyBytes := named given "max_body_bytes" c.maxBodyBytes

theorem set?_eq {name : String} (h : name ∈ fieldNames) (c : Config) (v : Value) :
    c.set? name v = some (c.updated [(name, v)]) := by
  simp only [fieldNames, List.mem_cons, List.not_mem_nil, or_false] at h
  rcases h with rfl | rfl | rfl | rfl | rfl | rfl | rfl <;> simp [set?, updated, named, List.lookup]

theorem updated_cons (c : Config) (name : String) (v : Value) (given : List (String × Value)) :
    c.updated ((name, v) :: given) = (c.updated [(name, v)]).updated given := by
  simp only [updated, named_cons]
  simp [named]

theorem setAll_eq (h : ∀ field ∈ given, field.1 ∈ fieldNames) (c : Config) :
    c.setAll given = .ok (c.updated given) := by
  induction given generalizing c with
  | nil => rfl
  | cons field given ih =>
    obtain ⟨hfield, hrest⟩ := List.forall_mem_cons.mp h
    rw [setAll, set?_eq hfield]
    exact (ih hrest _).trans (congrArg Except.ok (updated_cons c field.1 field.2 given).symm)

def assembled (given : List (String × Value)) : Config :=
  updated { workerCount := .nothing } given

theorem judged_ofFields (hn : ∀ field ∈ given, field.1 ∈ fieldNames)
    (hc : "worker_count" ∈ given.map Prod.fst) : Judged (assembled given) (ofFields given) := by
  have heq : ofFields given = (assembled given).checked := by
    rw [ofFields, setAll_eq hn, List.contains_iff_mem.mpr hc]
    rfl
  rw [heq]
  exact judged_checked _

theorem judged_ofWorkerCount (count : Value) :
    Judged { workerCount := count } (ofWorkerCount count) := by
  unfold ofWorkerCount
  split
  · subst count
    refine judged_of_check (fun hc => ?_) (fun _ => ⟨_, rfl, fun _ _ => trivial⟩) ⟨nofun, fun hu => ?_⟩
    · obtain ⟨n, hn, -⟩ := hc.workers
      cases hn
    · cases hu with
      | workers hc => cases hc
      | port hc =>
        obtain ⟨n, hn, -⟩ := hc
        cases hn
  · exact judged_checked _

/-- The default port can be written, so that it is the count alone which may lack its words. -/
theorem unsaid_of_count {count : Value} :
    Unsaid { workerCount := count } ↔ ∃ n, count = .int n ∧ n < 1 ∧ ¬ Text.IsWritten n := by
  constructor
  · intro h
    cases h with
    | workers hc hn hw => exact ⟨_, hc, hn, hw⟩
    | port _ _ hw =>
      obtain ⟨n, hn, hw⟩ := hw
      cases hn
      exact absurd (by decide +kernel) hw
  · rintro ⟨n, hc, hn, hw⟩
    exact .workers hc hn hw

/-- The defaults are numbers. -/
theorem numeric_of_count (count : Value) :
    WellTyped { workerCount := count } ∧ ∀ v ∈ bounds { workerCount := count }, ¬ v.IsNaN := by
  constructor
  · simp [WellTyped, bounds, Value.IsNumeric]
  · simp only [bounds, Value.IsNaN]
    decide +kernel

theorem vetted_ofWorkerCount (count : Value) :
    Vetted { workerCount := count } (ofWorkerCount count) ↔
      ∀ n, count = .int n → n < 1 → Text.IsWritten n := by
  obtain ⟨htyped, hnumber⟩ := numeric_of_count count
  rw [(judged_ofWorkerCount count).vetted, unsaid_of_count]
  constructor
  · rintro ⟨-, h⟩ n hc hn
    exact by_contra fun hw => h htyped ⟨n, hc, hn, hw⟩
  · intro h
    refine ⟨fun _ => hnumber, fun _ ⟨n, hc, hn, hw⟩ => hw (h n hc hn)⟩

/-- Settings make a configuration exactly if they are in order, where a setting that is no number counts
as positive. Without such a setting the configuration is valid whenever it is made, and only then. It is
refused for what is wrong with it, unless that is a number of too many digits to quote. -/
theorem settings_judged (given : List (String × Value)) (hn : ∀ field ∈ given, field.1 ∈ fieldNames)
    (hc : "worker_count" ∈ given.map Prod.fst) :
    Judged (assembled given) (ofFields given) ∧
      ∀ count, Judged { workerCount := count } (ofWorkerCount count) ∧
        (Vetted { workerCount := count } (ofWorkerCount count) ↔
          ∀ n, count = .int n → n < 1 → Text.IsWritten n) :=
  ⟨judged_ofFields hn hc, fun count => ⟨judged_ofWorkerCount count, vetted_ofWorkerCount count⟩⟩

/-- A truth value for a port, an endless timeout, and a count that is given twice. -/
theorem settings_judged_mixed :
    let given := [("worker_count", .int 0), ("port", .bool true),
      ("read_timeout", .float (.infinite false)), ("worker_count", .int 1)]
    let c : Config := {
      workerCount := .int 1, port := .bool true, readTimeout := .float (.infinite false) }
    (∀ field ∈ given, field.1 ∈ fieldNames) ∧ "worker_count" ∈ given.map Prod.fst ∧
      assembled given = c ∧ c.Valid ∧ ofFields given = .ok c := by
  intro given c
  have hn : ∀ field ∈ given, field.1 ∈ fieldNames := by decide +kernel
  have hw : "worker_count" ∈ given.map Prod.fst := by decide +kernel
  have ha : assembled given = c := rfl
  have hnan : ∀ v ∈ c.bounds, ¬ v.IsNaN := by
    simp only [Value.IsNaN]
    decide +kernel
  have hmade : ofFields given = .ok c := rfl
  have hj : Judged c (ofFields given) := ha ▸ (settings_judged given hn hw).1
  have hpassed : c.Passable := (hj.sound c hmade).2
  exact ⟨hn, hw, ha, valid_iff.mpr ⟨hpassed, hnan⟩, hmade⟩

/-- A timeout that is no number passes, and is not positive. -/
theorem not_vetted_nan :
    let given := [("worker_count", .int 1), ("read_timeout", .float .nan)]
    let c : Config := { workerCount := .int 1, readTimeout := .float .nan }
    assembled given = c ∧ ofFields given = .ok c ∧ ¬ Vetted c (ofFields given) := by
  intro given c
  have hmade : ofFields given = .ok c := rfl
  refine ⟨rfl, hmade, fun h => ?_⟩
  have hvalid : c.Valid := h.sound c hmade
  exact (valid_iff.mp hvalid).2 _ (List.mem_cons_self ..) rfl

end Config

end FixedReply
