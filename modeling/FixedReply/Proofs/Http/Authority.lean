import FixedReply.Http.Target
import FixedReply.Proofs.Text.Parts

namespace FixedReply.Http

open Text (cut cutLast)

namespace Address

variable {host : List Char}

/-- Numbers and points are all that an address of four octets consists of. -/
theorem digits_of_isIPv4 (h : isIPv4 host) {c : Char} (hc : c ∈ host) : c = '.' ∨ c.isDigit := by
  simp only [isIPv4, Bool.and_eq_true, List.all_eq_true] at h
  rw [← Text.joinWith_splitOn '.' host] at hc
  rcases Text.mem_joinWith hc with hp | ⟨octet, ho, hc⟩
  · exact .inl (List.mem_singleton.mp hp)
  · have hoctet := h.2 octet ho
    simp only [isOctet, Bool.and_eq_true, List.all_eq_true] at hoctet
    exact .inr (hoctet.1.1.1.2 c hc)

/-- No address is both of four octets and of eight groups. -/
theorem not_isIPv4_of_isIPv6 (h : isIPv6 host) : ¬ isIPv4 host := by
  intro h4
  have hcolon : ':' ∉ host := fun hm => absurd (digits_of_isIPv4 h4 hm) (by decide)
  have hpercent : '%' ∉ host := fun hm => absurd (digits_of_isIPv4 h4 hm) (by decide)
  unfold isIPv6 withoutZone? at h
  rw [Text.cut_self hpercent] at h
  dsimp only at h
  rw [Text.splitOn_self hcolon] at h
  split at h
  · cases h
  · simp at h

end Address

namespace Target

def IsLiteral (host : List Char) : Prop :=
  Address.isFuture host ∨ host.head? ≠ some 'v' ∧ Address.isIPv6 host

def Behind (authority final : List Char) : Prop :=
  '@' ∉ final ∧ (authority = final ∨ ∃ user, authority = user ++ '@' :: final)

/-- What may stand behind the last at sign of an authority with brackets of both kinds: an address in
brackets, of which the closing one may be missing, or an address without them. -/
inductive Bracketed : List Char → Prop
  | closed {host port : List Char} (hh : ']' ∉ host) (hp : port = [] ∨ port.head? = some ':')
      (hl : IsLiteral host) : Bracketed ('[' :: (host ++ ']' :: port))
  | unclosed {host : List Char} (hh : ']' ∉ host) (hl : IsLiteral host) : Bracketed ('[' :: host)
  | aside {final : List Char} (hf : '[' ∉ final)
      (hl : IsLiteral (final.takeWhile fun c => decide (c ≠ ':'))) : Bracketed final

inductive Admissible : List Char → Prop
  | plain {authority : List Char} (ho : '[' ∉ authority) (hc : ']' ∉ authority) : Admissible authority
  | bracketed {authority final : List Char} (ho : '[' ∈ authority) (hc : ']' ∈ authority)
      (hb : Behind authority final) (hf : Bracketed final) : Admissible authority

variable {s host final : List Char}

theorem checkHost_eq_ok_iff : checkHost host = .ok () ↔ IsLiteral host := by
  unfold checkHost IsLiteral
  by_cases hv : host.head? = some 'v'
  · rw [if_pos hv]
    simp [hv]
  · have hfuture : Address.isFuture host = false := by
      unfold Address.isFuture
      split
      · exact absurd rfl hv
      · rfl
    rw [if_neg hv]
    by_cases h4 : Address.isIPv4 host
    · have h6 : Address.isIPv6 host = false :=
        Bool.eq_false_iff.mpr fun h6 => Address.not_isIPv4_of_isIPv6 h6 h4
      simp [h4, h6, hfuture]
    · by_cases h6 : Address.isIPv6 host <;> simp [h4, h6, hv, hfuture]

/-- The last part is what a cut at the last at sign leaves. -/
theorem behind_iff : Behind s final ↔ (cutLast '@' s).2 = final := by
  unfold cutLast
  constructor
  · intro h
    obtain ⟨hn, he⟩ := h
    have hrev : '@' ∉ final.reverse := fun hm => hn (List.mem_reverse.mp hm)
    rcases he with rfl | ⟨user, rfl⟩
    · rw [Text.cut_self hrev]
      exact List.reverse_reverse s
    · have hs : (user ++ '@' :: final).reverse = final.reverse ++ '@' :: user.reverse := by simp
      rw [hs, Text.cut_append hrev]
      exact List.reverse_reverse final
  · intro h
    cases hc : cut '@' s.reverse with
    | mk after before =>
      rw [hc] at h
      cases before with
      | none =>
        dsimp only at h
        have hn := Text.cut_eq_none.mp hc
        obtain ⟨rfl, hn⟩ := hn
        rw [List.reverse_reverse] at h
        subst h
        exact ⟨fun hm => hn (List.mem_reverse.mpr hm), .inl rfl⟩
      | some before =>
        dsimp only at h
        subst h
        obtain ⟨he, hn⟩ := Text.cut_eq_some.mp hc
        refine ⟨fun hm => hn (List.mem_reverse.mp hm), .inr ⟨before.reverse, ?_⟩⟩
        rw [← List.reverse_reverse s, he]
        simp

theorem checkBracketed_of_bracketed (h : Bracketed final) : checkBracketed final = .ok () := by
  have hopen : ∀ inside : List Char, cut '[' ('[' :: inside) = ([], some inside) := by
    intro inside
    have hcut : cut '[' ([] ++ '[' :: inside) = ([], some inside) := Text.cut_append List.not_mem_nil
    exact hcut
  unfold checkBracketed
  cases h with
  | @closed host port hh hp hl =>
    rw [hopen]
    dsimp only
    rw [Text.cut_append hh]
    have hport : ¬ (¬ port = [] ∧ ¬ port.head? = some ':') := fun hn => hp.elim hn.1 hn.2
    simpa [hport] using checkHost_eq_ok_iff.mpr hl
  | unclosed hh hl =>
    rw [hopen]
    dsimp only
    rw [Text.cut_self hh]
    simpa using checkHost_eq_ok_iff.mpr hl
  | aside hf hl =>
    rw [Text.cut_self hf]
    dsimp only
    rw [Text.cut_fst]
    exact checkHost_eq_ok_iff.mpr hl

theorem bracketed_of_checkBracketed (h : checkBracketed final = .ok ()) : Bracketed final := by
  unfold checkBracketed at h
  cases ho : cut '[' final with
  | mk before inside =>
    rw [ho] at h
    cases inside with
    | none =>
      obtain ⟨rfl, hf⟩ := Text.cut_eq_none.mp ho
      dsimp only at h
      rw [Text.cut_fst, checkHost_eq_ok_iff] at h
      exact .aside hf h
    | some inside =>
      obtain ⟨rfl, -⟩ := Text.cut_eq_some.mp ho
      dsimp only at h
      split at h
      · cases h
      · next hn =>
        rw [checkHost_eq_ok_iff] at h
        simp only [Bool.or_eq_true, Bool.not_eq_true', not_or, Bool.not_eq_false,
          List.isEmpty_iff, decide_eq_true_eq] at hn
        obtain ⟨rfl, hport⟩ := hn
        cases hc : cut ']' inside with
        | mk host after =>
          rw [hc] at h hport
          cases after with
          | none =>
            obtain ⟨rfl, hh⟩ := Text.cut_eq_none.mp hc
            exact .unclosed hh h
          | some port =>
            obtain ⟨rfl, hh⟩ := Text.cut_eq_some.mp hc
            exact .closed hh hport h

/-- The check lets the admissible authorities through and no others. -/
theorem checkAuthority_eq_ok_iff : checkAuthority s = .ok () ↔ Admissible s := by
  unfold checkAuthority
  constructor
  · intro h
    split at h
    · next ho hc =>
      exact .plain (by simpa using ho) (by simpa using hc)
    · next ho hc =>
      refine .bracketed (by simpa using ho) (by simpa using hc) (behind_iff.mpr rfl) ?_
      exact bracketed_of_checkBracketed h
    · cases h
  · intro h
    cases h with
    | plain ho hc => simp [ho, hc]
    | bracketed ho hc hb hf =>
      rw [behind_iff] at hb
      simpa [ho, hc, hb] using checkBracketed_of_bracketed hf

end Target

end FixedReply.Http
