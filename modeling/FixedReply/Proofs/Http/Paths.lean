import FixedReply.Http.Routes
import FixedReply.Proofs.Http.HeadFields
import FixedReply.Proofs.Text.Parts

namespace FixedReply.Http

variable {s rest : List Char} {target : Target}

namespace Target

def Rooted (path : List Char) : Prop := path.head? = some '/'

theorem afterScheme?_eq_some : afterScheme? s = some rest ↔
    s = "http://".toList ++ rest ∨ s = "https://".toList ++ rest := by
  unfold afterScheme?
  constructor
  · intro h
    split at h
    · next hp =>
      obtain ⟨after, rfl⟩ := List.isPrefixOf_iff_prefix.mp hp
      cases h
      exact .inl rfl
    · split at h
      · next hp =>
        obtain ⟨after, rfl⟩ := List.isPrefixOf_iff_prefix.mp hp
        cases h
        exact .inr rfl
      · cases h
  · rintro (rfl | rfl) <;> rfl

def Local (s : List Char) : Prop := Rooted s ∨ s = ['*']

/-- The targets that are read: those without an address, and addresses that pass. -/
theorem read_eq_ok : read s = .ok target ↔ (Local s ∧ target = ofPathAndQuery s) ∨
    ∃ rest, afterScheme? s = some rest ∧ ofAbsolute rest = .ok target := by
  have hlocal : (s.head? = some '/' || s == ['*']) = true ↔ Local s := by simp [Local, Rooted]
  have hfar : ∀ {rest}, afterScheme? s = some rest → ¬ Local s := by
    intro rest hs
    rcases afterScheme?_eq_some.mp hs with rfl | rfl <;> simp [Local, Rooted]
  unfold read
  split
  · rename_i hl
    rw [hlocal] at hl
    simp only [Except.ok.injEq]
    constructor
    · exact fun he => .inl ⟨hl, he.symm⟩
    · rintro (⟨-, he⟩ | ⟨rest, hs, -⟩)
      · exact he.symm
      · exact absurd hl (hfar hs)
  · rename_i hl
    rw [hlocal] at hl
    cases hs : afterScheme? s with
    | none => simp [hl]
    | some rest =>
      have hpassed : (ofAbsolute rest).mapError Fault.badAuthority = .ok target ↔
          ofAbsolute rest = .ok target := by
        constructor
        · intro he
          cases ha : ofAbsolute rest <;> rw [ha] at he <;> cases he
          rfl
        · intro ha
          rw [ha]
          rfl
      simp [hl, hpassed]

theorem Rooted.takeWhile (h : Rooted s) {p : Char → Bool} (hp : p '/' = true) :
    Rooted (s.takeWhile p) := by
  cases s with
  | nil => cases h
  | cons c rest =>
    obtain rfl : c = '/' := by simpa [Rooted] using h
    simp [Rooted, hp]

/-- The path is what stands before the first question mark. -/
theorem path_ofPathAndQuery (s : List Char) :
    (ofPathAndQuery s).path = s.takeWhile fun c => decide (c ≠ '?') :=
  Text.cut_fst '?' s

/-- What ends an authority begins the path, or there is none. -/
theorem path_afterAuthority (h : ∀ c, s.head? = some c → endsAuthority c) :
    (ofPathAndQuery (Text.cut '#' s).1).path = [] ∨ Rooted (ofPathAndQuery (Text.cut '#' s).1).path := by
  rw [path_ofPathAndQuery, Text.cut_fst]
  cases s with
  | nil => exact .inl rfl
  | cons c rest =>
    have hc := h c rfl
    simp only [endsAuthority, Bool.or_eq_true, beq_iff_eq] at hc
    rcases hc with (rfl | rfl) | rfl
    · have hroot : Rooted ('/' :: rest) := rfl
      exact .inr ((hroot.takeWhile (by decide)).takeWhile (by decide))
    · exact .inl rfl
    · exact .inl rfl

theorem rooted_ofAbsolute (h : ofAbsolute s = .ok target) : Rooted target.path := by
  unfold ofAbsolute at h
  dsimp only at h
  split at h
  · cases h
  · cases h
    split
    · rfl
    · rename_i hne
      refine (path_afterAuthority fun c hc => ?_).resolve_left fun he => hne (by rw [he]; rfl)
      have hnot := List.head?_dropWhile_not (fun c => !endsAuthority c)
        (s.filter fun c => !(c == '\t' || c == '\r' || c == '\n'))
      rw [hc] at hnot
      simpa using hnot

/-- A target that is read leads to a path from the root, unless it is the star. -/
theorem path_of_read (h : read s = .ok target) : Rooted target.path ∨ target.path = ['*'] := by
  rcases read_eq_ok.mp h with ⟨hr | rfl, rfl⟩ | ⟨rest, -, ha⟩
  · rw [path_ofPathAndQuery]
    exact .inl (Rooted.takeWhile hr (by decide))
  · exact .inr rfl
  · exact .inl (rooted_ofAbsolute ha)

end Target

namespace Head

variable {block : Bytes} {request : Request}

theorem path_of_readRequestLine (h : readRequestLine s = .ok request) :
    Routes.isRooted request.path ∨ request.path = "*" := by
  unfold readRequestLine at h
  split at h
  · split at h
    · cases h
    · split at h
      · cases h
      · split at h
        · cases h
        · split at h
          · cases h
          · rename_i target ht
            cases h
            rcases Target.path_of_read ht with hr | hs
            · exact .inl (by simpa [Routes.isRooted, Target.Rooted] using hr)
            · exact .inr (by rw [hs])
  · cases h

/-- A request that is read has a path from the root, unless it is the star. -/
theorem path_of_read (h : read block = .ok request) :
    Routes.isRooted request.path ∨ request.path = "*" := by
  obtain ⟨line, lines, asked, headers, -, ha, -, -, rfl⟩ := read_eq_ok.mp h
  have hpath := path_of_readRequestLine ha
  exact hpath

end Head

end FixedReply.Http
