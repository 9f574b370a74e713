import FixedReply.Http.Head
import FixedReply.Proofs.Http.Fields
import FixedReply.Proofs.Text.Case
import FixedReply.Proofs.Text.Parts

namespace FixedReply.Http

open Text (trim lower cut joinWith isPadding)

namespace Head

/-- The characters of names are visible ones of ASCII, other than the colon. -/
theorem isTokenChar_range {c : Char} (h : isTokenChar c) :
    32 < c.toNat ∧ c.toNat < 127 ∧ c ≠ ':' := by
  simp only [isTokenChar, Bool.or_eq_true] at h
  rcases h with h | h
  · have hr : (48 ≤ c.toNat ∧ c.toNat ≤ 57) ∨ (65 ≤ c.toNat ∧ c.toNat ≤ 90) ∨
        (97 ≤ c.toNat ∧ c.toNat ≤ 122) := by
      rcases Bool.or_eq_true_iff.mp h with h | h
      · rcases Bool.or_eq_true_iff.mp h with h | h
        · exact .inr (.inl (of_decide_eq_true h))
        · obtain ⟨hl, hh⟩ := Bool.and_eq_true_iff.mp h
          exact .inr (.inr ⟨of_decide_eq_true hl, of_decide_eq_true hh⟩)
      · obtain ⟨hl, hh⟩ := Bool.and_eq_true_iff.mp h
        exact .inl ⟨of_decide_eq_true hl, of_decide_eq_true hh⟩
    refine ⟨by omega, by omega, ?_⟩
    intro he
    subst he
    exact absurd hr (by decide)
  · have hall : ['!', '#', '$', '%', '&', Text.singleQuote, '*', '+', '-', '.', '^', '_',
        Char.ofNat 96, '|', '~'].all fun c => 32 < c.toNat ∧ c.toNat < 127 ∧ c ≠ ':' := by decide
    exact of_decide_eq_true (List.all_eq_true.mp hall c (by simpa using h))

theorem ascii_of_isToken {name : List Char} (h : isToken name) : Below 128 name := by
  simp only [isToken, Bool.and_eq_true, List.all_eq_true] at h
  intro c hc
  have := isTokenChar_range (h.2 c hc)
  omega

def valueOf? (name : List Char) (line : List Char) : Option (List Char) :=
  match cut ':' line with
  | (given, some value) =>
    if given.map Char.toLower = name then some (trim isPadding value) else none
  | (_, none) => none

def values (block : Bytes) (name : String) : List (List Char) :=
  (linesOf block).tail.filterMap (valueOf? name.toList)

variable {headers next read : Fields} {name other value : String} {line : List Char}
  {lines before : List (List Char)} {block : Bytes} {request : Request}

/-- A field that is read has the value of its line, and the line has its name. -/
theorem valueOf?_of_readField (h : readField line = .ok (name, value)) (other : String) :
    valueOf? other.toList line = if name = other then some value.toList else none := by
  unfold readField at h
  split at h
  · cases h
  · split at h
    · rename_i given found hc
      split at h
      · rename_i ht
        cases h
        simp only [valueOf?, hc, Text.lower_ascii (ascii_of_isToken ht), String.toList_ofList]
        by_cases hn : given.map Char.toLower = other.toList
        · rw [if_pos hn, if_pos (by rw [hn, String.ofList_toList])]
        · rw [if_neg hn, if_neg fun he => hn (by rw [← he, String.toList_ofList])]
      · cases h
    · cases h

/-- What a field that is added changes: its name alone, which gets a value or has its value joined by
this one, unless it is a length that is repeated. -/
theorem find?_of_addField (h : addField headers name value = .ok next) (other : String) :
    (name ≠ other ∧ next.find? other = headers.find? other) ∨
      (name = other ∧ headers.find? other = none ∧ next.find? other = some value) ∨
      (name = other ∧ other = "content-length" ∧ headers.find? other = some value ∧
        next.find? other = some value) ∨
      (name = other ∧ other ≠ "content-length" ∧ ∃ old, headers.find? other = some old ∧
        next.find? other = some (old ++ ", " ++ value)) := by
  unfold addField at h
  by_cases ho : name = other
  · subst ho
    cases hf : headers.find? name with
    | none =>
      rw [hf] at h
      cases h
      exact .inr (.inl ⟨rfl, rfl, Fields.find?_put_self _ _ _⟩)
    | some old =>
      rw [hf] at h
      dsimp only at h
      by_cases hl : name = "content-length"
      · rw [if_pos (beq_iff_eq.mpr hl)] at h
        split at h
        · rename_i hv
          cases h
          obtain rfl := beq_iff_eq.mp hv
          exact .inr (.inr (.inl ⟨rfl, hl, rfl, hf⟩))
        · cases h
      · rw [if_neg fun hb => hl (beq_iff_eq.mp hb)] at h
        cases h
        exact .inr (.inr (.inr ⟨rfl, hl, old, rfl, Fields.find?_put_self _ _ _⟩))
  · refine .inl ⟨ho, ?_⟩
    have hput : ∀ v, (headers.put name v).find? other = headers.find? other := by
      intro v
      rw [Fields.find?_put, if_neg ho]
    split at h
    · cases h
      exact hput _
    · split at h
      · split at h <;> cases h
        rfl
      · cases h
        exact hput _

def joined? (values : List (List Char)) : Option String :=
  if values = [] then none else some (String.ofList (joinWith [',', ' '] values))

theorem joined?_eq_none : joined? before = none ↔ before = [] := by
  simp [joined?]

theorem joined?_singleton (value : List Char) : joined? [value] = some (String.ofList value) := rfl

theorem joined?_snoc {old : String} (hb : joined? before = some old) (value : List Char) :
    joined? (before ++ [value]) = some (old ++ ", " ++ String.ofList value) := by
  unfold joined? at hb
  split at hb
  · cases hb
  · rename_i hne
    cases hb
    rw [joined?, if_neg (by simp), Text.joinWith_snoc _ _ hne, String.ofList_append,
      String.ofList_append]

def Agreed (values : List (List Char)) (found : Option String) : Prop :=
  (values = [] → found = none) ∧ ∀ v ∈ values, found = some (String.ofList v)

/-- What holds of the values of one name, and of what is kept of them, still holds after the header
lines if it does after each line with that name. -/
theorem readFields_keeps (Keeps : List (List Char) → Option String → Prop)
    (hstep : ∀ {headers next : Fields} {value : String} {before : List (List Char)},
      addField headers other value = .ok next → Keeps before (headers.find? other) →
        Keeps (before ++ [value.toList]) (next.find? other))
    (h : readFields headers lines = .ok read) (hb : Keeps before (headers.find? other)) :
    Keeps (before ++ lines.filterMap (valueOf? other.toList)) (read.find? other) := by
  induction lines generalizing headers before with
  | nil =>
    cases h
    simpa using hb
  | cons line rest ih =>
    rw [readFields] at h
    split at h
    · cases h
    · rename_i name value hf
      have hv := valueOf?_of_readField hf other
      split at h
      · cases h
      · rename_i next ha
        by_cases ho : name = other
        · subst ho
          rw [if_pos rfl] at hv
          have hgo := ih h (hstep ha hb)
          rw [List.append_assoc] at hgo
          rwa [List.filterMap_cons_some hv]
        · rw [if_neg ho] at hv
          rw [List.filterMap_cons_none hv]
          apply ih h
          rcases find?_of_addField ha other with ⟨-, hnext⟩ | ⟨he, -⟩ | ⟨he, -⟩ | ⟨he, -⟩
          · rwa [hnext]
          · exact absurd he ho
          · exact absurd he ho
          · exact absurd he ho

theorem joined_addField (hn : other ≠ "content-length") (h : addField headers other value = .ok next)
    (hb : headers.find? other = joined? before) :
    next.find? other = joined? (before ++ [value.toList]) := by
  rcases find?_of_addField h other with ⟨ho, -⟩ | ⟨-, hnone, hnext⟩ | ⟨-, hl, -⟩ | ⟨-, -, old, hold, hnext⟩
  · exact absurd rfl ho
  · obtain rfl := joined?_eq_none.mp (hb.symm.trans hnone)
    rw [hnext, List.nil_append, joined?_singleton, String.ofList_toList]
  · exact absurd hl hn
  · rw [hb] at hold
    rw [hnext, joined?_snoc hold, String.ofList_toList]

theorem agreed_addField (h : addField headers "content-length" value = .ok next)
    (hb : Agreed before (headers.find? "content-length")) :
    Agreed (before ++ [value.toList]) (next.find? "content-length") := by
  refine ⟨fun hnil => absurd hnil (by simp), fun v hv => ?_⟩
  rw [List.mem_append, List.mem_singleton] at hv
  rcases find?_of_addField h "content-length" with
    ⟨ho, -⟩ | ⟨-, hnone, hnext⟩ | ⟨-, -, hsame, hnext⟩ | ⟨-, hl, -⟩
  · exact absurd rfl ho
  · rcases hv with hv | rfl
    · have hold := hb.2 v hv
      rw [hnone] at hold
      cases hold
    · rw [hnext, String.ofList_toList]
  · rcases hv with hv | rfl
    · rw [hnext, ← hsame]
      exact hb.2 v hv
    · rw [hnext, String.ofList_toList]
  · exact absurd rfl hl

/-- A head with a request line is read as that line and the lines behind it are. -/
theorem read_cons (hl : linesOf block = line :: lines) (hne : line ≠ []) :
    Head.read block = match readRequestLine line with
      | .error why => .error why
      | .ok request => match readFields .empty lines with
        | .error why => .error (.refused why)
        | .ok headers =>
          if request.version ≠ "HTTP/1.0" && !headers.has "host" then .error (.refused .missingHost)
          else .ok { request with headers } := by
  unfold Head.read
  rw [hl]
  split
  · rename_i hnil
    cases hnil
  · rename_i hnil
    exact absurd (List.cons.inj hnil).1 hne
  · rename_i hcons
    cases hcons
    rfl

/-- The stages of reading a head. -/
theorem read_eq_ok : Head.read block = .ok request ↔ ∃ line lines asked headers,
    linesOf block = line :: lines ∧ readRequestLine line = .ok asked ∧
      readFields .empty lines = .ok headers ∧ (asked.version ≠ "HTTP/1.0" → headers.has "host") ∧
      request = { asked with headers } := by
  constructor
  · intro h
    unfold Head.read at h
    split at h
    · cases h
    · cases h
    · rename_i line lines _ hl
      split at h
      · cases h
      · rename_i asked ha
        split at h
        · cases h
        · rename_i headers hh
          split at h
          · cases h
          · rename_i hhost
            cases h
            exact ⟨line, lines, asked, headers, hl, ha, hh, by simpa using hhost, rfl⟩
  · intro he
    obtain ⟨line, lines, asked, headers, hl, ha, hh, hhost, rfl⟩ := he
    have hne : line ≠ [] := by
      rintro rfl
      cases ha
    rw [read_cons hl hne, ha]
    simp only [hh]
    rw [if_neg (by simpa using hhost)]

theorem readFields_of_read (h : Head.read block = .ok request) :
    readFields .empty (linesOf block).tail = .ok request.headers := by
  obtain ⟨line, lines, asked, headers, hl, -, hh, -, rfl⟩ := read_eq_ok.mp h
  rw [hl]
  exact hh

/-- A head that is read keeps the values of a name as its header lines have them. -/
theorem find?_of_read (h : Head.read block = .ok request) (hn : other ≠ "content-length") :
    request.headers.find? other = joined? (values block other) :=
  have hnil : Fields.empty.find? other = joined? [] := rfl
  readFields_keeps (fun values found => found = joined? values) (joined_addField hn)
    (readFields_of_read h) hnil

theorem agreed_of_read (h : Head.read block = .ok request) :
    Agreed (values block "content-length") (request.headers.find? "content-length") :=
  have hnil : Agreed [] (Fields.empty.find? "content-length") :=
    ⟨fun _ => rfl, fun _ hv => absurd hv List.not_mem_nil⟩
  readFields_keeps Agreed agreed_addField (readFields_of_read h) hnil

theorem latin_values {v : List Char} (hv : v ∈ values block other) : Below 256 v := by
  obtain ⟨line, hl, hof⟩ := List.mem_filterMap.mp hv
  unfold valueOf? at hof
  split at hof
  · rename_i given value hc
    split at hof
    · cases hof
      obtain ⟨rfl, -⟩ := Text.cut_eq_some.mp hc
      intro c hm
      have hline : c ∈ given ++ ':' :: value :=
        List.mem_append_right _ (List.mem_cons_of_mem _ (Text.mem_of_trim hm))
      have htext := Text.mem_of_lines (List.mem_of_mem_tail hl) hline
      obtain ⟨b, -, rfl⟩ := List.mem_map.mp ((List.dropWhile_sublist _).subset htext)
      exact b.toNat_lt
    · cases hof
  · cases hof

end Head

end FixedReply.Http
