import FixedReply.Proofs.Http.HeadFields
import Mathlib.Data.Set.Basic
import Mathlib.Logic.Relation

namespace FixedReply

open Text (splitOn joinWith trim lower lowered isBlank)

namespace Text

def AmongLetters (c : Char) : Prop := 65 ≤ c.toNat ∧ c.toNat ≤ 122 ∨ 192 ≤ c.toNat ∧ c.toNat < 256

theorem lowered_eq_or {c : Char} (h : c.toNat < 256) :
    lowered c = c ∨ AmongLetters c ∧ AmongLetters (lowered c) := by
  unfold AmongLetters lowered
  rcases runImage_lowerRuns h with hr | hr
  · by_cases hc : 65 ≤ c.toNat ∧ c.toNat ≤ 90
    · rw [hr, if_pos hc, toNat_ofNat (by omega)]
      exact .inr (by omega)
    · rw [hr, if_neg hc, Char.ofNat_toNat]
      exact .inl rfl
  · rw [toNat_ofNat (by omega)]
    exact .inr (by omega)

theorem blanks_latin : ∀ b ∈ blanks, b < 65 ∨ 122 < b ∧ b < 192 ∨ 256 ≤ b := by
  decide

theorem AmongLetters.not_separator {c : Char} (h : AmongLetters c) : c ≠ ',' ∧ isBlank c = false := by
  unfold AmongLetters at h
  refine ⟨fun he => ?_, Bool.not_eq_true _ ▸ fun hb => ?_⟩
  · subst he
    revert h
    decide
  · have := blanks_latin c.toNat (List.contains_iff_mem.mp hb)
    omega

/-- Below 256, lower-case forms are commas and white space where their characters are. -/
theorem lowered_separators {c : Char} (h : c.toNat < 256) :
    (lowered c = ',' ↔ c = ',') ∧ isBlank (lowered c) = isBlank c := by
  rcases lowered_eq_or h with he | ⟨hc, hl⟩
  · rw [he]
    exact ⟨Iff.rfl, rfl⟩
  · obtain ⟨hcomma, hblank⟩ := hc.not_separator
    obtain ⟨hcomma', hblank'⟩ := hl.not_separator
    exact ⟨iff_of_false hcomma' hcomma, hblank'.trans hblank.symm⟩

theorem trim_pad {p : Char → Bool} {left right : List Char} (h : ∀ c ∈ left ++ right, p c)
    (s : List Char) : trim p (left ++ s ++ right) = trim p s := by
  obtain ⟨before, after, hs, hdropped⟩ := exists_trim p s
  obtain ⟨hhead, hlast⟩ := ends_trim p s
  obtain ⟨hl, hr⟩ := List.forall_mem_append.mp h
  obtain ⟨hb, ha⟩ := List.forall_mem_append.mp hdropped
  have hwhole : left ++ s ++ right = (left ++ before) ++ trim p s ++ (after ++ right) := by
    conv_lhs => rw [hs]
    simp
  rw [hwhole]
  exact trim_ends (List.forall_mem_append.mpr ⟨hl, hb⟩) (List.forall_mem_append.mpr ⟨ha, hr⟩) hhead hlast

end Text

namespace Http

variable {list word left right : List Char} {lists lists' : List (List Char)} {token : String}
  {block : Bytes} {request : Request}

/-- A word stands in a list: it has no white space at its ends, and there is nothing but white space between
it and the commas beside it, or the ends of the list. -/
structure Stands (word list : List Char) : Prop where
  ne_nil : word ≠ []
  comma : ',' ∉ word
  head : ∀ c, word.head? = some c → isBlank c = false
  last : ∀ c, word.getLast? = some c → isBlank c = false
  around : ∃ before left right after, list = before ++ (left ++ word ++ right) ++ after ∧
    (∀ c ∈ left ++ right, isBlank c) ∧ (before = [] ∨ before.getLast? = some ',') ∧
      (after = [] ∨ after.head? = some ',')

def tokens (lists : List (List Char)) : Set String :=
  {token | ∃ list ∈ lists, ∃ word, Stands word list ∧ token = String.ofList (lower word)}

def words (list : List Char) : List (List Char) :=
  ((splitOn ',' list).map (trim isBlank)).filter (· ≠ [])

theorem mem_words : word ∈ words list ↔ Stands word list := by
  rw [words, List.mem_filter, List.mem_map, decide_eq_true_iff]
  constructor
  · intro h
    obtain ⟨⟨part, hp, rfl⟩, hne⟩ := h
    obtain ⟨hcomma, before, after, rfl, hb, ha⟩ := Text.mem_splitOn_iff.mp hp
    obtain ⟨hhead, hlast⟩ := Text.ends_trim isBlank part
    obtain ⟨left, right, hpart, hblank⟩ := Text.exists_trim isBlank part
    refine ⟨hne, fun hm => hcomma (Text.mem_of_trim hm), hhead, hlast, before, left, right, after, ?_,
      hblank, hb, ha⟩
    rw [← hpart]
  · intro h
    obtain ⟨before, left, right, after, rfl, hblank, hb, ha⟩ := h.around
    obtain ⟨hl, hr⟩ := List.forall_mem_append.mp hblank
    refine ⟨⟨left ++ word ++ right, Text.mem_splitOn_iff.mpr ⟨fun hm => ?_, before, after, rfl, hb, ha⟩,
      Text.trim_ends hl hr h.head h.last⟩, h.ne_nil⟩
    have hnot : isBlank ',' = false := by decide
    rw [List.mem_append, List.mem_append] at hm
    rcases hm with (hm | hm) | hm
    · exact absurd (hl _ hm) (by simp [hnot])
    · exact h.comma hm
    · exact absurd (hr _ hm) (by simp [hnot])

theorem words_sep (front back : List Char) : words (front ++ ',' :: back) = words front ++ words back := by
  simp [words, Text.splitOn_sep]

theorem words_of_not_mem (h : ',' ∉ list) : words list = [trim isBlank list].filter (· ≠ []) := by
  rw [words, Text.splitOn_self h, List.map_singleton]

/-- White space at the ends of a list belongs to no word. -/
theorem words_pad (h : ∀ c ∈ left ++ right, isBlank c) (list : List Char) :
    words (left ++ list ++ right) = words list := by
  have hcomma : ∀ {s : List Char}, (∀ c ∈ s, isBlank c) → ',' ∉ s :=
    fun hs hm => absurd (hs _ hm) (by decide)
  obtain ⟨hl, hr⟩ := List.forall_mem_append.mp h
  have hsingle : ∀ {left right s : List Char}, (∀ c ∈ left ++ right, isBlank c) → ',' ∉ s →
      words (left ++ s ++ right) = words s := by
    intro left right s hblank hs
    obtain ⟨hl, hr⟩ := List.forall_mem_append.mp hblank
    have hnone : ',' ∉ left ++ s ++ right := by simp [hcomma hl, hcomma hr, hs]
    rw [words_of_not_mem hnone, words_of_not_mem hs, Text.trim_pad hblank]
  -- The padding in front is that of the first part, and the other one is that of what follows.
  induction hn : list.length using Nat.strongRecOn generalizing list left with
  | ind n ih =>
    subst hn
    by_cases hm : ',' ∈ list
    · obtain ⟨first, rest, rfl, hf⟩ := List.eq_append_cons_of_mem hm
      have hwhole : left ++ (first ++ ',' :: rest) ++ right =
          (left ++ first ++ []) ++ ',' :: ([] ++ rest ++ right) := by
        simp
      have hshort : rest.length < (first ++ ',' :: rest).length := by
        rw [List.length_append, List.length_cons]
        omega
      have hback : ∀ c ∈ ([] : List Char) ++ right, isBlank c := hr
      rw [hwhole, words_sep, words_sep, hsingle (by simpa using hl) hf, ih _ hshort hback rest nofun rfl]
    · exact hsingle h hm

theorem blank_space : ∀ c ∈ [' '], isBlank c := List.forall_mem_singleton.mpr rfl

theorem words_joined (lists : List (List Char)) :
    words (joinWith [',', ' '] lists) = lists.flatMap words := by
  induction lists with
  | nil => rfl
  | cons list rest ih =>
    by_cases hr : rest = []
    · subst hr
      simp [joinWith]
    · have hspace : words ([' '] ++ joinWith [',', ' '] rest ++ []) = words (joinWith [',', ' '] rest) :=
        words_pad blank_space _
      rw [Text.joinWith_cons _ _ hr, List.flatMap_cons, ← ih, ← hspace, ← words_sep]
      simp

/-- The words of a list of Latin-1 are in small letters those of the list in small letters. -/
theorem map_words (h : Below 256 list) :
    (words list).map (List.map lowered) = words (list.map lowered) := by
  have hsep : ∀ c ∈ list, lowered c = ',' ↔ c = ',' := fun c hc => (Text.lowered_separators (h c hc)).1
  have htrim : ∀ part ∈ splitOn ',' list,
      trim isBlank (part.map lowered) = (trim isBlank part).map lowered := fun part hp =>
    Text.trim_map fun c hc => (Text.lowered_separators (h c (Text.mem_of_splitOn hp hc))).2
  have hparts : (splitOn ',' (list.map lowered)).map (trim isBlank) =
      ((splitOn ',' list).map (trim isBlank)).map (List.map lowered) := by
    rw [Text.splitOn_map hsep, List.map_map, List.map_map]
    exact List.map_congr_left htrim
  have hnil : (fun part : List Char => decide (part ≠ [])) ∘ List.map lowered =
      fun part => decide (part ≠ []) := by
    funext part
    simp
  rw [words, words, hparts, @List.filter_map _ _ (List.map lowered), hnil]

theorem mem_tokens : token ∈ tokens lists ↔ ∃ list ∈ lists, token.toList ∈ (words list).map lower := by
  simp only [tokens, Set.mem_ofPred_eq, List.mem_map, ← mem_words]
  constructor
  · rintro ⟨list, hl, word, hw, rfl⟩
    exact ⟨list, hl, word, hw, String.toList_ofList.symm⟩
  · rintro ⟨list, hl, word, hw, he⟩
    exact ⟨list, hl, word, hw, by rw [he, String.ofList_toList]⟩

theorem mem_tokens_cons {rest : List (List Char)} :
    token ∈ tokens (list :: rest) ↔ token.toList ∈ (words list).map lower ∨ token ∈ tokens rest := by
  simp only [mem_tokens, List.mem_cons, exists_eq_or_imp]

/-- The words of a list of Latin-1 in small letters. -/
theorem lowered_words (h : Below 256 list) : (words list).map lower = words (lower list) := by
  rw [Text.lower_latin h, ← map_words h]
  refine List.map_congr_left fun word hw => Text.lower_latin fun c hc => ?_
  obtain ⟨before, left, right, after, hlist, -⟩ := (mem_words.mp hw).around
  exact h c (by rw [hlist]; simp [hc])

/-- A change that lists can be put to without a change to their tokens. -/
inductive Rearranges : List (List Char) → List (List Char) → Prop
  | reorders {lists lists' : List (List Char)} (h : lists.Perm lists') : Rearranges lists lists'
  | repeats (list : List Char) (rest : List (List Char)) : Rearranges (list :: rest) (list :: list :: rest)
  | empties (rest : List (List Char)) : Rearranges rest ([] :: rest)
  | divides (front back : List Char) (rest : List (List Char)) :
      Rearranges ((front ++ ',' :: back) :: rest) (front :: back :: rest)
  | pads {left right : List Char} (h : ∀ c ∈ left ++ right, isBlank c) (list : List Char)
      (rest : List (List Char)) : Rearranges (list :: rest) ((left ++ list ++ right) :: rest)
  | recases {list list' : List Char} (h : Below 256 list) (h' : Below 256 list')
      (he : lower list = lower list') (rest : List (List Char)) :
      Rearranges (list :: rest) (list' :: rest)

theorem Rearranges.tokens_eq (h : Rearranges lists lists') : tokens lists = tokens lists' := by
  ext token
  cases h with
  | reorders h => simp only [mem_tokens, h.mem_iff]
  | repeats => simp only [mem_tokens_cons, or_self_left]
  | empties =>
    rw [mem_tokens_cons]
    exact (or_iff_right List.not_mem_nil).symm
  | divides => simp only [mem_tokens_cons, words_sep, List.map_append, List.mem_append, or_assoc]
  | pads h => simp only [mem_tokens_cons, words_pad h]
  | recases h h' he => simp only [mem_tokens_cons, lowered_words h, lowered_words h', he]

/-- However often lists are rearranged, their tokens stay the same. -/
theorem tokens_eq_of_rearranged (h : Relation.EqvGen Rearranges lists lists') :
    tokens lists = tokens lists' := by
  induction h with
  | rel _ _ h => exact h.tokens_eq
  | refl => rfl
  | symm _ _ _ ih => exact ih.symm
  | trans _ _ _ _ _ ih ih' => exact ih.trans ih'

theorem mem_listTokens {value : String} :
    token ∈ listTokens value ↔ token.toList ∈ (words value.toList).map lower := by
  rw [listTokens, List.mem_eraseDups]
  simp only [words, List.mem_filterMap, List.mem_map, List.mem_filter]
  constructor
  · rintro ⟨part, hp, he⟩
    split at he
    · cases he
    · rename_i hne
      cases he
      exact ⟨trim isBlank part, ⟨⟨part, hp, rfl⟩, by simpa using hne⟩, String.toList_ofList.symm⟩
  · rintro ⟨word, ⟨⟨part, hp, rfl⟩, hne⟩, he⟩
    refine ⟨part, hp, ?_⟩
    rw [if_neg (by simpa using hne), he, String.ofList_toList]

/-- The lines that are joined to one value have together the tokens of that value. -/
theorem mem_connectionTokens (h : Head.read block = .ok request) :
    token ∈ connectionTokens request.headers ↔ token ∈ tokens (Head.values block "connection") := by
  have hjoined : words ((Head.joined? (Head.values block "connection")).getD "").toList =
      (Head.values block "connection").flatMap words := by
    unfold Head.joined?
    split
    · rename_i hnil
      rw [hnil]
      rfl
    · rw [Option.getD_some, String.toList_ofList, words_joined]
  rw [connectionTokens, mem_listTokens, Head.find?_of_read h (by decide), hjoined, mem_tokens,
    List.map_flatMap, List.mem_flatMap]

theorem keepAlive_iff (h : Head.read block = .ok request) : request.keepAlive = true ↔
    request.version = "HTTP/1.0" ∧ "keep-alive" ∈ tokens (Head.values block "connection") ∨
      request.version ≠ "HTTP/1.0" ∧ "close" ∉ tokens (Head.values block "connection") := by
  rw [Request.keepAlive, keepsAlive, ← mem_connectionTokens h, ← mem_connectionTokens h]
  by_cases hv : request.version = "HTTP/1.0" <;> simp [hv]

/-- Whether a request lets its connection stay open is a matter of its version and of the tokens of its
connection lines alone. It stays so whatever other lines there are, and however the tokens are written. -/
theorem keepAlive_of_tokens (h : Head.read block = .ok request) :
    (request.keepAlive = true ↔
      request.version = "HTTP/1.0" ∧ "keep-alive" ∈ tokens (Head.values block "connection") ∨
      request.version ≠ "HTTP/1.0" ∧ "close" ∉ tokens (Head.values block "connection")) ∧
    ∀ {other : Bytes} {asked : Request}, Head.read other = .ok asked →
      (asked.version = "HTTP/1.0" ↔ request.version = "HTTP/1.0") →
      (tokens (Head.values other "connection") = tokens (Head.values block "connection") →
        asked.keepAlive = request.keepAlive) ∧
      (Relation.EqvGen Rearranges (Head.values other "connection") (Head.values block "connection") →
        asked.keepAlive = request.keepAlive) := by
  have hsame : ∀ {other : Bytes} {asked : Request}, Head.read other = .ok asked →
      (asked.version = "HTTP/1.0" ↔ request.version = "HTTP/1.0") →
      tokens (Head.values other "connection") = tokens (Head.values block "connection") →
        asked.keepAlive = request.keepAlive := by
    intro other asked ho hv ht
    rw [Bool.eq_iff_iff, keepAlive_iff ho, keepAlive_iff h, ht, hv, Ne, Ne, hv]
  exact ⟨keepAlive_iff h, fun ho hv => ⟨hsame ho hv, fun hr => hsame ho hv (tokens_eq_of_rearranged hr)⟩⟩

/-- Two tokens in one line, and the same two in another order and letter case in two lines. -/
theorem keepAlive_of_tokens_apart :
    let block := Bytes.ofString "GET / HTTP/1.0\r\nConnection: Keep-Alive, Upgrade"
    let other := Bytes.ofString "GET / HTTP/1.0\r\nCONNECTION: upgrade\r\nA: b\r\nconnection: Keep-Alive"
    let request : Request := {
      method := "GET"
      path := "/"
      version := "HTTP/1.0"
      headers := .ofPairs [("connection", "Keep-Alive, Upgrade")] }
    let asked : Request := {
      request with headers := .ofPairs [("connection", "upgrade, Keep-Alive"), ("a", "b")] }
    Head.read block = .ok request ∧ Head.read other = .ok asked ∧
      Relation.EqvGen Rearranges (Head.values other "connection") (Head.values block "connection") ∧
      asked.keepAlive = request.keepAlive ∧ request.keepAlive = true := by
  intro block other request asked
  have hb : Head.read block = .ok request := rfl
  have ho : Head.read other = .ok asked := rfl
  have hvalues : Head.values block "connection" = ["Keep-Alive, Upgrade".toList] := by decide +kernel
  have hothers : Head.values other "connection" = ["upgrade".toList, "Keep-Alive".toList] := by
    decide +kernel
  have hrearranged : Relation.EqvGen Rearranges (Head.values other "connection")
      (Head.values block "connection") := by
    rw [hvalues, hothers]
    let keepAlive := "Keep-Alive".toList
    have hrecased : Rearranges ["upgrade".toList, keepAlive] ["Upgrade".toList, keepAlive] :=
      .recases (by decide) (by decide) (by decide +kernel) _
    have hpadded : Rearranges ["Upgrade".toList, keepAlive] [" Upgrade".toList, keepAlive] :=
      @Rearranges.pads [' '] [] blank_space "Upgrade".toList [keepAlive]
    have hreordered : Rearranges [" Upgrade".toList, keepAlive] [keepAlive, " Upgrade".toList] :=
      .reorders (.swap _ _ _)
    have hdivided : Rearranges ["Keep-Alive, Upgrade".toList] [keepAlive, " Upgrade".toList] :=
      .divides keepAlive " Upgrade".toList []
    exact .trans _ _ _ (.rel _ _ hrecased) (.trans _ _ _ (.rel _ _ hpadded)
      (.trans _ _ _ (.rel _ _ hreordered) (.symm _ _ (.rel _ _ hdivided))))
  refine ⟨hb, ho, hrearranged, ((keepAlive_of_tokens hb).2 ho Iff.rfl).2 hrearranged, ?_⟩
  decide +kernel

end Http

end FixedReply
