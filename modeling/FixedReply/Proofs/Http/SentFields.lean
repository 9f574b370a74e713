import FixedReply.Http.Response
import FixedReply.Proofs.Http.HeadFields

namespace FixedReply.Http

/-- The canonical form of a name differs from it in letter case only. -/
theorem toLower_canonicalName {name : String} (h : Below 128 name.toList) :
    (canonicalName name).toList.map Char.toLower = name.toList.map Char.toLower := by
  have hparts : ∀ part ∈ Text.splitOn '-' name.toList,
      (List.map Char.toLower ∘ Text.capitalize) part = List.map Char.toLower part :=
    fun part hp => Text.capitalize_ascii fun c hc => h c (Text.mem_of_splitOn hp hc)
  rw [canonicalName, String.toList_ofList, Text.map_joinWith, List.map_map,
    List.map_congr_left hparts, ← Text.map_joinWith, Text.joinWith_splitOn]

/-- The characters of a canonical name are such as names are made of. -/
theorem canonicalName_range {name : String} (h : Head.isToken name.toList) {c : Char}
    (hc : c ∈ (canonicalName name).toList) : 32 < c.toNat ∧ c.toNat < 127 ∧ c ≠ ':' := by
  have hm : c.toLower ∈ name.toList.map Char.toLower := by
    rw [← toLower_canonicalName (Head.ascii_of_isToken h)]
    exact List.mem_map_of_mem hc
  obtain ⟨d, hd, he⟩ := List.mem_map.mp hm
  have hall := h
  simp only [Head.isToken, Bool.and_eq_true, List.all_eq_true] at hall
  obtain ⟨hlow, hhigh, hcolon⟩ := Head.isTokenChar_range (hall.2 d hd)
  have hsame : d.toLower.toNat = c.toLower.toNat := congrArg Char.toNat he
  rw [Text.toNat_toLower, Text.toNat_toLower] at hsame
  have hn : d.toNat ≠ 58 := fun hn => hcolon (Char.toNat_inj.mp hn)
  have hc' : c.toNat ≠ 58 := by
    intro hc'
    rw [hc'] at hsame
    split at hsame <;> simp at hsame <;> omega
  refine ⟨?_, ?_, fun he => hc' (by rw [he]; rfl)⟩ <;> split at hsame <;> split at hsame <;> omega

namespace Response

variable {response : Response} {keepAlive : Bool} {version name : String}

def given (response : Response) : List (String × String) :=
  response.headers.entries.map fun entry => (canonicalName entry.1, entry.2)

def given? (response : Response) (name : String) : Option String := response.given.reverse.lookup name

def fate? (keepAlive : Bool) (version : String) : Option String :=
  if !keepAlive then some "close"
  else if version == "HTTP/1.0" then some "keep-alive"
  else none

def sized (response : Response) : Fields :=
  let named := Fields.ofPairs response.given
  if named.has "Content-Length" then named
  else named.put "Content-Length" (toString response.payload.length)

theorem sentHeaders_eq (response : Response) (keepAlive : Bool) (version : String) :
    response.sentHeaders keepAlive version =
      match fate? keepAlive version with
      | none => response.sized
      | some fate => response.sized.put "Connection" fate := by
  unfold fate? sentHeaders
  cases keepAlive with
  | false => rfl
  | true => cases version == "HTTP/1.0" <;> rfl

/-- What holds of all fields that a handler gives, and of those of the encoding, holds of all that are
sent. -/
theorem sentHeaders_all {P : String × String → Prop} (hg : ∀ e ∈ response.given, P e)
    (hl : ∀ n : Nat, P ("Content-Length", toString n))
    (hc : ∀ value ∈ ["close", "keep-alive"], P ("Connection", value)) :
    ∀ e ∈ (response.sentHeaders keepAlive version).entries, P e := by
  have hsized : ∀ e ∈ response.sized.entries, P e := by
    unfold sized
    dsimp only
    split
    · exact fun e he => hg e (Fields.mem_ofPairs he)
    · intro e he
      rcases Entries.mem_put he with he | rfl
      · exact hg e (Fields.mem_ofPairs he)
      · exact hl _
  rw [sentHeaders_eq]
  cases hf : fate? keepAlive version with
  | none => exact hsized
  | some fate =>
    have hfate : fate ∈ ["close", "keep-alive"] := by
      unfold fate? at hf
      split at hf
      · cases hf
        simp
      · split at hf <;> cases hf
        simp
    intro e he
    rcases Entries.mem_put he with he | rfl
    · exact hsized e he
    · exact hc fate hfate

theorem find?_sized (h : name ≠ "Content-Length") : response.sized.find? name = response.given? name := by
  unfold sized
  dsimp only
  split
  · exact Fields.find?_ofPairs _ _
  · rw [Fields.find?_put, if_neg fun he => h he.symm]
    exact Fields.find?_ofPairs _ _

/-- What is said of the connection: the encoding has its way, and else the handler. -/
theorem find?_connection (response : Response) (keepAlive : Bool) (version : String) :
    (response.sentHeaders keepAlive version).find? "Connection" =
      (fate? keepAlive version).or (response.given? "Connection") := by
  rw [sentHeaders_eq]
  cases fate? keepAlive version with
  | none => exact find?_sized (by decide)
  | some fate => exact Fields.find?_put_self _ _ _

/-- All other fields are the handler's. -/
theorem find?_sentHeaders (hl : name ≠ "Content-Length") (hc : name ≠ "Connection") :
    (response.sentHeaders keepAlive version).find? name = response.given? name := by
  rw [sentHeaders_eq]
  cases fate? keepAlive version with
  | none => exact find?_sized hl
  | some fate =>
    rw [← find?_sized hl]
    exact (Fields.find?_put _ _ _ _).trans (if_neg fun he => hc he.symm)

/-- The length that is sent: the last one that the handler declares, or else that of the body. -/
def statedLength (response : Response) : String :=
  (response.given? "Content-Length").getD (toString response.payload.length)

/-- The length is not replaced by what is said of the connection. -/
theorem find?_length (response : Response) (keepAlive : Bool) (version : String) :
    (response.sentHeaders keepAlive version).find? "Content-Length" = some response.statedLength := by
  have hgiven : (Fields.ofPairs response.given).find? "Content-Length" = response.given? "Content-Length" :=
    Fields.find?_ofPairs _ _
  have hs : response.sized.find? "Content-Length" = some response.statedLength := by
    rw [sized, statedLength, Fields.has, hgiven]
    cases hg : response.given? "Content-Length" with
    | none => exact Fields.find?_put_self _ _ _
    | some length => exact hgiven.trans hg
  rw [sentHeaders_eq]
  cases fate? keepAlive version with
  | none => exact hs
  | some fate => exact (Fields.find?_put _ _ _ _).trans ((if_neg (by decide)).trans hs)

def Unsized (response : Response) : Prop := "Content-Length" ∉ response.given.map Prod.fst

theorem Unsized.given? (h : response.Unsized) : response.given? "Content-Length" = none := by
  refine (Fields.find?_ofPairs _ _).symm.trans (Fields.find?_eq_none.mpr ?_)
  rw [Fields.names_ofPairs, List.mem_eraseDups]
  exact h

theorem Unsized.not_has (h : response.Unsized) :
    (Fields.ofPairs response.given).has "Content-Length" = false := by
  have hnone : (Fields.ofPairs response.given).find? "Content-Length" = none :=
    (Fields.find?_ofPairs _ _).trans h.given?
  rw [Fields.has, hnone]
  rfl

theorem Unsized.find?_length (h : response.Unsized) (keepAlive : Bool) (version : String) :
    (response.sentHeaders keepAlive version).find? "Content-Length" =
      some (toString response.payload.length) := by
  rw [Response.find?_length, statedLength, h.given?]
  rfl

/-- The names in the order in which they are sent. -/
theorem Unsized.names_sentHeaders (h : response.Unsized) (keepAlive : Bool) (version : String) :
    (response.sentHeaders keepAlive version).names =
      (response.given.map Prod.fst).eraseDups ++ "Content-Length" ::
        if (fate? keepAlive version).isSome ∧ "Connection" ∉ response.given.map Prod.fst then
          ["Connection"]
        else [] := by
  have hs : response.sized.names = (response.given.map Prod.fst).eraseDups ++ ["Content-Length"] := by
    have hnew : "Content-Length" ∉ (Fields.ofPairs response.given).names := by
      rw [Fields.names_ofPairs, List.mem_eraseDups]
      exact h
    rw [sized, h.not_has]
    exact (Fields.names_put _ _ _).trans ((if_neg hnew).trans (by rw [Fields.names_ofPairs]))
  rw [sentHeaders_eq]
  cases fate? keepAlive version with
  | none => simp [hs]
  | some fate =>
    dsimp only
    rw [Fields.names_put, hs]
    by_cases hm : "Connection" ∈ response.given.map Prod.fst
    · have hin : "Connection" ∈ (response.given.map Prod.fst).eraseDups ++ ["Content-Length"] :=
        List.mem_append_left _ (List.mem_eraseDups.mpr hm)
      rw [if_pos hin, if_neg fun he => he.2 hm]
    · have hout : "Connection" ∉ (response.given.map Prod.fst).eraseDups ++ ["Content-Length"] := by
        rw [List.mem_append, List.mem_eraseDups, List.mem_singleton]
        exact fun he => he.elim hm (by decide)
      rw [if_neg hout, if_pos ⟨rfl, hm⟩, List.append_assoc]
      rfl

end Response

end FixedReply.Http
