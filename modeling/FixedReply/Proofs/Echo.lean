import FixedReply.Proofs.Wire.FieldLines
import FixedReply.Service

namespace FixedReply

namespace Http.Head

variable {block : Bytes} {name : String} {value : List Char}

/-- A value is part of a line. -/
theorem isLine_values (h : value ∈ values block name) : Text.IsLine value := by
  obtain ⟨line, hl, hof⟩ := List.mem_filterMap.mp h
  have hline : Text.IsLine line := Text.isLine_of_mem_lines (List.mem_of_mem_tail hl)
  unfold valueOf? at hof
  split at hof
  · rename_i given found hc
    split at hof
    · cases hof
      obtain ⟨rfl, -⟩ := Text.cut_eq_some.mp hc
      obtain ⟨before, after, htrim, -⟩ := Text.exists_trim Text.isPadding found
      have hpart : Text.trim Text.isPadding found <:+: found := ⟨before, after, htrim.symm⟩
      have hfound : found <:+ given ++ ':' :: found := ⟨given ++ [':'], by simp⟩
      exact hline.of_infix (hpart.trans hfound.isInfix)
    · cases hof
  · cases hof

/-- Values that are joined make no line end where they meet. -/
theorem isLine_joined {values : List (List Char)} (h : ∀ v ∈ values, Text.IsLine v) :
    Text.IsLine (Text.joinWith [',', ' '] values) := by
  induction values with
  | nil => exact Text.isLine_of_not_mem List.not_mem_nil
  | cons value rest ih =>
    obtain ⟨hv, hrest⟩ := List.forall_mem_cons.mp h
    by_cases hr : rest = []
    · subst hr
      exact hv
    · rw [Text.joinWith_cons _ _ hr, List.append_assoc]
      have hspaced : Text.IsLine (' ' :: Text.joinWith [',', ' '] rest) :=
        (ih hrest).append (by decide : '\r' ∉ [' '])
      exact hv.append_cons hspaced (by decide) (by decide)

end Http.Head

namespace Service

open Http (Fields Request Response)
open Wire (Received Sending)

variable {block : Bytes} {request : Request}

def echoedType (block : Bytes) : String :=
  (Http.Head.joined? (Http.Head.values block "content-type")).getD "application/octet-stream"

theorem echoedType_plain (block : Bytes) :
    Below 256 (echoedType block).toList ∧ Text.IsLine (echoedType block).toList := by
  unfold echoedType Http.Head.joined?
  split
  · exact ⟨by decide, Text.isLine_of_not_mem (by decide)⟩
  · rw [Option.getD_some, String.toList_ofList]
    refine ⟨Text.below_joinWith (by decide) fun v hv => Http.Head.latin_values hv, ?_⟩
    exact Http.Head.isLine_joined fun v hv => Http.Head.isLine_values hv

def echo (type : String) (body : Bytes) : Response where
  headers := Fields.ofPairs [("content-type", type)]
  body := some body
  written := Http.isWritten_ok

theorem values_echo (type name : String) (body : Bytes) :
    Received.values (echo type body).headers.entries name =
      if name = "content-type" then [type] else [] := by
  have hsmall : Http.small "content-type" = "content-type" := by decide +kernel
  rw [Received.values_eq]
  by_cases hn : name = "content-type"
  · simp [echo, Fields.ofPairs, Fields.putAll, Fields.put, Http.Entries.put, hsmall, hn]
  · simp [echo, Fields.ofPairs, Fields.putAll, Fields.put, Http.Entries.put, hsmall, hn, eq_comm]

theorem names_echo (type : String) (body : Bytes) (keepAlive : Bool) (version : String) :
    ((echo type body).sentHeaders keepAlive version).names =
      "Content-Type" :: Response.ownNames keepAlive version := by
  have hgiven : (echo type body).given.map Prod.fst = ["Content-Type"] :=
    congrArg (fun name => [name]) (by decide +kernel : Http.canonicalName "content-type" = "Content-Type")
  rw [Response.names_sentHeaders, hgiven, Response.ownNames]
  cases (Response.fate? keepAlive version).isSome <;> decide

theorem outcome_echoHandler (h : Http.Head.read block = .ok request) (body : Bytes) :
    (echoHandler { request with body }).outcome = .ok (echo (echoedType block) body) := by
  have hfound : request.headers.find? "content-type" =
      Http.Head.joined? (Http.Head.values block "content-type") :=
    Http.Head.find?_of_read h (by decide)
  unfold echoHandler echoedType
  dsimp only
  rw [hfound]
  rfl

theorem told_echo (block body : Bytes) :
    ∀ e ∈ (echo (echoedType block) body).given, Response.Told e := by
  have hname : Http.canonicalName "content-type" = "Content-Type" := by decide +kernel
  obtain ⟨hlatin, hline⟩ := echoedType_plain block
  intro e he
  obtain ⟨entry, hm, rfl⟩ := List.mem_map.mp he
  obtain rfl := List.mem_singleton.mp hm
  refine ⟨?_, hlatin, hline⟩
  dsimp only
  rw [hname]
  exact Response.plain_name "Content-Type" (by decide)

/-- What a client has of a body that is sent back. -/
structure Echoes (sending : Sending) (block body : Bytes) (got : Received) : Prop where
  status : got.status = 200
  names : got.fields.map Prod.fst = "Content-Type" :: Response.ownNames sending.keepAlive sending.version
  type : Received.values got.fields "content-type" = [echoedType block]
  length : Received.values got.fields "content-length" = [toString body.length]
  connection : Received.values got.fields "connection" =
    (Response.fate? sending.keepAlive sending.version).toList
  body : got.body = if sending.headOnly then [] else body

/-- Whatever a request that is read says of the type of its body, the body comes back under it, and
nothing else does. -/
theorem echo_reflected (h : Http.Head.read block = .ok request) (body : Bytes) (keepAlive : Bool)
    (version : String) (headOnly : Bool) : ∃ response output,
      (echoHandler { request with body }).outcome = .ok response ∧
      response.encode keepAlive version headOnly = .ok output ∧
      ∀ rest, ∃ got, Received.read? headOnly (output ++ rest) = some (got, rest) ∧
        Echoes ⟨response, keepAlive, version, headOnly⟩ block body got := by
  let sending : Sending := ⟨echo (echoedType block) body, keepAlive, version, headOnly⟩
  have hascii : sending.response.headers.Ascii :=
    List.forall_mem_singleton.mpr (by decide : Below 128 "content-type".toList)
  have hlists := sending.lists_received hascii
  have hgiven : ∀ name, Received.values sending.response.headers.entries name =
      if name = "content-type" then [echoedType block] else [] := fun name => values_echo _ name body
  have htype := hlists.value "content-type" (by decide) (by decide)
  have hlength := hlists.length
  have hconnection := hlists.connection
  rw [hgiven, if_pos rfl] at htype
  rw [hgiven, if_neg (by decide)] at hlength hconnection
  rw [List.getLast?_nil, Option.or_none] at hconnection
  obtain ⟨output, hencode, hread⟩ := Sending.read?_encode (told_echo block body) hlength
  refine ⟨_, output, outcome_echoHandler h body, hencode, fun rest => ⟨_, hread rest, ?_⟩⟩
  exact {
    status := rfl
    names := names_echo _ body keepAlive version
    type := htype
    length := hlength
    connection := hconnection
    body := rfl }

/-- A type on two lines, of which one ends and the other begins with half of a line end. -/
theorem echo_reflected_halves :
    let block := Bytes.ofString
      "POST /echo HTTP/1.1\r\nHost: a\r\nContent-Type: a\r\r\ncontent-TYPE: \nb"
    let request : Request := {
      method := "POST", path := "/echo", version := "HTTP/1.1"
      headers := { entries := [("host", "a"), ("content-type", "a\r, \nb")] } }
    let body : Bytes := [13, 10, 13, 10]
    Http.Head.read block = .ok request ∧ echoedType block = "a\r, \nb" ∧
      ∃ response output, (echoHandler { request with body }).outcome = .ok response ∧
        response.encode true "HTTP/1.0" false = .ok output ∧
        ∀ rest, ∃ got, Received.read? false (output ++ rest) = some (got, rest) ∧
          Echoes ⟨response, true, "HTTP/1.0", false⟩ block body got := by
  intro block request body
  have hread : Http.Head.read block = .ok request := rfl
  exact ⟨hread, by decide +kernel, echo_reflected hread body true "HTTP/1.0" false⟩

end Service

end FixedReply
