import FixedReply.Proofs.Server.Life
import FixedReply.Proofs.Server.Turns

namespace FixedReply

open Http (Request Response)
open Wire (Supply Did outcome)
open Connection (Closing Turned Replied readTurn reply responseTo answer)

/-- A connection on a wire that has these bytes may come to be closed with the second wire. -/
inductive Course (supply : Supply) (limits : Limits) (handler : Handler) :
    Bytes → Wire → Wire → Prop
  | closes {bytes : Bytes} {wire final : Wire} (how : Closing supply limits bytes wire final) :
      Course supply limits handler bytes wire final
  | lacks {bytes : Bytes} {wire final : Wire} {said : List Act} (h : supply.lacks)
      (ho : outcome limits .start bytes = (said, .lost)) :
      Course supply limits handler bytes wire final
  | unanswered {bytes rest : Bytes} {wire final : Wire} {said : List Act} {request : Request}
      (ho : outcome limits .start bytes = (said, .read request rest)) (hl : Lead said)
      (he : (∃ what, answer request (responseTo (handler request).outcome) = .error what) ∨ final.Mute)
      (did : Did (said ++ [.called request]) wire final) :
      Course supply limits handler bytes wire final
  | last {bytes rest data : Bytes} {wire final : Wire} {said : List Act} {request : Request}
      (ho : outcome limits .start bytes = (said, .read request rest)) (hl : Lead said)
      (he : answer request (responseTo (handler request).outcome) = .ok data)
      (hk : request.keepAlive = false)
      (did : Did (said ++ [.called request, .sent data]) wire final) :
      Course supply limits handler bytes wire final
  | on {bytes rest data : Bytes} {wire next final : Wire} {said : List Act} {request : Request}
      (ho : outcome limits .start bytes = (said, .read request rest)) (hl : Lead said)
      (he : answer request (responseTo (handler request).outcome) = .ok data)
      (hk : request.keepAlive = true)
      (did : Did (said ++ [.called request, .sent data]) wire next)
      (onward : Course supply limits handler rest next final) :
      Course supply limits handler bytes wire final

variable {supply : Supply} {terms : Terms} {handler : Handler} {bytes : Bytes} {wire final : Wire}

/-- Every life is a course, whatever its wire has. -/
theorem Life.course {turn : Turn} (life : Life terms handler turn final)
    (ht : Turned supply terms.limits bytes wire turn) :
    Course supply terms.limits handler bytes wire final := by
  induction life generalizing bytes wire with
  | close records final =>
    cases ht with
    | closes _ how => exact .closes how
    | lacks h ho => exact .lacks h ho
  | @call request next final start life ih =>
    cases ht with
    | lacks h ho => exact .lacks h ho
    | @calls said _ rest _ ho hl did has =>
      have hcall : Did [.called request] next
          (((next.resume start).note (.called request)).later (start + (handler request).delay)) :=
        ⟨by simp [Wire.later, Wire.resume, Wire.note, Wire.dialogue, Act.isReception], rfl⟩
      have hhas := supply.timed (supply.note (supply.timed has start start next.deadline)
        (.called request)) start (start + (handler request).delay) next.deadline
      have hr := Connection.replied terms request (responseTo (handler request).outcome) hhas
      change Replied _ _ _ _ _ _ (reply terms request _ (((next.resume start).note
        (.called request)).later (start + (handler request).delay))) at hr
      have hd := did.trans hcall
      generalize hturn : reply terms request (responseTo (handler request).outcome)
        (((next.resume start).note (.called request)).later (start + (handler request).delay)) =
        turn at hr life
      cases hr with
      | unencodable he records =>
        cases life
        exact .unanswered ho hl (.inl ⟨_, he⟩) hd
      | unsent hm records =>
        cases life
        exact .unanswered ho hl (.inr hm) hd
      | last he hk hs records =>
        cases life
        exact .last ho hl he hk (by simpa using hd.trans hs)
      | on he hk hs turned =>
        subst hturn
        exact .on ho hl he hk (by simpa using hd.trans hs) (ih turned)

/-- The course of a connection whose first turn is about to come. -/
theorem Life.course_readTurn (life : Life terms handler (readTurn terms wire) final)
    (has : supply.Has wire bytes) : Course supply terms.limits handler bytes wire final :=
  life.course (Connection.turned_readTurn terms has)

theorem ne_nil_of_mem_pieces {n : Nat} {bytes piece : Bytes} (hne : bytes ≠ [])
    (h : piece ∈ bytes.pieces n) : piece ≠ [] := by
  fun_induction Bytes.pieces n bytes with
  | case1 bytes => exact List.mem_singleton.mp h ▸ hne
  | case2 bytes hlong ih =>
    rcases List.mem_cons.mp h with rfl | h
    · exact mt List.take_eq_nil_iff.mp (not_or.mpr ⟨Nat.succ_ne_zero n, hne⟩)
    · refine ih (mt List.drop_eq_nil_iff.mp ?_) h
      omega

/-- To receive no more than so many bytes at a time loses none of them. -/
theorem upcoming_receptions (events : List Event) :
    Wire.upcoming (events.flatMap Event.receptions) = Wire.upcoming events := by
  induction events with
  | nil => rfl
  | cons event rest ih =>
    obtain ⟨due, what⟩ := event
    rw [List.flatMap_cons]
    cases what with
    | failure what => rfl
    | data bytes =>
      by_cases hne : bytes = []
      · subst hne
        simp [Event.receptions, Bytes.pieces, Wire.upcoming]
      · have hpieces : ∀ piece ∈ (bytes.pieces (Event.receiveLimit - 1)).map (Prod.mk due), piece.2 ≠ [] :=
          List.forall_mem_map.mpr fun piece hp => ne_nil_of_mem_pieces hne hp
        have hall := Wire.upcoming_append _ hpieces (rest.flatMap Event.receptions)
        have hone := Wire.upcoming_append [(due, bytes)] (List.forall_mem_singleton.mpr hne) rest
        simp only [List.map_cons, List.map_nil, List.flatten_singleton, List.singleton_append] at hone
        rw [hone, ← ih]
        simpa [Event.receptions, Function.comp_def, Bytes.flatten_pieces] using hall

/-- All that lies ahead of a client's wire is what its events bring. -/
theorem Client.ahead_wire (client : Client) (accepted : Time) :
    (client.wire accepted).ahead = Wire.upcoming client.events := by
  rw [Wire.ahead, Client.wire, List.nil_append, upcoming_receptions]

end FixedReply
