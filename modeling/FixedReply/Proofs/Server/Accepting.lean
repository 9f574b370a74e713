import FixedReply.Proofs.Server.Closing

namespace FixedReply

open Http (Request Response)
open Connection (Parting outcomeRecords)

namespace Failures

variable {p : Failure → Bool} {what kept : Failures} {members : List Failures}

theorem leavesOfAll_append (front back : List Failures) :
    leavesOfAll (front ++ back) = leavesOfAll front ++ leavesOfAll back := by
  induction front with
  | nil => rfl
  | cons t rest ih => rw [List.cons_append, leavesOfAll, leavesOfAll, ih, List.append_assoc]

theorem leavesOfAll_toList (part : Option Failures) :
    leavesOfAll part.toList = part.elim [] leaves := by
  cases part with
  | none => rfl
  | some what => exact List.append_nil what.leaves

mutual

/-- Of the leaves there remain those that are kept, in their order. -/
theorem leaves_only (p : Failure → Bool) :
    (what : Failures) → (what.only p).elim [] leaves = what.leaves.filter p
  | one f => by
    by_cases hf : p f <;> simp [only, leaves, hf]
  | group members => by
    have ih := leavesOfAll_onlyOfAll p members
    rw [only, leaves, ← ih]
    split
    · rename_i hnone
      rw [hnone]
      rfl
    · rfl

theorem leavesOfAll_onlyOfAll (p : Failure → Bool) :
    (members : List Failures) → leavesOfAll (onlyOfAll p members) = (leavesOfAll members).filter p
  | [] => rfl
  | t :: rest => by
    rw [onlyOfAll, leavesOfAll_append, leavesOfAll_toList, leaves_only p t, leavesOfAll_onlyOfAll p rest,
      leavesOfAll, List.filter_append]

end

mutual

/-- No group remains that nothing is left of. -/
theorem leaves_ne_nil (p : Failure → Bool) :
    (what : Failures) → ∀ kept, what.only p = some kept → kept.leaves ≠ []
  | one f => by
    intro kept hk
    rw [only] at hk
    split at hk <;> cases hk
    exact List.cons_ne_nil _ _
  | group members => by
    intro kept hk
    have ih := leaves_ne_nil_of_mem p members
    rw [only] at hk
    split at hk
    · cases hk
    · rename_i hsome
      cases hk
      obtain ⟨t, rest, ht⟩ := List.exists_cons_of_ne_nil hsome
      rw [leaves, ht, leavesOfAll]
      exact fun hnil => ih t (ht ▸ List.mem_cons_self) (List.append_eq_nil_iff.mp hnil).1

theorem leaves_ne_nil_of_mem (p : Failure → Bool) :
    (members : List Failures) → ∀ kept ∈ onlyOfAll p members, kept.leaves ≠ []
  | [] => nofun
  | t :: rest => by
    intro kept hk
    rcases List.mem_append.mp hk with hk | hk
    · exact leaves_ne_nil p t kept (Option.mem_toList.mp hk)
    · exact leaves_ne_nil_of_mem p rest kept hk

end

theorem leaves_of_only (h : what.only p = some kept) : kept.leaves = what.leaves.filter p := by
  rw [← leaves_only, h]
  rfl

/-- Nothing remains exactly if no leaf is kept. -/
theorem only_eq_none_iff : what.only p = none ↔ ∀ f ∈ what.leaves, p f = false := by
  have hleaves := leaves_only p what
  cases hk : what.only p with
  | none =>
    rw [hk] at hleaves
    exact iff_of_true rfl (by simpa using hleaves.symm)
  | some kept =>
    refine iff_of_false nofun fun hall => leaves_ne_nil p what kept hk ?_
    rw [leaves_of_only hk]
    simpa using hall

end Failures

def Record.TellsOfAccepting (record : Record) : Prop :=
  ∃ said, record.message = "accept tcp " ++ said

def Record.OfConnection (record : Record) : Prop :=
  Parting record ∨ ∃ request outcome, record ∈ outcomeRecords request outcome

theorem Record.OfConnection.not_tellsOfAccepting {record : Record} (h : record.OfConnection) :
    ¬ record.TellsOfAccepting := by
  rintro ⟨said, hsaid⟩
  have hinitial : record.message.toList.head? = some 'a' := by
    rw [hsaid, String.toList_append, List.head?_append]
    rfl
  rcases h with hparting | ⟨request, outcome, hr⟩
  · obtain ⟨c, hc, hfirst⟩ := hparting.initial
    rw [hinitial] at hfirst
    cases hfirst
    exact absurd hc (by decide)
  · cases outcome with
    | ok => cases hr
    | error what =>
      have hfirst : record.message.toList.head? = some 'h' := by
        rw [List.mem_singleton.mp hr]
        simp only [String.toList_append, List.append_assoc, List.head?_append]
        rfl
      rw [hinitial] at hfirst
      cases hfirst

namespace Phase

variable {terms : Terms} {handler : Handler} {now : Time} {p q : Phase} {record : Record}

def Parts : Phase → Prop
  | due turn => turn.Parts
  | _ => True

theorem Moves.parts (h : Moves terms handler now p q) : q.Parts := by
  cases h with
  | queues | begins | wakes | closes => trivial
  | ends => exact Connection.parts_reply terms _ _ _

theorem Parts.lastRecords (h : p.Parts) (hr : record ∈ p.lastRecords terms now) :
    record.OfConnection := by
  rcases List.mem_append.mp hr with hr | hr
  · cases p with
    | due | waiting | closed => cases hr
    | handling ends request outcome wire =>
      simp only [answerRecords] at hr
      split at hr
      · exact .inr ⟨request, outcome, hr⟩
      · cases hr
  · have hparts : (p.answer terms now).Parts := keeps_answer (Handler.always {}) h Moves.parts
    generalize p.answer terms now = q at hparts hr
    cases q with
    | waiting | handling | closed => cases hr
    | due turn =>
      cases turn with
      | call => cases hr
      | close records wire =>
        simp only [closeRecords] at hr
        split at hr
        · exact .inl (hparts record hr)
        · cases hr

theorem parts_shut (cut : Wire → Wire) (phase : Phase) : (phase.shut cut).Parts := by
  cases phase <;> trivial

end Phase

namespace Traffic

variable {terms : Terms} {handler : Handler} {cutoff : Option Cutoff} {turns : List Turn} {now : Time}
  {i : Nat} {start traffic next : Traffic} {closed : List (Nat × Wire)}

structure OfConnections (traffic : Traffic) : Prop where
  parts : ∀ phase ∈ traffic.phases, phase.Parts
  records : ∀ record ∈ traffic.records, record.OfConnection

theorem OfConnections.stepped (h : OfConnections traffic)
    (hs : Stepped terms handler traffic now i next) : OfConnections next := by
  refine ⟨fun q hq => ?_, fun record hr => ?_⟩
  · obtain ⟨j, hj⟩ := List.getElem?_of_mem hq
    have hlt : j < traffic.phases.length := hs.advance.length ▸ (List.getElem?_eq_some_iff.mp hj).1
    obtain ⟨q', hq', hor⟩ := hs.advance.each j _ (List.getElem?_eq_getElem hlt)
    cases hj.symm.trans hq'
    rcases hor with rfl | hm
    · exact h.parts _ (List.getElem_mem hlt)
    · exact hm.parts
  · rcases hs.records_mem record hr with hr | ⟨phase, hp, hr⟩
    · exact h.records record hr
    · exact (h.parts phase hp).lastRecords hr

/-- To close all connections leaves no other records either. -/
theorem OfConnections.shut (h : OfConnections traffic) {records : List Record}
    (hr : ∀ record ∈ records, record.OfConnection) (cut : Wire → Wire) (settle : Phase → Phase) :
    OfConnections ((traffic.log records).shut fun phase => (settle phase).shut cut) := by
  refine ⟨fun q hq => ?_, fun record hm => ?_⟩
  · obtain ⟨phase, -, rfl⟩ := List.mem_map.mp hq
    exact Phase.parts_shut cut (settle phase)
  · rcases List.mem_append.mp hm with hm | hm
    · exact hr record (List.mem_reverse.mp hm)
    · exact h.records record hm

theorem Passes.ofConnections (h : Passes terms handler cutoff start closed now traffic)
    (h₀ : Orderly terms handler cutoff turns 0 start) (hstart : OfConnections start) :
    OfConnections traffic := by
  refine h.keeps h₀ hstart (fun _ _ hs ho => ho.stepped hs) (fun _ _ _ ho => ?_) fun _ _ _ ho => ?_
  · exact ho.shut (show ∀ record ∈ ([] : List Record), record.OfConnection from nofun) _ id
  · refine ho.shut (fun record hr => ?_) _ _
    obtain ⟨phase, hp, hr⟩ := List.mem_flatMap.mp hr
    exact (ho.parts phase hp).lastRecords hr

end Traffic

/-- All records of a session are left by its connections. -/
theorem Network.ofConnection_records (network : Network) (workers : Nat) (terms : Terms)
    (handler : Handler) :
    ∀ record ∈ (network.serve workers terms handler).records, record.OfConnection := by
  obtain ⟨closed, now, hpasses⟩ := network.passes_serve workers terms handler
  have hopening : Traffic.OfConnections (network.opening workers terms) := by
    refine ⟨fun phase hp => ?_, nofun⟩
    obtain ⟨⟨accepted, client⟩, -, rfl⟩ := List.mem_map.mp hp
    exact Connection.parts_readTurn terms (client.wire accepted)
  intro record hr
  have hall := hpasses.ofConnections (network.orderly_opening workers terms handler) hopening
  exact hall.records record (List.mem_reverse.mp hr)

namespace Server

variable {server : Server} {listener : Listener} {network : Network} {workers : Nat} {what : Failures}

/-- How failures are accounted for with which accepting ends. The listener is closed. Each failure of the
system is logged once, from left to right, and the session has told of none; if there is one the state is
failed, else it is still serving. The others are raised again, all of them and in their order, unless
there are none. -/
structure AccountsFor (host : String) (listener : Listener) (session : Session) (what : Failures)
    (report : Report) (after : Server) : Prop where
  closed : after.listener = some { listener with isOpen := false }
  logged : report.records = session.records ++
    (what.leaves.filter Failure.isSystem).map (acceptRecord host listener.port)
  untold : ∀ record ∈ session.records, ¬ record.TellsOfAccepting
  failed : after.state = .failed ↔ ∃ f ∈ what.leaves, f.isSystem = true
  serving : after.state = .serving ↔ ∀ f ∈ what.leaves, f.isSystem = false
  done : report.finish = .done ↔ ∀ f ∈ what.leaves, f.isSystem = true
  raised : ∀ f ∈ what.leaves, f.isSystem = false →
    ∃ others, report.finish = .raised others ∧ others.leaves = what.leaves.filter (!·.isSystem)

/-- A session that ends in failures leaves what is made of them. -/
theorem conclude_failed {session : Session} (hs : server.state = .serving)
    (he : session.ending = .failed what) (hu : ∀ record ∈ session.records, ¬ record.TellsOfAccepting) :
    AccountsFor server.settings.host listener session what (server.conclude listener session).1
      (server.conclude listener session).2 := by
  obtain ⟨state, hafter⟩ := server.conclude_eq listener session
  have hfinish : (server.conclude listener session).1.finish =
      (what.only (!·.isSystem)).elim .done .raised := by
    unfold conclude
    rw [he]
    rfl
  have hstate : (server.conclude listener session).2.state =
      if (what.only Failure.isSystem).isNone then .serving else .failed := by
    unfold conclude
    rw [he]
    dsimp only [settle]
    split
    · exact hs
    · rfl
  have hcaught : what.only Failure.isSystem = none ↔ ∀ f ∈ what.leaves, f.isSystem = false :=
    Failures.only_eq_none_iff
  have hothers : what.only (!·.isSystem) = none ↔ ∀ f ∈ what.leaves, f.isSystem = true := by
    simp [Failures.only_eq_none_iff]
  refine ⟨by rw [hafter], ?_, hu, ?_, ?_, ?_, fun f hf hn => ?_⟩
  · rw [← Failures.leaves_only]
    unfold conclude
    rw [he]
    rfl
  · rw [hstate]
    cases hc : what.only Failure.isSystem with
    | none => simpa using hcaught.mp hc
    | some caught => simpa [hc] using hcaught
  · rw [hstate, ← hcaught]
    cases what.only Failure.isSystem <;> simp
  · rw [hfinish, ← hothers]
    cases what.only (!·.isSystem) <;> simp
  · cases ho : what.only (!·.isSystem) with
    | none => exact absurd (hothers.mp ho f hf) (by simp [hn])
    | some others =>
      rw [ho] at hfinish
      exact ⟨others, hfinish, Failures.leaves_of_only ho⟩

/-- Whatever tree of failures ends accepting, serving accounts for each of its leaves. -/
theorem serve_accountsFor (hs : server.state = .listening)
    (hw : server.settings.workers = .whole workers) (hl : server.listener = some listener)
    (he : (network.serve workers server.settings.terms server.handler).ending = .failed what) :
    AccountsFor server.settings.host listener
      (network.serve workers server.settings.terms server.handler) what (server.serve network).1
      (server.serve network).2 := by
  have hserve : server.serve network = (server.begun workers).conclude listener
      (network.serve workers server.settings.terms server.handler) := by
    simp [serve, begin, hs, hw, hl, begun]
  have hsilent : ∀ record ∈ (network.serve workers server.settings.terms server.handler).records,
      ¬ record.TellsOfAccepting :=
    fun record hr => (network.ofConnection_records _ _ _ record hr).not_tellsOfAccepting
  rw [hserve]
  exact conclude_failed (rfl : (server.begun workers).state = .serving) he hsilent

def mixed : Failures := .group [
  .one (.system (.coded 24 "Too many open files")),
  .group [.one (.value "boom"), .one (.system (.note "gone"))]]

def torn : Network where
  clients := [{ events := [{ what := .data (Bytes.ofString "GET / HTTP/1.1\r\nHost: a\r\n\r\n") }] }]
  acceptFailure := some (3, mixed)

/-- Both failures of the system are logged, and the other one is raised in the groups that it came in. -/
theorem serve_accountsFor_mixed :
    let server : Server := {
      settings := {}, handler := Network.slow, state := .listening, listener := some { port := 80 } }
    let enclosed : Failures := .group [.group [mixed]]
    server.state = .listening ∧ server.settings.workers = .whole (1 : Nat) ∧
      server.listener = some { port := 80 } ∧
      (torn.serve 1 server.settings.terms server.handler).ending = .failed enclosed ∧
      AccountsFor "127.0.0.1" { port := 80 } (torn.serve 1 server.settings.terms server.handler) enclosed
        (server.serve torn).1 (server.serve torn).2 ∧
      (server.serve torn).1.records.map Record.message =
        ["accept tcp 127.0.0.1:80: [Errno 24] Too many open files", "accept tcp 127.0.0.1:80: gone"] ∧
      (server.serve torn).1.finish = .raised (.group [.group [.group [.group [.one (.value "boom")]]]]) ∧
      (server.serve torn).2.state = .failed := by
  intro server enclosed
  have hending : (torn.serve 1 server.settings.terms server.handler).ending = .failed enclosed := rfl
  exact ⟨rfl, rfl, rfl, hending, serve_accountsFor rfl rfl rfl hending, by decide +kernel, rfl, rfl⟩

end Server

end FixedReply
