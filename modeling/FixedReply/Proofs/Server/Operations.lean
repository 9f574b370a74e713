import FixedReply.Server.Lifecycle
import Mathlib.Data.List.Chain
import Mathlib.Logic.Relation

namespace FixedReply

inductive Operation
  | bind
  | serve
  | run
  deriving DecidableEq, Repr

namespace Server

variable {server next : Server} {network : Network} {operation : Operation}

inductive Change (server : Server) : Server → Prop
  | listens (port : Int) (hs : server.state = .unstarted) :
      Change server { server with state := .listening, listener := some { port } }
  | refused (hs : server.state = .unstarted) : Change server { server with state := .failed }
  | begins (workers : Nat) (hw : server.settings.workers = .whole workers)
      (hs : server.state = .listening) :
      Change server { server with state := .serving, tokens := some workers }
  | closes (listener : Listener) (hs : server.state = .serving) :
      Change server { server with listener := some listener }
  | breaks (listener : Listener) (hs : server.state = .serving) :
      Change server { server with state := .failed, listener := some listener }

def servePasses (server : Server) (network : Network) : List Server :=
  match server.begin with
  | .error _ => [server]
  | .ok (_, begun) => [server, begun, (server.serve network).2]

def passes (server : Server) (network : Network) : Operation → List Server
  | .bind => [server, (server.bind network).2]
  | .serve => server.servePasses network
  | .run =>
    match (server.bind network).1.finish with
    | .done => server :: (server.bind network).2.servePasses network
    | _ => [server, (server.bind network).2]

def perform (server : Server) (network : Network) : Operation → Report × Server
  | .bind => server.bind network
  | .serve => server.serve network
  | .run => server.run network

inductive Binds (server : Server) (network : Network) : Report → Server → Prop
  | misplaced (hs : server.state ≠ .unstarted) :
      Binds server network
        { finish := .raised (misuse s!"cannot bind a server in state {server.state.name}") } server
  | refused {what : Failures} (hs : server.state = .unstarted)
      (hf : network.bindFailure = some what) (hw : isSystemFailure what) :
      Binds server network
        { finish := .raised what, attempts := [(server.settings.host, server.settings.port)] }
        { server with state := .failed }
  | upset {what : Failures} (hs : server.state = .unstarted)
      (hf : network.bindFailure = some what) (hw : ¬ isSystemFailure what) :
      Binds server network
        { finish := .raised what, attempts := [(server.settings.host, server.settings.port)] } server
  | bound (port : Int) (hs : server.state = .unstarted) (hf : network.bindFailure = none) :
      Binds server network { attempts := [(server.settings.host, server.settings.port)] }
        { server with state := .listening, listener := some { port } }

theorem binds (server : Server) (network : Network) :
    Binds server network (server.bind network).1 (server.bind network).2 := by
  unfold bind
  split
  · rename_i hs
    exact .misplaced hs
  · rename_i hs
    rw [not_not] at hs
    split
    · rename_i hf
      split
      · rename_i hw
        exact .refused hs hf hw
      · rename_i hw
        exact .upset hs hf hw
    · rename_i hf
      exact .bound _ hs hf

def begun (server : Server) (workers : Nat) : Server :=
  { server with state := .serving, tokens := some workers }

inductive Serves (server : Server) (network : Network) : List Server → Report → Server → Prop
  | misplaced (hs : server.state ≠ .listening) :
      Serves server network [server]
        { finish := .raised (misuse s!"cannot serve from state {server.state.name}") } server
  | untaken (hs : server.state = .listening) :
      Serves server network [server]
        { finish := .raised (.one (noTokens server.settings.workers)) } server
  | unbound {workers : Nat} (hs : server.state = .listening)
      (hw : server.settings.workers = .whole workers) (hl : server.listener = none) :
      Serves server network [server, server.begun workers, server.begun workers]
        { finish := .raised (misuse "HttpServer is not bound") } (server.begun workers)
  | served {workers : Nat} {listener : Listener} {report : Report} {after : Server}
      (hs : server.state = .listening) (hw : server.settings.workers = .whole workers)
      (hl : server.listener = some listener)
      (hc : (server.begun workers).conclude listener
        (network.serve workers server.settings.terms server.handler) = (report, after)) :
      Serves server network [server, server.begun workers, after] report after

inductive Performs (server : Server) (network : Network) :
    Operation → List Server → Report → Server → Prop
  | bind {report : Report} {after : Server} (hb : Binds server network report after) :
      Performs server network .bind [server, after] report after
  | serve {passes : List Server} {report : Report} {after : Server}
      (hs : Serves server network passes report after) :
      Performs server network .serve passes report after
  | unbound {report : Report} {after : Server} {finish : Finish} {records : List Record}
      (hb : Binds server network report after) (hd : report.finish ≠ .done)
      (hf : finish = report.finish ∨ ∃ fault, report.finish = .raised (.one (.system fault))) :
      Performs server network .run [server, after] { report with finish, records } after
  | run {passes : List Server} {bound report : Report} {listening after : Server}
      {started : Option Int} {records : List Record}
      (hb : Binds server network bound listening) (hd : bound.finish = .done)
      (hs : Serves listening network passes report after) :
      Performs server network .run (server :: passes)
        { report with started, attempts := bound.attempts, records } after

theorem conclude_report (server : Server) (listener : Listener) (session : Session) :
    (server.conclude listener session).1.attempts = [] ∧
      (server.conclude listener session).1.visits = session.visits ∧
      (server.conclude listener session).1.calls = session.calls ∧
      (server.conclude listener session).2.tokens = server.tokens := by
  unfold conclude
  dsimp only
  split
  · exact ⟨rfl, rfl, rfl, rfl⟩
  · exact ⟨rfl, rfl, rfl, rfl⟩
  · dsimp only
    split <;> exact ⟨rfl, rfl, rfl, rfl⟩

theorem change_conclude (listener : Listener) (session : Session) (hs : server.state = .serving) :
    Change server (server.conclude listener session).2 := by
  unfold conclude
  dsimp only
  split
  · exact .closes _ hs
  · exact .closes _ hs
  · dsimp only
    split
    · exact .closes _ hs
    · exact .breaks _ hs

section

variable {passes : List Server} {report : Report} {after : Server}

theorem Binds.changes (h : Binds server network report after) :
    Relation.ReflGen Change server after := by
  cases h with
  | misplaced | upset => exact .refl
  | refused hs => exact .single (.refused hs)
  | bound port hs => exact .single (.listens port hs)

theorem Binds.changes_bound (h : Binds server network report after) (hd : report.finish = .done) :
    ∃ port, server.state = .unstarted ∧ network.bindFailure = none ∧
      after = { server with state := .listening, listener := some { port } } := by
  cases h with
  | misplaced | refused | upset => cases hd
  | bound port hs hf => exact ⟨port, hs, hf, rfl⟩

/-- A way from one server to another, by one change at a time. -/
structure Way (server : Server) (passes : List Server) (after : Server) : Prop where
  first : passes.head? = some server
  last : passes.getLast? = some after
  steps : passes.IsChain (Relation.ReflGen Change)

theorem Way.cons {before : Server} (way : Way server passes after)
    (h : Relation.ReflGen Change before server) : Way before (before :: passes) after := by
  obtain ⟨rest, rfl⟩ := List.head?_eq_some_iff.mp way.first
  exact ⟨rfl, way.last, .cons_cons h way.steps⟩

/-- What every change keeps, a way keeps. -/
theorem Way.keeps (way : Way server passes after) {p : Server → Prop}
    (hp : ∀ {s next : Server}, Change s next → p s → p next) (h : p server) :
    (∀ s ∈ passes, p s) ∧ p after := by
  have hall : ∀ s ∈ passes, p s := by
    refine way.steps.induction p passes (fun one next hc h => ?_) fun hne => ?_
    · cases hc with
      | refl => exact h
      | single hc => exact hp hc h
    · have hf := way.first
      rw [List.head?_eq_some_head hne] at hf
      rw [Option.some.inj hf]
      exact h
  exact ⟨hall, hall _ (List.mem_of_getLast? way.last)⟩

theorem Way.nil : Way server [server] server := ⟨rfl, rfl, .singleton _⟩

theorem Serves.way (h : Serves server network passes report after) : Way server passes after := by
  cases h with
  | misplaced | untaken => exact .nil
  | unbound hs hw hl => exact (Way.nil.cons .refl).cons (.single (.begins _ hw hs))
  | @served workers listener _ _ hs hw hl hc =>
    have hconclude : Change (server.begun workers) after := by
      have hchange := change_conclude listener
        (network.serve workers server.settings.terms server.handler)
        (rfl : (server.begun workers).state = .serving)
      rw [hc] at hchange
      exact hchange
    exact (Way.nil.cons (.single hconclude)).cons (.single (.begins _ hw hs))

/-- An operation makes its way from the server that is asked to the one that it leaves. -/
theorem Performs.way (h : Performs server network operation passes report after) :
    Way server passes after := by
  cases h with
  | bind hb => exact Way.nil.cons hb.changes
  | serve hs => exact hs.way
  | unbound hb => exact Way.nil.cons hb.changes
  | run hb hd hs => exact hs.way.cons hb.changes

theorem Binds.misplaced_of_ne (h : Binds server network report after)
    (hs : server.state ≠ .unstarted) :
    (∃ text, report.finish = .raised (.one (.runtime text))) ∧ report.attempts = [] ∧
      after = server := by
  cases h with
  | misplaced => exact ⟨⟨_, rfl⟩, rfl, rfl⟩
  | refused hu | upset hu | bound _ hu => exact absurd hu hs

/-- An operation that is asked for out of place is refused, and nothing else happens. -/
theorem Performs.misplaced (h : Performs server network operation passes report after)
    (hs : server.state ≠ if operation = .serve then .listening else .unstarted) :
    (∃ text, report.finish = .raised (.one (.runtime text))) ∧ report.attempts = [] ∧
      after = server := by
  cases h with
  | bind hb => exact hb.misplaced_of_ne hs
  | serve hserve =>
    cases hserve with
    | misplaced => exact ⟨⟨_, rfl⟩, rfl, rfl⟩
    | untaken h | unbound h | served h => exact absurd h hs
  | unbound hb _ hf =>
    obtain ⟨⟨text, ht⟩, ha, rfl⟩ := hb.misplaced_of_ne hs
    rcases hf with rfl | ⟨fault, hf⟩
    · exact ⟨⟨text, ht⟩, ha, rfl⟩
    · rw [ht] at hf
      cases hf
  | run hb hd =>
    obtain ⟨_, hu, _⟩ := hb.changes_bound hd
    exact absurd hu hs

theorem Change.started (h : Change server next) : next.state ≠ .unstarted := by
  cases h with
  | closes _ hs => exact fun he => nomatch hs.symm.trans he
  | listens | refused | begins | breaks => exact nofun

theorem Change.isSome_listener (h : Change server next) (hl : server.listener.isSome) :
    next.listener.isSome := by
  cases h with
  | refused | begins => exact hl
  | listens | closes | breaks => rfl

theorem Serves.attempts (h : Serves server network passes report after) : report.attempts = [] := by
  cases h with
  | misplaced | untaken | unbound => rfl
  | @served workers listener _ _ _ _ _ hc =>
    obtain ⟨ha, _⟩ := (server.begun workers).conclude_report listener
      (network.serve workers server.settings.terms server.handler)
    rw [hc] at ha
    exact ha

/-- Serving neither gets hold of a port nor lets go of it. -/
theorem Serves.listener (h : Serves server network passes report after) :
    (∀ s ∈ passes, s.listener.isSome = server.listener.isSome) ∧
      after.listener.isSome = server.listener.isSome := by
  have hway := h.way
  cases h with
  | misplaced | untaken => simp
  | unbound => simp [begun]
  | served _ _ hl _ =>
    have hsome := hway.keeps Change.isSome_listener (by rw [hl]; rfl)
    simpa [hl] using hsome

theorem Binds.listener (h : Binds server network report after) :
    after.listener.isSome ↔
      server.listener.isSome ∨ report.attempts ≠ [] ∧ network.bindFailure = none := by
  cases h with
  | misplaced => simp
  | refused _ hf | upset _ hf => simp [hf]
  | bound _ _ hf => simp [hf]

theorem Performs.listener (h : Performs server network operation passes report after) :
    ∀ s ∈ after :: passes.tail, s.listener.isSome ↔
      server.listener.isSome ∨ report.attempts ≠ [] ∧ network.bindFailure = none := by
  cases h with
  | bind hb => simpa using hb.listener
  | serve hs =>
    intro s hm
    obtain ⟨hpasses, hafter⟩ := hs.listener
    have hsame : s.listener.isSome = server.listener.isSome := by
      rcases List.mem_cons.mp hm with rfl | hm
      · exact hafter
      · exact hpasses s (List.mem_of_mem_tail hm)
    simp [hsame, hs.attempts]
  | unbound hb => simpa using hb.listener
  | run hb hd hs =>
    intro s hm
    obtain ⟨port, _, hf, rfl⟩ := hb.changes_bound hd
    have hsome := hs.way.keeps Change.isSome_listener rfl
    have hthis : s.listener.isSome := by
      rcases List.mem_cons.mp hm with rfl | hm
      · exact hsome.2
      · exact hsome.1 s hm
    have hlistener := hb.listener
    exact iff_of_true hthis (hlistener.mp rfl)

/-- Only from the start is a port tried. -/
theorem Performs.unstarted (h : Performs server network operation passes report after)
    (ha : report.attempts ≠ []) : server.state = .unstarted := by
  by_contra hs
  cases h with
  | bind hb | unbound hb | run hb => exact ha (hb.misplaced_of_ne hs).2.1
  | serve hserve => exact ha hserve.attempts

end

/-- What is left of a session that ends: its listener is closed, and nothing else of the server changes
but the state. -/
theorem conclude_eq (server : Server) (listener : Listener) (session : Session) :
    ∃ state, (server.conclude listener session).2 =
      { server with state, listener := some { listener with isOpen := false } } := by
  unfold conclude
  dsimp only
  split
  · exact ⟨_, rfl⟩
  · exact ⟨_, rfl⟩
  · dsimp only
    split <;> exact ⟨_, rfl⟩

theorem conclude_records (server : Server) (listener : Listener) (session : Session) :
    ∃ faults : List Failure, (server.conclude listener session).1.records =
      session.records ++ faults.map (acceptRecord server.settings.host listener.port) := by
  unfold conclude
  dsimp only
  split
  · exact ⟨[], (List.append_nil _).symm⟩
  · exact ⟨[], (List.append_nil _).symm⟩
  · exact ⟨_, rfl⟩

def listenRecord (host : String) (port : Int) : Record :=
  record .info s!"Listening on http://{host}:{port}"

structure FirstRun (server : Server) (workers : Nat) (network : Network) (report : Report)
    (after : Server) : Prop where
  attempts : report.attempts = [(server.settings.host, server.settings.port)]
  visits : report.visits = (network.serve workers server.settings.terms server.handler).visits
  calls : report.calls = (network.serve workers server.settings.terms server.handler).calls
  records : ∃ (port : Int) (faults : List Failure), report.records = listenRecord server.settings.host port ::
    ((network.serve workers server.settings.terms server.handler).records ++
      faults.map (acceptRecord server.settings.host port))
  ends : ∃ state port, after = { server with
    state, listener := some { port, isOpen := false }, tokens := some workers }

theorem firstRun {workers : Nat} (hs : server.state = .unstarted)
    (hw : server.settings.workers = .whole workers) (hf : network.bindFailure = none) :
    FirstRun server workers network (server.run network).1 (server.run network).2 := by
  let listening (port : Int) : Server := { server with state := .listening, listener := some { port } }
  obtain ⟨port, hb⟩ : ∃ port, server.bind network =
      ({ attempts := [(server.settings.host, server.settings.port)] }, listening port) := by
    simp [bind, hs, hf, listening]
  have hserve : (listening port).serve network = ((listening port).begun workers).conclude { port }
      (network.serve workers server.settings.terms server.handler) := by
    simp [serve, begin, hw, begun, listening]
  obtain ⟨-, hvisits, hcalls, -⟩ := conclude_report ((listening port).begun workers) { port }
    (network.serve workers server.settings.terms server.handler)
  obtain ⟨state, hends⟩ := conclude_eq ((listening port).begun workers) { port }
    (network.serve workers server.settings.terms server.handler)
  obtain ⟨faults, hrecords⟩ := conclude_records ((listening port).begun workers) { port }
    (network.serve workers server.settings.terms server.handler)
  rw [← hserve] at hvisits hcalls hends hrecords
  have hrun : (server.run network).1.attempts = [(server.settings.host, server.settings.port)] ∧
      (server.run network).1.visits = ((listening port).serve network).1.visits ∧
      (server.run network).1.calls = ((listening port).serve network).1.calls ∧
      (server.run network).1.records =
        listenRecord ((listening port).serve network).2.settings.host port ::
          ((listening port).serve network).1.records ∧
      (server.run network).2 = ((listening port).serve network).2 := by
    unfold run
    rw [hb]
    exact ⟨rfl, rfl, rfl, rfl, rfl⟩
  obtain ⟨hattempts, hv, hc, hr, ha⟩ := hrun
  rw [hrecords, hends] at hr
  exact ⟨hattempts, hv.trans hvisits, hc.trans hcalls, ⟨port, faults, hr⟩, state, port, ha.trans hends⟩

/-- The first run of a server whose port is refused. -/
theorem firstRun_refused {what : Failures} (hs : server.state = .unstarted)
    (hf : network.bindFailure = some what) :
    (server.run network).1.attempts = [(server.settings.host, server.settings.port)] ∧
      ∃ state, (server.run network).2 = { server with state } := by
  have hb : server.bind network =
      ({ finish := .raised what, attempts := [(server.settings.host, server.settings.port)] },
        if isSystemFailure what then { server with state := .failed } else server) := by
    simp [bind, hs, hf]
  have hafter : ∃ state, (if isSystemFailure what then { server with state := .failed } else server) =
      { server with state } := by
    split
    · exact ⟨_, rfl⟩
    · exact ⟨server.state, rfl⟩
  unfold run
  rw [hb]
  dsimp only
  split
  · exact ⟨rfl, hafter⟩
  · contradiction
  · exact ⟨rfl, hafter⟩

end Server

end FixedReply
