import FixedReply.Command
import FixedReply.Proofs.Config
import FixedReply.Proofs.Server.Operations
import FixedReply.Proofs.Text.Numeral

namespace FixedReply

namespace Program

variable {program : Program} {count read : Value} {value : String} {extras : List String}
  {words : List (String × Word)}

inductive IsCount : Value → Prop
  | missing : IsCount .nothing
  | dashes : IsCount .emptyList
  | whole {n : Int} (written : Text.IsWritten n) : IsCount (.int n)

theorem isCount_of_readCount (h : readCount value = .ok read) : IsCount read := by
  unfold readCount at h
  split at h
  · cases h
    exact .dashes
  · split at h <;> cases h
    rename_i hn
    exact .whole (Text.isWritten_of_int hn)

theorem helpTail_ne_run (oneDash : Bool) (attached : List Char) :
    program.helpTail oneDash attached ≠ .run read := by
  induction attached with
  | nil => exact Parse.noConfusion
  | cons letter rest ih =>
    unfold helpTail
    dsimp only
    split
    · exact Parse.noConfusion
    · split
      · exact Parse.noConfusion
      · split
        · exact Parse.noConfusion
        · exact ih

/-- The count that is read is the one at the start, or one that a word gives. -/
theorem isCount_of_consume (hc : IsCount count) (h : program.consume count extras words = .run read) :
    IsCount read := by
  fun_induction consume program count extras words with
  | case1 count extras he =>
    cases h
    exact hc
  | case2 => cases h
  | case3 => cases h
  | case4 => exact absurd h (helpTail_ne_run _ _)
  | case5 count extras word name value rest next hv ih => exact ih (isCount_of_readCount hv) h
  | case6 => cases h
  | case7 count extras word name value rest next hv ih => exact ih (isCount_of_readCount hv) h
  | case8 => cases h
  | case9 => cases h
  | case10 count extras word kind rest _ _ _ _ _ ih => exact ih hc h

theorem isCount_of_parse {arguments : List String} (h : program.parse arguments = .run read) :
    IsCount read := by
  unfold parse at h
  split at h
  · cases h
  · exact isCount_of_consume .missing h

end Program

namespace Config

variable {count : Value} {n : Int}

/-- A positive count is all that a configuration needs. -/
theorem ofWorkerCount_int (h : 0 < n) : ofWorkerCount (.int n) = .ok { workerCount := .int n } := by
  have hc : check { workerCount := .int n } = .ok () := by
    simp only [check, checkCount, Value.isCount, h]
    rfl
  simp [ofWorkerCount, checked, hc]

def quoted? : Value → Option String
  | .nothing => none
  | count => count.literal?

/-- Any other count that can be written is refused, with a rule that says what it must be. -/
theorem ofWorkerCount_other (h : ∀ n, count = .int n → n ≤ 0 ∧ Text.IsWritten n) :
    ofWorkerCount count = .error (.workerCount (quoted? count)) := by
  unfold ofWorkerCount
  split
  · subst count
    rfl
  · rename_i hsome
    have hno : count.isCount = false := by
      cases count with
      | int n => simpa [Value.isCount] using (h n rfl).1
      | _ => rfl
    have hq : quoted? count = count.literal? := by
      cases count <;> first | rfl | exact absurd rfl hsome
    have hwritten : count.literal? ≠ none := by
      intro hnone
      obtain ⟨n, hn, hw⟩ := Value.literal?_eq_none.mp hnone
      exact hw (h n hn).2
    obtain ⟨said, hsaid⟩ := Option.ne_none_iff_exists'.mp hwritten
    have hcheck : check { workerCount := count } = .error (.workerCount (some said)) := by
      simp only [check, checkCount, hno, hsaid, ConfigFault.quoting]
      rfl
    rw [hq, hsaid]
    simp [checked, hcheck]

theorem settings_of_count (n : Int) : settings { workerCount := .int n } = {
    host := "127.0.0.1", port := 7080, workers := .whole n
    terms := { readTimeout := 120 * ticksPerSecond, idleTimeout := 120 * ticksPerSecond
               limits := { head := 65536, body := 1048576 } } } := by
  have hcount : workers { workerCount := .int n } = n := by
    simp [workers, Value.floorMul]
  have htime : (Value.floorMul (.float (Binary64.ofNat 120)) ticksPerSecond).toNat =
      120 * ticksPerSecond := by decide +kernel
  simp only [settings, hcount, htime]
  rfl

end Config

namespace Command

structure Idle (outcome : Outcome) : Prop where
  unbound : ∀ host port, .bind host port ∉ outcome.deeds
  unsized : ∀ size, .resizeThreads size ∉ outcome.deeds
  unsaid : ¬ "Using".toList <:+: outcome.output.toList
  unserved : outcome.server = none

structure Refused (count : Value) (outcome : Outcome) : Prop extends Idle outcome where
  exit : outcome.exit = .returned 2
  records : outcome.records = [{
    level := .critical, source := logSource
    message := (ConfigFault.workerCount (Config.quoted? count)).message }]

inductive Ends (finish : Finish) (state : ServerState) : Exit → Prop
  | failed (hf : ∀ what, finish ≠ .raised what) (hs : state = .failed) :
      Ends finish state (.returned 1)
  | served (hf : ∀ what, finish ≠ .raised what) (hs : state ≠ .failed) :
      Ends finish state (.returned 0)
  | interrupted {what : Failures} (hf : finish = .raised what) (hw : what.isInterrupt) :
      Ends finish state (.returned 0)
  | raised {what : Failures} (hf : finish = .raised what) (hw : ¬ what.isInterrupt) :
      Ends finish state (.raised what)

structure Served (workers : Int) (network : Network) (outcome : Outcome) : Prop where
  deeds : outcome.deeds =
    [.print s!"Using {workers} workers.\n", .resizeThreads workers, .bind "127.0.0.1" 7080]
  output : outcome.output = s!"Using {workers} workers.\n"
  threads : outcome.threadsAtBind = some workers
  server : ∃ server, outcome.server = some server ∧ server.settings.workers = .whole workers ∧
    (server.tokens = if network.bindFailure.isNone then some workers.toNat else none) ∧
    Ends outcome.report.finish server.state outcome.exit

/-- What a command does whose command line comes to this. -/
inductive Kept (network : Network) : Parse → Outcome → Prop
  | help {outcome : Outcome} (idle : Idle outcome) (he : outcome.exit = .quit 0)
      (hr : outcome.records = []) : Kept network .help outcome
  | misuse {text : String} {outcome : Outcome} (idle : Idle outcome) (he : outcome.exit = .quit 2)
      (hr : outcome.records = []) : Kept network (.misuse text) outcome
  | uncounted {count : Value} {outcome : Outcome} (hc : count = .nothing ∨ count = .emptyList)
      (refused : Refused count outcome) : Kept network (.run count) outcome
  | unfit {n : Int} {outcome : Outcome} (hn : n ≤ 0) (refused : Refused (.int n) outcome) :
      Kept network (.run (.int n)) outcome
  | served {n : Int} {outcome : Outcome} (hn : 0 < n) (served : Served n network outcome) :
      Kept network (.run (.int n)) outcome

variable {count : Value} {network : Network}

theorem ends_exitOf (finish : Finish) (state : ServerState) :
    Ends finish state (exitOf finish state) := by
  unfold exitOf
  split
  · split
    · next hw => exact .interrupted rfl hw
    · next hw => exact .raised rfl hw
  · next hf =>
    split
    · next hs => exact .failed hf hs
    · next hs => exact .served hf hs

/-- Who does nothing leaves everything alone. -/
theorem idle_of_none {outcome : Outcome} (hd : outcome.deeds = []) (hs : outcome.server = none) :
    Idle outcome := by
  have hsilent : outcome.output = "" := by
    rw [Outcome.output, hd]
    rfl
  refine ⟨?_, ?_, ?_, hs⟩
  · simp [hd]
  · simp [hd]
  · rw [hsilent]
    decide

theorem refused_of_count (h : ∀ n, count = .int n → n ≤ 0 ∧ Text.IsWritten n) :
    Refused count (serveCounted count network) := by
  have ho : serveCounted count network = {
      exit := .returned 2
      records := [{
        level := .critical, source := logSource
        message := (ConfigFault.workerCount (Config.quoted? count)).message }] } := by
    simp only [serveCounted, Config.ofWorkerCount_other h, ConfigFault.failure?]
  rw [ho]
  exact ⟨idle_of_none rfl rfl, rfl, rfl⟩

/-- The server of a command tries one port, and has as many tokens as workers once it serves. -/
theorem run_of_count (network : Network) {n : Int} (hn : 0 < n) (start : Server) (hs : start.state = .unstarted)
    (ht : start.tokens = none) (hset : start.settings = Config.settings { workerCount := .int n }) :
    (start.run network).1.attempts = [("127.0.0.1", 7080)] ∧
      (start.run network).2.settings.workers = .whole n ∧
      (start.run network).2.tokens = if network.bindFailure.isNone then some n.toNat else none := by
  rw [Config.settings_of_count] at hset
  have hnat : (n.toNat : Int) = n := Int.toNat_of_nonneg (Int.le_of_lt hn)
  cases hf : network.bindFailure with
  | none =>
    have hw : start.settings.workers = .whole n.toNat := by rw [hset, hnat]
    have hfirst := Server.firstRun hs hw hf
    obtain ⟨state, port, hends⟩ := hfirst.ends
    refine ⟨?_, ?_, ?_⟩
    · rw [hfirst.attempts, hset]
    · rw [hends, hset]
    · rw [hends]
      rfl
  | some what =>
    obtain ⟨hattempts, state, hends⟩ := Server.firstRun_refused hs hf
    refine ⟨?_, ?_, ?_⟩
    · rw [hattempts, hset]
    · rw [hends, hset]
    · rw [hends, ht]
      rfl

theorem served_of_count {n : Int} (hn : 0 < n) (written : Text.IsWritten n) :
    Served n network (serveCounted (.int n) network) := by
  have hworkers : Config.workers { workerCount := .int n } = n := by
    simp [Config.workers, Value.floorMul]
  let start : Server := {
    settings := Config.settings { workerCount := .int n }
    handler := Handler.ofRoutes Service.fixedRoutes }
  obtain ⟨hattempts, hw, htokens⟩ := run_of_count network hn start rfl rfl rfl
  have ho : serveCounted (.int n) network = {
      exit := exitOf (start.run network).1.finish (start.run network).2.state
      deeds := [.print s!"Using {n} workers.\n", .resizeThreads n, .bind "127.0.0.1" 7080]
      records := (start.run network).1.records ++ closingRecords (start.run network).1.finish
      report := (start.run network).1
      server := some (start.run network).2 } := by
    have hbinds : binds (start.run network).1 = [.bind "127.0.0.1" 7080] := by
      rw [binds, hattempts]
      rfl
    have hsaid : (Value.int n).literal? = some (toString n) := by
      simp [Value.literal?, Text.writeInt?, written]
    simp only [serveCounted, Config.ofWorkerCount_int hn, hsaid, serve, hworkers, ← hbinds]
    rfl
  rw [ho]
  exact ⟨rfl, by simp [Outcome.output], rfl, _, rfl, hw, htokens, ends_exitOf _ _⟩

/-- There is no capital U in the text that is printed for help. -/
theorem unsaid_helpText : ¬ "Using".toList <:+:
    (Outcome.output { exit := .quit 0, deeds := [.print counted.helpText] }).toList := by
  have hprinted : Outcome.output { exit := .quit 0, deeds := [.print counted.helpText] } =
      "" ++ counted.helpText := rfl
  have hnone : 'U' ∉ ("" ++ counted.helpText).toList := by
    -- Piece by piece, since it takes long to evaluate the text as a whole.
    simp only [Program.helpText, Program.usage, counted, if_true, toString, String.toList_append,
      List.mem_append, not_or]
    decide +kernel
  rw [hprinted]
  exact fun h => hnone (h.subset (by decide))

/-- The command does what its command line comes to, whatever the network does. -/
theorem runCounted_kept (arguments : List String) (network : Network) :
    Kept network (counted.parse arguments) (runCounted arguments network) := by
  unfold runCounted parsed
  cases hp : counted.parse arguments with
  | help =>
    exact .help ⟨by simp, by simp, unsaid_helpText, rfl⟩ rfl rfl
  | misuse text => exact .misuse (idle_of_none rfl rfl) rfl rfl
  | run count =>
    cases Program.isCount_of_parse hp with
    | missing => exact .uncounted (.inl rfl) (refused_of_count nofun)
    | dashes => exact .uncounted (.inr rfl) (refused_of_count nofun)
    | @whole n written =>
      by_cases hn : 0 < n
      · exact .served hn (served_of_count hn written)
      · refine .unfit (Int.not_lt.mp hn) (refused_of_count fun m hm => ?_)
        cases hm
        exact ⟨Int.not_lt.mp hn, written⟩

end Command

end FixedReply
