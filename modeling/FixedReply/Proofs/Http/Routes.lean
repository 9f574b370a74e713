import FixedReply.Server.Handler
import Mathlib.Data.List.Nodup

namespace FixedReply.Http.Routes

variable {α : Type}

def Matches (pattern path : String) : Prop :=
  if isSubtree pattern then pattern.toList <+: path.toList else path = pattern

def after (routes : Routes α) : List (String × α) → Routes α
  | [] => routes
  | (pattern, handler) :: rest =>
    match routes.add pattern handler with
    | .error _ => routes.after rest
    | .ok next => next.after rest

def kept (routes : Routes α) : List (String × α) → List (String × α)
  | [] => []
  | (pattern, handler) :: rest =>
    match routes.add pattern handler with
    | .error _ => routes.kept rest
    | .ok next => (pattern, handler) :: next.kept rest

/-- The call whose pattern is longer than all other patterns that match. -/
structure Longest (kept : List (String × α)) (path : String) (call : String × α) : Prop where
  mem : call ∈ kept
  isMatch : Matches call.1 path
  longest : ∀ other ∈ kept, Matches other.1 path → other = call ∨ other.1.length < call.1.length

section

variable {pattern other path : String} {call : String × α} {held : List (String × α)}

theorem Matches.isPrefix (h : Matches pattern path) : pattern.toList <+: path.toList := by
  unfold Matches at h
  split at h
  · exact h
  · exact h ▸ List.prefix_rfl

theorem Matches.length_le (h : Matches pattern path) : pattern.length ≤ path.length := by
  simpa only [String.length_toList] using h.isPrefix.length_le

/-- Among the patterns that match a path there is one of a length at most. -/
theorem Matches.eq_of_length (h : Matches pattern path) (ho : Matches other path)
    (hl : pattern.length = other.length) : pattern = other := by
  have hlen : pattern.toList.length = other.toList.length := by
    simpa only [String.length_toList] using hl
  have hp : pattern.toList <+: other.toList :=
    List.prefix_of_prefix_length_le h.isPrefix ho.isPrefix (Nat.le_of_eq hlen)
  exact String.toList_injective (hp.eq_of_length hlen)

theorem Longest.of_le (hd : (held.map Prod.fst).Nodup) (hm : call ∈ held) (h : Matches call.1 path)
    (hl : ∀ other ∈ held, Matches other.1 path → other.1.length ≤ call.1.length) :
    Longest held path call := by
  refine ⟨hm, h, fun other ho hother => ?_⟩
  rcases Nat.lt_or_eq_of_le (hl other ho hother) with hlt | heq
  · exact .inr hlt
  · exact .inl (List.inj_on_of_nodup_map hd ho hm (hother.eq_of_length h heq))

theorem Longest.unique {other : String × α} (h : Longest held path call)
    (ho : Longest held path other) : other = call := by
  rcases h.longest other ho.mem ho.isMatch with he | hl
  · exact he
  · rcases ho.longest call h.mem h.isMatch with he | hl'
    · exact he.symm
    · exact absurd hl (Nat.lt_asymm hl')

end

section

variable {routes : Routes α} {held : List (String × α)} {pattern path : String} {handler : α}

theorem perm_insertSubtree (pattern : String) (handler : α) (subtrees : List (String × α)) :
    (insertSubtree pattern handler subtrees).Perm ((pattern, handler) :: subtrees) := by
  induction subtrees with
  | nil => exact .refl _
  | cons route rest ih =>
    unfold insertSubtree
    split
    · exact .refl _
    · exact (ih.cons route).trans (.swap (pattern, handler) route rest)

theorem sorted_insertSubtree {subtrees : List (String × α)}
    (h : subtrees.Pairwise fun a b => b.1.length ≤ a.1.length) :
    (insertSubtree pattern handler subtrees).Pairwise fun a b => b.1.length ≤ a.1.length := by
  induction subtrees with
  | nil => exact List.pairwise_singleton _ _
  | cons route rest ih =>
    obtain ⟨hroute, hrest⟩ := List.pairwise_cons.mp h
    unfold insertSubtree
    split
    · rename_i hlt
      refine List.pairwise_cons.mpr ⟨fun e he => ?_, h⟩
      rcases List.mem_cons.mp he with rfl | he
      · exact Nat.le_of_lt hlt
      · exact Nat.le_trans (hroute e he) (Nat.le_of_lt hlt)
    · rename_i hle
      refine List.pairwise_cons.mpr ⟨fun e he => ?_, ih hrest⟩
      rcases List.mem_cons.mp ((perm_insertSubtree pattern handler rest).mem_iff.mp he) with rfl | he
      · exact Nat.not_lt.mp hle
      · exact hroute e he

structure Holds (routes : Routes α) (held : List (String × α)) : Prop where
  exact : routes.exact = held.filter (!isSubtree ·.1)
  subtrees : routes.subtrees.Perm (held.filter (isSubtree ·.1))
  sorted : routes.subtrees.Pairwise fun a b => b.1.length ≤ a.1.length
  distinct : (held.map Prod.fst).Nodup
  rooted : ∀ e ∈ held, isRooted e.1

theorem Holds.empty : Holds ({} : Routes α) [] :=
  ⟨rfl, .refl _, .nil, .nil, fun _ he => nomatch he⟩

theorem Holds.mem_exact (h : Holds routes held) {e : String × α} :
    e ∈ routes.exact ↔ e ∈ held ∧ isSubtree e.1 = false := by
  rw [h.exact, List.mem_filter, Bool.not_eq_true']

theorem Holds.mem_subtrees (h : Holds routes held) {e : String × α} :
    e ∈ routes.subtrees ↔ e ∈ held ∧ isSubtree e.1 := by
  rw [h.subtrees.mem_iff, List.mem_filter]

theorem Holds.mem_patterns (h : Holds routes held) :
    pattern ∈ routes.patterns ↔ pattern ∈ held.map Prod.fst := by
  simp only [patterns, List.mem_append, List.mem_map, h.mem_exact, h.mem_subtrees]
  constructor
  · rintro (⟨e, ⟨he, -⟩, rfl⟩ | ⟨e, ⟨he, -⟩, rfl⟩) <;> exact ⟨e, he, rfl⟩
  · rintro ⟨e, he, rfl⟩
    cases hs : isSubtree e.1 with
    | false => exact .inl ⟨e, ⟨he, hs⟩, rfl⟩
    | true => exact .inr ⟨e, ⟨he, hs⟩, rfl⟩

inductive Refused (held : List (String × α)) (pattern : String) : RouteFault → Prop
  | notRooted (h : isRooted pattern = false) : Refused held pattern (.notRooted pattern)
  | taken (hr : isRooted pattern) (h : pattern ∈ held.map Prod.fst) :
      Refused held pattern (.taken pattern)

/-- What a call comes to: it is refused for a reason, or there is none and the routes hold it too. -/
theorem Holds.add (h : Holds routes held) (pattern : String) (handler : α) :
    (∃ why, routes.add pattern handler = .error why ∧ Refused held pattern why) ∨
      isRooted pattern ∧ pattern ∉ held.map Prod.fst ∧
        ∃ next, routes.add pattern handler = .ok next ∧ Holds next (held ++ [(pattern, handler)]) := by
  unfold Routes.add
  cases hr : isRooted pattern with
  | false => exact .inl ⟨_, rfl, .notRooted hr⟩
  | true =>
    by_cases hm : pattern ∈ held.map Prod.fst
    · refine .inl ⟨.taken pattern, ?_, .taken hr hm⟩
      simp [h.mem_patterns.mpr hm]
    · have hnew : routes.patterns.contains pattern = false := by
        simpa using fun hp => hm (h.mem_patterns.mp hp)
      have hdistinct : ((held ++ [(pattern, handler)]).map Prod.fst).Nodup := by
        rw [List.map_append]
        refine List.nodup_append.mpr ⟨h.distinct, List.pairwise_singleton _ _, fun a ha b hb => ?_⟩
        rw [List.mem_singleton.mp hb]
        rintro rfl
        exact hm ha
      have hrooted : ∀ e ∈ held ++ [(pattern, handler)], isRooted e.1 := by
        intro e he
        rcases List.mem_append.mp he with he | he
        · exact h.rooted e he
        · rw [List.mem_singleton.mp he]
          exact hr
      refine .inr ⟨rfl, hm, ?_⟩
      rw [hnew]
      cases hs : isSubtree pattern with
      | false =>
        refine ⟨_, rfl, ?_, ?_, h.sorted, hdistinct, hrooted⟩
        · simp [h.exact, hs]
        · simpa [hs] using h.subtrees
      | true =>
        refine ⟨_, rfl, ?_, ?_, sorted_insertSubtree h.sorted, hdistinct, hrooted⟩
        · simp [h.exact, hs]
        · have hp : ((pattern, handler) :: routes.subtrees).Perm
              (held.filter (isSubtree ·.1) ++ [(pattern, handler)]) :=
            (h.subtrees.cons _).trans (List.perm_append_singleton _ _).symm
          simpa [hs] using (perm_insertSubtree pattern handler _).trans hp

theorem Holds.add_eq_error_iff (h : Holds routes held) :
    (∃ why, routes.add pattern handler = .error why) ↔
      isRooted pattern = false ∨ pattern ∈ held.map Prod.fst := by
  rcases h.add pattern handler with ⟨why, he, hr⟩ | ⟨hr, hm, next, he, -⟩
  · refine iff_of_true ⟨why, he⟩ ?_
    cases hr with
    | notRooted h => exact .inl h
    | taken _ h => exact .inr h
  · refine iff_of_false ?_ ?_
    · rintro ⟨why, hwhy⟩
      cases he.symm.trans hwhy
    · rintro (hn | ht)
      · cases hr.symm.trans hn
      · exact hm ht

/-- Where a pattern that matches a path is kept. -/
theorem Holds.mem_of_matches (h : Holds routes held) {call : String × α} (hc : call ∈ held)
    (hm : Matches call.1 path) : call ∈ routes.exact ∧ path = call.1 ∨
      call ∈ routes.subtrees ∧ call.1.toList.isPrefixOf path.toList := by
  cases hs : isSubtree call.1 with
  | false =>
    have hpath : path = call.1 := by simpa [Matches, hs] using hm
    exact .inl ⟨h.mem_exact.mpr ⟨hc, hs⟩, hpath⟩
  | true => exact .inr ⟨h.mem_subtrees.mpr ⟨hc, hs⟩, List.isPrefixOf_iff_prefix.mpr hm.isPrefix⟩

/-- No pattern that matches a path is longer than the path itself. -/
theorem Holds.longest_exact (h : Holds routes held) (hx : routes.exact.lookup path = some handler) :
    Longest held path (path, handler) := by
  obtain ⟨before, rest, hl, -⟩ := List.lookup_eq_some_iff.mp hx
  obtain ⟨hm, hs⟩ := h.mem_exact.mp (hl ▸ List.mem_append_right before List.mem_cons_self)
  have hself : Matches path path := by simp [Matches, hs]
  exact .of_le h.distinct hm hself fun other _ ho => ho.length_le

/-- The first subtree that matches is the longest, where no pattern is the path itself. -/
theorem Holds.longest_subtree (h : Holds routes held) {call : String × α}
    (hx : ∀ e ∈ routes.exact, path ≠ e.1)
    (hf : routes.subtrees.find? (·.1.toList.isPrefixOf path.toList) = some call) :
    Longest held path call := by
  obtain ⟨hp, before, rest, hl, hbefore⟩ := List.find?_eq_some_iff_append.mp hf
  obtain ⟨hm, hs⟩ := h.mem_subtrees.mp (hl ▸ List.mem_append_right before List.mem_cons_self)
  have hmatch : Matches call.1 path := by
    rw [Matches, if_pos hs]
    exact List.isPrefixOf_iff_prefix.mp hp
  refine .of_le h.distinct hm hmatch fun other ho hother => ?_
  rcases h.mem_of_matches ho hother with ⟨he, hpath⟩ | ⟨hmem, hbegins⟩
  · exact absurd hpath (hx other he)
  · -- What stands before the first match does not match, and what stands behind it is not longer.
    have hsorted := h.sorted
    rw [hl] at hmem hsorted
    rcases List.mem_append.mp hmem with hb | hr
    · have hnot := hbefore other hb
      simp only [hbegins] at hnot
      cases hnot
    · rcases List.mem_cons.mp hr with rfl | hr
      · exact Nat.le_refl _
      · exact (List.pairwise_cons.mp (List.pairwise_append.mp hsorted).2.1).1 other hr

/-- What routes find for a path: the handler of the longest pattern, or none if no pattern matches. -/
theorem Holds.find? (h : Holds routes held) (path : String) :
    (∃ call, Longest held path call ∧ routes.find? path = some call.2) ∨
      (∀ call ∈ held, ¬ Matches call.1 path) ∧ routes.find? path = none := by
  unfold Routes.find?
  cases hx : routes.exact.lookup path with
  | some handler => exact .inl ⟨(path, handler), h.longest_exact hx, rfl⟩
  | none =>
    have hout : ∀ e ∈ routes.exact, path ≠ e.1 :=
      fun e he => by simpa using List.lookup_eq_none_iff.mp hx e he
    cases hf : routes.subtrees.find? (·.1.toList.isPrefixOf path.toList) with
    | some call => exact .inl ⟨call, h.longest_subtree hout hf, rfl⟩
    | none =>
      refine .inr ⟨fun call hc hmatch => ?_, rfl⟩
      rcases h.mem_of_matches hc hmatch with ⟨he, hpath⟩ | ⟨hmem, hbegins⟩
      · exact hout call he hpath
      · exact List.find?_eq_none.mp hf call hmem hbegins

theorem Holds.after (h : Holds routes held) (calls : List (String × α)) :
    Holds (routes.after calls) (held ++ routes.kept calls) := by
  induction calls generalizing routes held with
  | nil => simpa [Routes.after, kept] using h
  | cons call rest ih =>
    obtain ⟨pattern, handler⟩ := call
    unfold Routes.after kept
    rcases h.add pattern handler with ⟨why, he, -⟩ | ⟨-, -, next, he, hnext⟩
    · rw [he]
      exact ih h
    · rw [he]
      simpa using ih hnext

theorem after_append (routes : Routes α) (calls more : List (String × α)) :
    routes.after (calls ++ more) = (routes.after calls).after more := by
  induction calls generalizing routes with
  | nil => rfl
  | cons call rest ih =>
    obtain ⟨pattern, handler⟩ := call
    simp only [List.cons_append, after]
    cases routes.add pattern handler with
    | error why => exact ih routes
    | ok next => exact ih next

theorem kept_sublist (routes : Routes α) (calls : List (String × α)) :
    (routes.kept calls).Sublist calls := by
  induction calls generalizing routes with
  | nil => exact .refl _
  | cons call rest ih =>
    obtain ⟨pattern, handler⟩ := call
    unfold kept
    cases routes.add pattern handler with
    | error why => exact (ih routes).cons _
    | ok next => exact (ih next).cons_cons _

/-- Calls whose patterns are new and from the root are all kept. -/
theorem Holds.kept_eq (h : Holds routes held) {calls : List (String × α)}
    (hd : ((held ++ calls).map Prod.fst).Nodup) (hr : ∀ call ∈ calls, isRooted call.1) :
    routes.kept calls = calls := by
  induction calls generalizing routes held with
  | nil => rfl
  | cons call rest ih =>
    obtain ⟨pattern, handler⟩ := call
    unfold kept
    rcases h.add pattern handler with ⟨why, -, href⟩ | ⟨-, -, next, he, hnext⟩
    · cases href with
      | notRooted hn => cases hn.symm.trans (hr _ List.mem_cons_self)
      | taken _ hm =>
        rw [List.map_append] at hd
        exact absurd rfl ((List.nodup_append.mp hd).2.2 pattern hm pattern List.mem_cons_self)
    · rw [he]
      have hrest := ih hnext (by simpa using hd) fun call hc => hr call (List.mem_cons_of_mem _ hc)
      simpa using hrest

/-- Several handlers are registered at once exactly if none of the calls would be refused. -/
theorem addAll_eq_ok {next : Routes α} {calls : List (String × α)} :
    routes.addAll calls = .ok next ↔ routes.kept calls = calls ∧ next = routes.after calls := by
  induction calls generalizing routes with
  | nil => simp [addAll, kept, Routes.after, eq_comm]
  | cons call rest ih =>
    obtain ⟨pattern, handler⟩ := call
    unfold addAll kept Routes.after
    cases routes.add pattern handler with
    | error why =>
      refine iff_of_false (fun he => nomatch he) ?_
      rintro ⟨he, -⟩
      have hle := (kept_sublist routes rest).length_le
      dsimp only at he
      rw [he] at hle
      exact absurd hle (Nat.not_succ_le_self _)
    | ok routes => simpa using ih

end

def route (routes : Routes Handler) (path : String) : Handler :=
  (routes.find? path).getD (.always pageNotFound)

inductive Routed (held : List (String × Handler)) (path : String) : Handler → Prop
  | longest {call : String × Handler} (h : Longest held path call) : Routed held path call.2
  | missing (h : ∀ call ∈ held, ¬ Matches call.1 path) : Routed held path (.always pageNotFound)

section

variable {routes : Routes Handler} {held more : List (String × Handler)} {path : String}
  {handler other : Handler}

theorem Routed.unique (h : Routed held path handler) (ho : Routed held path other) :
    other = handler := by
  cases h with
  | longest h =>
    cases ho with
    | longest ho => rw [h.unique ho]
    | missing ho => exact absurd h.isMatch (ho _ h.mem)
  | missing h =>
    cases ho with
    | longest ho => exact absurd ho.isMatch (h _ ho.mem)
    | missing _ => rfl

theorem Routed.perm (h : Routed held path handler) (hp : held.Perm more) :
    Routed more path handler := by
  cases h with
  | longest h =>
    exact .longest ⟨hp.mem_iff.mp h.mem, h.isMatch, fun other ho => h.longest other (hp.mem_iff.mpr ho)⟩
  | missing h => exact .missing fun call hc => h call (hp.mem_iff.mpr hc)

theorem Holds.routed (h : Holds routes held) (path : String) : Routed held path (routes.route path) := by
  unfold route
  rcases h.find? path with ⟨call, hl, he⟩ | ⟨hn, he⟩
  · rw [he]
    exact .longest hl
  · rw [he]
    exact .missing hn

end

/-- What any calls for handlers come to, and that the order of those that are kept does not matter. -/
structure LongestWins (calls : List (String × Handler)) : Prop where
  refused (pattern : String) (handler : Handler) :
    (∃ why, (after {} calls).add pattern handler = .error why) ↔
      isRooted pattern = false ∨ pattern ∈ (kept {} calls).map Prod.fst
  unchanged {pattern : String} {handler : Handler} {why : RouteFault}
    (h : (after {} calls).add pattern handler = .error why) (path : String) :
    (after {} (calls ++ [(pattern, handler)])).route path = (after {} calls).route path
  routed (path : String) : Routed (kept {} calls) path ((after {} calls).route path)
  answered (request : Request) :
    Handler.ofRoutes (after {} calls) request = (after {} calls).route request.path request
  built (routes : Routes Handler) :
    addAll {} calls = .ok routes ↔ kept {} calls = calls ∧ routes = after {} calls
  whole {order : List (String × Handler)} (h : order.Perm (kept {} calls)) : kept {} order = order
  alike {others : List (String × Handler)} (h : (kept {} others).Perm (kept {} calls))
    (path : String) : (after {} others).route path = (after {} calls).route path

theorem holds_after (calls : List (String × α)) : Holds (after {} calls) (kept {} calls) :=
  Holds.empty.after calls

/-- The patterns of the calls that were not refused decide alone what a path gets: the handler of the
longest one that matches it, whatever the order of the calls was. -/
theorem longest_wins (calls : List (String × Handler)) : LongestWins calls := by
  have h := holds_after calls
  refine ⟨fun pattern handler => h.add_eq_error_iff, ?_, h.routed, fun _ => rfl,
    fun routes => addAll_eq_ok, ?_, ?_⟩
  · intro pattern handler why he path
    rw [after_append]
    simp only [after, he]
  · intro order hp
    refine Holds.empty.kept_eq ?_ fun call hc => h.rooted call (hp.mem_iff.mp hc)
    exact (hp.map Prod.fst).nodup_iff.mpr h.distinct
  · intro others hp path
    exact (h.routed path).unique (((holds_after others).routed path).perm hp)

end FixedReply.Http.Routes
