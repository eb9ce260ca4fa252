/-
The discipline of a live sweep. At every state that it can reach, under every schedule, the deletions
in flight are no more than the settings allow and belong to one endpoint or one kind; nothing else is
asked while one is in flight; and what has started is a first part of the deletions that the cloud's
answers call for, each of them once. The sweep never gets stuck and every schedule of it ends, with
all of these deletions over.
-/
import CloudSweep.Call.InMemory
import CloudSweep.Proofs.Program.Machine
import CloudSweep.Proofs.Sweep.Tickets

namespace CloudSweep.Sweep

open Program (Reaches Becomes State Step)

variable {cloud : Cloud} {s : Settings} {endpoints : List ClusterEndpoint} {catalog : Catalog}
  {moves : List Move} {state : State Report}

/-- What holds of a live sweep that has come to a state by some moves. -/
structure Disciplined (cloud : Cloud) (s : Settings) (endpoints : List ClusterEndpoint)
    (catalog : Catalog) (moves : List Move) (state : State Report) : Prop where
  /-- The pool is bounded, and its deletions are the ones in flight. -/
  bounded : state.flying.length ≤ max s.workers 1
  counted : aloft moves = state.flying.length
  /-- They belong to one endpoint or one kind. -/
  owned : (∃ i, ∀ ticket ∈ state.flying, ticket.site.InEndpoint i) ∨
    ∃ i j, ∀ ticket ∈ state.flying, ticket.site.InKind i j
  /-- Nothing was asked while a deletion was in flight. -/
  drained : ∀ before site call answer after, moves = before ++ .asked site call answer :: after →
    aloft before = 0
  /-- What has started are the first of the deletions to be made, in their order. -/
  inOrder : starts moves <+: projectTickets cloud s endpoints catalog
  /-- Each of these is over or in flight. -/
  accounted : ((landings moves).map (·.ticket) ++ state.flying).Perm (starts moves)
  /-- At the end all of them have started and are over. -/
  completed : state.IsDone → starts moves = projectTickets cloud s endpoints catalog ∧
    ((landings moves).map (·.ticket)).Perm (projectTickets cloud s endpoints catalog)
  /-- Before the end there is a step to take, whatever happened so far. -/
  unstuck : ¬ state.IsDone → ∃ more next, Step cloud state more next

theorem within_of_reaches (h : Reaches cloud (.idle (project s endpoints catalog)) moves state) :
    state.Within asks (Opens s) :=
  h.within (within_project endpoints catalog)

theorem inBalance_of_reaches (h : Reaches cloud (.idle (project s endpoints catalog)) moves state) :
    InBalance moves state.flying := by
  have balance : InBalance ([] ++ moves) state.flying := h.inBalance inBalance_nil
  exact balance

theorem Opens.owned {width : Nat} {tickets : List Ticket} (h : Opens s width tickets) :
    (∃ i, ∀ ticket ∈ tickets, ticket.site.InEndpoint i) ∨
      ∃ i j, ∀ ticket ∈ tickets, ticket.site.InKind i j := by
  cases h with
  | clusters index e targets =>
    refine .inl ⟨index, fun ticket ht => ?_⟩
    obtain ⟨i, target, -, rfl⟩ := mem_clusterTickets.1 ht
    rfl
  | resources service index requests =>
    refine .inr ⟨service, index, fun ticket ht => ?_⟩
    obtain ⟨r, request, -, rfl⟩ := mem_requestTickets.1 ht
    exact ⟨rfl, rfl⟩

/-- The deletions in flight are some of the tickets of a pool that the sweep may open. -/
theorem flying_of_within (h : state.Within asks (Opens s)) :
    state.flying.length ≤ max s.workers 1 ∧
      ((∃ i, ∀ ticket ∈ state.flying, ticket.site.InEndpoint i) ∨
        ∃ i j, ∀ ticket ∈ state.flying, ticket.site.InKind i j) := by
  cases state with
  | idle rest => exact ⟨Nat.zero_le _, .inl ⟨0, fun _ h => nomatch h⟩⟩
  | busy width pool next =>
    obtain ⟨⟨tickets, opens, -, flying, fits⟩, -⟩ := h
    refine ⟨opens.width_eq ▸ fits, ?_⟩
    rcases opens.owned with ⟨i, owned⟩ | ⟨i, j, owned⟩
    · exact .inl ⟨i, fun ticket ht => owned ticket (flying ticket ht)⟩
    · exact .inr ⟨i, j, fun ticket ht => owned ticket (flying ticket ht)⟩

/-- The moves to any state can be continued to a run. -/
theorem starts_prefix_of_reaches (live : s.dryRun = false)
    (h : Reaches cloud (.idle (project s endpoints catalog)) moves state) :
    starts moves <+: projectTickets cloud s endpoints catalog := by
  obtain ⟨more, report, rest⟩ :=
    (within_of_reaches h).exists_end (fun _ _ opens => opens.room) cloud
  have run := Program.runs_iff_reaches.2 (h.trans rest)
  refine ⟨starts more, ?_⟩
  rw [← starts_append]
  exact (projectRun run).starts_eq live

/-- At the end every deletion has started and is over. -/
theorem completed_of_reaches (live : s.dryRun = false) (hd : state.IsDone)
    (h : Reaches cloud (.idle (project s endpoints catalog)) moves state) :
    starts moves = projectTickets cloud s endpoints catalog ∧
      ((landings moves).map (·.ticket)).Perm (projectTickets cloud s endpoints catalog) := by
  obtain ⟨report, rfl⟩ := hd
  have all : starts moves = projectTickets cloud s endpoints catalog :=
    (projectRun (Program.runs_iff_reaches.2 h)).starts_eq live
  have accounted := (inBalance_of_reaches h).accounted
  rw [State.flying, List.append_nil, all] at accounted
  exact ⟨all, accounted⟩

/-- A live sweep keeps its discipline at every state that it reaches, its deletions are all
different, and it comes to its end under every schedule. -/
theorem disciplined_of_reaches (cloud : Cloud) (s : Settings) (endpoints : List ClusterEndpoint)
    (catalog : Catalog) (live : s.dryRun = false) :
    ((projectTickets cloud s endpoints catalog).map (·.site)).Nodup ∧
      Acc (Becomes cloud) (.idle (project s endpoints catalog)) ∧
      ∀ moves state, Reaches cloud (.idle (project s endpoints catalog)) moves state →
        Disciplined cloud s endpoints catalog moves state := by
  refine ⟨nodup_projectTickets cloud endpoints catalog live, Program.acc_becomes cloud _,
    fun moves state h => ?_⟩
  have within := within_of_reaches h
  have balance := inBalance_of_reaches h
  obtain ⟨bounded, owned⟩ := flying_of_within within
  refine ⟨bounded, balance.counted, owned, fun before site call answer after split => ?_,
    starts_prefix_of_reaches live h, balance.accounted, fun hd => completed_of_reaches live hd h,
    fun hd => within.exists_step (fun _ _ opens => opens.room) hd cloud⟩
  -- The moves before a call lead to a state with nothing in flight.
  subst split
  obtain ⟨u, hu, idle⟩ := h.idle_of_asked
  rw [(inBalance_of_reaches hu).counted, idle, List.length_nil]

/-- Settings that take everything and leave no room for deletions. -/
def roomlessSettings : Settings := { project := "p", cutoff := .clearAll, workers := 0 }

/-- An endpoint with two clusters. -/
def pairEndpoint : ClusterEndpoint := { name := "pair", url := "https://pair.example/" }

def pairCloud : InMemory where
  clusters := [(pairEndpoint.url, [
    { name := some "a", createTime := some "2020-01-01T00:00:00Z", zone := some "z" },
    { name := some "b", createTime := some "2020-01-01T00:00:00Z", region := some "r" }])]

def pairSweep : Program Report := project roomlessSettings [pairEndpoint] ⟨[]⟩

theorem disciplined_of_reaches_pair :
    (starts (pairSweep.moves pairCloud.cloud)).length = 2 ∧
      Disciplined pairCloud.cloud roomlessSettings [pairEndpoint] ⟨[]⟩
        (pairSweep.moves pairCloud.cloud) (.idle (.done (pairSweep.result pairCloud.cloud))) := by
  obtain ⟨-, -, all⟩ :=
    disciplined_of_reaches pairCloud.cloud roomlessSettings [pairEndpoint] ⟨[]⟩ rfl
  exact ⟨by decide +kernel, all _ _ (runs_project pairCloud.cloud [pairEndpoint] ⟨[]⟩).reaches⟩

end CloudSweep.Sweep
