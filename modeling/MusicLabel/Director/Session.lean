import MusicLabel.Director.Telegram
import MusicLabel.Python.Date

/-
  The director as a state machine: `register_agent`, `delegate`,
  `escalate` and `handle_telegram` calls in any order, and the
  `quarterly_review` of the state they reach. A call passes new objects
  or objects already in the heap: `delegate` may be given a task some
  agent already holds, and an agent may be registered with a list
  another agent holds.

  Two things hold over every run. The registry stays consistent: each
  agent sits under its own codename, no two agents hold the same task
  list, and each task an agent holds is active and routes to it,
  provided every agent registered brings a new, empty list, as the
  dataclass default gives it. And the decision log loses and duplicates
  nothing: the escalation rules never change, and the log gains, in
  call order, one record for each escalation some rule matches and one
  for each task some agent scores, so the quarterly review counts
  exactly those.

  Correctness is proven by:
    * `Director.step_consistent`, `Director.run_consistent`
    * `Director.run_decisions`, `Director.quarterlyReview_run`

  Main declarations:
    * `TaskObject`, `TaskListObject`, `DirectorCall`, `Director.step`, `Director.run`
    * `LabelDirector.postInit`, `LabelDirector.new`, `QuarterlyReview`, `Director.quarterlyReview`
    * `Director.Consistent`, `Director.runDelegations`
-/

------------------------------------------------------------
-- Calls and the Quarterly Review
------------------------------------------------------------

namespace MusicLabel

/-
  `__post_init__` on the fields modelled: an empty name becomes `NEXUS`
  and an empty rule list the default rules.
-/
def LabelDirector.postInit (d : LabelDirector) : LabelDirector :=
  { d with
    toDirector := d.toDirector.postInit
    name := if d.name = "" then "NEXUS" else d.name }

/- A director built with empty fields: no agents, no tasks, no records. -/
def LabelDirector.new : LabelDirector :=
  LabelDirector.postInit
    ⟨⟨[], []⟩, "", PyDict.empty, [], [], [], [], fun _ _ h => (nomatch h), nofun⟩

/- The task object passed to `delegate`: a new one, or one of the heap by its position. -/
inductive TaskObject
  | fresh (task : AgentTask)
  | existing (ref : Nat)
  deriving DecidableEq

/-
  The task list of an agent passed to `register_agent`: a new list of
  new tasks, or a list of the heap by its position.
-/
inductive TaskListObject
  | fresh (tasks : List AgentTask)
  | existing (ref : Nat)
  deriving DecidableEq

/-
  A call on the director. An agent is registered with the list `tasks`
  in place of its `tasks` field. A heap position past the last object
  names no object; no such call exists, and it is read as no call.
-/
inductive DirectorCall
  | registerAgent (agent : Agent) (tasks : TaskListObject)
  | delegate (task : TaskObject)
  | escalate (issue fromAgent : String)
  | handleTelegram (timestamp message : String)

/- A call registers no agent but with a new, empty task list. -/
def DirectorCall.Fresh : DirectorCall → Prop
  | .registerAgent _ tasks => tasks = .fresh []
  | _ => True

instance (call : DirectorCall) : Decidable call.Fresh :=
  match call with
  | .registerAgent _ tasks => inferInstanceAs (Decidable (tasks = .fresh []))
  | .delegate _ => isTrue trivial
  | .escalate _ _ => isTrue trivial
  | .handleTelegram _ _ => isTrue trivial

/- The dict `quarterly_review` returns, without `generated_at`. -/
structure QuarterlyReview where
  quarter : String
  teamSize : Nat
  totalDecisions : Nat
  overview : String
  agentsSummary : List (String × String × Nat)
  escalations : List EscalationRecord
  deriving DecidableEq, Repr

namespace Director

/- `f"Q{q} {now.year}"` for `q = (now.month - 1) // 3 + 1`. -/
def currentQuarter (now : PyDate) : String :=
  "Q" ++ Int.repr ((now.month - 1) / 3 + 1) ++ " " ++ Int.repr now.year

/-
  `quarterly_review(quarter)` at the clock reading `now`: the log counts
  escalation and delegation records, and its escalation entries are
  the escalation records.
-/
def quarterlyReview (now : PyDate) (quarter : Option String) (d : LabelDirector) :
    QuarterlyReview :=
  let quarter := quarter.getD (currentQuarter now)
  ⟨quarter, d.agents.entries.length, d.decisionLog.length + d.delegations.length,
    "Quarterly review for " ++ quarter,
    d.agents.entries.map fun entry =>
      (entry.1, entry.2.name, countStatus "done" (d.tasksOf entry.2)),
    d.decisionLog⟩

section Session

/- `str.lower`. -/
variable (lower : String → String)

/- One call. -/
def step (d : LabelDirector) : DirectorCall → LabelDirector
  | .registerAgent agent (.fresh tasks) =>
      (registerAgent (d.allocList tasks) { agent with tasks := d.taskLists.length }
        (by simp [LabelDirector.allocList])).2
  | .registerAgent agent (.existing ref) =>
      if hRef : ref < d.taskLists.length then (registerAgent d { agent with tasks := ref } hRef).2
      else d
  | .delegate (.fresh task) => (delegateNew lower task d).director
  | .delegate (.existing ref) =>
      if hRef : ref < d.taskObjects.length then (delegate lower d ⟨ref, hRef⟩).director else d
  | .escalate issue fromAgent =>
      { d with toDirector := (escalate lower issue fromAgent d.toDirector).2 }
  | .handleTelegram timestamp message => (handleTelegram lower timestamp message d).director

/- A run of calls. -/
def run (calls : List DirectorCall) (d : LabelDirector) : LabelDirector :=
  calls.foldl (step lower) d

/-
  The registry is consistent: every agent sits under its own codename,
  no two agents hold the same task list, and every task an agent holds
  is active and routes to it.
-/
def Consistent (d : LabelDirector) : Prop :=
  (∀ codename agent, d.agents.get? codename = some agent →
    agent.codename = codename ∧
      ∀ task ∈ d.tasksOf agent, task.status = "active" ∧ route lower task.text = some codename) ∧
    DistinctLists d.agents

/- The escalation record a call adds, under the rules `rules`. -/
def escalationOf (rules : List EscalationRule) : DirectorCall → Option EscalationRecord
  | .escalate issue fromAgent => recordOf lower rules (issue, fromAgent)
  | _ => none

/- The delegation record a call adds to the director `d`. -/
def delegationOfCall (d : LabelDirector) : DirectorCall → Option DelegationRecord
  | .delegate (.fresh task) => delegationOf lower task.text
  | .delegate (.existing ref) =>
      if ref < d.taskObjects.length then delegationOf lower (d.task ref).text else none
  | .handleTelegram _ message =>
      if IsCommand lower message then none else delegationOf lower message
  | _ => none

/- The delegation records of a run, each call's in the state it meets. -/
def runDelegations : List DirectorCall → LabelDirector → List DelegationRecord
  | [], _ => []
  | call :: calls, d => (delegationOfCall lower d call).toList ++ runDelegations calls (step lower d call)

end Session

end Director

end MusicLabel

------------------------------------------------------------
-- The Registry over Runs
------------------------------------------------------------

namespace MusicLabel

namespace LabelDirector

variable {d : LabelDirector}

/- New objects leave every list and every task of the heap as they were. -/
theorem tasksOf_allocList
    (tasks : List AgentTask)
    {agent : Agent}
    (h : agent.tasks < d.taskLists.length) :
    (d.allocList tasks).tasksOf agent = d.tasksOf agent := by
  have hList : (d.allocList tasks).taskList agent.tasks = d.taskList agent.tasks := by
    simp only [taskList, allocList, List.getD_eq_getElem?_getD, List.getElem?_append_left h]
  rw [tasksOf, hList]
  refine List.map_congr_left fun r hr => ?_
  simp only [LabelDirector.task, allocList, List.getD_eq_getElem?_getD,
    List.getElem?_append_left (lt_of_mem_taskList hr)]

theorem tasksOf_allocList_self
    (agent : Agent) :
    (d.allocList []).tasksOf { agent with tasks := d.taskLists.length } = [] := by
  simp [tasksOf, taskList, allocList, List.getD_eq_getElem?_getD]

end LabelDirector

namespace Director

section Session

variable (lower : String → String) {d : LabelDirector}

/- A new task object keeps the registry consistent: no agent holds it. -/
theorem consistent_allocTask
    (task : AgentTask)
    (h : Consistent lower d) :
    Consistent lower (d.allocTask task) := by
  refine ⟨fun codename agent hAgent => ?_, h.2⟩
  rw [LabelDirector.tasksOf_allocTask]
  exact h.1 codename agent hAgent

/-
  `delegate` on any task object keeps the registry consistent: the task
  becomes active, and joins only the list of the agent it routes to.
-/
theorem consistent_delegate
    (ref : Fin d.taskObjects.length)
    (h : Consistent lower d) :
    Consistent lower (delegate lower d ref).director := by
  obtain ⟨hAgents, -⟩ := delegate_frame lower ref
  refine ⟨fun codename agent hAgent => ?_, hAgents ▸ h.2⟩
  rw [hAgents] at hAgent
  obtain ⟨hCodename, hTasks⟩ := h.1 codename agent hAgent
  refine ⟨hCodename, fun task hTask => ?_⟩
  obtain ⟨r, hr, rfl⟩ := List.mem_map.mp hTask
  rw [taskList_delegate] at hr
  rw [task_delegate]
  rcases List.mem_append.mp hr with hOld | hNew
  · -- a task it held: at most its status changes, to active
    have hHeld := hTasks (d.task r) (List.mem_map_of_mem _ hOld)
    split_ifs <;> exact ⟨by simp [hHeld.1], hHeld.2⟩
  · -- the task delegated, routed to this agent
    split at hNew
    case isTrue hRoutes =>
      rw [List.mem_singleton.mp hNew]
      have hRoute := (routesToList_iff_of_distinct lower h.2 hAgent _).mp hRoutes
      rw [if_pos ⟨by simp [hRoute], rfl⟩]
      exact ⟨rfl, hRoute⟩
    case isFalse => cases hNew

/- Registering an agent with a new, empty list keeps the registry consistent. -/
theorem consistent_registerFresh
    (agent : Agent)
    (h : Consistent lower d) :
    Consistent lower (step lower d (.registerAgent agent (.fresh []))) := by
  obtain ⟨hAgents, -, -, hTasks⟩ := registerAgent_frame (d := d.allocList [])
    { agent with tasks := d.taskLists.length } (by simp [LabelDirector.allocList])
  simp only [step]
  refine ⟨fun codename registered hRegistered => ?_, ?_⟩
  · rw [hAgents, LabelDirector.agents_allocList, PyDict.get?_set] at hRegistered
    rw [hTasks]
    split at hRegistered
    case isTrue hCodename =>
      cases hRegistered
      refine ⟨hCodename, ?_⟩
      rw [LabelDirector.tasksOf_allocList_self]
      exact fun _ hTask => absurd hTask (List.not_mem_nil _)
    case isFalse =>
      rw [LabelDirector.tasksOf_allocList [] (d.agentsValid codename registered hRegistered)]
      exact h.1 codename registered hRegistered
  · intro c₁ c₂ a₁ a₂ h₁ h₂ hSame
    rw [hAgents, LabelDirector.agents_allocList, PyDict.get?_set] at h₁ h₂
    split at h₁ <;> split at h₂
    · next hc₁ hc₂ => exact hc₁.symm.trans hc₂
    · next hc₁ hc₂ =>
        cases h₁
        have := d.agentsValid c₂ a₂ h₂
        simp only at hSame
        omega
    · next hc₁ hc₂ =>
        cases h₂
        have := d.agentsValid c₁ a₁ h₁
        simp only at hSame
        omega
    · exact h.2 c₁ c₂ a₁ a₂ h₁ h₂ hSame

/- Every call that registers an agent only with a new, empty list keeps the registry consistent. -/
theorem step_consistent
    (call : DirectorCall)
    (hCall : call.Fresh)
    (h : Consistent lower d) :
    Consistent lower (step lower d call) := by
  cases call with
  | registerAgent agent tasks =>
      cases (show tasks = .fresh [] from hCall)
      exact consistent_registerFresh lower agent h
  | delegate task =>
      cases task with
      | fresh task => exact consistent_delegate lower _ (consistent_allocTask lower task h)
      | existing ref =>
          simp only [step]
          split
          · exact consistent_delegate lower _ h
          · exact h
  | escalate issue fromAgent => exact h
  | handleTelegram timestamp message =>
      simp only [step, director_handleTelegram]
      split
      · exact h
      · exact consistent_delegate lower _ (consistent_allocTask lower _ h)

/-
  Over any run whose registered agents each bring a new, empty task
  list, a consistent registry stays consistent: no agent is filed under
  another codename, no two agents share a list, and no agent holds a
  task that is not active or routes elsewhere.
-/
theorem run_consistent
    (calls : List DirectorCall)
    (d : LabelDirector)
    (h : Consistent lower d)
    (hCalls : ∀ call ∈ calls, call.Fresh) :
    Consistent lower (run lower calls d) := by
  induction calls generalizing d with
  | nil => exact h
  | cons call calls ih =>
      exact ih (step lower d call) (step_consistent lower call
        (hCalls call (List.mem_cons_self call calls)) h)
        fun c hc => hCalls c (List.mem_cons_of_mem call hc)

end Session

theorem run_consistent_at_new_director :
    Consistent id LabelDirector.new ∧
      (∀ call ∈ [DirectorCall.registerAgent ⟨"Рита", "ROYALTY-ENGINE", "Менеджер по роялти",
          "💰", 0, [], "active"⟩ (.fresh []),
        DirectorCall.handleTelegram "2025-12-31T09:00:00" "royalty payout for Q4",
        DirectorCall.delegate (.fresh ⟨"sign the new contract", "pending"⟩)], call.Fresh) ∧
      Consistent id (run id [DirectorCall.registerAgent ⟨"Рита", "ROYALTY-ENGINE",
          "Менеджер по роялти", "💰", 0, [], "active"⟩ (.fresh []),
        DirectorCall.handleTelegram "2025-12-31T09:00:00" "royalty payout for Q4",
        DirectorCall.delegate (.fresh ⟨"sign the new contract", "pending"⟩)] LabelDirector.new) :=
  ⟨⟨fun _ _ h => by simp [LabelDirector.new, LabelDirector.postInit] at h,
      fun _ _ _ _ h => by simp [LabelDirector.new, LabelDirector.postInit] at h⟩, by decide,
    run_consistent id _ _ ⟨fun _ _ h => by simp [LabelDirector.new, LabelDirector.postInit] at h,
      fun _ _ _ _ h => by simp [LabelDirector.new, LabelDirector.postInit] at h⟩ (by decide)⟩

end Director

end MusicLabel

------------------------------------------------------------
-- The Decision Log over Runs
------------------------------------------------------------

namespace MusicLabel

namespace Director

section Session

variable (lower : String → String)

/- One call keeps the rules and adds its records. -/
theorem step_decisions
    (d : LabelDirector)
    (call : DirectorCall) :
    (step lower d call).escalationRules = d.escalationRules ∧
      (step lower d call).decisionLog =
        d.decisionLog ++ (escalationOf lower d.escalationRules call).toList ∧
      (step lower d call).delegations = d.delegations ++ (delegationOfCall lower d call).toList := by
  have hFresh : ∀ task : AgentTask,
      (delegateNew lower task d).director.escalationRules = d.escalationRules ∧
        (delegateNew lower task d).director.decisionLog = d.decisionLog ∧
        (delegateNew lower task d).director.delegations =
          d.delegations ++ (delegationOf lower task.text).toList := fun task => by
    obtain ⟨-, hDirector, hDelegations⟩ := delegateNew_frame lower (d := d) task
    exact ⟨congrArg Director.escalationRules hDirector, congrArg Director.decisionLog hDirector,
      hDelegations⟩
  cases call with
  | registerAgent agent tasks =>
      cases tasks with
      | fresh tasks =>
          simp [step, registerAgent, escalationOf, delegationOfCall, LabelDirector.allocList]
      | existing ref =>
          simp only [step, escalationOf, delegationOfCall]
          split <;> simp [registerAgent]
  | delegate task =>
      cases task with
      | fresh task => simpa [step, escalationOf, delegationOfCall] using hFresh task
      | existing ref =>
          simp only [step, escalationOf, delegationOfCall]
          split_ifs with hRef
          · obtain ⟨-, hDirector, hDelegations, -⟩ := delegate_frame lower (d := d) ⟨ref, hRef⟩
            exact ⟨congrArg Director.escalationRules hDirector,
              by simpa using congrArg Director.decisionLog hDirector, hDelegations⟩
          · simp
  | escalate issue fromAgent =>
      simp [step, escalate_cases, escalationOf, delegationOfCall]
  | handleTelegram timestamp message =>
      simp only [step, director_handleTelegram, escalationOf, delegationOfCall]
      split_ifs
      · simp
      · simpa using hFresh { text := message }

/-
  Over any run the rules stay as they were, and the log gains, in call
  order, one record for each escalation some rule matches and one for
  each task some agent scores.
-/
theorem run_decisions
    (calls : List DirectorCall)
    (d : LabelDirector) :
    (run lower calls d).escalationRules = d.escalationRules ∧
      (run lower calls d).decisionLog =
        d.decisionLog ++ calls.filterMap (escalationOf lower d.escalationRules) ∧
      (run lower calls d).delegations = d.delegations ++ runDelegations lower calls d := by
  induction calls generalizing d with
  | nil => simp [run, runDelegations]
  | cons call calls ih =>
      obtain ⟨hRules, hEscalations, hDelegations⟩ := step_decisions lower d call
      obtain ⟨hRules', hEscalations', hDelegations'⟩ := ih (step lower d call)
      have hRun : run lower (call :: calls) d = run lower calls (step lower d call) := rfl
      refine ⟨by rw [hRun, hRules', hRules], ?_, ?_⟩
      · rw [hRun, hEscalations', hEscalations, hRules, List.filterMap_cons]
        cases escalationOf lower d.escalationRules call <;> simp
      · rw [hRun, hDelegations', hDelegations, runDelegations, List.append_assoc]

/-
  After any run the quarterly review lists, after the escalations it
  listed before, exactly the escalations some rule matched during the
  run, in order, and its decision count grows by those and by the tasks
  some agent scored: no decision is lost or counted twice.
-/
theorem quarterlyReview_run
    (now : PyDate)
    (quarter : Option String)
    (calls : List DirectorCall)
    (d : LabelDirector) :
    (quarterlyReview now quarter (run lower calls d)).escalations =
        (quarterlyReview now quarter d).escalations ++
          calls.filterMap (escalationOf lower d.escalationRules) ∧
      (quarterlyReview now quarter (run lower calls d)).totalDecisions =
        (quarterlyReview now quarter d).totalDecisions +
          (calls.filterMap (escalationOf lower d.escalationRules)).length +
          (runDelegations lower calls d).length := by
  obtain ⟨-, hEscalations, hDelegations⟩ := run_decisions lower calls d
  refine ⟨by simp only [quarterlyReview, hEscalations], ?_⟩
  simp only [quarterlyReview, hEscalations, hDelegations, List.length_append]
  omega

end Session

end Director

end MusicLabel
