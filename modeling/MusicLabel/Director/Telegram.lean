import MusicLabel.Director.Routing

/-
  The Telegram front end of `director.py`: `Director.handle_telegram`
  and the `status_report` its `/status` command renders.

  The command is the lowered first word of the stripped message.
  `/help`, `/status` and `/team` answer from the director's state and
  change nothing; any other message becomes a new task object that
  `delegate` routes, and the answer names the agent it went to. So over
  any run of messages the registry stays as it was, every task list
  gains, in order, the messages routed to an agent holding it, and the
  status report counts each such message once, as an active task.

  `str.lower` and the clock reading `datetime.utcnow().isoformat()` are
  parameters.

  Correctness is proven by:
    * `Director.director_handleTelegram`, `Director.handleTelegram_tasksOf`: one message
    * `Director.tasksOf_handleAll`: a run of messages
    * `Director.handleAll_agents`, `Director.statusReport_handleAll`

  Main declarations:
    * `AgentReport`, `StatusReport`, `Director.statusReport`
    * `Director.commandOf`, `Director.handleTelegram`, `Director.handleAll`
-/

------------------------------------------------------------
-- The Status Report and the Replies
------------------------------------------------------------

namespace MusicLabel

/- The entry `status_report` gives an agent. -/
structure AgentReport where
  name : String
  role : String
  status : String
  tasksPending : Nat
  tasksActive : Nat
  tasksDone : Nat
  deriving DecidableEq, Repr

/- The dict `status_report` returns. -/
structure StatusReport where
  timestamp : String
  director : String
  agentsCount : Nat
  queueLength : Nat
  agents : List (String × AgentReport)
  deriving DecidableEq, Repr

namespace Director

/- `len([t for t in tasks if t.status == status])`. -/
def countStatus (status : String) (tasks : List AgentTask) : Nat :=
  (tasks.filter (·.status = status)).length

/- The entry of one agent in `status_report`, counting the tasks of its list. -/
def agentReport (d : LabelDirector) (agent : Agent) : AgentReport :=
  ⟨agent.name, agent.role, agent.status, countStatus "pending" (d.tasksOf agent),
    countStatus "active" (d.tasksOf agent), countStatus "done" (d.tasksOf agent)⟩

/- `status_report()` at the clock reading `timestamp`. -/
def statusReport (timestamp : String) (d : LabelDirector) : StatusReport :=
  ⟨timestamp, d.name, d.agents.entries.length, d.taskQueue.length,
    d.agents.entries.map fun entry => (entry.1, agentReport d entry.2)⟩

/- A line of the `/help` answer. -/
def helpLine (cmd : TelegramCommand) : String :=
  "  <code>" ++ cmd.command ++ "</code> -- " ++ cmd.description ++
    if cmd.adminOnly then " (admin)" else ""

/- The `/help` answer: every command of every agent, in registration order. -/
def helpReply (d : LabelDirector) : String :=
  "\n".intercalate ("<b>Доступные команды:</b>" ::
    d.agents.entries.flatMap fun entry => entry.2.commands.map helpLine)

/- A line of the `/status` answer. -/
def statusLine (codename : String) (info : AgentReport) : String :=
  "  " ++ info.name ++ " (" ++ codename ++ "): pending=" ++ Nat.repr info.tasksPending ++
    ", active=" ++ Nat.repr info.tasksActive ++ ", done=" ++ Nat.repr info.tasksDone

/- The `/status` answer, dated by `report['timestamp'][:10]`. -/
def statusReply (timestamp : String) (d : LabelDirector) : String :=
  let report := statusReport timestamp d
  "\n".intercalate (("<b>Статус лейбла</b> (" ++ report.timestamp.take 10 ++ ")") ::
    report.agents.map fun entry => statusLine entry.1 entry.2)

/- A line of the `/team` answer. -/
def teamLine (agent : Agent) : String :=
  "  " ++ agent.avatar ++ " " ++ agent.name ++ " -- " ++ agent.role ++ " [" ++ agent.status ++ "]"

/- The `/team` answer. -/
def teamReply (d : LabelDirector) : String :=
  "\n".intercalate (("<b>AI-команда (" ++ Nat.repr d.agents.entries.length ++ " агентов):</b>") ::
    d.agents.entries.map fun entry => teamLine entry.2)

/- The answer to a message routed to `target`. -/
def routedReply (agentName target : String) : String :=
  "Задача направлена агенту " ++ agentName ++ " (" ++ target ++ ")."

/- The answer to a message no agent takes. -/
def unrecognizedReply : String :=
  "Команда не распознана. Используй /help для списка команд."

/- What `handle_telegram` answers and logs, and the director after it. -/
structure Handled where
  reply : String
  log : List LogRecord
  director : LabelDirector

section Telegram

/- `str.lower`. -/
variable (lower : String → String)

/- `parts[0].lower() if parts else ""` for `parts = message.strip().split(maxsplit=1)`. -/
def commandOf (message : String) : String :=
  match Text.strip Text.isSpace message.data with
  | [] => ""
  | stripped => lower (String.mk (stripped.takeWhile fun c => !Text.isSpace c))

/- `handle_telegram(message)` at the clock reading `timestamp`. -/
def handleTelegram (timestamp message : String) (d : LabelDirector) : Handled :=
  let command := commandOf lower message
  if command = "/help" then ⟨helpReply d, [], d⟩
  else if command = "/status" then ⟨statusReply timestamp d, [], d⟩
  else if command = "/team" then ⟨teamReply d, [], d⟩
  else
    let delegated := delegateNew lower { text := message } d
    match delegated.routedTo with
    | some target =>
        if target = "" then ⟨unrecognizedReply, delegated.log, delegated.director⟩
        else
          let agentName :=
            match delegated.director.agents.get? target with
            | some agent => agent.name
            | none => target
          ⟨routedReply agentName target, delegated.log, delegated.director⟩
    | none => ⟨unrecognizedReply, delegated.log, delegated.director⟩

/- The commands answered from the state. -/
def IsCommand (message : String) : Prop :=
  commandOf lower message ∈ ["/help", "/status", "/team"]

instance (message : String) : Decidable (IsCommand lower message) :=
  inferInstanceAs (Decidable (commandOf lower message ∈ _))

/- A run of `handle_telegram` calls, each message with its clock reading. -/
def handleAll (messages : List (String × String)) (d : LabelDirector) : LabelDirector :=
  messages.foldl (fun d message => (handleTelegram lower message.1 message.2 d).director) d

end Telegram

end Director

end MusicLabel

------------------------------------------------------------
-- Runs of Messages
------------------------------------------------------------

namespace MusicLabel

namespace Director

section Telegram

variable (lower : String → String)

/- A command leaves the director as it was; any other message is delegated as a new task. -/
theorem director_handleTelegram
    (timestamp message : String)
    (d : LabelDirector) :
    (handleTelegram lower timestamp message d).director =
      if IsCommand lower message then d else (delegateNew lower { text := message } d).director := by
  simp only [handleTelegram, IsCommand, List.mem_cons, List.mem_singleton, List.not_mem_nil,
    or_false]
  by_cases hHelp : commandOf lower message = "/help"
  · simp [hHelp]
  by_cases hStatus : commandOf lower message = "/status"
  · simp [hStatus]
  by_cases hTeam : commandOf lower message = "/team"
  · simp [hTeam]
  simp only [hHelp, hStatus, hTeam, ↓reduceIte, or_self]
  split
  · split <;> rfl
  · rfl

/-
  One message keeps the registered agents, and appends itself, as an
  active task, to the list of every agent it is routed to when it is
  not a command.
-/
theorem handleTelegram_tasksOf
    (timestamp message : String)
    (d : LabelDirector) :
    (handleTelegram lower timestamp message d).director.agents = d.agents ∧
      ∀ agent, (handleTelegram lower timestamp message d).director.tasksOf agent =
        d.tasksOf agent ++
          if ¬IsCommand lower message ∧ routesToList lower d.agents agent.tasks message then
            [{ text := message, status := "active" }]
          else [] := by
  rw [director_handleTelegram]
  by_cases hCommand : IsCommand lower message
  · simp [hCommand]
  · simp only [hCommand, ↓reduceIte, not_false_eq_true, true_and]
    exact ⟨(delegateNew_frame lower _).1, fun agent => tasksOf_delegateNew lower _ agent⟩

/- A run of messages keeps the registered agents. -/
theorem agents_handleAll
    (messages : List (String × String))
    (d : LabelDirector) :
    (handleAll lower messages d).agents = d.agents := by
  induction messages generalizing d with
  | nil => rfl
  | cons message messages ih =>
      exact (ih _).trans (handleTelegram_tasksOf lower message.1 message.2 d).1

/-
  Over a run of messages every task list gains, in order and once each,
  the messages other than `/help`, `/status` and `/team` routed to an
  agent that holds it, as active tasks; no other task changes.
-/
theorem tasksOf_handleAll
    (messages : List (String × String))
    (d : LabelDirector)
    (agent : Agent) :
    (handleAll lower messages d).tasksOf agent =
      d.tasksOf agent ++
        (messages.filter fun message =>
          ¬IsCommand lower message.2 ∧ routesToList lower d.agents agent.tasks message.2).map
          fun message => { text := message.2, status := "active" } := by
  induction messages generalizing d with
  | nil => simp [handleAll]
  | cons message messages ih =>
      obtain ⟨hAgents, hTasks⟩ := handleTelegram_tasksOf lower message.1 message.2 d
      have hRun : handleAll lower (message :: messages) d =
          handleAll lower messages (handleTelegram lower message.1 message.2 d).director :=
        rfl
      rw [hRun, ih, hTasks, hAgents, List.filter_cons]
      by_cases hCommand : IsCommand lower message.2 <;>
        by_cases hRoutes : routesToList lower d.agents agent.tasks message.2 <;>
          simp [hCommand, hRoutes]

/-
  Over any run of Telegram messages the registry stays as it was, and
  each registered agent's task list gains, in order and once each,
  exactly the messages other than `/help`, `/status` and `/team` routed
  to an agent holding that list, as active tasks: with distinct lists,
  the messages routed to the agent itself.
-/
theorem handleAll_agents
    (messages : List (String × String))
    (d : LabelDirector)
    (codename : String) :
    (handleAll lower messages d).agents = d.agents ∧
      ∀ agent, d.agents.get? codename = some agent →
        (handleAll lower messages d).tasksOf agent =
            d.tasksOf agent ++
              (messages.filter fun message =>
                ¬IsCommand lower message.2 ∧ routesToList lower d.agents agent.tasks message.2).map
                (fun message => { text := message.2, status := "active" }) ∧
          (DistinctLists d.agents →
            ∀ text, routesToList lower d.agents agent.tasks text = true ↔
              route lower text = some codename) :=
  ⟨agents_handleAll lower messages d, fun agent hAgent =>
    ⟨tasksOf_handleAll lower messages d agent, fun hDistinct =>
      routesToList_iff_of_distinct lower hDistinct hAgent⟩⟩

/- Appending active tasks raises the active count by their number and no other count. -/
theorem countStatus_append_active
    (status : String)
    (tasks routed : List AgentTask)
    (hActive : ∀ task ∈ routed, task.status = "active") :
    countStatus status (tasks ++ routed) =
      countStatus status tasks + if status = "active" then routed.length else 0 := by
  unfold countStatus
  rw [List.filter_append, List.length_append]
  by_cases hStatus : status = "active"
  · rw [if_pos hStatus, List.filter_eq_self (l := routed).mpr fun task hTask => by
      simp [hActive task hTask, hStatus]]
  · rw [if_neg hStatus, List.filter_eq_nil_iff (l := routed).mpr fun task hTask => by
      simp [hActive task hTask, Ne.symm hStatus], List.length_nil]

/-
  After any run of Telegram messages the status report lists the same
  agents in the same order, each with its name, role, status, pending
  and done counts as before, and one more active task for each message
  routed to an agent holding its list.
-/
theorem statusReport_handleAll
    (timestamp : String)
    (messages : List (String × String))
    (d : LabelDirector) :
    (statusReport timestamp (handleAll lower messages d)).agents =
      d.agents.entries.map fun entry =>
        (entry.1, { agentReport d entry.2 with
          tasksActive := (agentReport d entry.2).tasksActive +
            (messages.filter fun message =>
              ¬IsCommand lower message.2 ∧
                routesToList lower d.agents entry.2.tasks message.2).length }) := by
  simp only [statusReport, agents_handleAll]
  refine List.map_congr_left fun entry _ => ?_
  have hActive : ∀ task ∈ (messages.filter fun message =>
      ¬IsCommand lower message.2 ∧ routesToList lower d.agents entry.2.tasks message.2).map
        (fun message => ({ text := message.2, status := "active" } : AgentTask)),
      task.status = "active" := by
    intro task hTask
    obtain ⟨message, -, rfl⟩ := List.mem_map.mp hTask
    rfl
  have hCount := fun status => countStatus_append_active status (d.tasksOf entry.2) _ hActive
  simp only [agentReport, tasksOf_handleAll, hCount]
  simp

end Telegram

end Director

end MusicLabel
