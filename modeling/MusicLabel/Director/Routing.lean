import MusicLabel.Director.Escalation
import MusicLabel.Python.Dict
import MusicLabel.Python.Value

/-
  The task router of `director.py`: `Director.delegate` scores every
  agent of `ROUTING_RULES` by the number of its keywords that occur in
  the lowered task text, keeps the agents that score, and routes the
  task to `max(scores, key=scores.get)`, the first agent in table order
  with the largest score. The routed task becomes `active` and joins the
  task list of its agent when that agent is registered; the decision is
  recorded either way. A task no keyword matches is logged and dropped.

  Tasks and task lists are Python objects: `delegate` sets the status of
  the task object it is given, wherever that object is held, and appends
  to the list object of the agent, which other agents may hold too. The
  director is modelled with a heap of its task objects and one of its
  task lists, each addressed by position; an agent holds the position
  of its list, and a list the positions of its tasks.

  `str.lower` is a parameter, as in `Director.escalate`. The director's
  `_decision_log` holds escalation and delegation records in one list;
  here the escalation records stay in `Director.decisionLog` and the
  delegation records sit beside them in `LabelDirector.delegations`.

  Correctness is proven by:
    * `Director.routingScores_entries`: the scores, in table order
    * `maxBy_spec`: the first largest item
    * `Director.delegate_routing`: the agent a task is routed to
    * `Director.task_delegate`, `Director.taskList_delegate`: one call on the heap

  Main declarations:
    * `AgentTask`, `TelegramCommand`, `Agent`, `DelegationRecord`, `LabelDirector`
    * `LabelDirector.task`, `LabelDirector.taskList`, `LabelDirector.tasksOf`
    * `Director.routingRules`, `Director.routingScores`, `Director.bestAgent`
    * `Director.delegate`, `Director.registerAgent`, `Director.routesToList`
-/

------------------------------------------------------------
-- Agents and the Director
------------------------------------------------------------

namespace MusicLabel

/- `AgentTask`: a task's text and its status, `pending`, `active`, `done` or `blocked`. -/
structure AgentTask where
  text : String
  status : String := "pending"
  deriving DecidableEq, Repr, Inhabited

/- `TelegramCommand`: a command, its description, and whether it is for admins only. -/
structure TelegramCommand where
  command : String
  description : String
  adminOnly : Bool := false
  deriving DecidableEq, Repr

/-
  The fields of a `BaseAgent` the director reads, with their defaults;
  `tasks` is the position of the agent's task list in the director's
  heap of lists.
-/
structure Agent where
  name : String
  codename : String
  role : String
  avatar : String := "🤖"
  tasks : Nat
  commands : List TelegramCommand := []
  status : String := "planned"
  deriving DecidableEq, Repr

/- The record `delegate` appends to `_decision_log`, without its timestamp. -/
structure DelegationRecord where
  task : String
  routedTo : String
  scores : List (String × Nat)
  deriving DecidableEq, Repr

/-
  The `Director` dataclass: the escalation rules and records, its
  name, the registered agents by codename, the task queue, and the
  delegation records, with the heap of the task objects and of the
  task lists its agents hold. Every registered agent's list and every
  task of every list is in the heap.
-/
structure LabelDirector extends Director where
  name : String
  agents : PyDict String Agent
  taskQueue : List AgentTask
  delegations : List DelegationRecord
  taskObjects : List AgentTask
  taskLists : List (List Nat)
  agentsValid : ∀ codename agent, agents.get? codename = some agent → agent.tasks < taskLists.length
  listsValid : ∀ list ∈ taskLists, ∀ ref ∈ list, ref < taskObjects.length

/- `max(items, key=key)` over `first` and then `rest`: a later item wins only with a larger key. -/
def maxBy {α : Type} (key : α → Nat) (first : α) (rest : List α) : α :=
  rest.foldl (fun best item => if key best < key item then item else best) first

namespace LabelDirector

/- The task object at a heap position. -/
def task (d : LabelDirector) (ref : Nat) : AgentTask :=
  d.taskObjects.getD ref default

/- The task list at a heap position: the positions of its tasks. -/
def taskList (d : LabelDirector) (ref : Nat) : List Nat :=
  d.taskLists.getD ref []

/- `agent.tasks` as Python reads it: the task objects of the agent's list. -/
def tasksOf (d : LabelDirector) (agent : Agent) : List AgentTask :=
  (d.taskList agent.tasks).map d.task

/- Every task of a list is in the heap. -/
theorem lt_of_mem_taskList
    {d : LabelDirector}
    {listRef ref : Nat}
    (h : ref ∈ d.taskList listRef) :
    ref < d.taskObjects.length := by
  rw [taskList, List.getD_eq_getElem?_getD] at h
  cases hList : d.taskLists[listRef]? with
  | none => simp [hList] at h
  | some list =>
      rw [hList, Option.getD_some] at h
      exact d.listsValid list (List.getElem?_mem hList) ref h

/- `AgentTask(...)`: a new task object at the end of the heap. -/
def allocTask (d : LabelDirector) (task : AgentTask) : LabelDirector :=
  { d with
    taskObjects := d.taskObjects ++ [task]
    listsValid := fun list hList ref hRef => by
      rw [List.length_append]
      exact Nat.lt_add_right 1 (d.listsValid list hList ref hRef) }

/- A new list of new task objects, at the end of the heaps. -/
def allocList (d : LabelDirector) (tasks : List AgentTask) : LabelDirector :=
  { d with
    taskObjects := d.taskObjects ++ tasks
    taskLists := d.taskLists ++ [List.range' d.taskObjects.length tasks.length]
    agentsValid := fun codename agent h => by
      rw [List.length_append]
      exact Nat.lt_add_right 1 (d.agentsValid codename agent h)
    listsValid := by
      intro list hList ref hRef
      rw [List.length_append]
      rcases List.mem_append.mp hList with hOld | hNew
      · exact Nat.lt_add_right _ (d.listsValid list hOld ref hRef)
      · rw [List.mem_singleton.mp hNew, List.mem_range'_1] at hRef
        exact hRef.2 }

/- `task.status = status` on the task object at `ref`. -/
def setStatus (d : LabelDirector) (ref : Nat) (status : String) : LabelDirector :=
  { d with
    taskObjects := d.taskObjects.set ref { d.task ref with status := status }
    listsValid := by
      rw [List.length_set]
      exact d.listsValid }

/- `tasks.append(task)` on the list at `listRef`, of the task object at `ref`. -/
def appendTask (d : LabelDirector) (listRef : Nat) (ref : Fin d.taskObjects.length) :
    LabelDirector :=
  { d with
    taskLists := d.taskLists.set listRef (d.taskList listRef ++ [ref.1])
    agentsValid := by
      rw [List.length_set]
      exact d.agentsValid
    listsValid := by
      intro list hList r hr
      rcases List.mem_or_eq_of_mem_set hList with hOld | rfl
      · exact d.listsValid list hOld r hr
      · rcases List.mem_append.mp hr with hOld | hNew
        · exact lt_of_mem_taskList hOld
        · rw [List.mem_singleton.mp hNew]
          exact ref.2 }

end LabelDirector

namespace Director

/- `ROUTING_RULES`: each agent's codename with its keywords, in table order. -/
def routingRules : List (String × List String) :=
  [("ROYALTY-ENGINE",
      ["роялти", "royalty", "выплат", "сплит", "split", "аванс", "advance", "отчёт",
        "report", "баланс", "balance", "payout", "koala", "fetch", "расчёт"]),
    ("CONTRACT-MGR",
      ["контракт", "contract", "договор", "сплит", "split", "срок", "expir", "подписа",
        "sign", "юрид", "legal", "yandex", "диск"]),
    ("RELEASE-PIPE",
      ["релиз", "release", "трек", "track", "альбом", "album", "сингл", "single",
        "площад", "dsp", "isrc", "upc", "artwork"]),
    ("ANALYTICS-AI",
      ["аналитик", "analytic", "тренд", "trend", "стрим", "stream", "статистик", "stats",
        "дайджест", "digest", "прогноз", "forecast"]),
    ("DEVOPS-BOT",
      ["деплой", "deploy", "бэкап", "backup", "health", "лог", "log", "ci", "cd", "docker",
        "render", "сервер", "server", "scale"])]

/- `sum(1 for kw in keywords if kw in text_lower)`. -/
def keywordScore (textLower : String) (keywords : List String) : Nat :=
  (keywords.filter (Text.containsStr textLower)).length

/- The loop body filling `scores`: an agent that scores is entered with its score. -/
def addScore
    (textLower : String)
    (scores : PyDict String Nat)
    (rule : String × List String) : PyDict String Nat :=
  let score := keywordScore textLower rule.2
  if 0 < score then scores.set rule.1 score else scores

/- The dict `scores` of `delegate`. -/
def routingScores (textLower : String) : PyDict String Nat :=
  routingRules.foldl (addScore textLower) PyDict.empty

/- `None` for empty `scores`, and `max(scores, key=scores.get)` otherwise. -/
def bestAgent (scores : PyDict String Nat) : Option String :=
  match scores.keys with
  | [] => none
  | first :: rest => some (maxBy (scores.getD · 0) first rest)

/- The warning `"No agent matched for task: %s"`. -/
def noAgentWarning (text : String) : LogRecord :=
  ⟨.warning, "No agent matched for task: " ++ text.take 80⟩

/- The record `"Task delegated to %s (score=%d): %s"`. -/
def delegatedInfo (best : String) (score : Nat) (text : String) : LogRecord :=
  ⟨.info, "Task delegated to " ++ best ++ " (score=" ++ Nat.repr score ++ "): " ++ text.take 60⟩

/- The record `"Agent registered: %s (%s)"`. -/
def registeredInfo (agent : Agent) : LogRecord :=
  ⟨.info, "Agent registered: " ++ agent.name ++ " (" ++ agent.codename ++ ")"⟩

/- `self.agents[codename].tasks.append(task)` when `codename in self.agents`. -/
def assignTask
    (d : LabelDirector)
    (codename : String)
    (ref : Fin d.taskObjects.length) : LabelDirector :=
  match d.agents.get? codename with
  | some agent => d.appendTask agent.tasks ref
  | none => d

/- What `delegate` logs and returns, and the director after it. -/
structure Delegated where
  log : List LogRecord
  routedTo : Option String
  director : LabelDirector

section Delegate

/- `str.lower`. -/
variable (lower : String → String)

/-
  `delegate(task)` on the task object at `ref`: with no agent scoring, a
  warning and `None`; otherwise the decision is recorded (with
  `task.text[:120]`), the task becomes `active` and joins its agent's
  task list, and the codename is returned.
-/
def delegate (d : LabelDirector) (ref : Fin d.taskObjects.length) : Delegated :=
  let text := (d.task ref).text
  let scores := routingScores (lower text)
  match bestAgent scores with
  | none => ⟨[noAgentWarning text], none, d⟩
  | some best =>
      let recorded : LabelDirector :=
        { d.setStatus ref "active" with
          delegations := d.delegations ++ [⟨text.take 120, best, scores.entries⟩] }
      ⟨[delegatedInfo best (scores.getD best 0) text], some best,
        assignTask recorded best ⟨ref, by simp [recorded, LabelDirector.setStatus]⟩⟩

/- `delegate(AgentTask(...))`: a new task object, delegated. -/
def delegateNew (task : AgentTask) (d : LabelDirector) : Delegated :=
  delegate lower (d.allocTask task) ⟨d.taskObjects.length, by simp [LabelDirector.allocTask]⟩

/- `register_agent(agent)`: the agent is entered under its codename. -/
def registerAgent
    (d : LabelDirector)
    (agent : Agent)
    (hAgent : agent.tasks < d.taskLists.length) : List LogRecord × LabelDirector :=
  ([registeredInfo agent],
    { d with
      agents := d.agents.set agent.codename agent
      agentsValid := fun codename registered h => by
        rw [PyDict.get?_set] at h
        split at h
        · cases h
          exact hAgent
        · exact d.agentsValid codename registered h })

/- The agent `delegate` routes a text to. -/
def route (text : String) : Option String :=
  bestAgent (routingScores (lower text))

/- The registered agent `target` holds the list at `listRef`. -/
def holdsList (agents : PyDict String Agent) (listRef : Nat) (target : String) : Bool :=
  match agents.get? target with
  | some agent => agent.tasks = listRef
  | none => false

/- `delegate` appends a task of text `text` to the list at `listRef`. -/
def routesToList (agents : PyDict String Agent) (listRef : Nat) (text : String) : Bool :=
  match route lower text with
  | some target => holdsList agents listRef target
  | none => false

end Delegate

/- No two registered agents hold the same task list. -/
def DistinctLists (agents : PyDict String Agent) : Prop :=
  ∀ c₁ c₂ a₁ a₂, agents.get? c₁ = some a₁ → agents.get? c₂ = some a₂ → a₁.tasks = a₂.tasks → c₁ = c₂

end Director

end MusicLabel

------------------------------------------------------------
-- The First Largest Score
------------------------------------------------------------

namespace MusicLabel

/- Split around an item with smaller keys before it and none larger after, that item's key is largest. -/
theorem key_le_of_split
    {α : Type}
    {key : α → Nat}
    {items before after : List α}
    {best other : α}
    (hSplit : items = before ++ best :: after)
    (hBefore : ∀ item ∈ before, key item < key best)
    (hAfter : ∀ item ∈ after, key item ≤ key best)
    (hOther : other ∈ items) :
    key other ≤ key best := by
  subst hSplit
  simp only [List.mem_append, List.mem_cons] at hOther
  rcases hOther with hOther | rfl | hOther
  · exact le_of_lt (hBefore other hOther)
  · exact le_refl _
  · exact hAfter other hOther

/- `max` returns an item after only smaller keys and before none larger. -/
theorem maxBy_spec
    {α : Type}
    (key : α → Nat)
    (first : α)
    (rest : List α) :
    ∃ before after, first :: rest = before ++ maxBy key first rest :: after ∧
      (∀ item ∈ before, key item < key (maxBy key first rest)) ∧
      ∀ item ∈ after, key item ≤ key (maxBy key first rest) := by
  induction rest generalizing first with
  | nil => exact ⟨[], [], rfl, by simp, by simp⟩
  | cons item rest ih =>
      have hStep : maxBy key first (item :: rest) =
          maxBy key (if key first < key item then item else first) rest :=
        rfl
      rw [hStep]
      split
      case isTrue hLess =>
        obtain ⟨before, after, hSplit, hBefore, hAfter⟩ := ih item
        have hItem := key_le_of_split hSplit hBefore hAfter (List.mem_cons_self item rest)
        exact ⟨first :: before, after, by rw [hSplit]; rfl,
          List.forall_mem_cons.mpr ⟨lt_of_lt_of_le hLess hItem, hBefore⟩, hAfter⟩
      case isFalse hNotLess =>
        obtain ⟨before, after, hSplit, hBefore, hAfter⟩ := ih first
        have hFirst := key_le_of_split hSplit hBefore hAfter (List.mem_cons_self first rest)
        have hItem : key item ≤ key first := not_lt.mp hNotLess
        cases before with
        | nil =>
            obtain ⟨hBest, rfl⟩ := List.cons_eq_cons.mp hSplit
            exact ⟨[], item :: rest, by rw [← hBest, List.nil_append], by simp,
              List.forall_mem_cons.mpr ⟨le_trans hItem hFirst, hAfter⟩⟩
        | cons head before =>
            obtain ⟨hHead, hRest⟩ := List.cons_eq_cons.mp hSplit
            subst hHead
            have hLess := hBefore first (List.mem_cons_self first before)
            refine ⟨first :: item :: before, after, congrArg (first :: item :: ·) hRest, ?_, hAfter⟩
            exact List.forall_mem_cons.mpr ⟨hLess, List.forall_mem_cons.mpr
              ⟨lt_of_le_of_lt hItem hLess, fun other hOther =>
                hBefore other (List.mem_cons_of_mem first hOther)⟩⟩

namespace Director

/- The scores of a rule that scores. -/
def scoreEntry (textLower : String) (rule : String × List String) : Option (String × Nat) :=
  if 0 < keywordScore textLower rule.2 then some (rule.1, keywordScore textLower rule.2)
  else none

theorem foldl_addScore_entries
    (textLower : String)
    (rules : List (String × List String))
    (scores : PyDict String Nat)
    (hNodup : (rules.map Prod.fst).Nodup)
    (hFresh : ∀ rule ∈ rules, rule.1 ∉ scores.keys) :
    (rules.foldl (addScore textLower) scores).entries =
      scores.entries ++ rules.filterMap (scoreEntry textLower) := by
  induction rules generalizing scores with
  | nil => simp
  | cons rule rules ih =>
      simp only [List.map_cons, List.nodup_cons, List.mem_map] at hNodup
      have hRest : ∀ other ∈ rules, other.1 ∉ (addScore textLower scores rule).keys := by
        intro other hOther
        simp only [addScore]
        split
        · rw [PyDict.keys_set, if_neg (hFresh rule (List.mem_cons_self _ _))]
          simp only [List.mem_append, List.mem_singleton, not_or]
          exact ⟨hFresh other (List.mem_cons_of_mem _ hOther),
            fun h => hNodup.1 ⟨other, hOther, h⟩⟩
        · exact hFresh other (List.mem_cons_of_mem _ hOther)
      rw [List.foldl_cons, ih _ hNodup.2 hRest, List.filterMap_cons]
      simp only [addScore, scoreEntry]
      split
      · rw [PyDict.entries_set_of_not_mem _ _ _ (hFresh rule (List.mem_cons_self _ _))]
        simp
      · simp

/- `scores` holds, in table order, every agent with a keyword in the text and its count. -/
theorem routingScores_entries
    (textLower : String) :
    (routingScores textLower).entries = routingRules.filterMap (scoreEntry textLower) :=
  foldl_addScore_entries textLower routingRules PyDict.empty (by decide) (by simp)

end Director

end MusicLabel

------------------------------------------------------------
-- The Agent a Task Is Routed To
------------------------------------------------------------

namespace MusicLabel

namespace Director

theorem bestAgent_eq_none_iff
    (scores : PyDict String Nat) :
    bestAgent scores = none ↔ scores.keys = [] := by
  unfold bestAgent
  split <;> simp_all

/- The best agent comes after agents with smaller scores only, and before none with a larger one. -/
theorem bestAgent_spec
    {scores : PyDict String Nat}
    {best : String}
    (h : bestAgent scores = some best) :
    ∃ before after, scores.keys = before ++ best :: after ∧
      (∀ codename ∈ before, scores.getD codename 0 < scores.getD best 0) ∧
      ∀ codename ∈ after, scores.getD codename 0 ≤ scores.getD best 0 := by
  unfold bestAgent at h
  split at h
  · cases h
  · next first rest hKeys =>
      cases h
      rw [hKeys]
      exact maxBy_spec _ first rest

/- A rule has no score or the score of its codename, so a bound on those bounds it. -/
theorem keywordScore_of_filterMap
    {textLower : String}
    {rules : List (String × List String)}
    {codenames : List String}
    {scores : PyDict String Nat}
    {P : Nat → Prop}
    (hZero : P 0)
    (hRules : rules.filterMap (scoreEntry textLower) =
      codenames.map fun codename => (codename, scores.getD codename 0))
    (hScores : ∀ codename ∈ codenames, P (scores.getD codename 0)) :
    ∀ rule ∈ rules, P (keywordScore textLower rule.2) := by
  intro rule hRule
  by_cases hScore : 0 < keywordScore textLower rule.2
  · have hEntry : (rule.1, keywordScore textLower rule.2) ∈ rules.filterMap (scoreEntry textLower) :=
      List.mem_filterMap.mpr ⟨rule, hRule, by simp [scoreEntry, hScore]⟩
    rw [hRules] at hEntry
    obtain ⟨codename, hCodename, hPair⟩ := List.mem_map.mp hEntry
    obtain ⟨-, hValue⟩ := Prod.mk.inj hPair
    rw [← hValue]
    exact hScores codename hCodename
  · rw [Nat.eq_zero_of_not_pos hScore]
    exact hZero

section Route

variable (lower : String → String)

theorem route_eq_none_iff
    (text : String) :
    route lower text = none ↔ ∀ rule ∈ routingRules, keywordScore (lower text) rule.2 = 0 := by
  rw [route, bestAgent_eq_none_iff, PyDict.keys, List.map_eq_nil_iff, routingScores_entries,
    List.filterMap_eq_nil_iff]
  simp [scoreEntry]

/-
  A routed text goes to the first agent in table order with the largest
  keyword count, and that count is positive.
-/
theorem route_spec
    {text best : String}
    (h : route lower text = some best) :
    ∃ before keywords after, routingRules = before ++ (best, keywords) :: after ∧
      0 < keywordScore (lower text) keywords ∧
      (∀ rule ∈ before, keywordScore (lower text) rule.2 < keywordScore (lower text) keywords) ∧
      ∀ rule ∈ after, keywordScore (lower text) rule.2 ≤ keywordScore (lower text) keywords := by
  obtain ⟨before, after, hKeys, hBefore, hAfter⟩ := bestAgent_spec h
  have hEntries := PyDict.entries_eq_map_keys (routingScores (lower text)) 0
  rw [hKeys, routingScores_entries, List.map_append, List.map_cons] at hEntries
  obtain ⟨prefixRules, suffixRules, hRules, hPrefix, hSuffix⟩ :=
    List.filterMap_eq_append_iff.mp hEntries
  obtain ⟨skipped, rule, afterRules, hSuffixRules, hSkipped, hRule, hAfterRules⟩ :=
    List.filterMap_eq_cons_iff.mp hSuffix
  simp only [scoreEntry] at hRule
  split at hRule
  case isFalse => cases hRule
  case isTrue hPositive =>
    obtain ⟨hCodename, hScore⟩ := Prod.mk.inj (Option.some.inj hRule)
    have hBest : 0 < (routingScores (lower text)).getD best 0 := hScore ▸ hPositive
    refine ⟨prefixRules ++ skipped, rule.2, afterRules, ?_, hPositive, ?_, ?_⟩
    · rw [hRules, hSuffixRules, ← hCodename, List.append_assoc]
    · intro other hOther
      rcases List.mem_append.mp hOther with hOther | hOther
      · rw [hScore]
        exact keywordScore_of_filterMap (P := (· < (routingScores (lower text)).getD best 0)) hBest hPrefix hBefore other hOther
      · have hNone := hSkipped other hOther
        simp only [scoreEntry, ite_eq_right_iff, reduceCtorEq, imp_false, not_lt,
          Nat.le_zero] at hNone
        rw [hNone]
        exact hPositive
    · rw [hScore]
      exact keywordScore_of_filterMap (P := (· ≤ (routingScores (lower text)).getD best 0)) (Nat.zero_le _) hAfterRules hAfter

theorem routedTo_delegate
    (d : LabelDirector)
    (ref : Fin d.taskObjects.length) :
    (delegate lower d ref).routedTo = route lower (d.task ref).text := by
  simp only [delegate, route]
  cases bestAgent (routingScores (lower (d.task ref).text)) <;> rfl

/-
  `delegate` returns `None` exactly when no keyword of any agent occurs
  in the lowered text, and otherwise the first agent in table order
  whose keyword count is largest, a positive count.
-/
theorem delegate_routing
    (d : LabelDirector)
    (ref : Fin d.taskObjects.length) :
    let text := (d.task ref).text
    ((delegate lower d ref).routedTo = none ↔
        ∀ rule ∈ routingRules, keywordScore (lower text) rule.2 = 0) ∧
      ∀ best, (delegate lower d ref).routedTo = some best →
        ∃ before keywords after, routingRules = before ++ (best, keywords) :: after ∧
          0 < keywordScore (lower text) keywords ∧
          (∀ rule ∈ before, keywordScore (lower text) rule.2 < keywordScore (lower text) keywords) ∧
          ∀ rule ∈ after, keywordScore (lower text) rule.2 ≤ keywordScore (lower text) keywords := by
  intro text
  rw [routedTo_delegate]
  exact ⟨route_eq_none_iff lower text, fun _ => route_spec lower⟩

end Route

end Director

end MusicLabel

------------------------------------------------------------
-- One Delegation on the Heap
------------------------------------------------------------

namespace MusicLabel

namespace LabelDirector

variable {d : LabelDirector}

@[simp] theorem agents_allocTask
    (task : AgentTask) :
    (d.allocTask task).agents = d.agents :=
  rfl

@[simp] theorem taskList_allocTask
    (task : AgentTask) :
    (d.allocTask task).taskList = d.taskList :=
  rfl

@[simp] theorem agents_allocList
    (tasks : List AgentTask) :
    (d.allocList tasks).agents = d.agents :=
  rfl

@[simp] theorem length_allocTask
    (task : AgentTask) :
    (d.allocTask task).taskObjects.length = d.taskObjects.length + 1 := by
  simp [allocTask]

/- A new task object leaves every task of the heap as it was. -/
theorem task_allocTask
    {ref : Nat}
    (h : ref < d.taskObjects.length)
    (task : AgentTask) :
    (d.allocTask task).task ref = d.task ref := by
  simp only [LabelDirector.task, allocTask, List.getD_eq_getElem?_getD, List.getElem?_append_left h]

theorem task_allocTask_self
    (task : AgentTask) :
    (d.allocTask task).task d.taskObjects.length = task := by
  simp only [LabelDirector.task, allocTask, List.getD_eq_getElem?_getD,
    List.getElem?_concat_length, Option.getD_some]

/- A new task object is in no agent's list. -/
theorem tasksOf_allocTask
    (task : AgentTask)
    (agent : Agent) :
    (d.allocTask task).tasksOf agent = d.tasksOf agent :=
  List.map_congr_left fun _ hRef => task_allocTask (lt_of_mem_taskList (d := d) hRef) task

/- A status change keeps every text, and changes the status of its own object only. -/
theorem task_setStatus
    {ref : Nat}
    (h : ref < d.taskObjects.length)
    (status : String)
    (r : Nat) :
    (d.setStatus ref status).task r =
      if r = ref then { d.task r with status := status } else d.task r := by
  simp only [LabelDirector.task, setStatus, List.getD_eq_getElem?_getD, List.getElem?_set]
  split_ifs with hEq hEq' hEq'
  · subst hEq
    rfl
  · exact absurd hEq.symm hEq'
  · exact absurd hEq'.symm hEq
  · rfl

/- Appending to one list leaves every other list as it was. -/
theorem taskList_appendTask
    (listRef : Nat)
    (ref : Fin d.taskObjects.length)
    (l : Nat) :
    (d.appendTask listRef ref).taskList l =
      d.taskList l ++ if l = listRef ∧ l < d.taskLists.length then [ref.1] else [] := by
  simp only [taskList, appendTask, List.getD_eq_getElem?_getD, List.getElem?_set]
  by_cases hEq : listRef = l
  · subst hEq
    by_cases hLt : listRef < d.taskLists.length
    · simp [hLt]
    · simp [hLt, List.getElem?_eq_none (Nat.le_of_not_lt hLt)]
  · simp [hEq, Ne.symm hEq]

end LabelDirector

namespace Director

section Delegate

variable (lower : String → String) {d : LabelDirector}

/- The record a text adds to the decision log: one when it is routed, none otherwise. -/
def delegationOf (text : String) : Option DelegationRecord :=
  (route lower text).map fun best =>
    ⟨text.take 120, best, (routingScores (lower text)).entries⟩

/- A list no registered agent holds is appended to by no delegation. -/
theorem routesToList_of_le
    {listRef : Nat}
    (h : d.taskLists.length ≤ listRef)
    (text : String) :
    routesToList lower d.agents listRef text = false := by
  unfold routesToList holdsList
  split
  · next target _ =>
      cases hAgent : d.agents.get? target with
      | none => rfl
      | some agent =>
          have := d.agentsValid target agent hAgent
          simp only [decide_eq_false_iff_not]
          omega
  · rfl

/- One call keeps the registered agents and the escalation state, and adds its record. -/
theorem delegate_frame
    (ref : Fin d.taskObjects.length) :
    (delegate lower d ref).director.agents = d.agents ∧
      (delegate lower d ref).director.toDirector = d.toDirector ∧
      (delegate lower d ref).director.delegations =
        d.delegations ++ (delegationOf lower (d.task ref).text).toList ∧
      (delegate lower d ref).director.taskObjects.length = d.taskObjects.length ∧
      (delegate lower d ref).director.taskLists.length = d.taskLists.length := by
  simp only [delegate, delegationOf, route]
  split
  · next hBest => simp [hBest]
  · next best hBest =>
      simp only [hBest, assignTask]
      split <;> simp [LabelDirector.appendTask, LabelDirector.setStatus]

/- One call sets its task `active` when it is routed, and changes no other task. -/
theorem task_delegate
    (ref : Fin d.taskObjects.length)
    (r : Nat) :
    (delegate lower d ref).director.task r =
      if (route lower (d.task ref).text).isSome ∧ r = ref.1 then
        { d.task r with status := "active" }
      else d.task r := by
  simp only [delegate, route]
  split
  · next hBest => simp [hBest]
  · next best hBest =>
      simp only [hBest, Option.isSome_some, true_and, assignTask]
      have hStatus := LabelDirector.task_setStatus (d := d) ref.2 "active" r
      split <;> simpa [LabelDirector.task, LabelDirector.appendTask] using hStatus

/- One call appends its task to the list of the agent it is routed to, and to no other list. -/
theorem taskList_delegate
    (ref : Fin d.taskObjects.length)
    (l : Nat) :
    (delegate lower d ref).director.taskList l =
      d.taskList l ++ if routesToList lower d.agents l (d.task ref).text then [ref.1] else [] := by
  by_cases hValid : l < d.taskLists.length
  · simp only [delegate, routesToList, route]
    split
    · next hBest => simp [hBest]
    · next best hBest =>
        simp only [hBest, assignTask, holdsList, LabelDirector.setStatus]
        cases hAgent : d.agents.get? best with
        | none => simp [LabelDirector.taskList]
        | some agent =>
            simp only [LabelDirector.taskList_appendTask]
            by_cases hHolds : agent.tasks = l
            · simp [hHolds, hValid, LabelDirector.taskList]
            · simp [hHolds, Ne.symm hHolds, LabelDirector.taskList]
  · rw [routesToList_of_le lower (Nat.le_of_not_lt hValid)]
    have hLength := (delegate_frame lower ref).2.2.2.2
    simp only [LabelDirector.taskList, List.getD_eq_getElem?_getD,
      List.getElem?_eq_none (Nat.le_of_not_lt hValid),
      List.getElem?_eq_none (hLength ▸ Nat.le_of_not_lt hValid)]
    rfl

/- `delegate(AgentTask(...))` keeps the agents and the escalation state, and adds its record. -/
theorem delegateNew_frame
    (task : AgentTask) :
    (delegateNew lower task d).director.agents = d.agents ∧
      (delegateNew lower task d).director.toDirector = d.toDirector ∧
      (delegateNew lower task d).director.delegations =
        d.delegations ++ (delegationOf lower task.text).toList := by
  obtain ⟨hAgents, hDirector, hDelegations, -⟩ := delegate_frame lower (d := d.allocTask task)
    ⟨d.taskObjects.length, by simp⟩
  rw [LabelDirector.task_allocTask_self] at hDelegations
  exact ⟨hAgents, hDirector, hDelegations⟩

/- `register_agent` changes the registry only. -/
theorem registerAgent_frame
    (agent : Agent)
    (hAgent : agent.tasks < d.taskLists.length) :
    (registerAgent d agent hAgent).2.agents = d.agents.set agent.codename agent ∧
      (registerAgent d agent hAgent).2.toDirector = d.toDirector ∧
      (registerAgent d agent hAgent).2.delegations = d.delegations ∧
      (registerAgent d agent hAgent).2.tasksOf = d.tasksOf :=
  ⟨rfl, rfl, rfl, rfl⟩

theorem routesToList_isSome
    {agents : PyDict String Agent}
    {listRef : Nat}
    {text : String}
    (h : routesToList lower agents listRef text = true) :
    (route lower text).isSome := by
  unfold routesToList at h
  split at h <;> simp_all

/- With distinct lists, a registered agent's list is appended to for the tasks routed to it. -/
theorem routesToList_iff_of_distinct
    {agents : PyDict String Agent}
    (hDistinct : DistinctLists agents)
    {codename : String}
    {agent : Agent}
    (hAgent : agents.get? codename = some agent)
    (text : String) :
    routesToList lower agents agent.tasks text = true ↔ route lower text = some codename := by
  unfold routesToList holdsList
  cases hRoute : route lower text with
  | none => simp
  | some target =>
      cases hTarget : agents.get? target with
      | none =>
          simp only [hTarget, Bool.false_eq_true, false_iff, Option.some.injEq]
          rintro rfl
          simp [hAgent] at hTarget
      | some other =>
          simp only [hTarget, decide_eq_true_eq, Option.some.injEq]
          constructor
          · exact hDistinct target codename other agent hTarget hAgent
          · rintro rfl
            rw [hAgent] at hTarget
            cases hTarget
            rfl

/-
  A new task object delegated: it joins, as an active task, the list of
  every agent the task is routed to, and every other task stays as it
  was.
-/
theorem tasksOf_delegateNew
    (task : AgentTask)
    (agent : Agent) :
    (delegateNew lower task d).director.tasksOf agent =
      d.tasksOf agent ++
        if routesToList lower d.agents agent.tasks task.text then [{ task with status := "active" }]
        else [] := by
  have hNew := LabelDirector.task_allocTask_self (d := d) task
  simp only [delegateNew, LabelDirector.tasksOf, taskList_delegate, LabelDirector.taskList_allocTask,
    LabelDirector.agents_allocTask, hNew, List.map_append]
  congr 1
  · refine List.map_congr_left fun r hr => ?_
    have hLt := LabelDirector.lt_of_mem_taskList hr
    rw [task_delegate, if_neg fun h => absurd h.2 (Nat.ne_of_lt hLt), LabelDirector.task_allocTask hLt]
  · split
    · next hRoutes =>
        simp [task_delegate, hNew, routesToList_isSome lower hRoutes]
    · rfl

end Delegate

end Director

end MusicLabel
