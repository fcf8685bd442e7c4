import MusicLabel.Python.Text
import Mathlib.Data.List.Infix

/-
  The escalation router of `director.py`: `Director.escalate` checks
  its rules in order, acts on the first whose agent is the reporting
  agent and whose condition occurs in the lowered issue, and records
  that decision; with no rule matching it answers `notify_admin` and
  records nothing.

  `str.lower` is the Unicode case mapping of the Python runtime; it is
  a parameter here, and every result holds whatever it is.

  Correctness is proven by:
    * `Director.escalate_cases`: the two outcomes of one call
    * `Director.escalate_first_match`: the first-match contract
    * `Director.escalateAll_decisionLog`: the log over a run of calls
    * `Director.escalate_default_rules`: the outcome under the defaults

  Main declarations:
    * `EscalationRule`, `EscalationRecord`, `Escalation`, `Director`
    * `Director.defaultEscalationRules`, `Director.postInit`
    * `Director.escalate`
-/

------------------------------------------------------------
-- Rules and State
------------------------------------------------------------

namespace MusicLabel

namespace Text

/- `needle in haystack` on strings: `needle` occurs as a substring. -/
def containsStr (haystack needle : String) : Bool :=
  decide (needle.data <:+: haystack.data)

end Text

/- `EscalationRule`: the reporting agent, a condition, and an action. -/
structure EscalationRule where
  fromAgent : String
  condition : String
  action : String
  deriving DecidableEq, Repr

/- The record `escalate` appends to `_decision_log`, without its timestamp. -/
structure EscalationRecord where
  fromAgent : String
  issue : String
  ruleAction : String
  deriving DecidableEq, Repr

/- The dict `escalate` returns: `action` and `message`. -/
structure Escalation where
  action : String
  message : String
  deriving DecidableEq, Repr

/- The fields of a `Director` that `escalate` reads and writes. -/
structure Director where
  escalationRules : List EscalationRule
  decisionLog : List EscalationRecord

namespace Director

/- The rules `__post_init__` installs when none were given. -/
def defaultEscalationRules : List EscalationRule :=
  [⟨"ROYALTY-ENGINE", "error_in_calculation", "notify_admin"⟩,
    ⟨"CONTRACT-MGR", "split_mismatch", "block"⟩,
    ⟨"DEVOPS-BOT", "deploy_failed", "notify_admin"⟩]

/- `__post_init__` on the rules: an empty rule list is replaced by the defaults. -/
def postInit (d : Director) : Director :=
  if d.escalationRules = [] then { d with escalationRules := defaultEscalationRules } else d

section Escalate

/- `str.lower`. -/
variable (lower : String → String)

/- The test of one rule: `rule.from_agent == from_agent and rule.condition in issue.lower()`. -/
def ruleMatches (issue fromAgent : String) (rule : EscalationRule) : Bool :=
  rule.fromAgent = fromAgent && Text.containsStr (lower issue) rule.condition

/- The message of a matched escalation. -/
def escalationMessage (fromAgent issue : String) : String :=
  "Escalation from " ++ fromAgent ++ ": " ++ issue

/- The message of an escalation no rule matched. -/
def unmatchedMessage (fromAgent issue : String) : String :=
  "Unmatched escalation from " ++ fromAgent ++ ": " ++ issue

/-
  `escalate(issue, from_agent)`: the loop over the rules returns at the
  first match, after appending the decision (with `issue[:120]`); past
  the loop the answer is `notify_admin`.
-/
def escalate (issue fromAgent : String) (d : Director) : Escalation × Director :=
  match d.escalationRules.find? (ruleMatches lower issue fromAgent) with
  | some rule =>
      (⟨rule.action, escalationMessage fromAgent issue⟩,
        { d with decisionLog := d.decisionLog ++ [⟨fromAgent, issue.take 120, rule.action⟩] })
  | none => (⟨"notify_admin", unmatchedMessage fromAgent issue⟩, d)

/- A run of escalations, each call given by its issue and reporting agent. -/
def escalateAll (calls : List (String × String)) (d : Director) : Director :=
  calls.foldl (fun d call => (escalate lower call.1 call.2 d).2) d

end Escalate

end Director

end MusicLabel

------------------------------------------------------------
-- The First-Match Contract
------------------------------------------------------------

namespace MusicLabel

namespace Director

variable (lower : String → String)

/- The record a call adds to the log: one for the first matching rule, none otherwise. -/
def recordOf (rules : List EscalationRule) (call : String × String) :
    Option EscalationRecord :=
  (rules.find? (ruleMatches lower call.1 call.2)).map fun rule =>
    ⟨call.2, call.1.take 120, rule.action⟩

/- The two outcomes of one call; the rules never change. -/
theorem escalate_cases
    (issue fromAgent : String)
    (d : Director) :
    (escalate lower issue fromAgent d).2 =
      { d with decisionLog :=
          d.decisionLog ++ (recordOf lower d.escalationRules (issue, fromAgent)).toList } := by
  unfold escalate recordOf
  cases d.escalationRules.find? (ruleMatches lower issue fromAgent) with
  | some rule => rfl
  | none => simp

/-
  The router contract: an escalation either takes the action of the
  first rule that matches it, with that decision recorded once, or
  matches no rule and gets `notify_admin` with nothing recorded. It is
  never dropped, and the rule table never changes.
-/
theorem escalate_first_match
    (issue fromAgent : String)
    (d : Director) :
    (escalate lower issue fromAgent d).2.escalationRules = d.escalationRules ∧
      ((∃ before rule after,
          d.escalationRules = before ++ rule :: after ∧
          (∀ r ∈ before, ruleMatches lower issue fromAgent r = false) ∧
          ruleMatches lower issue fromAgent rule = true ∧
          (escalate lower issue fromAgent d).1 =
            ⟨rule.action, escalationMessage fromAgent issue⟩ ∧
          (escalate lower issue fromAgent d).2.decisionLog =
            d.decisionLog ++ [⟨fromAgent, issue.take 120, rule.action⟩]) ∨
        ((∀ rule ∈ d.escalationRules, ruleMatches lower issue fromAgent rule = false) ∧
          (escalate lower issue fromAgent d).1 =
            ⟨"notify_admin", unmatchedMessage fromAgent issue⟩ ∧
          (escalate lower issue fromAgent d).2 = d)) := by
  refine ⟨by rw [escalate_cases], ?_⟩
  unfold escalate
  cases hFind : d.escalationRules.find? (ruleMatches lower issue fromAgent) with
  | some rule =>
      obtain ⟨hMatch, before, after, hRules, hBefore⟩ := List.find?_eq_some.mp hFind
      exact .inl ⟨before, rule, after, hRules,
        fun r hr => by simpa using hBefore r hr, hMatch, rfl, rfl⟩
  | none =>
      exact .inr ⟨fun rule hRule => by simpa using List.find?_eq_none.mp hFind rule hRule,
        rfl, rfl⟩

/-
  Over any run of escalations the rule table stays as it was, and the
  log gains, in call order, exactly one record for each call some rule
  matched: no decision is lost or recorded twice.
-/
theorem escalateAll_decisionLog
    (calls : List (String × String))
    (d : Director) :
    (escalateAll lower calls d).escalationRules = d.escalationRules ∧
      (escalateAll lower calls d).decisionLog =
        d.decisionLog ++ calls.filterMap (recordOf lower d.escalationRules) := by
  induction calls generalizing d with
  | nil => simp [escalateAll]
  | cons call calls ih =>
      have hRun : escalateAll lower (call :: calls) d =
          escalateAll lower calls (escalate lower call.1 call.2 d).2 :=
        rfl
      obtain ⟨hRules, hLog⟩ := ih (escalate lower call.1 call.2 d).2
      rw [hRun, hRules, hLog, escalate_cases, List.filterMap_cons]
      cases recordOf lower d.escalationRules call <;> simp

end Director

end MusicLabel

------------------------------------------------------------
-- The Default Rules
------------------------------------------------------------

namespace MusicLabel

namespace Director

variable (lower : String → String)

/-
  Under the rules `__post_init__` installs, an escalation is blocked
  exactly when `CONTRACT-MGR` reports an issue whose lowered text
  contains `split_mismatch`; every other one goes to `notify_admin`,
  and none is auto-resolved.
-/
theorem escalate_default_rules
    (log : List EscalationRecord)
    (issue fromAgent : String) :
    (escalate lower issue fromAgent (postInit ⟨[], log⟩)).1.action =
      if fromAgent = "CONTRACT-MGR" ∧ Text.containsStr (lower issue) "split_mismatch" = true
      then "block" else "notify_admin" := by
  simp only [postInit, ↓reduceIte, escalate, defaultEscalationRules, List.find?_cons,
    ruleMatches]
  generalize Text.containsStr (lower issue) "error_in_calculation" = inCalculation
  generalize Text.containsStr (lower issue) "deploy_failed" = deployFailed
  by_cases hContract : fromAgent = "CONTRACT-MGR"
  · subst hContract
    cases Text.containsStr (lower issue) "split_mismatch" <;> simp
  · by_cases hRoyalty : fromAgent = "ROYALTY-ENGINE"
    · subst hRoyalty
      cases inCalculation <;> simp
    · by_cases hDevops : fromAgent = "DEVOPS-BOT"
      · subst hDevops
        cases deployFailed <;> simp
      · simp [hContract, Ne.symm hContract, Ne.symm hRoyalty, Ne.symm hDevops]

end Director

end MusicLabel
