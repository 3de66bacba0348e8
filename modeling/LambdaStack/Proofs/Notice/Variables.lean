import LambdaStack.Notice.Routing
import LambdaStack.Proofs.Entries
import Mathlib.Tactic.SplitIfs

/-!
# Variables of routing

What routing reads off a list of variables in which a name may occur any number of times. A topic is
the last value under its name that is not empty, while test mode follows the last value of its
variable whatever that is. Nothing else counts: neither variables of other names nor empty topics,
wherever they stand, nor the order of variables that occur once.
-/

namespace LambdaStack
namespace RoutingEnvironment

/-- The values under a name, in their order. -/
def valuesOf (name : String) (bindings : List (String × String)) : List String :=
  (bindings.filter fun binding => binding.1 = name).map Prod.snd

/-- The last value under a name. -/
def lastValue? (name : String) (bindings : List (String × String)) : Option String :=
  (valuesOf name bindings).getLast?

/-- The last value under a name that is not empty. -/
def lastTopic? (name : String) (bindings : List (String × String)) : Option String :=
  ((valuesOf name bindings).filter (· ≠ "")).getLast?

/-- The names of the variables that hold a topic. -/
def topicNames : List String := ["DispatchSnsArn", "ServiceAlarmSNSTopic"]

/-- A variable that is not read, or an empty topic. -/
def Idle (binding : String × String) : Prop :=
  binding.1 ∉ topicNames ++ ["STACKFN_ENV"] ∨ binding.1 ∈ topicNames ∧ binding.2 = ""

instance : DecidablePred Idle := fun _ => inferInstanceAs (Decidable (_ ∨ _))

theorem valuesOf_concat (name : String) (front : List (String × String))
    (last : String × String) :
    valuesOf name (front ++ [last]) =
      valuesOf name front ++ if last.1 = name then [last.2] else [] := by
  by_cases named : last.1 = name <;> simp [valuesOf, named]

theorem lastValue?_concat (name : String) (front : List (String × String))
    (last : String × String) :
    lastValue? name (front ++ [last]) =
      if last.1 = name then some last.2 else lastValue? name front := by
  rw [lastValue?, valuesOf_concat]
  split_ifs with named
  · exact List.getLast?_concat
  · rw [List.append_nil, lastValue?]

theorem lastTopic?_concat (name : String) (front : List (String × String))
    (last : String × String) :
    lastTopic? name (front ++ [last]) =
      if last.1 = name ∧ last.2 ≠ "" then some last.2 else lastTopic? name front := by
  rw [lastTopic?, valuesOf_concat, List.filter_append]
  by_cases named : last.1 = name
  · by_cases empty : last.2 = "" <;> simp [named, empty, lastTopic?]
  · simp [named, lastTopic?]

theorem lastTopic?_ne_empty (name : String) (bindings : List (String × String)) :
    lastTopic? name bindings ≠ some "" := by
  intro last_eq
  have mem := List.mem_of_getLast? last_eq
  simp at mem

theorem ofVariables_concat (front : List (String × String)) (last : String × String) :
    ofVariables (front ++ [last]) = (ofVariables front).setVariable last := by
  simp [ofVariables]

/-- What each variable does, by the names as they are written. -/
theorem setVariable_eq (environment : RoutingEnvironment) (binding : String × String) :
    environment.setVariable binding =
      if binding.1 = "DispatchSnsArn" then
        if binding.2 = "" then environment
        else { environment with dispatchTopic := some binding.2 }
      else if binding.1 = "ServiceAlarmSNSTopic" then
        if binding.2 = "" then environment
        else { environment with alarmTopic := some binding.2 }
      else if binding.1 = "STACKFN_ENV" then
        { environment with testMode := binding.2 = "test" }
      else environment := by
  obtain ⟨name, value⟩ := binding
  rfl

theorem dispatchTopic_setVariable (environment : RoutingEnvironment)
    (binding : String × String) :
    (environment.setVariable binding).dispatchTopic =
      if binding.1 = "DispatchSnsArn" ∧ binding.2 ≠ "" then some binding.2
      else environment.dispatchTopic := by
  by_cases named : binding.1 = "DispatchSnsArn"
  · by_cases empty : binding.2 = "" <;> simp [setVariable_eq, named, empty]
  · simp only [setVariable_eq, named, if_false, false_and]
    split_ifs <;> rfl

theorem alarmTopic_setVariable (environment : RoutingEnvironment) (binding : String × String) :
    (environment.setVariable binding).alarmTopic =
      if binding.1 = "ServiceAlarmSNSTopic" ∧ binding.2 ≠ "" then some binding.2
      else environment.alarmTopic := by
  by_cases named : binding.1 = "ServiceAlarmSNSTopic"
  · by_cases empty : binding.2 = "" <;> simp [setVariable_eq, named, empty]
  · simp only [setVariable_eq, named, if_false, false_and]
    split_ifs <;> rfl

theorem testMode_setVariable (environment : RoutingEnvironment) (binding : String × String) :
    (environment.setVariable binding).testMode =
      if binding.1 = "STACKFN_ENV" then decide (binding.2 = "test")
      else environment.testMode := by
  by_cases named : binding.1 = "STACKFN_ENV"
  · simp [setVariable_eq, named]
  · simp only [setVariable_eq, named, if_false]
    split_ifs <;> rfl

theorem dispatchTopic_eq_lastTopic? (bindings : List (String × String)) :
    (ofVariables bindings).dispatchTopic = lastTopic? "DispatchSnsArn" bindings := by
  induction bindings using List.reverseRecOn with
  | nil => rfl
  | append_singleton front last ih =>
      rw [ofVariables_concat, dispatchTopic_setVariable, lastTopic?_concat, ih]

theorem alarmTopic_eq_lastTopic? (bindings : List (String × String)) :
    (ofVariables bindings).alarmTopic = lastTopic? "ServiceAlarmSNSTopic" bindings := by
  induction bindings using List.reverseRecOn with
  | nil => rfl
  | append_singleton front last ih =>
      rw [ofVariables_concat, alarmTopic_setVariable, lastTopic?_concat, ih]

theorem testMode_eq_lastValue? (bindings : List (String × String)) :
    (ofVariables bindings).testMode =
      decide (lastValue? "STACKFN_ENV" bindings = some "test") := by
  induction bindings using List.reverseRecOn with
  | nil => rfl
  | append_singleton front last ih =>
      rw [ofVariables_concat, testMode_setVariable, lastValue?_concat, ih]
      split_ifs <;> simp

/-- What is read off a list of variables. -/
theorem ofVariables_eq (bindings : List (String × String)) :
    ofVariables bindings = {
      dispatchTopic := lastTopic? "DispatchSnsArn" bindings
      alarmTopic := lastTopic? "ServiceAlarmSNSTopic" bindings
      testMode := lastValue? "STACKFN_ENV" bindings = some "test"
    } := by
  rw [← dispatchTopic_eq_lastTopic?, ← alarmTopic_eq_lastTopic?, ← testMode_eq_lastValue?]

/-- Only the values under the three names count. -/
theorem ofVariables_congr {left right : List (String × String)}
    (agree : ∀ name ∈ topicNames ++ ["STACKFN_ENV"], valuesOf name left = valuesOf name right) :
    ofVariables left = ofVariables right := by
  have topic_eq : ∀ name ∈ topicNames, lastTopic? name left = lastTopic? name right := by
    intro name mem
    rw [lastTopic?, agree name (List.mem_append_left _ mem), lastTopic?]
  have value_eq : lastValue? "STACKFN_ENV" left = lastValue? "STACKFN_ENV" right := by
    rw [lastValue?, agree "STACKFN_ENV" (by simp), lastValue?]
  rw [ofVariables_eq left, topic_eq "DispatchSnsArn" (by simp [topicNames]),
    topic_eq "ServiceAlarmSNSTopic" (by simp [topicNames]), value_eq, ← ofVariables_eq]

theorem setVariable_of_idle {binding : String × String} (idle : Idle binding)
    (environment : RoutingEnvironment) : environment.setVariable binding = environment := by
  obtain ⟨name, value⟩ := binding
  rcases idle with unread | ⟨named, empty⟩
  · simp only [topicNames, List.cons_append, List.nil_append, List.mem_cons, List.not_mem_nil,
      or_false, not_or] at unread
    simp [setVariable_eq, unread]
  · simp only [topicNames, List.mem_cons, List.not_mem_nil, or_false] at named
    rcases named with rfl | rfl
    · simp [setVariable_eq, show value = "" from empty]
    · simp [setVariable_eq, show value = "" from empty]

/-- Idle variables may be left out. -/
theorem ofVariables_filter_idle (bindings : List (String × String)) :
    ofVariables (bindings.filter fun binding => ¬Idle binding) = ofVariables bindings := by
  rw [ofVariables, List.foldl_filter, ofVariables]
  congr 1
  funext environment binding
  split_ifs with active
  · rfl
  · have idle : Idle binding := by simpa using active
    exact (setVariable_of_idle idle environment).symm

theorem length_valuesOf (name : String) (bindings : List (String × String)) :
    (valuesOf name bindings).length = (Entries.keys bindings).count name := by
  rw [valuesOf, List.length_map, Entries.keys, List.count, List.countP_map,
    ← List.countP_eq_length_filter]
  congr 1

theorem valuesOf_eq_of_perm {left right : List (String × String)} (perm : left.Perm right)
    {name : String} (once : (Entries.keys right).count name ≤ 1) :
    valuesOf name left = valuesOf name right := by
  have values_perm : (valuesOf name left).Perm (valuesOf name right) :=
    (perm.filter _).map Prod.snd
  rw [← length_valuesOf] at once
  match values_eq : valuesOf name right with
  | [] => exact List.perm_nil.mp (values_eq ▸ values_perm)
  | [value] => exact List.perm_singleton.mp (values_eq ▸ values_perm)
  | first :: second :: rest => simp [values_eq] at once

/-- An environment is what a list of variables stands for. -/
structure ReadOff (bindings : List (String × String)) (environment : RoutingEnvironment) :
    Prop where
  /-- The dispatch topic is the last one that is not empty. -/
  dispatchTopic : environment.dispatchTopic = lastTopic? "DispatchSnsArn" bindings
  /-- The topic of alarms is the last one that is not empty. -/
  alarmTopic : environment.alarmTopic = lastTopic? "ServiceAlarmSNSTopic" bindings
  /-- Test mode follows the last value of its variable. -/
  testMode : environment.testMode = true ↔ lastValue? "STACKFN_ENV" bindings = some "test"
  /-- The dispatch topic is not empty. -/
  dispatchTopic_ne_empty : environment.dispatchTopic ≠ some ""
  /-- The topic of alarms is not empty. -/
  alarmTopic_ne_empty : environment.alarmTopic ≠ some ""
  /-- Idle variables may be put in or left out anywhere. -/
  idle : ∀ others : List (String × String),
    others.filter (fun binding => ¬Idle binding) =
        bindings.filter (fun binding => ¬Idle binding) →
      ofVariables others = environment
  /-- The order is free when no name that is read occurs twice. -/
  order : (∀ name ∈ topicNames ++ ["STACKFN_ENV"], (Entries.keys bindings).count name ≤ 1) →
    ∀ others : List (String × String), others.Perm bindings → ofVariables others = environment

/-- Every list of variables stands for the environment that is made of it. -/
theorem readOff_ofVariables (bindings : List (String × String)) :
    ReadOff bindings (ofVariables bindings) where
  dispatchTopic := dispatchTopic_eq_lastTopic? bindings
  alarmTopic := alarmTopic_eq_lastTopic? bindings
  testMode := by rw [testMode_eq_lastValue?, decide_eq_true_iff]
  dispatchTopic_ne_empty := by
    rw [dispatchTopic_eq_lastTopic?]
    exact lastTopic?_ne_empty _ bindings
  alarmTopic_ne_empty := by
    rw [alarmTopic_eq_lastTopic?]
    exact lastTopic?_ne_empty _ bindings
  idle := fun others same => by
    rw [← ofVariables_filter_idle others, same, ofVariables_filter_idle]
  order := fun once others perm =>
    ofVariables_congr fun name mem => valuesOf_eq_of_perm perm (once name mem)

/-- An empty topic leaves the one before it in place, while an empty value ends test mode. -/
example : ofVariables [("DispatchSnsArn", "first"), ("STACKFN_ENV", "test"),
    ("DispatchSnsArn", ""), ("STACKFN_ENV", "")] = { dispatchTopic := some "first" } := by
  decide

end RoutingEnvironment
end LambdaStack
