import LambdaStack.Proofs.Entries
import LambdaStack.Stack.Alarms
import LambdaStack.Stack.RuleTrigger
import LambdaStack.Stack.TopicTrigger
import LambdaStack.Stack.WebhookTrigger

/-!
# Identifiers

An identifier of a function is its name and a suffix. The suffixes of different kinds of triggers
begin differently, so that no two of them agree; and but for two of them their last letters tell
them from the ends of all identifiers that do not begin with the name of the function.
-/

namespace LambdaStack

namespace Identifier

/-- The last five characters of an identifier, the last one first. -/
def ending (name : String) : List Char :=
  name.toList.reverse.take 5

theorem ending_append (name : String) {suffix : String} (long : 5 ≤ suffix.length) :
    ending (name ++ suffix) = ending suffix := by
  have suffix_long : 5 ≤ suffix.toList.reverse.length := by
    rwa [List.length_reverse, String.length_toList]
  simp [ending, List.take_append_of_le_length suffix_long]

/-- Ends of the identifiers that do not begin with the name of the function. -/
def sharedEndings : List (List Char) :=
  [ending "Topic", ending "LambdaCfnRole", ending "LambdaCfnDispatchRole", ending "Email",
    ending "DispatchSnsArn"]

/-- A suffix that is no end of an identifier shared between functions or made from the name of a
destination. -/
structure Distinctive (suffix : String) : Prop where
  /-- The suffix covers the end of an identifier. -/
  long : 5 ≤ suffix.length
  /-- That end is unlike those of shared identifiers. -/
  ending_ne : ending suffix ∉ sharedEndings

theorem Distinctive.append {suffix : String} (distinctive : Distinctive suffix) (front : String) :
    Distinctive (front ++ suffix) where
  long := by
    rw [String.length_append]
    exact Nat.le_add_left_of_le distinctive.long
  ending_ne := by
    rw [ending_append front distinctive.long]
    exact distinctive.ending_ne

theorem Distinctive.append_ne {suffix : String} (distinctive : Distinctive suffix) (name : String)
    {other : String} (shared : ending other ∈ sharedEndings) : name ++ suffix ≠ other := by
  rintro rfl
  rw [ending_append name distinctive.long] at shared
  exact distinctive.ending_ne shared

theorem append_injective (name : String) : Function.Injective (name ++ ·) :=
  fun _ _ equal => (String.append_right_inj name).mp equal

theorem injective_append (suffix : String) : Function.Injective (· ++ suffix) :=
  fun _ _ equal => (String.append_left_inj suffix).mp equal

theorem isAlphanumeric_append {front back : String} (front_ok : isAlphanumeric front)
    (back_ok : back.toList.all Char.isAlphanum) : isAlphanumeric (front ++ back) := by
  simp only [isAlphanumeric, Bool.and_eq_true, Bool.not_eq_true', List.isEmpty_eq_false_iff] at *
  rw [String.toList_append, List.all_append, Bool.and_eq_true]
  exact ⟨List.append_ne_nil_of_left_ne_nil front_ok.1 _, front_ok.2, back_ok⟩

end Identifier

open Identifier

namespace DeploymentSuffix

private theorem digit_isUpper (digit : Fin 36) :
    (if digit.val < 10 then Char.ofNat (digit.val + '0'.toNat)
      else Char.ofNat (digit.val - 10 + 'a'.toNat)).isUpper = false := by
  revert digit
  decide

private theorem digit_isAlphanum (digit : Fin 36) :
    (if digit.val < 10 then Char.ofNat (digit.val + '0'.toNat)
      else Char.ofNat (digit.val - 10 + 'a'.toNat)).isAlphanum = true := by
  revert digit
  decide

theorem isUpper_of_mem {suffix : DeploymentSuffix} {c : Char} (mem : c ∈ suffix.text.toList) :
    c.isUpper = false := by
  simp only [text, String.toList_ofList, List.mem_map] at mem
  obtain ⟨digit, -, rfl⟩ := mem
  exact digit_isUpper digit

theorem all_isAlphanum_text (suffix : DeploymentSuffix) :
    suffix.text.toList.all Char.isAlphanum := by
  rw [List.all_eq_true]
  intro c mem
  simp only [text, String.toList_ofList, List.mem_map] at mem
  obtain ⟨digit, -, rfl⟩ := mem
  exact digit_isAlphanum digit

@[simp]
theorem length_text (suffix : DeploymentSuffix) : suffix.text.length = 10 := by
  simp [text]

theorem distinctive_text (suffix : DeploymentSuffix) : Distinctive suffix.text where
  long := by simp
  ending_ne := by
    have lower : ∀ c ∈ ending suffix.text, c.isUpper = false := fun c mem =>
      isUpper_of_mem (List.mem_reverse.mp (List.mem_of_mem_take mem))
    -- Every shared end has a capital among its characters.
    have capital : ∀ shared ∈ sharedEndings, shared.any Char.isUpper = true := by decide
    intro mem
    obtain ⟨c, c_mem, upper⟩ := List.any_eq_true.mp (capital _ mem)
    simp [lower c c_mem] at upper

end DeploymentSuffix

theorem WebhookTrigger.distinctive_deploymentName (deployment : Option DeploymentSuffix) :
    Distinctive (deploymentName deployment) := by
  cases deployment with
  | none => exact ⟨by decide, by decide⟩
  | some suffix => exact suffix.distinctive_text.append "ApiDeployment"

theorem WebhookTrigger.all_isAlphanum_deploymentName (deployment : Option DeploymentSuffix) :
    (deploymentName deployment).toList.all Char.isAlphanum := by
  cases deployment with
  | none => decide
  | some suffix =>
      have front_ok : "ApiDeployment".toList.all Char.isAlphanum := by decide
      rw [deploymentName, Option.map_some, Option.getD_some, String.toList_append, List.all_append,
        front_ok, suffix.all_isAlphanum_text, Bool.and_self]

theorem WebhookTrigger.take_deploymentName (deployment : Option DeploymentSuffix) :
    ("Webhook" ++ deploymentName deployment).toList.take 11 = "WebhookApiD".toList := by
  simp [deploymentName]

namespace Trigger

/-- What the identifiers of the resources of a trigger add to the name of the function. -/
def resourceSuffixes (deployment : Option DeploymentSuffix) : Trigger → List String
  | topic => ["SNSPermission", "SNSUser", "SNSTopic", "SNSUserAccessKey"]
  | rule (.pattern _) => ["CloudwatchEventPermission", "CloudwatchEventRule"]
  | rule (.schedule _) => ["SchedulePermission", "ScheduleRule"]
  | webhook _ => [
      "WebhookResource",
      "WebhookMethod",
      "WebhookPermission",
      "WebhookApiGateway",
      "WebhookApiKey",
      "Webhook" ++ WebhookTrigger.deploymentName deployment,
      "WebhookApiLatencyAlarm",
      "WebhookApi4xxAlarm",
      "WebhookApiCountAlarm"
    ]

/-- What the identifiers of the outputs of a trigger add to the name of the function. -/
def outputSuffixes : Trigger → List String
  | topic => ["SNSTopic", "SNSUserAccessKey", "SNSUserSecretAccessKey"]
  | rule _ => []
  | webhook options =>
    "WebhookAPIEndpoint" :: if options.apiKey then ["WebhookApiKey"] else []

/-- The first two characters of the suffixes of a kind of trigger. -/
def stem : Trigger → List Char
  | topic => ['S', 'N']
  | rule (.pattern _) => ['C', 'l']
  | rule (.schedule _) => ['S', 'c']
  | webhook _ => ['W', 'e']

theorem kind_eq_of_stem_eq {left right : Trigger} (equal : left.stem = right.stem) :
    left.kind = right.kind := by
  rcases left with _ | (_ | _) | _ <;> rcases right with _ | (_ | _) | _ <;>
    first | rfl | simp [stem] at equal

theorem stem_of_mem_resourceSuffixes {deployment : Option DeploymentSuffix} {trigger : Trigger}
    {suffix : String} (mem : suffix ∈ trigger.resourceSuffixes deployment) :
    suffix.toList.take 2 = trigger.stem := by
  rcases trigger with _ | (_ | _) | _ <;>
    simp only [resourceSuffixes, List.mem_cons, List.not_mem_nil, or_false] at mem <;>
    rcases mem with rfl | rfl | rfl | rfl | rfl | rfl | rfl | rfl | rfl <;>
    simp [stem]

theorem stem_of_mem_outputSuffixes {trigger : Trigger} {suffix : String}
    (mem : suffix ∈ trigger.outputSuffixes) : suffix.toList.take 2 = trigger.stem := by
  rcases trigger with _ | _ | options
  · simp only [outputSuffixes, List.mem_cons, List.not_mem_nil, or_false] at mem
    rcases mem with rfl | rfl | rfl <;> rfl
  · simp [outputSuffixes] at mem
  · simp only [outputSuffixes, List.mem_cons] at mem
    rcases mem with rfl | key
    · rfl
    · split at key
      · rw [List.mem_singleton.mp key]
        rfl
      · simp at key

private theorem nodup_of_take {suffixes : List String} (count : Nat)
    (nodup : (suffixes.map fun suffix => suffix.toList.take count).Nodup) : suffixes.Nodup :=
  nodup.of_map _

theorem nodup_resourceSuffixes (deployment : Option DeploymentSuffix) (trigger : Trigger) :
    (trigger.resourceSuffixes deployment).Nodup := by
  rcases trigger with _ | (_ | _) | _
  · simp [resourceSuffixes]
  · simp [resourceSuffixes]
  · simp [resourceSuffixes]
  · -- The suffixes of a webhook differ within eleven characters, before the deployment suffix.
    apply nodup_of_take 11
    simp only [resourceSuffixes, List.map_cons, List.map_nil, WebhookTrigger.take_deploymentName]
    decide

theorem nodup_outputSuffixes (trigger : Trigger) : trigger.outputSuffixes.Nodup := by
  rcases trigger with _ | _ | options
  · simp [outputSuffixes]
  · simp [outputSuffixes]
  · simp only [outputSuffixes]
    split <;> decide

/-- Suffixes that begin with the stems of their triggers are distinct over triggers of different
kinds. -/
theorem nodup_flatMap_of_stem {suffixes : Trigger → List String} {triggers : List Trigger}
    (kinds : (triggers.map kind).Nodup) (nodup : ∀ trigger, (suffixes trigger).Nodup)
    (begins : ∀ trigger, ∀ suffix ∈ suffixes trigger, suffix.toList.take 2 = trigger.stem) :
    (triggers.flatMap suffixes).Nodup := by
  refine List.nodup_flatMap.mpr ⟨fun trigger _ => nodup trigger, ?_⟩
  refine (List.pairwise_map.mp kinds).imp fun {left right} differ => ?_
  intro suffix left_mem right_mem
  exact differ (kind_eq_of_stem_eq ((begins left suffix left_mem).symm.trans
    (begins right suffix right_mem)))

/-- Only the topic of a topic trigger has a suffix that ends like a shared identifier. -/
theorem distinctive_of_mem_resourceSuffixes {deployment : Option DeploymentSuffix}
    {trigger : Trigger} {suffix : String} (mem : suffix ∈ trigger.resourceSuffixes deployment) :
    (trigger = topic ∧ suffix = "SNSTopic") ∨ Distinctive suffix := by
  rcases trigger with _ | (_ | _) | _ <;>
    simp only [resourceSuffixes, List.mem_cons, List.not_mem_nil, or_false] at mem
  · rcases mem with rfl | rfl | rfl | rfl
    · exact .inr ⟨by decide, by decide⟩
    · exact .inr ⟨by decide, by decide⟩
    · exact .inl ⟨rfl, rfl⟩
    · exact .inr ⟨by decide, by decide⟩
  · rcases mem with rfl | rfl <;> exact .inr ⟨by decide, by decide⟩
  · rcases mem with rfl | rfl <;> exact .inr ⟨by decide, by decide⟩
  · rcases mem with rfl | rfl | rfl | rfl | rfl | rfl | rfl | rfl | rfl
    case inr.inr.inr.inr.inr.inl =>
      exact .inr ((WebhookTrigger.distinctive_deploymentName deployment).append "Webhook")
    all_goals exact .inr ⟨by decide, by decide⟩

theorem all_isAlphanum_of_mem_resourceSuffixes {deployment : Option DeploymentSuffix}
    {trigger : Trigger} {suffix : String} (mem : suffix ∈ trigger.resourceSuffixes deployment) :
    suffix.toList.all Char.isAlphanum := by
  rcases trigger with _ | (_ | _) | _ <;>
    simp only [resourceSuffixes, List.mem_cons, List.not_mem_nil, or_false] at mem
  · rcases mem with rfl | rfl | rfl | rfl <;> decide
  · rcases mem with rfl | rfl <;> decide
  · rcases mem with rfl | rfl <;> decide
  · rcases mem with rfl | rfl | rfl | rfl | rfl | rfl | rfl | rfl | rfl
    case inr.inr.inr.inr.inr.inl =>
      have front_ok : "Webhook".toList.all Char.isAlphanum := by decide
      rw [String.toList_append, List.all_append, front_ok,
        WebhookTrigger.all_isAlphanum_deploymentName, Bool.and_self]
    all_goals decide

end Trigger
end LambdaStack
