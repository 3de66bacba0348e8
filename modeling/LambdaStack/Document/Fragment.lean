import LambdaStack.Failure
import LambdaStack.Json.Basic

/-!
# Fragments

Partial documents. A fragment has seven keyed sections and a list of policies; fragments are merged
when no section binds a key in both of them, so that nothing is ever overwritten.
-/

namespace LambdaStack

/-- A keyed section of a fragment. -/
inductive Section where
  | metadata
  | parameters
  | mappings
  | conditions
  | resources
  | outputs
  | environment
  deriving DecidableEq

namespace Section

/-- All sections, in the order in which they are merged. -/
def all : List Section :=
  [metadata, parameters, mappings, conditions, resources, outputs, environment]

/-- Name of a section. -/
def name : Section → String
  | metadata => "Metadata"
  | parameters => "Parameters"
  | mappings => "Mappings"
  | conditions => "Conditions"
  | resources => "Resources"
  | outputs => "Outputs"
  | environment => "Variables"

/-- The section of a name. -/
def ofName? (name : String) : Option Section :=
  all.find? (·.name = name)

theorem mem_all (part : Section) : part ∈ all := by
  cases part <;> decide

end Section

/-- A partial document. Its variables and policies only serve to complete it. -/
structure Fragment where
  /-- Remarks. -/
  metadata : OrderedMap Json := ∅
  /-- Values that are asked for when the stack is made. -/
  parameters : OrderedMap Json := ∅
  /-- Constant tables. -/
  mappings : OrderedMap Json := ∅
  /-- Named conditions. -/
  conditions : OrderedMap Json := ∅
  /-- What the stack consists of. -/
  resources : OrderedMap Json := ∅
  /-- Values that the stack gives out. -/
  outputs : OrderedMap Json := ∅
  /-- Variables for the environment of the function. -/
  environment : OrderedMap Json := ∅
  /-- Policies for the execution roles. -/
  policies : List Json := []
  deriving DecidableEq

namespace Fragment

/-- The fragment without content. -/
def empty : Fragment := {}

/-- Entries of a section. -/
def entries (fragment : Fragment) : Section → OrderedMap Json
  | .metadata => fragment.metadata
  | .parameters => fragment.parameters
  | .mappings => fragment.mappings
  | .conditions => fragment.conditions
  | .resources => fragment.resources
  | .outputs => fragment.outputs
  | .environment => fragment.environment

/-- The fragment with the given sections and policies. -/
def ofSections (entries : Section → OrderedMap Json) (policies : List Json) : Fragment where
  metadata := entries .metadata
  parameters := entries .parameters
  mappings := entries .mappings
  conditions := entries .conditions
  resources := entries .resources
  outputs := entries .outputs
  environment := entries .environment
  policies := policies

@[simp]
theorem entries_ofSections (entries : Section → OrderedMap Json) (policies : List Json)
    (part : Section) : (ofSections entries policies).entries part = entries part := by
  cases part <;> rfl

@[simp]
theorem policies_ofSections (entries : Section → OrderedMap Json) (policies : List Json) :
    (ofSections entries policies).policies = policies := rfl

theorem ext_entries {left right : Fragment}
    (entries_eq : ∀ part, left.entries part = right.entries part)
    (policies_eq : left.policies = right.policies) : left = right := by
  cases left
  cases right
  have metadata_eq := entries_eq .metadata
  have parameters_eq := entries_eq .parameters
  have mappings_eq := entries_eq .mappings
  have conditions_eq := entries_eq .conditions
  have resources_eq := entries_eq .resources
  have outputs_eq := entries_eq .outputs
  have variables_eq := entries_eq .environment
  simp_all [entries]

/-- The fragment with one section replaced. -/
def withSection (fragment : Fragment) (part : Section) (replaced : OrderedMap Json) : Fragment :=
  ofSections (fun other => if other = part then replaced else fragment.entries other)
    fragment.policies

/-- Bind a key of a section, overwriting in place. -/
def insert (fragment : Fragment) (part : Section) (key : String) (value : Json) : Fragment :=
  fragment.withSection part ((fragment.entries part).insert key value)

/-- Bind a key that a section does not yet have. -/
def insertNew (fragment : Fragment) (part : Section) (key : String) (value : Json) :
    Except Failure Fragment :=
  if (fragment.entries part).contains key then .error (.duplicateKey part.name key)
  else .ok (fragment.insert part key value)

/-- The first key of the second fragment that the first one has in the same section. -/
def clash? (base incoming : Fragment) : Option (Section × String) :=
  Section.all.findSome? fun part =>
    ((base.entries part).sharedKey? (incoming.entries part)).map fun key => (part, key)

theorem sharedKey?_eq_none_of_clash? {base incoming : Fragment}
    (clash_free : base.clash? incoming = none) (part : Section) :
    (base.entries part).sharedKey? (incoming.entries part) = none := by
  have clash_free_part := List.findSome?_eq_none_iff.mp clash_free part part.mem_all
  simpa using clash_free_part

/-- Both fragments together, unless they share a key of a section. -/
def merge (base incoming : Fragment) : Except Failure Fragment :=
  match clash_eq : base.clash? incoming with
  | some (part, key) => .error (.duplicateKey part.name key)
  | none =>
    .ok (ofSections
      (fun part => (base.entries part).append (incoming.entries part)
        (sharedKey?_eq_none_of_clash? clash_eq part))
      (base.policies ++ incoming.policies))

/-- All fragments together, in order. -/
def mergeAll (fragments : List Fragment) : Except Failure Fragment :=
  fragments.foldlM merge empty

/-- The members that describe a fragment: its non-empty sections and policies. -/
def toJson (fragment : Fragment) : Json :=
  let sections := Section.all.filter fun part => !(fragment.entries part).isEmpty
  .object <|
    sections.map (fun part => (part.name, Json.ofMap (fragment.entries part))) ++
      if fragment.policies.isEmpty then [] else [("Policies", .array fragment.policies)]

end Fragment
end LambdaStack
