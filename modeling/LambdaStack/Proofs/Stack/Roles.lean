import LambdaStack.Proofs.Document.Evaluation
import LambdaStack.Proofs.Stack.Acceptance

/-!
# Execution roles of a document

The two roles of a document carry the same policies in the same order, although one of them is made
before the fragments are merged and the other one after. The role for dispatching differs from the
default one by its condition and by one statement at the end of its basic policy, and by nothing
else. The gateway may assume either role just when there is a webhook.
-/

namespace LambdaStack

namespace Json

/-- A list with an item added at its end. -/
def withItem? (item : Json) : Json → Option Json
  | .array items => some (.array (items ++ [item]))
  | _ => none

/-- A list with its first item changed. -/
def modifyHead? (f : Json → Option Json) : Json → Option Json
  | .array (first :: rest) => (f first).map fun changed => .array (changed :: rest)
  | _ => none

/-- An object with a member added at its end. -/
def withMember? (key : String) (value : Json) : Json → Option Json
  | .object members => some (.object (members ++ [(key, value)]))
  | _ => none

/-- A role may be assumed by a service. -/
def Trusts (role : Json) (service : String) : Prop :=
  ∃ statements,
    role.at? ["Properties", "AssumeRolePolicyDocument", "Statement"] = some (.array statements) ∧
    ∃ statement ∈ statements, statement.at? ["Principal", "Service"] = some (.string service)

/-- A role with a statement added at the end of its first policy, and with a condition. -/
def conditionalRole? (statement : Json) (condition : String) (role : Json) : Option Json :=
  (modifyAt? (modifyHead? (modifyAt? (withItem? statement) ["PolicyDocument", "Statement"]))
    ["Properties", "Policies"] role).bind (withMember? "Condition" (.string condition))

end Json

namespace FunctionSpec

/-- The policies of an execution role as they are written: the basic one with its three statements,
the one of the statements if there are any, and one for each destination. -/
def executionPolicies (spec : FunctionSpec) : List Json :=
  [
    .object [
      ("PolicyName", "basic"),
      ("PolicyDocument", .object [("Statement", .array [
        .object [
          ("Effect", "Allow"),
          ("Action", .array ["logs:*"]),
          ("Resource", .object [("Fn::Join", .array [
            "", .array ["arn:aws:logs:*:", .object [("Ref", "AWS::AccountId")], ":*"]])])
        ],
        .object [
          ("Effect", "Allow"),
          ("Action", .array ["sns:Publish"]),
          ("Resource", .object [("Ref", "ServiceAlarmSNSTopic")])
        ],
        .object [
          ("Effect", "Allow"),
          ("Action", .array ["iam:SimulateCustomPolicy"]),
          ("Resource", "*")
        ]
      ])])
    ]
  ] ++
    spec.statements.toList.map (fun statements => .object [
      ("PolicyName", .string spec.name),
      ("PolicyDocument", .object [
        ("Statement", .array (statements.map fun statement => .object statement.entries))])
    ]) ++
    spec.destinationNames.map fun name => .object [
      ("PolicyName", .string (name ++ "TopicPermissions")),
      ("PolicyDocument", .object [("Statement", .array [
        .object [
          ("Effect", "Allow"),
          ("Action", "sns:Publish"),
          ("Resource", .object [("Ref", .string spec.name)])
        ]
      ])])
    ]

end FunctionSpec

/-- A template has two execution roles with the given policies, the second of which only differs by
what dispatching needs. -/
structure Template.HasRoles (template : Template) (executionPolicies : List Json)
    (usesGateway : Prop) (defaultRole dispatchRole : Json) : Prop where
  /-- The default role is a resource. -/
  default : template.resources.find? "LambdaCfnRole" = some defaultRole
  /-- The dispatch role is a resource. -/
  dispatch : template.resources.find? "LambdaCfnDispatchRole" = some dispatchRole
  /-- The default role has just the given policies. -/
  policies : defaultRole.at? ["Properties", "Policies"] = some (.array executionPolicies)
  /-- The default role is always there. -/
  unconditional : defaultRole.member? "Condition" = none
  /-- The dispatch role may publish to the dispatch topic in addition, and is there just when that
  is set. -/
  conditional : Json.conditionalRole?
    (.object [
      ("Effect", "Allow"),
      ("Action", .array ["sns:Publish"]),
      ("Resource", .object [("Ref", "DispatchSnsArn")])
    ]) "HasDispatchSnsArn" defaultRole = some dispatchRole
  /-- The gateway may assume either role just when it is used. -/
  gateway : ∀ role ∈ [defaultRole, dispatchRole],
    role.Trusts "apigateway.amazonaws.com" ↔ usesGateway

namespace Role

theorem at?_policies_members (triggers : List Trigger) (extra policies : List Json)
    (back : List (String × Json)) :
    (Json.object (members triggers extra policies ++ back)).at? ["Properties", "Policies"] =
      some (.array (policy "basic" (basicStatements ++ extra) :: policies)) := by
  simp [Json.at?, Json.member?, members, List.lookup_cons]

theorem conditionalRole?_members (triggers : List Trigger) (policies : List Json)
    (statement : Json) (condition : String) :
    Json.conditionalRole? statement condition (.object (members triggers [] policies)) =
      some (.object (members triggers [statement] policies ++
        [("Condition", .string condition)])) := by
  simp [Json.conditionalRole?, Json.modifyAt?, members, List.lookup_cons, Json.modifyHead?, policy,
    Json.withItem?, Json.withMember?, Entries.insert]

theorem trusts_members_iff (triggers : List Trigger) (extra policies : List Json)
    (back : List (String × Json)) :
    (Json.object (members triggers extra policies ++ back)).Trusts "apigateway.amazonaws.com" ↔
      triggers.any Trigger.isWebhook := by
  have statements_eq : (Json.object (members triggers extra policies ++ back)).at?
      ["Properties", "AssumeRolePolicyDocument", "Statement"] =
        some (.array (trusted triggers)) := by
    simp [Json.at?, Json.member?, members, List.lookup_cons]
  have service_eq (service : String) : (trust service).at? ["Principal", "Service"] =
      some (.string service) := by
    simp [Json.at?, Json.member?, trust, List.lookup_cons]
  simp only [Json.Trusts, statements_eq, Option.some.injEq, Json.array.injEq, exists_eq_left',
    trusted]
  by_cases uses_gateway : triggers.any Trigger.isWebhook <;> simp [uses_gateway, service_eq]

end Role

namespace FunctionSpec

variable {spec : FunctionSpec} {settings : Settings} {reading : Reading}

theorem Reads.any_isWebhook_iff (reads : spec.Reads settings reading) :
    reading.triggers.any Trigger.isWebhook ↔ "webhook" ∈ Entries.keys spec.sources := by
  rw [← kinds_of_triggers reads.triggers]
  simp [Trigger.isWebhook_iff_kind]

theorem Reads.executionPolicies_eq (reads : spec.Reads settings reading) :
    spec.executionPolicies =
      Role.policy "basic" Role.basicStatements :: spec.rolePolicies reading := by
  -- The policies are written out on both sides, once the topics stand for the names.
  rw [executionPolicies, ← reads.topicNames_eq, Reading.topicNames, List.map_map]
  rfl

/-- Both execution roles of a document have just the policies that the spec asks for, each once. -/
theorem hasRoles_of_embed {template : Template} (embed_ok : spec.embed settings = .ok template) :
    spec.destinationNames.Nodup ∧
      ∃ defaultRole dispatchRole, template.HasRoles spec.executionPolicies
        ("webhook" ∈ Entries.keys spec.sources) defaultRole dispatchRole := by
  obtain ⟨reading, reads, unambiguous, rfl⟩ := layout_of_embed embed_ok
  refine ⟨spec.nodup_destinationNames, spec.defaultRole reading, spec.dispatchRole reading, ?_⟩
  exact {
    default := (find?_resources unambiguous).mpr .defaultRole
    dispatch := (find?_resources unambiguous).mpr .dispatchRole
    policies := by
      rw [reads.executionPolicies_eq]
      have policies_eq := Role.at?_policies_members reading.triggers []
        (spec.rolePolicies reading) []
      rwa [List.append_nil, List.append_nil] at policies_eq
    unconditional := by
      simp [defaultRole, Json.member?, Role.members, List.lookup_cons]
    conditional := Role.conditionalRole?_members reading.triggers (spec.rolePolicies reading) _ _
    gateway := by
      simp only [List.mem_cons, List.not_mem_nil, or_false]
      rintro role (rfl | rfl)
      · rw [defaultRole, ← List.append_nil (Role.members _ _ _), Role.trusts_members_iff]
        exact reads.any_isWebhook_iff
      · rw [dispatchRole, Role.trusts_members_iff]
        exact reads.any_isWebhook_iff
  }

theorem sample_hasRoles : ∃ template defaultRole dispatchRole, sample.embed {} = .ok template ∧
    template.HasRoles [
      .object [
        ("PolicyName", "basic"),
        ("PolicyDocument", .object [("Statement", .array [
          .object [
            ("Effect", "Allow"),
            ("Action", .array ["logs:*"]),
            ("Resource", .object [("Fn::Join", .array [
              "", .array ["arn:aws:logs:*:", .object [("Ref", "AWS::AccountId")], ":*"]])])
          ],
          .object [
            ("Effect", "Allow"),
            ("Action", .array ["sns:Publish"]),
            ("Resource", .object [("Ref", "ServiceAlarmSNSTopic")])
          ],
          .object [
            ("Effect", "Allow"),
            ("Action", .array ["iam:SimulateCustomPolicy"]),
            ("Resource", "*")
          ]
        ])])
      ],
      .object [
        ("PolicyName", "report"),
        ("PolicyDocument", .object [("Statement", .array [
          .object [("Effect", "Allow"), ("Action", "s3:GetObject"), ("Resource", "*")]
        ])])
      ],
      .object [
        ("PolicyName", "operatorsTopicPermissions"),
        ("PolicyDocument", .object [("Statement", .array [
          .object [
            ("Effect", "Allow"),
            ("Action", "sns:Publish"),
            ("Resource", .object [("Ref", "report")])
          ]
        ])])
      ]
    ] True defaultRole dispatchRole := by
  obtain ⟨-, defaultRole, dispatchRole, roles⟩ := hasRoles_of_embed embed_sample
  refine ⟨_, defaultRole, dispatchRole, embed_sample, ?_⟩
  have webhook_mem : ("webhook" ∈ Entries.keys sample.sources) = True := eq_true (by decide)
  rw [webhook_mem] at roles
  exact roles

end FunctionSpec
end LambdaStack
