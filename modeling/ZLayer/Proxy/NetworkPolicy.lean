import ZLayer.Overlay.IpText

/-!
# NetworkPolicy — who may reach which service

A policy names a network by its CIDRs and has rules for the services the network may reach.  An
address that is in no network may go everywhere.  Otherwise a deny rule for the target refuses, an
allow rule admits, and without a rule the access is refused.
-/

namespace ZLayer.Proxy

open Lib
open Overlay (IpAddr)

inductive AccessAction
  | allow
  | deny
  deriving DecidableEq

structure AccessRule where
  service : String
  deployment : String
  ports : Option (List UInt16)
  action : AccessAction
  deriving DecidableEq

structure NetworkPolicySpec where
  name : String
  cidrs : List String
  accessRules : List AccessRule
  deriving DecidableEq

/-! ## The checker -/

/-- Whether two words of `width` bits agree on their first `prefixLen` bits. -/
def samePrefix {width : Nat} (prefixLen : Nat) (net ip : BitVec width) : Bool :=
  let prefixLen := min prefixLen width
  if prefixLen = 0 then true
  else
    let mask := BitVec.allOnes width <<< (width - prefixLen)
    net &&& mask == ip &&& mask

def cidrContains (network : IpAddr) (prefixLen : Nat) (addr : IpAddr) : Bool :=
  match network, addr with
  | .v4 net, .v4 ip => samePrefix prefixLen net ip
  | .v6 net, .v6 ip => samePrefix prefixLen net ip
  | _, _ => false

/-- Texts that are no CIDR are passed over. -/
def ipInCidrs (ip : IpAddr) (cidrs : List String) : Bool :=
  cidrs.any fun cidr =>
    match Str.splitOnce '/' cidr with
    | some (netStr, prefixStr) =>
      match IpAddr.parse netStr, Str.parseU32 prefixStr with
      | some net, some prefixLen => cidrContains net prefixLen.toNat ip
      | _, _ => false
    | none => false

def ruleMatches (rule : AccessRule) (service deployment : String) (port : UInt16) : Bool :=
  (rule.service == "*" || rule.service == service) &&
    (rule.deployment == "*" || rule.deployment == deployment) &&
      rule.ports.all fun ports => ports.contains port

variable (policies : List NetworkPolicySpec)

/-- The policies whose network the address is in. -/
def matchingNetworks (ip : IpAddr) : List NetworkPolicySpec :=
  policies.filter fun policy => ipInCidrs ip policy.cidrs

def checkAccess (sourceIp : IpAddr) (service deployment : String) (port : UInt16) : Bool :=
  let networks := matchingNetworks policies sourceIp
  let decides (action : AccessAction) : Bool :=
    networks.any fun network => network.accessRules.any fun rule =>
      ruleMatches rule service deployment port && rule.action == action
  if networks.isEmpty then true
  else if decides .deny then false
  else decides .allow

/-! ## The documented decision -/

/-- The rules of the address's networks with this action that admit the port and are about every
deployment. -/
def applicable (ip : IpAddr) (port : UInt16) (action : AccessAction) : List AccessRule :=
  ((matchingNetworks policies ip).flatMap NetworkPolicySpec.accessRules).filter fun rule =>
    rule.action == action && rule.deployment == "*" &&
      rule.ports.all fun ports => ports.contains port

/-- A rule is about a service if it names it or all services. -/
def AccessRule.Names (rule : AccessRule) (service : String) : Prop :=
  rule.service = "*" ∨ rule.service = service

instance (rule : AccessRule) (service : String) : Decidable (rule.Names service) :=
  inferInstanceAs (Decidable (_ ∨ _))

/-- What the documentation says about a service: an address of some network is refused by a deny
rule and needs an allow rule. -/
def Allowed (ip : IpAddr) (service : String) (port : UInt16) : Prop :=
  matchingNetworks policies ip ≠ [] →
    (∀ rule ∈ applicable policies ip port .deny, ¬ rule.Names service) ∧
      ∃ rule ∈ applicable policies ip port .allow, rule.Names service

instance (policies : List NetworkPolicySpec) (ip : IpAddr) (service : String) (port : UInt16) :
    Decidable (Allowed policies ip service port) :=
  inferInstanceAs (Decidable (_ → _ ∧ _))

/-- For a request whose deployment is not known, the checker computes the documented decision. -/
lemma checkAccess_iff (ip : IpAddr) (service : String) (port : UInt16) :
    checkAccess policies ip service "*" port = true ↔ Allowed policies ip service port := by
  have hdecides (action : AccessAction) :
      ((matchingNetworks policies ip).any fun network => network.accessRules.any fun rule =>
        ruleMatches rule service "*" port && rule.action == action) = true ↔
      ∃ rule ∈ applicable policies ip port action, rule.Names service := by
    simp only [applicable, List.mem_filter, List.mem_flatMap, List.any_eq_true, ruleMatches,
      AccessRule.Names, Bool.and_eq_true, Bool.or_eq_true, beq_iff_eq, or_self]
    constructor
    · rintro ⟨network, hnetwork, rule, hrule, ⟨⟨hservice, hdeployment⟩, hports⟩, haction⟩
      exact ⟨rule, ⟨⟨network, hnetwork, hrule⟩, ⟨haction, hdeployment⟩, hports⟩, hservice⟩
    · rintro ⟨rule, ⟨⟨network, hnetwork, hrule⟩, ⟨haction, hdeployment⟩, hports⟩, hservice⟩
      exact ⟨network, hnetwork, rule, hrule, ⟨⟨hservice, hdeployment⟩, hports⟩, haction⟩
  unfold checkAccess Allowed
  simp only [List.isEmpty_iff]
  split
  · rename_i hempty
    simp [hempty]
  · rename_i hnetworks
    rw [← hdecides .allow]
    split
    · rename_i hdeny
      obtain ⟨rule, hrule, hnames⟩ := (hdecides .deny).mp hdeny
      simp only [Bool.false_eq_true, false_iff]
      exact fun h => (h hnetworks).1 rule hrule hnames
    · rename_i hdeny
      have hnone : ∀ rule ∈ applicable policies ip port .deny, ¬ rule.Names service :=
        fun rule hrule hnames => hdeny ((hdecides .deny).mpr ⟨rule, hrule, hnames⟩)
      exact ⟨fun hallow _ => ⟨hnone, hallow⟩, fun h => (h hnetworks).2⟩

end ZLayer.Proxy
