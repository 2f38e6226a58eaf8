import ZLayer.Secrets.SecretRef

/-!
# ReferenceScope — the scope a reference names and the scope it is looked up in

Both resolvers look a secret up in the scope of the deployment, or of the service if the reference
names one.  An environment that the reference names is parsed and then not used, so such a reference
gets a secret of the deployment.
-/

namespace ZLayer.Secrets

open Lib Str SecretRef List

/-! ## Parsing what is written down -/

lemma not_isPrefix_of_head {c : Char} {cs : List Char} (hne : cs ≠ []) (h : cs.head? ≠ some c)
    (more : List Char) : ¬ [c] <+: cs ++ more := by
  cases cs with
  | nil => exact absurd rfl hne
  | cons d cs =>
    intro hstart
    have heq : c = d := by simpa using hstart
    exact h (congrArg some heq.symm)

lemma startsWith_eq_false {pattern s : String} (h : ¬ pattern.toList <+: s.toList) :
    startsWith s pattern = false :=
  Bool.eq_false_iff.mpr (mt isPrefixOf_iff_prefix.mp h)

namespace Segment

variable {separators : List Char} {s : String}

lemma toList_ne_nil (h : Segment separators s) : s.toList ≠ [] :=
  fun hnil => h.1 (String.toList_eq_nil_iff.mp hnil)

end Segment

namespace Reference

/-- The name, and the field behind a slash. -/
lemma splitOnce_nameAndField {name : String} (hname : '/' ∉ name.toList) (field : Option String) :
    splitOnce '/' (name ++ fieldText field) = field.map fun f => (name, f) := by
  cases field with
  | none => simp [fieldText, splitOnce, splitOnceAt_of_not_mem hname]
  | some f => exact splitOnce_eq_some hname (by simp [fieldText])

lemma parseService_text {svc name : String} {field : Option String}
    (hsvc : Segment ['/'] svc) (hname : Segment ['/'] name) (hfield : ∀ f ∈ field, f ≠ "") :
    parseService (svc ++ "/" ++ name ++ fieldText field) =
      some (toSecretRef (.service svc name field)) := by
  have hsplit : splitOnce '/' (svc ++ "/" ++ name ++ fieldText field) =
      some (svc, name ++ fieldText field) :=
    splitOnce_eq_some (hsvc.2 '/' (by simp)) (by simp)
  rw [parseService, hsplit]
  simp only [if_neg hsvc.1, splitOnce_nameAndField (hname.2 '/' (by simp))]
  cases field with
  | none => simp [fieldText, hname.1, toSecretRef]
  | some f => simp [hname.1, hfield f rfl, toSecretRef]

lemma parseEnvScoped_text {scope projectRaw env name : String} {field : Option String}
    (hscope : splitOnce ':' scope = some (projectRaw, env)) (henv : Segment ['/', ':'] env)
    (hname : Segment ['/'] name) (hfield : ∀ f ∈ field, Segment ['/'] f) :
    parseEnvScoped scope (name ++ fieldText field) =
      some ⟨name, none, if projectRaw = "" then none else some projectRaw, some env, field⟩ := by
  have hcolon : ':' ∉ env.toList := henv.2 ':' (by simp)
  rw [parseEnvScoped, hscope]
  simp only [henv.1, hcolon, or_self, if_false, splitOnce_nameAndField (hname.2 '/' (by simp))]
  cases field with
  | none => simp [fieldText, hname.1]
  | some f =>
    have hslash : '/' ∉ f.toList := (hfield f rfl).2 '/' (by simp)
    simp [hname.1, (hfield f rfl).1, hslash]

/-- A scope with a colon is left to the parser of the environment forms. -/
lemma parse_of_colon {value scope tail : String}
    (hvalue : value.toList = marker.toList ++ (scope.toList ++ '/' :: tail.toList))
    (hcolon : ':' ∈ scope.toList) (hslash : '/' ∉ scope.toList)
    (hat : scope.toList.head? ≠ some '@') :
    parse value = parseEnvScoped scope tail := by
  have hscope : scope.toList ≠ [] := ne_nil_of_mem hcolon
  have hhead : scope.toList.head? ≠ some '/' :=
    fun hhead => hslash (mem_of_mem_head? hhead)
  have hrest : stripPrefix marker value = some (scope ++ "/" ++ tail) :=
    stripPrefix_eq_some (by simpa using hvalue)
  have hne : scope ++ "/" ++ tail ≠ "" := by simp
  have hservice : stripPrefix "@" (scope ++ "/" ++ tail) = none :=
    stripPrefix_eq_none (by simpa using not_isPrefix_of_head hscope hat _)
  have hstart : startsWith (scope ++ "/" ++ tail) "/" = false :=
    startsWith_eq_false (by simpa using not_isPrefix_of_head hscope hhead _)
  have hsplit : splitOnce '/' (scope ++ "/" ++ tail) = some (scope, tail) :=
    splitOnce_eq_some hslash (by simp)
  rw [parse, hrest]
  simp [hne, hservice, hstart, hsplit, hcolon]

/-- A reference of a documented form is parsed into its parts. -/
lemma parse_text {r : Reference} (h : r.WellFormed) :
    parse r.text = some r.toSecretRef := by
  cases r with
  | deployment name field =>
    rcases h with ⟨hname, hat, hfield⟩
    have hrest : stripPrefix marker (text (.deployment name field)) =
        some (name ++ fieldText field) :=
      stripPrefix_eq_some (by simp [text, marker])
    have hne : name ++ fieldText field ≠ "" := by simp [hname.1]
    have hservice : stripPrefix "@" (name ++ fieldText field) = none :=
      stripPrefix_eq_none (by simpa using not_isPrefix_of_head hname.toList_ne_nil hat _)
    have hslash : startsWith (name ++ fieldText field) "/" = false := by
      refine startsWith_eq_false ?_
      simpa using not_isPrefix_of_head hname.toList_ne_nil
        (fun hhead => hname.2 '/' (by simp) (mem_of_mem_head? hhead)) _
    have hcolon : ':' ∉ name.toList := hname.2 ':' (by simp)
    rw [parse, hrest]
    simp only [if_neg hne, hservice, hslash, splitOnce_nameAndField (hname.2 '/' (by simp))]
    cases field with
    | none => simp [fieldText, hcolon, toSecretRef]
    | some f =>
      have hplain : '/' ∉ f.toList := (hfield f rfl).2 '/' (by simp)
      simp [hcolon, hname.1, (hfield f rfl).1, hplain, toSecretRef]
  | service svc name field =>
    rcases h with ⟨hsvc, hname, hfield⟩
    have hrest : stripPrefix marker (text (.service svc name field)) =
        some ("@" ++ (svc ++ "/" ++ name ++ fieldText field)) :=
      stripPrefix_eq_some (by simp [text, marker])
    have hservice : stripPrefix "@" ("@" ++ (svc ++ "/" ++ name ++ fieldText field)) =
        some (svc ++ "/" ++ name ++ fieldText field) := stripPrefix_eq_some (by simp)
    rw [parse, hrest]
    simp only [hservice, parseService_text hsvc hname hfield]
    simp
  | environment env name field =>
    rcases h with ⟨henv, hname, hfield⟩
    have hslash : '/' ∉ env.toList := henv.2 '/' (by simp)
    have hparse : parse (text (.environment env name field)) =
        parseEnvScoped (":" ++ env) (name ++ fieldText field) := by
      refine parse_of_colon (by simp [text, marker]) (by simp) ?_ (by simp)
      simpa using hslash
    have hscope : splitOnce ':' (":" ++ env) = some ("", env) :=
      splitOnce_eq_some (by simp) (by simp)
    rw [hparse, parseEnvScoped_text hscope henv hname hfield]
    rfl
  | project proj env name field =>
    rcases h with ⟨⟨hproj, hat⟩, henv, hname, hfield⟩
    have hslash : '/' ∉ env.toList := henv.2 '/' (by simp)
    have hslash' : '/' ∉ proj.toList := hproj.2 '/' (by simp)
    have hhead : (proj ++ ":" ++ env).toList.head? ≠ some '@' := by
      cases hcs : proj.toList with
      | nil => exact absurd hcs hproj.toList_ne_nil
      | cons c cs => simpa [hcs] using hat
    have hparse : parse (text (.project proj env name field)) =
        parseEnvScoped (proj ++ ":" ++ env) (name ++ fieldText field) := by
      refine parse_of_colon (by simp [text, marker]) (by simp) ?_ hhead
      simp [hslash, hslash']
    have hscope : splitOnce ':' (proj ++ ":" ++ env) = some (proj, env) :=
      splitOnce_eq_some (hproj.2 ':' (by simp)) (by simp)
    rw [hparse, parseEnvScoped_text hscope henv hname hfield, if_neg hproj.1]
    rfl

end Reference

/-! ## What is stored, and what the resolvers return -/

section Resolvers

variable {json : JsonGet} {hostVar : String → Option String} {provider : SecretsProvider}

/-- The value stored in a scope under a name, or the field of it. -/
def stored (json : JsonGet) (provider : SecretsProvider) (scope name : String)
    (field : Option String) : Option String :=
  match provider scope name with
  | .error _ => none
  | .ok secretValue =>
    match field with
    | none => some secretValue
    | some field =>
      match json secretValue field with
      | .ok (some value) => some value.text
      | _ => none

lemma stored_eq_some {scope name out : String} {field : Option String} :
    stored json provider scope name field = some out ↔
      ∃ secretValue, provider scope name = .ok secretValue ∧
        match field with
        | none => secretValue = out
        | some field => ∃ value, json secretValue field = .ok (some value) ∧ value.text = out := by
  unfold stored
  split
  next herror => simp [herror]
  next secretValue hok =>
    rw [hok]
    cases field with
    | none => simp
    | some field =>
      cases hjson : json secretValue field with
      | error => simp [hjson]
      | ok found => cases found <;> simp [hjson]

lemma resolveValueWithSecrets_eq_ok {scope value out : String} {ref : SecretRef}
    (href : isSecretRef value) (hparse : parse value = some ref) :
    resolveValueWithSecrets json hostVar provider scope value = .ok out ↔
      stored json provider (ref.effectiveScope scope) ref.name ref.field = some out := by
  rw [resolveValueWithSecrets, if_pos href, hparse, stored_eq_some]
  dsimp only
  cases hget : provider (ref.effectiveScope scope) ref.name with
  | error e => simp
  | ok secretValue =>
    cases hfield : ref.field with
    | none => simp
    | some field =>
      simp only [extractJsonField]
      split <;> simp_all

lemma resolveValue_eq_ok {resolver : SecretsResolver} {value out : String} {ref : SecretRef}
    (hurl : stripPrefix "$secret://" value = none) (href : isSecretRef value)
    (hparse : parse value = some ref) :
    resolver.resolveValue json value = .ok out ↔
      stored json resolver.provider (ref.effectiveScope resolver.scope) ref.name ref.field =
        some out := by
  rw [SecretsResolver.resolveValue, hurl]
  dsimp only
  rw [if_pos href, SecretsResolver.resolveSRef, hparse, stored_eq_some]
  dsimp only
  cases hget : resolver.provider (ref.effectiveScope resolver.scope) ref.name with
  | error e => simp
  | ok secretValue =>
    cases hfield : ref.field with
    | none => simp
    | some field =>
      simp only [SecretsResolver.extractField]
      split <;> simp_all

end Resolvers

/-! ## The scope that a reference denotes -/

namespace Reference

def name : Reference → String
  | .deployment name _ | .service _ name _ | .environment _ name _ | .project _ _ name _ => name

def field : Reference → Option String
  | .deployment _ field | .service _ _ field | .environment _ _ field | .project _ _ _ field =>
    field

def NamesEnvironment : Reference → Prop
  | .deployment .. | .service .. => False
  | .environment .. | .project .. => True

/-- The scope of the deployment, of a service of it, or of an environment.  `environmentScope` gives
the scope in which the secrets of an environment, of a project or of none, are stored. -/
def denotedScope (environmentScope : Option String → String → Option String)
    (deployment : String) : Reference → Option String
  | .deployment .. => some deployment
  | .service svc _ _ => some (deployment ++ "/" ++ svc)
  | .environment env _ _ => environmentScope none env
  | .project proj env _ _ => environmentScope (some proj) env

/-- What is returned for the reference is stored in the scope it denotes. -/
def InScope {ε : Type} (json : JsonGet) (provider : SecretsProvider)
    (environmentScope : Option String → String → Option String) (deployment : String)
    (r : Reference) (outcome : Except ε String) : Prop :=
  ∀ out, outcome = .ok out →
    ∃ scope, r.denotedScope environmentScope deployment = some scope ∧
      stored json provider scope r.name r.field = some out

/-- What the deployment has under the name, if anything, is also what the environment has. -/
def DeploymentAgrees (json : JsonGet) (provider : SecretsProvider)
    (environmentScope : Option String → String → Option String) (deployment : String)
    (r : Reference) : Prop :=
  ∀ out, stored json provider deployment r.name r.field = some out →
    ∃ scope, r.denotedScope environmentScope deployment = some scope ∧
      stored json provider scope r.name r.field = some out

/-- No reference of a documented form starts like a URL, and every one has the marker. -/
lemma text_marker (r : Reference) :
    isSecretRef r.text ∧ stripPrefix "$secret://" r.text = none := by
  have hstart : ∃ more, r.text.toList = marker.toList ++ more := by
    cases r <;> exact ⟨_, by simp only [text, String.toList_append, append_assoc]; rfl⟩
  rcases hstart with ⟨more, hmore⟩
  refine ⟨?_, stripPrefix_eq_none ?_⟩
  · rw [isSecretRef, startsWith, hmore]
    exact isPrefixOf_iff_prefix.mpr (prefix_append ..)
  · rw [hmore]
    simp [marker]

variable {json : JsonGet} {hostVar : String → Option String}
  {environmentScope : Option String → String → Option String}

/-- Looked up in one scope, and stored in the other. -/
lemma inScope_iff {ε : Type} {provider : SecretsProvider} {deployment : String} {r : Reference}
    {outcome : Except ε String}
    (houtcome : ∀ out, outcome = .ok out ↔
      stored json provider (r.toSecretRef.effectiveScope deployment) r.name r.field = some out) :
    r.InScope json provider environmentScope deployment outcome ↔
      (r.NamesEnvironment → r.DeploymentAgrees json provider environmentScope deployment) := by
  simp only [InScope, houtcome]
  cases r with
  | deployment | service =>
    refine iff_of_true (fun out hout => ⟨_, rfl, hout⟩) (fun henv => henv.elim)
  | environment | project => exact ⟨fun h _ => h, fun h => h trivial⟩

/-- Both resolvers keep to the scope of a reference exactly if it names no environment, or the
deployment has nothing else to return for it. -/
theorem resolved_in_scope_iff (json : JsonGet) (hostVar : String → Option String)
    (provider : SecretsProvider) (envResolver : Option (String → Except SecretsError String))
    (environmentScope : Option String → String → Option String) (deployment : String)
    (r : Reference) (hr : r.WellFormed) :
    (r.InScope json provider environmentScope deployment
        (resolveValueWithSecrets json hostVar provider deployment r.text) ∧
      r.InScope json provider environmentScope deployment
        (SecretsResolver.resolveValue json ⟨provider, deployment, envResolver⟩ r.text)) ↔
      (r.NamesEnvironment → r.DeploymentAgrees json provider environmentScope deployment) := by
  have hparse := parse_text hr
  rcases r.text_marker with ⟨href, hurl⟩
  have hname : r.toSecretRef.name = r.name := by cases r <;> rfl
  have hfield : r.toSecretRef.field = r.field := by cases r <;> rfl
  have hagent (out : String) :
      resolveValueWithSecrets json hostVar provider deployment r.text = .ok out ↔
        stored json provider (r.toSecretRef.effectiveScope deployment) r.name r.field =
          some out := by
    rw [resolveValueWithSecrets_eq_ok href hparse, hname, hfield]
  have hresolver (out : String) :
      SecretsResolver.resolveValue json ⟨provider, deployment, envResolver⟩ r.text = .ok out ↔
        stored json provider (r.toSecretRef.effectiveScope deployment) r.name r.field =
          some out := by
    rw [resolveValue_eq_ok hurl href hparse, hname, hfield]
  rw [inScope_iff hagent, inScope_iff hresolver, and_self]

/-! ## A deployment and an environment with secrets of the same name -/

def exampleProvider : SecretsProvider := fun scope name =>
  if scope = "app" ∧ name = "db" then .ok "of the deployment"
  else if scope = "app/api" ∧ name = "db" then .ok "of the service"
  else if scope = "env:1" ∧ name = "db" then .ok "of the environment"
  else .error (.notFound name)

def exampleJson : JsonGet := fun _ _ => .error "expected value"

def exampleEnvironments : Option String → String → Option String
  | none, "staging" => some "env:1"
  | _, _ => none

theorem resolved_in_scope_iff_service :
    (Reference.service "api" "db" none).InScope exampleJson exampleProvider exampleEnvironments
      "app" (resolveValueWithSecrets exampleJson (fun _ => none) exampleProvider "app"
        "$S:@api/db") :=
  ((resolved_in_scope_iff exampleJson (fun _ => none) exampleProvider none exampleEnvironments "app"
    (.service "api" "db" none) ⟨⟨by decide, by simp⟩, ⟨by decide, by simp⟩, nofun⟩).mpr
      fun henv => henv.elim).1

/-- `$S::staging/db` gets the secret of the deployment. -/
theorem environment_reference_gets_deployment_secret :
    ¬ (Reference.environment "staging" "db" none).InScope exampleJson exampleProvider
        exampleEnvironments "app"
        (resolveValueWithSecrets exampleJson (fun _ => none) exampleProvider "app"
          "$S::staging/db") ∧
    ¬ (Reference.environment "staging" "db" none).InScope exampleJson exampleProvider
        exampleEnvironments "app"
        (SecretsResolver.resolveValue exampleJson ⟨exampleProvider, "app", none⟩
          "$S::staging/db") := by
  have hother : stored exampleJson exampleProvider "env:1" "db" none ≠ some
      "of the deployment" := by
    decide +kernel
  constructor
  · intro h
    rcases h "of the deployment" (by decide +kernel) with ⟨scope, ⟨⟩, hstored⟩
    exact hother hstored
  · intro h
    rcases h "of the deployment" (by decide +kernel) with ⟨scope, ⟨⟩, hstored⟩
    exact hother hstored

end Reference

end ZLayer.Secrets
