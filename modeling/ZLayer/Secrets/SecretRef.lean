import ZLayer.Lib.Str
import ZLayer.Secrets.Types

/-!
# SecretRef — references to secrets in configuration values

A configuration value that starts with `$S:` names a secret.  The text before the name says in which
scope to look: that of the deployment, of a service, of an environment or of an environment of a
project.  Two resolvers replace such values: the one of the agent, which also reads variables of the
host, and `SecretsResolver`, which also knows `$secret://` references.

A reference of one of the documented forms is parsed into its parts.
-/

namespace ZLayer.Secrets

open Lib Str

structure SecretRef where
  name : String
  service : Option String
  project : Option String
  environment : Option String
  field : Option String
  deriving DecidableEq

namespace SecretRef

def marker : String := "$S:"

def isSecretRef (value : String) : Bool := startsWith value marker

/-- `@service/name[/field]`, after the `@`.  An empty field counts as none. -/
def parseService (serviceRest : String) : Option SecretRef :=
  match splitOnce '/' serviceRest with
  | none => none
  | some (service, tail) =>
    if service = "" then none
    else
      let (name, field) :=
        match splitOnce '/' tail with
        | none => (tail, none)
        | some (name, field) => (name, if field = "" then none else some field)
      if name = "" then none
      else
        some
          { name
            service := some service
            project := none
            environment := none
            field }

/-- The forms whose scope, the part before the first slash, has a colon. -/
def parseEnvScoped (scope tail : String) : Option SecretRef :=
  match splitOnce ':' scope with
  | none => none
  | some (projectRaw, environment) =>
    if environment = "" ∨ ':' ∈ environment.toList then none
    else
      let project := if projectRaw = "" then none else some projectRaw
      let parts :=
        match splitOnce '/' tail with
        | some (name, field) =>
          if field = "" ∨ '/' ∈ field.toList then none else some (name, some field)
        | none => some (tail, none)
      match parts with
      | none => none
      | some (name, field) =>
        if name = "" then none
        else
          some
            { name
              service := none
              project
              environment := some environment
              field }

def parse (value : String) : Option SecretRef :=
  match stripPrefix marker value with
  | none => none
  | some rest =>
    if rest = "" then none
    else
      match stripPrefix "@" rest with
      | some serviceRest => parseService serviceRest
      | none =>
        if startsWith rest "/" then none
        else
          match splitOnce '/' rest with
          | some (scope, tail) =>
            if ':' ∈ scope.toList then parseEnvScoped scope tail
            else if scope = "" then none
            else if tail = "" then none
            else if '/' ∈ tail.toList then none
            else
              some
                { name := scope
                  service := none
                  project := none
                  environment := none
                  field := some tail }
          | none =>
            if ':' ∈ rest.toList then none
            else
              some
                { name := rest
                  service := none
                  project := none
                  environment := none
                  field := none }

/-- The scope in which both resolvers look: of the service if there is one, or of the deployment. -/
def effectiveScope (scope : String) (secretRef : SecretRef) : String :=
  match secretRef.service with
  | some service => scope ++ "/" ++ service
  | none => scope

end SecretRef

/-! ## Fields of a secret that is a JSON object -/

/-- A value in a JSON object, with the text of a number, an array or an object. -/
inductive JsonValue
  | string (s : String)
  | number (text : String)
  | bool (b : Bool)
  | null
  | other (text : String)

def JsonValue.text : JsonValue → String
  | .string s => s
  | .number text => text
  | .bool b => if b then "true" else "false"
  | .null => ""
  | .other text => text

/-- The parser of JSON texts and the lookup of a field: the text of the parser's error, or the
value of the field if there is one. -/
abbrev JsonGet := (secretValue field : String) → Except String (Option JsonValue)

/-- Lookups in a store of secrets, by scope and name. -/
abbrev SecretsProvider := (scope name : String) → Except SecretsError String

/-! ## The resolver of the agent -/

inductive EnvResolutionError
  | missingEnvVar (var : String)
  | secretNotFound (name : String)
  | secretResolution (message : String)
  deriving DecidableEq

def envRefMarker : String := "$E:"

def extractJsonField (json : JsonGet) (secretValue field : String) :
    Except EnvResolutionError String :=
  match json secretValue field with
  | .error e => .error (.secretResolution ("failed to parse secret as JSON: " ++ e))
  | .ok (some value) => .ok value.text
  | .ok none => .error (.secretNotFound ("field '" ++ field ++ "' in secret"))

def secretError : SecretsError → EnvResolutionError
  | .notFound name => .secretNotFound name
  | other => .secretResolution other.display

/-- `hostVar` reads a variable of the host that is set and valid Unicode. -/
def resolveValueWithSecrets (json : JsonGet) (hostVar : String → Option String)
    (secretsProvider : SecretsProvider) (scope value : String) :
    Except EnvResolutionError String :=
  if SecretRef.isSecretRef value then
    match SecretRef.parse value with
    | none => .error (.secretResolution ("invalid secret reference syntax: " ++ value))
    | some secretRef =>
      match secretsProvider (secretRef.effectiveScope scope) secretRef.name with
      | .error e => .error (secretError e)
      | .ok secretValue =>
        match secretRef.field with
        | some field => extractJsonField json secretValue field
        | none => .ok secretValue
  else
    match stripPrefix envRefMarker value with
    | some varName =>
      match hostVar varName with
      | some val => .ok val
      | none => .error (.missingEnvVar varName)
    | none => .ok value

/-! ## `SecretsResolver` -/

structure SecretsResolver where
  provider : SecretsProvider
  scope : String
  envResolver : Option (String → Except SecretsError String)

namespace SecretsResolver

def extractField (json : JsonGet) (secretValue field : String) : Except SecretsError String :=
  match json secretValue field with
  | .error e => .error (.decryption e)
  | .ok (some value) => .ok value.text
  | .ok none => .error (.notFound ("field '" ++ field ++ "' in secret"))

def resolveSRef (json : JsonGet) (resolver : SecretsResolver) (value : String) :
    Except SecretsError String :=
  match SecretRef.parse value with
  | none => .error (.invalidName value)
  | some secretRef =>
    match resolver.provider (secretRef.effectiveScope resolver.scope) secretRef.name with
    | .error e => .error e
    | .ok secretValue =>
      match secretRef.field with
      | some field => extractField json secretValue field
      | none => .ok secretValue

def resolveSecretUrl (json : JsonGet) (resolver : SecretsResolver) (rest : String) :
    Except SecretsError String :=
  match splitOnce '/' rest with
  | none => .error (.invalidName ("$secret://" ++ rest))
  | some (envName, afterEnv) =>
    if envName = "" then .error (.invalidName ("$secret://" ++ rest))
    else
      let (key, field) :=
        match splitOnce '/' afterEnv with
        | some (key, field) => (key, some field)
        | none => (afterEnv, none)
      if key = "" then .error (.invalidName ("$secret://" ++ rest))
      else
        match resolver.envResolver with
        | none =>
          .error (.provider "SecretsResolver has no env resolver; `$secret://` not supported")
        | some resolveEnvScope =>
          match resolveEnvScope envName with
          | .error e => .error e
          | .ok scope =>
            match resolver.provider scope key with
            | .error e => .error e
            | .ok secretValue =>
              match field with
              | some field => extractField json secretValue field
              | none => .ok secretValue

def resolveValue (json : JsonGet) (resolver : SecretsResolver) (value : String) :
    Except SecretsError String :=
  match stripPrefix "$secret://" value with
  | some rest => resolver.resolveSecretUrl json rest
  | none =>
    if SecretRef.isSecretRef value then resolver.resolveSRef json value
    else .ok value

end SecretsResolver

/-! ## The documented forms -/

/-- A reference by its parts. -/
inductive Reference
  | deployment (name : String) (field : Option String)
  | service (service name : String) (field : Option String)
  | environment (environment name : String) (field : Option String)
  | project (project environment name : String) (field : Option String)

/-- A nonempty text without the separators that follow it. -/
def Segment (separators : List Char) (s : String) : Prop :=
  s ≠ "" ∧ ∀ c ∈ separators, c ∉ s.toList

namespace Reference

def fieldText : Option String → String
  | none => ""
  | some field => "/" ++ field

def text : Reference → String
  | .deployment name field => "$S:" ++ name ++ fieldText field
  | .service svc name field => "$S:@" ++ svc ++ "/" ++ name ++ fieldText field
  | .environment env name field => "$S::" ++ env ++ "/" ++ name ++ fieldText field
  | .project proj env name field => "$S:" ++ proj ++ ":" ++ env ++ "/" ++ name ++ fieldText field

/-- The parts have no separators of their own; a field of a service's secret may have slashes. -/
def WellFormed : Reference → Prop
  | .deployment name field =>
    Segment ['/', ':'] name ∧ name.toList.head? ≠ some '@' ∧ ∀ f ∈ field, Segment ['/'] f
  | .service svc name field => Segment ['/'] svc ∧ Segment ['/'] name ∧ ∀ f ∈ field, f ≠ ""
  | .environment env name field =>
    Segment ['/', ':'] env ∧ Segment ['/'] name ∧ ∀ f ∈ field, Segment ['/'] f
  | .project proj env name field =>
    (Segment ['/', ':'] proj ∧ proj.toList.head? ≠ some '@') ∧
      Segment ['/', ':'] env ∧ Segment ['/'] name ∧ ∀ f ∈ field, Segment ['/'] f

def toSecretRef : Reference → SecretRef
  | .deployment name field => ⟨name, none, none, none, field⟩
  | .service svc name field => ⟨name, some svc, none, none, field⟩
  | .environment env name field => ⟨name, none, none, some env, field⟩
  | .project proj env name field => ⟨name, none, some proj, some env, field⟩

end Reference

end ZLayer.Secrets
