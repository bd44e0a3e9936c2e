import FlowAI.Framework.JsonText
import FlowAI.Framework.Table
import FlowAI.Framework.Time
import FlowAI.Framework.Tx

/-! # Platform Types

  The vocabulary of the State Registry: the enumerations of its columns, the
  requests and identities its operations take, the errors they return, and
  what a single call draws from its surroundings (clock, transaction time,
  fresh identifiers, nonces).

  Timestamps read from the Go clock or from a request are nanoseconds;
  timestamps of the database are microseconds.
-/

namespace FlowAI.Registry

/-! ## Section 1: Enumerations -/

/-- `tasks.current_state`. -/
inductive TaskState where
  | pending | created | running | finished | failed
  deriving DecidableEq, Repr

/-- `task_events.event_type`. -/
inductive TaskEventType where
  | created | running | finished | failed
  deriving DecidableEq, Repr

/-- The state a task is in once an event of the type is accepted. -/
def TaskEventType.state : TaskEventType → TaskState
  | .created => .created
  | .running => .running
  | .finished => .finished
  | .failed => .failed

/-- The column text of an event type. -/
def TaskEventType.text : TaskEventType → String
  | .created => "created"
  | .running => "running"
  | .finished => "finished"
  | .failed => "failed"

/-- `allowedTaskEventTypes`: the types an executor may append. -/
def allowedTaskEventType : String → Option TaskEventType
  | "running" => some .running
  | "finished" => some .finished
  | "failed" => some .failed
  | _ => none

/-- `executors.scope`. -/
inductive ExecutorScope where
  | team | system
  deriving DecidableEq, Repr

/-- `executor_events.event_type`. -/
inductive ExecutorEventType where
  | registered | started | healthy | busy | idle | stopping | stopped | failed
  | capacityObserved | runningCountObserved
  deriving DecidableEq, Repr

/-- The request text of an executor event type, as the handler admits it. -/
def executorEventType : String → Option ExecutorEventType
  | "registered" => some .registered
  | "started" => some .started
  | "healthy" => some .healthy
  | "busy" => some .busy
  | "idle" => some .idle
  | "stopping" => some .stopping
  | "stopped" => some .stopped
  | "failed" => some .failed
  | "capacity_observed" => some .capacityObserved
  | "running_count_observed" => some .runningCountObserved
  | _ => none

/-- `tasks.image_source`. -/
inductive ImageSource where
  | taskOverride | taskTypeParameters | teamParameters | globalParameters
  | taskTypeDefault | sourceSystemDefault | teamDefault
  deriving DecidableEq, Repr

/-- `environment_definitions.scope_kind`. -/
inductive LaunchScope where
  | global | team | taskType
  deriving DecidableEq, Repr

/-- `task_control_requests.action`. -/
inductive ControlAction where
  | cancel | interrupt
  deriving DecidableEq, Repr

def ControlAction.text : ControlAction → String
  | .cancel => "cancel"
  | .interrupt => "interrupt"

/-- `task_control_requests.status` and `task_control_events.status`. -/
inductive ControlStatus where
  | pending | acknowledged | completed | failed
  deriving DecidableEq, Repr

def ControlStatus.text : ControlStatus → String
  | .pending => "pending"
  | .acknowledged => "acknowledged"
  | .completed => "completed"
  | .failed => "failed"

/-- `task_log_chunks.stream`. -/
inductive LogStream where
  | work | reasoning
  deriving DecidableEq, Repr

/-- `audit_entries.actor_type`. -/
inductive ActorType where
  | operator | executor | listener | systemAdministrator | stateRegistry
  deriving DecidableEq, Repr

/-- `audit_entries.outcome`. -/
inductive AuditOutcome where
  | accepted | rejected | succeeded | failed
  deriving DecidableEq, Repr

/-! ## Section 2: Images -/

/-- An image by repository and digest. -/
structure ImageReference where
  repository : String
  digest : String
  deriving DecidableEq, Repr

/-- `json.Marshal` of an image reference. -/
def ImageReference.toJson (image : ImageReference) : Json :=
  .obj [("repository", .str image.repository), ("digest", .str image.digest)]

/-- Member names match struct fields without regard to ASCII case. -/
def foldKey (k : String) : List Char := k.toList.map Char.toLower

/-- The string field `name` of a decoded struct: `null` leaves it alone, any other
    type is an error, the last duplicate wins. -/
def stringMember (name : String) : List (String × Json) → String → Option String
  | [], acc => some acc
  | (k, v) :: rest, acc =>
    if foldKey k = foldKey name then
      match v with
      | .str s => stringMember name rest s
      | .null => stringMember name rest acc
      | _ => none
    else stringMember name rest acc

/-- `json.Unmarshal` into an `ImageReference`. -/
def ImageReference.ofJson : Json → Option ImageReference
  | .obj members => do
    let repository ← stringMember "repository" members ""
    let digest ← stringMember "digest" members ""
    some ⟨repository, digest⟩
  | .null => some ⟨"", ""⟩
  | _ => none

theorem foldKey_digest_ne : foldKey "digest" ≠ foldKey "repository" := by decide

@[simp] theorem ImageReference.jsonb_toJson (image : ImageReference) :
    image.toJson.jsonb =
      .obj [("digest", .str image.digest), ("repository", .str image.repository)] := by
  have hlt : ("digest" : String) < "repository" := by decide
  simp [toJson, Json.jsonb, Json.normalize, Json.normalizeMembers, mergeMembers, insertMember, hlt]

/-- A `jsonb` column gives back the image that was written. -/
theorem ImageReference.ofJson_jsonb_toJson (image : ImageReference) :
    ImageReference.ofJson image.toJson.jsonb = some image := by
  simp [ofJson, stringMember, foldKey_digest_ne, foldKey_digest_ne.symm]

/-! ## Section 3: Identities and requests -/

/-- The executor a call is authenticated as. -/
structure ExecutorIdentity where
  executorID : String
  scope : ExecutorScope
  teamID : Option String
  requestID : String
  deriving DecidableEq, Repr

/-- The listener a call is authenticated as. -/
structure ListenerIdentity where
  teamID : String
  sourceSystemID : String
  identity : String
  requestID : String
  deriving DecidableEq, Repr

/-- The operator a gateway call is authenticated as. -/
structure GatewayIdentity where
  teamID : String
  operatorID : String
  requestID : String
  deriving DecidableEq, Repr

structure AdminIdentity where
  subject : String
  requestID : String
  deriving DecidableEq, Repr

structure CreateTeamRequest where
  teamName : String
  defaultImage : String

structure UpdateTeamRequest where
  teamName : Option String
  defaultImage : Option String

structure CreateSourceSystemRequest where
  teamID : String
  listenerIdentity : String
  defaultImage : Option ImageReference

structure CreateTaskTypeRequest where
  teamID : String
  executionTag : String
  defaultImage : Option ImageReference

structure ExecutorRegistrationRequest where
  scope : ExecutorScope
  teamID : Option String
  executorType : String
  authorizedTag : String
  maxCapacity : Int
  runningCount : Int
  runtimeMetadata : Json

structure TaskIngestionRequest where
  teamID : String
  sourceSystemID : String
  sourceID : String
  taskTypeID : String
  payload : RawMessage
  projectID : Option String
  image : Option ImageReference

structure ClaimRequest where
  taskID : String
  commandID : String
  deriving DecidableEq, Repr

structure TaskEventAppendRequest where
  eventID : String
  teamID : String
  taskID : String
  executorID : String
  eventType : String
  occurredAt : String
  payload : RawMessage
  deriving DecidableEq

structure ExecutorEventAppendRequest where
  eventID : String
  teamID : Option String
  taskID : Option String
  executorID : String
  eventType : String
  occurredAt : String
  payload : RawMessage
  deriving DecidableEq

structure CreateTaskControlRequest where
  action : ControlAction
  idempotencyKey : String
  reason : Option String
  deriving DecidableEq

/-- The handler has decoded `occurred_at` into nanoseconds already; the payload is the text
    of the request. -/
structure TaskControlEventAppendRequest where
  controlEventID : String
  status : ControlStatus
  occurredAt : Int
  payload : String
  deriving DecidableEq

structure TaskLogAppendRequest where
  logChunkID : String
  stream : LogStream
  content : String
  occurredAt : Int
  deriving DecidableEq

structure LaunchParameterWrite where
  scope : LaunchScope
  taskTypeID : Option String
  name : String
  env : StrMap String
  image : Option String

structure SecretCreateRequest where
  name : String
  value : String

structure SecretReplaceRequest where
  value : String

/-! ## Section 4: Errors -/

/-- The sentinel errors of the store, a refusal of the database, `errors.New(text)`
    for any other text, and `fmt.Errorf("context: %w", err)`. -/
inductive StoreError where
  | executorNotFound | executorScopeConflict | executorTeamConflict | executorIdentityMismatch
  | executorTagMismatch | taskNotFound | taskAlreadyClaimed | olderTaskMustBeClaimedFirst
  | eventNotFound | eventConflict | notAssigned | eventTeamMismatch | invalidTaskTransition
  | teamNotFound | teamNameConflict | teamArchived | listenerIdentityConflict
  | listenerSourceMismatch | listenerTaskTypeUnknown | environmentUnavailable
  | launchParameterConflict | taskUnknown | controlConflict | controlEventConflict
  | taskLogConflict
  | violation (v : Violation)
  | plain (text : String)
  | wrapped (context : String) (err : StoreError)
  deriving DecidableEq, Repr

/-! ## Section 5: Surroundings of a call -/

/-- What one call draws from its surroundings. -/
structure CallEnv where
  /-- `time.Now()`, in nanoseconds. -/
  now : Int
  /-- `transaction_timestamp()`, in microseconds. -/
  txTime : Int
  /-- The identifiers `uuid.NewString` draws, in the order of the calls. -/
  uuid : Nat → String
  /-- The random AES-GCM nonce. -/
  nonce : String

/-- AES-256-GCM under the key of the store. -/
structure Aead where
  /-- Ciphertext and tag of a plaintext under nonce and associated data. -/
  sealText : (nonce aad plaintext : String) → String × String
  openText : (nonce aad ciphertext tag : String) → Option String

/-- The claims of a scope token. -/
structure ScopeTokenClaims where
  teamID : String
  taskID : String
  executorID : String
  audience : String
  keyID : String
  issuedAt : String
  expiry : String
  deriving DecidableEq, Repr

/-- The scope-token keyring: `sign` builds the compact token of claims under the
    active key, `decode` checks shape, key, algorithm and MAC of a token. -/
structure TokenKeyring where
  activeKeyID : String
  sign : ScopeTokenClaims → String
  decode : String → Option ScopeTokenClaims

/-- The configuration of a running store, and the parts of PostgreSQL it relies on. -/
structure Config where
  /-- `none` when no key of 32 bytes is configured. -/
  aead : Option Aead
  keyring : Option TokenKeyring
  /-- Whether the input function of `jsonb` admits a JSON text. -/
  jsonbAdmits : Json → Bool
  /-- The `jsonb` value of a text, if it is one. -/
  jsonbText : String → Option Json
  /-- The text a stored `jsonb` value is read back as, in the member order and the
      spacing of the database. -/
  jsonbOut : Json → String

end FlowAI.Registry
