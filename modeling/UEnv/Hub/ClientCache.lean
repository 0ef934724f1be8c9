import UEnv.Lib.Runs
import UEnv.Lib.Text
import UEnv.Lib.Timelines

/-!
# The disk cache of the Hub's clients

`get_env` and `get_version` of any number of clients that share one cache directory, in segments
between which other clients and the Hubs go on: the look at the cache, the second look for the ETag,
the Hub's answer, and what the client does with it.
-/

namespace UEnv.Hub.Client

open Runs Timelines

/-! ### Requests -/

/-- client.rs, 46-53. -/
structure HttpClient where
  baseUrl : String
  token : Option String
  maxRetries : Nat := 3
  deriving DecidableEq

/-- `new` (client.rs, 56-69). -/
def HttpClient.new (baseUrl : String) (token : Option String) : HttpClient where
  baseUrl := String.ofList (Text.trimEndBy (· == '/') baseUrl.toList)
  token := token

/-- The calls that go through the disk cache. -/
inductive Request
  | getEnv (envType : String)
  | getVersion (envType version : String)
  deriving DecidableEq

def Request.path : Request → String
  | getEnv envType => s!"/api/v1/envs/{envType}"
  | getVersion envType version => s!"/api/v1/envs/{envType}/versions/{version}"

def Request.cacheKey : Request → Option String
  | getEnv envType => some s!"env:{envType}"
  | getVersion envType version =>
    -- the moving `latest` pointer is not cached
    if version != "latest" then some s!"manifest:{envType}@{version}" else none

/-- What a Hub is asked for, and by whom. -/
structure Resource where
  url : String
  token : Option String
  deriving DecidableEq

def HttpClient.resource (client : HttpClient) (request : Request) : Resource where
  url := client.baseUrl ++ request.path
  token := client.token

/-! ### Answers -/

structure Response where
  etag : Option String
  body : String
  deriving DecidableEq

/-- What all Hubs would answer with success. -/
abbrev Hubs := Resource → Option Response

inductive Reply
  | notModified
  /-- The text of the body may fail to arrive. -/
  | success (response : Response) (failure : Option String)
  | status (code : Nat) (body : String)
  | transport (error : String)
  deriving DecidableEq

/-- The replies that Hubs give: `304` only for their current ETag. -/
def Reply.givenBy (hubs : Hubs) (resource : Resource) (priorEtag : Option String) : Reply → Bool
  | notModified => priorEtag.isSome && (hubs resource).any fun current => current.etag = priorEtag
  | success response _ => hubs resource = some response
  | status code _ => !(200 ≤ code && code < 300) && code != 304
  | transport _ => true

inductive ClientError
  | other (message : String)
  | response (status : Nat) (body : String)
  | transport (error : String)
  | json (body : String)
  deriving DecidableEq

/-! ### The directory -/

/-- cache.rs, 24-28. -/
structure CacheEntry where
  etag : Option String
  fetchedAt : Nat
  body : String

/-- The entry in a file, with the answer that it was stored from. -/
structure Stored extends CacheEntry where
  resource : Resource
  answeredAt : Nat

/-- cache.rs, 31-34. -/
structure DiskCache where
  dir : Option String
  ttlSecs : Nat

/-- `path_for`, for the digest of keys in hexadecimal. -/
def DiskCache.pathFor (disk : DiskCache) (digest : String → String) (key : String) :
    Option String :=
  disk.dir.map fun d => d ++ "/" ++ digest key ++ ".json"

/-- How the file is after `fs::write`, whose error is ignored. -/
inductive Saved
  | whole
  | unchanged
  | torn

/-! ### Calls -/

inductive Phase (M : Type)
  /-- There was no fresh entry. -/
  | missed
  | sending (priorEtag : Option String) (attempt : Nat)
  | answered (priorEtag : Option String) (attempt : Nat) (reply : Reply) (answeredAt : Nat)
  | returned (result : Except ClientError M) (time : Nat)

structure Call (M : Type) where
  client : HttpClient
  request : Request
  phase : Phase M

def Call.resource {M : Type} (call : Call M) : Resource := call.client.resource call.request

structure Host (M : Type) where
  hubs : Timeline Hubs
  files : String → Option Stored
  calls : Nat → Option (Call M)

inductive Step
  | call (id : Nat) (client : HttpClient) (request : Request)
  | reread (id : Nat)
  | answer (id : Nat) (reply : Reply)
  | receive (id : Nat) (saved : Saved)
  | change (hubs : Hubs)
  | tick (seconds : Nat)

section Hosts

variable {M : Type} (dir : Option String) (digest : String → String)
variable (fromStr : Request → String → Option M)

/-- The cache of manifests. -/
def manifests : DiskCache where
  dir := dir
  ttlSecs := 3600

/-- `serde_json::from_str` in `get_json`. -/
def decode (request : Request) (body : String) : Except ClientError M :=
  match fromStr request body with
  | some manifest => .ok manifest
  | none => .error (.json body)

namespace Host

variable (host : Host M)

/-- `DiskCache::read` of the key of a request. -/
def read (request : Request) : Option Stored :=
  (request.cacheKey.bind ((manifests dir).pathFor digest)).bind host.files

/-- `DiskCache::read_fresh`. -/
def readFresh (request : Request) : Option Stored :=
  (host.read dir digest request).filter fun entry =>
    host.hubs.clock - entry.fetchedAt ≤ (manifests dir).ttlSecs

/-- `DiskCache::write` of an answer. -/
def write (request : Request) (stored : Stored) (saved : Saved) (file : String) : Option Stored :=
  if request.cacheKey.bind ((manifests dir).pathFor digest) = some file then
    match saved with
    | .whole => some stored
    | .unchanged => host.files file
    | .torn => none
  else host.files file

/-- `put` (cache.rs, 106-109). -/
def put (id : Nat) (call : Call M) : Host M :=
  { host with calls := fun other => if other = id then some call else host.calls other }

def finish (id : Nat) (call : Call M) (result : Except ClientError M) : Host M :=
  host.put id { call with phase := .returned result host.hubs.clock }

/-- `get_body` up to the look at the fresh entry. -/
def lookup (id : Nat) (client : HttpClient) (request : Request) : Host M :=
  let call : Call M := { client, request, phase := .missed }
  match host.readFresh dir digest request with
  | some entry => host.finish id call (decode fromStr request entry.body)
  | none => host.put id call

/-- What `get_body` does with a reply. -/
def handle (id : Nat) (call : Call M) (priorEtag : Option String) (attempt : Nat)
    (answeredAt : Nat) (saved : Saved) : Reply → Host M
  | .notModified =>
    match host.read dir digest call.request with
    | some entry => host.finish id call (decode fromStr call.request entry.body)
    | none =>
      host.finish id call (.error (.other "server returned 304 but cache entry is missing"))
  | .success _ (some error) => host.finish id call (.error (.transport error))
  | .success response none =>
    let stored : Stored :=
      { response with fetchedAt := host.hubs.clock, resource := call.resource, answeredAt }
    { host with files := host.write dir digest call.request stored saved }.finish id call
      (decode fromStr call.request response.body)
  | .status code body =>
    if 500 ≤ code ∧ code < 600 ∧ attempt ≤ call.client.maxRetries then
      host.put id { call with phase := .sending priorEtag (attempt + 1) }
    else host.finish id call (.error (.response code body))
  | .transport error =>
    if attempt ≤ call.client.maxRetries then
      host.put id { call with phase := .sending priorEtag (attempt + 1) }
    else host.finish id call (.error (.transport error))

def after : Step → Option (Host M)
  | .call id client request =>
    if (host.calls id).isSome then none else some (host.lookup dir digest fromStr id client request)
  | .reread id =>
    match host.calls id with
    | some ⟨client, request, .missed⟩ =>
      let priorEtag := (host.read dir digest request).bind (·.etag)
      some (host.put id ⟨client, request, .sending priorEtag 1⟩)
    | _ => none
  | .answer id reply =>
    match host.calls id with
    | some ⟨client, request, .sending priorEtag attempt⟩ =>
      if reply.givenBy host.hubs.present (client.resource request) priorEtag then
        some (host.put id
          ⟨client, request, .answered priorEtag attempt reply host.hubs.clock⟩)
      else none
    | _ => none
  | .receive id saved =>
    match host.calls id with
    | some ⟨client, request, .answered priorEtag attempt reply answeredAt⟩ =>
      some (host.handle dir digest fromStr id ⟨client, request, .missed⟩ priorEtag attempt
        answeredAt saved reply)
    | _ => none
  | .change hubs => some { host with hubs := host.hubs.change hubs }
  | .tick seconds => some { host with hubs := host.hubs.tick seconds }

end Host

def hosts : System (Host M) Step where
  init host := host.hubs.past = [] ∧ (host.files = fun _ => none) ∧ host.calls = fun _ => none
  step := Host.after dir digest fromStr

/-! ### What a call answers -/

/-- What the Hubs would give for a request is the manifest. -/
def Answers (request : Request) (resource : Resource) (manifest : M) (hubs : Hubs) : Prop :=
  ∃ response, hubs resource = some response ∧ fromStr request response.body = some manifest

/-- Every manifest that a call returned is what its own Hub would have answered at some time of the
hour before. -/
def Current (host : Host M) : Prop :=
  ∀ id call manifest time, host.calls id = some call →
    call.phase = .returned (.ok manifest) time →
      host.hubs.WasWithin 3600 time (Answers fromStr call.request call.resource manifest)

/-- A manifest that its Hub has not answered since some time is not returned more than an hour
later. -/
def Visible (host : Host M) : Prop :=
  ∀ id call manifest since time, host.calls id = some call →
    (∀ moment ∈ host.hubs.moments, since ≤ moment.1 →
      ¬ Answers fromStr call.request call.resource manifest moment.2) →
    since + 3600 < time → call.phase ≠ .returned (.ok manifest) time

/-- One ETag of a resource stands for one body. -/
def Strong (hubs hubs' : Hubs) : Prop :=
  ∀ resource response response', hubs resource = some response → hubs' resource = some response' →
    response.etag.isSome → response.etag = response'.etag → response.body = response'.body

/-- The entry was stored from an answer of the same Hub to the same client, and if that answer was
on its way for some time, then it is not yet an hour old. -/
def UsableFresh (host : Host M) (resource : Resource) (entry : Stored) : Prop :=
  entry.resource = resource ∧
    (entry.fetchedAt = entry.answeredAt ∨ host.hubs.clock ≤ entry.answeredAt + 3600)

/-- The entry was stored from an answer of the same Hub to the same client, and it is the one that
was revalidated or one that is not yet an hour old. -/
def UsableRevalidated (host : Host M) (resource : Resource) (priorEtag : Option String)
    (entry : Stored) : Prop :=
  entry.resource = resource ∧
    (entry.etag = priorEtag ∨ host.hubs.clock ≤ entry.answeredAt + 3600)

/-- The condition on the call that goes on with a reply. -/
def Call.Timely (host : Host M) (call : Call M) : Prop :=
  match call.phase with
  | .answered _ _ (.success _ none) answeredAt => host.hubs.clock ≤ answeredAt + 3600
  | .answered priorEtag _ .notModified answeredAt =>
    host.hubs.clock ≤ answeredAt + 3600 ∧
      ∀ entry ∈ host.read dir digest call.request,
        UsableRevalidated host call.resource priorEtag entry
  | _ => True

/-- No entry is used for another Hub or token than its own, or after its hour. -/
def Fits (host : Host M) : Step → Prop
  | .call _ client request => ∀ entry ∈ host.readFresh dir digest request,
      UsableFresh host (client.resource request) entry
  | .receive id _ => ∀ call ∈ host.calls id, call.Timely dir digest host
  | .change hubs => ∀ moment ∈ host.hubs.moments, Strong moment.2 hubs ∧ Strong hubs moment.2
  | _ => True

/-! ### The invariant -/

/-- What is known of a call between its segments. -/
def Call.Sound (line : Timeline Hubs) (call : Call M) : Prop :=
  match call.phase with
  | .answered priorEtag _ reply answeredAt =>
    line.Was answeredAt fun hubs => reply.givenBy hubs call.resource priorEtag
  | .returned (.ok manifest) time =>
    line.WasWithin 3600 time (Answers fromStr call.request call.resource manifest)
  | _ => True

structure Sound (host : Host M) : Prop where
  strong : ∀ moment ∈ host.hubs.moments, ∀ moment' ∈ host.hubs.moments, Strong moment.2 moment'.2
  stored : ∀ file entry, host.files file = some entry →
    host.hubs.Was entry.answeredAt fun hubs =>
      hubs entry.resource = some ⟨entry.etag, entry.body⟩
  calls : ∀ id call, host.calls id = some call → call.Sound fromStr host.hubs

variable {dir digest fromStr} {host : Host M}

theorem Sound.current (sound : Sound fromStr host) : Current fromStr host := by
  intro id call manifest time found returned
  have known := sound.calls id call found
  rw [Call.Sound, returned] at known
  exact known

theorem strong_self (hubs : Hubs) : Strong hubs hubs := by
  intro resource response response' given given' _ _
  rw [Option.some.inj (given.symm.trans given')]

variable {line : Timeline Hubs} {entry : Stored}

theorem Call.Sound.extend {line' : Timeline Hubs} (ext : line.Extends line') {call : Call M}
    (known : call.Sound fromStr line) : call.Sound fromStr line' := by
  unfold Call.Sound at known ⊢
  split
  · rename_i phase
    rw [phase] at known
    exact Timeline.Was.extend ext known
  · rename_i phase
    rw [phase] at known
    exact Timeline.WasWithin.extend ext known
  · trivial

theorem Sound.passes (sound : Sound fromStr host) (ext : host.hubs.Extends line)
    (strong : ∀ moment ∈ line.moments, ∀ moment' ∈ line.moments, Strong moment.2 moment'.2) :
    Sound fromStr { host with hubs := line } where
  strong := strong
  stored file entry found := (sound.stored file entry found).extend ext
  calls id call found := (sound.calls id call found).extend ext

@[simp]
theorem Host.calls_put (id other : Nat) (call : Call M) :
    (host.put id call).calls other = if other = id then some call else host.calls other := rfl

section

variable (sound : Sound fromStr host)
include sound

theorem Sound.put (id : Nat) {call : Call M} (known : call.Sound fromStr host.hubs) :
    Sound fromStr (host.put id call) where
  strong := sound.strong
  stored := sound.stored
  calls other found := by
    intro held
    rw [Host.calls_put] at held
    split at held
    · cases held
      exact known
    · exact sound.calls other found held

theorem Sound.fail (id : Nat) (call : Call M) (error : ClientError) :
    Sound fromStr (host.finish id call (.error error)) :=
  sound.put id trivial

theorem Sound.finish (id : Nat) {call : Call M} {body : String}
    (given : host.hubs.WasWithin 3600 host.hubs.clock fun hubs =>
      ∃ response, hubs call.resource = some response ∧ response.body = body) :
    Sound fromStr (host.finish id call (decode fromStr call.request body)) := by
  refine sound.put id ?_
  unfold decode
  cases read : fromStr call.request body with
  | none => trivial
  | some =>
    obtain ⟨time, le, near, was⟩ := given
    refine ⟨time, le, near, was.mono fun hubs _ => ?_⟩
    rintro ⟨response, current, rfl⟩
    exact ⟨response, current, read⟩

theorem Sound.write (request : Request) {stored : Stored} (saved : Saved)
    (was : host.hubs.Was stored.answeredAt fun hubs =>
      hubs stored.resource = some ⟨stored.etag, stored.body⟩) :
    Sound fromStr { host with files := host.write dir digest request stored saved } where
  strong := sound.strong
  calls := sound.calls
  stored file entry found := by
    change host.write dir digest request stored saved file = some entry at found
    simp only [Host.write] at found
    split at found
    · cases saved with
      | whole =>
        cases found
        exact was
      | unchanged => exact sound.stored file entry found
      | torn => cases found
    · exact sound.stored file entry found

theorem Sound.read {request : Request} (found : host.read dir digest request = some entry) :
    host.hubs.Was entry.answeredAt fun hubs =>
      hubs entry.resource = some ⟨entry.etag, entry.body⟩ := by
  obtain ⟨file, -, held⟩ := Option.bind_eq_some_iff.mp found
  exact sound.stored file entry held

end

/-! ### Steps -/

section

variable (sound : Sound fromStr host)
include sound

theorem Sound.lookup (id : Nat) (client : HttpClient) (request : Request)
    (fits : Fits dir digest host (.call id client request)) :
    Sound fromStr (host.lookup dir digest fromStr id client request) := by
  unfold Host.lookup
  cases fresh : host.readFresh dir digest request with
  | none => exact sound.put id trivial
  | some entry =>
    obtain ⟨own, timely⟩ := fits entry fresh
    obtain ⟨found, inTime⟩ := Option.filter_eq_some_iff.mp fresh
    have near : host.hubs.clock ≤ entry.answeredAt + 3600 := by
      rcases timely with atOnce | timely
      · have age : host.hubs.clock - entry.fetchedAt ≤ 3600 := of_decide_eq_true inTime
        omega
      · exact timely
    refine sound.finish id (((sound.read found).mono fun hubs _ given => ?_).within near)
    exact ⟨_, own ▸ given, rfl⟩

/-- A body that was revalidated, or stored within the hour, was given within the hour. -/
theorem Sound.revalidated {request : Request} {resource : Resource} {priorEtag : Option String}
    {answeredAt : Nat} (found : host.read dir digest request = some entry)
    (usable : UsableRevalidated host resource priorEtag entry)
    (near : host.hubs.clock ≤ answeredAt + 3600) (confirmed : host.hubs.Was answeredAt fun hubs =>
      Reply.notModified.givenBy hubs resource priorEtag) :
    host.hubs.WasWithin 3600 host.hubs.clock fun hubs =>
      ∃ response, hubs resource = some response ∧ response.body = entry.body := by
  obtain ⟨own, same | young⟩ := usable
  · refine (confirmed.mono fun hubs here given => ?_).within near
    obtain ⟨tagged, current⟩ := Bool.and_eq_true_iff.mp given
    obtain ⟨response, served, etag⟩ := Option.any_eq_true _ _ |>.mp current
    obtain ⟨earlier, there, stored⟩ := sound.read found
    have equal := sound.strong _ there _ here resource _ response (own ▸ stored) served
    refine ⟨response, served, (equal ?_ ?_).symm⟩
    · rw [same]
      exact tagged
    · exact same.trans (of_decide_eq_true etag).symm
  · refine ((sound.read found).mono fun hubs _ given => ?_).within young
    exact ⟨_, own ▸ given, rfl⟩

theorem Sound.handle (id : Nat) (client : HttpClient) (request : Request)
    {priorEtag : Option String} (attempt : Nat) {answeredAt : Nat} (saved : Saved) {reply : Reply}
    (timely : Call.Timely dir digest host
      ⟨client, request, .answered priorEtag attempt reply answeredAt⟩)
    (given : host.hubs.Was answeredAt fun hubs =>
      reply.givenBy hubs (client.resource request) priorEtag) :
    Sound fromStr (host.handle dir digest fromStr id ⟨client, request, .missed⟩ priorEtag attempt
      answeredAt saved reply) := by
  cases reply with
  | notModified =>
    obtain ⟨near, usable⟩ := timely
    rw [Host.handle]
    cases found : host.read dir digest request with
    | none => exact sound.fail id _ _
    | some entry =>
      exact sound.finish id (sound.revalidated found (usable entry found) near given)
  | success response failure =>
    cases failure with
    | some => exact sound.fail id _ _
    | none =>
      have served : host.hubs.Was answeredAt fun hubs =>
          hubs (client.resource request) = some response :=
        given.mono fun hubs _ given => of_decide_eq_true given
      refine (sound.write request saved served).finish id
        ((served.mono fun hubs _ current => ?_).within timely)
      exact ⟨response, current, rfl⟩
  | status =>
    rw [Host.handle]
    split
    · exact sound.put id trivial
    · exact sound.fail id _ _
  | transport =>
    rw [Host.handle]
    split
    · exact sound.put id trivial
    · exact sound.fail id _ _

theorem Sound.after {step : Step} (fits : Fits dir digest host step) {next : Host M}
    (taken : host.after dir digest fromStr step = some next) : Sound fromStr next := by
  cases step with
  | call id client request =>
    simp only [Host.after] at taken
    split at taken
    · cases taken
    · cases taken
      exact sound.lookup id client request fits
  | reread id =>
    simp only [Host.after] at taken
    split at taken
    · cases taken
      exact sound.put id trivial
    · cases taken
  | answer id reply =>
    simp only [Host.after] at taken
    split at taken
    · split at taken
      · rename_i given
        cases taken
        exact sound.put id (Timeline.was_present given)
      · cases taken
    · cases taken
  | receive id saved =>
    simp only [Host.after] at taken
    split at taken
    · rename_i found
      cases taken
      exact sound.handle id _ _ _ saved (fits _ found) (sound.calls id _ found)
    · cases taken
  | change hubs =>
    cases taken
    refine sound.passes (host.hubs.extends_change hubs) ?_
    intro moment member moment' member'
    rcases List.mem_cons.mp member with rfl | before
    · rcases List.mem_cons.mp member' with rfl | before'
      · exact strong_self hubs
      · exact (fits moment' before').2
    · rcases List.mem_cons.mp member' with rfl | before'
      · exact (fits moment before).1
      · exact sound.strong moment before moment' before'
  | tick seconds =>
    cases taken
    refine sound.passes (host.hubs.extends_tick seconds) ?_
    have known : ∀ moment ∈ (host.hubs.tick seconds).moments,
        ∃ earlier ∈ host.hubs.moments, earlier.2 = moment.2 := by
      intro moment member
      rcases List.mem_cons.mp member with rfl | before
      · exact ⟨_, List.mem_cons_self, rfl⟩
      · exact ⟨moment, before, rfl⟩
    intro moment member moment' member'
    obtain ⟨earlier, there, equal⟩ := known moment member
    obtain ⟨earlier', there', equal'⟩ := known moment' member'
    rw [← equal, ← equal']
    exact sound.strong earlier there earlier' there'

end

theorem sound_of_reached
    (reached : ReachableWhen (hosts dir digest fromStr) (Fits dir digest) host) :
    Sound fromStr host := by
  refine reached.invariant ?_ fun _ _ _ _ sound fits taken => sound.after fits taken
  rintro host ⟨past, files, calls⟩
  refine ⟨?_, ?_, ?_⟩
  · intro moment member moment' member'
    rw [Timeline.moments, past] at member member'
    rw [List.mem_singleton.mp member, List.mem_singleton.mp member']
    exact strong_self _
  · intro file entry found
    rw [files] at found
    cases found
  · intro id call found
    rw [calls] at found
    cases found

end Hosts

theorem Current.visible {M : Type} {fromStr : Request → String → Option M} {host : Host M}
    (current : Current fromStr host) : Visible fromStr host := by
  intro id call manifest since time found gone late returned
  obtain ⟨answered, -, near, hubs, member, answers⟩ := current id call manifest time found returned
  exact gone _ member (by omega) answers

/-- In every run in which no entry is used for another Hub or token than its own or after its hour,
every call returns what its own Hub would have answered within the last hour, and a change is
visible to every call after an hour. -/
theorem answers_own_hub {M : Type} (dir : Option String) (digest : String → String)
    (fromStr : Request → String → Option M) {host : Host M}
    (reached : ReachableWhen (hosts dir digest fromStr) (Fits dir digest) host) :
    Current fromStr host ∧ Visible fromStr host :=
  have current := (sound_of_reached reached).current
  ⟨current, current.visible⟩

/-! ### Two Hubs -/

def first : HttpClient := .new "http://first/" none

def second : HttpClient := .new "http://second/" none

def twoHubs : Hubs := fun resource =>
  if resource = first.resource (.getEnv "math") then some ⟨some "1", "first"⟩
  else if resource = second.resource (.getEnv "math") then some ⟨some "2", "second"⟩
  else none

def fresh : Host String where
  hubs := .start 0 twoHubs
  files := fun _ => none
  calls := fun _ => none

abbrev shared : System (Host String) Step := hosts (some "/cache") id fun _ body => some body

/-- The first client fills the cache. -/
def filled : List Step :=
  [.call 0 first (.getEnv "math"), .reread 0, .answer 0 (.success ⟨some "1", "first"⟩ none),
    .receive 0 .whole]

/-- The second client gets the manifest of the first one's Hub. -/
theorem other_hub_answered :
    ∃ host, shared.exec fresh (filled ++ [.call 1 second (.getEnv "math")]) = some host ∧
      ¬ Current (fun _ body => some body) host := by
  refine ⟨_, rfl, fun current => ?_⟩
  obtain ⟨time, -, -, hubs, member, response, given, body⟩ :=
    current 1 _ "first" 0 rfl rfl
  cases List.mem_singleton.mp member
  cases given
  exact absurd (Option.some.inj body) (by decide)

/-- A second call of the first client, a minute later. -/
theorem answers_own_hub_again :
    ∃ host, shared.exec fresh (filled ++ [.tick 60, .call 1 first (.getEnv "math")]) = some host ∧
      Current (fun _ body => some body) host ∧ Visible (fun _ body => some body) host := by
  refine ⟨_, rfl, answers_own_hub (some "/cache") id _ ?_⟩
  refine .of_exec (s := fresh) (.start ⟨rfl, rfl, rfl⟩)
    (filled ++ [.tick 60, .call 1 first (.getEnv "math")]) ?_ rfl
  refine ⟨fun entry found => (by cases found), fun _ taken => ?_⟩
  cases taken
  refine ⟨trivial, fun _ taken => ?_⟩
  cases taken
  refine ⟨trivial, fun _ taken => ?_⟩
  cases taken
  refine ⟨fun call found => ?_, fun _ taken => ?_⟩
  · cases found
    exact Nat.le_add_left _ _
  cases taken
  refine ⟨trivial, fun _ taken => ?_⟩
  cases taken
  refine ⟨fun entry found => ?_, fun _ _ => trivial⟩
  cases found
  exact ⟨rfl, .inl rfl⟩

end UEnv.Hub.Client
