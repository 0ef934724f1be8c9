import UEnv.Hub.Publishing

/-!
# What a retried publish reports

The Hub stores a version once and refuses it from then on. A call whose commit is hidden from the
client therefore ends with a conflict or with a server error, unless no later answer arrives.
-/

namespace UEnv.Hub

open Records Retrying

variable {M V : Type} [LinearOrder V]

/-! ### The handlers -/

section Handlers

variable (server : HubServer M V) {p : Publish M} (ts : Nat) (fault : Option PublishFault)
  {r : Registry M}

omit [LinearOrder V] in
theorem stored_congr {r r' : Registry M} (same : r'.hub = r.hub) : p.stored r' = p.stored r := by
  cases p <;> rw [Publish.stored, Publish.stored, same]

variable {envType id version : String} {hub : HubStore M} {e : HubError}

theorem commitVersion_stored {nv : NewVersion M} {rubric : Option RubricSpec} {fails : Bool}
    (stored : (Publish.version envType nv rubric).stored r = true) :
    ∃ e, server.commitVersion envType nv rubric ts fails r.hub = .error e := by
  cases committed : server.commitVersion envType nv rubric ts fails r.hub with
  | error e => exact ⟨e, rfl⟩
  | ok hub =>
    obtain ⟨_, _, committed⟩ := Fallible.bind_eq_ok.mp committed
    obtain ⟨request, authorized, committed⟩ := Fallible.bind_eq_ok.mp committed
    obtain ⟨write, checked, _⟩ := Fallible.bind_eq_ok.mp committed
    obtain ⟨_, _, authorized⟩ := Fallible.bind_eq_ok.mp authorized
    split at authorized
    · cases authorized
      obtain ⟨env, required, checked⟩ := Fallible.bind_eq_ok.mp checked
      split at checked
      · cases checked
      · next absent =>
        unfold HubStore.requireEnvRow at required
        split at required
        · next found =>
          cases required
          obtain ⟨found, _⟩ := findEnvRow_eq_some found
          simp only [Publish.stored, found, Option.bind_some] at stored
          rw [absent] at stored
          cases stored
        · cases required
    · cases authorized

theorem insertPackage_stored {req : PublishPackageRequest M}
    (stored : (Publish.package id req).stored r = true) :
    ∃ e, server.insertPackage id req ts r.hub = .error e := by
  cases inserted : server.insertPackage id req ts r.hub with
  | error e => exact ⟨e, rfl⟩
  | ok hub =>
    obtain ⟨write, checked, ran⟩ := Fallible.bind_eq_ok.mp inserted
    obtain ⟨_, _, checked⟩ := Fallible.bind_eq_ok.mp checked
    cases checked
    obtain ⟨packages, published, _⟩ := Fallible.bind_eq_ok.mp ran
    simp only [Publish.stored] at stored
    unfold publishSeries at published
    split at published
    · next series found =>
      rw [found, Option.bind_some] at stored
      split at published
      · cases published
      · next absent =>
        rw [show req.version = (server.packageVersion req).version from rfl, absent] at stored
        cases stored
    · next absent =>
      rw [absent] at stored
      cases stored

theorem commit_hub : (server.commit p ts fault r).1.hub = r.hub := by
  cases p with
  | version => rfl
  | package =>
    simp only [HubServer.commit, HubServer.commitPackage]
    split <;> rfl

theorem commit_stored (stored : p.stored r = true) :
    ∃ e, (server.commit p ts fault r).2 = .error e := by
  cases p with
  | version => exact commitVersion_stored server ts stored
  | package id req =>
    simp only [HubServer.commit, HubServer.commitPackage]
    split
    · next e _ => exact ⟨e, rfl⟩
    · dsimp only
      split
      · next e _ => exact ⟨e, rfl⟩
      · split
        · exact ⟨_, rfl⟩
        · exact insertPackage_stored server ts stored

theorem handle_stored (stored : p.stored r = true) :
    (∃ e, (server.handle p ts fault r).2 = .error e) ∧
      p.stored (server.handle p ts fault r).1 = true := by
  obtain ⟨e, refused⟩ := commit_stored server ts fault stored
  have hub : (server.commit p ts fault r).1.hub = r.hub := commit_hub server ts fault
  rw [HubServer.handle]
  generalize server.commit p ts fault r = outcome at refused hub
  obtain ⟨r', answer⟩ := outcome
  dsimp only at refused hub
  subst refused
  exact ⟨⟨e, rfl⟩, (stored_congr hub).trans stored⟩

omit [LinearOrder V] in
theorem getManifest_error (failed : hub.getManifest envType version = .error e) :
    ∃ kind id, e = .notFound kind id := by
  unfold HubStore.getManifest HubStore.requireEnvRow at failed
  split at failed
  · rw [Fallible.ok_bind] at failed
    split at failed
    · cases failed
    · exact ⟨_, _, (Except.error.inj failed).symm⟩
  · exact ⟨_, _, (Except.error.inj failed).symm⟩

omit [LinearOrder V] in
theorem getPackageManifest_error (failed : hub.getPackageManifest id version = .error e) :
    ∃ kind id, e = .notFound kind id := by
  unfold HubStore.getPackageManifest getSeriesManifest requireSeries at failed
  split at failed
  · rw [Fallible.ok_bind] at failed
    split at failed
    · split at failed
      · rw [Fallible.ok_bind] at failed
        dsimp only at failed
        split at failed
        · cases failed
        · exact ⟨_, _, (Except.error.inj failed).symm⟩
      · exact ⟨_, _, (Except.error.inj failed).symm⟩
    · rw [Fallible.ok_bind] at failed
      dsimp only at failed
      split at failed
      · cases failed
      · exact ⟨_, _, (Except.error.inj failed).symm⟩
  · exact ⟨_, _, (Except.error.inj failed).symm⟩

omit [LinearOrder V] in
theorem readBack_error (failed : p.readBack hub = .error e) : ∃ kind id, e = .notFound kind id := by
  cases p with
  | version envType nv =>
    cases read : hub.getManifest envType nv.version with
    | error e' =>
      rw [Publish.readBack, read] at failed
      exact Except.error.inj failed ▸ getManifest_error read
    | ok m =>
      rw [Publish.readBack, read] at failed
      cases failed
  | package id req =>
    cases read : hub.getPackageManifest id req.version with
    | error e' =>
      rw [Publish.readBack, read] at failed
      exact Except.error.inj failed ▸ getPackageManifest_error read
    | ok =>
      rw [Publish.readBack, read] at failed
      cases failed

theorem handle_commits (absent : p.stored r = false)
    (stored : p.stored (server.handle p ts fault r).1 = true)
    (refused : (server.handle p ts fault r).2 = .error e) : e.toApiError.status ≠ 409 := by
  have hub : (server.commit p ts fault r).1.hub = r.hub := commit_hub server ts fault
  rw [HubServer.handle] at stored refused
  generalize server.commit p ts fault r = outcome at stored refused hub
  obtain ⟨r', failed | committed⟩ := outcome
  · have same := stored_congr (p := p) hub
    dsimp only at stored same
    rw [stored, absent] at same
    cases same
  · dsimp only at refused
    split at refused
    · obtain rfl := Except.error.inj refused
      decide
    · obtain ⟨kind, id, rfl⟩ := readBack_error refused
      exact Nat.ne_of_lt (by decide : 404 < 409)

end Handlers

/-! ### Attempts -/

section Attempts

variable {server : HubServer M V} {p : Publish M} {a : Attempt p} {r : Registry M}

/-- Whatever becomes of an attempt, the version stays, and no attempt after it is told that it
published the version. -/
theorem send_stored (stored : p.stored r = true) : p.stored (a.send server r).1 = true ∧
      ∀ published, (a.send server r).2 ≠ some (.created published) := by
  have kept := (a.keeps r).trans stored
  have handled := fun fault => handle_stored server a.ts fault kept
  have silent : ∀ published, (none : Option HttpReply) ≠ some (.created published) := by
    intro published told
    cases told
  unfold Attempt.send
  cases a.delivery with
  | requestLost => exact ⟨kept, silent⟩
  | responseLost => exact ⟨(handled none).2, silent⟩
  | badGateway code reached =>
    refine ⟨?_, fun published told => ?_⟩
    · cases reached with
      | false => exact kept
      | true => exact (handled none).2
    · cases told
  | fails fault =>
    obtain ⟨⟨e, refused⟩, stays⟩ := handled (some fault)
    refine ⟨stays, fun published told => ?_⟩
    dsimp only at told
    rw [refused] at told
    cases told
  | delivered =>
    obtain ⟨⟨e, refused⟩, stays⟩ := handled none
    refine ⟨stays, fun published told => ?_⟩
    dsimp only at told
    rw [refused] at told
    cases told

theorem send_commits (absent : p.stored r = false) (stored : p.stored (a.send server r).1 = true)
    {error : ApiError} (told : (a.send server r).2 = some (.refused error)) :
    error.status ≠ 409 := by
  have kept := (a.keeps r).trans absent
  have handled : ∀ fault, p.stored (server.handle p a.ts fault (a.others r)).1 = true →
      some (replyOf (server.handle p a.ts fault (a.others r)).2) = some (.refused error) →
        error.status ≠ 409 := by
    intro fault stored told
    cases answer : (server.handle p a.ts fault (a.others r)).2 with
    | ok =>
      rw [answer] at told
      cases told
    | error e =>
      rw [answer] at told
      cases told
      exact handle_commits server a.ts fault kept stored answer
  unfold Attempt.send at stored told
  cases chosen : a.delivery with
  | requestLost | responseLost | badGateway =>
    rw [chosen] at told
    cases told
  | fails fault =>
    rw [chosen] at stored told
    exact handled (some fault) stored told
  | delivered =>
    rw [chosen] at stored told
    exact handled none stored told

theorem send_answers (server : HubServer M V) (a : Attempt p) (r : Registry M) :
    (a.send server r).2.isSome = a.delivery.answers := by
  unfold Attempt.send
  cases a.delivery <;> rfl

end Attempts

/-! ### Calls -/

variable {reply : Option HttpReply}

theorem conclude_ok {published : Published} (done : conclude reply = .ok published) :
    reply = some (.created published) := by
  rcases reply with _ | published' | error | status
  · cases done
  · rw [Except.ok.inj done]
  · cases done
  · cases done

theorem conclude_api {error : ApiError} (done : conclude reply = .error (.api error)) :
    reply = some (.refused error) := by
  rcases reply with _ | published | error' | status
  · cases done
  · cases done
  · rw [ClientError.api.inj (Except.error.inj done)]
  · cases done

section Calls

variable (server : HubServer M V) {p : Publish M} (attempts : Nat → Attempt p) (r : Registry M)

/-- The registry before an attempt. -/
def registryAt (k : Nat) : Registry M := stateAt (publishExchange server attempts) r k

/-- The call makes the attempt `k`. -/
def Attempted (k : Nat) : Prop :=
  Made (publishExchange server attempts) triesAgain maxRetries r k

/-- The attempt `k` commits the version. -/
def CommitsAt (k : Nat) : Prop :=
  p.stored (registryAt server attempts r k) = false ∧
    p.stored (registryAt server attempts r (k + 1)) = true

/-- A call reports what happened. -/
structure ReportsWhatHappened : Prop where
  /-- The call returns `Ok` if an attempt committed and a later one was answered. -/
  ok : ∀ i j, i < j → CommitsAt server attempts r i → Attempted server attempts r j →
    (attempts j).delivery.answers = true →
      ∃ published, (publish server attempts r).2 = .ok published
  /-- It reports no conflict with what it has published itself. -/
  noConflict : ∀ i, CommitsAt server attempts r i → Attempted server attempts r i →
    ∀ error, (publish server attempts r).2 = .error (.api error) → error.status ≠ 409
  once : ∀ i j, CommitsAt server attempts r i → CommitsAt server attempts r j → i = j

/-- No attempt after the one that commits is answered. -/
def CommitsLast : Prop :=
  ∀ i j, i < j → CommitsAt server attempts r i → Attempted server attempts r j →
    (attempts j).delivery.answers = false

variable {server attempts r}

theorem stored_lasts (k : Nat) (s : Registry M) (stored : p.stored s = true) :
    p.stored (publishExchange server attempts k s).1 = true :=
  (send_stored stored).1

theorem not_created {i j : Nat} (later : i < j) (commits : CommitsAt server attempts r i)
    {published : Published} :
    answerAt (publishExchange server attempts) r j ≠ some (.created published) :=
  (send_stored (holds_later stored_lasts later commits.2)).2 published

/-- A publish reports what happened just if no attempt after its commit is answered. -/
theorem retried_publish_iff :
    ReportsWhatHappened server attempts r ↔ CommitsLast server attempts r := by
  obtain ⟨n, made, last, ran⟩ := retry_spec
    (publishExchange server attempts) triesAgain maxRetries r
  have result : (publish server attempts r).2 =
      conclude (answerAt (publishExchange server attempts) r n) := by
    rw [publish, sendBody, ran]
  constructor
  · rintro ⟨ok, -, -⟩ i j later commits attempted
    refine Bool.eq_false_iff.mpr fun answered => ?_
    obtain ⟨published, done⟩ := ok i j later commits attempted answered
    rw [result] at done
    exact not_created (Nat.lt_of_lt_of_le later (last j attempted)) commits (conclude_ok done)
  · intro unanswered
    refine ⟨fun i j later commits attempted answered => ?_,
      fun i commits attempted error told => ?_, fun i j commits commits' => ?_⟩
    · rw [unanswered i j later commits attempted] at answered
      cases answered
    · have reply := conclude_api (result.symm.trans told)
      rcases Nat.eq_or_lt_of_le (last i attempted) with rfl | later
      · exact send_commits commits.1 commits.2 reply
      · have silent := unanswered i n later commits made
        have answered : (answerAt (publishExchange server attempts) r n).isSome = false :=
          (send_answers server (attempts n) (registryAt server attempts r n)).trans silent
        rw [reply] at answered
        cases answered
    · exact brought_once stored_lasts commits.1 commits.2 commits'.1 commits'.2

end Calls

/-! ### A lost response -/

/-- A Hub that accepts what it can, with the environment `qa`. -/
def openHub : HubServer Unit Nat where
  semver := twoVersions
  rules :=
    { validatePublish := fun _ _ => true
      checkDependencies := fun _ _ _ => true
      validateYankReason := fun _ => true }
  packageRules :=
    { restrictFileArtifacts := fun _ => none
      validateInterface := fun _ => none
      validateArtifacts := fun _ => none }
  principal := { id := 1, role := .admin, namespaces := [] }

def qaRegistry : Registry Unit where
  hub := { envs := [NewEnv.insert { envType := "qa", envNamespace := "default" } 0] }

def qaVersion : Publish Unit := .version "qa" { version := "1.0.0", content := () } none

/-- The response to the first attempt is lost. -/
def firstLost (k : Nat) : Attempt qaVersion where
  others := id
  keeps := fun _ => rfl
  ts := k
  delivery := if k = 0 then .responseLost else .delivered

theorem firstLost_conflicts : (publish openHub firstLost qaRegistry).2 = .error (.api
      ⟨409, .versionAlreadyExists, "version already exists: qa@1.0.0"⟩) ∧
    ¬ReportsWhatHappened openHub firstLost qaRegistry := by
  have conflict : (publish openHub firstLost qaRegistry).2 = .error (.api
      ⟨409, .versionAlreadyExists, "version already exists: qa@1.0.0"⟩) := by
    rfl
  refine ⟨conflict, fun reports => ?_⟩
  have commits : CommitsAt openHub firstLost qaRegistry 0 := ⟨rfl, rfl⟩
  have attempted : Attempted openHub firstLost qaRegistry 1 := by
    refine ⟨by decide, fun i below => ?_⟩
    obtain rfl := Nat.lt_one_iff.mp below
    rfl
  obtain ⟨published, done⟩ := reports.ok 0 1 Nat.one_pos commits attempted rfl
  rw [conflict] at done
  cases done

end UEnv.Hub
