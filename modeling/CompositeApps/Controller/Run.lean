import CompositeApps.Config.Operator
import CompositeApps.Controller.Site

/-!
A controller at work for a span of time. It looks whether apps are served at all, then runs a pass
over each app at the start and again whenever the outcome of the last one asks for it.
-/

namespace CompositeApps

inductive NextAction where
  /-- Again after a time, whether it changes or not. -/
  | requeue (delay : Duration)
  /-- Only when the app or something of it changes. -/
  | awaitChange
  deriving DecidableEq, Repr, Inhabited

namespace NextAction

def ofOutcome (config : OperatorConfig) : PassOutcome → NextAction
  | .converged true _ => requeue config.resyncInterval
  | .converged false _ => requeue config.errorBackoff
  | .retry => requeue config.retryInterval
  | .rejected _ | .finalized | .released => awaitChange

def ofResult (config : OperatorConfig) : Except PassError PassOutcome → NextAction
  | .ok outcome => ofOutcome config outcome
  | .error _ => requeue config.errorBackoff

end NextAction

structure DuePass where
  time : Nat
  app : CompositeApp
  deriving DecidableEq, Inhabited

namespace DuePass

def schedule (p : DuePass) : List DuePass → List DuePass
  | [] => [p]
  | q :: rest => if q.time ≤ p.time then q :: schedule p rest else p :: q :: rest

def timeLeft (limit : Nat) : List DuePass → Nat
  | [] => 0
  | p :: queue => (limit - p.time) + timeLeft limit queue

theorem timeLeft_schedule (limit : Nat) (p : DuePass) (queue : List DuePass) :
    timeLeft limit (schedule p queue) = (limit - p.time) + timeLeft limit queue := by
  induction queue with
  | nil => rfl
  | cons q rest ih =>
    unfold schedule
    split
    · simp only [timeLeft] at ih ⊢
      omega
    · rfl

/-- A span in milliseconds, a part of one counted as a whole one. Nothing is due twice at the same
time. -/
def delayMillis (d : Duration) : Nat :=
  max 1 ((d.totalNanos + 999999) / 1000000)

end DuePass

inductive RunEnd where
  | running
  /-- A signal has stopped it. -/
  | stopped
  | failed (reason : String)
  deriving DecidableEq, Repr, Inhabited

namespace Controller

def notServed : String :=
  "CompositeApp CRD is not served; install it with crd-gen"

def appsOf? (response : HttpResponse) : Option (List CompositeApp) := do
  if response.isFailure then none
  else
    let items ← (← (← Json.parse? response.body).field? "items").arr?
    (items.mapM CompositeApp.decode).toOption

def probe (config : OperatorConfig) : Except StoreError HttpRequest :=
  ApiClient.build .get (Kind.app.collectionPath config.namespaceName ++ "?&limit=1") none none

def findApps {σ : Type} (t : Transport σ) (config : OperatorConfig) (s : σ) :
    Option (List CompositeApp) × σ :=
  match probe config with
  | .error _ => (none, s)
  | .ok sent =>
    match t sent s with
    | (.ok response, s) => (appsOf? response, s)
    | (.error _, s) => (none, s)

/-- Runs the passes that become due before the limit, in the order of their times. -/
def runPasses (config : OperatorConfig) (limit : Nat) : List DuePass → Site → Site
  | [], s => s
  | p :: queue, s =>
    if p.time < limit then
      let (result, s) := { s with link.clock := p.time }.reconcile p.app
      match NextAction.ofResult config result with
      | .awaitChange => runPasses config limit queue s
      | .requeue d =>
        runPasses config limit (DuePass.schedule ⟨p.time + DuePass.delayMillis d, p.app⟩ queue) s
    else runPasses config limit queue s
termination_by queue => (DuePass.timeLeft limit queue, queue.length)
decreasing_by
  · simp only [DuePass.timeLeft, List.length_cons, Prod.lex_def]
    omega
  · simp only [DuePass.timeLeft_schedule, Prod.lex_def]
    simp only [DuePass.timeLeft, DuePass.delayMillis]
    omega
  · simp only [DuePass.timeLeft, List.length_cons, Prod.lex_def]
    omega

/-- Works for a span of milliseconds, at the end of which a signal may stop it. Without apps served
the work does not begin. -/
def run (config : OperatorConfig) (limit : Nat) (signalled : Bool) (server : ApiServer) :
    RunEnd × Site :=
  let site : Site :=
    { link := { server }, recorder := { reporter := .ofHost config.reporter none } }
  let (found, link) := findApps Link.transport config site.link
  let site := { site with link }
  match found with
  | none => (.failed notServed, site)
  | some apps =>
    let site := runPasses config limit (apps.map fun app => ⟨0, app⟩) site
    (if signalled then .stopped else .running, site)

/-- Whether the controller says that it is ready: from the time when apps are served until it
stops. -/
def isReady : RunEnd → Bool
  | .running => true
  | .stopped | .failed _ => false

end Controller

end CompositeApps
