import Candidacy.Session.Operation

/-!
# Steps of a session

A session is a list of steps over one state: the store of shared values, the bindings, the log and the
root logger. A step that fails is answered by its fault and keeps the bindings and the log; what it did
to the store and the root logger until then stays done.
-/

namespace Candidacy.Session

structure State where
  store : Store
  bindings : ByName Value
  log : Log
  root : RootLogger

def State.start : State := ⟨.empty, [], none, .start⟩

/-- A command, and the name under which to keep what it gives. -/
structure Step where
  command : Command
  keep : Option String

/-- What commands see besides the store: bindings, the log and the time. -/
structure Context where
  bindings : ByName Value
  log : Log
  timestamp : String

namespace Context

def trace (e : Context) (events : List Event) : Trace := .ofEvents e.log e.timestamp events

def traced (e : Context) (r : Traced Report) : Answer :=
  .traced (.report r.value) (e.trace r.events)

/-- The default possessions of a container, and what its pipeline makes of them if it is to run. -/
def container (e : Context) (settings : Value) (run : Bool) : Work Answer := do
  let given ← Work.ofResult fun s => Settings.defaultPossessions s settings
  if run then
    let possessions ← Work.ofNew (·.newList given)
    let r ← Operation.report e.timestamp .none possessions
    return .possessions given (some (r.value, e.trace r.events))
  else return .possessions given none

end Context

open Operation in
def Command.perform (e : Context) : Command → Work Answer
  | make value => return .value (← value.eval e.bindings)
  | view value => do
    let v ← value.eval e.bindings
    let plain ← inWords Store.plain? v
    return .view v plain (← inWords Store.shown? v)
  | .holds requirement possessions => do
    let r ← requirement.eval e.bindings
    let p ← possessions.eval e.bindings
    return .value (.bool (← Operation.holds r p))
  | .canWork company possessions => do
    let c ← company.eval e.bindings
    let p ← possessions.eval e.bindings
    return .value (.bool (← Operation.canWork c p))
  | readOperator value => do
    let v ← value.eval e.bindings
    return .value (.operator (← Work.ofInput fun s => (Operator.ofValue s v, s)))
  | normalizeItem value => do
    let v ← value.eval e.bindings
    return .value (← normalForm v)
  | normalizePossessions possessions => do
    let p ← possessions.eval e.bindings
    let items ← Work.ofInput (Possessions.normalForms · p)
    return .value (.frozenSet (items.map .text))
  | equal a b => do
    let v ← a.eval e.bindings
    let w ← b.eval e.bindings
    let (same, members) ← equality v w
    return .equality same members
  | .distinct values => do
    let vs ← values.eval e.bindings
    return .value (.int (← Operation.distinct vs))
  | setField target field value => do
    let t ← target.eval e.bindings
    let _ ← value.eval e.bindings
    touchField false t field
  | eraseField target field => do
    let t ← target.eval e.bindings
    touchField true t field
  | .append list value => do
    let l ← list.eval e.bindings
    let v ← value.eval e.bindings
    return .value (.int (← Operation.append l v))
  | .pop list => do
    let l ← list.eval e.bindings
    return .value (← Operation.pop l)
  | .screen query companies possessions => do
    let c ← companies.eval e.bindings
    let p ← possessions.eval e.bindings
    let answer ← Operation.screen query c p
    return .traced answer.value (e.trace answer.events)
  | sampleCompanies => return .value (← listOf Sample.companies)
  | .companiesOf records => do
    let r ← records.eval e.bindings
    return .value (← Operation.companiesOf r)
  | newPipeline companies => do
    let c ← companies.eval e.bindings
    return .value (← Work.ofNew (·.newPipeline c))
  | .pipelineCompanies pipeline => do
    let p ← pipeline.eval e.bindings
    return .value (← Operation.pipelineCompanies p)
  | run pipeline possessions => do
    let pipe ← pipeline.eval e.bindings
    let p ← possessions.eval e.bindings
    let companies ← companiesUnder pipe "run"
    return e.traced (← report e.timestamp companies p)
  | runOver companies possessions => do
    let c ← companies.eval e.bindings
    let p ← possessions.eval e.bindings
    return e.traced (← report e.timestamp c p)
  | loadSettings configuration => do
    let v ← configuration.eval e.bindings
    return .value (.settings (← settings v))
  | settingsFile files name => do
    let v ← name.eval e.bindings
    match Settings.ofFile files (Settings.pathFor (.ofString "") (← inWords Store.plain? v)) with
    | .ok c => return .value (.settings c)
    | .error why => throw why
  | pathFor base name => do
    let b ← base.eval e.bindings
    let n ← name.eval e.bindings
    let root ← Operation.base b
    return .value (.text (Settings.pathFor root (← inWords Store.plain? n)).text)
  | container settings runs => do
    let v ← settings.eval e.bindings
    e.container v runs
  | configureLog level jsonLogs => do
    let l ← level.eval e.bindings
    let j ← jsonLogs.eval e.bindings
    return .configured (← logSetup l j)
  | commandLine files arguments =>
    return .commandLine (CommandLine.execute files.find e.timestamp e.log arguments)

def Step.perform (timestamp : String) (state : State) (step : Step) :
    Except Fault Answer × State :=
  match (step.command.perform ⟨state.bindings, state.log, timestamp⟩).run.run state.store with
  | (.error why, store) =>
    (.error why, { state with store := store, root := step.command.rootAfter state.root why })
  | (.ok answer, store) =>
    let bindings := match step.keep with
      | some name => ByName.put name answer.toValue state.bindings
      | none => state.bindings
    (.ok answer, ⟨store, bindings, answer.logAfter state.log, answer.rootAfter state.root⟩)

/-- The answers to the steps of a session, each with the store as the step left it. -/
def answers (timestamp : String) (state : State) : List Step → List (Except Fault Answer × Store)
  | [] => []
  | step :: steps =>
    let (answer, state) := step.perform timestamp state
    (answer, state.store) :: answers timestamp state steps

end Candidacy.Session
