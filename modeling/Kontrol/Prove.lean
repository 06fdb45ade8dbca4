import Kontrol.Args
import Kontrol.Options

/-!
# `kontrol prove`: building the options, running the proofs, reporting the outcome

`ProveCommand.exec` splits a `kore_rpc_command` string, reads the deployment state when a
path is given, builds `ProveOptions` and `RPCOptions`, runs `foundry_prove`, prints one
report per proof and ends with `sys.exit(failed)`, where `failed` counts the proofs that did
not pass. The parent process sees `failed mod 256`.

`foundry_prove`, `read_deployment_state`, `Foundry.help_info` and the proofs' failure
reports belong to collaborators outside this repository and are parameters here. The
keywords `exec` passes to `ProveOptions` include three that `ProveOptions.__init__` does not
declare, so `exec` raises `TypeError` before `foundry_prove` runs: a run whose deployment
state is read without error prints nothing and ends with status 1. The report loop below is
the rest of `exec`, which runs once that call accepts its keywords.
-/

namespace Kontrol

open Python

/-- The exit status the parent process sees when `kontrol` ends by raising `e`:
`SystemExit(code)` gives `code mod 256`, any other uncaught exception gives 1. -/
def exitStatus : PyError → ℕ
  | .systemExit code => code % 256
  | _ => 1

/-- What the report loop reads of a proof returned by `foundry_prove`. -/
structure ProofResult where
  id : String
  passed : Bool
  formattedExecTime : String
  /-- `proof.failure_info.print()` when the proof is an `APRProof` with an `APRFailureInfo`. -/
  failureLog : Option (List String)

/-- The loop's state: the count of non-passed proofs and the lines printed so far. -/
structure ProveLoopState where
  failed : ℕ
  output : List String

/-- The lines printed for one proof. -/
def proofReport (failureInfo : Bool) (helpInfo : List String) (proof : ProofResult) :
    List String :=
  if proof.passed then
    ["PROOF PASSED: " ++ proof.id, "time: " ++ proof.formattedExecTime ++ "s"]
  else
    ["PROOF FAILED: " ++ proof.id, "time: " ++ proof.formattedExecTime] ++
      match proof.failureLog with
      | some log => if failureInfo then log ++ helpInfo else []
      | none => []

/-- One iteration of `for proof in results`. -/
def proveLoopStep (failureInfo : Bool) (helpInfo : List String) (st : ProveLoopState)
    (proof : ProofResult) : ProveLoopState where
  failed := if proof.passed then st.failed else st.failed + 1
  output := st.output ++ proofReport failureInfo helpInfo proof

/-- The report loop at the end of `ProveCommand.exec`, from `failed = 0`. -/
def proveLoop (failureInfo : Bool) (helpInfo : List String) (results : List ProofResult) :
    ProveLoopState :=
  results.foldl (proveLoopStep failureInfo helpInfo) ⟨0, []⟩

/-- The loop followed by `sys.exit(failed)`: the printed lines and the exception that ends
the process. -/
def proveLoopExit (failureInfo : Bool) (helpInfo : List String) (results : List ProofResult) :
    List String × PyError :=
  let st := proveLoop failureInfo helpInfo results
  (st.output, .systemExit st.failed)

/-- A proof that did not pass and has no failure report. -/
def failedProof : ProofResult := ⟨"Test.test()", false, "1.0", none⟩

/-- What `ProveCommand.exec` reads from its parsed command line. -/
structure ProveCommand where
  koreRpcCommand : KoreRpcCommandArg
  deploymentStatePath : Option String
  proveOptionsArgs : ProveOptionsArgs
  rpcOptionsArgs : RPCOptionsArgs
  tests : List (List Char × Option ℤ)
  includeSummaries : List (List Char × Option ℤ)
  xmlTestReport : Bool
  failureInfo : Bool

/-- The collaborators `ProveCommand.exec` calls. -/
structure ProveEnv where
  readDeploymentState : String → Except PyError Unit
  foundryProve : ProveOptions → RPCOptions → List (List Char × Option ℤ) →
    List (List Char × Option ℤ) → Bool → Except PyError (List ProofResult)
  helpInfo : List String

/-- The keywords `ProveCommand.exec` passes to `ProveOptions`, in call order. -/
def proveCommandProveOptionsKeywords : List String :=
  ["auto_abstract_gas", "reinit", "bug_report", "bmc_depth", "max_depth", "break_every_step",
    "break_on_jumpi", "break_on_calls", "break_on_storage", "break_on_basic_blocks",
    "break_on_cheatcodes", "workers", "counterexample_info", "max_iterations", "run_constructor",
    "fail_fast", "use_gas", "deployment_state_entries", "active_symbolik", "cse"]

/-- `ProveCommand.exec` up to the return of `foundry_prove`. -/
def proveCommandResults (env : ProveEnv) (cmd : ProveCommand) :
    Except PyError (List ProofResult) := do
  let koreRpcCommand := splitKoreRpcCommand cmd.koreRpcCommand
  if let some path := cmd.deploymentStatePath then env.readDeploymentState path
  bindKeywords "ProveOptions.__init__" proveOptionsParams proveCommandProveOptionsKeywords
  let proveOptions := ProveOptions.init cmd.proveOptionsArgs
  bindKeywords "RPCOptions.__init__" rpcOptionsParams commandRpcOptionsKeywords
  let rpcOptions := RPCOptions.init { cmd.rpcOptionsArgs with koreRpcCommand := koreRpcCommand }
  env.foundryProve proveOptions rpcOptions cmd.tests cmd.includeSummaries cmd.xmlTestReport

/-- `ProveCommand.exec`: the printed lines and the exception that ends it. -/
def proveCommandExec (env : ProveEnv) (cmd : ProveCommand) : List String × PyError :=
  match proveCommandResults env cmd with
  | .error e => ([], e)
  | .ok results => proveLoopExit cmd.failureInfo env.helpInfo results

/-- The `TypeError` the `ProveOptions(...)` call in `exec` raises. -/
def proveOptionsTypeError : PyError :=
  .typeError (.unexpectedKeyword "ProveOptions.__init__" "deployment_state_entries")

/-- `ProveOptions.__init__` rejects `deployment_state_entries`, the first of the keywords
`exec` passes that it does not declare. -/
theorem bindKeywords_proveCommandProveOptions :
    bindKeywords "ProveOptions.__init__" proveOptionsParams proveCommandProveOptionsKeywords =
      .error proveOptionsTypeError := by
  rw [show proveCommandProveOptionsKeywords = proveCommandProveOptionsKeywords.take 17 ++
    "deployment_state_entries" :: ["active_symbolik", "cse"] from rfl]
  exact bindKeywords_first_unexpected _ (by decide) (by decide)

/-- `ProveCommand.exec` never reaches `foundry_prove`: for every command line and every
collaborator it prints nothing and raises the `TypeError` of the `ProveOptions(...)` call,
unless reading the deployment state raised first. -/
theorem proveCommandExec_raises (env : ProveEnv) (cmd : ProveCommand) :
    proveCommandExec env cmd =
      ([], match cmd.deploymentStatePath.map env.readDeploymentState with
        | some (.error e) => e
        | _ => proveOptionsTypeError) := by
  unfold proveCommandExec proveCommandResults
  cases cmd.deploymentStatePath with
  | none => simp [bind, Except.bind, pure, Except.pure, bindKeywords_proveCommandProveOptions]
  | some path =>
    cases h : env.readDeploymentState path <;>
      simp [h, bind, Except.bind, bindKeywords_proveCommandProveOptions]

/-- Every run of `kontrol prove` whose deployment state, if a path is given, is read without
error prints no report and ends with status 1, whatever proofs `foundry_prove` would return:
the `ProveOptions(...)` call raises `TypeError` before `foundry_prove` runs. -/
theorem proveCommandExec_exit_one (env : ProveEnv) (cmd : ProveCommand)
    (hread : ∀ path, cmd.deploymentStatePath = some path → env.readDeploymentState path = .ok ()) :
    proveCommandExec env cmd = ([], proveOptionsTypeError) ∧
      exitStatus (proveCommandExec env cmd).2 = 1 := by
  have hexec : proveCommandExec env cmd = ([], proveOptionsTypeError) := by
    rw [proveCommandExec_raises]
    cases hp : cmd.deploymentStatePath with
    | none => rfl
    | some path => simp [hread path hp]
  exact ⟨hexec, by rw [hexec]; rfl⟩

/-- A run whose one proof would pass still prints nothing and ends with status 1. -/
theorem proveCommandExec_all_passed :
    let env : ProveEnv :=
      ⟨fun _ => .ok (), fun _ _ _ _ _ => .ok [{ failedProof with passed := true }], []⟩
    let cmd : ProveCommand :=
      ⟨.none, none, ProveOptionsArgs.omitted, RPCOptionsArgs.omitted, [], [], false, true⟩
    proveCommandExec env cmd = ([], proveOptionsTypeError) ∧
      exitStatus (proveCommandExec env cmd).2 = 1 := by
  intro env cmd
  exact proveCommandExec_exit_one env cmd fun _ h => by cases h

end Kontrol
