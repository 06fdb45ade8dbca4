import Kontrol.Python.Str

/-!
# The option records `ProveOptions` and `RPCOptions`

Both records are frozen dataclasses whose `__init__` takes keyword-only parameters, all with
defaults, and normalises them: a flag given as `None` becomes `False` through `bool(x)` or
`True` through `True if x is None else x`, and `RPCOptions` turns its `kore_rpc_command`
argument into a tuple of words, choosing the booster command when none is given. A call
that names a keyword the initialiser does not declare raises `TypeError` before any of
this runs.

The commands that reach the backend split a `kore_rpc_command` string on whitespace before
building `RPCOptions`. `bug_report` and `summary_entries` are passed through unchanged and
are not modelled.
-/

namespace Kontrol

open Python

/-- CPython's binding of keyword arguments to keyword-only parameters with defaults: the
first keyword, in call order, that names no parameter raises `TypeError`. -/
def bindKeywords (qualname : String) (params : List String) : List String → Except PyError Unit
  | [] => .ok ()
  | k :: ks =>
    if k ∈ params then bindKeywords qualname params ks
    else .error (.typeError (.unexpectedKeyword qualname k))

/-- The first keyword that names no parameter is the one reported. -/
theorem bindKeywords_first_unexpected (qualname : String) {params pre post : List String}
    {k : String} (hpre : ∀ x ∈ pre, x ∈ params) (hk : k ∉ params) :
    bindKeywords qualname params (pre ++ k :: post) =
      .error (.typeError (.unexpectedKeyword qualname k)) := by
  induction pre with
  | nil => rw [List.nil_append, bindKeywords, if_neg hk]
  | cons x pre ih =>
    rw [List.cons_append, bindKeywords, if_pos (hpre x (List.mem_cons_self x pre))]
    exact ih fun y hy => hpre y (List.mem_cons_of_mem x hy)

/-- A flag as `__init__` stores it: `bool(x)` for `default = False`, and
`True if x is None else x` for `default = True`. -/
def flagOrDefault (default : Bool) : Option Bool → Bool
  | none => default
  | some b => b

/-- The parameters of `ProveOptions.__init__`, in declaration order. -/
def proveOptionsParams : List String :=
  ["auto_abstract_gas", "bug_report", "bmc_depth", "max_depth", "break_every_step",
    "break_on_jumpi", "break_on_calls", "break_on_storage", "break_on_basic_blocks",
    "break_on_cheatcodes", "workers", "counterexample_info", "max_iterations", "run_constructor",
    "fail_fast", "reinit", "use_gas", "failure_info", "summary_entries", "fast_check_subsumption"]

/-- The modelled keyword arguments of `ProveOptions(...)`; `none` for an omitted keyword or
`None`, which `__init__` treats alike for every parameter whose default is `None`. -/
structure ProveOptionsArgs where
  autoAbstractGas : Option Bool
  bmcDepth : Option ℤ
  /-- `none` when omitted, `some none` when passed as `None`. -/
  maxDepth : Option (Option ℤ)
  breakEveryStep : Option Bool
  breakOnJumpi : Option Bool
  breakOnCalls : Option Bool
  breakOnStorage : Option Bool
  breakOnBasicBlocks : Option Bool
  breakOnCheatcodes : Option Bool
  /-- `none` when omitted, `some none` when passed as `None`. -/
  workers : Option (Option ℤ)
  counterexampleInfo : Option Bool
  maxIterations : Option ℤ
  runConstructor : Option Bool
  failFast : Option Bool
  reinit : Option Bool
  useGas : Option Bool
  failureInfo : Option Bool
  fastCheckSubsumption : Option Bool

/-- A `ProveOptions` record after `__init__`. -/
structure ProveOptions where
  autoAbstractGas : Bool
  bmcDepth : Option ℤ
  maxDepth : Option ℤ
  breakEveryStep : Bool
  breakOnJumpi : Bool
  breakOnCalls : Bool
  breakOnStorage : Bool
  breakOnBasicBlocks : Bool
  breakOnCheatcodes : Bool
  workers : Option ℤ
  counterexampleInfo : Bool
  maxIterations : Option ℤ
  runConstructor : Bool
  failFast : Bool
  reinit : Bool
  useGas : Bool
  failureInfo : Bool
  fastCheckSubsumption : Bool
  deriving DecidableEq, Repr

/-- `ProveOptions.__init__`, once its keywords are bound: an omitted `max_depth` is 1000 and
an omitted `workers` is 1, while either passed as `None` is stored as `None`; an omitted
`bmc_depth` or `max_iterations` stays `None`. -/
def ProveOptions.init (args : ProveOptionsArgs) : ProveOptions where
  autoAbstractGas := flagOrDefault false args.autoAbstractGas
  bmcDepth := args.bmcDepth
  maxDepth := args.maxDepth.getD (some 1000)
  breakEveryStep := flagOrDefault false args.breakEveryStep
  breakOnJumpi := flagOrDefault false args.breakOnJumpi
  breakOnCalls := flagOrDefault false args.breakOnCalls
  breakOnStorage := flagOrDefault false args.breakOnStorage
  breakOnBasicBlocks := flagOrDefault false args.breakOnBasicBlocks
  breakOnCheatcodes := flagOrDefault false args.breakOnCheatcodes
  workers := args.workers.getD (some 1)
  counterexampleInfo := flagOrDefault true args.counterexampleInfo
  maxIterations := args.maxIterations
  runConstructor := flagOrDefault false args.runConstructor
  failFast := flagOrDefault true args.failFast
  reinit := flagOrDefault false args.reinit
  useGas := flagOrDefault false args.useGas
  failureInfo := flagOrDefault true args.failureInfo
  fastCheckSubsumption := flagOrDefault true args.fastCheckSubsumption

/-- `ProveOptions` arguments with every keyword omitted. -/
def ProveOptionsArgs.omitted : ProveOptionsArgs :=
  ⟨none, none, none, none, none, none, none, none, none, none, none, none, none, none, none, none,
    none, none⟩

/-- The parameters of `RPCOptions.__init__`, in declaration order. -/
def rpcOptionsParams : List String :=
  ["use_booster", "kore_rpc_command", "smt_timeout", "smt_retry_limit", "smt_tactic",
    "trace_rewrites", "port", "maude_port"]

/-- The `kore_rpc_command` argument: `None`, a `str`, or an iterable of `str`. -/
inductive KoreRpcCommandArg where
  | none
  | str (s : List Char)
  | iterable (words : List (List Char))
  deriving DecidableEq, Repr

/-- The keyword arguments of `RPCOptions(...)`; `none` for an omitted keyword. -/
structure RPCOptionsArgs where
  useBooster : Option Bool
  koreRpcCommand : KoreRpcCommandArg
  smtTimeout : Option ℤ
  smtRetryLimit : Option ℤ
  smtTactic : Option (List Char)
  traceRewrites : Option Bool
  port : Option ℤ
  maudePort : Option ℤ

/-- An `RPCOptions` record after `__init__`. -/
structure RPCOptions where
  useBooster : Bool
  koreRpcCommand : List (List Char)
  smtTimeout : Option ℤ
  smtRetryLimit : Option ℤ
  smtTactic : Option (List Char)
  traceRewrites : Bool
  port : Option ℤ
  maudePort : Option ℤ
  deriving DecidableEq, Repr

/-- The command tuple `RPCOptions.__init__` stores: the booster command when none is given
and `use_booster` is unset or true, the plain server otherwise, a string as a one-word
tuple, and an iterable as the tuple of its words. -/
def koreRpcCommandTuple (useBooster : Option Bool) : KoreRpcCommandArg → List (List Char)
  | .none => if flagOrDefault true useBooster then ["kore-rpc-booster".toList] else ["kore-rpc".toList]
  | .str s => [s]
  | .iterable words => words

/-- `RPCOptions.__init__`, once its keywords are bound. -/
def RPCOptions.init (args : RPCOptionsArgs) : RPCOptions where
  useBooster := flagOrDefault true args.useBooster
  koreRpcCommand := koreRpcCommandTuple args.useBooster args.koreRpcCommand
  smtTimeout := args.smtTimeout
  smtRetryLimit := args.smtRetryLimit
  smtTactic := args.smtTactic
  traceRewrites := flagOrDefault false args.traceRewrites
  port := args.port
  maudePort := args.maudePort

/-- The first statement of every command that reaches the backend:
`self.kore_rpc_command.split() if isinstance(self.kore_rpc_command, str) else ...`. -/
def splitKoreRpcCommand : KoreRpcCommandArg → KoreRpcCommandArg
  | .str s => .iterable (strSplitWhitespace s)
  | arg => arg

/-- The keywords the backend-reaching commands pass to `RPCOptions`, in call order. -/
def commandRpcOptionsKeywords : List String :=
  ["use_booster", "kore_rpc_command", "smt_timeout", "smt_retry_limit", "smt_tactic",
    "trace_rewrites", "port", "maude_port"]

/-- A command-line `--kore-rpc-command` reaches the backend as its whitespace-separated
words: each is non-empty and free of whitespace, and the tuple is empty exactly when the
text is blank. Without the option the booster choice decides the command. -/
theorem rpcOptions_koreRpcCommand (args : RPCOptionsArgs) (arg : KoreRpcCommandArg) :
    let cmd := (RPCOptions.init { args with koreRpcCommand := splitKoreRpcCommand arg }).koreRpcCommand
    (∀ s, arg = .str s → cmd = strSplitWhitespace s ∧ (cmd = [] ↔ ∀ c ∈ s, isSpace c = true) ∧
      ∀ w ∈ cmd, w ≠ [] ∧ ∀ c ∈ w, isSpace c = false) ∧
    (arg = .none → cmd = [if flagOrDefault true args.useBooster then "kore-rpc-booster".toList
      else "kore-rpc".toList]) := by
  refine ⟨fun s hs => ?_, fun hs => ?_⟩
  · subst hs
    exact ⟨rfl, splitWhitespaceLoop_eq_nil_iff s [] |>.trans (by simp),
      splitWhitespaceLoop_words s [] (by simp)⟩
  · subst hs
    simp only [RPCOptions.init, splitKoreRpcCommand, koreRpcCommandTuple]
    split <;> rfl

/-- A `kore_rpc_command` string of words joined by blanks reaches the backend as the same
command as the list of those words, and so does any string and its normalised form
`' '.join(text.split())`. -/
theorem rpcOptions_koreRpcCommand_join (args : RPCOptionsArgs) :
    (∀ ws : List (List Char), (∀ w ∈ ws, w ≠ [] ∧ ∀ c ∈ w, isSpace c = false) →
      RPCOptions.init { args with
          koreRpcCommand := splitKoreRpcCommand (.str (strJoin [' '] ws)) } =
        RPCOptions.init { args with koreRpcCommand := splitKoreRpcCommand (.iterable ws) }) ∧
    ∀ s : List Char,
      RPCOptions.init { args with
          koreRpcCommand := splitKoreRpcCommand (.str (strJoin [' '] (strSplitWhitespace s))) } =
        RPCOptions.init { args with koreRpcCommand := splitKoreRpcCommand (.str s) } := by
  refine ⟨fun ws hws => ?_, fun s => ?_⟩
  · simp only [splitKoreRpcCommand, strSplitWhitespace_join ws hws]
  · simp only [splitKoreRpcCommand,
      strSplitWhitespace_join (strSplitWhitespace s) (splitWhitespaceLoop_words s [] (by simp))]

/-- `RPCOptions` arguments with every keyword omitted. -/
def RPCOptionsArgs.omitted : RPCOptionsArgs := ⟨none, .none, none, none, none, none, none, none⟩

/-- `--kore-rpc-command 'kore-rpc --port 0'` reaches the backend as three words. -/
theorem rpcOptions_koreRpcCommand_words :
    let cmd := (RPCOptions.init { RPCOptionsArgs.omitted with
      koreRpcCommand := splitKoreRpcCommand (.str "kore-rpc --port 0".toList) }).koreRpcCommand
    cmd = strSplitWhitespace "kore-rpc --port 0".toList ∧
      (cmd = [] ↔ ∀ c ∈ "kore-rpc --port 0".toList, isSpace c = true) ∧
      ∀ w ∈ cmd, w ≠ [] ∧ ∀ c ∈ w, isSpace c = false :=
  (rpcOptions_koreRpcCommand RPCOptionsArgs.omitted (.str "kore-rpc --port 0".toList)).1 _ rfl

/-- `--kore-rpc-command 'kore-rpc --port 0'` and the three words given as a list agree. -/
theorem rpcOptions_koreRpcCommand_join_words :
    RPCOptions.init { RPCOptionsArgs.omitted with
        koreRpcCommand := splitKoreRpcCommand
          (.str (strJoin [' '] ["kore-rpc".toList, "--port".toList, "0".toList])) } =
      RPCOptions.init { RPCOptionsArgs.omitted with
        koreRpcCommand := splitKoreRpcCommand
          (.iterable ["kore-rpc".toList, "--port".toList, "0".toList]) } :=
  (rpcOptions_koreRpcCommand_join RPCOptionsArgs.omitted).1 _ (by decide)

end Kontrol
