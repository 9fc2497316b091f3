import CompositeApps.Api.Path
import CompositeApps.Program
import CompositeApps.Proofs.CommandLine.Spelling
import CompositeApps.Proofs.Time.Overrun

/-!
Where the settings come from. Each setting has its sources, the strongest first: the arguments, the
environment, the settings file. The strongest one that says anything about it decides, also when it
says what cannot be read: then there are no settings at all. Main statement: the program gets past
its configuration just with the settings that are drawn from their sources in this way. Otherwise
it fails with what is wrong, unless it comes to a span of time that overruns the clock: there it
aborts.
-/

namespace CompositeApps

/-- What a source says about a setting: nothing, a value, or something that cannot be read. -/
inductive Word (α : Type) where
  | nothing
  | value (a : α)
  | unreadable
  deriving DecidableEq, Repr

namespace Word

variable {α β : Type}

def ofRaw (read : β → Option α) : Option β → Word α
  | none => nothing
  | some raw =>
    match read raw with
    | some a => value a
    | none => unreadable

end Word

/-- The value of a setting: what the first source says that says anything, or the default. If that
source cannot be read, there is none. -/
inductive Drawn {α : Type} (default : α) : List (Word α) → α → Prop where
  | unset : Drawn default [] default
  | weaker {sources : List (Word α)} {a : α} (h : Drawn default sources a) :
      Drawn default (.nothing :: sources) a
  | strongest (a : α) (sources : List (Word α)) : Drawn default (.value a :: sources) a

section Drawn

variable {α β : Type} {default a : α} {sources : List (Word α)} {read : β → Option α}

@[simp] theorem drawn_nil_iff : Drawn default [] a ↔ default = a := by
  constructor
  · rintro ⟨⟩
    rfl
  · rintro rfl
    exact .unset

@[simp] theorem drawn_none_iff :
    Drawn default (.ofRaw read none :: sources) a ↔ Drawn default sources a := by
  constructor
  · intro h
    cases h with
    | weaker h => exact h
  · exact .weaker

@[simp] theorem drawn_some_iff {raw : β} :
    Drawn default (.ofRaw read (some raw) :: sources) a ↔ read raw = some a := by
  rw [Word.ofRaw]
  cases hread : read raw with
  | none => exact iff_of_false (by rintro ⟨⟩) (by simp)
  | some b =>
    constructor
    · rintro ⟨⟩
      rfl
    · intro h
      obtain rfl := Option.some.inj h
      exact .strongest b sources

/-- Two sources that are read by one rule count like one. -/
theorem drawn_or_iff {first second : Option β} :
    Drawn default (.ofRaw read first :: .ofRaw read second :: sources) a ↔
      Drawn default (.ofRaw read (first.or second) :: sources) a := by
  cases first with
  | none => rw [drawn_none_iff, Option.none_or]
  | some raw => rw [Option.some_or, drawn_some_iff, drawn_some_iff]

end Drawn

namespace OperatorConfig

/-! ### The sources of each setting -/

def readConcurrency (raw : String) : Option Nat :=
  (Whole.parse 0xFFFF (Text.trim raw)).toOption

def readAddress (raw : String) : Option SocketAddress :=
  SocketAddress.parse? (Text.trim raw)

def readSpan (raw : String) : Option Duration :=
  (Duration.parse raw).toOption

def readNamespace (raw : String) : Option (Option String) :=
  some (nonEmpty (some raw))

def concurrencySources (env : Environment) (file : FileConfig) : List (Word Nat) :=
  [.ofRaw readConcurrency (env concurrencyVariable), .ofRaw some file.maxConcurrentReconciles]

def addressSources (env : Environment) (file : FileConfig) : List (Word SocketAddress) :=
  [.ofRaw readAddress (env metricsAddressVariable), .ofRaw readAddress file.metricsAddress]

/-- Every setting is drawn from its sources. A namespace that the arguments give is taken as it
is. -/
structure Layered (watched : Option String) (env : Environment) (file : FileConfig)
    (config : OperatorConfig) : Prop where
  namespaceName : Drawn ({} : OperatorConfig).namespaceName
    [.ofRaw (fun raw => some (some raw)) watched, .ofRaw readNamespace (env namespaceVariable),
      .ofRaw readNamespace file.namespaceName] config.namespaceName
  maxConcurrentReconciles : Drawn ({} : OperatorConfig).maxConcurrentReconciles
    (concurrencySources env file) config.maxConcurrentReconciles
  metricsAddress : Drawn ({} : OperatorConfig).metricsAddress
    (addressSources env file) config.metricsAddress
  resyncInterval : Drawn ({} : OperatorConfig).resyncInterval
    [.ofRaw readSpan file.resyncInterval] config.resyncInterval
  retryInterval : Drawn ({} : OperatorConfig).retryInterval
    [.ofRaw readSpan file.retryInterval] config.retryInterval
  errorBackoff : Drawn ({} : OperatorConfig).errorBackoff
    [.ofRaw readSpan file.errorBackoff] config.errorBackoff
  reporter : Drawn ({} : OperatorConfig).reporter
    [.ofRaw some (nonEmpty file.reporter)] config.reporter

/-- At least one reconcile may run, events have a name to be published under, and the namespace is
either not set or has a name, unless the arguments give one without a name. -/
structure Valid (watched : Option String) (config : OperatorConfig) : Prop where
  concurrency_pos : 1 ≤ config.maxConcurrentReconciles
  reporter_ne_empty : config.reporter ≠ ""
  namespace_eq_empty_iff : config.namespaceName = some "" ↔ watched = some ""

inductive Provided (read : String → Option String) : Option String → FileConfig → Prop where
  | unnamed : Provided read none {}
  | named {path text : String} {file : FileConfig} (htext : read path = some text)
      (hfile : FileConfig.parse? text = some file) : Provided read (some path) file

inductive RunsOver : List (Option String) → Prop where
  | here {text : String} {rest : List (Option String)} (h : Duration.Overruns text) :
      RunsOver (some text :: rest)
  | later {raw : Option String} {rest : List (Option String)}
      (hread : ∀ text ∈ raw, ∃ d, readSpan text = some d) (h : RunsOver rest) :
      RunsOver (raw :: rest)

/-- The settings have a span that overruns the clock, and what is read before it can be. -/
structure Overruns (env : Environment) (file : FileConfig) : Prop where
  maxConcurrentReconciles : ∃ n, Drawn ({} : OperatorConfig).maxConcurrentReconciles
    (concurrencySources env file) n ∧ 1 ≤ n
  metricsAddress : ∃ address, Drawn ({} : OperatorConfig).metricsAddress
    (addressSources env file) address
  intervals : RunsOver [file.resyncInterval, file.retryInterval, file.errorBackoff]

variable {file : FileConfig} {env : Environment} {cause : Abort}

@[simp] theorem not_runsOver_nil : ¬RunsOver [] := by
  rintro ⟨⟩

theorem runsOver_cons_iff {raw : Option String} {rest : List (Option String)} :
    RunsOver (raw :: rest) ↔ (∃ text, raw = some text ∧ Duration.Overruns text) ∨
      (∀ text ∈ raw, ∃ d, readSpan text = some d) ∧ RunsOver rest := by
  constructor
  · intro h
    cases h with
    | here h => exact .inl ⟨_, rfl, h⟩
    | later hread h => exact .inr ⟨hread, h⟩
  · rintro (⟨text, rfl, h⟩ | ⟨hread, h⟩)
    · exact .here h
    · exact .later hread h

/-! ### What comes of settings in the making -/

section Resolving

variable {α : Type} {x : Except ConfigError α} {a b : α}

@[simp] theorem run_pure_eq_ok : (pure a : Resolving α).run = .ok (.ok b) ↔ a = b := by
  change Except.ok (Except.ok a) = _ ↔ _
  rw [Except.ok.injEq, Except.ok.injEq]

@[simp] theorem run_pure_ne_error : (pure a : Resolving α).run ≠ .error cause := by
  rintro ⟨⟩

@[simp] theorem run_throw_ne_ok {e : ConfigError} :
    (throw e : Resolving α).run ≠ .ok (.ok a) := by
  rintro ⟨⟩

@[simp] theorem run_throw_ne_error {e : ConfigError} :
    (throw e : Resolving α).run ≠ .error cause := by
  rintro ⟨⟩

@[simp] theorem run_abort (cause : Abort) : (abort cause : Resolving α).run = .error cause :=
  rfl

theorem run_liftM_eq_ok : (liftM x : Resolving α).run = .ok (.ok a) ↔ x = .ok a := by
  change Except.ok x = _ ↔ _
  rw [Except.ok.injEq]

theorem run_liftM_ne_error : (liftM x : Resolving α).run ≠ .error cause := by
  rintro ⟨⟩

end Resolving

theorem resolveConcurrency_eq_ok {n : Nat} : resolveConcurrency file env = .ok n ↔
    Drawn ({} : OperatorConfig).maxConcurrentReconciles (concurrencySources env file) n ∧
      1 ≤ n := by
  have hpositive : ∀ m : Nat, (if m = 0 then
      .error (.invalid "max_concurrent_reconciles" "must be at least 1")
      else pure m : Except ConfigError Nat) = .ok n ↔ m = n ∧ 1 ≤ n := by
    intro m
    split
    · exact iff_of_false (by simp) (by omega)
    · simp only [pure, Except.pure, Except.ok.injEq]
      omega
  rw [resolveConcurrency, concurrencySources]
  cases env concurrencyVariable with
  | none =>
    simp only [bind_eq_ok, hpositive, drawn_none_iff]
    cases file.maxConcurrentReconciles <;> simp
  | some raw =>
    simp only [bind_eq_ok, mapError_eq_ok, hpositive, drawn_some_iff, readConcurrency]
    cases Whole.parse 0xFFFF (Text.trim raw) <;> simp [Except.toOption]

theorem resolveMetricsAddress_eq_ok {address : SocketAddress} :
    resolveMetricsAddress file env = .ok address ↔
      Drawn ({} : OperatorConfig).metricsAddress (addressSources env file) address := by
  rw [resolveMetricsAddress, addressSources, drawn_or_iff]
  cases (env metricsAddressVariable).or file.metricsAddress with
  | none => rw [drawn_none_iff, drawn_nil_iff, Except.ok.injEq]
  | some raw =>
    simp only [drawn_some_iff, readAddress]
    cases SocketAddress.parse? (Text.trim raw) <;> simp

section Spans

variable {field : String} {raw : Option String} {default d : Duration}

theorem run_resolveDuration_eq_ok :
    (resolveDuration field raw default).run = .ok (.ok d) ↔
      Drawn default [.ofRaw readSpan raw] d := by
  cases raw with
  | none => rw [resolveDuration, run_pure_eq_ok, drawn_none_iff, drawn_nil_iff]
  | some raw =>
    rw [resolveDuration, drawn_some_iff, readSpan]
    cases Duration.parse raw with
    | ok b => simp only [run_pure_eq_ok, Except.toOption, Option.some.injEq]
    | error e => cases e <;> simp [Except.toOption, -ExceptT.run_throw]

theorem run_resolveDuration_eq_error :
    (resolveDuration field raw default).run = .error cause ↔
      (∃ text, raw = some text ∧ Duration.Overruns text) ∧ cause = Duration.overrun := by
  cases raw with
  | none => exact iff_of_false run_pure_ne_error (by simp)
  | some raw =>
    simp only [Option.some.injEq, exists_eq_left', ← Duration.parse_eq_aborted, resolveDuration]
    cases Duration.parse raw with
    | ok b => exact iff_of_false run_pure_ne_error (by simp)
    | error e => cases e <;> simp [-ExceptT.run_throw]

theorem exists_drawn_span_iff : (∃ d, Drawn default [.ofRaw readSpan raw] d) ↔
    ∀ text ∈ raw, ∃ d, readSpan text = some d := by
  cases raw <;> simp

end Spans

theorem drawn_namespaceName_iff {first second found : Option String} :
    Drawn none [.ofRaw readNamespace first, .ofRaw readNamespace second] found ↔
      nonEmpty (first.or second) = found := by
  rw [drawn_or_iff]
  cases first.or second <;> simp [readNamespace, nonEmpty]

theorem drawn_reporter_iff {default found : String} {raw : Option String} :
    Drawn default [.ofRaw some (nonEmpty raw)] found ↔ (nonEmpty raw).getD default = found := by
  cases nonEmpty raw <;> simp

/-- The settings that hold are those drawn from the environment and the file. -/
theorem run_resolve_eq_ok {config : OperatorConfig} :
    (resolve file env).run = .ok (.ok config) ↔
      Layered none env file config ∧ 1 ≤ config.maxConcurrentReconciles := by
  rw [resolve]
  simp only [run_bind_eq_ok, run_liftM_eq_ok, resolveConcurrency_eq_ok,
    resolveMetricsAddress_eq_ok, run_resolveDuration_eq_ok]
  constructor
  · rintro ⟨_, ⟨hconcurrency, hpos⟩, _, haddress, _, hresync, _, hretry, _, hbackoff, h⟩
    obtain rfl := Except.ok.inj (Except.ok.inj h)
    exact ⟨{
      namespaceName := drawn_none_iff.2 (drawn_namespaceName_iff.2 rfl)
      maxConcurrentReconciles := hconcurrency
      metricsAddress := haddress
      resyncInterval := hresync
      retryInterval := hretry
      errorBackoff := hbackoff
      reporter := drawn_reporter_iff.2 rfl }, hpos⟩
  · rintro ⟨h, hpos⟩
    refine ⟨_, ⟨h.maxConcurrentReconciles, hpos⟩, _, h.metricsAddress, _, h.resyncInterval,
      _, h.retryInterval, _, h.errorBackoff, ?_⟩
    rw [drawn_namespaceName_iff.1 (drawn_none_iff.1 h.namespaceName),
      drawn_reporter_iff.1 h.reporter]
    rfl

/-- Only a span aborts. -/
theorem run_resolve_eq_error :
    (resolve file env).run = .error cause ↔ Overruns env file ∧ cause = Duration.overrun := by
  rw [resolve]
  simp only [run_bind_eq_error, run_liftM_eq_ok, run_liftM_ne_error, resolveConcurrency_eq_ok,
    resolveMetricsAddress_eq_ok, run_resolveDuration_eq_ok, run_resolveDuration_eq_error,
    run_pure_ne_error, false_or, and_false, exists_false, or_false]
  constructor
  · rintro ⟨n, hn, address, haddress, hspans⟩
    suffices h : RunsOver [file.resyncInterval, file.retryInterval, file.errorBackoff] ∧
        cause = Duration.overrun from ⟨⟨⟨n, hn⟩, ⟨address, haddress⟩, h.1⟩, h.2⟩
    rcases hspans with ⟨hover, rfl⟩ | ⟨_, hresync, ⟨hover, rfl⟩ | ⟨_, hretry, hover, rfl⟩⟩
    · exact ⟨runsOver_cons_iff.2 (.inl hover), rfl⟩
    · exact ⟨.later (exists_drawn_span_iff.1 ⟨_, hresync⟩) (runsOver_cons_iff.2 (.inl hover)), rfl⟩
    · exact ⟨.later (exists_drawn_span_iff.1 ⟨_, hresync⟩)
        (.later (exists_drawn_span_iff.1 ⟨_, hretry⟩) (runsOver_cons_iff.2 (.inl hover))), rfl⟩
  · rintro ⟨⟨⟨n, hn⟩, ⟨address, haddress⟩, hspans⟩, rfl⟩
    refine ⟨n, hn, address, haddress, ?_⟩
    rcases runsOver_cons_iff.1 hspans with hover | ⟨hresync, hspans⟩
    · exact .inl ⟨hover, rfl⟩
    obtain ⟨resync, hresync⟩ := exists_drawn_span_iff.2 hresync
    rcases runsOver_cons_iff.1 hspans with hover | ⟨hretry, hspans⟩
    · exact .inr ⟨resync, hresync, .inl ⟨hover, rfl⟩⟩
    obtain ⟨retry, hretry⟩ := exists_drawn_span_iff.2 hretry
    rcases runsOver_cons_iff.1 hspans with hover | ⟨-, hspans⟩
    · exact .inr ⟨resync, hresync, .inr ⟨retry, hretry, hover, rfl⟩⟩
    · exact absurd hspans not_runsOver_nil

theorem fileSettings_eq_ok {path : String} {read : String → Option String} :
    fileSettings path (read path) = .ok file ↔ Provided read (some path) file := by
  have hnamed : Provided read (some path) file ↔
      ∃ text, read path = some text ∧ FileConfig.parse? text = some file := by
    constructor
    · intro h
      cases h with
      | named htext hfile => exact ⟨_, htext, hfile⟩
    · rintro ⟨text, htext, hfile⟩
      exact .named htext hfile
  rw [hnamed]
  cases read path with
  | none => simp [fileSettings]
  | some text =>
    simp only [fileSettings, Option.some.injEq, exists_eq_left']
    cases FileConfig.parse? text <;> simp

theorem run_load_of_provided {path : Option String} {read : String → Option String}
    (h : Provided read (pathOf? path env) file) :
    (load path read env).run = (resolve file env).run := by
  rw [load]
  cases hpath : pathOf? path env with
  | none =>
    rw [hpath] at h
    cases h
    rfl
  | some path =>
    rw [hpath, ← fileSettings_eq_ok] at h
    simp only [h]
    rfl

/-- Whatever comes of loading the settings but a wrong file, comes of a file that is provided. -/
theorem run_load_eq_ok {path : Option String} {read : String → Option String}
    {config : OperatorConfig} : (load path read env).run = .ok (.ok config) ↔
      ∃ file, Provided read (pathOf? path env) file ∧
        (resolve file env).run = .ok (.ok config) := by
  constructor
  · intro h
    rw [load] at h
    cases hpath : pathOf? path env with
    | none =>
      rw [hpath] at h
      exact ⟨{}, .unnamed, h⟩
    | some path =>
      simp only [hpath, run_bind_eq_ok, run_liftM_eq_ok, fileSettings_eq_ok] at h
      exact h
  · rintro ⟨file, hfile, hresolve⟩
    rw [run_load_of_provided hfile, hresolve]

theorem run_load_eq_error {path : Option String} {read : String → Option String} :
    (load path read env).run = .error cause ↔
      ∃ file, Provided read (pathOf? path env) file ∧ (resolve file env).run = .error cause := by
  constructor
  · intro h
    rw [load] at h
    cases hpath : pathOf? path env with
    | none =>
      rw [hpath] at h
      exact ⟨{}, .unnamed, h⟩
    | some path =>
      simp only [hpath, run_bind_eq_error, run_liftM_ne_error, run_liftM_eq_ok,
        fileSettings_eq_ok, false_or] at h
      exact h
  · rintro ⟨file, hfile, hresolve⟩
    rw [run_load_of_provided hfile, hresolve]

/-- The variable of the environment that names the settings file has been read already. -/
theorem pathOf?_or (named : Option String) (env : Environment) :
    pathOf? (named.or (env configVariable)) env = named.or (env configVariable) := by
  rw [pathOf?, Option.or_assoc, Option.or_self]

theorem nonEmpty_ne_empty (s : Option String) : nonEmpty s ≠ some "" := by
  simp [nonEmpty, Option.filter_eq_some_iff]

/-- What is drawn from the sources is valid, as far as the arguments leave it so. -/
theorem Layered.valid {watched : Option String} {config : OperatorConfig}
    (h : Layered watched env file config) (hpos : 1 ≤ config.maxConcurrentReconciles) :
    Valid watched config where
  concurrency_pos := hpos
  reporter_ne_empty := by
    rw [← drawn_reporter_iff.1 h.reporter]
    have hnamed := nonEmpty_ne_empty file.reporter
    cases hreporter : nonEmpty file.reporter with
    | none => decide
    | some r =>
      rintro rfl
      exact hnamed hreporter
  namespace_eq_empty_iff := by
    have hdrawn := h.namespaceName
    cases watched with
    | none =>
      rw [← drawn_namespaceName_iff.1 (drawn_none_iff.1 hdrawn)]
      exact iff_of_false (nonEmpty_ne_empty _) (by simp)
    | some n => rw [← Option.some.inj (drawn_some_iff.1 hdrawn)]

end OperatorConfig

namespace Program

open OperatorConfig

variable {s : Surroundings} {arguments : List String} {config : OperatorConfig}

theorem exists_withNamespace_iff {watched : Option String} {env : Environment}
    {file : FileConfig} :
    (∃ loaded, (Layered none env file loaded ∧ 1 ≤ loaded.maxConcurrentReconciles) ∧
      withNamespace loaded watched = config) ↔
    Layered watched env file config ∧ 1 ≤ config.maxConcurrentReconciles := by
  constructor
  · rintro ⟨loaded, ⟨h, hpos⟩, rfl⟩
    refine ⟨{ h with namespaceName := ?_ }, hpos⟩
    have hloaded := h.namespaceName
    cases watched with
    | none => exact hloaded
    | some n => exact drawn_some_iff.2 rfl
  · rintro ⟨h, hpos⟩
    have hconfig := h.namespaceName
    refine ⟨{ config with
      namespaceName := nonEmpty ((env namespaceVariable).or file.namespaceName) },
      ⟨{ h with namespaceName := drawn_none_iff.2 (drawn_namespaceName_iff.2 rfl) }, hpos⟩, ?_⟩
    cases watched with
    | none =>
      rw [drawn_namespaceName_iff.1 (drawn_none_iff.1 hconfig)]
      rfl
    | some n =>
      have hname : some n = config.namespaceName := Option.some.inj (drawn_some_iff.1 hconfig)
      rw [withNamespace, Option.some_or, hname]

def GetsPast (s : Surroundings) (arguments : List String) (config : OperatorConfig) : Prop :=
  ∃ options filter loaded,
    CommandLine.parse arguments (s.environment configVariable) = .ok options ∧
    LogFilter.select (s.environment filterVariable) options.logLevel = .ok filter ∧
    (OperatorConfig.load options.config s.fileText s.environment).run = .ok (.ok loaded) ∧
    withNamespace loaded options.watchedNamespace = config

/-- What the arguments and the settings file give, where nothing keeps the program from looking at
it: the arguments are accepted, records can be filtered, and the file can be read. -/
structure Consulted (s : Surroundings) (arguments : List String)
    (given : List (CommandLine.OptionName × String)) (file : FileConfig) : Prop where
  spells : CommandLine.Spells arguments given
  acceptable : CommandLine.Acceptable given
  path_ne_empty : ∀ path ∈ (given.lookup .config).or (s.environment configVariable), path ≠ ""
  filtered : ∃ filter, LogFilter.select (s.environment filterVariable)
    ((given.lookup .logLevel).getD "info") = .ok filter
  provided : Provided s.fileText ((given.lookup .config).or (s.environment configVariable)) file

namespace Consulted

variable {given : List (CommandLine.OptionName × String)} {file : FileConfig}

theorem parse_eq (h : Consulted s arguments given file) :
    CommandLine.parse arguments (s.environment configVariable) =
      .ok (.ofGiven given (s.environment configVariable)) :=
  CommandLine.parse_eq_ok_iff.2 ⟨given, h.spells, h.acceptable, h.path_ne_empty, rfl⟩

theorem run_load_eq (h : Consulted s arguments given file) :
    (OperatorConfig.load (CommandLine.Options.ofGiven given (s.environment configVariable)).config
      s.fileText s.environment).run = (resolve file s.environment).run := by
  apply run_load_of_provided
  rw [CommandLine.Options.ofGiven, pathOf?_or]
  exact h.provided

end Consulted

/-- A program that comes to its settings file has consulted its sources. -/
theorem exists_consulted {options : CommandLine.Options} {filter : LogFilter} {file : FileConfig}
    (hparse : CommandLine.parse arguments (s.environment configVariable) = .ok options)
    (hfilter : LogFilter.select (s.environment filterVariable) options.logLevel = .ok filter)
    (hfile : Provided s.fileText (pathOf? options.config s.environment) file) :
    ∃ given, Consulted s arguments given file ∧
      options.watchedNamespace = given.lookup .watchedNamespace := by
  obtain ⟨given, hspells, hgiven, hnamed, rfl⟩ := CommandLine.parse_eq_ok_iff.1 hparse
  rw [CommandLine.Options.ofGiven, pathOf?_or] at hfile
  exact ⟨given, ⟨hspells, hgiven, hnamed, ⟨filter, hfilter⟩, hfile⟩, rfl⟩

theorem getsPast_iff : GetsPast s arguments config ↔ ∃ given file,
    Consulted s arguments given file ∧
    Layered (given.lookup .watchedNamespace) s.environment file config ∧
    1 ≤ config.maxConcurrentReconciles := by
  constructor
  · rintro ⟨options, filter, loaded, hparse, hfilter, hload, hconfig⟩
    obtain ⟨file, hfile, hresolve⟩ := run_load_eq_ok.1 hload
    obtain ⟨given, hconsulted, hwatched⟩ := exists_consulted hparse hfilter hfile
    rw [hwatched] at hconfig
    exact ⟨given, file, hconsulted,
      exists_withNamespace_iff.1 ⟨loaded, run_resolve_eq_ok.1 hresolve, hconfig⟩⟩
  · rintro ⟨given, file, hconsulted, hlayered⟩
    obtain ⟨filter, hfilter⟩ := hconsulted.filtered
    obtain ⟨loaded, hloaded, hconfig⟩ := exists_withNamespace_iff.2 hlayered
    exact ⟨_, filter, loaded, hconsulted.parse_eq, hfilter,
      hconsulted.run_load_eq.trans (run_resolve_eq_ok.2 hloaded), hconfig⟩

/-! ### How the program ends -/

/-- How the program ends once its filter is known, by what comes of loading the settings. -/
def EndsOn (s : Surroundings) (arguments : List String) (watched : Option String) :
    Aborting (Except ConfigError OperatorConfig) → Prop
  | .error cause => ∃ format records, run s arguments = .aborted format records cause
  | .ok (.error e) => ∃ format records, run s arguments = .failed format records e.message
  | .ok (.ok loaded) => ∃ format records,
    run s arguments = .failed format records (start s.access (withNamespace loaded watched)).2

theorem endsOn_load {options : CommandLine.Options} {filter : LogFilter}
    (hparse : CommandLine.parse arguments (s.environment configVariable) = .ok options)
    (hfilter : LogFilter.select (s.environment filterVariable) options.logLevel = .ok filter) :
    EndsOn s arguments options.watchedNamespace
      (OperatorConfig.load options.config s.fileText s.environment).run := by
  rcases hload : OperatorConfig.load options.config s.fileText s.environment with
    cause | e | loaded
  all_goals
    simp only [ExceptT.run, EndsOn, run, hparse, hfilter, operate, hload]
    exact ⟨_, _, rfl⟩

/-- Past its configuration the program starts with its settings. -/
theorem run_of_getsPast (h : GetsPast s arguments config) :
    ∃ format records, run s arguments = .failed format records (start s.access config).2 := by
  obtain ⟨options, filter, loaded, hparse, hfilter, hload, rfl⟩ := h
  have hends := endsOn_load hparse hfilter
  rwa [hload] at hends

variable {given : List (CommandLine.OptionName × String)} {file : FileConfig} {cause : Abort}

theorem Consulted.endsOn_resolve (h : Consulted s arguments given file) :
    EndsOn s arguments (given.lookup .watchedNamespace) (resolve file s.environment).run := by
  obtain ⟨filter, hfilter⟩ := h.filtered
  have hends := endsOn_load h.parse_eq hfilter
  rwa [h.run_load_eq] at hends

/-- Nothing but the settings aborts. -/
theorem load_of_aborted {format : CommandLine.LogFormat} {records : List LogRecord}
    (h : run s arguments = .aborted format records cause) : ∃ options filter,
      CommandLine.parse arguments (s.environment configVariable) = .ok options ∧
      LogFilter.select (s.environment filterVariable) options.logLevel = .ok filter ∧
      (OperatorConfig.load options.config s.fileText s.environment).run = .error cause := by
  simp only [run] at h
  split at h
  case h_5 options hparse =>
    split at h
    · cases h
    next filter hfilter =>
      refine ⟨options, filter, hparse, hfilter, ?_⟩
      simp only [operate] at h
      rcases hload : OperatorConfig.load options.config s.fileText s.environment with
        cause | e | loaded
      all_goals simp only [hload] at h
      all_goals cases h
      rfl
  all_goals cases h

/-- The program aborts just where it comes to a span that overruns the clock. -/
theorem run_eq_aborted : (∃ format records, run s arguments = .aborted format records cause) ↔
    (∃ given file, Consulted s arguments given file ∧ Overruns s.environment file) ∧
      cause = Duration.overrun := by
  constructor
  · rintro ⟨format, records, h⟩
    obtain ⟨options, filter, hparse, hfilter, hload⟩ := load_of_aborted h
    obtain ⟨file, hfile, hresolve⟩ := run_load_eq_error.1 hload
    obtain ⟨given, hconsulted, -⟩ := exists_consulted hparse hfilter hfile
    obtain ⟨hover, hcause⟩ := run_resolve_eq_error.1 hresolve
    exact ⟨⟨given, file, hconsulted, hover⟩, hcause⟩
  · rintro ⟨⟨given, file, hconsulted, hover⟩, rfl⟩
    have hends := hconsulted.endsOn_resolve
    rwa [run_resolve_eq_error.2 ⟨hover, rfl⟩] at hends

/-- A program that consults its sources and gets past none of them fails with what is wrong with a
setting, unless it aborts. -/
theorem Consulted.failed (h : Consulted s arguments given file)
    (hnone : ∀ config, ¬GetsPast s arguments config) (hover : ¬Overruns s.environment file) :
    ∃ format records, ∃ e : ConfigError, (resolve file s.environment).run = .ok (.error e) ∧
      run s arguments = .failed format records e.message := by
  have hends := h.endsOn_resolve
  rcases hresolve : (resolve file s.environment).run with cause | e | loaded
  · exact absurd (run_resolve_eq_error.1 hresolve).1 hover
  · rw [hresolve] at hends
    obtain ⟨format, records, hrun⟩ := hends
    exact ⟨format, records, e, rfl, hrun⟩
  · obtain ⟨filter, hfilter⟩ := h.filtered
    have hpast : GetsPast s arguments (withNamespace loaded _) :=
      ⟨_, filter, loaded, h.parse_eq, hfilter, h.run_load_eq.trans hresolve, rfl⟩
    exact absurd hpast (hnone _)

/-- The settings are layered and valid. The program gets past its configuration just with those that
are drawn from their sources, the arguments before the environment and that before the file: what
the strongest source says that says anything, where that can be read, or the default. Where it
cannot be read, the program fails with what is wrong, except that it aborts at a span that overruns
the clock. A namespace that the arguments give is taken as it is, so that the program looks after an
empty one just if they give that. -/
theorem settings_layered (s : Surroundings) (arguments : List String) :
    (∀ config, GetsPast s arguments config ↔ ∃ given file, Consulted s arguments given file ∧
      Layered (given.lookup .watchedNamespace) s.environment file config ∧
      Valid (given.lookup .watchedNamespace) config) ∧
    (∀ config, GetsPast s arguments config → ∃ format records,
      run s arguments = .failed format records (start s.access config).2) ∧
    (∀ given file, Consulted s arguments given file → (∀ config, ¬ GetsPast s arguments config) →
      ¬Overruns s.environment file →
      ∃ format records, ∃ e : ConfigError,
        (resolve file s.environment).run = .ok (.error e) ∧
        run s arguments = .failed format records e.message) ∧
    ∀ cause, (∃ format records, run s arguments = .aborted format records cause) ↔
      (∃ given file, Consulted s arguments given file ∧ Overruns s.environment file) ∧
        cause = Duration.overrun := by
  refine ⟨fun config => ?_, fun config => run_of_getsPast,
    fun given file => Consulted.failed, fun cause => run_eq_aborted⟩
  rw [getsPast_iff]
  constructor
  · rintro ⟨given, file, hconsulted, hlayered, hpos⟩
    exact ⟨given, file, hconsulted, hlayered, hlayered.valid hpos⟩
  · rintro ⟨given, file, hconsulted, hlayered, hvalid⟩
    exact ⟨given, file, hconsulted, hlayered, hvalid.concurrency_pos⟩

end Program

namespace Example

def settingsText : String :=
  "namespace = 'file'\nmax_concurrent_reconciles = 3\nresync_interval = '1h 30min'\nreporter = ''\n"

def staging : Environment := fun name =>
  if name = OperatorConfig.configVariable then some "operator.toml"
  else if name = OperatorConfig.namespaceVariable then some "staging"
  else if name = OperatorConfig.concurrencyVariable then some " 16 "
  else none

def stage : Program.Surroundings where
  environment := staging
  fileText path := if path = "operator.toml" then some settingsText else none
  access := .refused

def stageSettings : OperatorConfig :=
  { namespaceName := some "apps", maxConcurrentReconciles := 16, resyncInterval := .ofSeconds 5400 }

def crowded : Program.Surroundings where
  environment name := if name = OperatorConfig.concurrencyVariable then some "many" else none
  fileText _ := none
  access := .refused

def overdue : Program.Surroundings where
  environment name :=
    if name = OperatorConfig.configVariable then some "operator.toml" else none
  fileText _ := some "resync_interval = '18446744073709551615s 1000ms'\n"
  access := .refused

end Example

namespace Program

open OperatorConfig

theorem settings_layered_example :
    (GetsPast Example.stage ["--log-format=text", "--namespace", "apps"] Example.stageSettings ∧
      ∃ given file,
        Consulted Example.stage ["--log-format=text", "--namespace", "apps"] given file ∧
        Layered (given.lookup .watchedNamespace) Example.staging file Example.stageSettings ∧
        Valid (given.lookup .watchedNamespace) Example.stageSettings) ∧
    (∃ format records, run Example.stage ["--log-format=text", "--namespace", "apps"] =
      .failed format records (start .refused Example.stageSettings).2) ∧
    (Consulted Example.crowded [] [] {} ∧ (∀ config, ¬GetsPast Example.crowded [] config) ∧
      ¬Overruns Example.crowded.environment {} ∧
      ∃ format records, ∃ e : ConfigError,
        (resolve {} Example.crowded.environment).run = .ok (.error e) ∧
        run Example.crowded [] = .failed format records e.message) ∧
    (run Example.overdue [] = .aborted .auto [] Duration.overrun ∧
      ∃ given file, Consulted Example.overdue [] given file ∧
        Overruns Example.overdue.environment file) := by
  have hpast : GetsPast Example.stage ["--log-format=text", "--namespace", "apps"]
      Example.stageSettings :=
    ⟨{ logFormat := .text, config := some "operator.toml", watchedNamespace := some "apps" },
      [{ verbosity := 3 }], { Example.stageSettings with namespaceName := some "staging" },
      by decide +kernel, by decide +kernel, by decide +kernel, by decide +kernel⟩
  have hconsulted : Consulted Example.crowded [] [] {} :=
    { spells := .nil
      acceptable := .nil
      path_ne_empty := by simp [Example.crowded, configVariable, concurrencyVariable]
      filtered := ⟨[{ verbosity := 3 }], by decide +kernel⟩
      provided := .unnamed }
  have hbad : (resolve {} Example.crowded.environment).run = .ok (.error (.invalid
      "max_concurrent_reconciles" "\"many\": invalid digit found in string")) := by
    decide +kernel
  have hnone : ∀ config, ¬GetsPast Example.crowded [] config := by
    rintro config ⟨options, filter, loaded, hparse, -, hload, -⟩
    rw [hconsulted.parse_eq] at hparse
    obtain rfl := Except.ok.inj hparse
    rw [hconsulted.run_load_eq, hbad] at hload
    cases hload
  have hover : ¬Overruns Example.crowded.environment {} := by
    intro h
    have haborts := run_resolve_eq_error.2 ⟨h, rfl⟩
    rw [hbad] at haborts
    cases haborts
  have haborted : run Example.overdue [] = .aborted .auto [] Duration.overrun := by
    decide +kernel
  exact ⟨⟨hpast, ((settings_layered _ _).1 _).1 hpast⟩, (settings_layered _ _).2.1 _ hpast,
    ⟨hconsulted, hnone, hover, (settings_layered _ _).2.2.1 _ _ hconsulted hnone hover⟩,
    haborted, (((settings_layered _ _).2.2.2 _).1 ⟨_, _, haborted⟩).1⟩

/-- An empty namespace that the arguments give is neither none nor the name of one. -/
theorem empty_namespace_taken :
    GetsPast Example.stage ["--namespace", ""]
      { Example.stageSettings with namespaceName := some "" } ∧
    Kind.app.collectionPath (some "") =
      "/apis/apps.composite.dev/v1/namespaces//compositeapps" := by
  refine ⟨⟨{ config := some "operator.toml", watchedNamespace := some "" }, [{ verbosity := 3 }],
    { Example.stageSettings with namespaceName := some "staging" }, by decide +kernel,
    by decide +kernel, by decide +kernel, by decide +kernel⟩, by decide +kernel⟩

end Program

end CompositeApps
