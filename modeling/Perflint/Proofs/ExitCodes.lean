import Mathlib
import Perflint.CommandLine.Run
import Perflint.Proofs.Containment
import Perflint.Proofs.Selection

namespace Perflint

-- The limits on findings are none of the rules' business.
def Context.unfiltered (ctx : Context) : Context :=
  { ctx with settings := ctx.settings.unfiltered }

theorem Catalog.rules_unfiltered {ctx : Context} {site : Site} :
    ∀ rule ∈ rules, rule.check ctx.unfiltered site = rule.check ctx site := by
  rw [forall_rules]
  and_intros <;> rfl

theorem Rule.judge_unfiltered {rule : Rule} {ctx : Context} {site : Site}
    (same : rule.check ctx.unfiltered site = rule.check ctx site) :
    rule.judge ctx.unfiltered site = rule.judge ctx site := by
  unfold judge
  rw [same]
  rfl

theorem Evaluation.run_unfiltered {ctx : Context} {rules : List Rule} (all : List Site) (budget : Budget)
    (same : ∀ rule ∈ rules, ∀ site, rule.check ctx.unfiltered site = rule.check ctx site) :
    run ctx.unfiltered all budget rules = run ctx all budget rules := by
  induction rules generalizing budget with
  | nil => rfl
  | cons rule rest ih =>
    have judge : rule.judge ctx.unfiltered = rule.judge ctx :=
      funext fun site => Rule.judge_unfiltered (same rule List.mem_cons_self site)
    have later := fun budget => ih budget fun other member => same other (List.mem_cons_of_mem _ member)
    simp only [run, judge, later]

theorem evaluate_unfiltered {registry : Registry} (drawn : ∀ rule ∈ registry.rules, rule ∈ Catalog.rules) (ctx : Context)
    (budget : Budget) : evaluate ctx.unfiltered registry budget = evaluate ctx registry budget := by
  have same : ∀ rule ∈ registry.rulesFor ctx.language ctx.settings.enabledRules ctx.settings.disabledRules,
      ∀ site, rule.check ctx.unfiltered site = rule.check ctx site := by
    intro rule member site
    exact Catalog.rules_unfiltered rule (drawn rule (List.mem_mergeSort.mp (List.mem_filter.mp member).1))
  have run := Evaluation.run_unfiltered ctx.outline.sites budget same
  unfold evaluate
  dsimp only
  rw [← run]
  rfl

namespace Finding

theorem synthesize_severity (finding : Finding) (origin : Option Match) (tag : String) :
    (finding.synthesize origin tag).severity = finding.severity := by
  obtain ⟨suggestion, error, same⟩ := finding.synthesize_eq origin tag
  rw [same]
  rfl

-- A suggestion changes no severity, so it takes no finding from a gate.
theorem exists_mem_synthesizeAll {findings : List Finding} {gate : Severity} (tag : String) :
    (∃ finding ∈ synthesizeAll findings tag, gate ≤ finding.severity) ↔ ∃ finding ∈ findings, gate ≤ finding.severity := by
  simp only [synthesizeAll, List.mem_map, exists_exists_and_eq_and, synthesize_severity]

end Finding

-- The same analysis with every finding let through and none of them mended.
def Request.unfiltered (request : Request) : Request :=
  { request with settings := request.settings.unfiltered, suggest := false }

theorem analyze_limited {request : Request} {language : Language} {outline : Outline}
    (drawn : ∀ rule ∈ request.registry.rules, rule ∈ Catalog.rules) (lenient : request.strict = false)
    (isLanguage : Language.ofTag? request.tag = some language)
    (lowered : language.outline request.source request.tree = .ok outline) :
    ∃ report all, analyze request = .ok report ∧ analyze request.unfiltered = .ok all ∧
      report.isPartial = all.isPartial ∧
      ∀ gate : Severity, (∃ finding ∈ report.findings, gate ≤ finding.severity) ↔
        ∃ finding ∈ all.findings, max gate request.settings.minSeverity ≤ finding.severity := by
  have inUse := Request.registryInUse_subset drawn
  obtain ⟨findings, aggregated⟩ := exists_aggregate inUse (request.context language outline) request.allowance.rules
    request.hints request.settings.unfiltered (outline.estimates outline.callGraph request.allowance.costs).results
  have sorted := aggregate_sorted aggregated
  have limited : aggregate outline request.registryInUse request.hints request.settings
      (evaluate (request.context language outline) request.registryInUse request.allowance.rules).found
      (outline.estimates outline.callGraph request.allowance.costs).results =
        .ok (Finding.limited request.settings findings) := by
    rw [aggregate_eq_limited]
    exact congrArg (Except.map _) aggregated
  obtain ⟨report, made, listed, cut⟩ := analyze_of_aggregate lenient isLanguage lowered limited
  rw [← evaluate_unfiltered inUse] at aggregated cut
  obtain ⟨all, madeAll, listedAll, cutAll⟩ :=
    @analyze_of_aggregate request.unfiltered language outline findings lenient isLanguage lowered aggregated
  refine ⟨report, all, made, madeAll, cut.trans cutAll.symm, fun gate => ?_⟩
  have same : all.findings = findings := listedAll
  rw [same, ← Finding.exists_mem_limited sorted, listed]
  split
  · exact Finding.exists_mem_synthesizeAll language.text
  · rfl

namespace CommandLine

-- The words ask for an analysis, the files that they name are there, the settings can be read, and the tree is one
-- of a known language.
structure ValidRun (world : Surroundings) (args : List String) (options : AnalyzeOptions) (settings : Settings)
    (tag : String) (bytes : List UInt8) : Prop where
  words : ∃ invocation, Invocation.ofWords args = .ok invocation ∧ invocation.command = .analyze options ∧
    invocation.check world.files = .ok ()
  settings : ∃ notes, options.settings world.files = .ok (settings, notes)
  text : world.files.read options.path = .ok bytes
  language : ∃ parser, Language.request options.language (some options.path) = .ok (tag, parser)
  tree : ∃ language outline, Language.ofTag? tag = some language ∧ language.outline { bytes } world.tree = .ok outline

namespace AnalyzeOptions

theorem ending_exitCode {options : AnalyzeOptions} {gate : Severity} (gated : options.gate = some gate) (report : Report) :
    (options.ending report).exitCode =
      if ∃ finding ∈ report.findings, gate ≤ finding.severity then 5 else if report.isPartial then 6 else 0 := by
  have rest : (if report.isPartial then Ending.cutShort else Ending.success).exitCode =
      if report.isPartial then 6 else 0 := by
    cases report.isPartial <;> rfl
  have none : (failing gate report).length == 0 ↔ ¬∃ finding ∈ report.findings, gate ≤ finding.severity := by
    simp [failing]
  unfold ending
  rw [gated]
  by_cases grave : ∃ finding ∈ report.findings, gate ≤ finding.severity
  · dsimp only
    rw [if_neg (mt none.mp (not_not_intro grave)), if_pos grave]
    rfl
  · dsimp only
    rw [if_pos (none.mpr grave), if_neg grave, rest]

end AnalyzeOptions

theorem ValidRun.exitCode {world : Surroundings} {args : List String} {options : AnalyzeOptions} {settings : Settings}
    {tag : String} {bytes : List UInt8} {report : Report} (valid : ValidRun world args options settings tag bytes)
    (made : options.report world tag settings bytes = .ok report) :
    (run world args).exitCode = (options.ending report).exitCode := by
  obtain ⟨⟨invocation, parsed, asked, present⟩, ⟨notes, configured⟩, read, ⟨parser, requested⟩, _⟩ := valid
  unfold run
  rw [parsed]
  dsimp only
  unfold Invocation.run
  rw [present, asked]
  dsimp only
  unfold Invocation.runAnalyze AnalyzeOptions.analyzed
  simp only [configured, read, requested, made]
  rfl

end CommandLine

-- The limits on findings leave out findings and do nothing else, and the exit code of a run with a gate is that of
-- all its findings: no limit, format or lack of suggestions hides a finding that the limits let through.
theorem limits_keep_gate :
    (∀ outline registry hints settings found estimates,
      aggregate outline registry hints settings found estimates =
        (aggregate outline registry hints settings.unfiltered found estimates).map fun findings =>
          let kept := findings.filter fun finding => settings.minSeverity ≤ finding.severity
          if 0 < settings.maxFindings then kept.take settings.maxFindings else kept) ∧
    ∀ {world args options settings tag bytes} {gate : Severity},
      CommandLine.ValidRun world args options settings tag bytes → options.gate = some gate →
      ∃ report all, options.report world tag settings bytes = .ok report ∧
        { options with suggest := false }.report world tag settings.unfiltered bytes = .ok all ∧
        report.isPartial = all.isPartial ∧
        ((CommandLine.run world args).exitCode = 5 ↔
          ∃ finding ∈ all.findings, max gate settings.minSeverity ≤ finding.severity) ∧
        ((CommandLine.run world args).exitCode ≠ 5 →
          (CommandLine.run world args).exitCode = if report.isPartial then 6 else 0) := by
  refine ⟨aggregate_eq_limited, ?_⟩
  intro world args options settings tag bytes gate valid gated
  obtain ⟨language, outline, isLanguage, lowered⟩ := valid.tree
  let request := options.request world tag settings bytes
  have drawn : ∀ rule ∈ request.registry.rules, rule ∈ Catalog.rules := fun _ member => member
  obtain ⟨report, all, made, madeAll, sameCut, atGate⟩ :=
    @analyze_limited request language outline drawn rfl isLanguage lowered
  refine ⟨report, all, made, madeAll, sameCut, ?_⟩
  have asked : (∃ finding ∈ report.findings, gate ≤ finding.severity) ↔
      ∃ finding ∈ all.findings, max gate settings.minSeverity ≤ finding.severity := atGate gate
  rw [valid.exitCode made, CommandLine.AnalyzeOptions.ending_exitCode gated, ← asked]
  by_cases failing : ∃ finding ∈ report.findings, gate ≤ finding.severity
  · simp [failing]
  · rw [if_neg failing]
    cases report.isPartial <;> simp [failing]

theorem oneSecond_read : (Decimal.read? "1").isSome = true := by
  decide +kernel

-- A command line that leaves out what is below medium, a gate that asks for less, and a time that is too short.
def gatedArgs : List String :=
  ["analyze", "app.py", "--min-severity", "medium", "--fail-on", "low", "--budget", "1"]

def gatedOptions : CommandLine.AnalyzeOptions :=
  { path := "app.py", minSeverity := some .medium, gate := some .low, seconds := some (Option.get _ oneSecond_read) }

def gatedWorld : CommandLine.Surroundings :=
  { files := { base := [], entries := [(["app.py"], .file nestedLoops.source.bytes)] }
    tree := nestedLoops.tree, timestamp := "", pace := (hurriedLoops 1).pace }

namespace CommandLine

-- Letter by letter a closed text can be evaluated.
theorem severity?_eq (text : String) :
    severity? text = Severity.all.find? fun severity =>
      severity.label.toList.map Char.toLower == text.toList.map Char.toLower := by
  unfold severity?
  congr 1
  funext severity
  rw [Bool.eq_iff_iff]
  simp only [beq_iff_eq, ← String.toList_inj, String.toList_map]

theorem Words.read?_eq_some {words : Words} {name value : String} {read : String → Option α} {result : α}
    (given : words.value? name = some value) (known : read value = some result) :
    words.read? name read = .ok (some result) := by
  unfold Words.read?
  rw [given]
  dsimp only
  rw [known]

def gatedWords : Words :=
  { options := [("--min-severity", "medium"), ("--fail-on", "low"), ("--budget", "1")], arguments := ["app.py"] }

theorem gatedWords_command : analyzeCommand gatedWords = .ok (.analyze gatedOptions) := by
  have medium : severity? "medium" = some .medium := by
    rw [severity?_eq]
    decide +kernel
  have low : severity? "low" = some .low := by
    rw [severity?_eq]
    decide +kernel
  have seconds : gatedWords.read? "--budget" Decimal.read? = .ok gatedOptions.seconds :=
    Words.read?_eq_some (by decide +kernel) (Option.some_get oneSecond_read).symm
  have least : gatedWords.read? "--min-severity" severity? = .ok (some .medium) :=
    Words.read?_eq_some (by decide +kernel) medium
  have gate : gatedWords.read? "--fail-on" severity? = .ok (some .low) :=
    Words.read?_eq_some (by decide +kernel) low
  unfold analyzeCommand
  rw [seconds, least, gate]
  rfl

theorem Invocation.ofWords_eq_ok {args rest : List String} {name : String} {command : Command}
    (scanned : Words.scan commonSwitches true args = .ok { arguments := name :: rest })
    (known : commandOf name rest = .ok command) : Invocation.ofWords args = .ok { command } := by
  unfold Invocation.ofWords
  rw [scanned]
  change (commandOf name rest >>= fun command => pure { command : Invocation }) = _
  rw [known]
  rfl

theorem commandOf_analyze {rest : List String} {words : Words}
    (scanned : Words.scan analyzeSwitches false rest = .ok words) : commandOf "analyze" rest = analyzeCommand words := by
  unfold commandOf
  rw [scanned]
  rfl

theorem gatedArgs_parsed : Invocation.ofWords gatedArgs = .ok { command := .analyze gatedOptions } := by
  have scanned : Words.scan analyzeSwitches false gatedArgs.tail = .ok gatedWords := by cbv
  refine Invocation.ofWords_eq_ok rfl ?_
  exact (commandOf_analyze scanned).trans gatedWords_command

theorem gated_valid :
    ValidRun gatedWorld gatedArgs gatedOptions { minSeverity := .medium } "python" nestedLoops.source.bytes where
  words := by
    have present : gatedWorld.files.holdsFile "app.py" = true := by decide +kernel
    refine ⟨_, gatedArgs_parsed, rfl, ?_⟩
    simp [Invocation.check, Invocation.paths, gatedOptions, present]
  settings := by
    have unset : gatedOptions.settingsFile? gatedWorld.files = none := by decide +kernel
    unfold AnalyzeOptions.settings
    rw [unset]
    exact ⟨_, rfl⟩
  text := by
    have pieces : Text.pieces '/' "app.py" = ["app.py"] := by decide +kernel
    have relative : Files.isAbsolute "app.py" = false := by decide +kernel
    simp only [Files.read, Files.look, gatedOptions, pieces, relative]
    rfl
  language := by
    have known : (Language.request none (some "app.py")).toOption = some ("python", "python") := by decide +kernel
    cases requested : Language.request none (some "app.py") with
    | error e => simp [requested, Except.toOption] at known
    | ok asked =>
      rw [requested] at known
      exact ⟨"python", requested.trans (congrArg Except.ok (Option.some.inj known))⟩
  tree := ⟨.python, nestedLoopsOutline, by decide +kernel, eq_ok_get _⟩

end CommandLine

-- The gate is asked before the report is said to be cut short.
theorem gated_keeps_gate :
    ∃ report all,
      gatedOptions.report gatedWorld "python" { minSeverity := .medium } nestedLoops.source.bytes = .ok report ∧
      { gatedOptions with suggest := false }.report gatedWorld "python" {} nestedLoops.source.bytes = .ok all ∧
      report.isPartial = true ∧ (∃ finding ∈ all.findings, max Severity.low Severity.medium ≤ finding.severity) ∧
      (CommandLine.run gatedWorld gatedArgs).exitCode = 5 := by
  obtain ⟨report, all, made, madeAll, sameCut, gated, _⟩ := limits_keep_gate.2 CommandLine.gated_valid rfl
  obtain ⟨hurried, answered, cut, finding, listed, _, grave⟩ := hurriedLoops_answered (Option.get _ oneSecond_read)
  have same : hurried = all := Except.ok.inj (answered.symm.trans madeAll)
  subst same
  exact ⟨report, hurried, made, madeAll, sameCut.trans cut, ⟨finding, listed, grave⟩,
    gated.mpr ⟨finding, listed, grave⟩⟩

end Perflint
