import SourceGrade.Proofs.CommandLine.Output
import SourceGrade.Proofs.CommandLine.Variation

/-!
# Cosmetic options

The level of detail and the log filter only matter to log lines, and asking for markdown to nothing at
all. The locale and the summary do not matter to JSON, and there are only two languages of reports.
-/

namespace SourceGrade.CommandLine

variable {o o' : Options} {disk : Disk} {env env' : Environment} {arguments arguments' : List Bytes}

/-! ## Logging -/

/-- Whether a diagnostic comes from the log or from its filter. -/
def Diagnostic.isLogging : Diagnostic → Bool
  | warning _ | log _ => true
  | skipped _ | failed _ | panicked .. => false

/-- Two runs do the same, and say the same on standard error, in the same order, except for what comes
from the log. -/
structure Run.SameButLog (run run' : Run) : Prop where
  exitCode : run'.exitCode = run.exitCode
  stdout : run'.stdout = run.stdout
  disk : run'.disk = run.disk
  diagnostics : run'.diagnostics.filter (!·.isLogging) = run.diagnostics.filter (!·.isLogging)

/-- A run whose log filter has been read, with warnings. -/
def Options.start (o : Options) (log : Log.Filter × List Text) (disk : Disk) : Run :=
  { execute o log.1 disk with
    diagnostics := log.2.map .warning ++ (execute o log.1 disk).diagnostics }

theorem invoke_of_parse (h : parse env arguments = .ok (.scan o)) (disk : Disk) :
    invoke env arguments disk = o.start (logFilter (logSpecification env) o.verbose) disk := by
  unfold invoke run
  rw [h]
  rfl

theorem execute_filter (o : Options) (filter filter' : Log.Filter) (disk : Disk) :
    execute o filter' disk = { execute o filter disk with filter := filter' } := by
  cases hresult : ((scan o disk).conclude o).result with
  | error failure => rw [execute_of_error hresult, execute_of_error hresult]
  | ok made =>
    cases hemit : (emit o disk made.2).2.error with
    | some e => rw [execute_of_emit_error hresult hemit, execute_of_emit_error hresult hemit]
    | none => rw [execute_of_ok hresult hemit, execute_of_ok hresult hemit]

theorem sameButLog_start (o : Options) (log log' : Log.Filter × List Text) (disk : Disk) :
    (o.start log disk).SameButLog (o.start log' disk) := by
  have hwarnings : ∀ warnings : List Text,
      (warnings.map Diagnostic.warning).filter (!·.isLogging) = [] := by
    intro warnings
    rw [List.filter_eq_nil_iff]
    intro d hd
    obtain ⟨text, -, rfl⟩ := List.mem_map.1 hd
    exact Bool.false_ne_true
  unfold Options.start
  rw [execute_filter o log.1 log'.1 disk]
  refine ⟨rfl, rfl, rfl, ?_⟩
  simp only [List.filter_append, hwarnings]

/-! ## Reports -/

theorem start_of_report (log : Log.Filter × List Text) (hscan : scan o' disk = scan o disk)
    (hemit : ∀ report, emit o' disk report = emit o disk report)
    (hreport : ∀ files, o'.report files = o.report files) :
    o'.start log disk = o.start log disk := by
  have hconclude : (scan o disk).conclude o' = (scan o disk).conclude o := by
    unfold Scan.conclude
    simp only [hreport]
  unfold Options.start execute
  simp only [hscan, hemit, hconclude]

theorem report_of_markdown (o : Options) (files : List ScoredFile) :
    (o.setFlag .markdown).report files = o.report files := by
  unfold Options.report Report.ofFiles Report.ofScore
  rfl

theorem report_of_summary (files : List ScoredFile) (h : o.json = true) :
    (o.setFlag .summary).report files = o.report files := by
  unfold Options.report
  simp only [Options.setFlag, h, if_true]

/-- Every locale but one gets the labels of the fallback. -/
theorem ofLocale_of_ne {locale : Text} (h : locale ≠ Labels.english.id) :
    Labels.ofLocale locale = Labels.fallback := by
  unfold Labels.ofLocale
  by_cases hchinese : locale = Labels.chinese.id
  · rw [hchinese]
    rfl
  · have hnone : Labels.all.find? (·.id = locale) = none := by
      simp [Labels.all, Ne.symm h, Ne.symm hchinese]
    rw [hnone]
    rfl

theorem report_of_locale {locale : Text} (files : List ScoredFile)
    (h : o.json = true ∨ o.locale ≠ Labels.english.id ∧ locale ≠ Labels.english.id) :
    Options.report { o with locale } files = o.report files := by
  unfold Options.report
  rcases h with hjson | ⟨hold, hnew⟩
  · simp only [hjson, if_true]
  · unfold Report.ofFiles Report.ofScore
    simp only [ofLocale_of_ne hold, ofLocale_of_ne hnew]

/-! ## Runs -/

/-- Options that are only cosmetic change nothing about a scan. Any log filter, and the flag for more
detail, leave everything as it is but for what comes from the log. The flag for markdown leaves the whole
run as it is. So do the flag for a summary and any other locale when the report is JSON, and a locale for
another one as long as neither is the English one. -/
theorem invoke_cosmetic_options (disk : Disk) (h : parse env arguments = .ok (.scan o)) :
    (∀ env', (∀ name ≠ logVariable, env'.lookup name = env.lookup name) →
      (invoke env arguments disk).SameButLog (invoke env' arguments disk)) ∧
    (o.verbose = false → ∀ arguments', AddsFlag .verbose arguments arguments' →
      (invoke env arguments disk).SameButLog (invoke env arguments' disk)) ∧
    (o.markdown = false → ∀ arguments', AddsFlag .markdown arguments arguments' →
      invoke env arguments' disk = invoke env arguments disk) ∧
    (o.json = true → o.summary = false → ∀ arguments', AddsFlag .summary arguments arguments' →
      invoke env arguments' disk = invoke env arguments disk) ∧
    (∀ env' arguments' o',
      (∀ name ≠ Setting.variableName .locale, env'.lookup name = env.lookup name) →
      ChangesSetting .locale arguments arguments' → parse env' arguments' = .ok (.scan o') →
      o.json = true ∨ o.locale ≠ Labels.english.id ∧ o'.locale ≠ Labels.english.id →
        invoke env' arguments' disk = invoke env arguments disk) := by
  have hinvoke := invoke_of_parse h disk
  refine ⟨fun env' henv => ?_, fun hnew arguments' hadds => ?_, fun hnew arguments' hadds => ?_,
    fun hjson hnew arguments' hadds => ?_, fun env' arguments' o' henv hchanges h' hlocale => ?_⟩
  · have hparse : parse env' arguments = .ok (.scan o) := by
      refine (parse_congr (fun setting => henv _ ?_) arguments).trans h
      cases setting <;> decide
    rw [hinvoke, invoke_of_parse hparse]
    exact sameButLog_start o _ _ disk
  · rw [hinvoke, invoke_of_parse (parse_addsFlag hadds h hnew)]
    exact sameButLog_start o _ _ disk
  · rw [hinvoke, invoke_of_parse (parse_addsFlag hadds h hnew)]
    exact start_of_report _ rfl (fun _ => rfl) (report_of_markdown o)
  · rw [hinvoke, invoke_of_parse (parse_addsFlag hadds h hnew)]
    exact start_of_report _ rfl (fun _ => rfl) fun files => report_of_summary files hjson
  · have hsame : o' = { o with locale := o'.locale } :=
      parse_changesSetting hchanges (fun _ hne => henv _ (Setting.variableName_ne hne)) h h'
    have hlog : logSpecification env' = logSpecification env := by
      unfold logSpecification
      rw [henv logVariable (by decide)]
    rw [hinvoke, invoke_of_parse h', hlog, hsame]
    exact start_of_report _ rfl (fun _ => rfl) fun files => report_of_locale files hlocale

/-- The options of a command line with a directory and nothing else, or with JSON. -/
def plainOptions (json : Bool) (locale : Text) : Options :=
  ⟨[0x64], defaultLang, locale, defaultJobs, none, json, false, false, false, false⟩

theorem invoke_cosmetic_options_scanned :
    (invoke [] [[0x64]] scannedDisk).SameButLog
      (invoke [(logVariable, Path.ofText "trace".toList)] [[0x64]] scannedDisk) ∧
    (invoke [] [[0x64]] scannedDisk).SameButLog
      (invoke [] [Path.ofText "-v".toList, [0x64]] scannedDisk) ∧
    invoke [] [[0x64], Path.ofText "--markdown".toList] scannedDisk =
      invoke [] [[0x64]] scannedDisk ∧
    invoke [(Setting.variableName .locale, Path.ofText "fr".toList)] [[0x64]] scannedDisk =
      invoke [] [[0x64]] scannedDisk ∧
    invoke [] [Path.ofText "--json".toList, Path.ofText "--summary".toList, [0x64]] scannedDisk =
      invoke [] [Path.ofText "--json".toList, [0x64]] scannedDisk ∧
    invoke [] [Path.ofText "--json".toList, [0x64], Path.ofText "--locale=en-US".toList] scannedDisk =
      invoke [] [Path.ofText "--json".toList, [0x64]] scannedDisk := by
  have htext : parse [] [[0x64]] = .ok (.scan (plainOptions false "zh-CN")) := rfl
  have hjson : parse [] [Path.ofText "--json".toList, [0x64]] =
      .ok (.scan (plainOptions true "zh-CN")) := rfl
  have hfrench : parse [(Setting.variableName .locale, Path.ofText "fr".toList)] [[0x64]] =
      .ok (.scan (plainOptions false "fr")) := rfl
  have henglish : parse []
      [Path.ofText "--json".toList, [0x64], Path.ofText "--locale=en-US".toList] =
      .ok (.scan (plainOptions true "en-US")) := rfl
  have hpath : TakesOption [[0x64]] := ⟨_, rfl, rfl, rfl⟩
  have hboth : TakesOption [Path.ofText "--json".toList, [0x64]] := ⟨_, rfl, rfl, rfl⟩
  have hfirst : TakesOption [Path.ofText "--json".toList] := ⟨_, rfl, rfl, rfl⟩
  obtain ⟨hfilter, hverbose, hmarkdown, -, hlocale⟩ := invoke_cosmetic_options scannedDisk htext
  obtain ⟨-, -, -, hsummary, hanyLocale⟩ := invoke_cosmetic_options scannedDisk hjson
  refine ⟨hfilter _ ?_, hverbose rfl _ ?_, hmarkdown rfl _ ?_, hlocale _ _ _ ?_ ?_ hfrench ?_,
    hsummary rfl rfl _ ?_, hanyLocale _ _ _ (fun _ _ => rfl) ?_ henglish (Or.inl rfl)⟩
  · intro name hname
    rw [List.lookup_cons, beq_false_of_ne hname]
  · exact .intro takesOption_nil (List.mem_cons_of_mem _ (List.mem_singleton_self _))
  · exact .intro hpath (List.mem_singleton_self _)
  · intro name hname
    rw [List.lookup_cons, beq_false_of_ne hname]
  · exact .intro takesOption_nil (Or.inl rfl) (Or.inl rfl)
  · exact Or.inr ⟨by decide, by decide⟩
  · exact .intro hfirst (List.mem_singleton_self _)
  · exact .intro hboth (Or.inl rfl) (Or.inr ⟨Path.ofText "en-US".toList, .attached⟩)

end SourceGrade.CommandLine
