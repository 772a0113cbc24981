import ProxyHeader.Proofs.Layers
import ProxyHeader.Proofs.PartialRead
import ProxyHeader.Proofs.SparedSettings
import ProxyHeader.Proofs.Stages
import ProxyHeader.Proofs.TornFilters

/-!
# A header on standard input

Without a port a run reports on the first bytes of standard input, as many as a header can
have. `Answers` says what it has to show, and `EffectiveFormat` where the form of the report
comes from. `standardInput` is about all such runs: they answer so exactly if the log filter is
not torn, and nothing but those bytes and the form of the report matters to them.

A log filter is never torn where no directive of it has white space in front
(`answers_of_no_space`). A header that is longer than what is read can only be refused
(`Answers.tooLong`).
-/

namespace ProxyHeader

namespace Session

/-! ## What is received -/

/-- What a run receives that finds some bytes on standard input and takes them in with one
read. -/
def receiving (stdin : Bytes) (connections : Source → Except IntakeError Bytes) :
    Source → Except IntakeError Bytes
  | .standardInput => (ChunkQueue.read maxHeaderLength [.bytes stdin]).1
  | s => connections s

/-- The bytes that one read takes in. -/
def front (stdin : Bytes) : Bytes :=
  stdin.take maxHeaderLength

theorem receiving_standardInput (stdin : Bytes)
    (connections : Source → Except IntakeError Bytes) :
    receiving stdin connections .standardInput = .ok (front stdin) := by
  rw [receiving, ChunkQueue.read, front]
  split
  next hle => rw [List.take_of_length_le hle]
  next => rfl

/-- A preamble that passes and declares more than can be read is read short. -/
theorem read_front_of_tooLong {stdin : Bytes} (h₁₆ : preambleLength ≤ stdin.length)
    (hpasses : Preamble.Passes stdin)
    (hlong : maxHeaderLength < preambleLength + declaredLength stdin) :
    Info.read (front stdin) = .error (.shortRead (preambleLength + declaredLength stdin)
      (min maxHeaderLength stdin.length)) := by
  have hroom : preambleLength ≤ maxHeaderLength := by decide
  have hlength : (front stdin).length = min maxHeaderLength stdin.length :=
    List.length_take
  rw [Info.read_eq_shortRead_iff, Preamble.read_eq_shortRead_iff, hlength, front,
    Preamble.passes_take_iff hroom, declaredLength_take hroom]
  exact ⟨rfl, Or.inr ⟨le_min hroom h₁₆, hpasses, lt_of_le_of_lt (min_le_left _ _) hlong, rfl⟩⟩

/-! ## The answer -/

/-- What a run has to show for some bytes on standard input. -/
structure Answers (format : Report.Format) (stdin : Bytes) (o : Outcome) : Prop where
  accepted : ∀ i, Info.read (front stdin) = .ok i → o.output = match format with
    | .text => Report.text i
    | .json => (Report.json i).render ++ "\n"
  refused : ∀ e, Info.read (front stdin) = .error e → o.output = match format with
    | .text => Report.errorText e (front stdin) ++ "\n"
    | .json => (Report.errorJson e (front stdin)).render ++ "\n"
  status : o.status = if Info.accepts (Info.read (front stdin)) then 0 else 1
  notice : o.notice? = none
  /-- A header that is longer than what is read is refused, with as many bytes as were. -/
  tooLong : preambleLength ≤ stdin.length → Preamble.Passes stdin →
    maxHeaderLength < preambleLength + declaredLength stdin →
      o.status = 1 ∧ Info.read (front stdin) = .error (.shortRead
        (preambleLength + declaredLength stdin) (min maxHeaderLength stdin.length))

theorem answers_report (format : Report.Format) (stdin : Bytes) :
    Answers format stdin (report format (.ok (front stdin))) where
  accepted i hi := by
    simp only [report, Report.render, hi]
    cases format <;> rfl
  refused e he := by
    simp only [report, Report.render, he]
    cases format <;> rfl
  status := rfl
  notice := rfl
  tooLong h₁₆ hpasses hlong := by
    have hread := read_front_of_tooLong h₁₆ hpasses hlong
    refine ⟨?_, hread⟩
    rw [report, hread]
    rfl

/-- A run that breaks off gives no answer. -/
theorem not_answers_brokenOff (format : Report.Format) (stdin : Bytes) :
    ¬ Answers format stdin .brokenOff := by
  intro h
  have hstatus : 101 = if Info.accepts (Info.read (front stdin)) then 0 else 1 := h.status
  split at hstatus
  · omega
  · omega

/-! ## The form of the report -/

/-- The form of the report is given by its option, or else by the last variable for it if no
other variable can change it, or else by the file if no variable leads into the group; if none
of them gives it, it is text. -/
structure EffectiveFormat (host : Settings.Host) (w : Surroundings) (a : CommandLine.Arguments)
    (format : Report.Format) : Prop where
  fromOption : ∀ given, a.format? = some given → format = given
  fromVariable : a.format? = none → ∀ before name value after,
    w.environment = before ++ (name, value) :: after →
      Settings.Variable.key? name = some Settings.Key.format.fullName →
      Settings.OnlyOwn .format before → Settings.Spare .format after →
        Report.Format.ofName? value = some format
  fromFile : a.format? = none → Settings.SilentOn .output w.environment →
    ∀ tree, Settings.treeOfFile host (settingsFile w.file? a.config?) = .ok tree →
      Settings.Key.format.readIn tree = .ok format
  byDefault : a.format? = none → Settings.SilentOn .output w.environment →
    ∀ tree, Settings.treeOfFile host (settingsFile w.file? a.config?) = .ok tree →
      Settings.GroupsAreTables tree → tree.leaf? .format = none → format = .text

section

variable {host : Settings.Host} {isPattern : String → Bool} {w : Surroundings}
  {a : CommandLine.Arguments} {loaded : Settings}

theorem effectiveFormat (h : Configured host w a loaded) :
    EffectiveFormat host w a (override a loaded).format := by
  have hformat : a.format? = none → (override a loaded).format = loaded.format := by
    intro hnone
    rw [override, hnone]
    rfl
  have hfile : a.format? = none → Settings.SilentOn .output w.environment →
      ∀ tree, Settings.treeOfFile host (settingsFile w.file? a.config?) = .ok tree →
        Settings.Key.format.readIn tree = .ok (override a loaded).format := by
    intro hnone hsilent tree htree
    rw [hformat hnone]
    exact Settings.get_of_load_of_silentOn (k := .format) h.settings hsilent htree
  exact {
    fromOption := fun given hgiven => by
      rw [override, hgiven]
      rfl
    fromVariable := fun hnone before name value after henvironment hname hbefore hafter => by
      have hload := h.settings
      rw [henvironment] at hload
      rw [hformat hnone]
      exact Settings.ofName?_of_readFormat_guess
        (Settings.get_of_load_of_own (k := .format) hload hname hbefore hafter)
    fromFile := hfile
    byDefault := fun hnone hsilent tree htree htables hleaf => by
      have hread := hfile hnone hsilent tree htree
      rw [Settings.readIn_of_groupsAreTables htables, hleaf] at hread
      exact (Except.ok.inj hread).symm }

/-! ## Runs on standard input -/

theorem run_receiving (h : Configured host w a loaded)
    (hkeeps : logFilterTears isPattern w (override a loaded) = false)
    (hport : a.port? = none) (stdin : Bytes)
    (connections : Source → Except IntakeError Bytes) :
    run w (receiving stdin connections) host isPattern =
      report (override a loaded).format (.ok (front stdin)) := by
  rw [run_of_no_port _ h hkeeps hport, receiving_standardInput]

/-- A run without a port answers for standard input if no directive of its log filters has white
space in front. -/
theorem answers_of_no_space (h : Configured host w a loaded) (hport : a.port? = none)
    (hnospace : ∀ filter, Entries.get? LogFilter.variableName w.environment = some filter ∨
      (override a loaded).level = filter →
        ∀ d ∈ LogFilter.directives filter, ∀ c cs, d = c :: cs → isSpace c = false)
    (stdin : Bytes) (connections : Source → Except IntakeError Bytes) :
    Answers (override a loaded).format stdin
      (run w (receiving stdin connections) host isPattern) := by
  have hkeeps : logFilterTears isPattern w (override a loaded) = false := by
    refine Bool.eq_false_iff.mpr fun htears => ?_
    obtain ⟨filter, hfilter, d, hd, ⟨c, cs, heq, hspace⟩, -⟩ :=
      LogFilter.exists_space_of_tears htears
    exact Bool.eq_false_iff.mp (hnospace filter hfilter d hd c cs heq) hspace
  rw [run_receiving h hkeeps hport]
  exact answers_report _ stdin

/-- A run without a port answers for standard input exactly if its log filter is not torn; if
it is, the run breaks off whatever it receives. Runs that do not break off have the same status
if they receive the same first bytes, and all the same outcome if the form of the report is the
same too, on any hosts. -/
theorem standardInput (h : Configured host w a loaded) (hport : a.port? = none) :
    ((∀ stdin connections, Answers (override a loaded).format stdin
        (run w (receiving stdin connections) host isPattern)) ↔
      logFilterTears isPattern w (override a loaded) = false) ∧
    (logFilterTears isPattern w (override a loaded) = true →
      ∀ receive, run w receive host isPattern = .brokenOff) ∧
    EffectiveFormat host w a (override a loaded).format ∧
    (logFilterTears isPattern w (override a loaded) = false → ∀ host' w' a' loaded',
      Configured host' w' a' loaded' → a'.port? = none →
      logFilterTears isPattern w' (override a' loaded') = false →
      ∀ stdin stdin' connections connections', front stdin = front stdin' →
        (run w (receiving stdin connections) host isPattern).status =
          (run w' (receiving stdin' connections') host' isPattern).status ∧
        ((override a loaded).format = (override a' loaded').format →
          run w (receiving stdin connections) host isPattern =
            run w' (receiving stdin' connections') host' isPattern)) := by
  refine ⟨⟨fun hanswers => ?_, fun hkeeps stdin connections => ?_⟩,
    fun htears receive => run_of_tears receive h htears, effectiveFormat h,
    fun hkeeps host' w' a' loaded' h' hport' hkeeps' stdin stdin' connections connections'
      hfront => ?_⟩
  · refine Bool.eq_false_iff.mpr fun htears => ?_
    have hanswer := hanswers [] fun _ => .ok []
    rw [run_of_tears _ h htears] at hanswer
    exact not_answers_brokenOff _ _ hanswer
  · rw [run_receiving h hkeeps hport]
    exact answers_report _ stdin
  · rw [run_receiving h hkeeps hport, run_receiving h' hkeeps' hport', hfront]
    refine ⟨rfl, fun hformat => ?_⟩
    rw [hformat]

end

/-- A TCP connection over IPv4, without records. -/
def plainHeader : Bytes :=
  signature ++ [0x21, 0x11, 0x00, 0x0C, 192, 168, 1, 1, 10, 0, 0, 1, 0x30, 0x39, 0x01, 0xBB]

/-- A run with a limit of time and a variable for the form of the report. -/
def jsonByVariable : Surroundings where
  arguments := ["--timeout", "5"]
  environment := [("PP2_OUTPUT__FORMAT", "json")]
  file? := fun _ => none

/-- A header is reported in the form that the variable gives. -/
theorem standardInput_jsonByVariable :
    Answers .json plainHeader (run jsonByVariable (receiving plainHeader fun _ => .ok [])) := by
  have harguments : CommandLine.parse jsonByVariable.arguments =
      .ok (.run ⟨none, none, some 5, none, none⟩) := by
    decide +kernel
  have hsettings : Settings.load (settingsFile jsonByVariable.file? none)
      jsonByVariable.environment = .ok ⟨"0.0.0.0", 0, "warn", .json⟩ :=
    Settings.eq_ok_of_toOption (by decide +kernel)
  have hkeeps : logFilterTears (fun _ => true) jsonByVariable ⟨"0.0.0.0", 5, "warn", .json⟩ =
      false := by
    decide +kernel
  exact (standardInput ⟨harguments, hsettings⟩ rfl).1.mpr hkeeps _ _

/-- A log level in which white space moves a place into a character. -/
def tornLevel : Surroundings where
  arguments := ["--log-level= é="]
  environment := []
  file? := fun _ => none

/-- A torn log level keeps a header that is served from being reported, on any host. -/
theorem not_answers_tornLevel : Info.accepts (Info.read (front plainHeader)) = true ∧
    ∀ host isPattern, Configured host tornLevel ⟨none, none, none, some " é=", none⟩
        ⟨"0.0.0.0", 0, "warn", .text⟩ ∧
      (∀ receive, run tornLevel receive host isPattern = ⟨101, "", none⟩) ∧
      ¬ Answers .text plainHeader
        (run tornLevel (receiving plainHeader fun _ => .ok []) host isPattern) := by
  have harguments : CommandLine.parse tornLevel.arguments =
      .ok (.run ⟨none, none, none, some " é=", none⟩) := by
    decide +kernel
  have hnames : Settings.NamesKeys tornLevel.environment := fun v hv =>
    absurd hv List.not_mem_nil
  refine ⟨by decide +kernel, fun host isPattern => ?_⟩
  have hload : Settings.load .notGiven tornLevel.environment host =
      .ok ⟨"0.0.0.0", 0, "warn", .text⟩ :=
    (Settings.load_notGiven_eq_ok_iff host hnames).mpr fun k => by cases k <;> rfl
  have h : Configured host tornLevel ⟨none, none, none, some " é=", none⟩
      ⟨"0.0.0.0", 0, "warn", .text⟩ :=
    ⟨harguments, hload⟩
  have htears : logFilterTears isPattern tornLevel ⟨"0.0.0.0", 0, " é=", .text⟩ = true := by
    rfl
  have hrun : ∀ receive, run tornLevel receive host isPattern = .brokenOff := fun receive =>
    run_of_tears receive h htears
  refine ⟨h, hrun, fun hanswers => ?_⟩
  rw [hrun] at hanswers
  exact not_answers_brokenOff _ _ hanswers

end Session

end ProxyHeader
