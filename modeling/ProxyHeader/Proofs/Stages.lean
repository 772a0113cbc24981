import ProxyHeader.Proofs.Layers
import ProxyHeader.Session

/-!
# The stages of a run

One lemma for each way that a run can end says what it shows then (`run_of_usageError` and
those after it); `status_run` follows, which says that a run has one of two statuses unless it
breaks off.

`InOrder` says that a stage that fails ends the run, whatever the later stages would find. It
holds but for runs that break off where a complaint was due (`inOrder_iff`): the log filter is
set up after the settings are loaded and before the address to listen on is looked at, so that
a torn filter hides a bad address (`not_inOrder_tornFilter`).
-/

namespace ProxyHeader

namespace Session

/-- The arguments ask for a run, and the settings for it load. -/
structure Configured (host : Settings.Host) (w : Surroundings) (a : CommandLine.Arguments)
    (loaded : Settings) : Prop where
  arguments : CommandLine.parse w.arguments = .ok (.run a)
  settings : Settings.load (settingsFile w.file? a.config?) w.environment host = .ok loaded

/-! ## How a run ends -/

section Run

variable {host : Settings.Host} {isPattern : String → Bool} {w : Surroundings}
  {a : CommandLine.Arguments} {loaded : Settings} (receive : Source → Except IntakeError Bytes)

theorem run_of_usageError {e : CommandLine.UsageError}
    (h : CommandLine.parse w.arguments = .error e) :
    run w receive host isPattern = .failure "" := by
  rw [run, plan, h]

theorem run_of_flag {f : CommandLine.Flag} (h : CommandLine.parse w.arguments = .ok (.flag f)) :
    run w receive host isPattern = .success (answer w.environment f) := by
  rw [run, plan, h]

theorem run_of_loadError {e : Settings.LoadError}
    (ha : CommandLine.parse w.arguments = .ok (.run a))
    (he : Settings.load (settingsFile w.file? a.config?) w.environment host = .error e) :
    (e = .noRoom ∧ run w receive host isPattern = .brokenOff) ∨
      (e ≠ .noRoom ∧ run w receive host isPattern = .complaint (.badSettings e)) := by
  rw [run, plan, ha]
  simp only [prepare, he]
  cases e with
  | noRoom => exact Or.inl ⟨rfl, rfl⟩
  | _ => exact Or.inr ⟨nofun, rfl⟩

theorem run_of_tears (h : Configured host w a loaded)
    (htears : logFilterTears isPattern w (override a loaded) = true) :
    run w receive host isPattern = .brokenOff := by
  rw [run, plan, h.arguments]
  simp only [prepare, h.settings]
  rw [if_pos htears]

theorem run_of_not_tears (h : Configured host w a loaded)
    (hkeeps : logFilterTears isPattern w (override a loaded) = false) :
    run w receive host isPattern = match source a.port? (override a loaded) with
      | .error n => .complaint n
      | .ok s => report (override a loaded).format (receive s) := by
  rw [run, plan, h.arguments]
  simp only [prepare, h.settings]
  rw [if_neg (Bool.eq_false_iff.mp hkeeps)]
  cases source a.port? (override a loaded) <;> rfl

theorem run_of_port {port : Nat} (h : Configured host w a loaded)
    (hkeeps : logFilterTears isPattern w (override a loaded) = false)
    (hport : a.port? = some port)
    (haddress : IpAddress.ofChars? loaded.bindAddress.toList = none) :
    run w receive host isPattern = .complaint (.badBindAddress loaded.bindAddress) := by
  have hsource : source a.port? (override a loaded) =
      .error (.badBindAddress loaded.bindAddress) := by
    rw [hport]
    simp only [source, override, haddress]
  rw [run_of_not_tears receive h hkeeps, hsource]

/-- Without a port the bytes are those of standard input. -/
theorem run_of_no_port (h : Configured host w a loaded)
    (hkeeps : logFilterTears isPattern w (override a loaded) = false) (hport : a.port? = none) :
    run w receive host isPattern =
      report (override a loaded).format (receive .standardInput) := by
  have hsource : source a.port? (override a loaded) = .ok .standardInput := by
    rw [hport, source]
  rw [run_of_not_tears receive h hkeeps, hsource]

end Run

/-! ## Runs that break off -/

section

variable (host : Settings.Host) (isPattern : String → Bool) (w : Surroundings)

/-- There is no room for a list in the settings, or the log filter is torn. -/
def BreaksOff : Prop :=
  ∃ a, CommandLine.parse w.arguments = .ok (.run a) ∧
    (Settings.load (settingsFile w.file? a.config?) w.environment host = .error .noRoom ∨
      ∃ loaded, Configured host w a loaded ∧
        logFilterTears isPattern w (override a loaded) = true)

theorem run_of_breaksOff {host : Settings.Host} {isPattern : String → Bool} {w : Surroundings}
    (h : BreaksOff host isPattern w) (receive : Source → Except IntakeError Bytes) :
    run w receive host isPattern = .brokenOff := by
  obtain ⟨a, ha, he | ⟨loaded, hloaded, htears⟩⟩ := h
  · rcases run_of_loadError receive ha he with ⟨-, hrun⟩ | ⟨hne, -⟩
    · exact hrun
    · exact absurd rfl hne
  · exact run_of_tears receive hloaded htears

theorem status_report (format : Report.Format) (received : Except IntakeError Bytes) :
    (report format received).status = 0 ∨ (report format received).status = 1 := by
  cases received with
  | error e => exact Or.inr rfl
  | ok bytes =>
    simp only [report]
    split
    · exact Or.inl rfl
    · exact Or.inr rfl

theorem complaint_ne_brokenOff (n : Notice) : Outcome.complaint n ≠ .brokenOff := by
  intro h
  have hstatus : 1 = 101 := congrArg Outcome.status h
  omega

/-- A run that does not break off has one of two statuses. -/
theorem status_run (receive : Source → Except IntakeError Bytes) :
    BreaksOff host isPattern w ∨ (run w receive host isPattern).status = 0 ∨
      (run w receive host isPattern).status = 1 := by
  cases hparse : CommandLine.parse w.arguments with
  | error e =>
    rw [run_of_usageError receive hparse]
    exact Or.inr (Or.inr rfl)
  | ok request =>
    cases request with
    | flag f =>
      rw [run_of_flag receive hparse]
      exact Or.inr (Or.inl rfl)
    | run a =>
      cases hload : Settings.load (settingsFile w.file? a.config?) w.environment host with
      | error e =>
        rcases run_of_loadError receive hparse hload with ⟨rfl, -⟩ | ⟨-, hrun⟩
        · exact Or.inl ⟨a, hparse, Or.inl hload⟩
        · rw [hrun]
          exact Or.inr (Or.inr rfl)
      | ok loaded =>
        have h : Configured host w a loaded := ⟨hparse, hload⟩
        cases htears : logFilterTears isPattern w (override a loaded) with
        | true => exact Or.inl ⟨a, hparse, Or.inr ⟨loaded, h, htears⟩⟩
        | false =>
          refine Or.inr ?_
          rw [run_of_not_tears receive h htears]
          cases source a.port? (override a loaded) with
          | error n => exact Or.inr rfl
          | ok s => exact status_report _ _

/-! ## Order -/

/-- A stage that fails ends the run in the same way whatever is received, and whatever the
arguments say that belongs to later stages. -/
structure InOrder : Prop where
  usage : ∀ e, CommandLine.parse w.arguments = .error e →
    ∀ receive, run w receive host isPattern = ⟨1, "", none⟩
  flag : ∀ f, CommandLine.parse w.arguments = .ok (.flag f) →
    ∃ output, ∀ receive, run w receive host isPattern = ⟨0, output, none⟩
  settings : ∀ a e, CommandLine.parse w.arguments = .ok (.run a) →
    Settings.load (settingsFile w.file? a.config?) w.environment host = .error e →
      ∃ n : Notice, n.text = "ERROR:\tinvalid configuration" ∧
        ∀ receive, run w receive host isPattern = ⟨1, "", some n⟩
  bindAddress : ∀ a loaded port, Configured host w a loaded → a.port? = some port →
    IpAddress.ofChars? loaded.bindAddress.toList = none →
      ∃ n : Notice, n.text = "ERROR:\tinvalid bind address " ++ Quoted.quote loaded.bindAddress ++
          ": invalid IP address syntax" ∧
        ∀ receive, run w receive host isPattern = ⟨1, "", some n⟩
  /-- Without a port, runs whose settings differ in the address only are the same, on any
  hosts. -/
  unexamined : ∀ a loaded, Configured host w a loaded → a.port? = none →
    ∀ host' w' a' loaded', Configured host' w' a' loaded' → a'.port? = none →
      override a' loaded' = { override a loaded with bindAddress := loaded'.bindAddress } →
      Entries.get? LogFilter.variableName w'.environment =
        Entries.get? LogFilter.variableName w.environment →
      ∀ receive, run w receive host isPattern = run w' receive host' isPattern

end

theorem run_eq_of_bindAddress {host host' : Settings.Host} {isPattern : String → Bool}
    {w w' : Surroundings} {a a' : CommandLine.Arguments} {loaded loaded' : Settings}
    (h : Configured host w a loaded) (hport : a.port? = none)
    (h' : Configured host' w' a' loaded') (hport' : a'.port? = none)
    (hsettings : override a' loaded' =
      { override a loaded with bindAddress := loaded'.bindAddress })
    (hvariable : Entries.get? LogFilter.variableName w'.environment =
      Entries.get? LogFilter.variableName w.environment)
    (receive : Source → Except IntakeError Bytes) :
    run w receive host isPattern = run w' receive host' isPattern := by
  have hfilter : logFilterTears isPattern w' (override a' loaded') =
      logFilterTears isPattern w (override a loaded) := by
    rw [logFilterTears, logFilterTears, hvariable, hsettings]
  cases htears : logFilterTears isPattern w (override a loaded) with
  | true =>
    rw [run_of_tears receive h htears, run_of_tears receive h' (hfilter.trans htears)]
  | false =>
    rw [run_of_no_port receive h htears hport,
      run_of_no_port receive h' (hfilter.trans htears) hport', hsettings]

/-- The stages of a run are in order unless it breaks off for the lack of room or before it
comes to a bad address. A run that breaks off does so whatever is received, and all others
have one of two statuses. -/
theorem inOrder_iff (host : Settings.Host) (isPattern : String → Bool) (w : Surroundings) :
    (InOrder host isPattern w ↔ ∀ a, CommandLine.parse w.arguments = .ok (.run a) →
      Settings.load (settingsFile w.file? a.config?) w.environment host ≠ .error .noRoom ∧
      ∀ loaded port, Configured host w a loaded → a.port? = some port →
        IpAddress.ofChars? loaded.bindAddress.toList = none →
          logFilterTears isPattern w (override a loaded) = false) ∧
    (BreaksOff host isPattern w → ∀ receive, run w receive host isPattern = .brokenOff) ∧
    (¬ BreaksOff host isPattern w → ∀ receive, (run w receive host isPattern).status = 0 ∨
      (run w receive host isPattern).status = 1) := by
  refine ⟨⟨fun horder a ha => ⟨fun hroom => ?_, fun loaded port h hport haddress => ?_⟩,
    fun h => ?_⟩, run_of_breaksOff, fun h receive =>
      (status_run host isPattern w receive).resolve_left h⟩
  · obtain ⟨n, -, hrun⟩ := horder.settings a _ ha hroom
    have hbreaks : run w (fun _ => .ok []) host isPattern = .brokenOff :=
      run_of_breaksOff ⟨a, ha, Or.inl hroom⟩ _
    exact complaint_ne_brokenOff n ((hrun _).symm.trans hbreaks)
  · obtain ⟨n, -, hrun⟩ := horder.bindAddress a loaded port h hport haddress
    refine Bool.eq_false_iff.mpr fun htears => ?_
    have hbreaks := run_of_tears (fun _ => .ok []) h htears
    exact complaint_ne_brokenOff n ((hrun _).symm.trans hbreaks)
  · exact {
      usage := fun e he receive => run_of_usageError receive he
      flag := fun f hf => ⟨_, fun receive => run_of_flag receive hf⟩
      settings := fun a e ha he => by
        refine ⟨.badSettings e, rfl, fun receive => ?_⟩
        rcases run_of_loadError receive ha he with ⟨rfl, -⟩ | ⟨-, hrun⟩
        · exact absurd he (h a ha).1
        · exact hrun
      bindAddress := fun a loaded port hloaded hport haddress =>
        ⟨.badBindAddress loaded.bindAddress, rfl, fun receive =>
          run_of_port receive hloaded
            ((h a hloaded.arguments).2 loaded port hloaded hport haddress) hport haddress⟩
      unexamined := fun a loaded hloaded hport host' w' a' loaded' hloaded' hport' hsettings
          hvariable =>
        run_eq_of_bindAddress hloaded hport hloaded' hport' hsettings hvariable }

/-- A port, an address that is none, and a filter in which white space moves a place into a
character. -/
def tornFilter : Surroundings where
  arguments := ["--log-level= é=", "8443"]
  environment := [("PP2_INPUT__BIND_ADDRESS", "nowhere")]
  file? := fun _ => none

/-- A torn filter hides the bad address behind it, on any host. -/
theorem not_inOrder_tornFilter : IpAddress.ofChars? "nowhere".toList = none ∧
    ∀ host isPattern, Configured host tornFilter ⟨none, none, none, some " é=", some 8443⟩
        ⟨"nowhere", 0, "warn", .text⟩ ∧
      (∀ receive, run tornFilter receive host isPattern = ⟨101, "", none⟩) ∧
      ¬ InOrder host isPattern tornFilter := by
  have haddress : IpAddress.ofChars? "nowhere".toList = none := by decide +kernel
  have harguments : CommandLine.parse tornFilter.arguments =
      .ok (.run ⟨none, none, none, some " é=", some 8443⟩) := by
    decide +kernel
  have hkey : Settings.Variable.key? "PP2_INPUT__BIND_ADDRESS" =
      some Settings.Key.bindAddress.fullName := by
    decide +kernel
  have hnames : Settings.NamesKeys tornFilter.environment := by
    intro v hv key h
    rw [List.mem_singleton.mp hv, hkey] at h
    exact ⟨.bindAddress, (Option.some.inj h).symm⟩
  refine ⟨haddress, fun host isPattern => ?_⟩
  have hload : Settings.load .notGiven tornFilter.environment host =
      .ok ⟨"nowhere", 0, "warn", .text⟩ :=
    (Settings.load_notGiven_eq_ok_iff host hnames).mpr fun k => by cases k <;> rfl
  have h : Configured host tornFilter ⟨none, none, none, some " é=", some 8443⟩
      ⟨"nowhere", 0, "warn", .text⟩ :=
    ⟨harguments, hload⟩
  have htears : logFilterTears isPattern tornFilter ⟨"nowhere", 0, " é=", .text⟩ = true := by
    rfl
  have hrun := fun receive => run_of_tears receive h htears
  refine ⟨h, hrun, fun horder => ?_⟩
  obtain ⟨n, -, hpromised⟩ := horder.bindAddress _ _ _ h rfl haddress
  exact complaint_ne_brokenOff n ((hpromised fun _ => .ok []).symm.trans (hrun _))

end Session

end ProxyHeader
