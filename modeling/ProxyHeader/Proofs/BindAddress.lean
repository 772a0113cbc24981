import ProxyHeader.Proofs.GuessedText
import ProxyHeader.Proofs.SparedSettings
import ProxyHeader.Proofs.Stages

/-!
# The address to listen on, from a variable

The value of a variable is guessed and may be written out otherwise than it was given. Yet
every text for the address to listen on loads, and is an address in the settings exactly if it
is one in the variable (`Settings.load_bindAddress`). A run with a port complains about the
address exactly if the variable holds none (`Session.bindAddress_of_variable`).

No other variable may change the address: which of them has the last word is up to the host.
-/

namespace ProxyHeader

namespace Settings

/-- With any text in its variable the address to listen on loads, and is an address exactly if
the text is one, and the same. -/
theorem load_bindAddress {file : File} {before after : List Variable} {host : Host}
    {name old : String} {s : Settings}
    (hname : Variable.key? name = some Key.bindAddress.fullName)
    (hbefore : OnlyOwn .bindAddress before) (hafter : Spare .bindAddress after)
    (hload : load file (before ++ (name, old) :: after) host = .ok s) (new : String) :
    ∃ address, load file (before ++ (name, new) :: after) host =
        .ok { s with bindAddress := address } ∧
      IpAddress.ofChars? address.toList = IpAddress.ofChars? new.toList ∧
      ∀ ip, IpAddress.ofChars? new.toList = some ip → address = new := by
  obtain ⟨address, htext, -⟩ := Variable.guess_text new
  have hcoerce : Key.bindAddress.coerce Key.bindAddress.place (Variable.guess new) =
      .ok address := by
    simp only [Key.coerce, readText, htext]
  refine ⟨address, load_of_variable hname hbefore hafter hload hcoerce fun k' hk' => ?_,
    Variable.ofChars?_text_guess htext⟩
  cases k' with
  | bindAddress => exact absurd rfl hk'
  | timeout => rfl
  | level => rfl
  | format => rfl

end Settings

/-! ## The complaint about the address -/

namespace Session

theorem notice?_report (format : Report.Format) (received : Except IntakeError Bytes) :
    (report format received).notice? = none := by
  cases received <;> rfl

section

variable {host : Settings.Host} {isPattern : String → Bool} {w : Surroundings}
  {a : CommandLine.Arguments} {loaded : Settings} {port : Nat}

/-- With a port, a run goes on to listen on the address, or complains of it. -/
theorem plan_of_port {ip : IpAddress} (h : Configured host w a loaded)
    (hkeeps : logFilterTears isPattern w (override a loaded) = false)
    (hport : a.port? = some port)
    (haddress : IpAddress.ofChars? loaded.bindAddress.toList = some ip) :
    plan w host isPattern = .takeFrom (.listener ip port) (override a loaded).format := by
  have hsource : source a.port? (override a loaded) = .ok (.listener ip port) := by
    rw [hport]
    simp only [source, override, haddress]
  rw [plan, h.arguments]
  simp only [prepare, h.settings, hkeeps, hsource]
  rfl

theorem complains_iff (h : Configured host w a loaded)
    (hkeeps : logFilterTears isPattern w (override a loaded) = false)
    (hport : a.port? = some port) (receive : Source → Except IntakeError Bytes) :
    (∃ address, (run w receive host isPattern).notice? = some (.badBindAddress address)) ↔
      IpAddress.ofChars? loaded.bindAddress.toList = none := by
  cases haddress : IpAddress.ofChars? loaded.bindAddress.toList with
  | none =>
    rw [run_of_port receive h hkeeps hport haddress]
    exact iff_of_true ⟨_, rfl⟩ rfl
  | some ip =>
    rw [run, plan_of_port h hkeeps hport haddress]
    simp only [notice?_report, reduceCtorEq, exists_false]

end

/-- A variable with any text for the address to listen on, where the settings load with some
text in its place and no other variable changes the address: they load with this text too and
differ in the address only, which is an address exactly if the text is one, and then is the
text. With a port the run complains about the address if the text is none, and listens on it
if it is one. -/
theorem bindAddress_of_variable {file : Settings.File} {before after : List Settings.Variable}
    {host : Settings.Host} {name old : String} {s : Settings}
    (hname : Settings.Variable.key? name = some Settings.Key.bindAddress.fullName)
    (hbefore : Settings.OnlyOwn .bindAddress before) (hafter : Settings.Spare .bindAddress after)
    (hload : Settings.load file (before ++ (name, old) :: after) host = .ok s) (text : String) :
    ∃ address, Settings.load file (before ++ (name, text) :: after) host =
        .ok { s with bindAddress := address } ∧
      IpAddress.ofChars? address.toList = IpAddress.ofChars? text.toList ∧
      (∀ ip, IpAddress.ofChars? text.toList = some ip → address = text) ∧
      ∀ (isPattern : String → Bool) (w : Surroundings) (a : CommandLine.Arguments) (port : Nat),
        w.environment = before ++ (name, text) :: after →
        CommandLine.parse w.arguments = .ok (.run a) → settingsFile w.file? a.config? = file →
        a.port? = some port → logFilterTears isPattern w (override a s) = false →
        (∀ receive, (∃ shown,
            (run w receive host isPattern).notice? = some (.badBindAddress shown)) ↔
          IpAddress.ofChars? text.toList = none) ∧
        ∀ ip, IpAddress.ofChars? text.toList = some ip →
          plan w host isPattern = .takeFrom (.listener ip port) (override a s).format := by
  obtain ⟨address, hloaded, haddress, hverbatim⟩ :=
    Settings.load_bindAddress hname hbefore hafter hload text
  refine ⟨address, hloaded, haddress, hverbatim, ?_⟩
  intro isPattern w a port henvironment harguments hfile hport hkeeps
  have h : Configured host w a { s with bindAddress := address } :=
    ⟨harguments, by rw [hfile, henvironment, hloaded]⟩
  -- The log filter and the form of report are of settings that the variable does not change.
  have hkeeps' : logFilterTears isPattern w (override a { s with bindAddress := address }) =
      false := hkeeps
  refine ⟨fun receive => ?_, fun ip hip => ?_⟩
  · rw [complains_iff h hkeeps' hport receive, haddress]
  · have hplan := plan_of_port h hkeeps' hport (haddress.trans hip)
    exact hplan

/-- A port, and an address that reads as a number, between variables that spare it. -/
def numericAddress : Surroundings where
  arguments := ["8443"]
  environment := [("PP2_LOG__LEVEL", "debug"), ("PP2_INPUT__BIND_ADDRESS", "1.10"),
    ("PP2_INPUT__TIMEOUT", "30")]
  file? := fun _ => none

/-- The address is written out as another number, and is none before and after. -/
theorem bindAddress_of_variable_numericAddress :
    Settings.load .notGiven numericAddress.environment = .ok ⟨"1.1", 30, "debug", .text⟩ ∧
      ∀ receive, ∃ shown, (run numericAddress receive).notice? = some (.badBindAddress shown) := by
  have hname : Settings.Variable.key? "PP2_INPUT__BIND_ADDRESS" =
      some Settings.Key.bindAddress.fullName := by
    decide +kernel
  have hlevel : Settings.Variable.key? "PP2_LOG__LEVEL" =
      some Settings.Key.level.fullName := by
    decide +kernel
  have htimeout : Settings.Variable.key? "PP2_INPUT__TIMEOUT" =
      some Settings.Key.timeout.fullName := by
    decide +kernel
  have hbefore : Settings.Spare .bindAddress [("PP2_LOG__LEVEL", "debug")] :=
    .singleton hlevel (by decide +kernel) "debug"
  have hafter : Settings.Spare .bindAddress [("PP2_INPUT__TIMEOUT", "30")] :=
    .singleton htimeout (by decide +kernel) "30"
  have hload : Settings.load .notGiven ([("PP2_LOG__LEVEL", "debug")] ++
      ("PP2_INPUT__BIND_ADDRESS", "0.0.0.0") :: [("PP2_INPUT__TIMEOUT", "30")]) =
        .ok ⟨"0.0.0.0", 30, "debug", .text⟩ :=
    Settings.eq_ok_of_toOption (by decide +kernel)
  have harguments : CommandLine.parse numericAddress.arguments =
      .ok (.run ⟨none, none, none, none, some 8443⟩) := by
    decide +kernel
  obtain ⟨address, -, -, -, hrun⟩ :=
    bindAddress_of_variable hname hbefore.onlyOwn hafter hload "1.10"
  have hkeeps : logFilterTears (fun _ => true) numericAddress ⟨"0.0.0.0", 30, "debug", .text⟩ =
      false := by
    decide +kernel
  obtain ⟨hcomplains, -⟩ := hrun _ numericAddress _ 8443 rfl harguments rfl rfl hkeeps
  refine ⟨Settings.eq_ok_of_toOption (by decide +kernel), fun receive => ?_⟩
  exact (hcomplains receive).mpr (by decide +kernel)

end Session

end ProxyHeader
