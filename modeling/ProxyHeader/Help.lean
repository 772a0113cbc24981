import ProxyHeader.CommandLine
import ProxyHeader.Entries

/-!
# Help

The answer to a request for help shows how the program is called and what each argument
does. Headings, and words that are typed as they stand, may be set off by the styles of a
terminal; `Help.text` gives the answer with styles or without, and the words are the same.

Output that goes to no terminal has styles only if the environment forces them
(`Help.isStyled`).
-/

namespace ProxyHeader

namespace Help

/-! ## Styles -/

/-- How a piece of text is set off. -/
inductive Style where
  | plain
  /-- Bold, for what is typed as it stands. -/
  | literal
  /-- Bold and underlined. -/
  | heading
  deriving Repr, DecidableEq

/-- The control sequence that selects a rendition by its number. -/
def rendition (number : String) : String :=
  "\x1b[" ++ number ++ "m"

/-- What switches a style on. -/
def Style.opening : Style → String
  | plain => ""
  | literal => rendition "1"
  | heading => rendition "1" ++ rendition "4"

/-- What switches a style off. -/
def Style.closing : Style → String
  | plain => ""
  | literal | heading => rendition "0"

/-- A piece of text in one style. -/
structure Span where
  style : Style
  text : String
  deriving Repr, DecidableEq

/-- A piece of text as it is written. -/
def Span.render (styled : Bool) (s : Span) : String :=
  if styled then s.style.opening ++ s.text ++ s.style.closing else s.text

theorem Span.render_false (s : Span) : s.render false = s.text :=
  rfl

/-- Text that is not set off reads the same with styles and without. -/
theorem Span.render_plain (styled : Bool) (t : String) : Span.render styled ⟨.plain, t⟩ = t := by
  cases styled <;> simp [Span.render, Style.opening, Style.closing]

/-! ## Options -/

/-- What help says about an option. -/
structure Topic where
  letter : Char
  name : String
  /-- What stands for the value, if there is one. -/
  value? : Option String
  about : String
  deriving Repr, DecidableEq

namespace Topic

/-- How an option is written, letter and name. -/
def spans (t : Topic) : List Span :=
  [⟨.literal, String.ofList ['-', t.letter]⟩, ⟨.plain, ", "⟩, ⟨.literal, "--" ++ t.name⟩,
    ⟨.plain, (t.value?.map fun v => " <" ++ v ++ ">").getD ""⟩]

/-- How many characters it takes to write an option. -/
def width (t : Topic) : Nat :=
  (String.join (t.spans.map (·.text))).length

/-- The line about an option, in a list whose widest option takes `widest` characters. -/
def line (widest : Nat) (t : Topic) : List Span :=
  ⟨.plain, "  "⟩ :: t.spans ++
    [⟨.plain, String.ofList (List.replicate (widest - t.width + 2) ' ')⟩, ⟨.plain, t.about⟩]

end Topic

/-- All options, in the order in which help lists them. -/
def topics : List Topic :=
  [⟨'c', "config", some "CONFIG", "TOML configuration file"⟩,
   ⟨'f', "format", some "FORMAT", "Report format [possible values: text, json]"⟩,
   ⟨'t', "timeout", some "TIMEOUT", "Seconds to wait for the header (0 waits forever)"⟩,
   ⟨'l', "log-level", some "LOG_LEVEL",
     "Log filter, e.g. \"info\" or \"proxy_v2_inspect=debug\""⟩,
   ⟨'h', "help", none, "Print help"⟩,
   ⟨'V', "version", none, "Print version"⟩]

open CommandLine in
/-- The command line understands every option that help lists, by its name as by its letter, and
takes a value where help shows one. -/
theorem topics_understood :
    ∀ t ∈ topics, ∃ s, Switch.ofName? t.name = some s ∧ Switch.ofLetter? t.letter = some s ∧
      (t.value?.isSome ↔ ∃ o, s = .setting o) := by
  simp [topics, Switch.ofName?, Switch.ofLetter?]

/-! ## Answers -/

/-- The name of the program. -/
def programName : String := "parse_proxy_v2"

/-- The answer to a request for the version. -/
def versionText : String :=
  programName ++ " 0.0.0-dev\n"

/-- The lines of the answer to a request for help. -/
def lines : List (List Span) :=
  [[⟨.plain, "Parse a PROXY protocol v2 header"⟩],
   [],
   [⟨.heading, "Usage:"⟩, ⟨.plain, " "⟩, ⟨.literal, programName⟩, ⟨.plain, " [OPTIONS] [PORT]"⟩],
   [],
   [⟨.heading, "Arguments:"⟩],
   [⟨.plain, "  [PORT]  "⟩,
    ⟨.plain, "Listen on this port and parse the first connection; reads stdin when omitted"⟩],
   [],
   [⟨.heading, "Options:"⟩]] ++
  topics.map (Topic.line ((topics.map Topic.width).foldl max 0))

/-- The answer to a request for help. -/
def text (styled : Bool) : String :=
  String.join (lines.map fun spans => String.join (spans.map (Span.render styled)) ++ "\n")

/-! ## When to style -/

/-- Whether a variable is set to a text that is not empty. -/
def isSet (name : String) (environment : List (String × String)) : Bool :=
  ((Entries.get? name environment).filter (· != "")).isSome

/-- Whether an environment forces styles on output that goes to no terminal. Setting
`CLICOLOR_FORCE` does, to whatever text, and setting `NO_COLOR` takes it back. -/
def isStyled (environment : List (String × String)) : Bool :=
  isSet "CLICOLOR_FORCE" environment && !isSet "NO_COLOR" environment

end Help

end ProxyHeader
