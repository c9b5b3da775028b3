import LayoutAudit.Browser.Kind
import LayoutAudit.Listing
import LayoutAudit.Text.Character

/-!
# CommandLine.Flag — what can be said on a command line

* `CommandLine.Command` — what the program can be asked to do;
* `CommandLine.Flag` — what can be said about it, with `Flag.long`, `Flag.short` and `Flag.use`;
* `Flag.accepts` — the values of a flag;
* `Command.flags` — what can be said about a command.
-/

namespace LayoutAudit
namespace CommandLine

/-- What the program can be asked to do. -/
inductive Command where
  /-- Carries out a plan and prints the reports. -/
  | run
  /-- Lists the entries of a plan. -/
  | plan
  /-- Lists viewports, or groups of them. -/
  | viewports
  /-- Lists the standard specs. -/
  | specs
  deriving DecidableEq, Repr, Inhabited

namespace Command

def name : Command → String
  | run => "run"
  | plan => "plan"
  | viewports => "viewports"
  | specs => "specs"

def all : List Command := [run, plan, viewports, specs]

def ofName? (name : String) : Option Command := all.find? (·.name == name)

end Command

/-- Something that can be said besides the command. -/
inductive Flag where
  | config
  | format
  | verbose
  | help
  | version
  | viewports
  | scenario
  | workers
  | serve
  | baseUrl
  | port
  | browser
  | headed
  | pretty
  | groups
  | resolve
  deriving DecidableEq, Repr, Inhabited

namespace Flag

/-- The long name, which follows two dashes. -/
def long : Flag → String
  | config => "config"
  | format => "format"
  | verbose => "verbose"
  | help => "help"
  | version => "version"
  | viewports => "viewports"
  | scenario => "scenario"
  | workers => "workers"
  | serve => "serve"
  | baseUrl => "base-url"
  | port => "port"
  | browser => "browser"
  | headed => "headed"
  | pretty => "pretty"
  | groups => "groups"
  | resolve => "resolve"

/-- The short name, which follows one dash. -/
def short : Flag → Option Char
  | config => some 'c'
  | verbose => some 'v'
  | help => some 'h'
  | version => some 'V'
  | scenario => some 's'
  | workers => some 'j'
  | _ => none

inductive Use where
  /-- Without a value, once. -/
  | switch
  /-- With a value, once. -/
  | single
  /-- With a value, as often as one likes. -/
  | repeated
  deriving DecidableEq, Repr

def use : Flag → Use
  | viewports | scenario => .repeated
  | config | format | workers | serve | baseUrl | port | browser => .single
  | verbose | help | version | headed | pretty | groups | resolve => .switch

def takesValue (f : Flag) : Bool := f.use != .switch

/-- A number without a sign, or with a plus. -/
def natural? (s : String) : Option Nat :=
  match s.toList with
  | '+' :: cs => plain cs
  | cs => plain cs
where
  plain (cs : List Char) : Option Nat := if cs.all Char.isDigit then Text.digits? 10 cs else none

def workers? (s : String) : Option Nat := (natural? s).filter (· < UInt64.size)

/-- The port that a value gives; zero may be negative. -/
def port? (s : String) : Option Nat :=
  match s.toList with
  | '-' :: cs => (natural?.plain cs).filter (· = 0)
  | _ => (natural? s).filter (· < 65536)

def format? (s : String) : Option Listing.Format := Listing.Format.all.find? (·.name == s)

def accepts (f : Flag) (value : String) : Bool :=
  match f with
  | config | serve => !value.isEmpty
  | format => (format? value).isSome
  | workers => (workers? value).isSome
  | port => (port? value).isSome
  | browser => (BrowserKind.ofName? value).isSome
  | _ => true

/-- What can be said about every command. -/
def shared : List Flag := [config, format, verbose, help, version]

def overlaid : List Flag :=
  [viewports, scenario, workers, serve, baseUrl, port, browser, headed, pretty]

end Flag

def Command.flags : Command → List Flag
  | .run => Flag.shared ++ Flag.overlaid
  | .plan => Flag.shared ++ Flag.overlaid
  | .viewports => Flag.shared ++ [.groups, .resolve] ++ Flag.overlaid
  | .specs => Flag.shared

end CommandLine
end LayoutAudit
