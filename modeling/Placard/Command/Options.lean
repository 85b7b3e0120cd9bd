/-
# Options of the command line

The options that take a value, the commands that they belong to, and what their values mean.  An
option may be given once, except the one for the values of a request, all of which are kept in their
order.
-/
import Placard.Number.Reader
import Placard.Payload
import Placard.Text.Blank
import Placard.Text.Quoted

namespace Placard

/-- What the program can be told to do. -/
inductive Command where
  | serve
  | render
  | showConfig
  deriving DecidableEq

/-- An option that takes a value. -/
inductive Flag where
  | config
  | logLevel
  | listen
  | concurrency
  | template
  | value
  | width
  | format
  | out
  deriving DecidableEq

def Flag.name : Flag → String
  | config => "config"
  | logLevel => "log-level"
  | listen => "listen"
  | concurrency => "concurrency"
  | template => "template"
  | value => "value"
  | width => "width"
  | format => "format"
  | out => "out"

/-- The options that belong to no command and may stand before it and after it. -/
def Flag.common : List Flag := [.config, .logLevel]

namespace Command

def all : List Command := [serve, render, showConfig]

def name : Command → String
  | serve => "serve"
  | render => "render"
  | showConfig => "show-config"

def flags : Command → List Flag
  | serve => [.listen, .concurrency]
  | render => [.template, .value, .width, .format, .out]
  | showConfig => []

end Command

/-- Why a command line cannot be understood. -/
inductive UsageError where
  | unexpected (argument : String)
  | missing (name : String)
  | repeated (flag : Flag)
  | invalid (flag : Flag) (text : String)
  /-- The value of a request is not a key and what belongs to it. -/
  | keyValue (text : String)

def UsageError.wording : UsageError → String
  | unexpected argument => "unexpected argument " ++ Text.quoted argument
  | missing name => "missing argument: " ++ name
  | repeated flag => s!"the option --{flag.name} is given twice"
  | invalid flag text => s!"invalid value {Text.quoted text} for --{flag.name}"
  | keyValue text => "expected KEY=VALUE, got " ++ Text.quoted text

/-- The options that have been given. -/
structure Options where
  config : Option String := none
  logLevel : Option String := none
  listen : Option String := none
  concurrency : Option Nat := none
  template : Option String := none
  values : List (String × String) := []
  width : Option Nat := none
  format : Option ImageFormat := none
  out : Option String := none

namespace Options

/-! ## Values of options -/

def path? (s : String) : Option String := if s.isEmpty then none else some s

def width? (s : String) : Option Nat :=
  (Number.whole? s.toList).bind fun n => if 0 ≤ n ∧ n < UInt32.size then some n.toNat else none

/-- The key and the value of a request in a text: the key is what comes before the first equals
sign, without the blanks at its ends, and is not empty. -/
def keyValue? (s : String) : Option (String × String) :=
  let key := Text.trimList (s.toList.takeWhile (· ≠ '='))
  match s.toList.dropWhile (· ≠ '=') with
  | [] => none
  | _ :: value => if key.isEmpty then none else some (String.ofList key, String.ofList value)

/-- The value of an option that may be given once. -/
def once {α : Type} (flag : Flag) (present : Option α) (read : String → Option α) (text : String) :
    Except UsageError (Option α) :=
  if present.isSome then .error (.repeated flag)
  else
    match read text with
    | some a => .ok (some a)
    | none => .error (.invalid flag text)

/-- The options with one more. -/
def take (o : Options) (flag : Flag) (text : String) : Except UsageError Options :=
  match flag with
  | .config => return { o with config := ← once flag o.config path? text }
  | .logLevel => return { o with logLevel := ← once flag o.logLevel some text }
  | .listen => return { o with listen := ← once flag o.listen some text }
  | .concurrency =>
    return { o with concurrency := ← once flag o.concurrency (Number.natural? UInt64.size) text }
  | .template => return { o with template := ← once flag o.template path? text }
  | .value =>
    match keyValue? text with
    | some pair => .ok { o with values := o.values ++ [pair] }
    | none => .error (.keyValue text)
  | .width => return { o with width := ← once flag o.width width? text }
  | .format => return { o with format := ← once flag o.format ImageFormat.ofName? text }
  | .out => return { o with out := ← once flag o.out path? text }

/-- The options given after a command, with the common ones given before it where they say
nothing. -/
def after (inner outer : Options) : Options :=
  { inner with
    config := inner.config <|> outer.config
    logLevel := inner.logLevel <|> outer.logLevel }

end Options
end Placard
