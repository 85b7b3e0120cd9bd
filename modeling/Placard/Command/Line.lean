/-
# Command lines

A command line names one command, with options before it and after it.  The value of an option is
the rest of its argument after an equals sign, or the next argument, which is taken in when the
option after it begins or the arguments end.  So the first fault that is found is not always the
first one in the line: an argument that has no place here is found before the value in front of it
is looked at.
-/
import Placard.Command.Options

namespace Placard

/-- What help can be had about. -/
inductive Topic where
  | program
  | command (c : Command)
  | help
  deriving DecidableEq

namespace Topic

/-- The topic that a word names after the program. -/
def ofWord? (word : String) : Option Topic :=
  if word = "help" then some help else (Command.all.find? (·.name = word)).map command

/-- The options that can be given where the topic is. -/
def flags : Topic → List Flag
  | program => Flag.common
  | command c => Flag.common ++ c.flags
  | help => []

end Topic

/-- Why a command line comes to an end before a command is carried out. -/
inductive Stop where
  | help (topic : Topic)
  | version
  | usage (e : UsageError)

/-- An argument by its shape. -/
inductive Argument where
  /-- Two hyphens: all that follows are words. -/
  | escape
  | long (name : String) (value : Option String)
  | short (letter : Char)
  | word (text : String)

def Argument.ofText (s : String) : Argument :=
  match s.toList with
  | ['-', '-'] => escape
  | '-' :: '-' :: cs =>
    long (String.ofList (cs.takeWhile (· ≠ '='))) <|
      match cs.dropWhile (· ≠ '=') with
      | [] => none
      | _ :: value => some (String.ofList value)
  | '-' :: letter :: _ => short letter
  | _ => word s

/-- What has been read of the options at one place of a command line. -/
structure Pass where
  options : Options := {}
  /-- The option that is not taken in yet, and its value if that has come. -/
  pending : Option (Flag × Option String) := none

namespace Pass

/-- Fails for want of a meaning. -/
def reject {α : Type} (e : UsageError) : Except Stop α := .error (.usage e)

/-- The options, with the pending one taken in. -/
def settle (p : Pass) : Except Stop Options :=
  match p.pending with
  | none => .ok p.options
  | some (flag, none) => reject (.missing ("--" ++ flag.name))
  | some (flag, some text) => (p.options.take flag text).mapError .usage

/-- Ends the reading once the pending option is in order. -/
def stop {α : Type} (p : Pass) (s : Stop) : Except Stop α := p.settle >>= fun _ => .error s

def long (place : Topic) (p : Pass) (name : String) (value : Option String) : Except Stop Pass :=
  match place.flags.find? (·.name = name), value with
  | some flag, none => do return ⟨← p.settle, some (flag, none)⟩
  | some flag, some text => do
    let options ← p.settle
    return ⟨← (options.take flag text).mapError .usage, none⟩
  | none, none =>
    if name = "help" then p.stop (.help place)
    else if name = "version" ∧ place = .program then p.stop .version
    else reject (.unexpected ("--" ++ name))
  | none, some _ => reject (.unexpected ("--" ++ name))

def short (place : Topic) (p : Pass) (letter : Char) : Except Stop Pass :=
  if letter = 'h' then p.stop (.help place)
  else if letter = 'V' ∧ place = .program then p.stop .version
  else reject (.unexpected ("-" ++ String.singleton letter))

/-- Reads the options at a place up to the end or up to a word that leads to another place, and
returns what is left from there. -/
def run (place : Topic) : Pass → List String → Except Stop (Pass × List String)
  | p, [] => .ok (p, [])
  | p, arg :: rest =>
    match Argument.ofText arg with
    | .escape =>
      match rest with
      | [] => .ok (p, [])
      | extra :: _ => reject (.unexpected extra)
    | .long name value => do run place (← p.long place name value) rest
    | .short letter => do run place (← p.short place letter) rest
    | .word text =>
      match p.pending with
      | some (flag, none) => run place { p with pending := some (flag, some text) } rest
      | _ =>
        if place = .program ∧ (Topic.ofWord? text).isSome then .ok (p, arg :: rest)
        else reject (.unexpected text)

end Pass

/-- An order to render a template into a file. -/
structure RenderOrder where
  template : String
  values : List (String × String)
  width : Nat
  format : ImageFormat
  out : String

inductive Job where
  | serve (listen : Option String) (concurrency : Option Nat)
  | render (order : RenderOrder)
  | showConfig

structure CommandLine where
  config : String
  logLevel : Option String
  job : Job

namespace CommandLine

/-- The value of an option that a command cannot do without. -/
def required {α : Type} (flag : Flag) : Option α → Except Stop α
  | some a => .ok a
  | none => Pass.reject (.missing ("--" ++ flag.name))

/-- The job of a command with the options given for it. -/
def jobOf (o : Options) : Command → Except Stop Job
  | .serve => .ok (.serve o.listen o.concurrency)
  | .showConfig => .ok .showConfig
  | .render => do
    return .render {
      template := ← required .template o.template
      values := o.values
      width := o.width.getD 0
      format := o.format.getD .jpeg
      out := ← required .out o.out }

/-- The help that words after the command for help ask for. -/
def helpStop : List String → Stop
  | [] => .help .program
  | [word] =>
    match Topic.ofWord? word with
    | some topic => .help topic
    | none => .usage (.unexpected word)
  | _ :: word :: _ => .usage (.unexpected word)

/-- What the arguments after the name of the program say. -/
def read (args : List String) : Except Stop CommandLine := do
  let (outer, left) ← Pass.run .program {} args
  match left with
  | [] => Pass.reject (.missing "a command")
  | word :: rest =>
    match Topic.ofWord? word with
    | some (.command c) =>
      let (inner, _) ← Pass.run (.command c) {} rest
      let inner ← inner.settle
      let job ← jobOf inner c
      let options := inner.after (← outer.settle)
      return ⟨options.config.getD "config.yaml", options.logLevel, job⟩
    | _ => throw (helpStop rest)

end CommandLine
end Placard
