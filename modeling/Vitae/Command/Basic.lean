import Vitae.Template.Basic

/-! What the program can be told to do, and the ways in which its arguments can make no sense. -/

namespace Vitae

inductive Command where
  | list (category : Option Category) (catalog json : Bool)
  | css (key : String)
  | preview (key : String) (raw : Bool)
  | html (key resume : String)
  | document (key resume : String) (print : Bool) (title : Option String)
  | stats
  deriving DecidableEq, Repr

/-- The file with the résumé that a command shows, if it shows one. -/
def Command.resume? : Command → Option String
  | html _ resume | document _ resume _ _ => some resume
  | _ => none

structure Invocation where
  templates : List String
  noPrefix : Bool
  command : Command
  deriving DecidableEq, Repr

namespace Invocation

/-- All files that it reads, in order. -/
def files (inv : Invocation) : List String := inv.templates ++ inv.command.resume?.toList

end Invocation

/-- An option of the command line. -/
inductive Switch where
  | templates
  | noPrefix
  | category
  | fallback
  | json
  | raw
  | resume
  | print
  | title
  deriving DecidableEq, Repr

namespace Switch

def long : Switch → String
  | templates => "templates"
  | noPrefix => "no-prefix"
  | category => "category"
  | fallback => "fallback"
  | json => "json"
  | raw => "raw"
  | resume => "resume"
  | print => "print"
  | title => "title"

def short? : Switch → Option Char
  | templates => some 't'
  | category => some 'c'
  | resume => some 'r'
  | _ => none

def takesValue : Switch → Bool
  | templates | category | resume | title => true
  | noPrefix | fallback | json | raw | print => false

/-- A path is never empty, and a category must be one of the four. -/
def accepts (s : Switch) (value : String) : Bool :=
  match s with
  | templates | resume => value ≠ ""
  | category => (Category.ofName? value).isSome
  | _ => true

/-- These may stand before the command, too. -/
def shared : List Switch := [templates, noPrefix]

end Switch

inductive UsageError where
  | noCommand
  | unknownCommand (name : String)
  | unknownOption (argument : String)
  | missingValue (s : Switch)
  | unexpectedValue (s : Switch)
  | badValue (s : Switch) (value : String)
  | repeated (s : Switch)
  | missing (what : String)
  | unexpected (argument : String)
  deriving DecidableEq, Repr

namespace UsageError

def message : UsageError → String
  | noCommand => "a command is needed: list, css, preview, html, document or stats"
  | unknownCommand name => "no such command: " ++ name
  | unknownOption argument => "no such option here: " ++ argument
  | missingValue s => "a value is needed for --" ++ s.long
  | unexpectedValue s => "no value is allowed for --" ++ s.long
  | badValue s value => "not a value for --" ++ s.long ++ ": " ++ value
  | repeated s => "more than once: --" ++ s.long
  | missing what => "missing: " ++ what
  | unexpected argument => "unexpected argument: " ++ argument

end UsageError

end Vitae
