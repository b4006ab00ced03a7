import Candidacy.CommandLine.Fault
import Candidacy.CommandLine.Option
import Candidacy.Text.Similar
import Candidacy.Text.Sorted

/-!
# Arguments

How a list of arguments divides into options and plain arguments. Two dashes alone end the options.
Where options and plain arguments may not mix, the first plain argument ends the options too. Reading
stops at the first fault, and what has not been read by then is known.
-/

namespace Candidacy.CommandLine

/-- The options in one argument: those that are complete, and one that waits for its value. -/
structure Given where
  complete : List Setting
  waiting : Option (Choice × String)

/-- Why reading stopped, and the arguments that were not read by then. -/
structure Stop where
  why : UsageFault
  unread : List String
  deriving DecidableEq, Repr

structure Arguments where
  settings : List Setting
  plain : List String
  deriving DecidableEq, Repr

namespace Given

/-- The option with a long name, and the text behind its equals sign if there is one. -/
def ofLong (rule : OptionRule) (value : Option String) : Except UsageFault Given :=
  match rule.takesValue, value with
  | true, some v => .ok ⟨[⟨rule.choice, v⟩], none⟩
  | true, none => .ok ⟨[], some (rule.choice, rule.name)⟩
  | false, some _ => .error (.valueUnwanted rule.name)
  | false, none => .ok ⟨[⟨rule.choice, ""⟩], none⟩

/-- The options whose letters follow each other behind one dash. -/
def ofLetters (rules : List OptionRule) : List Char → Except UsageFault Given
  | [] => .ok ⟨[], none⟩
  | c :: cs =>
    let name := String.ofList ['-', c]
    match rules.find? (·.letter == some c) with
    | none => .error (.optionUnknown name [])
    | some rule =>
      if rule.takesValue then
        .ok (if cs = [] then ⟨[], some (rule.choice, name)⟩
          else ⟨[⟨rule.choice, String.ofList cs⟩], none⟩)
      else do
        let rest ← ofLetters rules cs
        return { rest with complete := ⟨rule.choice, ""⟩ :: rest.complete }

def splitValue (cs : List Char) : List Char × Option (List Char) :=
  (cs.takeWhile (· != '='), (cs.dropWhile (· != '=')).tail?)

def ofArgument (rules : List OptionRule) (argument : String) : Except UsageFault Given :=
  let (name, value) := splitValue argument.toList
  let name := String.ofList name
  match rules.find? (·.name == name) with
  | some rule => ofLong rule (value.map String.ofList)
  | none =>
    if argument.startsWith "--" then
      .error (.optionUnknown name (Text.sorted (Text.suggestions name (rules.map (·.name)))))
    else ofLetters rules argument.toList.tail

end Given

namespace Arguments

/-- Whether an argument is read as options: it starts with a dash and goes on. -/
def isOption (argument : String) : Bool :=
  argument.startsWith "-" && argument != "-"

def after (settings : List Setting) (a : Arguments) : Arguments :=
  { a with settings := settings ++ a.settings }

/-- The arguments taken apart; `mixed` says whether options may follow plain arguments. -/
def read (rules : List OptionRule) (mixed : Bool) : List String → Except Stop Arguments
  | [] => .ok ⟨[], []⟩
  | argument :: rest =>
    if argument = "--" then .ok ⟨[], rest⟩
    else if isOption argument then
      match Given.ofArgument rules argument with
      | .error why => .error ⟨why, rest⟩
      | .ok ⟨complete, none⟩ => (after complete ·) <$> read rules mixed rest
      | .ok ⟨complete, some (choice, name)⟩ =>
        match rest with
        | [] => .error ⟨.valueMissing name, []⟩
        | value :: rest => (after (complete ++ [⟨choice, value⟩]) ·) <$> read rules mixed rest
    else if mixed then do
      let a ← read rules mixed rest
      return { a with plain := argument :: a.plain }
    else .ok ⟨[], argument :: rest⟩

def values (a : Arguments) (choice : Choice) : List String :=
  a.settings.filterMap fun s => if s.choice = choice then some s.value else none

def has (a : Arguments) (choice : Choice) : Bool := a.settings.any (·.choice == choice)

end Arguments

end Candidacy.CommandLine
