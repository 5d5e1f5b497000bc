import PartSourcing.Decimal.Reader
import PartSourcing.Requirement

/-!
# Command lines

What the words of a command line ask for. Options stand before or behind what they belong to,
in a long or a short spelling, with their value in the same word or in the next one; two hyphens
end them. A value in a word of its own cannot start with a hyphen, unless it is nothing else.

Who asks for help or for the version gets it, if what stands before makes sense; what stands
behind is not read, and nothing needs to be complete.
-/

namespace PartSourcing.Command

open PartSourcing.Decimal

/-- What a command line asks for. -/
inductive Task where
  | search (requirement : Requirement)
  | history (part : String)
  | sources
  | initConfig (force : Bool)
  | version
  | help

/-- The task, and the configuration file if one is named. -/
structure Arguments where
  configFile : Option String := none
  task : Task

/-- The options of one command. -/
structure Options where
  /-- Options with a value, by their long names, and the letters of those that have one. -/
  valued : List (String × Option Char)
  /-- Options without a value. -/
  switches : List (String × Option Char)

/-- What one word, or two, of a command line turn out to be. -/
inductive Item where
  | option (name value : String)
  | switch (name : String)
  | word (s : String)
  deriving DecidableEq

/-- The switch that asks for help. -/
def helpSwitch : String × Option Char := ("help", some 'h')

/-- The switch that asks for the version. -/
def versionSwitch : String × Option Char := ("version", some 'V')

/-- Whether nothing is read behind an item. -/
def isFinal (i : Item) : Bool := i = .switch helpSwitch.1 || i = .switch versionSwitch.1

/-- Whether a word is a value of its own and not an option. -/
def isPlain (s : String) : Bool := s = "-" || !s.startsWith "-"

/-- The option of a letter. -/
def ofLetter? (options : List (String × Option Char)) (c : Char) : Option String :=
  (options.find? (·.2 == some c)).map (·.1)

/-- The parts of a word before and after the first equals sign. -/
def splitValue (s : List Char) : String × Option String :=
  match s.dropWhile (· != '=') with
  | [] => (String.ofList s, none)
  | _ :: value => (String.ofList (s.takeWhile (· != '=')), some (String.ofList value))

/-- The options in a word of letters; an option with a value takes the rest of the word. The
flag says that the last option still lacks its value. -/
def letters? (o : Options) : List Char → Option (List Item × Option String)
  | [] => some ([], none)
  | c :: s =>
    match ofLetter? o.valued c with
    | some name =>
      match s with
      | [] => some ([], some name)
      | '=' :: value | value => some ([.option name (String.ofList value)], none)
    | none =>
      (ofLetter? o.switches c).bind fun name =>
        if isFinal (.switch name) then some ([.switch name], none)
        else (letters? o s).map fun (items, rest) => (.switch name :: items, rest)

/-- The items of a command line; `none` if a word is no option of the command, or an option
lacks its value. With `stop`, the first plain word ends it, and comes last with the words behind
it. -/
def items? (o : Options) (stop : Bool) : List String → Option (List Item × List String)
  | [] => some ([], [])
  | w :: ws =>
    if w = "--" then some (ws.map .word, [])
    else if isPlain w then
      if stop then some ([], w :: ws)
      else (items? o stop ws).map fun (items, rest) => (.word w :: items, rest)
    else
      match w.toList with
      | '-' :: '-' :: long =>
        match splitValue long with
        | (name, some value) =>
          if o.valued.any (·.1 == name) then
            (items? o stop ws).map fun (items, rest) => (.option name value :: items, rest)
          else none
        | (name, none) =>
          if o.valued.any (·.1 == name) then
            match ws with
            | value :: ws =>
              if isPlain value then
                (items? o stop ws).map fun (items, rest) => (.option name value :: items, rest)
              else none
            | [] => none
          else if o.switches.any (·.1 == name) then
            if isFinal (.switch name) then some ([.switch name], [])
            else (items? o stop ws).map fun (items, rest) => (.switch name :: items, rest)
          else none
      | _ :: short =>
        (letters? o short).bind fun (first, open_) =>
          match open_, ws with
          | none, ws =>
            if first.any isFinal then some (first, [])
            else (items? o stop ws).map fun (items, rest) => (first ++ items, rest)
          | some name, value :: ws =>
            if isPlain value then
              (items? o stop ws).map fun (items, rest) =>
                (first ++ .option name value :: items, rest)
            else none
          | some _, [] => none
      | [] => none

/-- The values of an option. -/
def values (items : List Item) (name : String) : List String :=
  items.filterMap fun
    | .option n v => if n = name then some v else none
    | _ => none

/-- The plain words. -/
def words (items : List Item) : List String :=
  items.filterMap fun
    | .word s => some s
    | _ => none

/-- The value of an option that may be given once; `none` if it is given again. -/
def atMostOnce (items : List Item) (name : String) : Option (Option String) :=
  match values items name with
  | [] => some none
  | [v] => some (some v)
  | _ => none

/-- How often a switch is given. -/
def occurrences (items : List Item) (name : String) : Nat := items.count (.switch name)

/-- Whether a switch is given. -/
def has (items : List Item) (switch : String × Option Char) : Bool :=
  0 < occurrences items switch.1

/-- The options before the command. -/
def generalOptions : Options := ⟨[("config", some 'c')], [helpSwitch, versionSwitch]⟩

/-- The options of a search. -/
def searchOptions : Options where
  valued := [("qty", some 'q'), ("sub", none), ("target-price", none), ("currency", none)]
  switches := [helpSwitch]

/-- The options of commands that have none. -/
def noOptions : Options := ⟨[], [helpSwitch]⟩

/-- The options of writing a configuration file. -/
def initOptions : Options := ⟨[], [helpSwitch, ("force", none)]⟩

/-- A number of parts. -/
def quantity? (s : String) : Option UInt32 :=
  (int? s.toList).bind fun n =>
    if 0 ≤ n ∧ n < UInt32.size then some (UInt32.ofNat n.toNat) else none

/-- The value of an option read as it must be, or `usual` if the option is not given. -/
def valueOr? (items : List Item) (name : String) (read? : String → Option α) (usual : α) :
    Option α :=
  (atMostOnce items name).bind fun
    | none => some usual
    | some v => read? v

/-- The one plain word, if there is just one. -/
def onlyWord? (items : List Item) : Option String :=
  match words items with
  | [w] => some w
  | _ => none

/-- The search that some items ask for. -/
def search? (items : List Item) : Option Task := do
  let targetQuantity ← valueOr? items "qty" quantity? 1
  let targetPrice ← valueOr? items "target-price" (fun s => (float? s.toList).map some) none
  let currency ← valueOr? items "currency" some defaultCurrency
  if has items helpSwitch then return .help
  return .search {
    part := ← onlyWord? items
    targetQuantity
    substitutes := values items "sub"
    targetPrice
    currency }

/-- The task of a command with some options and at most so many plain words, `f` reading its
items. -/
def taskOf? (o : Options) (maxWords : Nat) (f : List Item → Option Task) (ws : List String) :
    Option Task :=
  (items? o false ws).bind fun (items, _) =>
    if maxWords < (words items).length then none
    else f items

/-- The same for a command that has nothing to check before it gives help. -/
def simpleTask? (o : Options) (maxWords : Nat) (f : List Item → Option Task) (ws : List String) :
    Option Task :=
  taskOf? o maxWords (fun items => if has items helpSwitch then some .help else f items) ws

/-- Writing a configuration file. -/
def initTask? (items : List Item) : Option Task :=
  let forced := occurrences items "force"
  if 1 < forced then none
  else if has items helpSwitch then some .help
  else some (.initConfig (forced = 1))

/-- The names of the commands. -/
def commands : List String := ["search", "history", "sources", "init-config", "help"]

/-- The task of a command and its words. -/
def task? (command : String) (ws : List String) : Option Task :=
  match command with
  | "search" => taskOf? searchOptions 1 search? ws
  | "history" => simpleTask? noOptions 1 (fun items => (onlyWord? items).map .history) ws
  | "sources" => simpleTask? noOptions 0 (fun _ => some .sources) ws
  | "init-config" => taskOf? initOptions 0 initTask? ws
  | "help" =>
    match ws with
    | [] => some .help
    | [name] => if commands.contains name then some .help else none
    | _ => none
  | _ => none

/-- **What a command line asks for**; `none` if it makes no sense. -/
def arguments? (ws : List String) : Option Arguments := do
  let (items, rest) ← items? generalOptions true ws
  let file ← atMostOnce items "config"
  if file = some "" then none
  else if has items helpSwitch then return { task := .help }
  else if has items versionSwitch then return { task := .version }
  else
    match words items, rest with
    | [], command :: ws => return { configFile := file, task := ← task? command ws }
    | _, _ => none

end PartSourcing.Command
