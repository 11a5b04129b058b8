import CountryLookup.CommandLine.Basic

/-!
# Parsing the command line

Arguments are read from left to right. Options and flags may stand anywhere among the addresses; a
long one may carry its value behind an equals sign, a short one directly, and otherwise the next
argument is the value, whatever it looks like, unless it looks like an option. After a double dash
every argument is an address. The first fault from the left is the one that counts, except that an
option without its value and an option given twice are noticed only when something else is
read or when the arguments end.

The configuration file may be named before the command and after it; the later place wins.

## Main results

* `step_address` — an argument that does not start with a dash is an address where addresses are
  taken.
-/

namespace CountryLookup.CommandLine

/-- The options that take a value. -/
inductive OptionName where
  | config | output
  deriving Repr, DecidableEq

/-- The options that take none. -/
inductive Flag where
  | noRemote | json | help | version
  deriving Repr, DecidableEq

/-- The long and the short name of an option. -/
def OptionName.names : OptionName → String × Char
  | config => ("config", 'c')
  | output => ("output", 'o')

/-- The long name of a flag, and its short name if it has one. -/
def Flag.names : Flag → String × Option Char
  | noRemote => ("no-remote", none)
  | json => ("json", none)
  | help => ("help", some 'h')
  | version => ("version", some 'V')

/-- What is understood at one level: the program itself or one of its commands. -/
structure Level where
  topic : Topic
  options : List OptionName
  flags : List Flag
  takesAddresses : Bool := false
  deriving Repr, DecidableEq

namespace Level

/-- What is understood before the command. -/
def program : Level := ⟨.program, [.config], [.help, .version], false⟩

/-- What is understood behind a command. -/
def ofTopic : Topic → Level
  | .lookup => ⟨.lookup, [.config], [.noRemote, .json, .help], true⟩
  | .configGen => ⟨.configGen, [.config, .output], [.help], false⟩
  | .source => ⟨.source, [.config], [.help], false⟩
  | t => ⟨t, [], [], false⟩

/-- The option of a long name. -/
def option? (l : Level) (name : String) : Option OptionName :=
  l.options.find? fun o => o.names.1 = name

/-- The flag of a long name. -/
def flag? (l : Level) (name : String) : Option Flag := l.flags.find? fun f => f.names.1 = name

/-- The option of a short name. -/
def shortOption? (l : Level) (c : Char) : Option OptionName :=
  l.options.find? fun o => o.names.2 = c

/-- The flag of a short name. -/
def shortFlag? (l : Level) (c : Char) : Option Flag := l.flags.find? fun f => f.names.2 = some c

end Level

/-! ## What has been read -/

/-- The arguments read so far at one level. The option read last is `pending` until its fate is
settled. -/
structure Found where
  values : List (OptionName × String) := []
  pending : Option (OptionName × Option String) := none
  flags : List Flag := []
  addresses : List String := []
  onlyAddresses : Bool := false
  deriving Repr, DecidableEq

namespace Found

/-- The value of an option. -/
def value? (m : Found) (o : OptionName) : Option String := m.values.lookup o

/-- Gives an option its value, once. -/
def setValue (m : Found) (o : OptionName) (v : String) : Except Stop Found :=
  if (m.value? o).isSome then .error .repeated else .ok { m with values := m.values ++ [(o, v)] }

/-- Settles the fate of the pending option. -/
def settle (m : Found) : Except Stop Found :=
  match m.pending with
  | none => .ok m
  | some (_, none) => .error .missingValue
  | some (o, some v) => { m with pending := none }.setValue o v

/-- Reads an option, with its value if that is attached. -/
def addOption (m : Found) (o : OptionName) (attached : Option String) : Except Stop Found := do
  let m ← m.settle
  match attached with
  | some v => m.setValue o v
  | none => .ok { m with pending := some (o, none) }

/-- Reads a flag. Help and version end the parse. -/
def addFlag (m : Found) (t : Topic) (f : Flag) : Except Stop Found := do
  let m ← m.settle
  match f with
  | .help => .error (.help t)
  | .version => .error .version
  | f => if m.flags.contains f then .error .repeated else .ok { m with flags := m.flags ++ [f] }

/-- The option that the next argument is the value of. -/
def waiting (m : Found) : Option OptionName :=
  match m.pending with
  | some (o, none) => if m.onlyAddresses then none else some o
  | _ => none

end Found

/-! ## Arguments -/

/-- Splits a long option at its first equals sign. -/
def splitValue (cs : List Char) : String × Option String :=
  let name := String.ofList (cs.takeWhile (· != '='))
  match cs.dropWhile (· != '=') with
  | [] => (name, none)
  | _ :: v => (name, some (String.ofList v))

/-- Reads a long option or flag, behind its two dashes. -/
def stepLong (l : Level) (m : Found) (cs : List Char) : Except Stop Found :=
  let (name, attached) := splitValue cs
  match l.option? name, l.flag? name with
  | some o, _ => m.addOption o attached
  | none, some f => if attached.isSome then .error .unexpectedValue else m.addFlag l.topic f
  | none, none => .error .unknownArgument

/-- Reads a short option or flag, behind its dash: its name and what stands behind the name. Each
flag with a short name ends the parse. -/
def stepShort (l : Level) (m : Found) (c : Char) (behind : List Char) : Except Stop Found :=
  match l.shortOption? c, l.shortFlag? c with
  | some o, _ =>
    m.addOption o (match behind with
      | [] => none
      | '=' :: v => some (String.ofList v)
      | v => some (String.ofList v))
  | none, some f => m.addFlag l.topic f
  | none, none => .error .unknownArgument

/-- Reads an argument that is no option. -/
def stepPlain (l : Level) (m : Found) (arg : String) : Except Stop Found :=
  if l.takesAddresses then do
    let m ← m.settle
    .ok { m with addresses := m.addresses ++ [arg] }
  else if l.topic = .program then
    if m.onlyAddresses && (Topic.ofName? arg).isSome then .error .unknownArgument
    else .error .unknownCommand
  else .error .unknownArgument

/-- Reads one argument. -/
def step (l : Level) (m : Found) (arg : String) : Except Stop Found :=
  if m.onlyAddresses then stepPlain l m arg
  else match arg.toList with
    | ['-', '-'] => .ok { m with onlyAddresses := true }
    | '-' :: '-' :: cs => stepLong l m cs
    | '-' :: c :: cs => stepShort l m c cs
    | _ =>
      match m.waiting with
      | some o => .ok { m with pending := some (o, some arg) }
      | none => stepPlain l m arg

/-- The command that arguments name, if it stands where a command may stand. -/
def commandHere? (m : Found) (arg : String) : Option Topic :=
  if m.onlyAddresses || m.waiting.isSome then none else Topic.ofName? arg

/-! ## Command lines -/

/-- Reads all arguments of one level. -/
def readLevel (l : Level) (args : List String) : Except Stop Found := do
  (← args.foldlM (step l) {}).settle

/-- The command that is found behind its name. -/
def commandOf (t : Topic) (m : Found) : Except Stop Command :=
  match t with
  | .lookup =>
    if m.addresses.isEmpty then .error .missingAddress
    else .ok (.lookup m.addresses (m.flags.contains .noRemote) (m.flags.contains .json))
  | .configGen => .ok (.configGen (m.value? .output))
  | _ => .ok .source

/-- What help is asked for by the arguments behind the command of that name. -/
def helpTopic : List String → Stop
  | [] => .help .program
  | [arg] =>
    match Topic.ofName? arg with
    | some t => .help t
    | none => .unknownCommand
  | _ => .unknownCommand

/-- Reads a command's own arguments, given what was found before it. -/
def readCommand (before : Found) (t : Topic) (args : List String) : Except Stop Invocation := do
  if t = .help then .error (helpTopic args)
  else
    let m ← readLevel (.ofTopic t) args
    let command ← commandOf t m
    let before ← before.settle
    .ok ⟨((m.value? .config).or (before.value? .config)).getD "config.toml", command⟩

/-- Reads the arguments from the level of the program on. -/
def readProgram (m : Found) : List String → Except Stop Invocation
  | [] => do
    let m ← m.settle
    .error (if m.values.isEmpty then .nothingGiven else .missingCommand)
  | arg :: args =>
    match commandHere? m arg with
    | some t => readCommand m t args
    | none => do readProgram (← step .program m arg) args

/-- Parses a command line, given without the name of the program. -/
def parse (args : List String) : Except Stop Invocation := readProgram {} args

/-! ## Steps -/

namespace Found

variable {m s : Found}

theorem settle_of_pending (h : m.pending = none) : m.settle = .ok m := by
  rw [settle, h]

theorem pending_of_settle (h : m.settle = .ok s) : s.pending = none := by
  unfold settle at h
  split at h
  · rename_i hp
    cases h
    exact hp
  · cases h
  · unfold setValue at h
    split at h
    · cases h
    · cases h
      rfl

theorem onlyAddresses_of_settle (h : m.settle = .ok s) : s.onlyAddresses = m.onlyAddresses := by
  unfold settle at h
  split at h
  · cases h
    rfl
  · cases h
  · unfold setValue at h
    split at h
    · cases h
    · cases h
      rfl

/-- No value is waited for where the fate of the pending option can be settled. -/
theorem waiting_of_settle (h : m.settle = .ok s) : m.waiting = none := by
  unfold waiting
  split
  · rename_i hp
    rw [settle, hp] at h
    cases h
  · rfl

end Found

/-- **An argument without a dash is an address**, once the fate of the pending option is settled. -/
theorem step_address {l : Level} {m s : Found} {arg : String} (hl : l.takesAddresses = true)
    (hs : m.settle = .ok s) (hd : arg.toList.head? ≠ some '-') :
    step l m arg = .ok { s with addresses := s.addresses ++ [arg] } := by
  have hplain : stepPlain l m arg = .ok { s with addresses := s.addresses ++ [arg] } := by
    rw [stepPlain, if_pos hl, hs]
    rfl
  unfold step
  split
  · exact hplain
  · split
    · simp_all
    · simp_all
    · simp_all
    · rw [Found.waiting_of_settle hs]
      exact hplain

end CountryLookup.CommandLine
