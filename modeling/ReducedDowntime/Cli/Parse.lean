import ReducedDowntime.Cli.Help
import ReducedDowntime.Cli.Refusal
import ReducedDowntime.Cli.Similar

/-!
# Reading a command line

The words of a command line are read left to right against the grammar of the current
command:

1. A word that names a subcommand enters it: the rest of the line belongs to the
   subcommand, which is read first; `help` instead shows the help of the subcommands
   named after it.
2. `--` makes every later word a positional value.
3. `--name` and `--name=value` name a switch or an option; `-abc` is a cluster of short
   switches, the first option of which takes the rest of the cluster (less a leading
   `=`) as its value.
4. A word after an option that still waits for its value is that value.
5. Any other word is the next positional value.

A value is checked when the next word is read, or at the end of the command's words:
an option without a value, a value outside the rule, and an argument given twice are
refused there. Then arguments not given take the value of their environment variable,
then their default, and the command checks that it got a subcommand when it needs one
and all its required arguments.

A word that names nothing is refused with the nearest known name, when one is close
(see `Similar`).
-/

namespace ReducedDowntime.Cli

/-- Where an argument's value came from, weakest first. -/
inductive Source where
  | fallback
  | environment
  | commandLine
  deriving DecidableEq, Repr, Inhabited

namespace Source

/-- The strength of a source. -/
def rank : Source → Nat
  | .fallback => 0
  | .environment => 1
  | .commandLine => 2

/-- The stronger of two sources. -/
def max (a b : Source) : Source := if b.rank ≤ a.rank then a else b

/-- Whether the user gave the value, on the line or in the environment. -/
def given (s : Source) : Bool := s != .fallback

end Source

/-- An argument or group that has a value, with where it came from. -/
structure Entry where
  id : String
  values : List String := []
  source : Source
  isGroup : Bool := false
  deriving DecidableEq, Repr, Inhabited

/-- How an argument was written. -/
inductive Spelling where
  | long
  | short
  | place
  deriving DecidableEq, Repr, Inhabited

/-- An argument whose values are read but not yet checked. -/
structure Pending where
  param : Param
  values : List String
  spelling : Spelling
  deriving Inhabited

/-- What is known while the words of one command are read. -/
structure State where
  /-- Arguments and groups with values, in the order first given. -/
  entries : List Entry := []
  pending : Option Pending := none
  /-- The place of the next positional value, from one. -/
  place : Nat := 1
  /-- Whether `--` was read. -/
  afterDashes : Bool := false
  /-- Whether the pending option still waits for its value. -/
  awaiting : Bool := false
  deriving Inhabited

namespace State

/-- The entry of an argument or group. -/
def find? (st : State) (id : String) : Option Entry := st.entries.find? (·.id == id)

/-- Whether an argument or group has an entry. -/
def has (st : State) (id : String) : Bool := (st.find? id).isSome

/-- Whether the user gave an argument or group. -/
def given (st : State) (id : String) : Bool := (st.find? id).any (·.source.given)

/-- Records values of an argument or group, keeping the stronger source. -/
def mark (st : State) (id : String) (values : List String) (src : Source) (isGroup : Bool) : State :=
  if st.has id then
    { st with entries := st.entries.map fun e =>
        if e.id == id then { e with values := e.values ++ values, source := e.source.max src } else e }
  else { st with entries := st.entries ++ [{ id, values, source := src, isGroup }] }

/-- Records an argument, and, when the user gave it, its groups. -/
def start (st : State) (c : Command) (p : Param) (values : List String) (src : Source) : State :=
  let st := st.mark p.id values src false
  if src.given then (c.groupsOf p.id).foldl (fun st g => st.mark g.id [] src true) st else st

/-- Forgets an argument. -/
def remove (st : State) (id : String) : State := { st with entries := st.entries.filter (·.id != id) }

/-- The given arguments and groups, as short usage lines list them. -/
def givenIds (st : State) : List String := (st.entries.filter (·.source.given)).map (·.id)

/-- The given arguments that are not required, and the given groups. -/
def givenOptional (st : State) (c : Command) : List String :=
  (st.entries.filter fun e =>
    e.source.given && (e.isGroup || !((c.param? e.id).any (·.required)))).map (·.id)

/-- The given arguments, without groups. -/
def givenArgs (st : State) : List String :=
  (st.entries.filter fun e => e.source.given && !e.isGroup).map (·.id)

end State

/-- The largest 64-bit signed integer. -/
def int64Max : Int := 9223372036854775807

/-- Reads a 64-bit signed integer: an optional sign, then decimal digits. Reading stops at
the first character that is no digit, or when the value leaves the 64-bit range. -/
def readInt64 (s : String) : Except String Int :=
  let (negative, digits) := match s.toList with
    | '+' :: rest => (false, rest)
    | '-' :: rest => (true, rest)
    | cs => (false, cs)
  if s.isEmpty then .error "cannot parse integer from empty string"
  else if digits.isEmpty then .error "invalid digit found in string"
  else
    digits.foldlM (fun (acc : Int) c =>
      if c.isDigit then
        let d : Int := (c.toNat - '0'.toNat : Nat)
        let next := if negative then acc * 10 - d else acc * 10 + d
        if next > int64Max then .error "number too large to fit in target type"
        else if next < -int64Max - 1 then .error "number too small to fit in target type"
        else .ok next
      else .error "invalid digit found in string") 0

/-- The largest number of hours. -/
def hoursMax : Int := 4294967295

/-- Reads a number of hours: a 64-bit integer from 0 to `hoursMax`. A refusal names the
value as read and why. -/
def readHours (s : String) : Except (String × String) Nat :=
  match readInt64 s with
  | .error why => .error (s, why)
  | .ok v =>
    if 0 ≤ v && v ≤ hoursMax then .ok v.toNat
    else .error (toString v, toString v ++ " is not in 0..=" ++ toString hoursMax)

/-- Checks a value against the argument's rule. -/
def checkValue (p : Param) (v : String) : Option Refusal :=
  match p.effect with
  | .value _ .hours =>
    match readHours v with
    | .ok _ => none
    | .error (shown, why) => some (Refusal.unreadable p.display shown why)
  | .value _ (.choice cs) =>
    let names := cs.map (·.name)
    if names.contains v then none
    else some (Refusal.notAChoice p.display v names (nearest? v names))
  | _ => none

/-- What a failed step refuses, with the state it leaves behind. -/
abbrev Checked := Except (Refusal × State) State

section Reading

variable (lv : Level) (env : Environment)

/-- Records an argument given with `values` from `src`: refuses an option without its
value, shows help or the version, refuses an argument given twice, and checks the values. -/
def accept (st : State) (p : Param) (values : List String) (src : Source) (sp : Spelling) : Checked :=
  if src == .commandLine && p.takesValue && values.isEmpty then
    .error (Refusal.valueMissing p.display (p.choices.map (·.name)), st)
  else
    match p.effect with
    | .help => .error (⟨.displayHelp, lv.help env (sp != .short)⟩, st)
    | .version => .error (⟨.displayVersion, lv.command.name ++ " " ++ (lv.command.version.getD "") ++ "\n"⟩, st)
    | _ =>
      if st.has p.id then .error (Refusal.givenTwice p.display ("Usage: " ++ lv.fullUsage), st.remove p.id)
      else
        let st := st.start lv.command p (if p.takesValue then values else ["true"]) src
        match values.filterMap (checkValue p) with
        | r :: _ => .error (r, st)
        | [] => .ok st

/-- Checks and records the pending argument, if any. -/
def settle (st : State) : Checked :=
  match st.pending with
  | none => .ok st
  | some pd => accept lv env { st with pending := none } pd.param pd.values .commandLine pd.spelling

/-- The state after settling the pending argument, whether or not that was refused. -/
def settleQuietly (st : State) : State :=
  match settle lv env st with
  | .ok st => st
  | .error (_, st) => st

/-- Settles the pending argument, then records `p`. -/
def react (st : State) (p : Param) (values : List String) (sp : Spelling) : Except Refusal State :=
  match settle lv env st with
  | .error (r, _) => .error r
  | .ok st =>
    match accept lv env st p values .commandLine sp with
    | .error (r, _) => .error r
    | .ok st => .ok { st with awaiting := false }

/-- Makes `p` the pending option, waiting for its value in the next word. -/
def await (st : State) (p : Param) (sp : Spelling) : Except Refusal State :=
  match settle lv env st with
  | .error (r, _) => .error r
  | .ok st => .ok { st with pending := some ⟨p, [], sp⟩, awaiting := true }

/-- The tip to pass a word that looks like a switch as a positional value, for commands
that take one. -/
def asValueTips (st : State) (word : String) : List String :=
  if !st.afterDashes && !lv.command.positionals.isEmpty then [Refusal.asValueTip word ""] else []

/-- Refuses a long name the command does not know, naming the nearest long name of the
command, or else of a subcommand named later on the line. -/
def unknownLong (st : State) (name : String) (rest : List String) : Refusal :=
  let word := "--" ++ name
  match nearest? name lv.command.longNames with
  | some near =>
    let st := match lv.command.byLong? near with
      | some p => st.start lv.command p [] .commandLine
      | none => st
    Refusal.unexpected word [Refusal.similar "argument" ("--" ++ near)] (lv.usageLine st.givenIds)
  | none =>
    let elsewhere := lv.command.subcommands.filterMap fun sc =>
      match nearest? name sc.complete.longNames, rest.idxOf? sc.name with
      | some near, some place => some (place, sc.name, near)
      | _, _ => none
    let best := elsewhere.foldl (fun acc x => match acc with
      | some y => if x.1 < y.1 then some x else some y
      | none => some x) none
    match best with
    | some (_, sc, near) =>
      Refusal.unexpected word ["'" ++ sc ++ " --" ++ near ++ "' exists"] (lv.usageLine st.givenIds)
    | none => Refusal.unexpected word (asValueTips lv st word) (lv.usageLine st.givenIds)

/-- Reads `--name` or `--name=value`. -/
def longWord (st : State) (body : String) (rest : List String) : Except Refusal State :=
  let (name, attached) := match body.splitOn "=" with
    | n :: v :: more => (n, some ("=".intercalate (v :: more)))
    | _ => (body, none)
  match lv.command.byLong? name with
  | none => .error (unknownLong lv (settleQuietly lv env st) name rest)
  | some p =>
    if p.takesValue then
      match attached with
      | some v => react lv env st p [v] .long
      | none => await lv env st p .long
    else
      match attached with
      | some v => .error (Refusal.valueNotTaken p.display v (lv.usageLine (st.givenOptional lv.command ++ [p.id])))
      | none => react lv env st p [] .long

/-- Reads a cluster of short switches. -/
def shortCluster (st : State) : List Char → Except Refusal State
  | [] => .ok st
  | c :: more =>
    match lv.command.byShort? c with
    | none =>
      let st := settleQuietly lv env st
      let word := "-" ++ c.toString
      .error (Refusal.unexpected word (asValueTips lv st word) (lv.usageLine []))
    | some p =>
      if !p.takesValue then
        match react lv env st p [] .short with
        | .ok st => shortCluster st more
        | .error r => .error r
      else
        let attached := String.ofList more
        if attached.isEmpty then await lv env st p .short
        else react lv env st p [if attached.startsWith "=" then attached.drop 1 |>.toString else attached] .short

/-- Refuses a word that has no place: a subcommand after `--`, a misspelt subcommand, or
a positional value too many. -/
def strayWord (st : State) (word : String) : Refusal :=
  let c := lv.command
  if st.afterDashes && (c.subcommand? word).isSome then
    Refusal.unexpected "--" ["subcommand '" ++ word ++ "' exists; to use it, remove the '--' before it"]
      (lv.usageLine [])
  else
    let looksLikeSwitch := word.startsWith "-" && word != "-" && word != "--"
    let tips := if looksLikeSwitch then asValueTips lv st word else []
    let near := closeWords word (c.subcommands.map (·.name))
    if !c.subcommands.isEmpty && !near.isEmpty then Refusal.unknownSubcommand word near (lv.usageLine [])
    else if !c.subcommands.isEmpty && c.positionals.isEmpty then
      Refusal.unknownSubcommand word [] (lv.usageLine [])
    else Refusal.unexpected word tips (lv.usageLine [])

/-- Reads a positional value. -/
def positional (st : State) (word : String) : Except Refusal State :=
  match lv.command.positionalAt? st.place with
  | some p =>
    match settle lv env st with
    | .error (r, _) => .error r
    | .ok st => .ok { st with pending := some ⟨p, [word], .place⟩, place := st.place + 1, awaiting := false }
  | none => .error (strayWord lv (settleQuietly lv env st) word)

end Reading

/-- The help that `help` followed by subcommand names asks for. -/
def helpTopic (env : Environment) (lv : Level) : List String → Refusal
  | [] => ⟨.displayHelp, lv.help env true⟩
  | name :: rest =>
    match lv.command.subcommand? name with
    | some sc => helpTopic env (lv.child sc) rest
    | none => Refusal.unknownSubcommand name [] (lv.usageLine [])

/-- What reading one word leads to. -/
inductive Next where
  | stay (st : State)
  | enter (st : State) (sub : Command)
  deriving Inhabited

/-- Reads one word of the current command. -/
def word (lv : Level) (env : Environment) (st : State) (w : String) (rest : List String) :
    Except Refusal Next :=
  let stay := fun (r : Except Refusal State) => r.map Next.stay
  if st.afterDashes then stay (positional lv env st w)
  else
    match lv.command.subcommand? w with
    | some sc =>
      if sc.name == "help" && sc.subcommands.isEmpty && sc.params.any (·.repeated) then
        .error (helpTopic env lv rest)
      else .ok (.enter st sc)
    | none =>
      if w == "--" then .ok (.stay { st with afterDashes := true })
      else if w.startsWith "--" then stay (longWord lv env st (w.drop 2).toString rest)
      else if w.startsWith "-" && w.length > 1 then
        stay (shortCluster lv env st (w.drop 1).toString.toList)
      else if st.awaiting then
        .ok (.stay { st with
          pending := st.pending.map fun pd => { pd with values := pd.values ++ [w] }
          awaiting := false })
      else stay (positional lv env st w)

/-- How reading a command's words ends: at the end of the line, or by entering a
subcommand with the rest of the line. -/
inductive Scan where
  | finished (st : State)
  | descend (st : State) (sub : Command) (rest : List String)
  deriving Inhabited

/-- Reads the words of the current command. -/
def scan (lv : Level) (env : Environment) : State → List String → Except Refusal Scan
  | st, [] => .ok (.finished st)
  | st, w :: rest =>
    match word lv env st w rest with
    | .error r => .error r
    | .ok (.stay st) => scan lv env st rest
    | .ok (.enter st sc) => .ok (.descend st sc rest)

/-- Gives arguments not on the line the values of their environment variables. -/
def fromEnvironment (lv : Level) (env : Environment) (st : State) : Except Refusal State :=
  lv.command.params.foldlM (fun st p =>
    match p.env with
    | some name =>
      match env.lookup name with
      | some v =>
        if st.has p.id then .ok st
        else (accept lv env st p [v] .environment .long).mapError (·.1)
      | none => .ok st
    | none => .ok st) st

/-- Gives arguments still without a value their defaults; switches default to `false`. -/
def withDefaults (lv : Level) (st : State) : State :=
  lv.command.params.foldl (fun st p =>
    if st.has p.id then st
    else match p.effect, p.default with
      | .switch, _ => st.start lv.command p ["false"] .fallback
      | .value .., some d => st.start lv.command p [d] .fallback
      | _, _ => st) st

/-- Checks a command's arguments once its words are read: that it got a subcommand when
it needs one, and all its required arguments. A command that needs a subcommand and got
no argument at all shows its summary help. -/
def validate (lv : Level) (env : Environment) (st : State) (entered : Bool) : Except Refusal State :=
  let c := lv.command
  if !entered && c.helpWhenEmpty && !st.entries.any (·.source.given) then
    .error ⟨.helpOnEmpty, lv.help env false⟩
  else if !entered && c.subcommandRequired then
    .error (Refusal.subcommandMissing lv.binName (c.subcommands.map (·.name)) (lv.usageLine []))
  else
    let missing := c.requiredIds.filter (!st.given ·)
    if missing.isEmpty then .ok st
    else .error (Refusal.missing (lv.requiredForms missing st.given) (lv.usageLine (st.givenArgs ++ missing)))

/-- Settles the last argument, applies the environment and the defaults, and validates. -/
def complete (lv : Level) (env : Environment) (st : State) (entered : Bool) : Except Refusal State := do
  let st ← (settle lv env st).mapError (·.1)
  let st ← fromEnvironment lv env st
  validate lv env (withDefaults lv st) entered

/-- The arguments one command of the path got. -/
structure Found where
  command : String
  entries : List Entry
  deriving DecidableEq, Repr, Inhabited

namespace Found

/-- The first value of an argument. -/
def value? (f : Found) (id : String) : Option String :=
  ((f.entries.find? fun e => e.id == id && !e.isGroup).bind (·.values.head?))

/-- Whether a switch is set. -/
def flag (f : Found) (id : String) : Bool := f.value? id == some "true"

end Found

/-- Reads the words of a command and of the subcommands entered, each subcommand before
the command that contains it; `depth` bounds the subcommands entered. -/
def readLevel (env : Environment) : Nat → Level → List String → Except Refusal (List Found)
  | depth, lv, words => do
    match ← scan lv env {} words with
    | .finished st =>
      let st ← complete lv env st false
      pure [⟨lv.command.name, st.entries⟩]
    | .descend st sc rest =>
      let below ← match depth with
        | 0 => pure []
        | d + 1 => readLevel env d (lv.child sc) rest
      let st ← complete lv env st true
      pure (⟨lv.command.name, st.entries⟩ :: below)

/-- Reads a command line: the arguments of the command and of each subcommand on the
path, outermost first. -/
def Command.read (c : Command) (env : Environment) (words : List String) : Except Refusal (List Found) :=
  readLevel env words.length c.top words

end ReducedDowntime.Cli
