import SignIn.Provider.PasswordList

/-!
# The arguments of the command line

The arguments are options of the program, a subcommand, and options of the subcommand. An option
is a word `--name=value`, or a word `--name` and its value in the next word; a value of its own
word does not begin with a hyphen, a lone hyphen aside. No option can be given twice on one side
of the subcommand. The option `--config` can stand on either side, and the inner one counts.

`Command.ofArguments` reads the words from the left and stops at the first one that asks for help
or the version, or that is not as it should be. At the end stand the texts that are shown when help
or the version is asked for.
-/

namespace SignIn

/-- What the command line is asked to do. -/
inductive Action where
  /-- Lists the providers. -/
  | providers
  /-- Registers a client. -/
  | createClient (name : String)
  /-- Signs in and issues a token. -/
  | login (provider : ProviderKey) (username password : String)
  deriving DecidableEq, Repr

/-- A command with its options. -/
structure Command where
  /-- The configuration file, where one is given. -/
  configPath : Option String
  action : Action
  deriving DecidableEq, Repr

/-- What help can be asked about. -/
inductive Topic where
  | program
  | providers
  | createClient
  | login
  | help
  deriving DecidableEq, Repr

/-- Why the arguments are no command. -/
inductive Detour where
  /-- They ask for help. -/
  | help (topic : Topic)
  /-- They ask for the version. -/
  | version
  /-- They are not understood. -/
  | usage
  deriving DecidableEq, Repr

/-- A word among the arguments. -/
inductive ArgumentWord where
  /-- Two hyphens and nothing else, which end the options. -/
  | escape
  /-- A name after two hyphens, perhaps with a value after an equals sign. -/
  | long (name : String) (value : Option String)
  /-- Letters after one hyphen. -/
  | short (letters : List Char)
  | plain (text : String)
  deriving DecidableEq, Repr

namespace ArgumentWord

/-- The part of a list before the first equals sign, and the part after it. -/
def splitEquals : List Char → List Char × Option (List Char)
  | [] => ([], none)
  | '=' :: rest => ([], some rest)
  | c :: rest => ((c :: (splitEquals rest).1), (splitEquals rest).2)

/-- The form of a word. -/
def ofChars : List Char → ArgumentWord
  | ['-', '-'] => .escape
  | '-' :: '-' :: rest =>
    .long (String.ofList (splitEquals rest).1) ((splitEquals rest).2.map String.ofList)
  | '-' :: c :: rest => .short (c :: rest)
  | text => .plain (String.ofList text)

/-- The form of a word. -/
def ofText (s : String) : ArgumentWord := ofChars s.toList

/-- Whether a word can be the value of the option before it. -/
def isValue (s : String) : Bool :=
  match ofText s with
  | .plain _ => true
  | _ => false

end ArgumentWord

/-- What one side of the subcommand accepts. -/
structure ArgumentLevel where
  /-- What help is given about. -/
  topic : Topic
  /-- The options, each of which takes a value. -/
  options : List String
  /-- The words that end this side. -/
  subcommands : List String := []
  /-- Whether the version can be asked for. -/
  hasVersion : Bool := false

namespace ArgumentLevel

/-- The option that names the configuration file. -/
def configOption : String := "config"

/-- The subcommands. -/
def subcommandTopics : List (String × Topic) :=
  [("providers", .providers), ("create-client", .createClient), ("login", .login),
    ("help", .help)]

/-- What stands before the subcommand. -/
def outer : ArgumentLevel where
  topic := .program
  options := [configOption]
  subcommands := subcommandTopics.map Prod.fst
  hasVersion := true

/-- What stands after the subcommand. -/
def inner : Topic → ArgumentLevel
  | .createClient => ⟨.createClient, ["name", configOption], [], false⟩
  | .login =>
    ⟨.login, ["provider", "provider-id", "username", "password", configOption], [], false⟩
  | topic => ⟨topic, [configOption], [], false⟩

/-- What a flag asks for, which never comes back to the options. -/
def flag (level : ArgumentLevel) (help version : Bool) : Detour :=
  if help then .help level.topic
  else if version && level.hasVersion then .version
  else .usage

/-- Puts down the value of an option. The path of a file cannot be empty. -/
def put (level : ArgumentLevel) (given : Table String) (name value : String) :
    Except Detour (Table String) :=
  if !level.options.contains name || Table.contains given name then .error .usage
  else if name = configOption ∧ value = "" then .error .usage
  else .ok (Table.insert given name value)

/-- Reads words up to the subcommand or the end: the options, and the subcommand with all that
follows. -/
def scan (level : ArgumentLevel) (given : Table String) :
    List String → Except Detour (Table String × List String)
  | [] => .ok (given, [])
  | word :: words =>
    match ArgumentWord.ofText word with
    | .escape => if words.isEmpty then .ok (given, []) else .error .usage
    | .plain s => if level.subcommands.contains s then .ok (given, s :: words) else .error .usage
    | .short letters => .error (level.flag (letters.head? == some 'h') (letters.head? == some 'V'))
    | .long name (some value) =>
      match level.put given name value with
      | .error detour => .error detour
      | .ok given => scan level given words
    | .long name none =>
      if level.options.contains name then
        match words with
        | [] => .error .usage
        | value :: words =>
          if ArgumentWord.isValue value then
            match level.put given name value with
            | .error detour => .error detour
            | .ok given => scan level given words
          else .error .usage
      else .error (level.flag (name == "help") (name == "version"))

end ArgumentLevel

namespace Command

/-- The option that has to be given. -/
def needed (given : Table String) (name : String) : Except Detour String :=
  match Table.get? given name with
  | some value => .ok value
  | none => .error .usage

/-- The action of a subcommand with its options. -/
def actionOf (topic : Topic) (given : Table String) : Except Detour Action :=
  match topic with
  | .providers => .ok .providers
  | .createClient => (needed given "name").map .createClient
  | .login => do
    let username ← needed given "username"
    let password ← needed given "password"
    let kind := (Table.get? given "provider").getD PasswordList.kind
    .ok (.login ⟨kind, Table.get? given "provider-id"⟩ username password)
  | .program | .help => .error .usage

/-- What the words after the subcommand `help` ask for. -/
def helpAbout : List String → Detour
  | [] => .help .program
  | [name] =>
    match Table.get? ArgumentLevel.subcommandTopics name with
    | some topic => .help topic
    | none => .usage
  | _ => .usage

/-- Reads the arguments of the command line. -/
def ofArguments (arguments : List String) : Except Detour Command := do
  let (given, rest) ← ArgumentLevel.outer.scan [] arguments
  match rest with
  | [] => .error .usage
  | name :: words =>
    match Table.get? ArgumentLevel.subcommandTopics name with
    | none => .error .usage
    | some .help => .error (helpAbout words)
    | some topic =>
      let (within, _) ← (ArgumentLevel.inner topic).scan [] words
      let action ← actionOf topic within
      let path? := Table.get? within ArgumentLevel.configOption
      .ok ⟨path?.or (Table.get? given ArgumentLevel.configOption), action⟩

end Command

/-! ### Help -/

/-- The name of the program. -/
def programName : String := "identity-core"

/-- The name of the program and its version. -/
def versionLine : String := programName ++ " 0.1.0"

namespace Topic

/-- What a topic is about. -/
def about : Topic → String
  | .program => "Identity and session management core"
  | .providers => "List configured auth providers"
  | .createClient => "Register an API client and print its id and secret"
  | .login => "Run a username/password login flow and issue a token"
  | .help => "Print this message or the help of the given subcommand(s)"

/-- How a topic is used. -/
def usage : Topic → String
  | .program => "[OPTIONS] <COMMAND>"
  | .providers => "providers [OPTIONS]"
  | .createClient => "create-client [OPTIONS] --name <NAME>"
  | .login => "login [OPTIONS] --username <USERNAME> --password <PASSWORD>"
  | .help => "help [COMMAND]..."

/-- The rows of two columns that explain the parts of a topic, under their titles. -/
def sections : Topic → List (String × List (String × String))
  | .program =>
    [("Commands",
      ArgumentLevel.subcommandTopics.map fun (name, topic) => (name, about topic)),
    ("Options", [config, help, ("-V, --version", "Print version")])]
  | .providers => [("Options", [config, help])]
  | .createClient => [("Options", [config, ("    --name <NAME>", ""), help])]
  | .login =>
    [("Options",
      [config, ("    --provider <PROVIDER>", "Provider type [default: insecure_example]"),
      ("    --provider-id <PROVIDER_ID>",
        "Provider id, when the type is configured more than once"),
      ("    --username <USERNAME>", ""), ("    --password <PASSWORD>", ""), help])]
  | .help => [("Arguments", [("[COMMAND]...", "Print help for the subcommand(s)")])]
where
  /-- The row of the option for the configuration file. -/
  config := ("    --config <CONFIG>",
    "Auth config file (defaults to $AUTH_CONFIG_PATH or auth.toml)")
  /-- The row of the option for help. -/
  help := ("-h, --help", "Print help")

/-- The rows of two columns as lines; the second column begins two places behind the longest entry
of the first. -/
def layOut (rows : List (String × String)) : List String :=
  let width := (rows.map fun row => row.1.length).foldl max 0
  rows.map fun (left, right) =>
    "  " ++ left ++ String.ofList (List.replicate (width - left.length + 2) ' ') ++ right

/-- The lines of help about a topic. -/
def helpLines (topic : Topic) : List String :=
  [topic.about, "", "Usage: " ++ programName ++ " " ++ topic.usage]
    ++ topic.sections.flatMap fun (title, rows) => ["", title ++ ":"] ++ layOut rows

end Topic

end SignIn
