import UserDirectory.Number
import UserDirectory.Settings.Literal
import UserDirectory.Settings.Toml
import UserDirectory.Text.Utf8

/-!
# Settings — how the service is told what to do

* `NumberSetting`, `TextSetting`: the settings, with their names, letters, bounds and defaults.
* `Settings.load`: the settings from arguments, environment and file.  For each setting the first
  of these that gives it decides, and what it gives has to fit; otherwise the default stands.
* `Settings.faults`: everything that is wrong with the sources, each source on its own.
-/

namespace UserDirectory

/-- A setting that is a natural number. -/
inductive NumberSetting where
  | httpPort
  | httpShutdownGrace
  | storeShutdownGrace
  | publisherShutdownGrace
  | storeOperationTimeout
  | publishTimeout
  | publisherPoolSize
deriving DecidableEq, Repr

namespace NumberSetting

/-- The setting's name. -/
def name : NumberSetting → String
  | .httpPort => "http_port"
  | .httpShutdownGrace => "http_shutdown_grace_ms"
  | .storeShutdownGrace => "store_shutdown_grace_ms"
  | .publisherShutdownGrace => "publisher_shutdown_grace_ms"
  | .storeOperationTimeout => "store_operation_timeout_ms"
  | .publishTimeout => "publish_timeout_ms"
  | .publisherPoolSize => "publisher_pool_size"

/-- The setting's letter: the first one of the name that is free, in either case, and not that of
help. -/
def letter : NumberSetting → Char
  | .httpPort => 'H'
  | .httpShutdownGrace => 't'
  | .storeShutdownGrace => 's'
  | .publisherShutdownGrace => 'p'
  | .storeOperationTimeout => 'S'
  | .publishTimeout => 'P'
  | .publisherPoolSize => 'u'

/-- How many bits the setting has. -/
def bits : NumberSetting → Nat
  | .httpPort => 16
  | .publisherPoolSize => 32
  | _ => 64

/-- What stands for an absent setting. -/
def default : NumberSetting → Nat
  | .httpPort => 8080
  | .httpShutdownGrace | .storeShutdownGrace | .publisherShutdownGrace => 5000
  | .storeOperationTimeout | .publishTimeout => 3000
  | .publisherPoolSize => 4

/-- All number settings. -/
def all : List NumberSetting :=
  [.httpPort, .httpShutdownGrace, .storeShutdownGrace, .publisherShutdownGrace,
    .storeOperationTimeout, .publishTimeout, .publisherPoolSize]

/-- The number, if it is in the setting's range. -/
def fit? (s : NumberSetting) (n : Int) : Option Nat :=
  if 0 ≤ n ∧ n < twoPow s.bits then some n.toNat else none

end NumberSetting

/-- A setting that is a text. -/
inductive TextSetting where
  | databaseUrl
  | redisUrl
  | eventsChannel
  | serviceName
deriving DecidableEq, Repr

namespace TextSetting

/-- The setting's name. -/
def name : TextSetting → String
  | .databaseUrl => "database_url"
  | .redisUrl => "redis_url"
  | .eventsChannel => "events_channel"
  | .serviceName => "service_name"

/-- The setting's letter. -/
def letter : TextSetting → Char
  | .databaseUrl => 'd'
  | .redisUrl => 'r'
  | .eventsChannel => 'e'
  | .serviceName => 'E'

/-- All text settings. -/
def all : List TextSetting := [.databaseUrl, .redisUrl, .eventsChannel, .serviceName]

end TextSetting

/-- The settings of the service; times are in milliseconds. -/
structure Settings where
  number : NumberSetting → Nat
  text : TextSetting → Option String

/-- Why there are no settings: the arguments, the file, or a value is wrong, or several things
are. -/
inductive SettingsFault where
  | arguments
  | file
  | value
  | several
deriving DecidableEq, Repr

/-- The words for a fault. -/
def SettingsFault.message : SettingsFault → String
  | .arguments => "failed to load settings: unknown, repeated or incomplete arguments"
  | .file => "failed to load settings: the configuration file cannot be read"
  | .value => "failed to load settings: a value does not fit its setting"
  | .several => "failed to load settings: several sources are at fault"

/-- What settings are read from: the arguments, the variables without the service's part of their
names, the text of the file that the environment names, and the texts of the files that arguments
can name. -/
structure SettingsSources where
  arguments : List String
  environment : List (String × String)
  file : Option String
  fileAt : String → Option String

namespace Settings

/-! ## Arguments -/

/-- What an argument can give: a setting, or the path of a configuration file. -/
inductive Flag where
  | number (s : NumberSetting)
  | text (s : TextSetting)
  | configPath
deriving DecidableEq, Repr

namespace Flag

/-- All flags. -/
def all : List Flag := NumberSetting.all.map .number ++ TextSetting.all.map .text ++ [.configPath]

/-- The name of what the flag gives. -/
def name : Flag → String
  | .number s => s.name
  | .text s => s.name
  | .configPath => "config_path"

/-- The flag as a word, with hyphens in the place of underscores. -/
def word (f : Flag) : List Char := f.name.toList.map fun c => if c == '_' then '-' else c

/-- The flag as a letter. -/
def letter? : Flag → Option Char
  | .number s => some s.letter
  | .text s => some s.letter
  | .configPath => none

/-- The flag that a word behind two hyphens is. -/
def ofWord? (t : List Char) : Option Flag := all.find? (·.word == t)

/-- The flag that a letter behind a hyphen is. -/
def ofLetter? (c : Char) : Option Flag := all.find? (·.letter? == some c)

/-- A flag in an argument, and the value that the argument has with it: behind an equals sign, or
right behind a letter. -/
def split? : List Char → Option (Flag × Option (List Char))
  | '-' :: '-' :: r => do
    let flag ← ofWord? (r.takeWhile (· != '='))
    match r.dropWhile (· != '=') with
    | '=' :: value => return (flag, some value)
    | _ => return (flag, none)
  | '-' :: c :: r => do
    let flag ← ofLetter? c
    match r with
    | [] => return (flag, none)
    | '=' :: value => return (flag, some value)
    | value => return (flag, some value)
  | _ => none

/-- The value for a number; one of 64 bits may not have a minus sign, not even before zero. -/
def number? (s : NumberSetting) (value : List Char) : Option Given :=
  if s.bits = 64 ∧ value.head? = some '-' then none
  else ((Text.integer? (twoPow 64) value).bind s.fit?).map fun n => .integer n

/-- What a flag with a value gives; a path is not empty. -/
def given? (f : Flag) (value : List Char) : Option Given :=
  match f with
  | .number s => number? s value
  | .text _ => some (.text (String.ofList value))
  | .configPath => if value.isEmpty then none else some (.text (String.ofList value))

end Flag

/-- Whether an argument can be the value of the flag before it. -/
def isValue : List Char → Bool
  | '-' :: _ :: _ => false
  | _ => true

/-- The flags with their values, which may be the next arguments.  Two hyphens may come last. -/
def pairs? : List String → Option (List (Flag × List Char))
  | [] => some []
  | [arg] =>
    match Flag.split? arg.toList with
    | some (flag, some value) => some [(flag, value)]
    | some (_, none) => none
    | none => if arg == "--" then some [] else none
  | arg :: next :: rest =>
    match Flag.split? arg.toList with
    | some (flag, some value) => (pairs? (next :: rest)).map ((flag, value) :: ·)
    | some (flag, none) =>
      if isValue next.toList then (pairs? rest).map ((flag, next.toList) :: ·) else none
    | none => none

/-- Puts a flag's value with those before it, unless the flag came before. -/
def addArgument? (layer : Layer) (pair : Flag × List Char) : Option Layer := do
  let given ← pair.1.given? pair.2
  if (Layer.get? layer pair.1.name).isSome then none else some (layer ++ [(pair.1.name, given)])

/-- What the arguments give. -/
def readArguments (args : List String) : Option Layer := do
  (← pairs? args).foldlM addArgument? []

/-! ## Environment -/

/-- The text with a point for every two underscores. -/
def withPoints : List Char → List Char
  | '_' :: '_' :: r => '.' :: withPoints r
  | c :: r => c :: withPoints r
  | [] => []

/-- What a variable gives: a setting, or a part of a table if there are points in its name, none of
which may be at an end of it or beside another. -/
def ofVariable? (name value : String) : Option (String × Given) :=
  let names := (Text.trim (withPoints name.toLower.toList)).splitOn '.'
  match names with
  | [] => none
  | first :: rest =>
    if names.any List.isEmpty then none
    else
      some (String.ofList first, if rest.isEmpty then Literal.ofVariable value else .other)

/-! ## Files -/

/-- What a configuration file gives.  It is TOML of the earlier version; what only the later one
allows is a fault of a value.  A file cannot build on another, as there is none to build on. -/
def readFile (text : String) : Except SettingsFault Layer :=
  match Toml.layer? .v11 text, Toml.layer? .v10 text with
  | none, _ => .error .file
  | some _, none => .error .value
  | some _, some layer => if (layer.get? "extends").isSome then .error .file else .ok layer

/-- The path of the file that the arguments name. -/
def configPath? (arguments : Layer) : Option String :=
  match arguments.get? "config_path" with
  | some (.text path) => some path
  | _ => none

/-- What the file that the arguments name gives, if they name one. -/
def readNamed (src : SettingsSources) (arguments : Layer) : Option (Except SettingsFault Layer) :=
  (configPath? arguments).map fun path =>
    match src.fileAt path with
    | some text => readFile text
    | none => .error .file

/-- What the files give, and what is wrong with them.  The file that the arguments name comes
first; if it cannot be read, the one that the environment names gives the settings, but the fault
stands. -/
def readFiles (src : SettingsSources) (arguments : Layer) : Layer × List SettingsFault :=
  match readNamed src arguments, src.file.map readFile with
  | some (.ok layer), _ => (layer, [])
  | some (.error f), none => ([], [f])
  | some (.error f), some (.error g) => ([], [f, g])
  | some (.error f), some (.ok layer) => (layer, [f])
  | none, none => ([], [])
  | none, some (.error f) => ([], [f])
  | none, some (.ok layer) => (layer, [])

/-! ## All sources -/

/-- The value of a number setting, of which the first layer that gives it decides. -/
def number? (layers : List Layer) (s : NumberSetting) : Option Nat :=
  match layers.findSome? (Layer.get? · s.name) with
  | none => some s.default
  | some (.integer n) => s.fit? n
  | some _ => none

/-- The value of a text setting, of which the first layer that gives it decides. -/
def text? (layers : List Layer) (s : TextSetting) : Option (Option String) :=
  match layers.findSome? (Layer.get? · s.name) with
  | none => some none
  | some (.text t) => some (some t)
  | some .nothing => some none
  | some _ => none

/-- The settings that the layers give, if all of them fit. -/
def ofLayers? (layers : List Layer) : Option Settings :=
  if NumberSetting.all.all (fun s => (number? layers s).isSome)
      && TextSetting.all.all (fun s => (text? layers s).isSome) then
    some ⟨fun s => (number? layers s).getD s.default, fun s => (text? layers s).getD none⟩
  else none

/-- The settings that the sources give as far as each can be read, and the faults of those that
cannot. -/
def read (src : SettingsSources) : Option Settings × List SettingsFault :=
  let arguments := readArguments src.arguments
  let given := arguments.getD []
  let (file, fileFaults) := readFiles src given
  let environment := src.environment.filterMap fun v => ofVariable? v.1 v.2
  (ofLayers? [given, environment, file],
    (if arguments.isNone then [.arguments] else []) ++ fileFaults)

/-- All that is wrong with the sources, the values last. -/
def faults (src : SettingsSources) : List SettingsFault :=
  let (settings, faults) := read src
  faults ++ if settings.isNone then [.value] else []

/-- The settings from all sources, if nothing is wrong with them. -/
def load (src : SettingsSources) : Except SettingsFault Settings :=
  match (read src).1, faults src with
  | some s, [] => .ok s
  | _, [f] => .error f
  | _, _ => .error .several

/-! ## What settings mean -/

/-- The channel on which events are announced. -/
def eventsChannel (s : Settings) : String := (s.text .eventsChannel).getD "UserEvents"

/-- The name under which the service reports. -/
def serviceName (s : Settings) : String := (s.text .serviceName).getD "user-service"

/-- The address on which the service listens. -/
def bindAddress (s : Settings) : String := "0.0.0.0:" ++ (s.number .httpPort).repr

end Settings
end UserDirectory
