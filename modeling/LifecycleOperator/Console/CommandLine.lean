import LifecycleOperator.Text.Numeral

/-!
# Command line

What the operator can be told when it is started.  Every setting is an option
that takes a value, a variable of the environment, or else a default, in this
order.  The arguments are read from the left; the value of an option is checked
as soon as the next option is known, so that an argument that is not understood
hides what is wrong with the value before it.
-/

namespace LifecycleOperator

/-- What can be set. -/
inductive Setting
  | listen
  | securityUrl
  | ishtarUrl
  | username
  | password
  | httpTimeout
  | requeueSeconds
  deriving DecidableEq, Repr, Inhabited

namespace Setting

def all : List Setting :=
  [.listen, .securityUrl, .ishtarUrl, .username, .password, .httpTimeout, .requeueSeconds]

def option : Setting → String
  | .listen => "listen"
  | .securityUrl => "security-url"
  | .ishtarUrl => "ishtar-url"
  | .username => "username"
  | .password => "password"
  | .httpTimeout => "http-timeout"
  | .requeueSeconds => "requeue-seconds"

/-- The variable of a setting in the environment. -/
def environmentName : Setting → String
  | .listen => "LISTEN"
  | .securityUrl => "SECURITY_URL"
  | .ishtarUrl => "ISHTAR_URL"
  | .username => "LM_USERNAME"
  | .password => "LM_PASSWORD"
  | .httpTimeout => "HTTP_TIMEOUT"
  | .requeueSeconds => "REQUEUE_SECONDS"

/-- The value of a setting about which nothing is said. -/
def default : Setting → String
  | .listen => "0.0.0.0:9000"
  | .securityUrl => "https://nimrod:8290"
  | .ishtarUrl => "https://ishtar:8280"
  | .username => "jack"
  | .password => "jack"
  | .httpTimeout => "120"
  | .requeueSeconds => "10"

/-- Whether a setting is a number of seconds. -/
def isNumber : Setting → Bool
  | .httpTimeout | .requeueSeconds => true
  | _ => false

def ofOption? (name : String) : Option Setting :=
  all.find? fun setting => setting.option == name

end Setting

/-- What the operator is started with. -/
structure Parameters where
  listen : String
  securityUrl : String
  ishtarUrl : String
  username : String
  password : String
  /-- The timeout of calls to services, in seconds. -/
  httpTimeout : Nat
  /-- The delay before an unfinished installation is looked at again, in seconds. -/
  requeueSeconds : Nat
  deriving DecidableEq, Repr, Inhabited

/-- Why arguments are not a set of parameters. -/
inductive UsageProblem
  | unknownArgument
  | invalidValue
  | tooManyValues
  | argumentConflict
  | valueValidation
  | displayHelp
  | displayVersion
  deriving DecidableEq, Repr, Inhabited

namespace UsageProblem

def name : UsageProblem → String
  | .unknownArgument => "UnknownArgument"
  | .invalidValue => "InvalidValue"
  | .tooManyValues => "TooManyValues"
  | .argumentConflict => "ArgumentConflict"
  | .valueValidation => "ValueValidation"
  | .displayHelp => "DisplayHelp"
  | .displayVersion => "DisplayVersion"

/-- Asking for help is no mistake; anything else ends the program with an error. -/
def exitCode : UsageProblem → Nat
  | .displayHelp | .displayVersion => 0
  | _ => 2

end UsageProblem

namespace CommandLine

def seconds? (text : String) : Option Nat := Text.unsigned? 0x10000000000000000 text.toList

/-- The settings that are given, with their texts. -/
abbrev Given := List (Setting × String)

/-- Take the value of a setting down, if it can be one. -/
def given (settings : Given) (setting : Setting) (value : String) :
    Except UsageProblem Given :=
  if setting.isNumber && (seconds? value).isNone then .error .valueValidation
  else .ok (settings ++ [(setting, value)])

/-- Take the value of an option down, which may be given once only. -/
def givenOnce (settings : Given) (setting : Setting) (value : String) :
    Except UsageProblem Given :=
  if (settings.lookup setting).isSome then .error .argumentConflict
  else given settings setting value

/-- An option that was read and whose value is not checked yet. -/
structure Pending where
  setting : Setting
  /-- Its value, unless it is still to come. -/
  value : Option String
  deriving DecidableEq, Repr

/-- How far the arguments are read. -/
structure Reading where
  settings : Given
  /-- The option that was read last. -/
  pending : Option Pending
  deriving DecidableEq, Repr

namespace Reading

/-- Check the option that was read last. -/
def settle (reading : Reading) : Except UsageProblem Given :=
  match reading.pending with
  | none => .ok reading.settings
  | some ⟨_, none⟩ => .error .invalidValue
  | some ⟨setting, some value⟩ => givenOnce reading.settings setting value

/-- Read an option, which may carry its value behind an equals sign. -/
def option (reading : Reading) (name : String) (attached : Option String) :
    Except UsageProblem Reading :=
  match Setting.ofOption? name, attached with
  | some setting, none => do
      return ⟨← reading.settle, some ⟨setting, none⟩⟩
  | some setting, some value => do
      return ⟨← givenOnce (← reading.settle) setting value, none⟩
  | none, attached =>
      let information (problem : UsageProblem) : Except UsageProblem Reading := do
        if attached.isSome then throw .tooManyValues
        let _ ← reading.settle
        throw problem
      match name with
      | "help" => information .displayHelp
      | "version" => information .displayVersion
      | _ => .error .unknownArgument

def letters (reading : Reading) : List Char → Except UsageProblem Reading
  | 'h' :: _ => do
      let _ ← reading.settle
      throw .displayHelp
  | 'V' :: _ => do
      let _ ← reading.settle
      throw .displayVersion
  | _ => .error .unknownArgument

/-- Read a plain argument, which has to be the value of the option before. -/
def plain (reading : Reading) (argument : String) : Except UsageProblem Reading :=
  match reading.pending with
  | some ⟨setting, none⟩ => .ok { reading with pending := some ⟨setting, some argument⟩ }
  | _ => .error .unknownArgument

end Reading

/-- Split an option from the value that is attached to it. -/
def splitOption (option : List Char) : String × Option String :=
  let name := String.ofList (option.takeWhile (· != '='))
  match option.dropWhile (· != '=') with
  | [] => (name, none)
  | _ :: value => (name, some (String.ofList value))

/-- Read arguments; a double dash ends the options, and nothing may follow it. -/
def readArguments : Reading → List String → Except UsageProblem Given
  | reading, [] => reading.settle
  | reading, argument :: rest =>
      match argument.toList with
      | ['-', '-'] => if rest.isEmpty then reading.settle else .error .unknownArgument
      | '-' :: '-' :: characters => do
          let (name, attached) := splitOption characters
          readArguments (← reading.option name attached) rest
      | '-' :: letter :: more => do
          readArguments (← reading.letters (letter :: more)) rest
      | _ => do readArguments (← reading.plain argument) rest

/-- Add what the environment says about settings that are not given. -/
def addEnvironment (environment : String → Option String) :
    Given → List Setting → Except UsageProblem Given
  | settings, [] => .ok settings
  | settings, setting :: rest =>
      match settings.lookup setting, environment setting.environmentName with
      | none, some value => do
          addEnvironment environment (← given settings setting value) rest
      | _, _ => addEnvironment environment settings rest

def value (settings : Given) (setting : Setting) : String :=
  (settings.lookup setting).getD setting.default

def number (settings : Given) (setting : Setting) : Nat :=
  (seconds? (value settings setting)).getD 0

end CommandLine

namespace Parameters

def ofSettings (settings : CommandLine.Given) : Parameters where
  listen := CommandLine.value settings .listen
  securityUrl := CommandLine.value settings .securityUrl
  ishtarUrl := CommandLine.value settings .ishtarUrl
  username := CommandLine.value settings .username
  password := CommandLine.value settings .password
  httpTimeout := CommandLine.number settings .httpTimeout
  requeueSeconds := CommandLine.number settings .requeueSeconds

/-- Read parameters from arguments and from the environment. -/
def read (arguments : List String) (environment : String → Option String) :
    Except UsageProblem Parameters := do
  let settings ← CommandLine.readArguments ⟨[], none⟩ arguments
  return ofSettings (← CommandLine.addEnvironment environment settings Setting.all)

end Parameters

end LifecycleOperator
